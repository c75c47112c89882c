import PolicyStudio.Calendar.Written
import PolicyStudio.Decimal.Complex
import PolicyStudio.Script.ErrorKind

/-!
# Values

Programs compute with values.  Values without an identity of their own hold
their content; everything that can change, or that is told apart from its equals,
is an object, and the value is its address.
-/

namespace PolicyStudio
namespace Script

/-- The place of an object. -/
abbrev Address := Nat

/-- The types of the values that are built in. -/
inductive BasicType where
  | none
  | bool
  | int
  | float
  | complex
  | text
  | bytes
  | tuple
  | list
  | dict
  | set
  | range
  | slice
  | enumerate
  | map
  | filter
  | object
  | ellipsis
  | function
  | builtinFunction
  | method
  | methodDescriptor
  | generator
  | type
  | date
  | dateTime
  | listIterator
  | tupleIterator
  | textIterator
  | bytesIterator
  | setIterator
  | rangeIterator
  | dictKeys
  | dictValues
  | dictItems
  | dictKeyIterator
  | dictValueIterator
  | dictItemIterator
deriving Repr, DecidableEq

/-- The name of a type. -/
def BasicType.name : BasicType → String
  | .none => "NoneType"
  | .bool => "bool"
  | .int => "int"
  | .float => "float"
  | .complex => "complex"
  | .text => "str"
  | .bytes => "bytes"
  | .tuple => "tuple"
  | .list => "list"
  | .dict => "dict"
  | .set => "set"
  | .range => "range"
  | .slice => "slice"
  | .enumerate => "enumerate"
  | .map => "map"
  | .filter => "filter"
  | .object => "object"
  | .ellipsis => "ellipsis"
  | .function => "function"
  | .builtinFunction => "builtin_function_or_method"
  | .method => "method"
  | .methodDescriptor => "method_descriptor"
  | .generator => "generator"
  | .type => "type"
  | .date => "date"
  | .dateTime => "datetime"
  | .listIterator => "list_iterator"
  | .tupleIterator => "tuple_iterator"
  | .textIterator => "str_iterator"
  | .bytesIterator => "bytes_iterator"
  | .setIterator => "set_iterator"
  | .rangeIterator => "range_iterator"
  | .dictKeys => "dict_keys"
  | .dictValues => "dict_values"
  | .dictItems => "dict_items"
  | .dictKeyIterator => "dict_keyiterator"
  | .dictValueIterator => "dict_valueiterator"
  | .dictItemIterator => "dict_itemiterator"

/-- The classes of the policy language. -/
inductive PolicyClass where
  | expression
  | query
  | condition
  | junction
  | negation
  | comparison
  | nullTest
  | membership
  | predicate
  | functionCall
  | contextValue
  | column
  | subquery
  | definition
  | templates
  | auth
  | session
deriving Repr, DecidableEq

namespace PolicyClass

/-- The name of a class. -/
def name : PolicyClass → String
  | .expression => "SqlExpression"
  | .query => "SqlQuery"
  | .condition => "Condition"
  | .junction => "BoolOp"
  | .negation => "Not"
  | .comparison => "Comparison"
  | .nullTest => "NullCheck"
  | .membership => "InCondition"
  | .predicate => "RawPredicate"
  | .functionCall => "FunctionCall"
  | .contextValue => "ContextExpression"
  | .column => "Column"
  | .subquery => "Subquery"
  | .definition => "PolicyBuilder"
  | .templates => "PolicyTemplates"
  | .auth => "AuthContext"
  | .session => "SessionContext"

/-- The class directly above. -/
def parent? : PolicyClass → Option PolicyClass
  | .query | .condition | .contextValue | .column => some .expression
  | .junction | .negation | .comparison | .nullTest | .membership | .predicate | .functionCall =>
    some .condition
  | .subquery => some .query
  | .expression | .definition | .templates | .auth | .session => none

/-- The first class is the second one or stands below it. -/
def isKindOf (c above : PolicyClass) : Bool :=
  c == above || match c.parent? with
  | none => false
  | some parent => parent == above || parent.parent? == some above

end PolicyClass

/-- The functions of the policy language that stand on their own. -/
inductive PolicyFunction where
  | createPolicy
  | column
  | currentUser
  | fromTable
  | hasRole
  | alwaysTrue
  | call
  | sqlString
  | sqlTruth
  | renderValue
  | quoteIdentifier
  | quoteName
  | checkQualifiedName
deriving Repr, DecidableEq

/-- The functions that every program has. -/
inductive BuiltinFunction where
  | abs
  | all
  | any
  | buildClass
  | callable
  | chr
  | delattr
  | divmod
  | getattr
  | hash
  | hex
  | id
  | isinstance
  | issubclass
  | len
  | max
  | min
  | oct
  | ord
  | pow
  | repr
  | round
  | setattr
  | sum
deriving Repr, DecidableEq

/-- A class as a value. -/
inductive ClassValue where
  | basic (kind : BasicType)
  | error (kind : ErrorKind)
  | policy (c : PolicyClass)
deriving Repr, DecidableEq

/-- Programs have a value for every class but that of the errors that are meant for
the host, which the host may give away as an object. -/
def ClassValue.isNamed : ClassValue → Bool
  | .error kind => kind.isOwn
  | _ => true

/-- What a program computes with. -/
inductive Value where
  | none
  | bool (value : Bool)
  | int (value : Int)
  /-- A binary number.  Results that are no number are told apart by a mark; it is
  zero for numbers. -/
  | float (value : Float) (mark : Nat)
  | complex (value : Decimal.Complex)
  | text (value : String)
  | bytes (value : List UInt8)
  | ellipsis
  | date (value : Calendar.Date)
  | dateTime (value : Calendar.DateTime)
  | tuple (items : List Value)
  | range (start stop step : Int)
  | slice (start stop step : Value)
  | object (address : Address)
  | classValue (c : ClassValue) (named : c.isNamed = true)
  | builtin (function : BuiltinFunction)
  | policyFunction (function : PolicyFunction)
  /-- A function of a value, `items.append`. -/
  | method (receiver : Value) (name : String)
  /-- The printing function of a function call. -/
  | printer (frame : Address)

instance : Inhabited Value := ⟨.none⟩

/-- A binary number that is known to be a number. -/
def Value.number (x : Float) : Value := .float x 0

end Script
end PolicyStudio
