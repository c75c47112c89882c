import PolicyStudio.Script.ErrorText

/-!
# Values as text

A value has two texts: the one that shows it as a program would write it, in
which texts are quoted, and the plain one, in which they are not.  Expressions of
the policy language have their statement text as the plain one.

An object that contains itself is shown as dots where it comes back.
-/

namespace PolicyStudio
namespace Script

open Policy

/-- The class of an object of the policy language. -/
def PolicyObject.policyClass : PolicyObject → PolicyClass
  | .auth => .auth
  | .session => .session
  | .templates => .templates
  | .contextValue _ | .foreignContext _ => .contextValue
  | .column _ => .column
  | .condition c => match c with
    | .junction .. => .junction
    | .negation _ => .negation
    | .comparison .. => .comparison
    | .nullTest .. => .nullTest
    | .among .. | .within .. => .membership
    | .predicate _ => .predicate
    | .functionCall .. => .functionCall
    | .unwritten => .condition
  | .query _ => .subquery
  | .definition _ => .definition
  | .unwritten isQuery => if isQuery then .query else .expression

/-- The type of the iterator of a part of a dictionary. -/
def DictionaryPart.iteratorType : DictionaryPart → BasicType
  | .keys => .dictKeyIterator
  | .values => .dictValueIterator
  | .items => .dictItemIterator

/-- The type of a view of a part of a dictionary. -/
def DictionaryPart.viewType : DictionaryPart → BasicType
  | .keys => .dictKeys
  | .values => .dictValues
  | .items => .dictItems

/-- The type of an iteration. -/
def Iteration.basicType : Iteration → BasicType
  | .list .. => .listIterator
  | .values kind _ => kind
  | .range .. => .rangeIterator
  | .dictionary _ part .. => part.iteratorType
  | .set .. => .setIterator
  | .enumerate .. => .enumerate
  | .map .. => .map
  | .filter .. => .filter
  | .generator _ => .generator
  | .suspended .. => .generator
  | .spent kind => kind

/-- The class of an object. -/
def Object.classOf : Object → ClassValue
  | .plain => .basic .object
  | .list _ => .basic .list
  | .dictionary _ => .basic .dict
  | .set _ => .basic .set
  | .view part _ => .basic part.viewType
  | .iteration state => .basic state.basicType
  | .closure _ => .basic .function
  | .host .. => .basic .function
  | .interruptClass => .basic .type
  | .error kind .. => .error kind
  | .policy object => .policy object.policyClass
  | .frame _ => .basic .object

namespace ClassValue

/-- The name of a class. -/
def name : ClassValue → String
  | .basic kind => kind.name
  | .error kind => kind.name
  | .policy c => c.name

/-- Where the classes of the policy language are defined. -/
def home : PolicyClass → String
  | .expression | .query => "rls_playground.dsl.sql"
  | .contextValue | .auth | .session => "rls_playground.dsl.context"
  | .subquery => "rls_playground.dsl.subquery"
  | .definition => "rls_playground.dsl.policy"
  | .templates => "rls_playground.dsl.templates"
  | _ => "rls_playground.dsl.expressions"

/-- A class as it is shown. -/
def shown : ClassValue → String
  | .basic .date => "<class 'datetime.date'>"
  | .basic .dateTime => "<class 'datetime.datetime'>"
  | .basic kind => "<class '" ++ kind.name ++ "'>"
  | .error .policyDefinition => "<class 'rls_playground.dsl.sql.PolicyDefinitionError'>"
  | .error kind => "<class '" ++ kind.name ++ "'>"
  | .policy c => "<class '" ++ home c ++ "." ++ c.name ++ "'>"

end ClassValue

namespace Value

/-- The class of a value. -/
def classOf : Value → Step ClassValue
  | .none => return .basic .none
  | .bool _ => return .basic .bool
  | .int _ => return .basic .int
  | .float .. => return .basic .float
  | .complex .. => return .basic .complex
  | .text _ => return .basic .text
  | .bytes _ => return .basic .bytes
  | .ellipsis => return .basic .ellipsis
  | .date _ => return .basic .date
  | .dateTime _ => return .basic .dateTime
  | .tuple _ => return .basic .tuple
  | .range .. => return .basic .range
  | .slice .. => return .basic .slice
  | .object address => return (← Step.load address).classOf
  | .classValue .. => return .basic .type
  | .builtin _ => return .basic .builtinFunction
  | .policyFunction _ => return .basic .function
  | .method (.object address) _ => do
    match ← Step.load address with
    | .policy _ => return .basic .method
    | _ => return .basic .builtinFunction
  | .method (.classValue (.policy _) _) _ => return .basic .function
  | .method (.classValue ..) _ => return .basic .methodDescriptor
  | .method _ _ => return .basic .builtinFunction
  | .printer _ => return .basic .method

/-- The class that a value is, if it is one. -/
def class? : Value → Step (Option ClassValue)
  | .classValue c _ => return some c
  | .object address => do
    match ← Step.load address with
    | .interruptClass => return some (.error .keyboardInterrupt)
    | _ => return Option.none
  | _ => return Option.none

/-- The name of the type of a value. -/
def typeName (value : Value) : Step String :=
  return (← value.classOf).name

end Value

/-- The text of an integer, unless it is too long to be written. -/
def integerShown (n : Int) : Step String :=
  Step.ofBuilt (rendered (integerText n))

/-- A date as a program would write it. -/
def dateShown (d : Calendar.Date) : String :=
  "datetime.date(" ++ d.year.repr ++ ", " ++ d.month.repr ++ ", " ++ d.day.repr ++ ")"

/-- A distance from universal time as a program would write it. -/
def distanceShown (distance : Int) : String :=
  if distance = 0 then "datetime.timezone.utc"
  else "datetime.timezone(" ++ Calendar.durationText distance ++ ")"

/-- A point in time as a program would write it. -/
def dateTimeShown (t : Calendar.DateTime) : String :=
  let numbers := [t.date.year, t.date.month, t.date.day, t.hour, t.minute] ++
    (if t.second = 0 ∧ t.microsecond = 0 then []
     else if t.microsecond = 0 then [t.second]
     else [t.second, t.microsecond])
  let distance := t.distance.toList.map fun distance => "tzinfo=" ++ distanceShown distance
  "datetime.datetime(" ++ joined ", " (numbers.map Nat.repr ++ distance) ++ ")"

/-- The texts of the members of a sequence. -/
def shownMembers (inner : Value → Step String) (items : List Value) : Step String :=
  return joined ", " (← items.mapM inner)

/-- The text of an entry of a dictionary. -/
def shownEntry (inner : Value → Step String) (entry : Value × Value) : Step String :=
  return (← inner entry.1) ++ ": " ++ (← inner entry.2)

/-- A tuple of shown members; a single one is followed by a comma. -/
def shownTuple (inner : Value → Step String) (items : List Value) : Step String := do
  let content ← shownMembers inner items
  return "(" ++ content ++ (if items.length = 1 then ",)" else ")")

/-- What a view shows of an entry. -/
def DictionaryPart.ofEntry (part : DictionaryPart) (key value : Value) : Value :=
  match part with
  | .keys => key
  | .values => value
  | .items => .tuple [key, value]

/-- The entries that a view shows, as values. -/
def viewMembers (part : DictionaryPart) (entries : Dictionary) : List Value :=
  entries.toList.map fun entry => part.ofEntry entry.1 entry.2

/-- The dictionary at an address. -/
def entriesOf (address : Address) : Step Dictionary := do
  match ← Step.load address with
  | .dictionary entries => return entries
  | _ => return .empty

/-- An object of the policy language as it is shown. -/
def PolicyObject.shown (object : PolicyObject) : String :=
  match object with
  | .contextValue value => "ContextExpression(" ++ Text.quoted value.sql ++ ")"
  | .column c => "column(" ++ Text.quoted c.name.text ++ ")"
  | .query q => "from_(" ++ Text.quoted q.table.text ++ ")"
  | .definition policy => "createPolicy(" ++ Text.quoted policy.name.text ++ ")"
  | _ => "<" ++ ClassValue.home object.policyClass ++ "." ++ object.policyClass.name ++ " object>"

/-- An object as it is shown; `inner` shows what is inside. -/
def Object.shownWith (inner : Value → Step String) : Object → Step String
  | .plain => return "<object object>"
  | .list items => do
    let content ← shownMembers inner items.toList
    return "[" ++ content ++ "]"
  | .dictionary entries => do
    let content ← entries.toList.mapM (shownEntry inner)
    return "\x7b" ++ joined ", " content ++ "\x7d"
  | .set members => do
    if members.isEmpty then return "set()"
    let content ← shownMembers inner members.toList
    return "\x7b" ++ content ++ "\x7d"
  | .view part source => do
    let content ← shownMembers inner (viewMembers part (← entriesOf source))
    return part.viewType.name ++ "([" ++ content ++ "])"
  | .iteration state => return "<" ++ state.basicType.name ++ " object>"
  | .closure function => return "<function " ++ function.path ++ ">"
  | .host name _ => return "<function " ++ name ++ ">"
  | .interruptClass => return ClassValue.shown (.error .keyboardInterrupt)
  | .error kind arguments _ => do
    let content ← shownMembers inner arguments
    return kind.name ++ "(" ++ content ++ ")"
  | .policy (.foreignContext value) => return "ContextExpression(" ++ (← inner value) ++ ")"
  | .policy object => return object.shown
  | .frame _ => return "<frame object>"

/-- What stands for an object inside itself, if it is a container. -/
def Object.dots? : Object → Option String
  | .list _ => some "[...]"
  | .dictionary _ => some "\x7b...\x7d"
  | .set _ => some "set(...)"
  | .view .. => some "..."
  | _ => none

/-- The name of a function that every program has. -/
def BuiltinFunction.name : BuiltinFunction → String
  | .abs => "abs"
  | .all => "all"
  | .any => "any"
  | .buildClass => "__build_class__"
  | .callable => "callable"
  | .chr => "chr"
  | .delattr => "guarded_delattr"
  | .divmod => "divmod"
  | .getattr => "safer_getattr"
  | .hash => "hash"
  | .hex => "hex"
  | .id => "id"
  | .isinstance => "isinstance"
  | .issubclass => "issubclass"
  | .len => "len"
  | .max => "max"
  | .min => "min"
  | .oct => "oct"
  | .ord => "ord"
  | .pow => "pow"
  | .repr => "repr"
  | .round => "round"
  | .setattr => "guarded_setattr"
  | .sum => "sum"

/-- The name of a function of the policy language. -/
def PolicyFunction.name : PolicyFunction → String
  | .createPolicy => "createPolicy"
  | .column => "column"
  | .currentUser => "currentUser"
  | .fromTable => "from_"
  | .hasRole => "hasRole"
  | .alwaysTrue => "alwaysTrue"
  | .call => "call"
  | .sqlString => "sql_string"
  | .sqlTruth => "sql_bool"
  | .renderValue => "render_value"
  | .quoteIdentifier => "quote_ident"
  | .quoteName => "quote_name"
  | .checkQualifiedName => "check_qualified_name"

namespace Value

/-- How deep values may be nested to be shown or compared. -/
def nestingLimit : Nat := 980

/-- Both are the same object, or have the same content and no identity. -/
def isSame : Nat → Value → Value → Bool
  | 0, _, _ => false
  | depth + 1, left, right => match left, right with
    | .none, .none => true
    | .bool a, .bool b => a == b
    | .int a, .int b => a == b
    | .float a m, .float b n => a.toBits == b.toBits && m == n
    | .complex a, .complex b =>
      a.real.toBits == b.real.toBits && a.imaginary.toBits == b.imaginary.toBits
    | .text a, .text b => a == b
    | .bytes a, .bytes b => a == b
    | .ellipsis, .ellipsis => true
    | .date a, .date b => a == b
    | .dateTime a, .dateTime b => a == b
    | .tuple a, .tuple b => a.length == b.length && (a.zip b).all fun pair =>
      isSame depth pair.1 pair.2
    | .range a b c, .range d e f => a == d && b == e && c == f
    | .slice a b c, .slice d e f =>
      isSame depth a d && isSame depth b e && isSame depth c f
    | .object a, .object b => a == b
    | .classValue a _, .classValue b _ => a == b
    | .builtin a, .builtin b => a == b
    | .policyFunction a, .policyFunction b => a == b
    | _, _ => false

/-- The value as a program would write it, down to a depth; `within` holds
the containers that are being shown already. -/
def shownFrom : Nat → List Value → Value → Step String
  | 0, _, _ =>
    Step.raise .recursion "maximum recursion depth exceeded while getting the repr of an object"
  | depth + 1, within, value => match value with
    | .none => return "None"
    | .bool b => return if b then "True" else "False"
    | .int n => integerShown n
    | .float x _ => return Decimal.floatText x
    | .complex z => return z.write
    | .text s => return Text.quoted s
    | .bytes content => return Text.quotedBytes content
    | .ellipsis => return "Ellipsis"
    | .date d => return dateShown d
    | .dateTime t => return dateTimeShown t
    | .tuple items => do
      if within.any (isSame (depth + 1) value) then return "(...)"
      shownTuple (shownFrom depth (value :: within)) items
    | .range start stop step => do
      let start ← integerShown start
      let stop ← integerShown stop
      if step = 1 then return "range(" ++ start ++ ", " ++ stop ++ ")"
      return "range(" ++ start ++ ", " ++ stop ++ ", " ++ (← integerShown step) ++ ")"
    | .slice start stop step => do
      let content ← shownMembers (shownFrom depth within) [start, stop, step]
      return "slice(" ++ content ++ ")"
    | .object address => do
      let object ← Step.load address
      match object.dots? with
      | some dots =>
        if within.any (isSame (depth + 1) value) then return dots
        object.shownWith (shownFrom depth (value :: within))
      | Option.none => object.shownWith (shownFrom depth within)
    | .classValue c _ => return c.shown
    | .builtin function => return "<built-in function " ++ function.name ++ ">"
    | .policyFunction function => return "<function " ++ function.name ++ ">"
    | .method (.classValue c _) name =>
      return "<method '" ++ name ++ "' of '" ++ c.name ++ "' objects>"
    | .method receiver name => do
      return "<method " ++ name ++ " of " ++ (← receiver.typeName) ++ " object>"
    | .printer _ => return "<bound method PrintCollector._call_print>"

/-- The value as a program would write it. -/
def shown (value : Value) : Step String :=
  shownFrom nestingLimit [] value

/-- The text of an object of the policy language, if it is an expression. -/
def policyText : PolicyObject → Option (Built String)
  | .contextValue value => some (.ok value.sql)
  | .column c => some (.ok c.render)
  | .condition c => some (rendered c.write)
  | .query q => some (rendered q.write)
  | .unwritten _ => some (.error (.render .unwritten))
  | _ => Option.none

/-- The plain text of a value, down to a depth of errors within errors. -/
def textFrom : Nat → Value → Step String
  | 0, _ => Step.raise .recursion "maximum recursion depth exceeded"
  | depth + 1, value => match value with
    | .text s => return s
    | .date d => return d.write
    | .dateTime t => return t.writeWith " "
    | .object address => do
      match ← Step.load address with
      | .error .unprintable .. => Step.raise .runtime "unprintable"
      | .error kind arguments details =>
        ErrorText.write ⟨textFrom depth, Value.shown⟩ kind arguments details
      | .policy (.foreignContext value) =>
        Step.raise .type ("__str__ returned non-string (type " ++ (← value.typeName) ++ ")")
      | .policy content => match policyText content with
        | some built => Step.ofBuilt built
        | Option.none => return content.shown
      | _ => value.shown
    | _ => value.shown

/-- The plain text of a value. -/
def plainText (value : Value) : Step String :=
  textFrom nestingLimit value

end Value

end Script
end PolicyStudio
