/-!
# Programs as trees

The tree of a program, as far as programs may go.  Nodes carry the line on which
they start where a refusal has to name it.  Forms that are always refused appear
as one statement, `refused`, with the name under which they are refused.

Targets of assignments are expressions that have passed a check of their own, so
there is one type for both.
-/

namespace PolicyStudio
namespace Script

/-- The operators that join two operands. -/
inductive BinaryOperator where
  | add
  | subtract
  | multiply
  | matrixMultiply
  | divide
  | modulo
  | power
  | shiftLeft
  | shiftRight
  | bitOr
  | bitXor
  | bitAnd
  | floorDivide
deriving Repr, DecidableEq

/-- The operators before one operand. -/
inductive UnaryOperator where
  | invert
  | negate
  | plus
  | minus
deriving Repr, DecidableEq

/-- The operators of a comparison. -/
inductive ComparisonOperator where
  | equal
  | notEqual
  | less
  | lessEqual
  | greater
  | greaterEqual
  | isSame
  | isNotSame
  | isIn
  | isNotIn
deriving Repr, DecidableEq

/-- How a value is turned into text inside a formatted text. -/
inductive Conversion where
  | none
  | text
  | quoted
  | ascii
deriving Repr, DecidableEq

/-- What a comprehension builds. -/
inductive ComprehensionKind where
  | list
  | set
  | generator
deriving Repr, DecidableEq

mutual

/-- An expression. -/
inductive Expression where
  | nothing
  | truth (value : Bool)
  | integer (value : Int)
  | number (value : Float)
  | imaginary (value : Float)
  | text (value : String)
  | bytes (value : List UInt8)
  | ellipsis
  | formatted (parts : List FormattedPart)
  | name (line : Nat) (name : String)
  | attribute (line : Nat) (value : Expression) (name : String)
  | subscript (value index : Expression)
  | slice (start stop step : Option Expression)
  | call (line : Nat) (function : Expression) (arguments : List Argument)
  | unary (operator : UnaryOperator) (operand : Expression)
  | binary (operator : BinaryOperator) (left right : Expression)
  | conjunction (operands : List Expression)
  | disjunction (operands : List Expression)
  | comparison (left : Expression) (rest : List (ComparisonOperator × Expression))
  | conditional (test yes no : Expression)
  | lambda (line : Nat) (parameters : Parameters) (body : Expression)
  | list (items : List Expression)
  | tuple (items : List Expression)
  | set (items : List Expression)
  | dictionary (entries : List DictionaryEntry)
  | comprehension (kind : ComprehensionKind) (element : Expression) (clauses : List Clause)
  | dictionaryComprehension (key value : Expression) (clauses : List Clause)
  | assignment (line : Nat) (name : String) (value : Expression)
  | starred (line : Nat) (value : Expression)
  | yielded (line : Nat) (value : Option Expression)
  | yieldedFrom (line : Nat) (value : Expression)
  | refused (line : Nat) (form : String)

/-- A piece of a formatted text. -/
inductive FormattedPart where
  | literal (text : String)
  | field (value : Expression) (conversion : Conversion) (format : Option (List FormattedPart))

/-- An argument of a call. -/
inductive Argument where
  | positional (value : Expression)
  | spread (value : Expression)
  | named (line : Nat) (name : String) (value : Expression)
  | spreadNamed (value : Expression)

/-- An entry of a dictionary display; without a key its value is merged in. -/
inductive DictionaryEntry where
  | mk (key : Option Expression) (value : Expression)

/-- One `for` of a comprehension with the tests that follow it. -/
inductive Clause where
  | mk (target iterable : Expression) (tests : List Expression) (isAsync : Bool)

/-- A parameter with the line of its name. -/
inductive Parameter where
  | mk (line : Nat) (name : String) (hint : Option Expression)

/-- The parameters of a function.  Default values belong to the last positional
parameters; each keyword parameter has or lacks its own. -/
inductive Parameters where
  | mk (positionalOnly positional : List Parameter) (rest : Option Parameter)
    (keywordOnly : List Parameter) (keywordRest : Option Parameter)
    (defaults : List Expression) (keywordDefaults : List (Option Expression))

end

instance : Inhabited Expression := ⟨.nothing⟩
instance : Inhabited Parameters := ⟨.mk [] [] none [] none [] []⟩

mutual

/-- The expression is known before the program runs: it is a literal, or made from
such by operators. -/
def Expression.isConstant : Expression → Bool
  | .nothing | .truth _ | .integer _ | .number _ | .imaginary _ | .text _ | .bytes _ | .ellipsis =>
    true
  | .unary _ operand => operand.isConstant
  | .binary _ left right => left.isConstant && right.isConstant
  | .tuple items => areConstant items
  | _ => false

/-- All expressions are known before the program runs. -/
def areConstant : List Expression → Bool
  | [] => true
  | item :: rest => item.isConstant && areConstant rest

end

/-- A name brought in by an import. -/
structure Alias where
  line : Nat
  name : String
  rename : Option String

mutual

/-- A statement. -/
inductive Statement where
  | expression (value : Expression)
  | assign (targets : List Expression) (value : Expression)
  | update (line : Nat) (target : Expression) (operator : BinaryOperator) (value : Expression)
  | delete (targets : List Expression)
  | pass
  | break (line : Nat)
  | continue (line : Nat)
  | return (value : Option Expression)
  | raise (error cause : Option Expression)
  | assert (line : Nat) (test : Expression) (message : Option Expression)
  | branch (test : Expression) (body alternative : List Statement)
  | loop (line : Nat) (test : Expression) (body alternative : List Statement)
  | iterate (line : Nat) (target iterable : Expression) (body alternative : List Statement)
  | attempt (line : Nat) (body : List Statement) (handlers : List Handler)
    (alternative final : List Statement)
  | function (line column : Nat) (name : String) (parameters : Parameters)
    (body : List Statement) (decorators : List Expression) (result : Option Expression)
  | classDefinition (line : Nat) (name : String) (bases : List Argument) (body : List Statement)
    (decorators : List Expression)
  | importNames (line : Nat) (names : List Alias)
  | importFrom (line : Nat) (names : List Alias)
  | global (line : Nat) (names : List String)
  | scoped (line : Nat) (items : List (Expression × Option Expression)) (body : List Statement)
  /-- A form that is always refused, by its name. -/
  | refused (line : Nat) (form : String)

/-- A handler of an attempt; without a class it handles every error. -/
inductive Handler where
  | mk (line : Nat) (error : Option Expression) (name : Option String) (body : List Statement)

end

instance : Inhabited Statement := ⟨.pass⟩

/-- The body of a program. -/
abbrev Program := List Statement

end Script
end PolicyStudio
