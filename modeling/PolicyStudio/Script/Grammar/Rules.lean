import PolicyStudio.Script.Grammar.State
import PolicyStudio.Script.Tree

/-!
# What the rules of the grammar share

The rules depend on one another; each is given the rules that it may use inside.
Expressions are read to a certain depth of nesting, for which the number of
tokens is enough.
-/

namespace PolicyStudio
namespace Script

/-- The rules that other rules use inside. -/
structure Grammar where
  /-- Any expression that is not named or starred. -/
  expression : Reader Expression
  /-- Operands joined by `or`, or anything tighter. -/
  disjunction : Reader Expression
  /-- Operands joined by operators on numbers and bits, or anything tighter. -/
  bitwise : Reader Expression
  /-- An operand with a sign, or anything tighter. -/
  factor : Reader Expression
  /-- The statements of a block. -/
  block : Reader (List Statement)

/-- The rules that read nothing. -/
def Grammar.empty : Grammar :=
  ⟨Reader.mismatch, Reader.mismatch, Reader.mismatch, Reader.mismatch, Reader.mismatch⟩

namespace Reader

/-- With which marks and keywords an expression can start. -/
def starters : List String :=
  ["(", "[", "\x7b", "-", "+", "~", "...", "not", "lambda", "await", "None", "True", "False"]

/-- A token with which an expression can start. -/
def startsExpression (token : Token) : Bool :=
  match token.kind with
  | .number | .text => true
  | _ => isName token || starters.any (isText token)

/-- A token with which an expression or a starred one can start. -/
def startsItem (token : Token) : Bool :=
  startsExpression token || isText token "*"

/-- Items as one expression: a single one is itself, others are a tuple. -/
def tupleOf : List Expression × Bool → Expression
  | ([item], false) => item
  | (items, _) => .tuple items

end Reader

end Script
end PolicyStudio
