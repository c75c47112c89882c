import PolicyStudio.Script.Tree

/-!
# What can be assigned to

Targets are read as expressions and checked afterwards.  A refusal names the part
that cannot be a target by what it is.
-/

namespace PolicyStudio
namespace Script

/-- What a target is for. -/
inductive TargetUse where
  | assignment
  | deletion
  | iteration
deriving Repr, DecidableEq

namespace Expression

/-- What an expression is, in the words of a refusal. -/
def kindName : Expression → String
  | .nothing => "None"
  | .truth value => if value then "True" else "False"
  | .integer _ | .number _ | .imaginary _ | .text _ | .bytes _ => "literal"
  | .ellipsis => "ellipsis"
  | .formatted _ => "f-string expression"
  | .name .. => "name"
  | .attribute .. => "attribute"
  | .subscript .. => "subscript"
  | .slice .. => "slice"
  | .call .. => "function call"
  | .unary .. | .binary .. | .conjunction _ | .disjunction _ => "expression"
  | .comparison .. => "comparison"
  | .conditional .. => "conditional expression"
  | .lambda .. => "lambda"
  | .list _ => "list"
  | .tuple _ => "tuple"
  | .set _ => "set display"
  | .dictionary _ => "dict literal"
  | .comprehension .list _ _ => "list comprehension"
  | .comprehension .set _ _ => "set comprehension"
  | .comprehension .generator _ _ => "generator expression"
  | .dictionaryComprehension .. => "dict comprehension"
  | .assignment .. => "named expression"
  | .starred .. => "starred"
  | .yielded .. | .yieldedFrom .. => "yield expression"
  | .refused .. => "await expression"

/-- The part of an expression that stands at its left end. -/
def leftmost : Expression → Expression
  | .binary _ left _ => left.leftmost
  | .attribute _ value _ => value.leftmost
  | .subscript value _ => value.leftmost
  | .call _ function _ => function.leftmost
  | e => e

/-- A name, an attribute or an item, which can be a target by itself. -/
def isPlace : Expression → Bool
  | .name .. | .attribute .. | .subscript .. => true
  | _ => false

mutual

/-- The part of an expression that cannot be a target. -/
def badTarget? (use : TargetUse) : Expression → Option Expression
  | .name .. | .attribute .. | .subscript .. => none
  | .list items => badTargetOf? use items
  | .tuple items => badTargetOf? use items
  | .starred line value =>
    if use = .deletion then some (.starred line value) else value.badTarget? use
  | .comparison left rest => match use, rest with
    | .iteration, (.isIn, _) :: _ => left.badTarget? use
    | .iteration, _ => none
    | _, _ => some (.comparison left rest)
  | e => some e

/-- The first part of several expressions that cannot be a target. -/
def badTargetOf? (use : TargetUse) : List Expression → Option Expression
  | [] => none
  | e :: rest => match e.badTarget? use with
    | some bad => some bad
    | none => badTargetOf? use rest

end

/-- The expression can be a target. -/
def isTarget (use : TargetUse) (e : Expression) : Bool :=
  match e with
  | .comparison .. => false
  | _ => (e.badTarget? use).isNone

end Expression

end Script
end PolicyStudio
