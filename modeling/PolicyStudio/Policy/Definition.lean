import PolicyStudio.Policy.Subquery

/-!
# Policies

A policy has a name and grows step by step into a statement: its table, its
command, the roles it is for, and up to three conditions.  `visible` restricts
the rows that can be seen or affected, `written` those that may be written, and
`allowed` is placed wherever the command needs a condition.  A later step
replaces an earlier one of the same kind.

`Definition.resolve` decides whether the definition is complete and where its
conditions go: only `USING` for reading and deleting, only `WITH CHECK` for
inserting, and both places for the other commands.
-/

namespace PolicyStudio
namespace Policy

open Sql

/-- A policy under construction. -/
structure Definition where
  name : Label
  table : Option Identifier := none
  command : Option Command := none
  visible : Option Condition := none
  allowed : Option Condition := none
  written : Option Condition := none
  roles : List Identifier := []
  restrictive : Bool := false

/-- A complete policy, with each condition in its place. -/
structure Placement where
  table : Identifier
  command : Command
  filter : Option Condition
  check : Option Condition

namespace Definition

/-- The policy of a name. -/
def create (name : String) : Built Definition :=
  return { name := ← label name }

/-- Put the policy on a table. -/
def on (policy : Definition) (table : Identifier) : Definition :=
  { policy with table := some table }

/-- Let the policy govern a command. -/
def governing (policy : Definition) (command : Command) : Definition :=
  { policy with command := some command }

/-- Let the policy apply to roles, of which there must be one. -/
def grant (policy : Definition) (roles : List Identifier) : Built Definition :=
  if roles.isEmpty then .error .rolesMissing else .ok { policy with roles := roles }

/-- The policy must pass together with all others. -/
def requireAll (policy : Definition) : Definition :=
  { policy with restrictive := true }

/-- It is enough that one permissive policy passes. -/
def permissive (policy : Definition) : Definition :=
  { policy with restrictive := false }

/-- Restrict the rows that can be seen or affected. -/
def whenVisible (policy : Definition) (condition : Condition) : Definition :=
  { policy with visible := some condition }

/-- Give the condition that is placed as the command needs it. -/
def allow (policy : Definition) (condition : Condition) : Definition :=
  { policy with allowed := some condition }

/-- Restrict the rows that may be written. -/
def checkWritten (policy : Definition) (condition : Condition) : Definition :=
  { policy with written := some condition }

/-- The places of the two conditions for a command, or the reason why a given
condition has no place. -/
def placed (policy : Definition) (command : Command) :
    Built (Option Condition × Option Condition) :=
  let filter := policy.visible <|> policy.allowed
  match command with
  | .select | .delete =>
    if policy.written.isSome then .error (.checkNotAllowed policy.name.text command)
    else .ok (filter, none)
  | .insert =>
    if policy.visible.isSome then .error (.filterNotAllowed policy.name.text)
    else .ok (none, policy.written <|> policy.allowed)
  | .update | .all => .ok (filter, policy.written <|> policy.allowed)

/-- Complete the policy. -/
def resolve (policy : Definition) : Built Placement := do
  let some table := policy.table | throw (.tableMissing policy.name.text)
  let some command := policy.command | throw (.commandMissing policy.name.text)
  let (filter, check) ← policy.placed command
  if filter.isNone && check.isNone then throw (.conditionMissing policy.name.text)
  return ⟨table, command, filter, check⟩

/-- The conditions of the complete policy, in the order of their places. -/
def conditions (policy : Definition) : Built (List Condition) := do
  let placement ← policy.resolve
  return placement.filter.toList ++ placement.check.toList

end Definition

end Policy
end PolicyStudio
