import PolicyStudio.Policy.Statement

/-!
# Ready-made policies

Policies for common patterns: rows owned by their users, rows of one tenant,
public rows, and rows for the holders of a role.  Where a pattern covers several
commands there is one policy for each, in the order given.
-/

namespace PolicyStudio
namespace Policy
namespace Templates

/-- Read the name of a command, in either case. -/
def commandNamed (name : String) : Built Command :=
  match Command.ofName? (Text.upper name) with
  | some command => .ok command
  | none => .error (.operationUnknown (Text.upper name))

/-- Read names of commands, of which there must be one. -/
def commands (names : List String) : Built (List Command) := do
  if names.isEmpty then throw .operationsMissing
  names.mapM commandNamed

/-- A named policy on a table that governs a command. -/
def governed (name table : String) (command : Command) : Built Definition := do
  let policy ← Definition.create name
  let table ← identifier table
  return (policy.on table).governing command

/-- Rows restricted to their owner, for one command. -/
def owned (table owner : String) (command : Command) : Built Definition := do
  let policy ← governed (table ++ "_" ++ command.slug ++ "_own") table command
  let column ← Column.named owner
  return policy.allow (← column.isOwner)

/-- Rows restricted to their owner, one policy for each command. -/
def userOwned (table : String) (operations : List String) (owner : String) :
    Built (List Definition) := do
  (← commands operations).mapM (owned table owner)

/-- A restrictive policy that pins all rows to the tenant of the session. -/
def tenantIsolation (table column key : String) : Built (List Definition) := do
  let policy ← governed (table ++ "_tenant_isolation") table .all
  let column ← Column.named column
  return [policy.requireAll.allow (← column.belongsToTenant key)]

/-- Reading of the rows whose flag is set, or of every row without a flag. -/
def publicAccess (table : String) (flag : Option String) : Built Definition := do
  let condition ← match flag with
    | none => .ok alwaysTrue
    | some flag => do
      let column ← Column.named flag
      column.isPublic
  let policy ← governed (table ++ "_public_read") table .select
  return policy.whenVisible condition

/-- Rows for the holders of a role, for one command. -/
def granted (table role : String) (command : Command) : Built Definition := do
  let policy ← governed (table ++ "_" ++ role ++ "_" ++ command.slug) table command
  return policy.allow (← hasRole role)

/-- Rows for the holders of a role, one policy for each command. -/
def roleAccess (table role : String) (operations : List String) : Built (List Definition) := do
  (← commands operations).mapM (granted table role)

end Templates
end Policy
end PolicyStudio
