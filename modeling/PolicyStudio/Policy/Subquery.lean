import PolicyStudio.Policy.Column

/-!
# Sub-queries

A sub-query starts from a table and grows step by step; every step yields a new
one.  The columns selected last count, joins accumulate in the order in which
they are made, and filters are connected so that all of them must hold.
-/

namespace PolicyStudio
namespace Policy

open Sql

namespace Subquery

/-- The query on a table that selects nothing yet. -/
def on (table : Identifier) : Subquery :=
  .mk table [] [] none

/-- The query on the table of a name. -/
def fromTable (table : String) : Built Subquery :=
  return on (← identifier table)

/-- The table of the query. -/
def table : Subquery → Identifier
  | .mk table _ _ _ => table

/-- Select checked columns, at least one. -/
def selectColumns (query : Subquery) (columns : List Identifier) : Built Subquery :=
  match query with
  | .mk table _ joins filter =>
    if columns.isEmpty then .error (.selectEmpty table.text)
    else .ok (.mk table columns joins filter)

/-- Select columns by their names. -/
def select (query : Subquery) (columns : List String) : Built Subquery := do
  if columns.isEmpty then throw (.selectEmpty query.table.text)
  query.selectColumns (← columns.mapM identifier)

/-- Keep only the rows that also meet a condition. -/
def filter (query : Subquery) (condition : Condition) : Subquery :=
  match query with
  | .mk table columns joins none => .mk table columns joins (some condition)
  | .mk table columns joins (some earlier) =>
    .mk table columns joins (some (earlier.and [condition]))

/-- Join another table. -/
def joinTable (query : Subquery) (kind : JoinKind) (other : Identifier) (condition : Condition) :
    Subquery :=
  match query with
  | .mk table columns joins filter => .mk table columns (joins ++ [.mk kind other condition]) filter

/-- The kind of a join, by its name in either case. -/
def joinKind (name : String) : Built JoinKind :=
  match JoinKind.ofName? name with
  | some kind => .ok kind
  | none => .error (.joinKindUnknown name)

end Subquery

end Policy
end PolicyStudio
