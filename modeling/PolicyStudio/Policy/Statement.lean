import PolicyStudio.Text.Case
import PolicyStudio.Policy.Definition

/-!
# Statements

The text of a complete policy: one statement that creates it, and on request one
more for every column worth an index.  The name of an index is made from the
names of its table and column, with everything but small letters, digits and
underscores replaced.
-/

namespace PolicyStudio
namespace Policy

open Sql

/-- Replace each run of characters that are not small letters, digits or
underscores by one underscore. -/
def slugFrom (inRun : Bool) : List Char → List Char
  | [] => []
  | c :: rest =>
    if continuesBare c then c :: slugFrom false rest
    else if inRun then slugFrom true rest
    else '_' :: slugFrom true rest

/-- The part of an index name for a table or a column. -/
def slug (name : String) : String :=
  String.ofList (slugFrom false (Text.lower name).toList)

theorem continuesBare_of_mem_slugFrom {inRun : Bool} {cs : List Char} :
    ∀ c ∈ slugFrom inRun cs, continuesBare c = true := by
  intro c member
  fun_induction slugFrom inRun cs with
  | case1 => cases member
  | case2 _ first rest bare inductionHypothesis =>
    rcases List.mem_cons.mp member with equal | member
    · exact equal ▸ bare
    · exact inductionHypothesis member
  | case3 _ _ _ inductionHypothesis => exact inductionHypothesis member
  | case4 _ _ _ _ _ inductionHypothesis =>
    rcases List.mem_cons.mp member with equal | member
    · exact equal ▸ by decide
    · exact inductionHypothesis member

/-- Only small letters, digits and underscores are left in a slug. -/
theorem continuesBare_of_mem_slug {name : String} :
    ∀ c ∈ (slug name).toList, continuesBare c = true := by
  rw [slug, String.toList_ofList]
  exact continuesBare_of_mem_slugFrom

/-- The members of a list without those that occurred before. -/
def distinct {α : Type} [BEq α] (seen : List α) : List α → List α
  | [] => []
  | x :: rest => if seen.contains x then distinct seen rest else x :: distinct (x :: seen) rest

namespace Definition

/-- The columns worth an index, by first use.  A column that is named with its
table does not count. -/
def indexedColumns (policy : Definition) : Built (List Identifier) := do
  let conditions ← policy.conditions
  let columns ← conditions.mapM fun condition => rendered condition.listColumns
  return distinct [] (columns.flatten.filter Identifier.isSimple)

end Definition

/-- The name of the index on a column. -/
def indexName (table column : Identifier) : String :=
  "idx_" ++ slug table.text ++ "_" ++ slug column.text

/-- The statement for the index on a column, on a line of its own. -/
def indexStatement (table column : Identifier) : String :=
  "\nCREATE INDEX IF NOT EXISTS " ++ indexName table column ++ " ON " ++ table.render ++ " (" ++
    column.render ++ ");"

/-- A clause of the statement, on a line of its own. -/
def clause (keyword : String) : Option String → String
  | none => ""
  | some text => "\n  " ++ keyword ++ " (" ++ text ++ ")"

/-- The clause that names the roles; without roles there is none. -/
def rolesClause (roles : List Identifier) : String :=
  if roles.isEmpty then "" else "\n  TO " ++ joined ", " (roles.map Identifier.render)

/-- Render a condition if there is one. -/
def renderOptional : Option Condition → Built (Option String)
  | none => .ok none
  | some condition => do
    let text ← rendered condition.write
    return some text

namespace Definition

/-- The statement that creates the policy. -/
def statement (policy : Definition) : Built String := do
  let placement ← policy.resolve
  let filter ← renderOptional placement.filter
  let check ← renderOptional placement.check
  return "CREATE POLICY " ++ policy.name.render ++ " ON " ++ placement.table.render ++
    "\n  AS " ++ (if policy.restrictive then "RESTRICTIVE" else "PERMISSIVE") ++
    "\n  FOR " ++ placement.command.name ++ rolesClause policy.roles ++ clause "USING" filter ++
    clause "WITH CHECK" check ++ ";"

/-- The statement, followed by one for each index. -/
def statementWithIndexes (policy : Definition) : Built String := do
  let placement ← policy.resolve
  let columns ← policy.indexedColumns
  let text ← policy.statement
  return text ++ String.join (columns.map (indexStatement placement.table))

end Definition

end Policy
end PolicyStudio
