import PolicyStudio.Decimal.Layout
import PolicyStudio.Policy.Condition

/-!
# The text of a condition

Rendering is structural.  A junction writes its parts with its word between
them, and puts parentheses around a part that is a junction itself, so that the
grouping of the tree survives.  A query used as a value stands in parentheses.

Rendering fails only where a sub-query selects nothing, where an expression has
no text, or where an integer is too long; the first such place in reading order
decides.  A list of operands fails, too, if one of them is no text.  Expressions are
only written down to a depth.
-/

namespace PolicyStudio
namespace Policy

open Sql

/-- Texts with a separator between them. -/
def joined (separator : String) : List String → String
  | [] => ""
  | [text] => text
  | text :: rest => text ++ separator ++ joined separator rest

/-- A text in parentheses. -/
def parenthesized (text : String) : String :=
  "(" ++ text ++ ")"

/-- The condition is a junction. -/
def Condition.isJunction : Condition → Bool
  | .junction .. => true
  | _ => false

/-- The first operand that is no text, from a position on: where it is, and the name of
its type. -/
def firstForeign? (position : Nat) : List Operand → Option (Nat × String)
  | [] => none
  | .foreign _ type :: _ => some (position, type)
  | _ :: rest => firstForeign? (position + 1) rest

mutual

/-- The text of a condition. -/
def Condition.render : Condition → Except RenderError String
  | .junction connective parts => do
    let texts ← renderParts parts
    return joined (" " ++ connective.word ++ " ") texts
  | .negation inner => do
    let text ← inner.render
    return "NOT (" ++ text ++ ")"
  | .comparison column comparator operand => do
    let text ← operand.render
    return column.render ++ " " ++ comparator.sign ++ " " ++ text
  | .nullTest column negated =>
    .ok (column.render ++ (if negated then " IS NOT NULL" else " IS NULL"))
  | .among column members => do
    let texts ← renderList members
    return column.render ++ " IN (" ++ joined ", " texts ++ ")"
  | .within column (.query query) => do
    let text ← query.render
    return column.render ++ " IN (" ++ text ++ ")"
  | .within column range => do
    let text ← range.render
    return column.render ++ " IN (" ++ text ++ ")"
  | .predicate sql => .ok sql
  | .functionCall name arguments => do
    let texts ← renderList arguments
    return name.text ++ "(" ++ joined ", " texts ++ ")"
  | .unwritten => .error .unwritten

/-- The texts of the parts of a junction. -/
def renderParts : List Condition → Except RenderError (List String)
  | [] => .ok []
  | part :: rest => do
    let text ← part.render
    let texts ← renderParts rest
    return (if part.isJunction then parenthesized text else text) :: texts

/-- The text of an operand where a value is expected. -/
def Operand.render : Operand → Except RenderError String
  | .null => .ok "NULL"
  | .truth value => .ok (Sql.truth value)
  | .integer value => integerText value
  | .number value => .ok (Decimal.floatText value)
  | .text value => .ok (literal value)
  | .date value => .ok ("'" ++ value.write ++ "'")
  | .dateTime value => .ok ("'" ++ value.write ++ "'")
  | .context sql => .ok sql
  | .foreign shown _ => .ok shown
  | .column column => .ok column.render
  | .condition condition => condition.render
  | .query query => do
    let text ← query.render
    return parenthesized text
  | .unwritten _ => .error .unwritten

/-- The texts of the operands of a list, all of which must be texts. -/
def renderList (operands : List Operand) : Except RenderError (List String) := do
  let texts ← renderOperands operands
  match firstForeign? 0 operands with
  | some (position, type) => throw (.textExpected position type)
  | none => return texts

/-- The texts of several operands. -/
def renderOperands : List Operand → Except RenderError (List String)
  | [] => .ok []
  | operand :: rest => do
    let text ← operand.render
    let texts ← renderOperands rest
    return text :: texts

/-- The text of a query. -/
def Subquery.render : Subquery → Except RenderError String
  | .mk table columns joins filter =>
    if columns.isEmpty then .error (.selectMissing table.text)
    else do
      let clauses ← renderJoins joins
      let condition ← renderFilter filter
      return "SELECT " ++ joined ", " (columns.map Identifier.render) ++ " FROM " ++ table.render ++
        clauses ++ condition

/-- The text of the joins, each with a space before it. -/
def renderJoins : List Join → Except RenderError String
  | [] => .ok ""
  | join :: rest => do
    let clause ← join.render
    let clauses ← renderJoins rest
    return " " ++ clause ++ clauses

/-- The text of one join. -/
def Join.render : Join → Except RenderError String
  | .mk kind table condition => do
    let text ← condition.render
    return kind.keyword ++ " " ++ table.render ++ " ON " ++ text

/-- The text of the filter of a query, with a space before it. -/
def renderFilter : Option Condition → Except RenderError String
  | none => .ok ""
  | some condition => do
    let text ← condition.render
    return " WHERE " ++ text

end

/-! ## Depth -/

mutual

/-- How deep expressions are nested in a condition. -/
def Condition.depth : Condition → Nat
  | .junction _ parts => 1 + depthOfParts parts
  | .negation inner => 1 + inner.depth
  | .comparison _ _ operand => 1 + operand.depth
  | .among _ members => 2 + depthOfOperands members
  | .within _ range => 1 + range.depth
  | .functionCall _ arguments => 2 + depthOfOperands arguments
  | .nullTest .. | .predicate _ | .unwritten => 1

/-- How deep the deepest part is. -/
def depthOfParts : List Condition → Nat
  | [] => 0
  | part :: rest => max part.depth (depthOfParts rest)

/-- How deep expressions are nested in an operand. -/
def Operand.depth : Operand → Nat
  | .condition condition => 1 + condition.depth
  | .query query => 1 + query.depth
  | _ => 1

/-- How deep the deepest operand is. -/
def depthOfOperands : List Operand → Nat
  | [] => 0
  | operand :: rest => max operand.depth (depthOfOperands rest)

/-- How deep expressions are nested in a query. -/
def Subquery.depth : Subquery → Nat
  | .mk _ _ joins filter => 1 + max (depthOfJoins joins) (depthOfFilter filter)

/-- How deep the deepest join is. -/
def depthOfJoins : List Join → Nat
  | [] => 0
  | join :: rest => max join.depth (depthOfJoins rest)

/-- How deep the condition of a join is. -/
def Join.depth : Join → Nat
  | .mk _ _ condition => condition.depth

/-- How deep a filter is. -/
def depthOfFilter : Option Condition → Nat
  | none => 0
  | some condition => condition.depth

end

/-- Expressions that are nested deeper are not written. -/
def depthLimit : Nat := 985

/-- Write an expression unless it is nested too deep. -/
def withinDepth {α : Type} (depth : Nat) (written : Except RenderError α) : Except RenderError α :=
  if depthLimit < depth then .error .tooDeep else written

/-- The text of a condition that is not nested too deep. -/
def Condition.write (condition : Condition) : Except RenderError String :=
  withinDepth condition.depth condition.render

/-- The text of an operand that is not nested too deep. -/
def Operand.write (operand : Operand) : Except RenderError String :=
  withinDepth operand.depth operand.render

/-- The text of a query that is not nested too deep. -/
def Subquery.write (query : Subquery) : Except RenderError String :=
  withinDepth query.depth query.render

/-! ## Columns -/

mutual

/-- The columns a condition filters on, from left to right.  Columns that occur
only in operands are not among them. -/
def Condition.columns : Condition → List Identifier
  | .junction _ parts => columnsOfParts parts
  | .negation inner => inner.columns
  | .comparison column _ _ => [column.name]
  | .nullTest column _ => [column.name]
  | .among column _ => [column.name]
  | .within column _ => [column.name]
  | .predicate _ => []
  | .functionCall _ _ => []
  | .unwritten => []

/-- The columns of the parts of a junction. -/
def columnsOfParts : List Condition → List Identifier
  | [] => []
  | part :: rest => part.columns ++ columnsOfParts rest

end

mutual

/-- How deep a condition is searched for columns. -/
def Condition.columnDepth : Condition → Nat
  | .junction _ parts => 2 + columnDepthOfParts parts
  | .negation inner => 1 + inner.columnDepth
  | _ => 1

/-- How deep the deepest part is searched for columns. -/
def columnDepthOfParts : List Condition → Nat
  | [] => 0
  | part :: rest => max part.columnDepth (columnDepthOfParts rest)

end

/-- The columns of a condition that is not nested too deep. -/
def Condition.listColumns (condition : Condition) : Except RenderError (List Identifier) :=
  withinDepth condition.columnDepth (.ok condition.columns)

/-- The parts a condition brings into a junction: its own parts when it is a
junction of the same kind, and otherwise itself. -/
def Condition.partsFor (connective : Connective) : Condition → List Condition
  | .junction own parts => if own = connective then parts else [.junction own parts]
  | condition => [condition]

/-- Connect conditions; junctions of the same kind are merged into one. -/
def Condition.connect (connective : Connective) (conditions : List Condition) : Condition :=
  .junction connective (conditions.flatMap (Condition.partsFor connective))

/-- The condition together with others, all of which must hold. -/
def Condition.and (first : Condition) (others : List Condition) : Condition :=
  .connect .all (first :: others)

/-- The condition together with others, one of which must hold. -/
def Condition.or (first : Condition) (others : List Condition) : Condition :=
  .connect .any (first :: others)

/-- The opposite condition. -/
def Condition.not (condition : Condition) : Condition :=
  .negation condition

end Policy
end PolicyStudio
