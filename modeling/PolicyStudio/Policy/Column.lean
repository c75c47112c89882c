import PolicyStudio.Policy.Context

/-!
# Conditions on a column

Comparing a column renders the operand once, so that an operand without a text
is refused when the condition is built and not when it is used.  Only a range
given by an expression is taken unrendered.
-/

namespace PolicyStudio
namespace Policy

open Sql

/-- Check that an operand has a text. -/
def Operand.checked (operand : Operand) : Built Operand := do
  let _ ← rendered operand.write
  return operand

namespace Column

/-- The column of a name. -/
def named (name : String) : Built Column :=
  return ⟨← identifier name⟩

/-- Compare with an operand. -/
def compare (column : Column) (comparator : Comparator) (operand : Operand) : Built Condition :=
  return .comparison column comparator (← operand.checked)

/-- The column has no value. -/
def isNull (column : Column) : Condition :=
  .nullTest column false

/-- The column has a value. -/
def isNotNull (column : Column) : Condition :=
  .nullTest column true

/-- The column equals the operand; equality with nothing is a null test. -/
def equals (column : Column) : Operand → Built Condition
  | .null => .ok column.isNull
  | operand => column.compare .equal operand

/-- The column differs from the operand. -/
def differs (column : Column) : Operand → Built Condition
  | .null => .ok column.isNotNull
  | operand => column.compare .different operand

/-- The column is one of the listed operands. -/
def isAmong (column : Column) (members : List Operand) : Built Condition := do
  if members.isEmpty then throw (.membersMissing column.name.text)
  let members ← members.mapM Operand.checked
  return .among column members

/-- The column is one of the values that an expression yields. -/
def isWithin (column : Column) (range : Operand) : Condition :=
  .within column range

/-- The row belongs to the authenticated subject. -/
def isOwner (column : Column) : Built Condition :=
  column.equals ContextValue.subject.operand

/-- The flag in the column is set. -/
def isPublic (column : Column) : Built Condition :=
  column.equals (.truth true)

/-- The column equals the tenant that the session has set. -/
def belongsToTenant (column : Column) (key : String) : Built Condition := do
  let value ← ContextValue.setting key "uuid"
  column.equals value.operand

/-- The query behind `isMemberOf`, over checked names. -/
def membershipQuery (table key member : Identifier) : ContextValue :=
  ⟨"SELECT " ++ key.render ++ " FROM " ++ table.render ++ " WHERE " ++ member.render ++ " = " ++
    ContextValue.subject.sql⟩

/-- The column occurs in `key` of those rows of `table` whose `member` is the
authenticated subject. -/
def isMemberOf (column : Column) (table key member : String) : Built Condition := do
  let key ← identifier key
  let table ← identifier table
  let member ← identifier member
  return column.isWithin (membershipQuery table key member).operand

end Column

/-- The token of the subject carries the role. -/
def hasRole (role : String) : Built Condition :=
  if role = "" then .error (.roleNameExpected (Text.quoted role))
  else .ok (.predicate ("(auth.jwt() ->> 'role') = " ++ literal role))

/-- The condition that every row meets. -/
def alwaysTrue : Condition :=
  .predicate "true"

/-- The call of a function, as a predicate or as a value. -/
def functionCall (name : String) (arguments : List Operand) : Built Condition := do
  let arguments ← arguments.mapM Operand.checked
  let name ← qualifiedName "function name" name
  return .functionCall name arguments

end Policy
end PolicyStudio
