import PolicyStudio.Script.Compare

/-!
# Reports of values

A value is reported by its content as it is now.  Values of the policy language
are reported with their statement texts, so a report also tells whether a value
can be written.
-/

namespace PolicyStudio
namespace Script

open Policy

/-- The report of an expression of the policy language. -/
def describeExpression (object : PolicyObject) (sql : Built String) : Step Description := do
  let type := object.policyClass.name
  match object with
  | .condition c =>
    let columns ← Step.ofBuilt (rendered c.listColumns)
    let parts := match c with
      | .junction _ parts => some parts.length
      | _ => none
    return .expression type sql (some (columns.map fun name => name.text)) parts none
  | .contextValue _ | .column _ | .query _ =>
    return .expression type sql none none (some object.shown)
  | _ => return .expression type sql none none none

/-- The report of a policy. -/
def describeDefinition (policy : Definition) : Description :=
  let indexed := match policy.statementWithIndexes, policy.indexedColumns with
    | .ok text, .ok columns => some (text, columns.map fun name => name.text)
    | _, _ => none
  .policy (PolicyObject.definition policy).shown policy.statement indexed

/-- The report of an object of the policy language. -/
def describeObject (object : PolicyObject) : Step Description :=
  match object with
  | .definition policy => return describeDefinition policy
  | _ => match Value.policyText object with
    | some sql => describeExpression object sql
    | none => return .other object.policyClass.name

/-- The report of a value, down to a depth of lists within lists. -/
def describeFrom : Nat → Value → Step Description
  | 0, value => return .other (← value.typeName)
  | depth + 1, value => match value with
    | .none => return .null
    | .bool b => return .truth b
    | .int n => return .integer n
    | .float x _ => return .number x
    | .text s => return .text s
    | .tuple items => return .tuple (← items.mapM (describeFrom depth))
    | .object address => do
      match ← Step.load address with
      | .list items => return .list (← items.toList.mapM (describeFrom depth))
      | .policy (.foreignContext content) =>
        return .foreign PolicyClass.contextValue.name (← describeFrom depth content)
          ("ContextExpression(" ++ (← content.shown) ++ ")")
      | .policy object => describeObject object
      | object => return .other object.classOf.name
    | _ => return .other (← value.typeName)

/-- The report of a value. -/
def describe (value : Value) : Step Description :=
  describeFrom Value.nestingLimit value

end Script
end PolicyStudio
