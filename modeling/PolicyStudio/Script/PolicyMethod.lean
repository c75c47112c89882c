import PolicyStudio.Script.Interpreter

/-!
# The vocabulary of the policy language

Which methods and which readable fields the objects of the policy language have,
and which parameters their functions take.  What the functions do is not said
here.
-/

namespace PolicyStudio
namespace Script

open Policy

/-- The methods of the policy language. -/
inductive PolicyMethod where
  | render
  | columns
  | and
  | or
  | not
  | compare (comparator : Comparator)
  | isIn
  | isNull
  | isNotNull
  | isOwner
  | isPublic
  | belongsToTenant
  | isMemberOf
  | select
  | filter
  | join
  | on
  | govern (command : Command)
  | grant
  | requireAll
  | permissive
  | whenVisible
  | allow
  | checkWritten
  | conditions
  | indexedColumns
  | statement
  | subject
  | subjectRole
  | token
  | setting
  | userOwned
  | tenantIsolation
  | publicAccess
  | roleAccess
deriving Repr, DecidableEq

namespace PolicyMethod

/-- The methods of a column by name. -/
def ofColumn? : String → Option PolicyMethod
  | "eq" => some (.compare .equal)
  | "neq" => some (.compare .different)
  | "gt" => some (.compare .greater)
  | "gte" => some (.compare .atLeast)
  | "lt" => some (.compare .less)
  | "lte" => some (.compare .atMost)
  | "like" => some (.compare .like)
  | "ilike" => some (.compare .likeAnyCase)
  | "in_" => some .isIn
  | "isNull" => some .isNull
  | "isNotNull" => some .isNotNull
  | "isOwner" => some .isOwner
  | "isPublic" => some .isPublic
  | "belongsToTenant" => some .belongsToTenant
  | "isMemberOf" => some .isMemberOf
  | _ => none

/-- The methods of a condition by name. -/
def ofCondition? : String → Option PolicyMethod
  | "columns" => some .columns
  | "and_" => some .and
  | "or_" => some .or
  | "not_" => some .not
  | _ => none

/-- The methods of a sub-query by name. -/
def ofSubquery? : String → Option PolicyMethod
  | "select" => some .select
  | "where" => some .filter
  | "join" => some .join
  | _ => none

/-- The methods of a policy by name. -/
def ofDefinition? : String → Option PolicyMethod
  | "on" => some .on
  | "read" => some (.govern .select)
  | "write" => some (.govern .insert)
  | "update" => some (.govern .update)
  | "delete" => some (.govern .delete)
  | "all" => some (.govern .all)
  | "to" => some .grant
  | "requireAll" => some .requireAll
  | "permissive" => some .permissive
  | "when" => some .whenVisible
  | "allow" => some .allow
  | "withCheck" => some .checkWritten
  | "conditions" => some .conditions
  | "indexedColumns" => some .indexedColumns
  | "toSQL" => some .statement
  | _ => none

/-- The methods of the ready-made policies by name. -/
def ofTemplates? : String → Option PolicyMethod
  | "userOwned" => some .userOwned
  | "tenantIsolation" => some .tenantIsolation
  | "publicAccess" => some .publicAccess
  | "roleAccess" => some .roleAccess
  | _ => none

/-- The method that a class has under a name. -/
def of? (c : PolicyClass) (name : String) : Option PolicyMethod :=
  let own := match c with
    | .column => ofColumn? name
    | .subquery => ofSubquery? name
    | .definition => ofDefinition? name
    | .templates => ofTemplates? name
    | .auth => match name with
      | "uid" => some .subject
      | "role" => some .subjectRole
      | "jwt" => some .token
      | _ => none
    | .session => if name = "get" then some .setting else none
    | _ => if c.isKindOf .condition then ofCondition? name else none
  if c.isKindOf .expression ∧ name = "render" then some .render else own

/-- The class that gives the method its full name. -/
def owner (c : PolicyClass) : PolicyMethod → PolicyClass
  | .and | .or | .not => .condition
  | .columns => match c with
    | .predicate | .functionCall => .condition
    | _ => c
  | .render => match c with
    | .condition | .query => .expression
    | _ => c
  | _ => c

/-- The parameters after the object itself, and the default values of the last
ones. -/
def parameters : PolicyMethod → List String × Option String × List Value
  | .and | .or => ([], some "others", [])
  | .compare .like | .compare .likeAnyCase => (["pattern"], none, [])
  | .compare _ => (["value"], none, [])
  | .isIn => (["values"], none, [])
  | .belongsToTenant => (["sessionKey"], none, [.text "app.current_tenant_id"])
  | .isMemberOf => (["table", "key", "memberColumn"], none, [.text "user_id"])
  | .select => ([], some "columns", [])
  | .filter | .whenVisible | .allow | .checkWritten => (["condition"], none, [])
  | .join => (["table", "on", "kind"], none, [.text "INNER"])
  | .on => (["table"], none, [])
  | .grant => ([], some "roles", [])
  | .statement => (["includeIndexes"], none, [.bool false])
  | .token => (["claim"], none, [.none])
  | .setting => (["key", "type"], none, [.text "text"])
  | .userOwned => (["table", "operations", "ownerColumn"], none, [.text "ALL", .text "user_id"])
  | .tenantIsolation =>
    (["table", "tenantColumn", "sessionKey"], none,
      [.text "tenant_id", .text "app.current_tenant_id"])
  | .publicAccess => (["table", "visibilityColumn"], none, [.text "is_public"])
  | .roleAccess => (["table", "role", "operations"], none, [.text "ALL"])
  | _ => ([], none, [])

end PolicyMethod

/-- Default values for the last of some parameters. -/
def alignDefaults (names : List String) (values : List Value) : List (String × Value) :=
  (names.drop (names.length - values.length)).zip values

/-- The parameters of a method, the object first. -/
def PolicyMethod.signature (method : PolicyMethod) : Signature × List (String × Value) :=
  let (names, rest, defaults) := method.parameters
  ({ positional := "self" :: names, rest := rest }, alignDefaults names defaults)

/-- The parameters of a function. -/
def PolicyFunction.signature : PolicyFunction → Signature
  | .createPolicy | .column => { positional := ["name"] }
  | .currentUser | .alwaysTrue => {}
  | .fromTable => { positional := ["table"] }
  | .hasRole => { positional := ["role"] }
  | .call => { positional := ["name"], rest := some "args" }
  | .sqlString | .sqlTruth | .renderValue => { positional := ["value"] }
  | .quoteIdentifier | .quoteName => { positional := ["name"] }
  | .checkQualifiedName => { positional := ["name", "what"] }

/-- The parameters that make an object of a class, if it takes any. -/
def PolicyClass.parameters? : PolicyClass → Option (List String × List Value)
  | .column | .definition => some (["name"], [])
  | .contextValue => some (["sql"], [])
  | .subquery => some (["table"], [])
  | .junction => some (["op", "parts"], [])
  | .negation => some (["inner"], [])
  | .comparison => some (["column", "op", "value"], [])
  | .nullTest => some (["column", "negated"], [.bool false])
  | .membership => some (["column", "values"], [])
  | .predicate => some (["sql"], [])
  | .functionCall => some (["name", "args"], [])
  | _ => none

end Script
end PolicyStudio
