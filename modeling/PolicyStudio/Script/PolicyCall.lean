import PolicyStudio.Script.PolicyMethod

/-!
# Calling the policy language

The policy language takes texts, operands and conditions; programs hand it any
value.  Here the arguments are checked in the order in which the language looks
at them, turned into what it takes, and its objects are handed back as values.

A wrong argument is shown in the refusal just as the program wrote it.
-/

namespace PolicyStudio
namespace Script

open Policy

namespace PolicyCall

open Step

/-- The argument of a parameter. -/
def argument (bound : List (String × Bound Value)) (name : String) : Value :=
  match bound.lookup name with
  | some (.one value) => value
  | _ => .none

/-- The arguments that a parameter gathers. -/
def arguments (bound : List (String × Bound Value)) (name : String) : List Value :=
  match bound.lookup name with
  | some (.many values) => values
  | _ => []

/-- A value as an identifier. -/
def identifierOf (value : Value) : Step Sql.Identifier := do
  match value with
  | .text s => ofBuilt (identifier s)
  | _ => raiseDefinition (.identifierBlank (← value.shown))

/-- A value as the name of a policy. -/
def labelOf (value : Value) : Step Sql.Label := do
  match value with
  | .text s => ofBuilt (label s)
  | _ => raiseDefinition (.labelBlank (← value.shown))

/-- A value as the name of a function or a setting. -/
def qualifiedOf (purpose : String) (value : Value) : Step Sql.QualifiedName := do
  match value with
  | .text s => ofBuilt (qualifiedName purpose s)
  | _ => raiseDefinition (.nameInvalid purpose (← value.shown))

/-- An object of the policy language as an operand, if it is an expression. -/
def operandOfObject? : PolicyObject → Option Operand
  | .contextValue value => some value.operand
  | .column c => some (.column c)
  | .condition c => some (.condition c)
  | .query q => some (.query q)
  | .unwritten isQuery => some (.unwritten isQuery)
  | _ => none

/-- What a value of the request was given that is no text. -/
def foreignOf? (value : Value) : Step (Option Value) := do
  match value with
  | .object address => do
    match ← load address with
    | .policy (.foreignContext content) => return some content
    | _ => return none
  | _ => return none

/-- A value as an expression of the policy language. -/
def expressionOf? (value : Value) : Step (Option Operand) := do
  match value with
  | .object address => do
    match ← load address with
    | .policy (.foreignContext content) =>
      return some (.foreign (← content.plainText) (← content.typeName))
    | .policy object => return operandOfObject? object
    | _ => return none
  | _ => return none

/-- A value as an operand. -/
def operandOf (value : Value) : Step Operand := do
  match value with
  | .none => return .null
  | .bool b => return .truth b
  | .int n => return .integer n
  | .float x _ => return .number x
  | .text s => return .text s
  | .date d => return .date d
  | .dateTime t => return .dateTime t
  | _ => match ← expressionOf? value with
    | some operand => return operand
    | none => raiseDefinition (.operandUnsupported (← value.typeName))

/-- A value as an operand that has a text. -/
def checkedOperandOf (value : Value) : Step Operand := do
  ofBuilt (← operandOf value).checked

/-- A value as a condition. -/
def conditionOf? (value : Value) : Step (Option Condition) := do
  match value with
  | .object address => do
    match ← load address with
    | .policy (.condition c) => return some c
    | _ => return none
  | _ => return none

/-- A value as a condition, refused by what `refusal` makes of its type. -/
def conditionOr (value : Value) (refusal : String → DefinitionError) : Step Condition := do
  match ← conditionOf? value with
  | some c => return c
  | none => raiseDefinition (refusal (← value.typeName))

/-- A new condition as a value. -/
def newCondition (c : Condition) : Step Value :=
  newPolicy (.condition c)

/-- A new context value. -/
def newContext (value : ContextValue) : Step Value :=
  newPolicy (.contextValue value)

/-- A new policy. -/
def newDefinition (policy : Definition) : Step Value :=
  newPolicy (.definition policy)

/-- An operand as a value. -/
def valueOfOperand : Operand → Step Value
  | .null => return .none
  | .truth b => return .bool b
  | .integer n => return .int n
  | .number x => newFloat x
  | .text s => return .text s
  | .date d => return .date d
  | .dateTime t => return .dateTime t
  | .context sql => newContext ⟨sql⟩
  | .foreign shown _ => newPolicy (.foreignContext (.text shown))
  | .column c => newPolicy (.column c)
  | .condition c => newCondition c
  | .query q => newPolicy (.query q)
  | .unwritten isQuery => newPolicy (.unwritten isQuery)

/-- Connect a condition with others. -/
def connect (operation : String) (connective : Connective) (first : Condition)
    (others : List Value) : Step Value := do
  if others.isEmpty then raiseDefinition (.conditionsMissing operation)
  let others ← others.mapM fun value => conditionOr value (.conditionsExpected operation)
  newCondition (.connect connective (first :: others))

/-- Compare a column with a value. -/
def compare (column : Column) (comparator : Comparator) (value : Value) : Step Value := do
  let pattern := fun operation => do
    match value with
    | .text _ => return ()
    | _ => raiseDefinition (.patternExpected operation (← value.typeName))
  match comparator, value with
  | .equal, .none => newCondition column.isNull
  | .different, .none => newCondition column.isNotNull
  | _, _ =>
    if comparator = .like then pattern "like"
    if comparator = .likeAnyCase then pattern "ilike"
    let operand ← checkedOperandOf value
    newCondition (← ofBuilt (column.compare comparator operand))

/-- Membership in a list of values or in what an expression yields. -/
def isIn (self : Interpreter) (column : Column) (value : Value) : Step Value := do
  match ← expressionOf? value with
  | some range => newCondition (column.isWithin range)
  | none =>
    let isText := match value with
      | .text _ | .bytes _ => true
      | _ => false
    if isText || !(← isIterable value) then
      raiseDefinition (.membersExpected column.name.text)
    let members ← collect self value
    if members.isEmpty then raiseDefinition (.membersMissing column.name.text)
    let members ← members.mapM checkedOperandOf
    newCondition (← ofBuilt (column.isAmong members))

/-- A setting of the session. -/
def setting (key type : Value) : Step ContextValue := do
  let name ← qualifiedOf "session key" key
  let name ← ofBuilt (ContextValue.settingKey name.text)
  if !(← type.isSet) then type.requireHashable
  let known := match type with
    | .text s => SettingType.ofName? s
    | _ => none
  match known with
  | some type => return ContextValue.settingOf name type
  | none => raiseDefinition (.settingTypeUnknown (← type.shown))

/-- The condition that a role is held. -/
def hasRole (value : Value) : Step Condition := do
  match value with
  | .text s => ofBuilt (Policy.hasRole s)
  | _ => raiseDefinition (.roleNameExpected (← value.shown))

/-- The methods of a column. -/
def columnMethod (self : Interpreter) (column : Column) (method : PolicyMethod)
    (bound : List (String × Bound Value)) : Step Value := do
  match method with
  | .render => return .text column.render
  | .compare .like => compare column .like (argument bound "pattern")
  | .compare .likeAnyCase => compare column .likeAnyCase (argument bound "pattern")
  | .compare comparator => compare column comparator (argument bound "value")
  | .isIn => isIn self column (argument bound "values")
  | .isNull => newCondition column.isNull
  | .isNotNull => newCondition column.isNotNull
  | .isOwner => newCondition (← ofBuilt column.isOwner)
  | .isPublic => newCondition (← ofBuilt column.isPublic)
  | .belongsToTenant => do
    let value ← setting (argument bound "sessionKey") (.text "uuid")
    newCondition (← ofBuilt (column.equals value.operand))
  | .isMemberOf => do
    let key ← identifierOf (argument bound "key")
    let table ← identifierOf (argument bound "table")
    let member ← identifierOf (argument bound "memberColumn")
    newCondition (column.isWithin (Column.membershipQuery table key member).operand)
  | _ => return .none

/-- The methods of a condition. -/
def conditionMethod (c : Condition) (method : PolicyMethod) (bound : List (String × Bound Value)) :
    Step Value := do
  match method with
  | .render => return .text (← ofBuilt (rendered c.write))
  | .columns => do
    let columns ← ofBuilt (rendered c.listColumns)
    return .tuple (columns.map fun name => .text name.text)
  | .and => connect "and_" .all c (arguments bound "others")
  | .or => connect "or_" .any c (arguments bound "others")
  | .not => newCondition c.not
  | _ => return .none

/-- The names to select: the arguments, or the members of a single list. -/
def selected (columns : List Value) : Step (List Value) := do
  match columns with
  | [.tuple items] => return items
  | [.object address] => do
    match ← load address with
    | .list items => return items.toList
    | _ => return columns
  | _ => return columns

/-- The methods of a sub-query. -/
def queryMethod (query : Subquery) (method : PolicyMethod) (bound : List (String × Bound Value)) :
    Step Value := do
  match method with
  | .render => return .text (← ofBuilt (rendered query.write))
  | .select => do
    let columns ← selected (arguments bound "columns")
    if columns.isEmpty then raiseDefinition (.selectEmpty query.table.text)
    let columns ← columns.mapM identifierOf
    newPolicy (.query (← ofBuilt (query.selectColumns columns)))
  | .filter => do
    let c ← conditionOr (argument bound "condition") (.filterExpected query.table.text)
    newPolicy (.query (query.filter c))
  | .join => do
    let table ← identifierOf (argument bound "table")
    let c ← conditionOr (argument bound "on") fun _ => .joinConditionExpected table.text
    let kind ← (argument bound "kind").plainText
    let kind ← ofBuilt (Subquery.joinKind (Text.upper kind))
    newPolicy (.query (query.joinTable kind table c))
  | _ => return .none

/-- The methods of a policy. -/
def definitionMethod (policy : Definition) (method : PolicyMethod)
    (bound : List (String × Bound Value)) : Step Value := do
  let condition := fun operation =>
    conditionOr (argument bound "condition") (.policyConditionExpected operation policy.name.text)
  match method with
  | .on => newDefinition (policy.on (← identifierOf (argument bound "table")))
  | .govern command => newDefinition (policy.governing command)
  | .grant => do
    let roles := arguments bound "roles"
    if roles.isEmpty then raiseDefinition .rolesMissing
    newDefinition (← ofBuilt (policy.grant (← roles.mapM identifierOf)))
  | .requireAll => newDefinition policy.requireAll
  | .permissive => newDefinition policy.permissive
  | .whenVisible => newDefinition (policy.whenVisible (← condition "when"))
  | .allow => newDefinition (policy.allow (← condition "allow"))
  | .checkWritten => newDefinition (policy.checkWritten (← condition "withCheck"))
  | .conditions => do
    let conditions ← ofBuilt policy.conditions
    return .tuple (← conditions.mapM newCondition)
  | .indexedColumns => do
    let columns ← ofBuilt policy.indexedColumns
    newList (columns.map fun name => .text name.text)
  | .statement => do
    if ← (argument bound "includeIndexes").isTrue then
      return .text (← ofBuilt policy.statementWithIndexes)
    return .text (← ofBuilt policy.statement)
  | _ => return .none

/-- The commands that a value names. -/
def commandsOf (self : Interpreter) (value : Value) : Step (List Command) := do
  let names : Step (List String) := match value with
    | .text s => return [s]
    | _ => do (← collect self value).mapM Value.plainText
  match ← attempt names with
  | .ok names => ofBuilt (Templates.commands names)
  | .error (.object address) => do
    match ← load address with
    | .error kind .. =>
      if kind.isKindOf .type then raiseDefinition (.operationsExpected (← value.shown))
      halt (.raised (.object address))
    | _ => halt (.raised (.object address))
  | .error error => halt (.raised error)

/-- A policy on a table that governs a command, its name made from parts. -/
def governed (name : List String) (table : Value) (command : Command) : Step Definition := do
  let policy ← ofBuilt (Definition.create (String.join name))
  return (policy.on (← identifierOf table)).governing command

/-- The column that a value names. -/
def columnOf (value : Value) : Step Column :=
  return ⟨← identifierOf value⟩

/-- The ready-made policies. -/
def templatesMethod (self : Interpreter) (method : PolicyMethod)
    (bound : List (String × Bound Value)) : Step Value := do
  let table := argument bound "table"
  match method with
  | .userOwned => do
    let commands ← commandsOf self (argument bound "operations")
    let policies ← commands.mapM fun command => do
      let policy ← governed [← table.plainText, "_", command.slug, "_own"] table command
      let column ← columnOf (argument bound "ownerColumn")
      newDefinition (policy.allow (← ofBuilt column.isOwner))
    newList policies
  | .tenantIsolation => do
    let policy ← governed [← table.plainText, "_tenant_isolation"] table .all
    let column ← columnOf (argument bound "tenantColumn")
    let tenant ← setting (argument bound "sessionKey") (.text "uuid")
    let condition ← ofBuilt (column.equals tenant.operand)
    newList [← newDefinition (policy.requireAll.allow condition)]
  | .publicAccess => do
    let condition ← match argument bound "visibilityColumn" with
      | .none => pure alwaysTrue
      | flag => do
        let column ← columnOf flag
        ofBuilt column.isPublic
    let policy ← governed [← table.plainText, "_public_read"] table .select
    newDefinition (policy.whenVisible condition)
  | .roleAccess => do
    let commands ← commandsOf self (argument bound "operations")
    let role := argument bound "role"
    let policies ← commands.mapM fun command => do
      let name := [← table.plainText, "_", ← role.plainText, "_", command.slug]
      let policy ← governed name table command
      newDefinition (policy.allow (← hasRole role))
    newList policies
  | _ => return .none

/-- The methods that tell about the request. -/
def contextMethod (method : PolicyMethod) (bound : List (String × Bound Value)) : Step Value := do
  match method with
  | .subject => newContext ContextValue.subject
  | .subjectRole => newContext ContextValue.subjectRole
  | .token => match argument bound "claim" with
    | .none => newContext ContextValue.token
    | .text s => newContext (← ofBuilt (ContextValue.claim s))
    | other => raiseDefinition (.claimEmpty (← other.shown))
  | .setting => newContext (← setting (argument bound "key") (argument bound "type"))
  | _ => return .none

/-- The name of a method in a refusal of its arguments. -/
def nameOf : PolicyMethod → String
  | .render => "render"
  | .columns => "columns"
  | .and => "and_"
  | .or => "or_"
  | .not => "not_"
  | .compare .equal => "eq"
  | .compare .different => "neq"
  | .compare .greater => "gt"
  | .compare .atLeast => "gte"
  | .compare .less => "lt"
  | .compare .atMost => "lte"
  | .compare .like => "like"
  | .compare .likeAnyCase => "ilike"
  | .isIn => "in_"
  | .isNull => "isNull"
  | .isNotNull => "isNotNull"
  | .isOwner => "isOwner"
  | .isPublic => "isPublic"
  | .belongsToTenant => "belongsToTenant"
  | .isMemberOf => "isMemberOf"
  | .select => "select"
  | .filter => "where"
  | .join => "join"
  | .on => "on"
  | .govern .select => "read"
  | .govern .insert => "write"
  | .govern .update => "update"
  | .govern .delete => "delete"
  | .govern .all => "all"
  | .grant => "to"
  | .requireAll => "requireAll"
  | .permissive => "permissive"
  | .whenVisible => "when"
  | .allow => "allow"
  | .checkWritten => "withCheck"
  | .conditions => "conditions"
  | .indexedColumns => "indexedColumns"
  | .statement => "toSQL"
  | .subject => "uid"
  | .subjectRole => "role"
  | .token => "jwt"
  | .setting => "get"
  | .userOwned => "userOwned"
  | .tenantIsolation => "tenantIsolation"
  | .publicAccess => "publicAccess"
  | .roleAccess => "roleAccess"

/-- Bind the arguments of a method of a class, the object first. -/
def bindMethod (c : PolicyClass) (method : PolicyMethod) (given : Arguments Value) :
    Step (List (String × Bound Value)) := do
  let (signature, defaults) := method.signature
  let name := (method.owner c).name ++ "." ++ nameOf method
  ofBound (signature.bind name defaults given)

/-- Run a method of an object with the bindings of its arguments. -/
def run (self : Interpreter) (object : PolicyObject) (method : PolicyMethod)
    (bound : List (String × Bound Value)) : Step Value :=
  match object with
  | .auth | .session => contextMethod method bound
  | .templates => templatesMethod self method bound
  | .contextValue value => return .text value.sql
  | .foreignContext value => return value
  | .column c => columnMethod self c method bound
  | .condition c => conditionMethod c method bound
  | .query q => queryMethod q method bound
  | .definition policy => definitionMethod policy method bound
  | .unwritten _ => raiseDefinition (.render .unwritten)

/-- Call a method of an object of the policy language. -/
def callMethod (self : Interpreter) (receiver : Value) (object : PolicyObject)
    (method : PolicyMethod) (given : Arguments Value) : Step Value := do
  let given := { given with positional := receiver :: given.positional }
  let bound ← bindMethod object.policyClass method given
  run self object method bound

/-- Call a method of a class, the object first among the arguments.  The classes
without state need none of theirs. -/
def callClassMethod (self : Interpreter) (c : PolicyClass) (method : PolicyMethod)
    (given : Arguments Value) : Step Value := do
  let bound ← bindMethod c method given
  match c with
  | .auth => run self .auth method bound
  | .session => run self .session method bound
  | .templates => run self .templates method bound
  | _ => do
    let receiver := argument bound "self"
    match receiver with
    | .object address => do
      match ← load address with
      | .policy object => run self object method bound
      | _ => refuse receiver
    | _ => refuse receiver
where
  /-- Refuse an object of another class. -/
  refuse (receiver : Value) : Step Value := do
    raise .attribute ("'" ++ (← receiver.typeName) ++ "' object has no attribute 'name'")

/-- Run a function with the bindings of its arguments. -/
def runFunction (function : PolicyFunction) (bound : List (String × Bound Value)) : Step Value := do
  let name := argument bound "name"
  let value := argument bound "value"
  match function with
  | .createPolicy => newDefinition { name := ← labelOf name }
  | .column => newPolicy (.column (← columnOf name))
  | .currentUser => newContext ContextValue.currentUser
  | .fromTable => newPolicy (.query (.on (← identifierOf (argument bound "table"))))
  | .hasRole => newCondition (← hasRole (argument bound "role"))
  | .alwaysTrue => newCondition alwaysTrue
  | .call => do
    let operands ← (arguments bound "args").mapM checkedOperandOf
    let name ← qualifiedOf "function name" name
    newCondition (.functionCall name operands)
  | .sqlString => match value with
    | .none => return .text "NULL"
    | _ => return .text (Sql.literal (← value.plainText))
  | .sqlTruth => match value with
    | .none => return .text "NULL"
    | _ => return .text (Sql.truth (← value.isTrue))
  | .renderValue => match ← foreignOf? value with
    | some content => return content
    | none => return .text (← ofBuilt (rendered (← operandOf value).write))
  | .quoteIdentifier => return .text (← identifierOf name).render
  | .quoteName => return .text (← labelOf name).render
  | .checkQualifiedName => do
    let purpose ← (argument bound "what").plainText
    return .text (← qualifiedOf purpose name).text

/-- Call a function of the policy language. -/
def callFunction (function : PolicyFunction) (given : Arguments Value) : Step Value := do
  let bound ← ofBound (function.signature.bind function.name [] given)
  runFunction function bound

/-- Make an object of a class. -/
def construct (c : PolicyClass) (given : Arguments Value) : Step Value := do
  match c.parameters? with
  | none =>
    if !given.positional.isEmpty || !given.named.isEmpty then
      raise .type (c.name ++ "() takes no arguments")
    match c with
    | .auth => newPolicy .auth
    | .session => newPolicy .session
    | .templates => newPolicy .templates
    | .condition => newCondition .unwritten
    | .query => newPolicy (.unwritten true)
    | _ => newPolicy (.unwritten false)
  | some (names, defaults) =>
    let signature : Signature := { positional := "self" :: names }
    let bound ← ofBound (signature.bind (c.name ++ ".__init__") (alignDefaults names defaults)
      { given with positional := .none :: given.positional })
    match c with
    | .column => newPolicy (.column (← columnOf (argument bound "name")))
    | .definition => newDefinition { name := ← labelOf (argument bound "name") }
    | .subquery => newPolicy (.query (.on (← identifierOf (argument bound "table"))))
    | .contextValue => match argument bound "sql" with
      | .text sql => newContext ⟨sql⟩
      | value => newPolicy (.foreignContext value)
    | .predicate => newCondition (.predicate (← (argument bound "sql").plainText))
    | _ => newPolicy (.unwritten false)

/-- The operator of a condition, as a program reads it. -/
def fieldOfCondition (c : Condition) (name : String) : Step (Option Value) := do
  match c, name with
  | .junction connective _, "op" => return some (.text connective.word)
  | .junction _ parts, "parts" => return some (.tuple (← parts.mapM newCondition))
  | .negation inner, "inner" => return some (← newCondition inner)
  | .comparison column .., "column" => return some (← newPolicy (.column column))
  | .comparison _ comparator _, "op" => return some (.text comparator.sign)
  | .comparison _ _ operand, "value" => return some (← valueOfOperand operand)
  | .nullTest column _, "column" => return some (← newPolicy (.column column))
  | .nullTest _ negated, "negated" => return some (.bool negated)
  | .among column _, "column" => return some (← newPolicy (.column column))
  | .among _ members, "values" => return some (.tuple (← members.mapM valueOfOperand))
  | .within column _, "column" => return some (← newPolicy (.column column))
  | .within _ range, "values" => return some (← valueOfOperand range)
  | .functionCall name _, "name" => return some (.text name.text)
  | .functionCall _ operands, "args" => return some (.tuple (← operands.mapM valueOfOperand))
  | _, _ => return none

/-- What stands under a name in an object of the policy language. -/
def attribute? (receiver : Value) (object : PolicyObject) (name : String) : Step (Option Value) := do
  if (PolicyMethod.of? object.policyClass name).isSome then return some (.method receiver name)
  match object, name with
  | .column c, "name" => return some (.text c.name.text)
  | .query q, "table" => return some (.text q.table.text)
  | .definition policy, "name" => return some (.text policy.name.text)
  | .condition c, _ => fieldOfCondition c name
  | _, _ => return none

end PolicyCall

end Script
end PolicyStudio
