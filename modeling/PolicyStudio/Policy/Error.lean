import PolicyStudio.Decimal.Layout
import PolicyStudio.Text.Quoted
import PolicyStudio.Policy.Render

/-!
# Malformed definitions

The causes for which building a policy, a condition or a sub-query is refused.
A cause carries what was given in the form in which a message shows it, so it
also covers arguments that are no texts.  `DefinitionError.message` is the only
place that words them.
-/

namespace PolicyStudio
namespace Policy

/-- The commands a policy can govern. -/
inductive Command where
  | select
  | insert
  | update
  | delete
  | all
deriving Repr, DecidableEq

namespace Command

/-- All commands, in the order in which they are listed. -/
def inOrder : List Command :=
  [.select, .insert, .update, .delete, .all]

/-- The name of the command. -/
def name : Command → String
  | .select => "SELECT"
  | .insert => "INSERT"
  | .update => "UPDATE"
  | .delete => "DELETE"
  | .all => "ALL"

/-- The name in lower case, as it stands in the name of a policy. -/
def slug : Command → String
  | .select => "select"
  | .insert => "insert"
  | .update => "update"
  | .delete => "delete"
  | .all => "all"

/-- The command of a name in upper case. -/
def ofName? (name : String) : Option Command :=
  inOrder.find? fun command => command.name == name

end Command

/-- The types to which a session setting can be cast, in alphabetical order. -/
inductive SettingType where
  | bigint
  | boolean
  | integer
  | jsonb
  | numeric
  | text
  | timestamp
  | uuid
deriving Repr, DecidableEq

namespace SettingType

/-- All types, in alphabetical order of their names. -/
def inOrder : List SettingType :=
  [.bigint, .boolean, .integer, .jsonb, .numeric, .text, .timestamp, .uuid]

/-- The name of the type. -/
def name : SettingType → String
  | .bigint => "bigint"
  | .boolean => "boolean"
  | .integer => "integer"
  | .jsonb => "jsonb"
  | .numeric => "numeric"
  | .text => "text"
  | .timestamp => "timestamptz"
  | .uuid => "uuid"

/-- The type of a name. -/
def ofName? (name : String) : Option SettingType :=
  inOrder.find? fun type => type.name == name

end SettingType

/-- Why a definition is refused. -/
inductive DefinitionError where
  /-- A value of this type cannot be an operand. -/
  | operandUnsupported (type : String)
  | identifierBlank (shown : String)
  | identifierPartEmpty (name : String)
  | labelBlank (shown : String)
  /-- A name for such a purpose is not a path of plain words. -/
  | nameInvalid (purpose shown : String)
  | claimEmpty (shown : String)
  | settingNotNamespaced (key : String)
  | settingTypeUnknown (shown : String)
  | conditionsMissing (operation : String)
  | conditionsExpected (operation type : String)
  | membersExpected (column : String)
  | membersMissing (column : String)
  | patternExpected (operation type : String)
  | roleNameExpected (shown : String)
  | selectEmpty (table : String)
  | filterExpected (table type : String)
  | joinConditionExpected (table : String)
  | joinKindUnknown (name : String)
  | rolesMissing
  | policyConditionExpected (operation policy type : String)
  | tableMissing (policy : String)
  | commandMissing (policy : String)
  /-- The rows a command reads cannot be checked as if they were written. -/
  | checkNotAllowed (policy : String) (command : Command)
  /-- The rows an insertion writes cannot be filtered as if they were read. -/
  | filterNotAllowed (policy : String)
  | conditionMissing (policy : String)
  | operationsExpected (shown : String)
  | operationsMissing
  | operationUnknown (name : String)
  | render (cause : RenderError)
deriving Repr, DecidableEq

/-- The wording of a cause.  Most causes of rendering are no faults of the definition,
and have words of their own. -/
def DefinitionError.message : DefinitionError → String
  | .operandUnsupported type =>
    "Unsupported value of type " ++ type ++
      "; use str, int, float, bool, None, a date or a DSL expression"
  | .identifierBlank shown => "Identifier must be a non-empty string, got " ++ shown
  | .identifierPartEmpty name => "Invalid identifier: " ++ Text.quoted name
  | .labelBlank shown => "Name must be a non-empty string, got " ++ shown
  | .nameInvalid purpose shown => "Invalid " ++ purpose ++ ": " ++ shown
  | .claimEmpty shown => "JWT claim must be a non-empty string, got " ++ shown
  | .settingNotNamespaced key =>
    "Session key " ++ Text.quoted key ++ " must be namespaced, e.g. 'app." ++ key ++ "'"
  | .settingTypeUnknown shown =>
    "Unknown session type " ++ shown ++ "; expected one of " ++
      joined ", " (SettingType.inOrder.map SettingType.name)
  | .conditionsMissing operation => operation ++ "() needs at least one condition"
  | .conditionsExpected operation type => operation ++ "() expects conditions, got " ++ type
  | .membersExpected column =>
    "in_() on " ++ Text.quoted column ++ " expects a list of values or a sub-query"
  | .membersMissing column => "in_() on " ++ Text.quoted column ++ " needs at least one value"
  | .patternExpected operation type => operation ++ "() expects a string pattern, got " ++ type
  | .roleNameExpected shown => "hasRole() expects a role name, got " ++ shown
  | .selectEmpty table => "select() on " ++ Text.quoted table ++ " needs at least one column"
  | .filterExpected table type =>
    "where() on " ++ Text.quoted table ++ " expects a condition, got " ++ type
  | .joinConditionExpected table =>
    "join() on " ++ Text.quoted table ++ " expects a condition for 'on'"
  | .joinKindUnknown name =>
    "Unknown join kind " ++ Text.quoted name ++ "; expected one of " ++
      joined ", " ([JoinKind.full, .inner, .left, .right].map JoinKind.name)
  | .rolesMissing => "to() needs at least one role"
  | .policyConditionExpected operation policy type =>
    operation ++ "() on policy " ++ Text.quoted policy ++ " expects a condition, got " ++ type
  | .tableMissing policy => "Policy " ++ Text.quoted policy ++ " has no table; call .on(table)"
  | .commandMissing policy =>
    "Policy " ++ Text.quoted policy ++
      " has no operation; call .read(), .write(), .update(), .delete() or .all()"
  | .checkNotAllowed policy command =>
    "Policy " ++ Text.quoted policy ++ ": WITH CHECK is not allowed for " ++ command.name ++
      " policies"
  | .filterNotAllowed policy =>
    "Policy " ++ Text.quoted policy ++
      ": INSERT policies only take a check condition; use .allow() or .withCheck()"
  | .conditionMissing policy =>
    "Policy " ++ Text.quoted policy ++ " has no condition; call .when() or .allow()"
  | .operationsExpected shown => "operations must be a string or a list, got " ++ shown
  | .operationsMissing => "operations must name at least one command"
  | .operationUnknown name =>
    "Unknown operation " ++ Text.quoted name ++ "; expected one of " ++
      joined ", " (Command.inOrder.map Command.name)
  | .render (.selectMissing table) =>
    "Sub-query on " ++ Text.quoted table ++ " needs .select(...) before it can be used"
  | .render .integerTooLong =>
    "Exceeds the limit (4300 digits) for integer string conversion; " ++
      "use sys.set_int_max_str_digits() to increase the limit"
  | .render (.textExpected position type) =>
    "sequence item " ++ position.repr ++ ": expected str instance, " ++ type ++ " found"
  | .render .tooDeep => "maximum recursion depth exceeded"
  | .render .unwritten => ""

/-- The outcome of building something. -/
abbrev Built (α : Type) := Except DefinitionError α

/-- Render as a step of building. -/
def rendered {α : Type} (text : Except RenderError α) : Built α :=
  text.mapError .render

/-- Check a text that names a table, a column or a role. -/
def identifier (name : String) : Built Sql.Identifier :=
  match Sql.Identifier.ofString name with
  | .ok checked => .ok checked
  | .error .blank => .error (.identifierBlank (Text.quoted name))
  | .error .emptyPart => .error (.identifierPartEmpty name)

/-- Check a text that names a policy. -/
def label (name : String) : Built Sql.Label :=
  match Sql.Label.ofString? name with
  | some checked => .ok checked
  | none => .error (.labelBlank (Text.quoted name))

/-- Check a text that names a function or a setting. -/
def qualifiedName (purpose name : String) : Built Sql.QualifiedName :=
  match Sql.QualifiedName.ofString? name with
  | some checked => .ok checked
  | none => .error (.nameInvalid purpose (Text.quoted name))

end Policy
end PolicyStudio
