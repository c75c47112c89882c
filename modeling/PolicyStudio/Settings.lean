import PolicyStudio.Form.Field
import PolicyStudio.Json.Reader
import PolicyStudio.Url.Address

/-!
# Settings

The settings of the playground come from a form and from named texts of the
surroundings; the form comes first.  Names may be written large or small; in the
surroundings empty texts count for nothing.

The origins that may use the playground are a list of addresses.  A text is cut at
its commas, unless it starts with a bracket: then it is kept as it is, and each of
its characters counts as one origin.
-/

namespace PolicyStudio

open Form

/-- Where the playground runs. -/
inductive Surroundings where
  | development
  | staging
  | production
deriving Repr, DecidableEq

/-- The surroundings by name. -/
def Surroundings.named : List (String × Surroundings) :=
  [("local", .development), ("staging", .staging), ("production", .production)]

/-- The name of the surroundings. -/
def Surroundings.name : Surroundings → String
  | .development => "local"
  | .staging => "staging"
  | .production => "production"

/-- The origins that are set. -/
inductive Origins where
  | addresses (texts : List String)
  | plain (text : String)
deriving Repr, DecidableEq

namespace Origins

/-- Cut a text at its commas; a text that starts with a bracket is not cut. -/
def split? (s : String) : Option (List String) :=
  if s.startsWith "[" then none
  else
    let pieces := (Text.cutAt ',' s.toList).map fun piece => Text.strip (String.ofList piece)
    some (pieces.filter (· ≠ ""))

/-- A text without slashes at its end. -/
def withoutSlashes (s : String) : String :=
  String.ofList (s.toList.reverse.dropWhile (· = '/')).reverse

/-- The origins one by one. -/
def each : Origins → List String
  | .addresses texts => texts
  | .plain text => text.toList.map String.singleton

/-- An address of any scheme. -/
def address : Reader String := fun given => do
  match Url.Address.read? (← Reader.addressText given) with
  | some address => return address.text
  | none => Reader.fail .unreadableAddress

/-- A list of addresses.  What is no such list would have to be a text. -/
def addressList (items : List Given) : Except (List FieldFault) Origins :=
  let step (found : Except (List FieldFault) (List String)) (item : Given) :
      Except (List FieldFault) (List String) :=
    match found, address item with
    | .ok texts, .ok text => .ok (texts ++ [text])
    | .ok _, .error faults => .error faults
    | .error faults, .ok _ => .error faults
    | .error faults, .error others => .error (faults ++ others)
  match items.foldl step (.ok []) with
  | .ok texts => .ok (.addresses texts)
  | .error faults => .error (faults ++ [.notText])

/-- Origins. -/
def read : Reader Origins
  | .text s => match split? s with
    | some pieces => addressList (pieces.map .text)
    | none => .ok (.plain s)
  | .list items => addressList items
  | _ => .error [.refused]

end Origins

/-- The settings of the playground. -/
structure Settings where
  apiPath : String
  projectName : String
  surroundings : Surroundings
  logLevel : String
  frontend : String
  origins : Origins
  /-- Where errors are reported. -/
  reports : Option String
  /-- How many seconds a run may take. -/
  timeLimit : Option Int
  /-- How many seconds a session remembers that its text was copied. -/
  copyMemory : Float
  snapshotPath : Option String
  editorVersion : String
  sessionLimit : Int

namespace Settings

/-- The most bytes of an address that errors are reported to. -/
def longestAddress : Nat := 2083

/-- An address that errors are reported to. -/
def reportAddress : Reader String := fun given => do
  let s ← Reader.addressText given
  if longestAddress < s.utf8ByteSize then Reader.fail .overlongAddress
  else match Url.Address.read? s with
    | none => Reader.fail .unreadableAddress
    | some address =>
      if address.scheme = "http" ∨ address.scheme = "https" then .ok address.text
      else Reader.fail .otherScheme

/-- A time limit that is not positive is none. -/
def positive (limit : Option Int) : Option Int :=
  limit.filter fun limit => decide (0 < limit)

/-- The settings from a form. -/
def ofEntries (entries : Entries) : Checked Settings :=
  Settings.mk <$> entries.standing "API_V1_STR" "/api/v1" Reader.text
    <*> entries.standing "PROJECT_NAME" "RLS Policy Playground" Reader.text
    <*> entries.standing "ENVIRONMENT" .development (Reader.oneOf Surroundings.named)
    <*> entries.standing "LOG_LEVEL" "INFO" Reader.text
    <*> entries.standing "FRONTEND_HOST" "http://localhost:5173" Reader.text
    <*> entries.standing "BACKEND_CORS_ORIGINS" (.addresses []) Origins.read
    <*> entries.standing "SENTRY_DSN" none (Reader.optional reportAddress)
    <*> positive <$> entries.standing "SCRIPT_EXEC_TIMEOUT" none (Reader.optional Reader.integer)
    <*> entries.standing "COPY_ACK_SECONDS" 2.0 Reader.number
    <*> entries.standing "TYPE_SNAPSHOT_PATH" none (Reader.optional Reader.text)
    <*> entries.standing "EDITOR_PYTHON_VERSION" "3.10" Reader.text
    <*> entries.standing "SESSION_MAX_COUNT" 1000 Reader.integer

/-- The names of the settings. -/
def names : List String :=
  ["API_V1_STR", "PROJECT_NAME", "ENVIRONMENT", "LOG_LEVEL", "FRONTEND_HOST",
    "BACKEND_CORS_ORIGINS", "SENTRY_DSN", "SCRIPT_EXEC_TIMEOUT", "COPY_ACK_SECONDS",
    "TYPE_SNAPSHOT_PATH", "EDITOR_PYTHON_VERSION", "SESSION_MAX_COUNT"]

/-- What a text of the surroundings fills in.  Origins may be written as JSON, of
which nothing counts for nothing. -/
def filledIn? (name text : String) : Option Given :=
  if name = "BACKEND_CORS_ORIGINS" then match Json.read text with
    | .ok .null => none
    | .ok value => some (.ofJson value)
    | .error _ => some (.text text)
  else some (.text text)

/-- What the surroundings fill in; of two texts under one name the later counts. -/
def ofSurroundings (texts : List (String × String)) : Entries :=
  names.filterMap fun name =>
    let found := texts.filter fun (other, text) =>
      Text.lower other == Text.lower name && text ≠ ""
    found.getLast?.bind fun (_, text) => (filledIn? name text).map (name, ·)

/-- What a form fills in, by the names of the settings.  An entry under the name itself
comes before one under the name in other letters. -/
def ofForm (entries : Entries) : Entries :=
  names.filterMap fun name =>
    let found := match entries.find? fun (other, _) => other == name with
      | some entry => some entry
      | none => entries.find? fun (other, _) => Text.lower other == Text.lower name
    found.map fun (_, given) => (name, given)

/-- The settings from a form and from the surroundings. -/
def read (entries : Entries) (texts : List (String × String)) : Checked Settings :=
  ofEntries (ofForm entries ++ ofSurroundings texts)

/-- All origins: those that are set, without slashes at their ends, and the
frontend. -/
def allOrigins (settings : Settings) : List String :=
  settings.origins.each.map Origins.withoutSlashes ++ [settings.frontend]

end Settings

end PolicyStudio
