import PolicyStudio.Form.Field
import PolicyStudio.Json.Reader
import PolicyStudio.Service.Identifier
import PolicyStudio.Service.Problem

/-!
# Requests

A request names a place and a method; together they choose an endpoint.  A place
that only other methods know is told from one that is not known at all.

The body of a request is a form.  An endpoint that takes a form asks for it before
it does anything else, and all problems with the place and the form are reported
at once; a body that is no JSON is a problem of its own.
-/

namespace PolicyStudio
namespace Service

open Form

/-! ## Endpoints -/

/-- How a place is used. -/
inductive Method where
  | get
  /-- Only the head of an answer is asked for. -/
  | head
  | post
  | delete
  | other
deriving Repr, DecidableEq

/-- The method with a name, which may be written small. -/
def Method.ofName (name : String) : Method :=
  let name := Text.upper name
  if name = "GET" then .get
  else if name = "HEAD" then .head
  else if name = "POST" then .post
  else if name = "DELETE" then .delete
  else .other

/-- What a request is about. -/
inductive Endpoint where
  | liveness
  | readiness
  | run
  | examples
  | example (name : String)
  | editor
  | create
  | session (id : String)
  | setSource (id : String)
  | loadExample (id : String)
  | execute (id : String)
  | acknowledge (id : String)
  | delete (id : String)
deriving Repr, DecidableEq

namespace Endpoint

/-- The endpoints at a place, by method. -/
def allAt : List String → List (Method × Endpoint)
  | ["utils", "liveness", ""] => [(.get, .liveness)]
  | ["utils", "health-check", ""] => [(.get, .readiness)]
  | ["playground", "run"] => [(.post, .run)]
  | ["playground", "examples"] => [(.get, .examples)]
  | ["playground", "examples", name] => if name = "" then [] else [(.get, .example name)]
  | ["playground", "editor"] => [(.get, .editor)]
  | ["sessions"] => [(.post, .create)]
  | ["sessions", id] => if id = "" then [] else [(.get, .session id), (.delete, .delete id)]
  | ["sessions", id, action] =>
    if id = "" then []
    else if action = "source" then [(.post, .setSource id)]
    else if action = "load-example" then [(.post, .loadExample id)]
    else if action = "execute" then [(.post, .execute id)]
    else if action = "copied" then [(.post, .acknowledge id)]
    else []
  | _ => []

/-- Why there is no endpoint. -/
inductive Fault where
  | unknownPlace
  | otherMethod
deriving Repr, DecidableEq

/-- The endpoint that a method chooses at a place. -/
def find (method : Method) (place : List String) : Except Fault Endpoint :=
  match allAt place with
  | [] => .error .unknownPlace
  | endpoints => match endpoints.lookup method with
    | some endpoint => .ok endpoint
    | none => .error .otherMethod

end Endpoint

/-! ## Bodies -/

/-- What a request brings. -/
inductive Body where
  | nothing
  | json (value : Json)
  /-- JSON that breaks off at a position. -/
  | malformed (position : Nat)
  /-- What is not meant as JSON. -/
  | foreign
deriving Inhabited

/-- The content has a type for JSON: its second part is JSON or built on it. -/
def isJsonType (type : String) : Bool :=
  let plain := Text.lower (Text.strip (String.ofList (type.toList.takeWhile (· ≠ ';'))))
  match Text.cutAt '/' plain.toList with
  | [main, sub] =>
    String.ofList main == "application" &&
      (String.ofList sub == "json" || (String.ofList sub).endsWith "+json")
  | _ => false

/-- A text meant as JSON; a mark for the order of its bytes may stand first. -/
def Body.ofJsonText (text : String) : Body :=
  let content := match text.toList with
    | '\ufeff' :: rest => String.ofList rest
    | _ => text
  match Json.read content with
  | .ok value => .json value
  | .error position => .malformed position

/-- A text of a type. -/
def Body.ofText (type text : String) : Body :=
  if text.isEmpty then .nothing
  else if isJsonType type then .ofJsonText text
  else .foreign

/-- Problems with their places. -/
abbrev Problems := List (List String × String)

namespace Problems

/-- The problems of a form. -/
def ofFaults (faults : Faults) : Problems :=
  faults.map fun (name, fault) => ([Problem.bodyName, name], fault.message)

/-- The problem of a whole body. -/
def ofBody (fault : FieldFault) : Problems := [([Problem.bodyName], fault.message)]

/-- The problem of a body that is no JSON. -/
def malformed (position : Nat) : Problems :=
  [([Problem.bodyName, position.repr], "JSON decode error")]

/-- The problem of an identifier in a place. -/
def ofIdentifier (fault : IdentifierFault) : Problems :=
  [(["path", "id"], "Input should be a valid UUID, " ++ fault.message)]

end Problems

/-- A way to read a form. -/
abbrev FormReader (α : Type) := Entries → Checked α

namespace Body

/-- Read a form that has to be there. -/
def read {α : Type} (form : FormReader α) : Body → Except Problems α
  | .nothing => .error (.ofBody .missing)
  | .json (.object members) => match form (Given.ofMembers members) with
    | .ok value => .ok value
    | .faulty found => .error (.ofFaults found)
  | .malformed position => .error (.malformed position)
  | .json _ | .foreign => .error (.ofBody .notObject)

/-- Read a form that can be left out. -/
def readOptional {α : Type} (form : FormReader α) : Body → Except Problems (Option α)
  | .nothing | .json .null => .ok none
  | body => (read form body).map some

/-- Read an identifier and a form.  A body that is no JSON comes first; otherwise
the problems of both are kept. -/
def readWith {α : Type} (id : String) (form : FormReader α) (body : Body) :
    Except Problems (Nat × α) :=
  match body, Identifier.read id, read form body with
  | .malformed position, _, _ => .error (.malformed position)
  | _, .ok id, .ok value => .ok (id, value)
  | _, .ok _, .error problems => .error problems
  | _, .error fault, .ok _ => .error (.ofIdentifier fault)
  | _, .error fault, .error problems => .error (Problems.ofIdentifier fault ++ problems)

end Body

/-! ## Forms -/

/-- The most characters of a program. -/
def longestSource : Nat := 100000

/-- The program in a form. -/
def sourceReader : Reader String := Reader.textWithin 0 (some longestSource)

/-- A form with a program. -/
def sourceForm : FormReader String := fun entries => entries.required "source" sourceReader

/-- A form with the name of an example. -/
def exampleForm : FormReader String := fun entries =>
  entries.required "name" (Reader.textWithin 1 none)

/-- What a new session starts with. -/
structure Beginning where
  source : Option String
  exampleName : Option String
deriving Repr, DecidableEq

/-- A form for a new session. -/
def beginningForm : FormReader Beginning := fun entries =>
  Beginning.mk <$> entries.standing "source" none (Reader.optional sourceReader)
    <*> entries.standing "example" none (Reader.optional Reader.text)

end Service
end PolicyStudio
