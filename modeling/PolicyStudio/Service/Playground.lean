import PolicyStudio.Catalog
import PolicyStudio.Editor.Configure
import PolicyStudio.Service.Health
import PolicyStudio.Service.Request
import PolicyStudio.Settings

/-!
# The playground as a service

The service keeps a store of sessions and answers requests one after another.  A
program that fails is an answer like any other; requests are refused for what they
say, for what they name, or because something went wrong that nobody expected.

Whatever refuses a request leaves the sessions as they are, unless a run was begun
that did not come back.
-/

namespace PolicyStudio
namespace Service

open Session

/-- What does not change while a request is answered. -/
structure Setting (τ : Type) where
  registry : Registry
  /-- Programs are run in a way that may use the store, and may fail. -/
  run : Store.Runner τ String
  now : τ
  copyMemory : τ
  surroundings : Surroundings
  /-- The declarations of the policy language. -/
  declarations : String
  editorVersion : String
  liveness : List String
  readiness : List String

/-- An answer. -/
structure Answer where
  status : Nat
  body : Json

/-- Why a request is refused. -/
inductive Refusal where
  | invalid (problems : Problems)
  | unknownSession
  | unknownExample (name : Option String)
  | unknownPlace
  | otherMethod
  /-- Something that nobody expected. -/
  | internal (message : String)

namespace Refusal

/-- The status of a refusal. -/
def status : Refusal → Nat
  | .invalid _ => 422
  | .unknownSession | .unknownExample _ | .unknownPlace => 404
  | .otherMethod => 405
  | .internal _ => 500

/-- The wording of a refusal.  What nobody expected is told to developers only. -/
def detail (surroundings : Surroundings) : Refusal → String
  | .invalid problems => Problem.reportTexts problems
  | .unknownSession => "Session not found"
  | .unknownExample none => "Example not found"
  | .unknownExample (some name) => "Example not found: " ++ name
  | .unknownPlace => "Not Found"
  | .otherMethod => "Method Not Allowed"
  | .internal message =>
    if surroundings = .development then "Internal server error: " ++ message
    else "Internal server error"

/-- The answer of a refusal. -/
def answer (surroundings : Surroundings) (refusal : Refusal) : Answer :=
  ⟨refusal.status, .object [("detail", .text (refusal.detail surroundings))]⟩

end Refusal

variable {τ : Type}

/-- A step of answering. -/
abbrev Handler (τ : Type) := EStateM Refusal (Store τ)

/-! ## What answers show -/

/-- A session at a time. -/
def sessionJson [TimeScale τ] (now : τ) (id : Nat) (state : State τ) : Json :=
  .object [("id", .text (Identifier.text id)), ("source", .text state.source),
    ("status", .text state.status.name), ("result", (state.result.map ExecutionResult.json).getD .null),
    ("revision", .integer state.revision), ("copied", .truth (state.isCopied now))]

/-- A probe that nothing failed, or what did. -/
def probeAnswer (failures : List String) (message : String) : Answer :=
  if failures.isEmpty then ⟨200, .truth true⟩
  else ⟨503, .object [("success", .truth false), ("message", .text message),
    ("data", .list (failures.map .text))]⟩

/-! ## Answering -/

namespace Handler

/-- Go on with what was read. -/
def ofRead {α : Type} : Except Problems α → Handler τ α
  | .ok value => return value
  | .error problems => throw (.invalid problems)

/-- An identifier in a place. -/
def identifier (id : String) : Handler τ Nat :=
  ofRead ((Identifier.read id).mapError Problems.ofIdentifier)

/-- The example with a name. -/
def exampleNamed (name : String) : Handler τ Example :=
  match Catalog.find? name with
  | some found => return found
  | none => throw (.unknownExample (some name))

/-- Show a session, if it is there. -/
def shown [TimeScale τ] (setting : Setting τ) (id : Nat) : Option (State τ) → Handler τ Answer
  | some state => return ⟨200, sessionJson setting.now id state⟩
  | none => throw .unknownSession

/-- Change a session, if it is there, and show it. -/
def changed [TimeScale τ] (setting : Setting τ) (id : Nat)
    (change : State τ → Except TimeFault (State τ)) : Handler τ Answer := do
  match Identifier.session? id with
  | none => throw .unknownSession
  | some session => match (← get).update session change with
    | .ok (state, store) => do
      set store
      shown setting id state
    | .error fault => throw (.internal fault.message)

/-- Create a session. -/
def create [TimeScale τ] (setting : Setting τ) (beginning : Option Beginning) :
    Handler τ Answer := do
  let beginning := beginning.getD ⟨none, none⟩
  let source ← match beginning.source, beginning.exampleName.filter (· ≠ "") with
    | some source, _ => pure source
    | none, some name => do pure (← exampleNamed name).code
    | none, none => pure Catalog.standard.code
  let state : State τ := .start source
  let (id, store) := (← get).create state
  set store
  return ⟨201, sessionJson setting.now (Identifier.ofSession id) state⟩

/-- Run a program without a session. -/
def run (setting : Setting τ) (source : String) : Handler τ Answer := do
  let (result, store) := setting.run source (← get)
  set store
  match result with
  | .ok result => return ⟨200, result.json⟩
  | .error message => throw (.internal message)

/-- Run the program of a session. -/
def execute [TimeScale τ] (setting : Setting τ) (id : Nat) : Handler τ Answer := do
  match Identifier.session? id with
  | none => throw .unknownSession
  | some session => do
    let (result, store) := (← get).execute session setting.run
    set store
    match result with
    | .ok state => shown setting id state
    | .error message => throw (.internal message)

/-- Remove a session. -/
def delete (id : Nat) : Handler τ Answer := do
  match Identifier.session? id with
  | none => throw .unknownSession
  | some session => do
    let (found, store) := (← get).delete session
    set store
    if found then return ⟨200, .object [("message", .text "Session deleted successfully")]⟩
    throw .unknownSession

/-- The configuration of an editor for the playground. -/
def configuration (setting : Setting τ) : Editor.Configuration :=
  let steps : StateM Editor.Configuration Unit :=
    Editor.configure setting.registry setting.declarations setting.editorVersion
  (steps.run .empty).2

/-- Answer at an endpoint. -/
def answerAt [TimeScale τ] (setting : Setting τ) (body : Body) : Endpoint → Handler τ Answer
  | .liveness => return probeAnswer setting.liveness "Process unhealthy"
  | .readiness => return probeAnswer setting.readiness "Service Unavailable"
  | .run => do run setting (← ofRead (body.read sourceForm))
  | .examples => return ⟨200, .list (Catalog.examples.map Example.json)⟩
  | .example name => match Catalog.find? name with
    | some found => return ⟨200, found.json⟩
    | none => throw (.unknownExample none)
  | .editor => return ⟨200, (configuration setting).json⟩
  | .create => do create setting (← ofRead (body.readOptional beginningForm))
  | .session id => do
    let id ← identifier id
    shown setting id ((Identifier.session? id).bind (← get).get?)
  | .setSource id => do
    let (id, source) ← ofRead (body.readWith id sourceForm)
    changed setting id fun state => .ok (state.edit source)
  | .loadExample id => do
    let (id, name) ← ofRead (body.readWith id exampleForm)
    let found ← exampleNamed name
    changed setting id fun state => .ok (state.load found)
  | .execute id => do execute setting (← identifier id)
  | .acknowledge id => do
    changed setting (← identifier id) (·.acknowledge setting.now setting.copyMemory)
  | .delete id => do delete (← identifier id)

end Handler

/-- A request. -/
structure Request where
  method : Method
  place : List String
  body : Body

/-- The answer without its body. -/
def Answer.head (answer : Answer) : Answer :=
  { answer with body := .text "" }

/-- Answer a request in full. -/
def answerInFull [TimeScale τ] (setting : Setting τ) (request : Request) (store : Store τ) :
    Answer × Store τ :=
  match Endpoint.find request.method request.place with
  | .error .unknownPlace => (Refusal.unknownPlace.answer setting.surroundings, store)
  | .error .otherMethod => (Refusal.otherMethod.answer setting.surroundings, store)
  | .ok endpoint => match Handler.answerAt setting request.body endpoint store with
    | .ok answer store => (answer, store)
    | .error refusal store => (refusal.answer setting.surroundings, store)

/-- Answer a request; if only the head is asked for, the answer has no body. -/
def answer [TimeScale τ] (setting : Setting τ) (request : Request) (store : Store τ) :
    Answer × Store τ :=
  let (answer, store) := answerInFull setting request store
  (if request.method = .head then answer.head else answer, store)

end Service
end PolicyStudio
