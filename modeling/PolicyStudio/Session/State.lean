import PolicyStudio.Catalog
import PolicyStudio.Execution.Result
import PolicyStudio.Script.ErrorKind
import PolicyStudio.Session.Time

/-!
# The state of a session

A session is the program that is being edited and the outcome of its last run.

A run begins and is completed later.  The revision moves on with every edit and
with every beginning, so a result that comes late is told from one that still
belongs to the program, and is dropped.  After a success the text can be copied,
and for a while the session remembers that it was.

Steps that may keep the state as it is answer with a new state only if there is
one.
-/

namespace PolicyStudio
namespace Session

/-- Where a session stands. -/
inductive Status where
  | idle
  | running
  | succeeded
  | failed
deriving Repr, DecidableEq

/-- The name of a status. -/
def Status.name : Status → String
  | .idle => "IDLE"
  | .running => "RUNNING"
  | .succeeded => "SUCCEEDED"
  | .failed => "FAILED"

/-- The status after a result. -/
def Status.ofResult : ExecutionResult → Status
  | .success _ => .succeeded
  | .failure .. => .failed

/-- The state of a session. -/
structure State (τ : Type) where
  source : String
  status : Status
  result : Option ExecutionResult
  revision : Nat
  /-- The time up to which the session remembers that its text was copied. -/
  copiedUntil : Option τ

namespace State

variable {τ : Type}

/-- A new session with a program. -/
def start (source : String) : State τ :=
  ⟨source, .idle, none, 0, none⟩

/-- Replace the program. -/
def edit (state : State τ) (source : String) : State τ :=
  ⟨source, .idle, none, state.revision + 1, none⟩

/-- Replace the program by that of an example. -/
def load (state : State τ) (given : Example) : State τ :=
  state.edit given.code

/-- A run of the program begins. -/
def begin (state : State τ) : State τ :=
  { state with
    status := .running
    result := none
    revision := state.revision + 1
    copiedUntil := none }

/-- Record the result of the run that began at a revision, unless it is late. -/
def complete? (state : State τ) (revision : Int) (result : ExecutionResult) :
    Option (State τ) :=
  if (state.revision : Int) = revision ∧ state.status = .running then
    some { state with status := .ofResult result, result := some result }
  else none

/-- The state after a result came in. -/
def complete (state : State τ) (revision : Int) (result : ExecutionResult) : State τ :=
  (state.complete? revision result).getD state

/-- Run the program, given how to run programs. -/
def execute {ε : Type} (state : State τ) (run : String → Except ε ExecutionResult) :
    Except ε (State τ) := do
  let running := state.begin
  let result ← run running.source
  return running.complete running.revision result

/-- The text that can be copied. -/
def copyable? (state : State τ) : Option String :=
  if state.status = .succeeded then state.result.bind ExecutionResult.text? else none

/-- The session remembers at a time that its text was copied. -/
def isCopied [TimeScale τ] (state : State τ) (now : τ) : Bool :=
  match state.copiedUntil with
  | none => false
  | some deadline => TimeScale.before now deadline

/-- Remember from a time on that the text was copied; this is for a success only. -/
def acknowledge? [TimeScale τ] (state : State τ) (now duration : τ) :
    Except TimeFault (Option (State τ)) :=
  if state.status = .succeeded then do
    return some { state with copiedUntil := some (← TimeScale.after now duration) }
  else return none

/-- The state after an acknowledgement. -/
def acknowledge [TimeScale τ] (state : State τ) (now duration : τ) :
    Except TimeFault (State τ) := do
  return (← state.acknowledge? now duration).getD state

end State

/-! ## Copying -/

/-- What a clipboard does with a text. -/
inductive Clipboard where
  | accepts
  | refuses (kind : Script.ErrorKind)
deriving Repr, DecidableEq

/-- Why copying does not come to an end. -/
inductive CopyFault where
  | time (fault : TimeFault)
  /-- The clipboard refused in a way that is meant for the host. -/
  | interrupted (kind : Script.ErrorKind)
deriving Repr, DecidableEq

/-- What copying did: the texts that were written, and the new state if there is
one. -/
structure Copied (τ : Type) where
  written : List String
  state? : Option (State τ)

/-- Copy the text, if there is one, and remember it from a time on.  A clipboard
that refuses leaves the state as it is. -/
def State.copy {τ : Type} [TimeScale τ] (state : State τ) (clipboard : Clipboard)
    (now duration : τ) : Except CopyFault (Copied τ) :=
  match state.copyable?, clipboard with
  | none, _ => .ok ⟨[], none⟩
  | some text, .accepts => match state.acknowledge? now duration with
    | .ok after => .ok ⟨[text], after⟩
    | .error fault => .error (.time fault)
  | some _, .refuses kind =>
    if kind.isKindOf .exception then .ok ⟨[], none⟩ else .error (.interrupted kind)

end Session
end PolicyStudio
