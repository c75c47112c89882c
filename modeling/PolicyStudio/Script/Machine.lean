import PolicyStudio.Script.Object

/-!
# The state of a run

A computation reads and changes the heap and may end in a raised error.  An error
does not undo what was done before it.  Besides, a computation that is given too few
steps ends as `exhausted`, which no handler sees.
-/

namespace PolicyStudio
namespace Script

open Policy

/-- A value in the form in which it is reported. -/
inductive Description where
  | null
  | truth (value : Bool)
  | integer (value : Int)
  | text (value : String)
  | number (value : Float)
  | list (items : List Description)
  | tuple (items : List Description)
  /-- An expression: its class, its text or the failure to write it, and what
  else its class shows. -/
  | expression (type : String) (sql : Built String) (columns : Option (List String))
    (parts : Option Nat) (shown : Option String)
  /-- An expression that was given something else than its text. -/
  | foreign (type : String) (sql : Description) (shown : String)
  /-- A policy: how it is shown, its statement, and, if it has one, the statement
  with indexes and the indexed columns. -/
  | policy (shown : String) (sql : Built String) (indexed : Option (String × List String))
  | other (type : String)

instance : Inhabited Description := ⟨.null⟩

/-- A call of a binding of the host, as it is reported, and where the binding stands. -/
structure HostCall where
  binding : Address
  name : String
  positional : List Description
  named : List (String × Description)

/-- The state of a run. -/
structure Machine where
  heap : Array Object
  calls : Array HostCall
  /-- The time limit in force, in seconds. -/
  limit : Option Int
  /-- How many calls of functions are open. -/
  depth : Nat
  /-- The errors that are being handled, the latest first. -/
  handling : List Value

/-- Why a computation ended early. -/
inductive Signal where
  | raised (error : Value)
  | exhausted

instance : Inhabited Signal := ⟨.exhausted⟩

/-- A computation on the state of a run, by a program or by the host. -/
abbrev Run := EStateM Signal Machine

instance {α : Type} : Inhabited (Run α) := ⟨throw .exhausted⟩

/-- The kind of the error of a malformed definition.  Two causes are no faults of
the definition and have kinds of their own. -/
def errorKind : DefinitionError → ErrorKind
  | .render .unwritten => .notImplemented
  | .render .integerTooLong => .value
  | .render (.textExpected ..) => .type
  | .render .tooDeep => .recursion
  | _ => .policyDefinition

theorem isOwn_errorKind (error : DefinitionError) : (errorKind error).isOwn = true := by
  unfold errorKind
  split <;> rfl

namespace Machine

/-- Where the three objects of the policy language that every run has stand. -/
def authAddress : Address := 0

/-- The session settings. -/
def sessionAddress : Address := 1

/-- The ready-made policies. -/
def templatesAddress : Address := 2

/-- The state before anything has run. -/
def initial : Machine where
  heap := #[.policy .auth, .policy .session, .policy .templates]
  calls := #[]
  limit := none
  depth := 0
  handling := []

end Machine

namespace Run

/-- The state in which a computation ends. -/
def stateAfter {α : Type} (run : Run α) (machine : Machine) : Machine :=
  match run machine with
  | .ok _ after | .error _ after => after

/-- Put an object on the heap. -/
def allocate (object : Object) : Run Value := fun machine =>
  .ok (.object machine.heap.size) { machine with heap := machine.heap.push object }

/-- Run, and turn a raised error into a value. -/
def attempt {α : Type} (run : Run α) : Run (Except Value α) := fun machine =>
  match run machine with
  | .ok value machine => .ok (.ok value) machine
  | .error (.raised error) machine => .ok (.error error) machine
  | .error .exhausted machine => .error .exhausted machine

end Run

end Script
end PolicyStudio
