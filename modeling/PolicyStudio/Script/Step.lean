import PolicyStudio.Script.Effect

/-!
# Steps of a program

A step is a computation together with a proof that it does no more to the state
than programs can do.  Steps are made from few parts, each of which is shown to be
one, so whatever a program computes is a step: it adds calls of the host and never
takes one back, it leaves the objects of the host and the time limit alone, and the
errors that are meant for the host come from the host.
-/

namespace PolicyStudio
namespace Script

open Policy

/-- A step of a program: a computation that does to the state what programs can do. -/
structure Step (α : Type) where
  run : Run α
  leads : ∀ machine : Machine, machine.LeadsTo (run.stateAfter machine)

namespace Step

variable {α β : Type}

@[always_inline, inline]
protected def pure (value : α) : Step α where
  run := pure value
  leads machine := .refl machine

@[always_inline, inline]
protected def bind (step : Step α) (next : α → Step β) : Step β where
  run := step.run >>= fun value => (next value).run
  leads machine := Run.leadsTo_bind (step.leads machine) fun value after first =>
    first.trans ((next value).leads after)

@[always_inline, inline]
instance : Monad Step where
  pure := Step.pure
  bind := Step.bind

/-- Steps are the same if they compute the same. -/
protected theorem ext {first second : Step α} (same : first.run = second.run) :
    first = second := by
  cases first
  cases second
  cases same
  rfl

instance : LawfulMonad Step :=
  .mk' Step (fun step => Step.ext (id_map step.run)) (fun _ _ => rfl)
    (fun step _ _ => Step.ext (bind_assoc step.run _ _))

/-- What two steps after one another compute. -/
theorem run_bind (step : Step α) (next : α → Step β) (machine : Machine) :
    (step >>= next).run machine = match step.run machine with
      | .ok value after => (next value).run after
      | .error signal after => .error signal after := by
  show (step.run >>= fun value => (next value).run) machine = _
  simp only [Bind.bind, EStateM.bind]
  cases step.run machine <;> rfl

/-- A step that comes to a value goes on with what follows. -/
theorem run_bind_of_ok {step : Step α} {next : α → Step β} {value : α} {before after : Machine}
    (first : step.run before = .ok value after) :
    (step >>= next).run before = (next value).run after := by
  rw [run_bind, first]

/-- The host can do what programs can do. -/
instance : MonadLift Step Run where
  monadLift step := step.run

/-- End early. -/
@[always_inline, inline]
def halt (signal : Signal) : Step α where
  run := throw signal
  leads machine := .refl machine

instance : Inhabited (Step α) := ⟨halt .exhausted⟩

/-- The state. -/
def look : Step Machine where
  run := get
  leads machine := .refl machine

/-- Run under other conditions, and go on under those that were there before. -/
@[always_inline, inline]
def under (change : Machine → Machine)
    (kept : ∀ machine, (change machine).heap = machine.heap ∧
      (change machine).calls = machine.calls) (step : Step α) : Step α where
  run machine := match step.run (change machine) with
    | .ok value after => .ok value (after.restore machine)
    | .error signal after => .error signal (after.restore machine)
  leads machine := by
    have leads := step.leads (change machine)
    simp only [Run.stateAfter] at leads ⊢
    cases equal : step.run (change machine) with
    | ok value after =>
      rw [equal] at leads
      exact leads.restore (kept machine).1 (kept machine).2
    | error signal after =>
      rw [equal] at leads
      exact leads.restore (kept machine).1 (kept machine).2

/-- A step that comes to a value under other conditions comes to it. -/
theorem run_under_of_ok {change : Machine → Machine}
    {kept : ∀ machine, (change machine).heap = machine.heap ∧
      (change machine).calls = machine.calls} {step : Step α} {value : α}
    {before after : Machine} (returned : step.run (change before) = .ok value after) :
    (under change kept step).run before = .ok value (after.restore before) := by
  simp only [under, returned]

/-- Run with a time limit in force, or with none. -/
def underLimit (limit : Option Int) : Step α → Step α :=
  under (fun machine => { machine with limit }) fun _ => ⟨rfl, rfl⟩

/-- Run with one call more being open. -/
def deeper : Step α → Step α :=
  under (fun machine => { machine with depth := machine.depth + 1 }) fun _ => ⟨rfl, rfl⟩

/-- Run while an error is being handled. -/
def whileHandling (error : Value) : Step α → Step α :=
  under (fun machine => { machine with handling := error :: machine.handling }) fun _ => ⟨rfl, rfl⟩

/-- Run, and turn a raised error into a value. -/
def attempt (step : Step α) : Step (Except Value α) where
  run := step.run.attempt
  leads machine := by
    have leads := step.leads machine
    simp only [Run.stateAfter, Run.attempt] at leads ⊢
    cases equal : step.run machine with
    | ok value after =>
      rw [equal] at leads
      exact leads
    | error signal after =>
      rw [equal] at leads
      cases signal <;> exact leads

/-- What comes of a step whose raised errors are turned into values. -/
theorem run_attempt (step : Step α) (machine : Machine) :
    step.attempt.run machine = match step.run machine with
      | .ok value after => .ok (.ok value) after
      | .error (.raised error) after => .ok (.error error) after
      | .error .exhausted after => .error .exhausted after := by
  show step.run.attempt machine = _
  unfold Run.attempt
  cases step.run machine with
  | ok value after => rfl
  | error signal after => cases signal <;> rfl

/-- Put an object on the heap that programs can make. -/
def allocate (object : Object) (made : object.isMade = true := by exact Eq.refl true) :
    Step Value where
  run := Run.allocate object
  leads machine := .push_made machine made

/-- The object at an address. -/
def load (address : Address) : Step Object := do
  return (← look).heap[address]?.getD .plain

/-- Loading finds what stands at the address. -/
theorem run_load {machine : Machine} {address : Address} {object : Object}
    (there : machine.Holds address object) :
    (load address).run machine = .ok object machine := by
  show EStateM.Result.ok (machine.heap[address]?.getD .plain) machine = _
  rw [there]
  rfl

/-- Change the object at an address into one that programs can make, if it can change. -/
def update (address : Address) (change : Object → Object)
    (made : ∀ object, change object = object ∨
      object.isFixed = false ∧ (change object).isMade = true := by
        intro object; cases object <;> first | exact .inl rfl | exact .inr ⟨rfl, rfl⟩) :
    Step Unit where
  run machine := .ok () { machine with heap := machine.heap.modify address change }
  leads machine := .modify machine address made

/-- Put another object in the place of one that can change. -/
def store (address : Address) (object : Object)
    (made : object.isMade = true := by exact Eq.refl true) : Step Unit :=
  update address (fun old => if old.isFixed then old else object) fun old => by
    cases fixed : old.isFixed with
    | true => exact .inl (if_pos rfl)
    | false => exact .inr ⟨rfl, made⟩

/-- Change the members of the list at an address. -/
def updateItems (address : Address) (change : Array Value → Array Value) : Step Unit :=
  update address fun object => match object with
    | .list items => .list (change items)
    | other => other

/-- A binary number as a value.  One that is no number gets a mark of its own. -/
def newFloat (x : Float) : Step Value := do
  if x.isNaN then
    match ← allocate .plain with
    | .object address => return .float x (address + 1)
    | _ => return .float x 0
  else return .float x 0

/-- Raise an error of the program with these arguments and details. -/
def raiseDetailed (kind : ErrorKind) (arguments : List Value) (details : List (String × Value))
    (own : kind.isOwn = true := by exact Eq.refl true) : Step α := do
  let error ← allocate (.error kind arguments details) (Object.isMade_error own arguments details)
  halt (.raised error)

/-- Raise an error with these arguments. -/
def raiseWith (kind : ErrorKind) (arguments : List Value)
    (own : kind.isOwn = true := by exact Eq.refl true) : Step α :=
  raiseDetailed kind arguments [] own

/-- Raise an error with a text. -/
def raise (kind : ErrorKind) (message : String)
    (own : kind.isOwn = true := by exact Eq.refl true) : Step α :=
  raiseWith kind [.text message] own

/-- Raise the error of a malformed definition.  Where there is nothing to say,
the error has no arguments. -/
def raiseDefinition (error : DefinitionError) : Step α :=
  match error with
  | .render .unwritten => raiseWith (errorKind error) [] (isOwn_errorKind error)
  | _ => raise (errorKind error) error.message (isOwn_errorKind error)

/-- Go on with what was built. -/
def ofBuilt : Built α → Step α
  | .ok value => return value
  | .error error => raiseDefinition error

/-- Go on with the bindings of a call, or raise the fault. -/
def ofBound : Except String α → Step α
  | .ok value => return value
  | .error message => raise .type message

/-- A new list. -/
def newList (items : List Value) : Step Value :=
  allocate (.list items.toArray)

/-- A new object of the policy language. -/
def newPolicy (object : PolicyObject) : Step Value :=
  allocate (.policy object)

end Step

namespace Run

export Step (newList raise raiseWith)

end Run

end Script
end PolicyStudio
