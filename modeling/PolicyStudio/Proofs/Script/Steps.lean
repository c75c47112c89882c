import PolicyStudio.Proofs.Outcome
import PolicyStudio.Script.Step

/-!
# What comes of steps

A step returns a value or stops early.  What it returns is found by going through its parts
in order, as with any sequence of steps that may be refused.  What stops it is what stops one
of its parts, so a step stops for certain causes only if each of its parts does.
-/

namespace PolicyStudio
namespace Script

open Policy

namespace Step

variable {α β : Type} {before after : Machine}

/-! ## Steps that return -/

/-- Two steps return through what the first one returns. -/
theorem bind_eq_ok {step : Step α} {next : α → Step β} {value : β} :
    (step >>= next).run before = .ok value after ↔ ∃ first middle,
      step.run before = .ok first middle ∧ (next first).run middle = .ok value after := by
  rw [run_bind]
  cases came : step.run before with
  | ok first middle =>
    constructor
    · exact fun returned => ⟨first, middle, rfl, returned⟩
    · rintro ⟨_, _, same, returned⟩
      cases same
      exact returned
  | error signal middle =>
    constructor
    · exact nofun
    · rintro ⟨_, _, impossible, -⟩
      cases impossible

/-- Two steps stop where the first one does, or where the second one does behind it. -/
theorem bind_eq_error {step : Step α} {next : α → Step β} {signal : Signal} :
    (step >>= next).run before = .error signal after ↔ step.run before = .error signal after ∨
      ∃ first middle, step.run before = .ok first middle ∧
        (next first).run middle = .error signal after := by
  rw [run_bind]
  cases came : step.run before with
  | ok first middle =>
    constructor
    · exact fun stopped => .inr ⟨first, middle, rfl, stopped⟩
    · rintro (impossible | ⟨_, _, same, stopped⟩)
      · cases impossible
      · cases same
        exact stopped
  | error cause middle =>
    constructor
    · intro same
      cases same
      exact .inl rfl
    · rintro (same | ⟨_, _, impossible, -⟩)
      · cases same
        rfl
      · cases impossible

/-- A step that returns did what programs can do. -/
theorem leadsTo_of_ok {step : Step α} {value : α} (returned : step.run before = .ok value after) :
    before.LeadsTo after := by
  have leads := step.leads before
  rwa [Run.stateAfter, returned] at leads

/-- A value is returned as it is. -/
theorem pure_eq_ok {value result : α} :
    (pure value : Step α).run before = .ok result after ↔ value = result ∧ before = after := by
  constructor
  · intro returned
    cases returned
    exact ⟨rfl, rfl⟩
  · rintro ⟨rfl, rfl⟩
    rfl

/-- A malformed definition is never returned. -/
theorem raiseDefinition_ne_ok (error : DefinitionError) (value : α) :
    (raiseDefinition error : Step α).run before ≠ .ok value after := by
  unfold raiseDefinition
  split <;> exact nofun

/-- Only what was built is returned, and nothing else is done. -/
theorem ofBuilt_eq_ok {built : Built α} {value : α} :
    (ofBuilt built).run before = .ok value after ↔ built = .ok value ∧ before = after := by
  cases built with
  | ok found =>
    rw [Except.ok.injEq]
    exact pure_eq_ok
  | error error =>
    constructor
    · exact fun returned => absurd returned (raiseDefinition_ne_ok error value)
    · rintro ⟨impossible, -⟩
      cases impossible

theorem ofBound_eq_ok {bound : Except String α} {value : α} :
    (ofBound bound).run before = .ok value after ↔ bound = .ok value ∧ before = after := by
  cases bound with
  | ok found =>
    rw [Except.ok.injEq]
    exact pure_eq_ok
  | error message =>
    constructor
    · exact nofun
    · rintro ⟨impossible, -⟩
      cases impossible

/-- An attempt comes to a value as the step does. -/
theorem attempt_eq_ok {step : Step α} {value : α} :
    step.attempt.run before = .ok (.ok value) after ↔ step.run before = .ok value after := by
  rw [run_attempt]
  cases step.run before with
  | ok found last =>
    constructor
    · intro same
      cases same
      rfl
    · intro same
      cases same
      rfl
  | error signal last =>
    constructor
    · intro impossible
      cases signal <;> cases impossible
    · exact nofun

/-- An attempt comes to an error as the step does. -/
theorem attempt_eq_error {step : Step α} {error : Value} :
    step.attempt.run before = .ok (.error error) after ↔
      step.run before = .error (.raised error) after := by
  rw [run_attempt]
  cases step.run before with
  | ok found last =>
    constructor
    · exact nofun
    · exact nofun
  | error signal last =>
    constructor
    · intro same
      cases signal <;> cases same
      rfl
    · intro same
      cases same
      rfl

theorem mapM_cons_eq_ok {step : α → Step β} {first : α} {rest : List α} {values : List β} :
    ((first :: rest).mapM step).run before = .ok values after ↔ ∃ value others middle,
      (step first).run before = .ok value middle ∧
        (rest.mapM step).run middle = .ok others after ∧ values = value :: others := by
  rw [List.mapM_cons, bind_eq_ok]
  constructor
  · rintro ⟨value, middle, returned, result⟩
    rcases bind_eq_ok.mp result with ⟨others, last, othersReturned, result⟩
    rcases pure_eq_ok.mp result with ⟨rfl, rfl⟩
    exact ⟨value, others, middle, returned, othersReturned, rfl⟩
  · rintro ⟨value, others, middle, returned, othersReturned, rfl⟩
    exact ⟨value, middle, returned, bind_eq_ok.mpr ⟨others, after, othersReturned, rfl⟩⟩

/-- What is told of every value that a list of steps returns, if later steps do not undo it. -/
theorem forall₂_of_mapM {step : α → Step β} {told : α → β → Machine → Prop}
    (each : ∀ a before b after, (step a).run before = .ok b after → told a b after)
    (kept : ∀ a b middle after, middle.LeadsTo after → told a b middle → told a b after)
    {items : List α} {values : List β} (returned : (items.mapM step).run before = .ok values after) :
    List.Forall₂ (fun a b => told a b after) items values := by
  induction items generalizing before values with
  | nil =>
    cases returned
    exact .nil
  | cons first rest inductionHypothesis =>
    rcases mapM_cons_eq_ok.mp returned with
      ⟨value, others, middle, firstReturned, othersReturned, rfl⟩
    refine .cons ?_ (inductionHypothesis othersReturned)
    exact kept _ _ _ _ (leadsTo_of_ok othersReturned) (each _ _ _ _ firstReturned)

/-- A new object stands where the value says. -/
theorem allocate_eq_ok (object : Object) (made : object.isMade = true) {value : Value} :
    (allocate object made).run before = .ok value after ↔
      value = .object before.heap.size ∧ after = { before with heap := before.heap.push object } := by
  constructor
  · intro returned
    cases returned
    exact ⟨rfl, rfl⟩
  · rintro ⟨rfl, rfl⟩
    rfl

/-! ## Steps that stop -/

/-- Started in a state that the given one leads to, the step stops with such signals only. -/
def StopsBy (start : Machine) (allowed : Signal → Machine → Prop) (step : Step α) : Prop :=
  ∀ before signal after, start.LeadsTo before → step.run before = .error signal after →
    allowed signal after

section Stopping

variable {start : Machine} {allowed : Signal → Machine → Prop}

theorem StopsBy.mono {wider : Signal → Machine → Prop} {step : Step α}
    (stops : step.StopsBy start allowed)
    (within : ∀ signal after, allowed signal after → wider signal after) :
    step.StopsBy start wider :=
  fun before signal after leads stopped => within signal after (stops before signal after leads stopped)

theorem stopsBy_pure (value : α) : (pure value : Step α).StopsBy start allowed := nofun

theorem stopsBy_look : look.StopsBy start allowed := nofun

theorem stopsBy_allocate (object : Object) (made : object.isMade = true) :
    (allocate object made).StopsBy start allowed := nofun

/-- What follows a step may rely on what the step returned, and on the state it left. -/
theorem StopsBy.bind_after {step : Step α} {next : α → Step β} (first : step.StopsBy start allowed)
    (rest : ∀ before value middle, start.LeadsTo before → step.run before = .ok value middle →
      ∀ signal after, (next value).run middle = .error signal after → allowed signal after) :
    (step >>= next).StopsBy start allowed := by
  intro before signal after leads stopped
  rcases bind_eq_error.mp stopped with stopped | ⟨value, middle, came, stopped⟩
  · exact first before signal after leads stopped
  · exact rest before value middle leads came signal after stopped

/-- What follows a step may rely on what the step returned. -/
theorem StopsBy.bind_of_ok {step : Step α} {next : α → Step β} (first : step.StopsBy start allowed)
    (rest : ∀ before value middle, start.LeadsTo before → step.run before = .ok value middle →
      (next value).StopsBy start allowed) : (step >>= next).StopsBy start allowed :=
  first.bind_after fun before value middle leads came signal after =>
    rest before value middle leads came middle signal after (leads.trans (leadsTo_of_ok came))

theorem StopsBy.bind {step : Step α} {next : α → Step β} (first : step.StopsBy start allowed)
    (rest : ∀ value, (next value).StopsBy start allowed) : (step >>= next).StopsBy start allowed :=
  first.bind_of_ok fun _ value _ _ _ => rest value

theorem StopsBy.ite {condition : Prop} [Decidable condition] {first second : Step α}
    (yes : first.StopsBy start allowed) (no : second.StopsBy start allowed) :
    (if condition then first else second).StopsBy start allowed := by
  split
  · exact yes
  · exact no

theorem StopsBy.mapM {step : α → Step β} {items : List α}
    (each : ∀ item ∈ items, (step item).StopsBy start allowed) :
    (items.mapM step).StopsBy start allowed := by
  induction items with
  | nil => exact stopsBy_pure []
  | cons item rest inductionHypothesis =>
    rw [List.mapM_cons]
    refine (each item List.mem_cons_self).bind fun value => ?_
    exact (inductionHypothesis fun other listed => each other (List.mem_cons_of_mem _ listed)).bind
      fun values => stopsBy_pure _

theorem StopsBy.forM {step : α → Step PUnit} {items : List α}
    (each : ∀ item ∈ items, (step item).StopsBy start allowed) :
    (items.forM step).StopsBy start allowed := by
  induction items with
  | nil => exact stopsBy_pure ()
  | cons item rest inductionHypothesis =>
    exact (each item List.mem_cons_self).bind fun _ =>
      inductionHypothesis fun other listed => each other (List.mem_cons_of_mem _ listed)

theorem stopsBy_load (address : Address) : (load address).StopsBy start allowed :=
  stopsBy_look.bind fun _ => stopsBy_pure _

end Stopping

/-- A malformed definition is refused alike whatever was to be built. -/
theorem raiseDefinition_eq_error (error : DefinitionError) {signal : Signal}
    (stopped : (raiseDefinition error : Step α).run before = .error signal after) :
    (raiseDefinition error : Step β).run before = .error signal after := by
  unfold raiseDefinition at stopped ⊢
  split at stopped <;> cases stopped <;> rfl

/-! ## Errors that are raised -/

/-- An error was raised that has these arguments and no details. -/
def Raised (kind : ErrorKind) (arguments : List Value) (signal : Signal) (after : Machine) : Prop :=
  ∃ address, signal = .raised (.object address) ∧ after.Holds address (.error kind arguments [])

/-- An error of one of these kinds was raised. -/
def RaisedOneOf (kinds : List ErrorKind) (signal : Signal) (after : Machine) : Prop :=
  ∃ kind ∈ kinds, ∃ arguments, Raised kind arguments signal after

theorem RaisedOneOf.mono {kinds wider : List ErrorKind} {signal : Signal} {after : Machine}
    (raised : RaisedOneOf kinds signal after) (within : kinds ⊆ wider) :
    RaisedOneOf wider signal after := by
  rcases raised with ⟨kind, listed, raised⟩
  exact ⟨kind, within listed, raised⟩

/-- The error of a definition that is refused was raised. -/
def RaisedFor (error : DefinitionError) : Signal → Machine → Prop :=
  Raised (errorKind error) (if error = .render .unwritten then [] else [.text error.message])

section Raising

variable {start : Machine}

theorem stopsBy_raiseWith {kind : ErrorKind} (arguments : List Value) (own : kind.isOwn = true) :
    (raiseWith kind arguments own : Step α).StopsBy start (Raised kind arguments) := by
  intro before signal after leads stopped
  cases stopped
  exact ⟨_, rfl, Array.getElem?_push_size⟩

theorem stopsBy_raise {kind : ErrorKind} {kinds : List ErrorKind} (listed : kind ∈ kinds)
    (message : String) (own : kind.isOwn = true) :
    (raise kind message own : Step α).StopsBy start (RaisedOneOf kinds) :=
  (stopsBy_raiseWith _ own).mono fun _ _ raised => ⟨kind, listed, _, raised⟩

theorem stopsBy_raiseDefinition (error : DefinitionError) :
    (raiseDefinition error : Step α).StopsBy start (RaisedFor error) := by
  unfold raiseDefinition
  split
  · exact stopsBy_raiseWith _ _
  · next other =>
    rw [RaisedFor, if_neg other]
    exact stopsBy_raiseWith _ _

theorem stopsBy_ofBuilt {allowed : Signal → Machine → Prop} {built : Built α}
    (refused : ∀ error, built = .error error → ∀ signal after, RaisedFor error signal after →
      allowed signal after) : (ofBuilt built).StopsBy start allowed := by
  cases built with
  | ok value => exact stopsBy_pure value
  | error error => exact (stopsBy_raiseDefinition error).mono (refused error rfl)

end Raising

end Step

end Script
end PolicyStudio
