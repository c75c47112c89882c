import Mathlib.Tactic.SplitIfs
import PolicyStudio.Session.State

/-!
# The life of a session

A session is changed by edits, runs, acknowledgements and copying, in any order and with
any data.  Every such step is an `Action` here, including results that come late and
times that cannot be added.  A step that ends with an error leaves no new state, so the
session stays as it was.

The fields of a state are changed one by one, but they always fit together: this is
`State.Consistent`, which every step keeps.  The revision tells results apart.  It only
grows, and a result is recorded under it only while a run is under way, so each revision
gets at most one result.
-/

namespace PolicyStudio
namespace Session

variable {τ ε : Type}

/-! ## Steps and runs -/

/-- A step that may be taken with a session. -/
inductive Action (τ ε : Type) where
  | edit (source : String)
  | load (given : Example)
  | begin
  /-- A result comes in for the run of some revision, whichever it was. -/
  | complete (revision : Int) (result : ExecutionResult)
  /-- The program is run at once, by a way to run programs that may fail. -/
  | execute (run : String → Except ε ExecutionResult)
  | acknowledge (now duration : τ)
  | copy (clipboard : Clipboard) (now duration : τ)

namespace State

/-- The state after a step; a step that fails leaves the state as it is. -/
def step [TimeScale τ] (state : State τ) : Action τ ε → State τ
  | .edit source => state.edit source
  | .load given => state.load given
  | .begin => state.begin
  | .complete revision result => state.complete revision result
  | .execute run => (state.execute run).toOption.getD state
  | .acknowledge now duration => (state.acknowledge now duration).toOption.getD state
  | .copy clipboard now duration =>
    ((state.copy clipboard now duration).toOption.bind Copied.state?).getD state

/-- The state after several steps. -/
def after [TimeScale τ] (state : State τ) (actions : List (Action τ ε)) : State τ :=
  actions.foldl step state

/-- The revision under which a step records a result, if it records one. -/
def recorded? (state : State τ) : Action τ ε → Option Nat
  | .complete revision result => (state.complete? revision result).map State.revision
  | .execute run =>
    match run state.source with
    | .ok result => (state.begin.complete? state.begin.revision result).map State.revision
    | .error _ => none
  | _ => none

/-- The revisions under which several steps record results, in the order of the steps. -/
def recordings [TimeScale τ] (state : State τ) : List (Action τ ε) → List Nat
  | [] => []
  | action :: rest => (state.recorded? action).toList ++ (state.step action).recordings rest

end State

/-- The step is an edit, or a run begins with it and it leaves a state. -/
def Action.movesOn (source : String) : Action τ ε → Bool
  | .edit _ | .load _ | .begin => true
  | .execute run => (run source).isOk
  | .complete .. | .acknowledge .. | .copy .. => false

/-! ## What a step can change -/

namespace State

/-- What became of a state: how far its revision moved on, and under which revision a result
was recorded, if one was. -/
inductive Change (before : State τ) : State τ → Nat → Option Nat → Prop
  | stays : Change before before 0 none
  | edited (source : String) : Change before (before.edit source) 1 none
  | begun : Change before before.begin 1 none
  | completed (running : before.status = .running) (result : ExecutionResult) :
    Change before { before with status := .ofResult result, result := some result } 0
      (some before.revision)
  | executed (result : ExecutionResult) :
    Change before { before.begin with status := .ofResult result, result := some result } 1
      (some (before.revision + 1))
  | acknowledged (succeeded : before.status = .succeeded) (deadline : τ) :
    Change before { before with copiedUntil := some deadline } 0 none

theorem change_complete (state : State τ) (revision : Int) (result : ExecutionResult) :
    Change state (state.complete revision result) 0
      ((state.complete? revision result).map State.revision) := by
  unfold complete complete?
  split_ifs with current
  · exact .completed current.2 result
  · exact .stays

/-- The state after the run of a program, if nothing has moved the session on. -/
def recorded (state : State τ) (result : ExecutionResult) : State τ :=
  { state.begin with status := .ofResult result, result := some result }

/-- A run that is under way is completed by its own result. -/
theorem begin_complete? (state : State τ) (result : ExecutionResult) :
    state.begin.complete? state.begin.revision result = some (state.recorded result) :=
  if_pos ⟨rfl, rfl⟩

theorem complete_begin (state : State τ) (result : ExecutionResult) :
    state.begin.complete state.begin.revision result = state.recorded result := by
  rw [complete, begin_complete?]
  rfl

/-- A program that fails leaves no new state. -/
theorem execute_of_error {state : State τ} {run : String → Except ε ExecutionResult} {error : ε}
    (failed : run state.source = .error error) : state.execute run = .error error := by
  rw [execute, show run state.begin.source = .error error from failed]
  rfl

/-- A state whose program returns a result has recorded it. -/
theorem execute_of_ok {state : State τ} {run : String → Except ε ExecutionResult}
    {result : ExecutionResult} (returned : run state.source = .ok result) :
    state.execute run = .ok (state.recorded result) := by
  rw [execute, show run state.begin.source = .ok result from returned]
  exact congrArg Except.ok (state.complete_begin result)

theorem change_acknowledge? [TimeScale τ] {state after : State τ} {now duration : τ}
    (accepted : state.acknowledge? now duration = .ok (some after)) : Change state after 0 none := by
  unfold acknowledge? at accepted
  split_ifs at accepted with succeeded
  · cases later : TimeScale.after now duration with
    | error fault =>
      rw [later] at accepted
      cases accepted
    | ok deadline =>
      rw [later] at accepted
      cases accepted
      exact .acknowledged succeeded deadline
  · cases accepted

theorem change_acknowledge [TimeScale τ] (state : State τ) (now duration : τ) :
    Change state ((state.acknowledge now duration).toOption.getD state) 0 none := by
  unfold acknowledge
  cases accepted : state.acknowledge? now duration with
  | error fault => exact .stays
  | ok changed =>
    cases changed with
    | none => exact .stays
    | some after => exact change_acknowledge? accepted

/-- Copying changes a state like an acknowledgement or not at all. -/
theorem change_copy [TimeScale τ] (state : State τ) (clipboard : Clipboard) (now duration : τ) :
    Change state (((state.copy clipboard now duration).toOption.bind Copied.state?).getD state) 0
      none := by
  unfold copy
  cases state.copyable? with
  | none => exact .stays
  | some text =>
    cases clipboard with
    | accepts =>
      cases accepted : state.acknowledge? now duration with
      | error fault => exact .stays
      | ok changed =>
        cases changed with
        | none => exact .stays
        | some after => exact change_acknowledge? accepted
    | refuses kind =>
      dsimp only
      split_ifs <;> exact .stays

/-- Every step is one of the changes. -/
theorem change_step [TimeScale τ] (state : State τ) (action : Action τ ε) :
    Change state (state.step action) (if action.movesOn state.source then 1 else 0)
      (state.recorded? action) := by
  cases action with
  | edit source => exact .edited source
  | load given => exact .edited given.code
  | begin => exact .begun
  | complete revision result => exact change_complete state revision result
  | execute run =>
    cases ran : run state.source with
    | error error =>
      simp only [step, recorded?, Action.movesOn, execute_of_error ran, ran]
      exact .stays
    | ok result =>
      simp only [step, recorded?, Action.movesOn, execute_of_ok ran, ran, begin_complete?]
      exact .executed result
  | acknowledge now duration => exact change_acknowledge state now duration
  | copy clipboard now duration => exact change_copy state clipboard now duration

/-! ## States that fit together -/

/-- The status of a state is that of its result, if there is one, and only a success is
remembered as copied. -/
structure Consistent (state : State τ) : Prop where
  status : state.result.elim (state.status = .idle ∨ state.status = .running)
    fun result => state.status = .ofResult result
  copied : state.copiedUntil.isSome = true → state.status = .succeeded

theorem consistent_start (source : String) : (start source : State τ).Consistent :=
  ⟨Or.inl rfl, nofun⟩

/-- Every change keeps a state fitting together. -/
theorem Consistent.change {before after : State τ} {moved : Nat} {recorded : Option Nat}
    (consistent : before.Consistent) (change : Change before after moved recorded) :
    after.Consistent := by
  cases change with
  | stays => exact consistent
  | edited source => exact ⟨Or.inl rfl, nofun⟩
  | begun => exact ⟨Or.inr rfl, nofun⟩
  | completed running result =>
    refine ⟨rfl, fun copied => ?_⟩
    have succeeded := consistent.copied copied
    rw [running] at succeeded
    cases succeeded
  | executed result => exact ⟨rfl, nofun⟩
  | acknowledged succeeded deadline => exact ⟨consistent.status, fun _ => succeeded⟩

theorem Consistent.step [TimeScale τ] {state : State τ} (consistent : state.Consistent)
    (action : Action τ ε) : (state.step action).Consistent :=
  consistent.change (change_step state action)

/-- Whatever is done with a new session, its state fits together. -/
theorem Consistent.after [TimeScale τ] {state : State τ} (consistent : state.Consistent)
    (actions : List (Action τ ε)) : (state.after actions).Consistent := by
  induction actions generalizing state with
  | nil => exact consistent
  | cons action rest inductionHypothesis => exact inductionHypothesis (consistent.step action)

section Consistent

variable {state : State τ} (consistent : state.Consistent)

include consistent

theorem Consistent.status_of_none (held : state.result = none) :
    state.status = .idle ∨ state.status = .running := by
  have status := consistent.status
  rw [held] at status
  exact status

theorem Consistent.status_of_some {result : ExecutionResult} (held : state.result = some result) :
    state.status = .ofResult result := by
  have status := consistent.status
  rw [held] at status
  exact status

theorem Consistent.result_eq_none : state.result = none ↔
    state.status = .idle ∨ state.status = .running := by
  cases held : state.result with
  | none => exact iff_of_true rfl (consistent.status_of_none held)
  | some result =>
    rw [consistent.status_of_some held]
    cases result <;> simp [Status.ofResult]

theorem Consistent.success_iff : (∃ text, state.result = some (.success text)) ↔
    state.status = .succeeded := by
  cases held : state.result with
  | none => rcases consistent.status_of_none held with status | status <;> simp [status]
  | some result =>
    rw [consistent.status_of_some held]
    cases result <;> simp [Status.ofResult]

theorem Consistent.failure_iff :
    (∃ message, message ≠ "" ∧ ∃ worded, state.result = some (.failure message worded)) ↔
      state.status = .failed := by
  cases held : state.result with
  | none => rcases consistent.status_of_none held with status | status <;> simp [status]
  | some result =>
    rw [consistent.status_of_some held]
    cases result with
    | success text => simp [Status.ofResult]
    | failure message worded => simp [Status.ofResult, worded]

theorem Consistent.copyable?_isSome : state.copyable?.isSome = true ↔ state.status = .succeeded := by
  constructor
  · intro copyable
    unfold copyable? at copyable
    split_ifs at copyable with succeeded
    · exact succeeded
    · cases copyable
  · intro succeeded
    rcases consistent.success_iff.mpr succeeded with ⟨text, held⟩
    rw [copyable?, if_pos succeeded, held]
    rfl

end Consistent

/-! ## Revisions -/

theorem Change.revision_eq {before after : State τ} {moved : Nat} {recorded : Option Nat}
    (change : Change before after moved recorded) : after.revision = before.revision + moved := by
  cases change <;> rfl

/-- A result is recorded under the revision of a run that is over then. -/
theorem Change.recorded_eq {before after : State τ} {moved revision : Nat}
    (change : Change before after moved (some revision)) :
    revision = after.revision ∧ after.status ≠ .running := by
  cases change with
  | completed running result => exact ⟨rfl, by cases result <;> nofun⟩
  | executed result => exact ⟨rfl, by cases result <;> nofun⟩

/-- Unless the session moves on, only a run that is under way records a result. -/
theorem Change.running_of_recorded {before after : State τ} {revision : Nat}
    (change : Change before after 0 (some revision)) : before.status = .running := by
  cases change with
  | completed current result => exact current

/-- Unless the session moves on, no run is under way that was not before. -/
theorem Change.running_of_running {before after : State τ} {recorded : Option Nat}
    (change : Change before after 0 recorded) (running : after.status = .running) :
    before.status = .running := by
  cases change with
  | stays => exact running
  | completed current _ => exact current
  | acknowledged _ _ => exact running

/-- Unless the session moves on, a result that is held stays. -/
theorem Consistent.result_change {before after : State τ} {recorded : Option Nat}
    (consistent : before.Consistent) (change : Change before after 0 recorded)
    {result : ExecutionResult} (held : before.result = some result) : after.result = some result := by
  cases change with
  | stays => exact held
  | completed running _ =>
    have none := consistent.result_eq_none.mpr (Or.inr running)
    rw [held] at none
    cases none
  | acknowledged _ _ => exact held

/-- A step that records nothing leaves the result as it is or removes it. -/
theorem Change.result_of_unrecorded {before after : State τ} {moved : Nat}
    (change : Change before after moved none) :
    after.result = before.result ∨ after.result = none := by
  cases change with
  | stays => exact Or.inl rfl
  | edited source => exact Or.inr rfl
  | begun => exact Or.inr rfl
  | acknowledged succeeded deadline => exact Or.inl rfl

theorem revision_step [TimeScale τ] (state : State τ) (action : Action τ ε) :
    (state.step action).revision =
      state.revision + if action.movesOn state.source then 1 else 0 :=
  (change_step state action).revision_eq

theorem revision_le_after [TimeScale τ] (state : State τ) (actions : List (Action τ ε)) :
    state.revision ≤ (state.after actions).revision := by
  induction actions generalizing state with
  | nil => exact Nat.le_refl _
  | cons action rest inductionHypothesis =>
    have first := revision_step state action
    have others := inductionHypothesis (state.step action)
    change state.revision ≤ ((state.step action).after rest).revision
    omega

/-- A result that is held stays until the session moves on. -/
theorem Consistent.result_after [TimeScale τ] {state : State τ} (consistent : state.Consistent)
    {result : ExecutionResult} (held : state.result = some result) (actions : List (Action τ ε))
    (same : (state.after actions).revision = state.revision) :
    (state.after actions).result = some result := by
  induction actions generalizing state with
  | nil => exact held
  | cons action rest inductionHypothesis =>
    have change := change_step state action
    have moved := change.revision_eq
    have later := revision_le_after (state.step action) rest
    change ((state.step action).after rest).revision = state.revision at same
    have unmoved : (if action.movesOn state.source then 1 else 0) = 0 := by omega
    rw [unmoved] at change
    exact inductionHypothesis (consistent.step action) (consistent.result_change change held)
      (by omega)

/-- From a state on, results are recorded under different revisions, which are not below that
of the state, and under that of the state itself only if its run is under way. -/
theorem recordings_spec [TimeScale τ] (state : State τ) (actions : List (Action τ ε)) :
    (state.recordings actions).Nodup ∧ ∀ revision ∈ state.recordings actions,
      state.revision ≤ revision ∧ (state.status ≠ .running → state.revision < revision) := by
  induction actions generalizing state with
  | nil => exact ⟨List.nodup_nil, nofun⟩
  | cons action rest inductionHypothesis =>
    rcases inductionHypothesis (state.step action) with ⟨distinct, later⟩
    have change := change_step state action
    generalize (if action.movesOn state.source then 1 else 0) = moved at change
    have moves := change.revision_eq
    have others : ∀ revision ∈ (state.step action).recordings rest,
        state.revision ≤ revision ∧ (state.status ≠ .running → state.revision < revision) := by
      intro revision member
      rcases later revision member with ⟨atLeast, above⟩
      refine ⟨by omega, fun stopped => ?_⟩
      cases moved with
      | zero =>
        have still := above fun running => stopped (change.running_of_running running)
        omega
      | succ _ => omega
    cases recorded : state.recorded? action with
    | none =>
      rw [recordings, recorded]
      exact ⟨distinct, others⟩
    | some revision =>
      rw [recorded] at change
      rw [recordings, recorded]
      rcases change.recorded_eq with ⟨current, ended⟩
      refine ⟨List.nodup_cons.mpr ⟨fun again => ?_, distinct⟩, List.forall_mem_cons.mpr ⟨?_, others⟩⟩
      · have above := (later revision again).2 ended
        omega
      · refine ⟨by omega, fun stopped => ?_⟩
        cases moved with
        | zero => exact absurd change.running_of_recorded stopped
        | succ _ => omega

/-! ## The life of a session -/

/-- Whatever is done with a new session, in any order and with any data: it holds a result
exactly while it has succeeded or failed, namely a text or a message that says something; it
is remembered as copied, and has a text to copy, only after a success.  Its revision moves on
by one with every edit and every beginning of a run and with nothing else.  Results come from
steps that record them, at most one is recorded under each revision, and one that is held
stays until the revision moves on. -/
theorem life_of_a_session [TimeScale τ] (source : String) (actions : List (Action τ ε)) :
    let state := (start source : State τ).after actions
    (state.result = none ↔ state.status = .idle ∨ state.status = .running) ∧
    ((∃ text, state.result = some (.success text)) ↔ state.status = .succeeded) ∧
    ((∃ message, message ≠ "" ∧ ∃ worded, state.result = some (.failure message worded)) ↔
      state.status = .failed) ∧
    (state.copiedUntil.isSome = true → state.status = .succeeded) ∧
    (state.copyable?.isSome = true ↔ state.status = .succeeded) ∧
    (∀ action : Action τ ε, (state.step action).revision =
      state.revision + if action.movesOn state.source then 1 else 0) ∧
    (∀ action : Action τ ε, state.recorded? action = none →
      (state.step action).result = state.result ∨ (state.step action).result = none) ∧
    ((start source : State τ).recordings actions).Nodup ∧
    ∀ (result : ExecutionResult) (more : List (Action τ ε)), state.result = some result →
      (state.after more).revision = state.revision → (state.after more).result = some result := by
  intro state
  have consistent : state.Consistent := (consistent_start source).after actions
  refine ⟨consistent.result_eq_none, consistent.success_iff, consistent.failure_iff,
    consistent.copied, consistent.copyable?_isSome, revision_step state, ?_,
    (recordings_spec _ actions).1, ?_⟩
  · intro action unrecorded
    have change := change_step state action
    rw [unrecorded] at change
    exact change.result_of_unrecorded
  · intro result more held same
    exact consistent.result_after held more same

end State

end Session
end PolicyStudio
