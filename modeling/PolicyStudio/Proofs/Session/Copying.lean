import PolicyStudio.Proofs.Session.Executes

/-!
# How long a copy is remembered

A session remembers up to a deadline that its text was copied.  The deadline is one field of the
state, but it is told by the history of the session.  Some steps have an *effect* on it: an edit,
another program or the beginning of a run makes the session forget, and an acknowledgement after a
success, its own or that of a copy that was written, sets the deadline anew.  All other steps leave
it alone, late results and refused copies among them, so only the last effect counts.

Nothing is asked of the scale of times but that it adds and compares.  On the scales on which this
is exact, whole seconds and fractions of them, the last acknowledgement counts for as long as it
was made for.
-/

namespace PolicyStudio
namespace Session

variable {τ ε : Type}

/-! ## Times -/

/-- Exact times, in seconds and fractions of them. -/
instance : TimeScale Rat where
  after now duration := .ok (now + duration)
  before now deadline := decide (now < deadline)

/-- A time is before the end of a duration. -/
def Lasts [TimeScale τ] (now duration time : τ) : Prop :=
  ∃ deadline, TimeScale.after now duration = .ok deadline ∧ TimeScale.before time deadline = true

theorem lasts_rat (now duration time : Rat) : Lasts now duration time ↔ time < now + duration := by
  constructor
  · rintro ⟨deadline, same, before⟩
    cases same
    exact of_decide_eq_true before
  · exact fun before => ⟨now + duration, rfl, decide_eq_true before⟩

theorem lasts_whole (now duration time : Int) :
    Lasts (Seconds.whole now) (.whole duration) (.whole time) ↔ time < now + duration := by
  constructor
  · rintro ⟨deadline, same, before⟩
    cases same
    exact of_decide_eq_true before
  · exact fun before => ⟨.whole (now + duration), rfl, decide_eq_true before⟩

/-! ## Effects -/

/-- What a step does to what a session remembers of copying. -/
inductive Effect (τ : Type) where
  | forgets
  | acknowledges (now duration : τ)

/-- The deadline that an effect leaves. -/
def Effect.deadline? [TimeScale τ] : Effect τ → Option τ
  | .forgets => none
  | .acknowledges now duration => (TimeScale.after now duration).toOption

namespace State

section Copyable

variable {state : State τ} {text : String}

theorem succeeded_of_copyable (found : state.copyable? = some text) :
    state.status = .succeeded := by
  unfold copyable? at found
  split_ifs at found with succeeded
  exact succeeded

/-- Only after a success there is something to copy. -/
theorem copyable?_of_unsuccessful (unsuccessful : state.status ≠ .succeeded) :
    state.copyable? = none :=
  if_neg unsuccessful

theorem copyable?_of_succeeded (succeeded : state.status = .succeeded)
    (held : state.result = some (.success text)) : state.copyable? = some text := by
  rw [copyable?, if_pos succeeded, held]
  rfl

end Copyable

section

variable [TimeScale τ] (state : State τ)

/-- The effect of a step, if it has one.  A copy has one if something was written. -/
def effect? : Action τ ε → Option (Effect τ)
  | .edit _ | .load _ | .begin => some .forgets
  | .complete .. => none
  | .execute run => if (run state.source).isOk then some .forgets else none
  | .acknowledge now duration =>
    if state.status = .succeeded ∧ (TimeScale.after now duration).isOk then
      some (.acknowledges now duration)
    else none
  | .copy clipboard now duration => match state.copy clipboard now duration with
    | .ok copied => if copied.written = [] then none else some (.acknowledges now duration)
    | .error _ => none

/-- The effects of several steps, in their order. -/
def effects (state : State τ) : List (Action τ ε) → List (Effect τ)
  | [] => []
  | action :: rest => (state.effect? action).toList ++ (state.step action).effects rest

/-! ## Copying -/

section Copying

variable {state} {text : String}

/-- Where there is nothing to copy the clipboard is not asked. -/
theorem copy_of_nothing (nothing : state.copyable? = none) (clipboard : Clipboard)
    (now duration : τ) : state.copy clipboard now duration = .ok ⟨[], none⟩ := by
  unfold copy
  rw [nothing]

/-- Where there is something to copy the clipboard is asked once, to take the text. -/
theorem copy_of_copyable (found : state.copyable? = some text) (clipboard : Clipboard)
    (now duration : τ) : state.copy clipboard now duration = match clipboard with
      | .accepts => match state.acknowledge? now duration with
        | .ok after => .ok ⟨[text], after⟩
        | .error fault => .error (.time fault)
      | .refuses kind =>
        if kind.isKindOf .exception then .ok ⟨[], none⟩ else .error (.interrupted kind) := by
  unfold copy
  rw [found]
  cases clipboard <;> rfl

end Copying

/-- A clipboard that refuses leaves the session as it is. -/
theorem step_copy_of_refused (kind : Script.ErrorKind) (now duration : τ) :
    state.step (.copy (.refuses kind) now duration : Action τ ε) = state := by
  rw [step]
  cases found : state.copyable? with
  | none =>
    rw [copy_of_nothing found]
    rfl
  | some text =>
    rw [copy_of_copyable found]
    dsimp only
    split_ifs <;> rfl

/-! ## The deadline -/

theorem acknowledge?_of_succeeded {deadline now duration : τ}
    (succeeded : state.status = .succeeded) (later : TimeScale.after now duration = .ok deadline) :
    state.acknowledge? now duration = .ok (some { state with copiedUntil := some deadline }) := by
  rw [acknowledge?, if_pos succeeded, later]
  rfl

theorem copiedUntil_acknowledge (now duration : τ) :
    (state.step (.acknowledge now duration : Action τ ε)).copiedUntil =
      (state.effect? (.acknowledge now duration : Action τ ε)).elim state.copiedUntil
        Effect.deadline? := by
  rw [step, effect?, acknowledge]
  by_cases succeeded : state.status = .succeeded
  · cases later : TimeScale.after now duration with
    | error fault =>
      rw [acknowledge?, if_pos succeeded, later, if_neg fun both => Bool.false_ne_true both.2]
      rfl
    | ok deadline =>
      rw [state.acknowledge?_of_succeeded succeeded later, if_pos ⟨succeeded, rfl⟩]
      rw [Option.elim_some, Effect.deadline?, later]
      rfl
  · rw [acknowledge?, if_neg succeeded, if_neg fun both => succeeded both.1]
    rfl

theorem copiedUntil_copy (clipboard : Clipboard) (now duration : τ) :
    (state.step (.copy clipboard now duration : Action τ ε)).copiedUntil =
      (state.effect? (.copy clipboard now duration : Action τ ε)).elim state.copiedUntil
        Effect.deadline? := by
  rw [step, effect?]
  cases found : state.copyable? with
  | none =>
    rw [copy_of_nothing found]
    rfl
  | some text =>
    rw [copy_of_copyable found]
    cases clipboard with
    | refuses kind =>
      dsimp only
      split_ifs <;> rfl
    | accepts =>
      dsimp only
      have succeeded := succeeded_of_copyable found
      cases later : TimeScale.after now duration with
      | error fault =>
        rw [acknowledge?, if_pos succeeded, later]
        rfl
      | ok deadline =>
        rw [state.acknowledge?_of_succeeded succeeded later]
        dsimp only
        rw [if_neg (List.cons_ne_nil _ _), Option.elim_some, Effect.deadline?, later]
        rfl

/-- A step leaves the deadline alone unless it has an effect on it. -/
theorem copiedUntil_step (action : Action τ ε) :
    (state.step action).copiedUntil =
      (state.effect? action).elim state.copiedUntil Effect.deadline? := by
  cases action with
  | edit source => rfl
  | load given => rfl
  | begin => rfl
  | complete revision result =>
    rw [step, complete, complete?]
    split_ifs <;> rfl
  | execute run =>
    rw [step, effect?]
    cases ran : run state.source with
    | error error =>
      rw [execute_of_error ran]
      rfl
    | ok result =>
      rw [execute_of_ok ran]
      rfl
  | acknowledge now duration => exact state.copiedUntil_acknowledge now duration
  | copy clipboard now duration => exact state.copiedUntil_copy clipboard now duration

/-- Of several steps, the last effect tells the deadline. -/
theorem copiedUntil_after (state : State τ) (actions : List (Action τ ε)) :
    (state.after actions).copiedUntil =
      (state.effects actions).getLast?.elim state.copiedUntil Effect.deadline? := by
  induction actions generalizing state with
  | nil => rfl
  | cons action rest inductionHypothesis =>
    change ((state.step action).after rest).copiedUntil = _
    rw [inductionHypothesis, copiedUntil_step, effects, List.getLast?_append]
    cases (state.effect? action) <;> cases ((state.step action).effects rest).getLast? <;> rfl

theorem isCopied_iff (time : τ) : state.isCopied time = true ↔
    ∃ deadline, state.copiedUntil = some deadline ∧ TimeScale.before time deadline = true := by
  rw [isCopied]
  cases state.copiedUntil with
  | none => exact iff_of_false nofun nofun
  | some deadline => simp

/-! ## Sessions -/

theorem isCopied_after_iff (source : String) (actions : List (Action τ ε)) (time : τ) :
    ((start source).after actions).isCopied time = true ↔ ∃ now duration,
      ((start source : State τ).effects actions).getLast? = some (.acknowledges now duration) ∧
        Lasts now duration time := by
  have deadline : ((start source : State τ).after actions).copiedUntil =
      ((start source : State τ).effects actions).getLast?.bind Effect.deadline? := by
    rw [copiedUntil_after]
    cases ((start source : State τ).effects actions).getLast? <;> rfl
  rw [isCopied_iff, deadline]
  cases ((start source : State τ).effects actions).getLast? with
  | none => exact iff_of_false nofun nofun
  | some effect =>
    cases effect with
    | forgets => exact iff_of_false nofun nofun
    | acknowledges now duration =>
      rw [Option.bind_some, Effect.deadline?]
      cases later : TimeScale.after now duration with
      | error fault =>
        refine iff_of_false nofun ?_
        rintro ⟨_, _, same, deadline, ends, -⟩
        cases same
        cases later.symm.trans ends
      | ok deadline =>
        constructor
        · rintro ⟨_, same, before⟩
          cases same
          exact ⟨now, duration, rfl, deadline, later, before⟩
        · rintro ⟨_, _, same, _, ends, before⟩
          cases same
          cases later.symm.trans ends
          exact ⟨deadline, rfl, before⟩

/-- Whatever was done with a session since it began, it remembers at a time that its text was
copied if and only if the last effect was an acknowledgement that lasts beyond that time.  A copy
asks the clipboard once if the last run succeeded, to take the text of its result, and not at all
otherwise; a refusal of an ordinary kind leaves the state as it is. -/
theorem isCopied_while_last_acknowledgement_lasts (source : String) (actions : List (Action τ ε)) :
    let begun : State τ := start source
    let state := begun.after actions
    (∀ time, state.isCopied time = true ↔ ∃ now duration,
      (begun.effects actions).getLast? = some (.acknowledges now duration) ∧
        Lasts now duration time) ∧
    (state.status ≠ .succeeded →
      ∀ clipboard now duration, state.copy clipboard now duration = .ok ⟨[], none⟩) ∧
    (state.status = .succeeded → ∃ text, state.result = some (.success text) ∧
      ∀ now duration,
        (∀ deadline, TimeScale.after now duration = .ok deadline →
          state.copy .accepts now duration =
            .ok ⟨[text], some { state with copiedUntil := some deadline }⟩) ∧
        ∀ kind, state.copy (.refuses kind) now duration =
          if kind.isKindOf .exception then .ok ⟨[], none⟩ else .error (.interrupted kind)) ∧
    (∀ kind now duration,
      state.step (.copy (.refuses kind) now duration : Action τ ε) = state) ∧
    (∀ now duration time : Int,
      Lasts (Seconds.whole now) (.whole duration) (.whole time) ↔ time < now + duration) ∧
    (∀ now duration time : Rat, Lasts now duration time ↔ time < now + duration) := by
  intro begun state
  have consistent : state.Consistent := (consistent_start source).after actions
  refine ⟨isCopied_after_iff source actions,
    fun unsuccessful => copy_of_nothing (copyable?_of_unsuccessful unsuccessful),
    fun succeeded => ?_, state.step_copy_of_refused, lasts_whole, lasts_rat⟩
  rcases consistent.success_iff.mpr succeeded with ⟨text, held⟩
  have copyable := copyable?_of_succeeded succeeded held
  refine ⟨text, held, fun now duration => ⟨fun deadline later => ?_, fun kind => ?_⟩⟩
  · rw [copy_of_copyable copyable]
    dsimp only
    rw [state.acknowledge?_of_succeeded succeeded later]
  · rw [copy_of_copyable copyable]

end

end State

end Session
end PolicyStudio
