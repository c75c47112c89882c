import Mathlib.Data.List.Forall2
import Mathlib.Tactic.SplitIfs
import PolicyStudio.Policy.Error

/-!
# Outcomes of several steps

Building and rendering are sequences of steps that may be refused.  A sequence
comes to a result exactly if every step does, and the same holds of one step for
every member of a list.
-/

namespace PolicyStudio
namespace Outcome

variable {ε α β : Type}

/-- Two steps come to a result through a result of the first one. -/
theorem bind_eq_ok {x : Except ε α} {f : α → Except ε β} {b : β} :
    x >>= f = .ok b ↔ ∃ a, x = .ok a ∧ f a = .ok b := by
  cases x with
  | error e => exact ⟨fun impossible => (nomatch impossible), fun ⟨_, impossible, _⟩ => (nomatch impossible)⟩
  | ok a =>
    constructor
    · exact fun result => ⟨a, rfl, result⟩
    · rintro ⟨_, equal, result⟩
      cases equal
      exact result

/-- Steps that change a state come to a result through a result and a state of the first one. -/
theorem bind_state_eq_ok {σ : Type} {x : EStateM ε σ α} {f : α → EStateM ε σ β} {start final : σ}
    {b : β} : (x >>= f) start = .ok b final ↔
      ∃ a middle, x start = .ok a middle ∧ f a middle = .ok b final := by
  change EStateM.bind x f start = .ok b final ↔ _
  unfold EStateM.bind
  cases first : x start with
  | ok a middle =>
    constructor
    · intro result
      exact ⟨a, middle, rfl, result⟩
    · rintro ⟨_, _, equal, result⟩
      cases equal
      exact result
  | error e middle =>
    constructor
    · intro impossible
      cases impossible
    · rintro ⟨_, _, impossible, -⟩
      cases impossible

/-- A step that is never refused comes to its one result. -/
theorem eq_of_pure {a b : α} (result : (pure a : Except ε α) = .ok b) : a = b :=
  Except.ok.inj result

theorem pure_eq_ok {a b : α} : (pure a : Except ε α) = .ok b ↔ b = a :=
  ⟨fun result => (eq_of_pure result).symm, fun equal => congrArg Except.ok equal.symm⟩

/-- A step that is refused on a condition comes to a result only where that is not met. -/
theorem guarded_eq_ok {p : Prop} [Decidable p] {error : ε} {x : Except ε α} {a : α} :
    (if p then .error error else x) = .ok a ↔ ¬p ∧ x = .ok a := by
  split_ifs with refused
  · exact iff_of_false nofun fun both => both.1 refused
  · rw [and_iff_right refused]

/-- Something is made of the result of a step. -/
theorem bind_pure_eq_ok {x : Except ε α} {make : α → β} {b : β} :
    (x >>= fun a => pure (make a)) = .ok b ↔ ∃ a, x = .ok a ∧ b = make a := by
  simp only [bind_eq_ok, pure_eq_ok]

/-- Something is made of the results of two steps. -/
theorem bind_bind_pure_eq_ok {γ : Type} {x : Except ε α} {y : Except ε β} {make : α → β → γ} {c : γ} :
    (x >>= fun a => y >>= fun b => pure (make a b)) = .ok c ↔
      ∃ a b, x = .ok a ∧ y = .ok b ∧ c = make a b := by
  simp only [bind_eq_ok, pure_eq_ok, exists_and_left]

/-- Another wording for refusals does not change results. -/
theorem mapError_eq_ok {ε' : Type} {x : Except ε α} {f : ε → ε'} {a : α} :
    x.mapError f = .ok a ↔ x = .ok a := by
  cases x with
  | error e => exact ⟨fun impossible => (nomatch impossible), fun impossible => (nomatch impossible)⟩
  | ok b => exact ⟨fun equal => by cases equal; rfl, fun equal => by cases equal; rfl⟩

/-- A result is turned into another one only if there is one. -/
theorem map_eq_ok {x : Except ε α} {f : α → β} {b : β} :
    x.map f = .ok b ↔ ∃ a, x = .ok a ∧ f a = b := by
  cases x with
  | error e => exact ⟨fun impossible => (nomatch impossible), fun ⟨_, impossible, _⟩ => (nomatch impossible)⟩
  | ok a =>
    constructor
    · exact fun result => ⟨a, rfl, Except.ok.inj result⟩
    · rintro ⟨_, equal, rfl⟩
      cases equal
      rfl

/-- A refusal stays as it is. -/
theorem map_eq_error {x : Except ε α} {f : α → β} {e : ε} : x.map f = .error e ↔ x = .error e := by
  cases x with
  | error e' => exact ⟨fun equal => by cases equal; rfl, fun equal => by cases equal; rfl⟩
  | ok a => exact ⟨fun impossible => (nomatch impossible), fun impossible => (nomatch impossible)⟩

/-- The steps for a list come to the results of its members, one after the other. -/
theorem mapM_cons_eq_ok {f : α → Except ε β} {a : α} {as : List α} {bs : List β} :
    (a :: as).mapM f = .ok bs ↔ ∃ b rest, f a = .ok b ∧ as.mapM f = .ok rest ∧ bs = b :: rest := by
  rw [List.mapM_cons]
  constructor
  · intro result
    rcases bind_eq_ok.mp result with ⟨b, first, result⟩
    rcases bind_eq_ok.mp result with ⟨rest, others, equal⟩
    exact ⟨b, rest, first, others, (eq_of_pure equal).symm⟩
  · rintro ⟨b, rest, first, others, rfl⟩
    exact bind_eq_ok.mpr ⟨b, first, bind_eq_ok.mpr ⟨rest, others, rfl⟩⟩

theorem length_of_mapM {f : α → Except ε β} {as : List α} {bs : List β}
    (result : as.mapM f = .ok bs) : bs.length = as.length := by
  induction as generalizing bs with
  | nil =>
    cases result
    rfl
  | cons a rest inductionHypothesis =>
    rcases mapM_cons_eq_ok.mp result with ⟨first, others, -, othersResult, rfl⟩
    rw [List.length_cons, List.length_cons, inductionHypothesis othersResult]

/-- Each member of a result comes from a member of the list. -/
theorem exists_of_mem_mapM {f : α → Except ε β} {as : List α} {bs : List β}
    (result : as.mapM f = .ok bs) : ∀ b ∈ bs, ∃ a ∈ as, f a = .ok b := by
  induction as generalizing bs with
  | nil =>
    cases result
    exact fun _ impossible => nomatch impossible
  | cons a rest inductionHypothesis =>
    rcases mapM_cons_eq_ok.mp result with ⟨first, others, firstResult, othersResult, rfl⟩
    intro b member
    rcases List.mem_cons.mp member with equal | member
    · exact ⟨a, List.mem_cons_self, equal ▸ firstResult⟩
    · rcases inductionHypothesis othersResult b member with ⟨source, listed, made⟩
      exact ⟨source, List.mem_cons_of_mem _ listed, made⟩

/-- The steps for a list come to a result exactly if the step for every member does. -/
theorem exists_mapM_eq_ok_iff {f : α → Except ε β} {as : List α} :
    (∃ bs, as.mapM f = .ok bs) ↔ ∀ a ∈ as, ∃ b, f a = .ok b := by
  induction as with
  | nil => exact ⟨fun _ _ impossible => (nomatch impossible), fun _ => ⟨[], rfl⟩⟩
  | cons a rest inductionHypothesis =>
    rw [List.forall_mem_cons, ← inductionHypothesis]
    constructor
    · rintro ⟨bs, result⟩
      rcases mapM_cons_eq_ok.mp result with ⟨first, others, firstResult, othersResult, -⟩
      exact ⟨⟨first, firstResult⟩, others, othersResult⟩
    · rintro ⟨⟨first, firstResult⟩, others, othersResult⟩
      exact ⟨_, mapM_cons_eq_ok.mpr ⟨first, others, firstResult, othersResult, rfl⟩⟩

/-- Each result stands where the member of the list stands that it is for. -/
theorem forall₂_of_mapM {f : α → Except ε β} {as : List α} {bs : List β}
    (result : as.mapM f = .ok bs) : List.Forall₂ (fun a b => f a = .ok b) as bs := by
  induction as generalizing bs with
  | nil =>
    cases result
    exact .nil
  | cons a rest inductionHypothesis =>
    rcases mapM_cons_eq_ok.mp result with ⟨first, others, firstResult, othersResult, rfl⟩
    exact .cons firstResult (inductionHypothesis othersResult)

/-- The steps for a list come to a result exactly if the step for each member comes to the result
in its place. -/
theorem mapM_eq_ok {f : α → Except ε β} {as : List α} {bs : List β} :
    as.mapM f = .ok bs ↔ List.Forall₂ (fun a b => f a = .ok b) as bs := by
  refine ⟨forall₂_of_mapM, fun each => ?_⟩
  induction each with
  | nil => rfl
  | cons first others inductionHypothesis =>
    exact mapM_cons_eq_ok.mpr ⟨_, _, first, inductionHypothesis, rfl⟩

/-- A check that hands on what it accepts leaves a list as it is. -/
theorem mapM_eq_self {f : α → Except ε α} (check : ∀ a b, f a = .ok b → b = a) {as bs : List α}
    (result : as.mapM f = .ok bs) : bs = as := by
  induction as generalizing bs with
  | nil =>
    cases result
    rfl
  | cons a rest inductionHypothesis =>
    rcases mapM_cons_eq_ok.mp result with ⟨first, others, firstResult, othersResult, rfl⟩
    rw [check a first firstResult, inductionHypothesis othersResult]

end Outcome
end PolicyStudio
