import Mathlib.Data.List.Induction
import PolicyStudio.Proofs.Service.Sessions

/-!
# Visits

A visit is a request with what surrounds it: the time, the settings, and how programs end in
the sandbox.  Visits come one after another, and each finds the sessions that those before it
have left.

Whether a session lives can be told from the visits alone: one of them has created it, and no
later one has deleted it or driven it out.  So what a visit answers is told without a look at
the store.
-/

namespace PolicyStudio
namespace Service

open Session

/-- A request with what surrounds it. -/
structure Visit (τ : Type) where
  setting : Setting τ
  /-- How programs end. -/
  outcome : String → Except String ExecutionResult
  request : Request

variable {τ : Type} [TimeScale τ]

namespace Visit

variable (visit : Visit τ) (store : Store τ)

/-- The answer, and the sessions after it. -/
def answer : Answer × Store τ :=
  Service.answer (visit.setting.sandboxed visit.outcome) visit.request store

/-- A session is created under an identifier. -/
def Creates (id : Nat) : Prop :=
  (visit.answer store).1.status = 201 ∧ id = Identifier.ofSession store.next

/-- A session is deleted, or driven out by a new one. -/
def Removes (id : Nat) : Prop :=
  visit.request.ask? = some (.delete id) ∨
    ((visit.answer store).1.status = 201 ∧ DrivenOut store id)

end Visit

/-- The sessions after visits. -/
def afterVisits (store : Store τ) (visits : List (Visit τ)) : Store τ :=
  visits.foldl (fun store visit => (visit.answer store).2) store

/-- One of the visits creates a session, and no later one removes it. -/
def LivesAfter (store : Store τ) (visits : List (Visit τ)) (id : Nat) : Prop :=
  ∃ earlier visit later, visits = earlier ++ visit :: later ∧
    visit.Creates (afterVisits store earlier) id ∧
    ∀ before next rest, later = before ++ next :: rest →
      ¬next.Removes (afterVisits store (earlier ++ visit :: before)) id

/-! ## One visit -/

/-- What is answered in the end, and the sessions then. -/
def conclude (surroundings : Surroundings) :
    EStateM.Result Refusal (Store τ) Answer → Answer × Store τ
  | .ok answer store => (answer, store)
  | .error refusal store => (refusal.answer surroundings, store)

/-- What can become of a visit. -/
inductive Visited (visit : Visit τ) (store : Store τ) : Answer × Store τ → Prop
  | aside (answer : Answer) (unasked : visit.request.ask? = none) (status : answer.status ≠ 201)
    (silent : answer.body.member? "copied" = none) : Visited visit store (answer, store)
  | served {ask : Ask} {result : EStateM.Result Refusal (Store τ) Answer}
    (asked : visit.request.ask? = some ask) (served : Served visit.setting.now store ask result) :
    Visited visit store (conclude visit.setting.surroundings result)

/-- No endpoint answers with its head only. -/
theorem method_ne_of_find {method : Method} {place : List String} {endpoint : Endpoint}
    (found : Endpoint.find method place = .ok endpoint) : method ≠ .head := by
  rintro rfl
  have none : (Endpoint.allAt place).lookup .head = none := by
    unfold Endpoint.allAt
    repeat' split
    all_goals rfl
  unfold Endpoint.find at found
  split at found
  · cases found
  · rw [none] at found
    cases found

theorem ask?_of_find {request : Request} {endpoint : Endpoint}
    (found : Endpoint.find request.method request.place = .ok endpoint) :
    request.ask? = endpoint.ask? request.body := by
  rw [Request.ask?, found]
  rfl

/-- A visit at an endpoint. -/
theorem Visit.answer_of_find (visit : Visit τ) (store : Store τ) {endpoint : Endpoint}
    (found : Endpoint.find visit.request.method visit.request.place = .ok endpoint) :
    visit.answer store = conclude visit.setting.surroundings
      (Handler.answerAt (visit.setting.sandboxed visit.outcome) visit.request.body endpoint
        store) := by
  unfold Visit.answer Service.answer answerInFull
  rw [found]
  dsimp only
  rw [if_neg (method_ne_of_find found)]
  cases Handler.answerAt (visit.setting.sandboxed visit.outcome) visit.request.body endpoint
    store <;> rfl

theorem aside_refusal {visit : Visit τ} {store : Store τ} (refusal : Refusal)
    (unasked : visit.request.ask? = none) :
    Visited visit store (refusal.answer visit.setting.surroundings, store) := by
  refine .aside _ unasked ?_ rfl
  cases refusal <;> nofun

/-- A visit asks something of the sessions, or leaves them as they are. -/
theorem visited (visit : Visit τ) (store : Store τ) : Visited visit store (visit.answer store) := by
  cases found : Endpoint.find visit.request.method visit.request.place with
  | error fault =>
    have unasked : visit.request.ask? = none := by
      rw [Request.ask?, found]
      rfl
    unfold Visit.answer Service.answer answerInFull
    rw [found]
    cases fault <;>
    · dsimp only
      split <;> exact .aside _ unasked nofun rfl
  | ok endpoint =>
    have asked := ask?_of_find found
    rw [visit.answer_of_find store found]
    cases given : endpoint.ask? visit.request.body with
    | none =>
      have aside := answerAt_of_none visit.setting visit.outcome store given
      generalize Handler.answerAt (visit.setting.sandboxed visit.outcome) visit.request.body
        endpoint store = result at aside
      cases aside with
      | refused refusal => exact aside_refusal refusal (asked.trans given)
      | answered answer status silent => exact .aside answer (asked.trans given) status silent
    | some ask =>
      rw [answerAt_of_some given]
      exact .served (asked.trans given) (served (length_of_ask? given))

/-! ## The sessions after visits -/

namespace Tidy

variable {store : Store τ}

theorem visit (tidy : Tidy store) (visit : Visit τ) : Tidy (visit.answer store).2 := by
  have visited := visited visit store
  generalize visit.answer store = result at visited
  cases visited with
  | aside answer unasked status silent => exact tidy
  | served asked served =>
    cases served with
    | unknown refusal status unknown => exact tidy
    | created source known unnamed short => exact tidy.create (.start short)
    | shown known kept effect found => exact tidy.effect effect
    | failed message known kept effect => exact tidy.effect effect
    | deleted session known asked message => exact tidy.delete session

/-- Whatever is visited, a store stays tidy. -/
theorem afterVisits (tidy : Tidy store) (visits : List (Visit τ)) :
    Tidy (afterVisits store visits) := by
  induction visits generalizing store with
  | nil => exact tidy
  | cons visit rest inductionHypothesis => exact inductionHypothesis (tidy.visit visit)

end Tidy

/-! ## Sessions that live after visits -/

section

variable {store : Store τ} {visit : Visit τ} {id : Nat}

/-- A visit that creates no session removes none but the one that it deletes. -/
theorem changes_iff_of_status (status : (visit.answer store).1.status ≠ 201) :
    visit.Creates store id ∨ (Live store id ∧ ¬visit.Removes store id) ↔
      Live store id ∧ visit.request.ask? ≠ some (.delete id) := by
  have creates : ¬visit.Creates store id := fun both => status both.1
  -- Without a new session, nothing is driven out.
  have removes : visit.Removes store id ↔ visit.request.ask? = some (.delete id) :=
    or_iff_left fun both => status both.1
  rw [or_iff_right creates, removes]

/-- After a visit, the sessions live that it creates, and those that lived and that it does not
remove. -/
theorem live_answer_iff (tidy : Tidy store) (visit : Visit τ) :
    Live (visit.answer store).2 id ↔
      visit.Creates store id ∨ (Live store id ∧ ¬visit.Removes store id) := by
  have visited := visited visit store
  generalize same : visit.answer store = result at visited
  -- All cases but that of a new session and that of a deletion.
  have kept : ∀ {after : Store τ}, result.1.status ≠ 201 → (Live after id ↔ Live store id) →
      (Live store id → visit.request.ask? ≠ some (.delete id)) →
      (Live after id ↔ visit.Creates store id ∨ (Live store id ∧ ¬visit.Removes store id)) := by
    intro after status lives undeleted
    rw [changes_iff_of_status (same ▸ status), lives]
    exact (and_iff_left_of_imp undeleted).symm
  cases visited with
  | aside answer unasked status silent =>
    refine kept status Iff.rfl fun _ asked => ?_
    cases unasked.symm.trans asked
  | served asked served =>
    cases served with
    | unknown refusal status unknown =>
      refine kept (fun created => ?_) Iff.rfl fun live asked' => ?_
      · cases status.symm.trans created
      · cases asked.symm.trans asked'
        rcases unknown with ⟨other, named, dead⟩ | ⟨name, needed, -⟩
        · cases named
          exact dead live
        · cases needed
    | created source known unnamed short =>
      have status : (visit.answer store).1.status = 201 := congrArg (·.1.status) same
      have creates : visit.Creates store id ↔ id = Identifier.ofSession store.next :=
        and_iff_right status
      have removes : visit.Removes store id ↔ DrivenOut store id := by
        rw [Visit.Removes, or_iff_right, and_iff_right status]
        intro deleted
        cases asked.symm.trans deleted
        cases unnamed
      rw [creates, removes]
      exact live_create tidy.numbered tidy.room
    | shown known undeleted effect found =>
      refine kept nofun effect.live fun _ deleted => ?_
      exact undeleted id (Option.some.inj (asked.symm.trans deleted))
    | failed message known undeleted effect =>
      refine kept nofun effect.live fun _ deleted => ?_
      exact undeleted id (Option.some.inj (asked.symm.trans deleted))
    | deleted session known named message =>
      subst named
      rw [changes_iff_of_status (same ▸ nofun), asked]
      refine live_delete.trans (and_congr_right' (not_congr ?_))
      exact ⟨fun same => same ▸ rfl, fun same => (Ask.delete.inj (Option.some.inj same)).symm⟩

end

theorem afterVisits_append (store : Store τ) (earlier later : List (Visit τ)) :
    afterVisits store (earlier ++ later) = afterVisits (afterVisits store earlier) later :=
  List.foldl_append

/-- One more visit creates or removes sessions. -/
theorem livesAfter_concat {store : Store τ} {visits : List (Visit τ)} {last : Visit τ} {id : Nat} :
    LivesAfter store (visits ++ [last]) id ↔ last.Creates (afterVisits store visits) id ∨
      (LivesAfter store visits id ∧ ¬last.Removes (afterVisits store visits) id) := by
  constructor
  · rintro ⟨earlier, creator, later, split, creates, kept⟩
    rcases List.eq_nil_or_concat' later with rfl | ⟨between, final, rfl⟩
    · rcases List.append_inj' split rfl with ⟨rfl, same⟩
      cases same
      exact Or.inl creates
    · rw [← List.cons_append, ← List.append_assoc] at split
      rcases List.append_inj' split rfl with ⟨rfl, same⟩
      cases same
      refine Or.inr ⟨⟨earlier, creator, between, rfl, creates, ?_⟩, kept between last [] rfl⟩
      rintro before next rest rfl
      exact kept before next (rest ++ [last]) (List.append_assoc _ _ _)
  · rintro (creates | ⟨⟨earlier, creator, later, rfl, creates, kept⟩, stays⟩)
    · refine ⟨visits, last, [], rfl, creates, fun before next rest split => ?_⟩
      cases before <;> cases split
    · refine ⟨earlier, creator, later ++ [last], List.append_assoc _ _ _, creates, ?_⟩
      intro before next rest split
      rcases List.eq_nil_or_concat' rest with rfl | ⟨between, final, rfl⟩
      · rcases List.append_inj' split rfl with ⟨rfl, same⟩
        cases same
        exact stays
      · rw [← List.cons_append, ← List.append_assoc] at split
        rcases List.append_inj' split rfl with ⟨rfl, -⟩
        exact kept before next between rfl

/-- The store holds the sessions that live. -/
theorem live_afterVisits_iff (limit : Int) (visits : List (Visit τ)) (id : Nat) :
    Live (afterVisits (.empty limit) visits) id ↔ LivesAfter (.empty limit) visits id := by
  induction visits using List.reverseRecOn with
  | nil =>
    refine iff_of_false ?_ ?_
    · rintro ⟨session, member, -⟩
      cases member
    · rintro ⟨earlier, creator, later, split, -⟩
      cases earlier <;> cases split
  | append_singleton visits last inductionHypothesis =>
    rw [livesAfter_concat, ← inductionHypothesis, afterVisits_append]
    exact live_answer_iff ((Tidy.empty limit).afterVisits visits) last

/-! ## Answers -/

section

variable {store : Store τ} {visit : Visit τ}

/-- A valid request is not found and does nothing, or all that it names is known. -/
theorem unknown_or_known (store : Store τ) {ask : Ask} (asked : visit.request.ask? = some ask) :
    ((visit.answer store).1.status = 404 ∧ ask.NamesUnknown (Live store) ∧
        (visit.answer store).2 = store) ∨
      ((visit.answer store).1.status ≠ 404 ∧ (visit.answer store).1.status ≠ 422 ∧
        ¬ask.NamesUnknown (Live store)) := by
  have visited := visited visit store
  generalize visit.answer store = result at visited ⊢
  cases visited with
  | aside answer unasked status silent => cases unasked.symm.trans asked
  | served asked' served =>
    cases asked'.symm.trans asked
    cases served with
    | unknown refusal status unknown => exact Or.inl ⟨status, unknown, rfl⟩
    | created source known unnamed short => exact Or.inr ⟨nofun, nofun, known⟩
    | shown known undeleted effect found => exact Or.inr ⟨nofun, nofun, known⟩
    | failed message known undeleted effect => exact Or.inr ⟨nofun, nofun, known⟩
    | deleted session known named message => exact Or.inr ⟨nofun, nofun, known⟩

/-- A visit that asks nothing of the sessions does nothing with them. -/
theorem answer_of_unasked (unasked : visit.request.ask? = none) : (visit.answer store).2 = store := by
  have visited := visited visit store
  generalize visit.answer store = result at visited ⊢
  cases visited with
  | aside answer unasked status silent => rfl
  | served asked served => cases unasked.symm.trans asked

theorem status_eq_404_iff {ask : Ask} (asked : visit.request.ask? = some ask) :
    (visit.answer store).1.status = 404 ↔ ask.NamesUnknown (Live store) := by
  rcases unknown_or_known store asked with ⟨status, unknown, -⟩ | ⟨found, -, known⟩
  · exact iff_of_true status unknown
  · exact iff_of_false found known

/-- What is not found or not valid does nothing. -/
theorem answer_of_refused (refused : (visit.answer store).1.status = 404 ∨
    (visit.answer store).1.status = 422) : (visit.answer store).2 = store := by
  cases asked : visit.request.ask? with
  | none => exact answer_of_unasked asked
  | some ask =>
    rcases unknown_or_known store asked with ⟨-, -, same⟩ | ⟨found, valid, -⟩
    · exact same
    · exact absurd refused (not_or.mpr ⟨found, valid⟩)

/-- A visit at an endpoint about sessions is refused as not valid exactly if there is nothing
valid that it asks. -/
theorem status_eq_422_iff {endpoint : Endpoint}
    (found : Endpoint.find visit.request.method visit.request.place = .ok endpoint)
    (about : endpoint.isAboutSessions = true) :
    (visit.answer store).1.status = 422 ↔ visit.request.ask? = none := by
  have asked := ask?_of_find found
  cases given : endpoint.ask? visit.request.body with
  | none =>
    rcases refused_of_none (visit.setting.sandboxed visit.outcome) store given about with
      ⟨problems, refused⟩
    rw [visit.answer_of_find store found, refused]
    exact iff_of_true rfl (asked.trans given)
  | some ask =>
    refine iff_of_false ?_ fun unasked => nomatch (asked.trans given).symm.trans unasked
    rcases unknown_or_known store (asked.trans given) with ⟨status, -, -⟩ | ⟨-, valid, -⟩
    · exact fun invalid => nomatch status.symm.trans invalid
    · exact valid

/-- Only the text of a success is shown as copied. -/
theorem sessionJson_of_copied {now : τ} {id : Nat} {state : State τ} (admissible : Admissible state)
    (copied : (sessionJson now id state).member? "copied" = some (.truth true)) :
    (sessionJson now id state).member? "status" = some (.text "SUCCEEDED") ∧
      ∃ text, (sessionJson now id state).member? "result" =
        some (ExecutionResult.success text).json := by
  have remembered : state.isCopied now = true := Json.truth.inj (Option.some.inj copied)
  have marked : state.copiedUntil.isSome = true := by
    unfold State.isCopied at remembered
    split at remembered
    · cases remembered
    · next deadline held =>
      rw [held]
      rfl
  have succeeded := admissible.consistent.copied marked
  rcases admissible.consistent.success_iff.mpr succeeded with ⟨text, held⟩
  refine ⟨?_, text, ?_⟩
  · change some (Json.text state.status.name) = _
    rw [succeeded]
    rfl
  · change some ((state.result.map ExecutionResult.json).getD .null) = _
    rw [held]
    rfl

theorem answer_of_copied (tidy : Tidy store)
    (copied : (visit.answer store).1.body.member? "copied" = some (.truth true)) :
    (visit.answer store).1.body.member? "status" = some (.text "SUCCEEDED") ∧
      ∃ text, (visit.answer store).1.body.member? "result" =
        some (ExecutionResult.success text).json := by
  have visited := visited visit store
  have after := tidy.visit visit
  generalize visit.answer store = result at visited after copied ⊢
  cases visited with
  | aside answer unasked status silent => cases silent.symm.trans copied
  | served asked served =>
    cases served with
    | unknown refusal status unknown => cases copied
    | created source known unnamed short => cases copied
    | shown known undeleted effect found =>
      exact sessionJson_of_copied (after.admissible _ (Store.mem_of_get? found)) copied
    | failed message known undeleted effect => cases copied
    | deleted session known named message => cases copied

/-- A new session is answered with its identifier. -/
theorem answer_of_created (created : (visit.answer store).1.status = 201) :
    (visit.answer store).1.body.member? "id" =
      some (.text (Identifier.text (Identifier.ofSession store.next))) := by
  have visited := visited visit store
  generalize visit.answer store = result at visited created ⊢
  cases visited with
  | aside answer unasked status silent => exact absurd created status
  | served asked served =>
    cases served with
    | unknown refusal status unknown => cases status.symm.trans created
    | created source known unnamed short => rfl
    | shown known undeleted effect found => cases created
    | failed message known undeleted effect => cases created
    | deleted session known named message => cases created

end

/-! ## All visits -/

/-- Whatever visits come, and whenever: a visit with a valid request about sessions is answered
as not found exactly if it names a session that none has created, or that was deleted or driven
out since, or an example that is not in the catalog.  A visit that is refused as not found or
not valid leaves the store as it is.  The programs in the store are not too long, and only the
text of a success is shown as copied. -/
theorem visits_are_answered (limit : Int) (visits : List (Visit τ)) (next : Visit τ) :
    let store := afterVisits (.empty limit) visits
    let answer := (next.answer store).1
    let after := (next.answer store).2
    (∀ endpoint, Endpoint.find next.request.method next.request.place = .ok endpoint →
      endpoint.isAboutSessions = true → (answer.status = 422 ↔ next.request.ask? = none)) ∧
    (∀ ask, next.request.ask? = some ask →
      (answer.status = 404 ↔ ask.NamesUnknown (LivesAfter (.empty limit) visits))) ∧
    (answer.status = 404 ∨ answer.status = 422 → after = store) ∧
    (∀ entry ∈ store.sessions, entry.2.source.length ≤ 100000) ∧
    (answer.body.member? "copied" = some (.truth true) →
      answer.body.member? "status" = some (.text "SUCCEEDED") ∧
      ∃ text, answer.body.member? "result" = some (ExecutionResult.success text).json) ∧
    (answer.status = 201 → answer.body.member? "id" =
      some (.text (Identifier.text (Identifier.ofSession store.next)))) := by
  intro store answer after
  have tidy : Tidy store := (Tidy.empty limit).afterVisits visits
  refine ⟨fun endpoint => status_eq_422_iff, ?_, answer_of_refused,
    fun entry listed => (tidy.admissible entry listed).short, answer_of_copied tidy,
    answer_of_created⟩
  intro ask asked
  have lives : LivesAfter (.empty limit) visits = Live store :=
    funext fun id => propext (live_afterVisits_iff limit visits id).symm
  rw [lives]
  exact status_eq_404_iff asked

end Service
end PolicyStudio
