import PolicyStudio.Proofs.Session.Progress
import PolicyStudio.Proofs.Session.Recency

/-!
# Executes of a store

An execute leaves the store open while its program runs.  When the program returns a result,
the result is recorded exactly if the session is still there and nothing has moved it on;
otherwise the session stays as others have left it, and so do all other sessions in any case.
A program that leaves the store alone makes of the session what becomes of its state when it is
executed by itself.

When the program raises an error instead, nobody completes the run.  The session is left
running, until it is edited or executed again.
-/

namespace PolicyStudio
namespace Session

variable {τ ε : Type} {store : Store τ} {id : Id} {state : State τ}

/-! ## Results -/

/-- Nothing has moved a session on. -/
def IsUnmoved (id : Id) (accesses : List (Access τ (Move (Alteration τ)))) : Prop :=
  ∀ access ∈ accesses, access.move? id = none

namespace Store

/-- The sessions without one hold nothing under its number. -/
theorem lookup_without_self (store : Store τ) (id : Id) : (store.without id).lookup id = none := by
  rw [List.lookup_eq_none_iff]
  rintro ⟨other, state⟩ entry
  exact bne_iff_ne.mpr (mem_without.mp entry).1.symm

/-- The sessions without one are the others. -/
theorem lookup_without_of_ne {other : Id} (different : other ≠ id) (store : Store τ) :
    (store.without id).lookup other = store.sessions.lookup other := by
  unfold without
  induction store.sessions with
  | nil => rfl
  | cons entry rest inductionHypothesis =>
    rw [List.filter_cons]
    by_cases removed : entry.1 = id
    · rw [if_neg (by simp [removed]), inductionHypothesis, List.lookup_cons]
      rw [show (other == entry.1) = false from beq_eq_false_iff_ne.mpr (removed ▸ different)]
    · rw [if_pos (by simp [removed]), List.lookup_cons, List.lookup_cons, inductionHypothesis]

theorem get?_put_self (store : Store τ) (id : Id) (state : State τ) :
    (store.put id state).get? id = some state := by
  show (store.without id ++ [(id, state)]).lookup id = some state
  rw [List.lookup_append, lookup_without_self, Option.none_or, List.lookup_cons_self]

theorem get?_put_of_ne {other : Id} (different : other ≠ id) (store : Store τ) (state : State τ) :
    (store.put id state).get? other = store.get? other := by
  show (store.without id ++ [(id, state)]).lookup other = store.sessions.lookup other
  have last : [(id, state)].lookup other = none := by
    rw [List.lookup_cons, beq_eq_false_iff_ne.mpr different]
    rfl
  rw [List.lookup_append, lookup_without_of_ne different, last, Option.or_none]

/-- Of two states that are put for a session only the second one stays. -/
theorem put_put (store : Store τ) (id : Id) (first second : State τ) :
    (store.put id first).put id second = store.put id second := by
  have without : (store.put id first).without id = store.without id := by
    change (store.without id ++ [(id, first)]).filter _ = _
    rw [List.filter_append, List.filter_eq_self.mpr, List.filter_cons_of_neg, List.filter_nil,
      List.append_nil]
    · simp
    · exact fun entry listed => (List.mem_filter.mp listed).2
  unfold put at without ⊢
  rw [without]

theorem get?_eq_none_iff (store : Store τ) (id : Id) :
    store.get? id = none ↔ id ∉ store.order := by
  constructor
  · exact not_mem_order
  · intro absent
    cases found : store.get? id with
    | none => rfl
    | some state => exact absurd (mem_order (mem_of_get? found)) absent

end Store

/-- How a result is handed to a session that was there when its run began. -/
inductive Handed (state : State τ) (between : Store τ) (id : Id) (result : ExecutionResult)
    (unmoved : Prop) : Option (State τ) → Store τ → Prop
  | recorded (still : unmoved) (present : id ∈ between.order) :
    Handed state between id result unmoved (some (state.recorded result))
      (between.put id (state.recorded result))
  | dropped {held : State τ} (moved : ¬unmoved) (found : between.get? id = some held)
    (other : held ≠ state.recorded result) :
    Handed state between id result unmoved (some held) (between.put id held)
  | gone (missing : between.get? id = none) :
    Handed state between id result unmoved none between

/-- An execute whose program returns a result after it has done operations of its own. -/
theorem handed_of_execute [TimeScale τ] (numbered : store.Numbered)
    (present : store.get? id = some state) {run : Store.Runner τ ε} {result : ExecutionResult}
    {during : List (Operation τ (Alteration τ) ε)}
    (ran : run state.source (store.put id state.begin) =
      (.ok result, (store.put id state.begin).performAll Alteration.apply during)) :
    ∃ answer after, store.execute id run = (.ok answer, after) ∧
      Handed state ((store.put id state.begin).performAll Alteration.apply during) id result
        (IsUnmoved id (accessesOf Alteration.apply (store.put id state.begin) during))
        answer after := by
  have entry := Store.mem_of_get? present
  have follows := follows_performAll (numbered.put entry state.begin) id during
  have executed := store.executed id run
  generalize store.execute id run = finished at executed
  cases executed with
  | absent missing => cases missing.symm.trans present
  | raised found raised =>
    cases found.symm.trans present
    cases raised.symm.trans ran
  | returned found returned =>
    cases found.symm.trans present
    cases returned.symm.trans ran
    refine ⟨_, _, rfl, ?_⟩
    generalize (store.put id state.begin).performAll Alteration.apply during = between at *
    unfold Store.modify
    cases there : between.get? id with
    | none => exact .gone there
    | some held =>
      dsimp only
      have progress := follows.progress_of_put numbered (Store.mem_order entry)
        (Store.mem_of_get? there)
      cases last : lastMove? id
        (accessesOf Alteration.apply (store.put id state.begin) during) with
      | none =>
        rw [last] at progress
        rw [progress.complete_of_none]
        exact .recorded ((lastMove?_eq_none_iff _ _).mp last)
          (Store.mem_order (Store.mem_of_get? there))
      | some move =>
        rw [last] at progress
        rcases progress.complete_of_some result with ⟨kept, other⟩
        rw [kept]
        refine .dropped ?_ there other
        intro still
        rw [(lastMove?_eq_none_iff _ _).mpr still] at last
        cases last

theorem order_of_gone {between : Store τ} (absent : id ∉ between.order) :
    between.order.filter (· != id) = between.order := by
  rw [List.filter_eq_self]
  intro other member
  apply bne_iff_ne.mpr
  rintro rfl
  exact absent member

/-- Whatever the program of an execute does to the store before it returns a result, nested
executes included: the result is recorded exactly if the session is still there and was neither
edited, nor loaded, nor begun again.  Then the execute answers with the state in which the run
began, but for the result and the status after it.  Otherwise it answers with what is there of
the session, as it was left.  The session is where the answer says, and becomes the latest if
it is there.  All other sessions stay as they were left, in the same order. -/
theorem result_is_recorded_iff [TimeScale τ] (numbered : store.Numbered)
    (present : store.get? id = some state) {run : Store.Runner τ ε} {result : ExecutionResult}
    {during : List (Operation τ (Alteration τ) ε)}
    (ran : run state.source (store.put id state.begin) =
      (.ok result, (store.put id state.begin).performAll Alteration.apply during)) :
    let begun := store.put id state.begin
    let between := begun.performAll Alteration.apply during
    let stands := id ∈ between.order ∧ IsUnmoved id (accessesOf Alteration.apply begun during)
    ∃ answer after, store.execute id run = (.ok answer, after) ∧
      (answer = some (state.recorded result) ↔ stands) ∧
      (¬stands → answer = between.get? id) ∧
      after.get? id = answer ∧
      (∀ other ≠ id, after.get? other = between.get? other) ∧
      after.order = between.order.filter (· != id) ++ if id ∈ between.order then [id] else [] := by
  intro begun between stands
  rcases handed_of_execute numbered present ran with ⟨answer, after, executed, handed⟩
  refine ⟨answer, after, executed, ?_⟩
  cases handed with
  | recorded still there =>
    refine ⟨iff_of_true rfl ⟨there, still⟩, fun fallen => absurd ⟨there, still⟩ fallen,
      Store.get?_put_self _ _ _, fun other different => Store.get?_put_of_ne different _ _, ?_⟩
    rw [Store.order_put, if_pos there]
  | @dropped held moved found other =>
    have there : id ∈ between.order := Store.mem_order (Store.mem_of_get? found)
    refine ⟨iff_of_false ?_ fun both => moved both.2, fun _ => found.symm,
      Store.get?_put_self _ _ _, fun other different => Store.get?_put_of_ne different _ _, ?_⟩
    · intro same
      exact other (Option.some.inj same)
    · rw [Store.order_put, if_pos there]
  | gone missing =>
    have absent : id ∉ between.order := (between.get?_eq_none_iff id).mp missing
    refine ⟨iff_of_false nofun fun both => absent both.1, fun _ => missing.symm, missing,
      fun _ _ => rfl, ?_⟩
    rw [if_neg absent, List.append_nil, order_of_gone absent]

/-- Two sessions, and no room for a third. -/
def pairStore : Store Seconds :=
  ⟨[(0, .start "outer"), (1, .start "inner")], 2, 2⟩

/-- What the program of the first session does: it runs that of the second, which edits it
meanwhile, then it asks for an acknowledgement of its own text, and creates a session, which
drives out the second. -/
def nestedOperations : List (Operation Seconds (Alteration Seconds) Unit) :=
  [.execute 1 [.access (.update 1 (.edit "edited"))] (.ok (.success "late")),
    .access (.update 0 (.acknowledge (.whole 0) (.whole 2))),
    .access (.create (.start "third"))]

/-- The program does these operations and returns a text. -/
def nestedRun : Store.Runner Seconds Unit := fun _ between =>
  (.ok (.success "text"), between.performAll Alteration.apply nestedOperations)

theorem result_is_recorded_of_nested :
    ∃ after, pairStore.execute 0 nestedRun =
        (.ok (some ⟨"outer", .succeeded, some (.success "text"), 1, none⟩), after) ∧
      after.order = [2, 0] := by
  have numbered : pairStore.Numbered := ⟨by decide, by decide⟩
  rcases result_is_recorded_iff numbered (show pairStore.get? 0 = some (.start "outer") from rfl)
    (show nestedRun _ _ = _ from rfl) with ⟨answer, after, executed, recorded, -, -, -, order⟩
  refine ⟨after, ?_, order⟩
  rw [executed, recorded.mpr]
  · rfl
  · constructor
    · decide
    · unfold IsUnmoved
      decide

/-! ## Programs that leave the store alone -/

/-- An execute whose program leaves the store as it found it records the result. -/
theorem Store.execute_of_quiet (present : store.get? id = some state) {run : Store.Runner τ ε}
    {result : ExecutionResult}
    (quiet : run state.source (store.put id state.begin) = (.ok result, store.put id state.begin)) :
    store.execute id run =
      (.ok (some (state.recorded result)), store.put id (state.recorded result)) := by
  have executed := store.executed id run
  generalize store.execute id run = finished at executed ⊢
  cases executed with
  | absent missing => cases missing.symm.trans present
  | raised found ran =>
    cases found.symm.trans present
    cases ran.symm.trans quiet
  | returned found ran =>
    cases found.symm.trans present
    cases ran.symm.trans quiet
    rw [Store.modify, Store.get?_put_self]
    dsimp only
    rw [state.complete_begin result, Store.put_put]

/-- What an execute of a session comes to is made of one answer: what its program, asked once for
the source of the session after the run has begun, answers and leaves of the store.  If that is a
result, and the store as it was found, then the session becomes exactly what its state becomes
when it is executed alone, wherever it stood before: it has succeeded or failed with the result,
at the next revision.  It is the latest session then, and all others are as they were, in the
same order. -/
theorem execute_of_store_is_that_of_state (present : store.get? id = some state) :
    let begun := store.put id state.begin
    (∃ finish : Except ε ExecutionResult × Store τ → Except ε (Option (State τ)) × Store τ,
      ∀ run : Store.Runner τ ε, store.execute id run = finish (run state.source begun)) ∧
    ∀ (run : Store.Runner τ ε) (result : ExecutionResult),
      run state.source begun = (.ok result, begun) →
      ∃ outcome after,
        state.execute (fun source => (run source begun).1) = .ok outcome ∧
        store.execute id run = (.ok (some outcome), after) ∧
        after.get? id = some outcome ∧
        (∀ other ≠ id, after.get? other = store.get? other) ∧
        after.order = store.order.filter (· != id) ++ [id] ∧
        (outcome.status = .succeeded ∨ outcome.status = .failed) ∧
        outcome.status = .ofResult result ∧ outcome.result = some result ∧
        outcome.revision = state.revision + 1 := by
  intro begun
  constructor
  · -- The answer may as well be given by a program that looks at nothing.
    refine ⟨fun answered => store.execute id fun _ _ => answered, fun run => ?_⟩
    unfold Store.execute Store.modify
    rw [present]
    rfl
  · intro run result quiet
    have returned : (run state.source begun).1 = .ok result := by rw [quiet]
    have ended : (Status.ofResult result = .succeeded ∨ Status.ofResult result = .failed) := by
      cases result with
      | success text => exact .inl rfl
      | failure message worded => exact .inr rfl
    exact ⟨state.recorded result, store.put id (state.recorded result),
      State.execute_of_ok returned, Store.execute_of_quiet present quiet,
      Store.get?_put_self _ _ _, fun other different => Store.get?_put_of_ne different _ _,
      Store.order_put _ _ _, ended, rfl, rfl, rfl⟩

/-- The first session is running, because a run of it was abandoned. -/
def abandonedStore : Store Seconds :=
  ⟨[(0, ⟨"outer", .running, none, 4, none⟩), (1, .start "inner")], 2, 2⟩

/-- A new run of that session fails, and says so. -/
theorem execute_of_store_is_that_of_running :
    ∃ outcome after,
      abandonedStore.execute 0 (fun _ between =>
        ((.ok (.failure "message" (by decide)) : Except Unit ExecutionResult), between)) =
          (.ok (some outcome), after) ∧
      after.order = [1, 0] ∧ after.get? 1 = some (.start "inner") ∧
      outcome.status = .failed ∧ outcome.revision = 5 := by
  have present : abandonedStore.get? 0 = some ⟨"outer", .running, none, 4, none⟩ := rfl
  rcases (execute_of_store_is_that_of_state present).2
    (fun _ between => ((.ok (.failure "message" (by decide)) : Except Unit ExecutionResult), between))
    (.failure "message" (by decide)) rfl with
    ⟨outcome, after, -, executed, -, others, order, -, status, -, revision⟩
  exact ⟨outcome, after, executed, order, others 1 (by decide), status, revision⟩

/-! ## Errors -/

/-- In a store where no session is running, and where none is created that is: whatever
operations are done, once all of them have ended, a session is running exactly if what moved it
on last is an execute whose program raised an error.  So no session is running if all programs
have returned a result. -/
theorem running_iff_abandoned [TimeScale τ] (numbered : store.Numbered)
    (resting : ∀ entry ∈ store.sessions, entry.2.status ≠ .running)
    {operations : List (Operation τ (Alteration τ) ε)}
    (created : ∀ new, .create new ∈ accessesOf Alteration.apply store operations →
      new.status ≠ .running) :
    let accesses := accessesOf Alteration.apply store operations
    let after := store.performAll Alteration.apply operations
    (∀ id state, after.get? id = some state →
      (state.status = .running ↔ lastMove? id accesses = some (.begin true))) ∧
    ((∀ id, .update id (.begin true) ∉ accesses) →
      ∀ id state, after.get? id = some state → state.status ≠ .running) := by
  intro accesses after
  have stands : ∀ id state, after.get? id = some state →
      (state.status = .running ↔ lastMove? id accesses = some (.begin true)) := by
    intro id state found
    have follows := follows_performAll numbered id operations
    rcases follows.origin state (Store.mem_of_get? found) with
      ⟨earlier, entry, progress⟩ | ⟨-, new⟩
    · change Progress earlier (lastMove? id accesses) state at progress
      generalize lastMove? id accesses = last at progress
      cases progress with
      | stays revision status running =>
        rw [status]
        exact iff_of_false (resting (id, earlier) entry) nofun
      | moved revision running => rw [running, Option.some.injEq]
    · exact new created
  refine ⟨stands, ?_⟩
  intro returned id state found running
  have last := (stands id state found).mp running
  have begun : .begin true ∈ accesses.filterMap (Access.move? id) :=
    List.mem_of_getLast? last
  rcases List.mem_filterMap.mp begun with ⟨access, member, move⟩
  cases access with
  | update other given =>
    unfold Access.move? at move
    dsimp only at move
    split_ifs at move
    cases move
    exact returned other member
  | _ => cases move

/-- One program raises an error after it has run the other, which returns a text. -/
def brokenOperations : List (Operation Seconds (Alteration Seconds) Script.ErrorKind) :=
  [.execute 0 [.execute 1 [] (.ok (.success "text"))] (.error .keyboardInterrupt)]

theorem running_iff_abandoned_of_broken :
    (∃ state, (pairStore.performAll Alteration.apply brokenOperations).get? 0 = some state ∧
      state.status = .running) ∧
    ∃ state, (pairStore.performAll Alteration.apply brokenOperations).get? 1 = some state ∧
      state.status ≠ .running := by
  have numbered : pairStore.Numbered := ⟨by decide, by decide⟩
  have resting : ∀ entry ∈ pairStore.sessions, entry.2.status ≠ .running := by decide
  have accesses : accessesOf Alteration.apply pairStore brokenOperations =
      [.update 0 (.begin true), .update 1 (.begin false),
        .update 1 (.complete 1 (.success "text"))] := rfl
  have created : ∀ new, .create new ∈ accessesOf Alteration.apply pairStore brokenOperations →
      new.status ≠ .running := by
    intro new member
    rw [accesses] at member
    simp at member
  have stands := (running_iff_abandoned numbered resting created).1
  refine ⟨⟨_, rfl, (stands 0 _ rfl).mpr rfl⟩, ⟨_, rfl, fun running => ?_⟩⟩
  cases (stands 1 _ rfl).mp running

/-- An execute whose program raises an error leaves its session running, though none was. -/
theorem running_after_error :
    let store : Store Seconds := ((Store.empty 1).create (.start "program")).2
    (∀ entry ∈ store.sessions, entry.2.status ≠ .running) ∧
    (store.execute 0 fun _ between => (.error Script.ErrorKind.keyboardInterrupt, between)).2.get? 0
      = some ⟨"program", .running, none, 1, none⟩ :=
  ⟨by decide, rfl⟩

end Session
end PolicyStudio
