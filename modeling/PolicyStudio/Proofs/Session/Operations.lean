import PolicyStudio.Proofs.Session.Entries

/-!
# Operations on a store

Clients create sessions, look at them, change them and remove them.  Each of these is one
atomic `Access`.  How a session is changed is left open: changes come from any type, given
what they do to a state, and a change may fail.

An execute is no single access.  It begins a run, and when the program has returned it hands
the result to the session; in between the program may use the store, and may execute other
programs, so an `Operation` is a tree.  `Store.perform` carries operations out with the
functions of the store.  What they come down to is a list of accesses, in which both halves
of an execute are changes like others, so that a statement about every part of that list
also speaks of the moments within a run.
-/

namespace PolicyStudio
namespace Session

variable {τ κ μ φ ε : Type}

/-! ## Accesses -/

/-- An atomic use of a store. -/
inductive Access (τ κ : Type) where
  | create (state : State τ)
  | get (id : Id)
  | update (id : Id) (given : κ)
  | delete (id : Id)
  | clear

/-- The same access, with its change among others. -/
def Access.map (include? : κ → μ) : Access τ κ → Access τ μ
  | .create state => .create state
  | .get id => .get id
  | .update id given => .update id (include? given)
  | .delete id => .delete id
  | .clear => .clear

namespace Store

section

variable (change : κ → State τ → Except φ (State τ)) (store : Store τ)

/-- The store after an access.  A change that fails leaves it as it is. -/
def after : Access τ κ → Store τ
  | .create state => (store.create state).2
  | .get _ => store
  | .update id given => match store.update id (change given) with
    | .ok (_, changed) => changed
    | .error _ => store
  | .delete id => (store.delete id).2
  | .clear => store.clear

/-- The store after several accesses. -/
def afterAll (accesses : List (Access τ κ)) : Store τ :=
  accesses.foldl (after change) store

/-- The session that an access puts at the end: one that is created, or one that is there and
is changed. -/
def touched? : Access τ κ → Option Id
  | .create _ => some store.next
  | .update id given => match store.update id (change given) with
    | .ok (some _, _) => some id
    | _ => none
  | _ => none

end

/-! ## What an access does -/

/-- A change finds no session, or fails, or puts the changed session at the end. -/
inductive Updated (store : Store τ) (id : Id) (change : State τ → Except φ (State τ)) :
    Except φ (Option (State τ) × Store τ) → Prop
  | absent (missing : store.get? id = none) : Updated store id change (.ok (none, store))
  | failed {state : State τ} {error : φ} (found : store.get? id = some state)
    (fails : change state = .error error) : Updated store id change (.error error)
  | changed {state result : State τ} (found : store.get? id = some state)
    (succeeds : change state = .ok result) :
    Updated store id change (.ok (some result, store.put id result))

theorem updated (store : Store τ) (id : Id) (change : State τ → Except φ (State τ)) :
    Updated store id change (store.update id change) := by
  unfold update
  cases found : store.get? id with
  | none => exact .absent found
  | some state =>
    dsimp only
    cases answer : change state with
    | error error => exact .failed found answer
    | ok result => exact .changed found answer

/-- What becomes of a store through one access, and which session it puts at the end. -/
inductive Touch (store : Store τ) : Option Id → Store τ → Prop
  | stays : Touch store none store
  | changed {id : Id} {before : State τ} (entry : (id, before) ∈ store.sessions)
    (result : State τ) : Touch store (some id) (store.put id result)
  | created (state : State τ) : Touch store (some store.next) (store.create state).2
  | deleted (id : Id) : Touch store none (store.delete id).2
  | cleared : Touch store none store.clear

theorem touch (change : κ → State τ → Except φ (State τ)) (store : Store τ)
    (access : Access τ κ) :
    store.Touch (store.touched? change access) (store.after change access) := by
  cases access with
  | create state => exact .created state
  | get id => exact .stays
  | update id given =>
    have updated := store.updated id (change given)
    unfold touched? after
    dsimp only
    generalize store.update id (change given) = answer at updated ⊢
    cases updated with
    | absent => exact .stays
    | failed => exact .stays
    | changed found succeeds => exact .changed (mem_of_get? found) _
  | delete id => exact .deleted id
  | clear => exact .cleared

theorem Touch.change {store result : Store τ} {touched : Option Id}
    (touch : store.Touch touched result) : store.Change result := by
  cases touch with
  | stays => exact .stays
  | changed entry state => exact .changed entry state
  | created state => exact .created state
  | deleted id => exact .deleted id
  | cleared => exact .cleared

section

variable (change : κ → State τ → Except φ (State τ)) (store : Store τ)

@[simp]
theorem afterAll_cons (access : Access τ κ) (rest : List (Access τ κ)) :
    store.afterAll change (access :: rest) = (store.after change access).afterAll change rest :=
  rfl

theorem afterAll_append (earlier later : List (Access τ κ)) :
    store.afterAll change (earlier ++ later) =
      (store.afterAll change earlier).afterAll change later :=
  List.foldl_append

/-- A change leaves the store as it is, because there is no session or because it fails, or puts
the changed session at the end. -/
theorem after_update_cases (id : Id) (given : κ) :
    ((store.get? id = none ∨
        ∃ state error, store.get? id = some state ∧ change given state = .error error) ∧
      store.after change (.update id given) = store) ∨
    ∃ state result, store.get? id = some state ∧ change given state = .ok result ∧
      store.after change (.update id given) = store.put id result := by
  have updated := store.updated id (change given)
  unfold after
  dsimp only
  generalize store.update id (change given) = answer at updated ⊢
  cases updated with
  | absent missing => exact .inl ⟨.inl missing, rfl⟩
  | failed found fails => exact .inl ⟨.inr ⟨_, _, found, fails⟩, rfl⟩
  | changed found succeeds => exact .inr ⟨_, _, found, succeeds, rfl⟩

/-- A change of a session that is not there, or one that fails, changes nothing. -/
theorem after_update_of_idle {id : Id} {given : κ}
    (idle : store.get? id = none ∨
      ∃ state error, store.get? id = some state ∧ change given state = .error error) :
    store.after change (.update id given) = store := by
  rcases store.after_update_cases change id given with ⟨-, same⟩ | ⟨held, result, found, ok, -⟩
  · exact same
  · rcases idle with missing | ⟨state, error, there, fails⟩
    · cases missing.symm.trans found
    · cases there.symm.trans found
      cases fails.symm.trans ok

/-- A change that cannot fail. -/
theorem after_update_of_total {id : Id} {given : κ} {total : State τ → State τ}
    (succeeds : ∀ state, change given state = .ok (total state)) :
    store.after change (.update id given) = (store.modify id total).2 := by
  rcases store.after_update_cases change id given with
    ⟨missing | ⟨state, error, -, fails⟩, same⟩ | ⟨held, result, found, ok, changed⟩
  · rw [same, modify, missing]
  · cases fails.symm.trans (succeeds state)
  · cases ok.symm.trans (succeeds held)
    rw [changed, modify, found]

end

theorem Numbered.after {store : Store τ} (numbered : store.Numbered)
    (change : κ → State τ → Except φ (State τ)) (access : Access τ κ) :
    (store.after change access).Numbered :=
  (store.touch change access).change.numbered numbered

theorem Numbered.afterAll {store : Store τ} (numbered : store.Numbered)
    (change : κ → State τ → Except φ (State τ)) (accesses : List (Access τ κ)) :
    (store.afterAll change accesses).Numbered := by
  induction accesses generalizing store with
  | nil => exact numbered
  | cons access rest inductionHypothesis =>
    exact inductionHypothesis (numbered.after change access)

end Store

/-! ## Operations -/

namespace Store

/-- An execute finds no session, or its run raises an error, or the result of its run is handed
to the session. -/
inductive Executed (store : Store τ) (id : Id) (run : Runner τ ε) :
    Except ε (Option (State τ)) × Store τ → Prop
  | absent (missing : store.get? id = none) : Executed store id run (.ok none, store)
  | raised {state : State τ} {error : ε} {between : Store τ} (found : store.get? id = some state)
    (ran : run state.source (store.put id state.begin) = (.error error, between)) :
    Executed store id run (.error error, between)
  | returned {state : State τ} {result : ExecutionResult} {between : Store τ}
    (found : store.get? id = some state)
    (ran : run state.source (store.put id state.begin) = (.ok result, between)) :
    Executed store id run
      (.ok (between.modify id fun held => held.complete state.begin.revision result).1,
        (between.modify id fun held => held.complete state.begin.revision result).2)

theorem executed (store : Store τ) (id : Id) (run : Runner τ ε) :
    Executed store id run (store.execute id run) := by
  unfold execute modify
  cases found : store.get? id with
  | none => exact .absent found
  | some state =>
    dsimp only
    rcases ran : run state.begin.source (store.put id state.begin) with ⟨error | result, between⟩
    · exact .raised found ran
    · exact .returned found ran

end Store

/-- What changes a session: a change of a client, or one of the halves of an execute. -/
inductive Move (κ : Type) where
  | own (given : κ)
  /-- A run begins.  It is abandoned if its program does not return a result. -/
  | begin (abandoned : Bool)
  /-- The result comes in of the run that began at a revision. -/
  | complete (revision : Nat) (result : ExecutionResult)

/-- What moves do to a state, given what the changes of clients do. -/
def Move.apply (change : κ → State τ → Except φ (State τ)) :
    Move κ → State τ → Except φ (State τ)
  | .own given => change given
  | .begin _ => fun state => .ok state.begin
  | .complete revision result => fun state => .ok (state.complete revision result)

/-- An operation of a client.  The program of an execute does operations of its own, and ends
with a result or with an error. -/
inductive Operation (τ κ ε : Type) where
  | access (access : Access τ κ)
  | execute (id : Id) (during : List (Operation τ κ ε)) (outcome : Except ε ExecutionResult)

variable (change : κ → State τ → Except φ (State τ))

mutual

/-- Carry out an operation. -/
def Store.perform (store : Store τ) : Operation τ κ ε → Store τ
  | .access access => store.after change access
  | .execute id during outcome =>
    (store.execute id fun _ between => (outcome, between.performAll during)).2

/-- Carry out operations, one after the other. -/
def Store.performAll (store : Store τ) : List (Operation τ κ ε) → Store τ
  | [] => store
  | operation :: rest => (store.perform operation).performAll rest

end

mutual

/-- The accesses that an operation comes down to. -/
def Operation.accesses (store : Store τ) : Operation τ κ ε → List (Access τ (Move κ))
  | .access access => [access.map .own]
  | .execute id during outcome => match store.get? id with
    | none => [.update id (.begin false)]
    | some state =>
      let within := accessesOf (store.put id state.begin) during
      match outcome with
      | .error _ => .update id (.begin true) :: within
      | .ok result => .update id (.begin false) ::
        (within ++ [.update id (.complete state.begin.revision result)])

/-- The accesses that several operations come down to. -/
def accessesOf (store : Store τ) : List (Operation τ κ ε) → List (Access τ (Move κ))
  | [] => []
  | operation :: rest =>
    operation.accesses store ++ accessesOf (store.perform change operation) rest

end

theorem Store.after_map_own (store : Store τ) (access : Access τ κ) :
    store.after (Move.apply change) (access.map .own) = store.after change access := by
  cases access <;> rfl

theorem Store.after_begin {store : Store τ} {id : Id} {state : State τ} (abandoned : Bool)
    (found : store.get? id = some state) :
    store.after (Move.apply change) (.update id (.begin abandoned)) =
      store.put id state.begin := by
  rw [after_update_of_total (Move.apply change) store fun _ => rfl, modify, found]

mutual

/-- Operations do what their accesses do. -/
theorem Store.perform_eq_afterAll (store : Store τ) : ∀ operation : Operation τ κ ε,
    store.perform change operation =
      store.afterAll (Move.apply change) (operation.accesses change store)
  | .access access => (store.after_map_own change access).symm
  | .execute id during outcome => by
    have executed := store.executed id fun _ between =>
      (outcome, between.performAll change during)
    unfold perform Operation.accesses
    generalize store.execute id _ = answer at executed ⊢
    cases executed with
    | absent missing =>
      rw [missing]
      exact (after_update_of_idle (Move.apply change) store (.inl missing)).symm
    | raised found ran =>
      cases ran
      rw [found]
      dsimp only
      rw [afterAll_cons, after_begin change true found]
      exact performAll_eq_afterAll _ during
    | returned found ran =>
      cases ran
      rw [found]
      dsimp only
      rw [afterAll_cons, after_begin change false found, afterAll_append,
        ← performAll_eq_afterAll _ during]
      exact (after_update_of_total (Move.apply change) _ fun _ => rfl).symm

theorem Store.performAll_eq_afterAll (store : Store τ) :
    ∀ operations : List (Operation τ κ ε), store.performAll change operations =
      store.afterAll (Move.apply change) (accessesOf change store operations)
  | [] => rfl
  | operation :: rest => by
    rw [performAll, accessesOf, afterAll_append, ← perform_eq_afterAll store operation]
    exact performAll_eq_afterAll _ rest

end

theorem Store.Numbered.perform {store : Store τ} (numbered : store.Numbered)
    (operation : Operation τ κ ε) : (store.perform change operation).Numbered := by
  rw [perform_eq_afterAll]
  exact numbered.afterAll _ _

theorem Store.Numbered.performAll {store : Store τ} (numbered : store.Numbered)
    (operations : List (Operation τ κ ε)) : (store.performAll change operations).Numbered := by
  rw [performAll_eq_afterAll]
  exact numbered.afterAll _ _

end Session
end PolicyStudio
