import PolicyStudio.Proofs.Session.Lifecycle
import PolicyStudio.Proofs.Session.Operations

/-!
# One session among many

While operations are carried out on a store, a session goes its own way: it is edited, its
program is replaced by an example, a run of it begins, and each of these moves it on, or else
it stays as it is but for an acknowledgement.  The last access that moves a session on decides
where it stands: it is running exactly if that was an execute whose program never returned a
result.

An execute moves its session on when it begins.  Its result belongs to the revision that it has
then, so what its program does meanwhile decides whether the result is recorded, and nothing
else does.
-/

namespace PolicyStudio
namespace Session

variable {τ ε : Type}

/-! ## Changes of clients -/

/-- A change that a client makes to a session. -/
inductive Alteration (τ : Type) where
  | edit (source : String)
  | load (given : Example)
  | acknowledge (now duration : τ)

/-- What a change of a client does to a state. -/
def Alteration.apply [TimeScale τ] : Alteration τ → State τ → Except TimeFault (State τ)
  | .edit source, state => .ok (state.edit source)
  | .load given, state => .ok (state.load given)
  | .acknowledge now duration, state => state.acknowledge now duration

/-- The session is edited, an example is loaded into it, or a run of it begins. -/
def Move.movesOn : Move (Alteration τ) → Bool
  | .own (.edit _) | .own (.load _) | .begin _ => true
  | .own (.acknowledge ..) | .complete .. => false

/-- What moves a session on in an access. -/
def Access.move? (id : Id) : Access τ (Move (Alteration τ)) → Option (Move (Alteration τ))
  | .update other move => if other = id ∧ move.movesOn then some move else none
  | _ => none

/-- What moved a session on last. -/
def lastMove? (id : Id) (accesses : List (Access τ (Move (Alteration τ)))) :
    Option (Move (Alteration τ)) :=
  (accesses.filterMap (Access.move? id)).getLast?

section

variable (id : Id) (accesses later : List (Access τ (Move (Alteration τ))))

theorem lastMove?_append :
    lastMove? id (accesses ++ later) = (lastMove? id later).or (lastMove? id accesses) := by
  unfold lastMove?
  rw [List.filterMap_append, List.getLast?_append]

theorem lastMove?_singleton (access : Access τ (Move (Alteration τ))) :
    lastMove? id [access] = access.move? id := by
  unfold lastMove?
  cases moved : access.move? id with
  | none => simp [moved]
  | some move => simp [moved]

theorem lastMove?_cons (access : Access τ (Move (Alteration τ))) :
    lastMove? id (access :: accesses) = (lastMove? id accesses).or (access.move? id) := by
  rw [← List.singleton_append, lastMove?_append, lastMove?_singleton]

theorem lastMove?_eq_none_iff :
    lastMove? id accesses = none ↔ ∀ access ∈ accesses, access.move? id = none := by
  unfold lastMove?
  rw [List.getLast?_eq_none_iff, List.filterMap_eq_nil_iff]

end

theorem move?_update_of_ne {id other : Id} (different : other ≠ id)
    (move : Move (Alteration τ)) :
    (Access.update other move : Access τ (Move (Alteration τ))).move? id = none :=
  if_neg fun both => different both.1

theorem move?_begin (id : Id) (abandoned : Bool) :
    (Access.update id (.begin abandoned) : Access τ (Move (Alteration τ))).move? id =
      some (.begin abandoned) :=
  if_pos ⟨rfl, rfl⟩

theorem move?_complete (id other : Id) (revision : Nat) (result : ExecutionResult) :
    (Access.update other (.complete revision result) :
      Access τ (Move (Alteration τ))).move? id = none :=
  if_neg fun both => nomatch both.2

theorem move?_acknowledge (id other : Id) (now duration : τ) :
    (Access.update other (.own (.acknowledge now duration)) :
      Access τ (Move (Alteration τ))).move? id = none :=
  if_neg fun both => nomatch both.2

/-! ## What becomes of a state -/

/-- What becomes of a state through operations, given what moved it on last.  If nothing did,
a run that was under way still is.  Otherwise the revision is another, and the session is
running only if an execute was abandoned. -/
inductive Progress (before : State τ) : Option (Move (Alteration τ)) → State τ → Prop
  | stays {after : State τ} (revision : after.revision = before.revision)
    (status : after.status = before.status)
    (running : before.status = .running → after = before) : Progress before none after
  | moved {after : State τ} {move : Move (Alteration τ)}
    (revision : before.revision < after.revision)
    (running : after.status = .running ↔ move = .begin true) : Progress before (some move) after

namespace Progress

variable {before middle after : State τ} {first second : Option (Move (Alteration τ))}

theorem refl (state : State τ) : Progress state none state :=
  .stays rfl rfl fun _ => rfl

theorem trans (earlier : Progress before first middle) (later : Progress middle second after) :
    Progress before (second.or first) after := by
  cases later with
  | stays revision status running =>
    cases earlier with
    | stays revision' status' running' =>
      refine .stays (revision.trans revision') (status.trans status') ?_
      intro under
      have same := running' under
      rw [← same]
      apply running
      rw [same]
      exact under
    | moved revision' running' =>
      refine .moved (revision ▸ revision') ?_
      rw [status]
      exact running'
  | moved revision running =>
    refine .moved ?_ running
    cases earlier with
    | stays revision' => exact revision' ▸ revision
    | moved revision' => exact Nat.lt_trans revision' revision

/-- A run that began is under way until something moves the session on. -/
theorem of_begin (state : State τ) (later : Progress state.begin second after) :
    Progress state (second.or (some (.begin true))) after := by
  have revision : state.revision < state.begin.revision := Nat.lt_succ_self _
  cases later with
  | stays same status running =>
    rw [running rfl]
    exact .moved revision (iff_of_true rfl rfl)
  | moved more running => exact .moved (Nat.lt_trans revision more) running

/-- A result that comes in is recorded if nothing has moved the session on. -/
theorem complete_of_none {state held : State τ} (progress : Progress state.begin none held)
    (result : ExecutionResult) :
    held.complete state.begin.revision result = state.recorded result := by
  cases progress with
  | stays revision status running =>
    rw [running rfl]
    exact state.complete_begin result

/-- A result that comes in is dropped if something has moved the session on. -/
theorem complete_of_some {state held : State τ} {move : Move (Alteration τ)}
    (progress : Progress state.begin (some move) held) (result : ExecutionResult) :
    held.complete state.begin.revision result = held ∧ held ≠ state.recorded result := by
  cases progress with
  | moved revision running =>
    constructor
    · rw [State.complete, State.complete?, if_neg ?_]
      · rfl
      · rintro ⟨current, -⟩
        exact Nat.ne_of_gt revision (Int.ofNat.inj current)
    · rintro rfl
      exact Nat.lt_irrefl _ revision

/-- Whether its result is recorded or dropped, the run is over. -/
theorem of_complete (state : State τ) (result : ExecutionResult)
    (later : Progress state.begin second after) :
    Progress state (second.or (some (.begin false)))
      (after.complete state.begin.revision result) := by
  have revision : state.revision < state.begin.revision := Nat.lt_succ_self _
  cases later with
  | stays same status running =>
    rw [(Progress.stays same status running).complete_of_none result]
    refine .moved revision (iff_of_false ?_ nofun)
    cases result <;> exact nofun
  | moved more running =>
    rw [((Progress.moved more running).complete_of_some result).1]
    exact .moved (Nat.lt_trans revision more) running

end Progress

/-- A change of a client to a state that is there. -/
theorem progress_alteration [TimeScale τ] {id : Id} {given : Alteration τ} {before after : State τ}
    (changed : given.apply before = .ok after) :
    Progress before ((Access.update id (.own given) :
      Access τ (Move (Alteration τ))).move? id) after := by
  cases given with
  | edit source =>
    cases changed
    rw [Access.move?, if_pos ⟨rfl, rfl⟩]
    exact .moved (Nat.lt_succ_self _) (iff_of_false nofun nofun)
  | load given =>
    cases changed
    rw [Access.move?, if_pos ⟨rfl, rfl⟩]
    exact .moved (Nat.lt_succ_self _) (iff_of_false nofun nofun)
  | acknowledge now duration =>
    have change := before.change_acknowledge now duration
    rw [show before.acknowledge now duration = .ok after from changed] at change
    rw [move?_acknowledge]
    change State.Change before after 0 none at change
    cases change with
    | stays => exact .refl _
    | acknowledged succeeded deadline =>
      refine .stays rfl rfl fun running => ?_
      cases succeeded.symm.trans running

/-! ## What becomes of a session -/

/-- A session that is new is running only if its state was when it was created, or if an execute
of it was abandoned. -/
def IsNew (id : Id) (accesses : List (Access τ (Move (Alteration τ)))) (after : State τ) : Prop :=
  (∀ state, .create state ∈ accesses → state.status ≠ .running) →
    (after.status = .running ↔ lastMove? id accesses = some (.begin true))

/-- What becomes of the session with a number through accesses that lead from one store to
another. -/
structure Follows (id : Id) (before : Store τ)
    (accesses : List (Access τ (Move (Alteration τ)))) (after : Store τ) : Prop where
  next_le : before.next ≤ after.next
  /-- Only a session that is there can be executed. -/
  known : lastMove? id accesses = some (.begin true) → id < after.next
  origin : ∀ state, (id, state) ∈ after.sessions →
    (∃ earlier, (id, earlier) ∈ before.sessions ∧
      Progress earlier (lastMove? id accesses) state) ∨
    before.next ≤ id ∧ IsNew id accesses state

namespace Follows

variable {id other : Id} {before middle after : Store τ}
  {first second : List (Access τ (Move (Alteration τ)))}

theorem refl (id : Id) (store : Store τ) : Follows id store [] store where
  next_le := Nat.le_refl _
  known := nofun
  origin state entry := .inl ⟨state, entry, .refl state⟩

theorem trans (earlier : Follows id before first middle) (later : Follows id middle second after) :
    Follows id before (first ++ second) after where
  next_le := Nat.le_trans earlier.next_le later.next_le
  known := by
    rw [lastMove?_append]
    intro abandoned
    rcases Option.or_eq_some_iff.mp abandoned with now | ⟨-, before⟩
    · exact later.known now
    · exact Nat.lt_of_lt_of_le (earlier.known before) later.next_le
  origin state entry := by
    rw [lastMove?_append]
    rcases later.origin state entry with ⟨held, present, progress⟩ | ⟨fresh, new⟩
    · rcases earlier.origin held present with ⟨start, there, progress'⟩ | ⟨fresh, new⟩
      · exact .inl ⟨start, there, progress'.trans progress⟩
      · refine .inr ⟨fresh, fun created => ?_⟩
        have started := new fun state member => created state (List.mem_append_left _ member)
        rw [lastMove?_append]
        generalize lastMove? id second = last at progress
        cases progress with
        | stays revision status running =>
          rw [status]
          exact started
        | moved revision running =>
          rw [running, Option.some_or, Option.some.injEq]
    · refine .inr ⟨Nat.le_trans earlier.next_le fresh, fun created => ?_⟩
      rw [new fun state member => created state (List.mem_append_right _ member),
        lastMove?_append]
      cases last : lastMove? id second with
      | some move => rw [Option.some_or]
      | none =>
        -- Before it was created, there was nothing to execute.
        refine iff_of_false nofun fun abandoned => ?_
        exact absurd (earlier.known abandoned) (Nat.not_lt.mpr fresh)

/-- A session that nothing is done with. -/
theorem of_unmoved {access : Access τ (Move (Alteration τ))} (unmoved : access.move? id = none)
    (next : before.next ≤ after.next)
    (kept : ∀ state, (id, state) ∈ after.sessions → (id, state) ∈ before.sessions) :
    Follows id before [access] after := by
  have last : lastMove? id [access] = none := (lastMove?_singleton id access).trans unmoved
  refine ⟨next, ?_, ?_⟩
  · rw [last]
    exact nofun
  · intro state entry
    rw [last]
    exact .inl ⟨state, kept state entry, .refl state⟩

/-- A session other than the one that a state is put for. -/
theorem of_put (different : other ≠ id) (store : Store τ) (state : State τ)
    (move : Move (Alteration τ)) :
    Follows id store [.update other move] (store.put other state) := by
  refine of_unmoved (move?_update_of_ne different move) (Nat.le_refl _) ?_
  intro held entry
  rcases Store.mem_put.mp entry with ⟨-, kept⟩ | ⟨same, -⟩
  · exact kept
  · exact absurd same.symm different

/-- A session other than the one that a step changes. -/
theorem of_modify (different : other ≠ id) (store : Store τ) (change : State τ → State τ)
    (move : Move (Alteration τ)) :
    Follows id store [.update other move] (store.modify other change).2 := by
  rcases store.modify_cases other change with ⟨-, same⟩ | ⟨state, -, changed⟩
  · rw [same]
    exact of_unmoved (move?_update_of_ne different move) (Nat.le_refl _) fun _ entry => entry
  · rw [changed]
    exact of_put different store _ move

end Follows

/-- A change of a client to the session itself. -/
theorem follows_alteration [TimeScale τ] (store : Store τ) (id : Id) (given : Alteration τ) :
    Follows id store [.update id (.own given)]
      (store.after Alteration.apply (.update id given)) where
  next_le := (store.touch Alteration.apply (.update id given)).change.next_le
  known := by
    rw [lastMove?_singleton, Access.move?]
    intro abandoned
    split_ifs at abandoned
    cases abandoned
  origin state entry := by
    rw [lastMove?_singleton]
    rcases store.after_update_cases Alteration.apply id given with
      ⟨missing | ⟨held, error, -, fails⟩, same⟩ | ⟨held, result, found, succeeds, changed⟩
    · rw [same] at entry
      exact absurd (Store.mem_order entry) (Store.not_mem_order missing)
    · rw [same] at entry
      refine .inl ⟨state, entry, ?_⟩
      cases given with
      | edit | load => cases fails
      | acknowledge now duration =>
        rw [move?_acknowledge]
        exact .refl state
    · rw [changed] at entry
      rcases Store.mem_put.mp entry with ⟨different, -⟩ | ⟨-, rfl⟩
      · exact absurd rfl different
      · exact .inl ⟨held, Store.mem_of_get? found, progress_alteration succeeds⟩

/-- An access of a client. -/
theorem follows_access [TimeScale τ] (store : Store τ) (id : Id)
    (access : Access τ (Alteration τ)) :
    Follows id store [access.map .own] (store.after Alteration.apply access) := by
  cases access with
  | create state =>
    refine ⟨Nat.le_succ _, nofun, ?_⟩
    intro held entry
    rcases Store.mem_create entry with kept | ⟨new, same⟩
    · exact .inl ⟨held, kept, .refl held⟩
    · refine .inr ⟨Nat.le_of_eq new.symm, fun created => ?_⟩
      refine iff_of_false ?_ nofun
      rw [same]
      exact created state (List.mem_singleton_self _)
  | get other => exact .of_unmoved rfl (Nat.le_refl _) fun _ entry => entry
  | update other given =>
    by_cases own : other = id
    · subst own
      exact follows_alteration store other given
    · have touch := store.touch Alteration.apply (.update other given)
      refine .of_unmoved (move?_update_of_ne own _) touch.change.next_le ?_
      intro state entry
      rcases store.after_update_cases Alteration.apply other given with
        ⟨-, same⟩ | ⟨held, result, -, -, changed⟩
      · rw [same] at entry
        exact entry
      · rw [changed] at entry
        rcases Store.mem_put.mp entry with ⟨-, kept⟩ | ⟨same, -⟩
        · exact kept
        · exact absurd same.symm own
  | delete other => exact .of_unmoved rfl (Nat.le_refl _) fun _ => Store.mem_delete
  | clear => exact .of_unmoved rfl (Nat.le_refl _) fun _ entry => nomatch entry

/-! ## Executes -/

section

variable {store between : Store τ} {id : Id} {state : State τ}
  {within : List (Access τ (Move (Alteration τ)))}

/-- What is there of a session that was there when its run began. -/
theorem Follows.progress_of_put (follows : Follows id (store.put id state) within between)
    (numbered : store.Numbered) (known : id ∈ store.order) {held : State τ}
    (entry : (id, held) ∈ between.sessions) :
    Progress state (lastMove? id within) held := by
  rcases follows.origin held entry with ⟨earlier, present, progress⟩ | ⟨fresh, -⟩
  · rcases Store.mem_put.mp present with ⟨different, -⟩ | ⟨-, same⟩
    · exact absurd rfl different
    · exact same ▸ progress
  · exact absurd (numbered.fresh id known) (Nat.not_lt.mpr fresh)

/-- An execute of the session itself whose program raises an error. -/
theorem follows_raised (numbered : store.Numbered) (found : store.get? id = some state)
    (follows : Follows id (store.put id state.begin) within between) :
    Follows id store (.update id (.begin true) :: within) between where
  next_le := follows.next_le
  known _ :=
    Nat.lt_of_lt_of_le (numbered.fresh id (Store.mem_order (Store.mem_of_get? found)))
      follows.next_le
  origin held entry := by
    have present := Store.mem_of_get? found
    refine .inl ⟨state, present, ?_⟩
    rw [lastMove?_cons, move?_begin]
    exact .of_begin state (follows.progress_of_put numbered (Store.mem_order present) entry)

/-- An execute of the session itself whose program returns a result. -/
theorem follows_returned (numbered : store.Numbered) (found : store.get? id = some state)
    (follows : Follows id (store.put id state.begin) within between)
    (result : ExecutionResult) :
    Follows id store (.update id (.begin false) ::
        (within ++ [.update id (.complete state.begin.revision result)]))
      (between.modify id fun held => held.complete state.begin.revision result).2 := by
  have known : id < between.next :=
    Nat.lt_of_lt_of_le (numbered.fresh id (Store.mem_order (Store.mem_of_get? found)))
      follows.next_le
  have next := (between.change_modify id fun held =>
    held.complete state.begin.revision result).next_le
  refine ⟨Nat.le_trans follows.next_le next, fun _ => Nat.lt_of_lt_of_le known next, ?_⟩
  intro last entry
  have present := Store.mem_of_get? found
  refine .inl ⟨state, present, ?_⟩
  rw [lastMove?_cons, move?_begin, lastMove?_append, lastMove?_singleton, move?_complete,
    Option.none_or]
  rcases between.modify_cases id fun held => held.complete state.begin.revision result with
    ⟨gone, same⟩ | ⟨held, there, changed⟩
  · rw [same] at entry
    exact absurd (Store.mem_order entry) gone
  · rw [changed] at entry
    rcases Store.mem_put.mp entry with ⟨different, -⟩ | ⟨-, same⟩
    · exact absurd rfl different
    · rw [same]
      exact .of_complete state result
        (follows.progress_of_put numbered (Store.mem_order present) there)

/-- An execute that finds no session. -/
theorem follows_missed (other : Id) (missing : store.get? other = none) :
    Follows id store [.update other (.begin false)] store := by
  by_cases own : other = id
  · subst own
    refine ⟨Nat.le_refl _, ?_, ?_⟩
    · rw [lastMove?_singleton, move?_begin]
      exact nofun
    · intro held entry
      exact absurd (Store.mem_order entry) (Store.not_mem_order missing)
  · exact .of_unmoved (move?_update_of_ne own _) (Nat.le_refl _) fun _ entry => entry

end

mutual

theorem follows_perform [TimeScale τ] {store : Store τ} (numbered : store.Numbered) (id : Id) :
    ∀ operation : Operation τ (Alteration τ) ε,
      Follows id store (operation.accesses Alteration.apply store)
        (store.perform Alteration.apply operation)
  | .access access => follows_access store id access
  | .execute other during outcome => by
    have executed := store.executed other fun _ between =>
      (outcome, between.performAll Alteration.apply during)
    unfold Store.perform Operation.accesses
    generalize store.execute other _ = answer at executed ⊢
    cases executed with
    | absent missing =>
      rw [missing]
      exact follows_missed other missing
    | @raised state error between found ran =>
      cases ran
      rw [found]
      dsimp only
      have within := follows_performAll
        (numbered.put (Store.mem_of_get? found) state.begin) id during
      by_cases own : other = id
      · subst own
        exact follows_raised numbered found within
      · exact (Follows.of_put own store _ _).trans within
    | @returned state result between found ran =>
      cases ran
      rw [found]
      dsimp only
      have within := follows_performAll
        (numbered.put (Store.mem_of_get? found) state.begin) id during
      by_cases own : other = id
      · subst own
        exact follows_returned numbered found within result
      · exact (Follows.of_put own store _ _).trans (within.trans (.of_modify own _ _ _))

/-- However long and however deep operations are, each session is where its last move has
left it. -/
theorem follows_performAll [TimeScale τ] {store : Store τ} (numbered : store.Numbered) (id : Id) :
    ∀ operations : List (Operation τ (Alteration τ) ε),
      Follows id store (accessesOf Alteration.apply store operations)
        (store.performAll Alteration.apply operations)
  | [] => .refl id store
  | operation :: rest => by
    unfold accessesOf Store.performAll
    apply (follows_perform numbered id operation).trans
    exact follows_performAll (numbered.perform Alteration.apply operation) id rest

end

end Session
end PolicyStudio
