import PolicyStudio.Proofs.Session.Operations

/-!
# The order of a store

A store lists its sessions by the time at which they were created or changed last, the oldest
first, and a new session drives out the first of the list when there is no more room.  The
times are read off the accesses themselves: `touchedAll` lists which session was created or
changed by each of them, the latest first, so a session was touched later than another if it
comes first in that list.

What the store keeps is thus told by what was done to it, in whatever order sessions were
created, changed, removed and run, and at every moment within the runs.
-/

namespace PolicyStudio
namespace Session

variable {τ κ μ φ ε : Type}

namespace Store

variable (change : κ → State τ → Except φ (State τ))

/-- The sessions that accesses have created or changed, the latest first. -/
def touchedAll (store : Store τ) : List (Access τ κ) → List Id
  | [] => []
  | access :: rest =>
    (store.after change access).touchedAll rest ++ (store.touched? change access).toList

/-- The first session was touched later than the second. -/
def TouchedLater (touched : List Id) (later earlier : Id) : Prop :=
  touched.idxOf later < touched.idxOf earlier

/-- A store lists its sessions as they were touched, and has room for them; what it has given
numbers to is what was touched. -/
structure Orderly (store : Store τ) (touched : List Id) : Prop where
  numbered : store.Numbered
  given : ∀ id, id ∈ touched ↔ id < store.next
  recent : store.order.Pairwise fun older newer => TouchedLater touched newer older
  room : store.size ≤ store.capacity

theorem Orderly.empty (limit : Int) : (empty limit : Store τ).Orderly [] where
  numbered := .empty limit
  given id := iff_of_false List.not_mem_nil (Nat.not_lt_zero id)
  recent := List.Pairwise.nil
  room := Nat.zero_le _

/-! ## Touching a session -/

/-- Whatever else was touched, a session that is touched now is the latest. -/
theorem touchedLater_cons_self {touched : List Id} {id other : Id} (different : other ≠ id) :
    TouchedLater (id :: touched) id other := by
  rw [TouchedLater, List.idxOf_cons_self, List.idxOf_cons_ne _ different.symm]
  exact Nat.zero_lt_succ _

/-- Touching a session does not change the order of the others. -/
theorem TouchedLater.cons {touched : List Id} {later earlier id : Id}
    (before : TouchedLater touched later earlier) (first : later ≠ id) (second : earlier ≠ id) :
    TouchedLater (id :: touched) later earlier := by
  rw [TouchedLater, List.idxOf_cons_ne _ first.symm, List.idxOf_cons_ne _ second.symm]
  exact Nat.succ_lt_succ before

/-- A list of sessions to whose end one is put that is touched now. -/
theorem pairwise_concat {touched others : List Id} {id : Id} (absent : id ∉ others)
    (recent : others.Pairwise fun older newer => TouchedLater touched newer older) :
    (others ++ [id]).Pairwise fun older newer => TouchedLater (id :: touched) newer older := by
  have different : ∀ other ∈ others, other ≠ id := by
    rintro other member rfl
    exact absent member
  rw [List.pairwise_append]
  refine ⟨?_, List.pairwise_singleton _ _, ?_⟩
  · refine recent.imp_of_mem fun older newer before => ?_
    exact before.cons (different _ newer) (different _ older)
  · intro other member last same
    rw [List.mem_singleton.mp same]
    exact touchedLater_cons_self (different other member)

theorem order_put (store : Store τ) (id : Id) (state : State τ) :
    (store.put id state).order = store.order.filter (· != id) ++ [id] := by
  show (store.without id ++ [(id, state)]).map Prod.fst = _
  rw [List.map_append, without, order, List.filter_map]
  rfl

theorem sessions_create (store : Store τ) (state : State τ) :
    (store.create state).2.sessions =
      (store.sessions ++ [(store.next, state)]).drop (store.size + 1 - store.capacity) := by
  have more : (store.sessions ++ [(store.next, state)]).length = store.size + 1 :=
    List.length_append
  rw [← more]
  rfl

theorem order_create (store : Store τ) (state : State τ) :
    (store.create state).2.order =
      (store.order ++ [store.next]).drop (store.size + 1 - store.capacity) := by
  rw [order, sessions_create, List.map_drop, List.map_append]
  rfl

theorem size_eq (store : Store τ) : store.size = store.order.length := by
  rw [order, List.length_map]
  rfl

/-- A session that is changed does not make the store larger. -/
theorem size_put_le {store : Store τ} {id : Id} (known : id ∈ store.order) (state : State τ) :
    (store.put id state).size ≤ store.size := by
  have removed : (store.order.filter (· != id)).length < store.order.length :=
    List.length_filter_lt_length_iff_exists.mpr ⟨id, known, by simp⟩
  rw [size_eq, size_eq, order_put, List.length_append]
  exact removed

theorem capacity_pos (store : Store τ) : 0 < store.capacity := by
  have atLeast : 1 ≤ max store.limit 1 := Int.le_max_right _ _
  unfold capacity
  omega

/-- A new session finds room. -/
theorem size_create_le (store : Store τ) (state : State τ) :
    (store.create state).2.size ≤ store.capacity := by
  rw [size_eq, order_create, List.length_drop, List.length_append, ← size_eq,
    List.length_singleton]
  omega

/-! ## One access -/

/-- No access changes how much room there is. -/
theorem Touch.limit {store result : Store τ} {touched : Option Id}
    (touch : store.Touch touched result) : result.limit = store.limit := by
  cases touch <;> rfl

theorem Touch.capacity {store result : Store τ} {touched : Option Id}
    (touch : store.Touch touched result) : result.capacity = store.capacity := by
  rw [Store.capacity, touch.limit, Store.capacity]

/-- A number stands for a session that was touched, and the next one for that which is touched
by being created. -/
theorem Touch.given {store result : Store τ} {touched : Option Id} {earlier : List Id}
    (orderly : store.Orderly earlier) (touch : store.Touch touched result) (id : Id) :
    id ∈ touched.toList ++ earlier ↔ id < result.next := by
  cases touch with
  | @changed known before entry state =>
    have below : known < store.next := orderly.numbered.fresh known (mem_order entry)
    show id ∈ known :: earlier ↔ id < store.next
    rw [List.mem_cons, orderly.given]
    exact ⟨fun either => either.elim (fun same => same ▸ below) fun earlier => earlier, .inr⟩
  | created state =>
    show id ∈ store.next :: earlier ↔ id < store.next + 1
    rw [List.mem_cons, orderly.given, Nat.lt_succ_iff_lt_or_eq, or_comm]
  | _ => exact orderly.given id

theorem Touch.recent {store result : Store τ} {touched : Option Id} {earlier : List Id}
    (orderly : store.Orderly earlier) (touch : store.Touch touched result) :
    result.order.Pairwise fun older newer =>
      TouchedLater (touched.toList ++ earlier) newer older := by
  have recent := orderly.recent
  cases touch with
  | stays => exact recent
  | @changed id before entry state =>
    rw [order_put]
    exact pairwise_concat (fun member => by simp at member) (recent.filter _)
  | created state =>
    have new : store.next ∉ store.order := fun member =>
      Nat.lt_irrefl _ (orderly.numbered.fresh _ member)
    rw [order_create]
    exact (pairwise_concat new recent).sublist (List.drop_sublist _ _)
  | deleted id => exact recent.sublist (List.filter_sublist.map _)
  | cleared => exact List.Pairwise.nil

theorem Touch.room {store result : Store τ} {touched : Option Id}
    (fits : store.size ≤ store.capacity) (touch : store.Touch touched result) :
    result.size ≤ result.capacity := by
  rw [touch.capacity]
  cases touch with
  | stays => exact fits
  | changed entry state => exact Nat.le_trans (size_put_le (mem_order entry) state) fits
  | created state => exact size_create_le store state
  | deleted id => exact Nat.le_trans (List.length_filter_le _ _) fits
  | cleared => exact Nat.zero_le _

theorem Orderly.touch {store result : Store τ} {touched : Option Id} {earlier : List Id}
    (orderly : store.Orderly earlier) (touch : store.Touch touched result) :
    result.Orderly (touched.toList ++ earlier) where
  numbered := touch.change.numbered orderly.numbered
  given := touch.given orderly
  recent := touch.recent orderly
  room := touch.room orderly.room

/-! ## Several accesses -/

theorem Orderly.afterAll {store : Store τ} {earlier : List Id} (orderly : store.Orderly earlier)
    (accesses : List (Access τ κ)) :
    (store.afterAll change accesses).Orderly (store.touchedAll change accesses ++ earlier) := by
  induction accesses generalizing store earlier with
  | nil => exact orderly
  | cons access rest inductionHypothesis =>
    rw [touchedAll, List.append_assoc]
    exact inductionHypothesis (orderly.touch (store.touch change access))

/-- A session that was there and is gone does not come back. -/
theorem Touch.not_mem_order {store result : Store τ} {touched : Option Id} {id : Id}
    (touch : store.Touch touched result) (given : id < store.next) (gone : id ∉ store.order) :
    id ∉ result.order := by
  intro member
  cases touch with
  | stays => exact gone member
  | @changed other before entry state =>
    rw [order_put, List.mem_append, List.mem_filter, List.mem_singleton] at member
    rcases member with ⟨kept, -⟩ | rfl
    · exact gone kept
    · exact gone (mem_order entry)
  | created state =>
    rw [order_create] at member
    rcases List.mem_append.mp (List.mem_of_mem_drop member) with kept | new
    · exact gone kept
    · exact absurd given (List.mem_singleton.mp new ▸ Nat.lt_irrefl _)
  | deleted other => exact gone ((List.filter_sublist.map _).subset member)
  | cleared => cases member

/-- A new session drives out nothing while there is room. -/
theorem sessions_create_of_lt {store : Store τ} (room : store.size < store.capacity)
    (state : State τ) :
    (store.create state).2.sessions = store.sessions ++ [(store.next, state)] := by
  rw [sessions_create, Nat.sub_eq_zero_of_le room, List.drop_zero]

/-- In a full store, a new session drives out the first. -/
theorem sessions_create_of_full {store : Store τ} (full : store.size = store.capacity)
    (state : State τ) :
    ∃ oldest rest, store.sessions = oldest :: rest ∧
      (store.create state).2.sessions = rest ++ [(store.next, state)] := by
  cases sessions : store.sessions with
  | nil =>
    have positive := store.capacity_pos
    rw [← full, size, sessions] at positive
    cases positive
  | cons oldest rest =>
    refine ⟨oldest, rest, rfl, ?_⟩
    rw [sessions_create, full, Nat.add_sub_cancel_left, sessions]
    rfl

end Store

/-! ## Stores that are used -/

end Session
end PolicyStudio
