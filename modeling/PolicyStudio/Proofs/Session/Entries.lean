import Mathlib.Data.List.Nodup
import PolicyStudio.Proofs.Outcome
import PolicyStudio.Session.Store

/-!
# The entries of a store

A store holds a state for some of the numbers it has given out.  Every operation either
puts one entry in, at the end, or drops entries, so what is in a store afterwards was in
it before or has just been put there.  No number is held twice and none is given again,
which is why an entry can be spoken of as the session with its number.
-/

namespace PolicyStudio
namespace Session
namespace Store

variable {τ : Type} {store : Store τ} {id other : Id} {state after : State τ}

/-- No number is held twice, and the next one to be given is above all. -/
structure Numbered (store : Store τ) : Prop where
  distinct : store.order.Nodup
  fresh : ∀ id ∈ store.order, id < store.next

/-! ## Entries -/

theorem mem_order (entry : (id, state) ∈ store.sessions) : id ∈ store.order :=
  List.mem_map.mpr ⟨(id, state), entry, rfl⟩

theorem mem_of_get? (found : store.get? id = some state) : (id, state) ∈ store.sessions := by
  rcases List.lookup_eq_some_iff.mp found with ⟨front, back, split, _⟩
  rw [split]
  exact List.mem_append_right _ List.mem_cons_self

theorem not_mem_order (absent : store.get? id = none) : id ∉ store.order := by
  intro member
  rcases List.mem_map.mp member with ⟨⟨same, state⟩, entry, equal⟩
  have different := List.lookup_eq_none_iff.mp absent (same, state) entry
  exact bne_iff_ne.mp different equal.symm

theorem Numbered.eq_of_mem (numbered : store.Numbered) (first : (id, state) ∈ store.sessions)
    (second : (id, after) ∈ store.sessions) : state = after :=
  congrArg Prod.snd (List.inj_on_of_nodup_map numbered.distinct first second rfl)

theorem mem_without : (other, after) ∈ store.without id ↔
    other ≠ id ∧ (other, after) ∈ store.sessions := by
  rw [without, List.mem_filter, bne_iff_ne, and_comm]

theorem mem_put : (other, after) ∈ (store.put id state).sessions ↔
    (other ≠ id ∧ (other, after) ∈ store.sessions) ∨ (other = id ∧ after = state) := by
  change (other, after) ∈ store.without id ++ [(id, state)] ↔ _
  rw [List.mem_append, mem_without, List.mem_singleton, Prod.mk.injEq]

theorem mem_delete (entry : (other, after) ∈ (store.delete id).2.sessions) :
    (other, after) ∈ store.sessions :=
  (mem_without.mp entry).2

/-- A new session drives out others, but puts in nothing but itself. -/
theorem mem_create (entry : (other, after) ∈ (store.create state).2.sessions) :
    (other, after) ∈ store.sessions ∨ (other = store.next ∧ after = state) := by
  rcases List.mem_append.mp (List.mem_of_mem_drop entry) with kept | put
  · exact Or.inl kept
  · exact Or.inr (Prod.mk.injEq .. ▸ List.mem_singleton.mp put)

/-- A step on a session that is not there changes nothing. -/
theorem modify_cases (store : Store τ) (id : Id) (change : State τ → State τ) :
    (id ∉ store.order ∧ store.modify id change = (none, store)) ∨
      ∃ state, (id, state) ∈ store.sessions ∧
        store.modify id change = (some (change state), store.put id (change state)) := by
  unfold modify
  cases found : store.get? id with
  | none => exact Or.inl ⟨not_mem_order found, rfl⟩
  | some state => exact Or.inr ⟨state, mem_of_get? found, rfl⟩

/-- A change that may fail changes a session that is there, or nothing. -/
theorem update_cases {ε : Type} {store : Store τ} {id : Id} {change : State τ → Except ε (State τ)}
    {answer : Option (State τ) × Store τ} (accepted : store.update id change = .ok answer) :
    answer.2 = store ∨ ∃ before after, (id, before) ∈ store.sessions ∧ change before = .ok after ∧
      answer.2 = store.put id after := by
  unfold update at accepted
  cases found : store.get? id with
  | none =>
    rw [found] at accepted
    cases accepted
    exact Or.inl rfl
  | some before =>
    rw [found] at accepted
    rcases Outcome.bind_eq_ok.mp accepted with ⟨after, changed, equal⟩
    cases equal
    exact Or.inr ⟨before, after, mem_of_get? found, changed, rfl⟩

/-! ## Numbers -/

theorem Numbered.empty (limit : Int) : (empty limit : Store τ).Numbered :=
  ⟨List.nodup_nil, nofun⟩

theorem Numbered.put (numbered : store.Numbered) (entry : (id, state) ∈ store.sessions)
    (after : State τ) : (store.put id after).Numbered := by
  have others : ((store.without id).map Prod.fst).Nodup :=
    numbered.distinct.sublist (List.filter_sublist.map _)
  have absent : id ∉ (store.without id).map Prod.fst := by
    intro member
    rcases List.mem_map.mp member with ⟨⟨same, held⟩, listed, equal⟩
    exact (mem_without.mp listed).1 equal
  have order : (store.put id after).order = (store.without id).map Prod.fst ++ [id] :=
    List.map_append
  constructor
  · rw [order, ← List.concat_eq_append]
    exact others.concat absent
  · intro other member
    rw [order] at member
    rcases List.mem_append.mp member with member | member
    · rcases List.mem_map.mp member with ⟨⟨same, held⟩, listed, equal⟩
      exact equal ▸ numbered.fresh same (mem_order (mem_without.mp listed).2)
    · exact List.mem_singleton.mp member ▸ numbered.fresh id (mem_order entry)

theorem Numbered.delete (numbered : store.Numbered) (id : Id) : (store.delete id).2.Numbered where
  distinct := numbered.distinct.sublist (List.filter_sublist.map _)
  fresh other member := by
    rcases List.mem_map.mp member with ⟨⟨same, held⟩, listed, equal⟩
    exact equal ▸ numbered.fresh same (mem_order (mem_without.mp listed).2)

theorem Numbered.clear (store : Store τ) : store.clear.Numbered :=
  ⟨List.nodup_nil, nofun⟩

theorem Numbered.create (numbered : store.Numbered) (state : State τ) :
    (store.create state).2.Numbered := by
  have appended : (store.sessions ++ [(store.next, state)]).map Prod.fst =
      store.order ++ [store.next] := List.map_append
  have distinct : (store.order ++ [store.next]).Nodup := by
    rw [← List.concat_eq_append]
    exact numbered.distinct.concat fun member => Nat.lt_irrefl _ (numbered.fresh _ member)
  constructor
  · rw [← appended] at distinct
    exact distinct.sublist ((List.drop_sublist _ _).map _)
  · intro other member
    rcases List.mem_map.mp member with ⟨⟨same, held⟩, listed, equal⟩
    subst equal
    rcases mem_create listed with kept | ⟨new, _⟩
    · exact Nat.lt_succ_of_lt (numbered.fresh same (mem_order kept))
    · exact new ▸ Nat.lt_succ_self _

/-! ## What an operation can do -/

/-- What became of a store through one operation. -/
inductive Change (store : Store τ) : Store τ → Prop
  | stays : Change store store
  | changed {id : Id} {before : State τ} (entry : (id, before) ∈ store.sessions)
    (after : State τ) : Change store (store.put id after)
  | created (state : State τ) : Change store (store.create state).2
  | deleted (id : Id) : Change store (store.delete id).2
  | cleared : Change store store.clear

theorem change_modify (store : Store τ) (id : Id) (change : State τ → State τ) :
    Change store (store.modify id change).2 := by
  rcases store.modify_cases id change with ⟨_, unchanged⟩ | ⟨state, entry, changed⟩
  · rw [unchanged]
    exact .stays
  · rw [changed]
    exact .changed entry _

theorem Change.numbered {result : Store τ} (change : Change store result)
    (numbered : store.Numbered) : result.Numbered := by
  cases change with
  | stays => exact numbered
  | changed entry after => exact numbered.put entry after
  | created state => exact numbered.create state
  | deleted id => exact numbered.delete id
  | cleared => exact .clear store

/-- No operation gives numbers back. -/
theorem Change.next_le {result : Store τ} (change : Change store result) :
    store.next ≤ result.next := by
  cases change with
  | created state => exact Nat.le_succ _
  | _ => exact Nat.le_refl _

end Store

end Session
end PolicyStudio
