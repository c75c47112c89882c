import PolicyStudio.Proofs.Service.Asks
import PolicyStudio.Proofs.Session.Executes

/-!
# Sessions behind requests

Requests are answered one after another, each with a setting of its own, and programs run
in the sandbox.  A valid request is answered as not found exactly if it names a session
that does not live or an example that is not in the catalog.  A session lives from the
request that created it to the one that deletes it or drives it out.

What can become of a request is told once, by `Served`.  The results about answers and
about the store are read off it.
-/

namespace PolicyStudio
namespace Service

open Session

variable {τ : Type}

/-! ## Sessions that live -/

/-- An identifier is that of a session in the store. -/
def Live (store : Store τ) (id : Nat) : Prop :=
  ∃ session ∈ store.order, id = Identifier.ofSession session

/-- A request names a session that does not live, or needs an example that does not exist. -/
def Ask.NamesUnknown (ask : Ask) (lives : Nat → Prop) : Prop :=
  (∃ id, ask.id? = some id ∧ ¬lives id) ∨
    ∃ name, ask.exampleName? = some name ∧ Catalog.find? name = none

theorem ofSession_of_session? {id : Nat} {session : Id} (there : Identifier.session? id = some session) :
    id = Identifier.ofSession session := by
  unfold Identifier.session? at there
  split at there
  · next above =>
    rw [← Option.some.inj there]
    exact (Nat.add_sub_cancel' above).symm
  · cases there

theorem session?_ofSession (session : Id) :
    Identifier.session? (Identifier.ofSession session) = some session := by
  unfold Identifier.session? Identifier.ofSession
  rw [if_pos (Nat.le_add_right _ _), Nat.add_sub_cancel_left]

theorem ofSession_inj {session other : Id} :
    Identifier.ofSession session = Identifier.ofSession other ↔ session = other :=
  Nat.add_left_cancel_iff

section

variable {store : Store τ} {id : Nat} {session : Id} {state after : State τ}

@[simp]
theorem live_ofSession : Live store (Identifier.ofSession session) ↔ session ∈ store.order := by
  constructor
  · rintro ⟨other, member, same⟩
    exact ofSession_inj.mp same ▸ member
  · exact fun member => ⟨session, member, rfl⟩

/-- A session that is found lives. -/
theorem live_of_get? (there : Identifier.session? id = some session)
    (found : store.get? session = some state) : Live store id :=
  ⟨session, Store.mem_order (Store.mem_of_get? found), ofSession_of_session? there⟩

theorem not_live_of_get? (there : Identifier.session? id = some session)
    (missing : store.get? session = none) : ¬Live store id := by
  rw [ofSession_of_session? there, live_ofSession]
  exact Store.not_mem_order missing

theorem not_live_of_session? (nowhere : Identifier.session? id = none) : ¬Live store id := by
  rintro ⟨session, -, rfl⟩
  cases nowhere.symm.trans (session?_ofSession session)

/-- Sessions that are changed live on. -/
theorem live_put (found : store.get? session = some state) :
    Live (store.put session after) id ↔ Live store id := by
  have member : ∀ other, other ∈ (store.put session after).order ↔ other ∈ store.order := by
    intro other
    rw [Store.order_put, List.mem_append, List.mem_filter, List.mem_singleton, bne_iff_ne]
    by_cases same : other = session
    · rw [same]
      exact iff_of_true (Or.inr rfl) (Store.mem_order (Store.mem_of_get? found))
    · exact ⟨fun either => either.elim And.left (absurd · same), fun kept => Or.inl ⟨kept, same⟩⟩
  exact exists_congr fun other => and_congr_left' (member other)

/-- All sessions but the one that is deleted live on. -/
theorem live_delete : Live (store.delete session).2 id ↔
    Live store id ∧ id ≠ Identifier.ofSession session := by
  have order : (store.delete session).2.order = store.order.filter (· != session) := by
    change (store.without session).map Prod.fst = _
    rw [Store.without, Store.order, List.filter_map]
    rfl
  unfold Live
  rw [order]
  constructor
  · rintro ⟨other, kept, rfl⟩
    rcases List.mem_filter.mp kept with ⟨there, different⟩
    exact ⟨⟨other, there, rfl⟩, fun same => bne_iff_ne.mp different (ofSession_inj.mp same)⟩
  · rintro ⟨⟨other, there, rfl⟩, different⟩
    refine ⟨other, List.mem_filter.mpr ⟨there, bne_iff_ne.mpr ?_⟩, rfl⟩
    rintro rfl
    exact different rfl

/-- The session that a new one drives out, if there has to be one. -/
def DrivenOut (store : Store τ) (id : Nat) : Prop :=
  store.size = store.capacity ∧ store.order.head?.map Identifier.ofSession = some id

/-- A new session lives, and so do all others but the one that it drives out. -/
theorem live_create (numbered : store.Numbered) (room : store.size ≤ store.capacity) :
    Live (store.create state).2 id ↔
      id = Identifier.ofSession store.next ∨ (Live store id ∧ ¬DrivenOut store id) := by
  rcases Nat.lt_or_eq_of_le room with more | full
  · have order : (store.create state).2.order = store.order ++ [store.next] := by
      rw [Store.order, Store.sessions_create_of_lt more, List.map_append]
      rfl
    have apart : ¬DrivenOut store id := fun both => Nat.ne_of_lt more both.1
    rw [and_iff_left apart, Live, order]
    simp only [List.mem_append, List.mem_singleton, or_and_right, exists_or, exists_eq_left]
    exact or_comm
  · rcases Store.sessions_create_of_full full state with ⟨oldest, rest, sessions, created⟩
    have before : store.order = oldest.1 :: rest.map Prod.fst := by
      rw [Store.order, sessions, List.map_cons]
    have order : (store.create state).2.order = rest.map Prod.fst ++ [store.next] := by
      rw [Store.order, created, List.map_append]
      rfl
    have distinct := numbered.distinct
    rw [before, List.nodup_cons] at distinct
    rw [Live, order, DrivenOut, before, Live, before]
    constructor
    · rintro ⟨session, member, rfl⟩
      rcases List.mem_append.mp member with kept | new
      · refine Or.inr ⟨⟨session, List.mem_cons_of_mem _ kept, rfl⟩, ?_⟩
        rintro ⟨-, first⟩
        exact distinct.1 (ofSession_inj.mp (Option.some.inj first) ▸ kept)
      · exact Or.inl (congrArg _ (List.mem_singleton.mp new))
    · rintro (rfl | ⟨⟨session, member, rfl⟩, stays⟩)
      · exact ⟨store.next, List.mem_append_right _ (List.mem_singleton_self _), rfl⟩
      · rcases List.mem_cons.mp member with rfl | kept
        · exact absurd ⟨full, rfl⟩ stays
        · exact ⟨session, List.mem_append_left _ kept, rfl⟩

end

/-! ## What can become of a request -/

/-- A state that fits together, with a program that is not too long. -/
structure Admissible (state : State τ) : Prop where
  consistent : state.Consistent
  short : state.source.length ≤ longestSource

/-- The store is left as it is, or one session in it is changed. -/
inductive Effect (store : Store τ) : Store τ → Prop
  | stays : Effect store store
  | put {session : Id} {before after : State τ} (found : store.get? session = some before)
    (admissible : Admissible before → Admissible after) : Effect store (store.put session after)

/-- What can become of a valid request. -/
inductive Served [TimeScale τ] (now : τ) (store : Store τ) (ask : Ask) :
    EStateM.Result Refusal (Store τ) Answer → Prop
  /-- Something is not known, and nothing is done. -/
  | unknown (refusal : Refusal) (status : refusal.status = 404)
    (unknown : ask.NamesUnknown (Live store)) : Served now store ask (.error refusal store)
  /-- A session is created. -/
  | created (source : String) (known : ¬ask.NamesUnknown (Live store)) (unnamed : ask.id? = none)
    (short : source.length ≤ longestSource) : Served now store ask
      (.ok ⟨201, sessionJson now (Identifier.ofSession store.next) (.start source)⟩
        (store.create (.start source)).2)
  /-- A session is shown, perhaps after it was changed. -/
  | shown {id : Nat} {session : Id} {state : State τ} {after : Store τ}
    (known : ¬ask.NamesUnknown (Live store)) (kept : ∀ id, ask ≠ .delete id)
    (effect : Effect store after) (found : after.get? session = some state) :
    Served now store ask (.ok ⟨200, sessionJson now id state⟩ after)
  /-- Something happens that nobody expected. -/
  | failed (message : String) {after : Store τ} (known : ¬ask.NamesUnknown (Live store))
    (kept : ∀ id, ask ≠ .delete id) (effect : Effect store after) :
    Served now store ask (.error (.internal message) after)
  /-- A session is deleted. -/
  | deleted (session : Id) (known : ¬ask.NamesUnknown (Live store))
    (asked : ask = .delete (Identifier.ofSession session)) (message : String) :
    Served now store ask (.ok ⟨200, .object [("message", .text message)]⟩ (store.delete session).2)

theorem Effect.live {store after : Store τ} {id : Nat} (effect : Effect store after) :
    Live after id ↔ Live store id := by
  cases effect with
  | stays => exact Iff.rfl
  | put found admissible => exact live_put found

namespace Admissible

variable {before after : State τ}

theorem start {source : String} (short : source.length ≤ longestSource) :
    Admissible (.start source : State τ) :=
  ⟨State.consistent_start source, short⟩

theorem edit (admissible : Admissible before) {source : String}
    (short : source.length ≤ longestSource) : Admissible (before.edit source) :=
  ⟨admissible.consistent.change (.edited source), short⟩

theorem begin (admissible : Admissible before) : Admissible before.begin :=
  ⟨admissible.consistent.change .begun, admissible.short⟩

/-- Unless the session moves on, its program stays. -/
theorem unmoved (admissible : Admissible before) {recorded : Option Nat}
    (change : State.Change before after 0 recorded) : Admissible after := by
  refine ⟨admissible.consistent.change change, ?_⟩
  cases change with
  | stays => exact admissible.short
  | completed running result => exact admissible.short
  | acknowledged succeeded deadline => exact admissible.short

theorem acknowledge [TimeScale τ] {now duration : τ}
    (accepted : before.acknowledge now duration = .ok after) (admissible : Admissible before) :
    Admissible after := by
  have change := before.change_acknowledge now duration
  rw [accepted] at change
  exact admissible.unmoved change

end Admissible

/-! ## The sessions of a store -/

/-- The numbers of a store are in order, it has room for its sessions, and their programs are
not too long. -/
structure Tidy (store : Store τ) : Prop where
  numbered : store.Numbered
  room : store.size ≤ store.capacity
  admissible : ∀ entry ∈ store.sessions, Admissible entry.2

namespace Tidy

variable {store after : Store τ}

theorem empty (limit : Int) : Tidy (.empty limit : Store τ) :=
  ⟨.empty limit, Nat.zero_le _, nofun⟩

theorem effect (tidy : Tidy store) (effect : Effect store after) : Tidy after := by
  cases effect with
  | stays => exact tidy
  | @put session before after found admissible =>
    have entry := Store.mem_of_get? found
    refine ⟨tidy.numbered.put entry after,
      Nat.le_trans (Store.size_put_le (Store.mem_order entry) after) tidy.room, ?_⟩
    rintro ⟨other, held⟩ listed
    rcases Store.mem_put.mp listed with ⟨-, kept⟩ | ⟨-, same⟩
    · exact tidy.admissible _ kept
    · subst same
      exact admissible (tidy.admissible _ entry)

theorem create (tidy : Tidy store) {state : State τ} (admissible : Admissible state) :
    Tidy (store.create state).2 := by
  refine ⟨tidy.numbered.create state, Store.size_create_le store state, ?_⟩
  rintro ⟨other, held⟩ listed
  rcases Store.mem_create listed with kept | ⟨-, same⟩
  · exact tidy.admissible _ kept
  · subst same
    exact admissible

theorem delete (tidy : Tidy store) (session : Id) : Tidy (store.delete session).2 :=
  ⟨tidy.numbered.delete session, Nat.le_trans (List.length_filter_le _ _) tidy.room,
    fun _ listed => tidy.admissible _ (Store.mem_delete listed)⟩

end Tidy

namespace Ask

variable {store : Store τ} {id : Nat}

/-- All that is named is known. -/
theorem not_namesUnknown (ask : Ask) (named : ask.id? = some id) (live : Live store id)
    (listed : ∀ name, ask.exampleName? = some name → Catalog.find? name ≠ none) :
    ¬ask.NamesUnknown (Live store) := by
  rintro (⟨other, same, dead⟩ | ⟨name, needed, missing⟩)
  · cases named.symm.trans same
    exact dead live
  · exact listed name needed missing

/-- The examples that a new session needs are known. -/
theorem not_namesUnknown_create {beginning : Option Beginning}
    (listed : ∀ name, (create beginning).exampleName? = some name → Catalog.find? name ≠ none) :
    ¬(Ask.create beginning).NamesUnknown (Live store) := by
  rintro (⟨id, named, -⟩ | ⟨name, needed, missing⟩)
  · cases named
  · exact listed name needed missing

end Ask

/-- Without a session that is not there, a store is what it was. -/
theorem without_of_get? {store : Store τ} {session : Id} (missing : store.get? session = none) :
    store.without session = store.sessions := by
  refine List.filter_eq_self.mpr fun entry listed => bne_iff_ne.mpr ?_
  rintro rfl
  exact Store.not_mem_order missing (List.mem_map_of_mem listed)

theorem exampleNamed_of_some {name : String} {found : Example}
    (listed : Catalog.find? name = some found) :
    (Handler.exampleNamed name : Handler τ Example) = pure found := by
  rw [Handler.exampleNamed, listed]

theorem exampleNamed_of_none {name : String} (missing : Catalog.find? name = none) :
    (Handler.exampleNamed name : Handler τ Example) = throw (.unknownExample (some name)) := by
  rw [Handler.exampleNamed, missing]

section

variable [TimeScale τ] {setting : Setting τ} {outcome : String → Except String ExecutionResult}
  {store : Store τ} {ask : Ask} {id : Nat}

/-- A change of a session that has its place in the store. -/
theorem changed_of_session? {session : Id} (there : Identifier.session? id = some session)
    (change : State τ → Except TimeFault (State τ)) (store : Store τ) :
    Handler.changed setting id change store = (match store.update session change with
      | .ok (state, store) => do
        set store
        Handler.shown setting id state
      | .error fault => throw (.internal fault.message) : Handler τ Answer) store := by
  rw [Handler.changed, there]
  rfl

/-- A run of the program of a session that has its place in the store. -/
theorem execute_of_session? {session : Id} (there : Identifier.session? id = some session)
    (store : Store τ) :
    Handler.execute setting id store = (match store.execute session setting.run with
      | (result, store) => do
        set store
        match result with
        | .ok state => Handler.shown setting id state
        | .error message => throw (.internal message) : Handler τ Answer) store := by
  rw [Handler.execute, there]
  rfl

omit [TimeScale τ] in
/-- The end of a session that has its place in the store. -/
theorem delete_of_session? {session : Id} (there : Identifier.session? id = some session)
    (store : Store τ) :
    (Handler.delete id : Handler τ Answer) store = (match store.delete session with
      | (found, store) => do
        set store
        if found then
          return ⟨200, .object [("message", .text "Session deleted successfully")]⟩
        throw .unknownSession : Handler τ Answer) store := by
  rw [Handler.delete, there]
  rfl

/-- A change of a session, if it lives. -/
theorem served_changed {change : State τ → Except TimeFault (State τ)} (named : ask.id? = some id)
    (listed : ∀ name, ask.exampleName? = some name → Catalog.find? name ≠ none)
    (kept : ∀ id, ask ≠ .delete id) (admissible : ∀ before after, change before = .ok after →
      Admissible before → Admissible after) :
    Served setting.now store ask (Handler.changed setting id change store) := by
  cases there : Identifier.session? id with
  | none =>
    rw [Handler.changed, there]
    exact .unknown .unknownSession rfl (Or.inl ⟨id, named, not_live_of_session? there⟩)
  | some session =>
    have updated := store.updated session change
    rw [changed_of_session? there]
    generalize store.update session change = answer at updated ⊢
    cases updated with
    | absent missing =>
      exact .unknown .unknownSession rfl (Or.inl ⟨id, named, not_live_of_get? there missing⟩)
    | failed found fails =>
      exact .failed _ (Ask.not_namesUnknown ask named (live_of_get? there found) listed) kept .stays
    | changed found succeeds =>
      exact .shown (Ask.not_namesUnknown ask named (live_of_get? there found) listed) kept
        (.put found (admissible _ _ succeeds)) (Store.get?_put_self store session _)

/-- A run of the program of a session, if it lives. -/
theorem served_execute : Served setting.now store (.execute id)
    (Handler.execute (setting.sandboxed outcome) id store) := by
  cases there : Identifier.session? id with
  | none =>
    rw [Handler.execute, there]
    exact .unknown .unknownSession rfl (Or.inl ⟨id, rfl, not_live_of_session? there⟩)
  | some session =>
    have executed := store.executed session (setting.sandboxed outcome).run
    rw [execute_of_session? there]
    generalize store.execute session (setting.sandboxed outcome).run = answer at executed ⊢
    cases executed with
    | absent missing =>
      exact .unknown .unknownSession rfl (Or.inl ⟨id, rfl, not_live_of_get? there missing⟩)
    | raised found ran =>
      have known := Ask.not_namesUnknown (.execute id) rfl (live_of_get? there found) nofun
      rw [← (Prod.mk.inj ran).2]
      exact .failed _ known nofun (.put found fun admissible => admissible.begin)
    | @returned state result between found ran =>
      have known := Ask.not_namesUnknown (.execute id) rfl (live_of_get? there found) nofun
      have begun : (store.put session state.begin).get? session = some state.begin :=
        store.get?_put_self session state.begin
      rw [← (Prod.mk.inj ran).2, Store.modify, begun]
      dsimp only
      rw [Store.put_put]
      exact .shown known nofun
        (.put found fun admissible => admissible.begin.unmoved (State.change_complete _ _ _))
        (store.get?_put_self session _)

/-- A look at a session, if it lives. -/
theorem served_read : Served setting.now store (.read id)
    ((Ask.read id).handle (setting.sandboxed outcome) store) := by
  change Served setting.now store (.read id) (Handler.shown (setting.sandboxed outcome) id
    ((Identifier.session? id).bind store.get?) store)
  cases there : Identifier.session? id with
  | none => exact .unknown .unknownSession rfl (Or.inl ⟨id, rfl, not_live_of_session? there⟩)
  | some session =>
    rw [Option.bind_some]
    cases found : store.get? session with
    | none => exact .unknown .unknownSession rfl (Or.inl ⟨id, rfl, not_live_of_get? there found⟩)
    | some state =>
      exact .shown (Ask.not_namesUnknown _ rfl (live_of_get? there found) nofun) nofun .stays found

/-- The end of a session, if it lives. -/
theorem served_delete : Served setting.now store (.delete id) (Handler.delete id store) := by
  cases there : Identifier.session? id with
  | none =>
    rw [Handler.delete, there]
    exact .unknown .unknownSession rfl (Or.inl ⟨id, rfl, not_live_of_session? there⟩)
  | some session =>
    rw [delete_of_session? there]
    cases found : store.get? session with
    | none =>
      have same : store.delete session = (false, store) := by
        rw [Store.delete, found, without_of_get? found]
        rfl
      rw [same]
      exact .unknown .unknownSession rfl (Or.inl ⟨id, rfl, not_live_of_get? there found⟩)
    | some state =>
      have gone : store.delete session = (true, (store.delete session).2) := by
        rw [Store.delete, found]
        rfl
      have known := Ask.not_namesUnknown (.delete id) rfl (live_of_get? there found) nofun
      rw [gone]
      exact .deleted session known (congrArg _ (ofSession_of_session? there)) _

/-- A new session with its own program, that of an example, or the usual one. -/
theorem served_create (beginning : Option Beginning)
    (short : ∀ source ∈ (Ask.create beginning).source?, source.length ≤ longestSource) :
    Served setting.now store (.create beginning) (Handler.create setting beginning store) := by
  have standard : Catalog.standard.code.length ≤ longestSource :=
    length_code_le _ List.mem_cons_self
  rcases beginning with _ | ⟨_ | source, name⟩
  · exact .created _ (Ask.not_namesUnknown_create nofun) rfl standard
  · cases name with
    | none => exact .created _ (Ask.not_namesUnknown_create nofun) rfl standard
    | some name =>
      by_cases nameless : name = ""
      · subst nameless
        exact .created _ (Ask.not_namesUnknown_create nofun) rfl standard
      · have needed : (Ask.create (some ⟨none, some name⟩)).exampleName? = some name :=
          if_neg nameless
        have filtered : (some name).filter (· ≠ "") = some name := by
          rw [Option.filter_some, if_pos (decide_eq_true nameless)]
        unfold Handler.create
        dsimp only [Option.getD_some]
        rw [filtered]
        cases found : Catalog.find? name with
        | none =>
          dsimp only
          rw [exampleNamed_of_none found]
          exact .unknown (.unknownExample (some name)) rfl (Or.inr ⟨name, needed, found⟩)
        | some given =>
          dsimp only
          rw [exampleNamed_of_some found]
          refine .created given.code (Ask.not_namesUnknown_create ?_) rfl (length_of_find? found)
          intro other same missing
          cases needed.symm.trans same
          cases found.symm.trans missing
  · exact .created source (Ask.not_namesUnknown_create nofun) rfl (short source rfl)

/-- Whatever a valid request asks. -/
theorem served (short : ∀ source ∈ ask.source?, source.length ≤ longestSource) :
    Served setting.now store ask (ask.handle (setting.sandboxed outcome) store) := by
  cases ask with
  | create beginning => exact served_create beginning short
  | read id => exact served_read
  | setSource id source =>
    refine served_changed rfl nofun nofun ?_
    rintro before after ⟨⟩ admissible
    exact admissible.edit (short source rfl)
  | loadExample id name =>
    change Served setting.now store (.loadExample id name) ((Handler.exampleNamed name >>= fun found =>
      Handler.changed (setting.sandboxed outcome) id fun state => .ok (state.load found)) store)
    cases found : Catalog.find? name with
    | none =>
      rw [exampleNamed_of_none found]
      exact .unknown (.unknownExample (some name)) rfl (Or.inr ⟨name, rfl, found⟩)
    | some given =>
      rw [exampleNamed_of_some found]
      refine served_changed rfl ?_ nofun ?_
      · rintro other ⟨⟩ missing
        cases found.symm.trans missing
      · rintro before after ⟨⟩ admissible
        exact admissible.edit (length_of_find? found)
  | execute id => exact served_execute
  | acknowledge id =>
    exact served_changed rfl nofun nofun fun before after => Admissible.acknowledge
  | delete id => exact served_delete

end

end Service
end PolicyStudio
