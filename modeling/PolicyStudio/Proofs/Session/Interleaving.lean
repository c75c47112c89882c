import PolicyStudio.Proofs.Session.Entries
import PolicyStudio.Proofs.Session.Lifecycle

/-!
# Clients of one store

Any number of clients use one store at the same time.  Every operation is one step but
for an execute, which takes two: it begins a run, and when the program has returned it
hands the result to the session.  In between the store is open to others, and to
executes that the program itself begins.

A system is a store with the executes that have begun.  They are told apart by number,
and one that has come back may come back again, so that late and repeated results are
both covered.  A history lists what happened, the latest event first.

What keeps results and programs together is the revision.  It moves on with every edit
and every beginning, so a run whose revision is still that of the session was begun on
the program that is there now.

An execute of a store is made of such steps, those of its program included, so what is
shown of the steps holds of stores that are used through their own operations.
-/

namespace PolicyStudio
namespace Session

variable {τ : Type}

/-! ## Systems -/

/-- An execute that has begun: its session, and what its run was given. -/
structure Execution where
  id : Id
  revision : Nat
  source : String

/-- A store, and the executes that have begun on it, the first one first. -/
structure System (τ : Type) where
  store : Store τ
  executions : List Execution

/-- What happens to a system. -/
inductive Event where
  | created (id : Id) (source : String)
  | got (id : Id)
  | edited (id : Id) (source : String)
  | loaded (id : Id) (given : Example)
  | acknowledged (id : Id)
  | deleted (id : Id)
  | cleared
  /-- An execute begins and runs a program. -/
  | began (number : Nat) (id : Id) (source : String)
  /-- An execute finds no session. -/
  | missed (id : Id)
  /-- The run of an execute returns a result. -/
  | finished (number : Nat) (result : ExecutionResult)

/-- The program of a session is replaced. -/
def Event.rewrites (id : Id) : Event → Bool
  | .edited other _ | .loaded other _ => other == id
  | _ => false

/-- The number of the execute that begins. -/
def Event.begun? : Event → Option Nat
  | .began number _ _ => some number
  | _ => none

/-- The store after an acknowledgement, which changes nothing if it fails. -/
def Store.acknowledge [TimeScale τ] (store : Store τ) (id : Id) (now duration : τ) : Store τ :=
  match store.update id fun state => state.acknowledge now duration with
  | .ok (_, after) => after
  | .error _ => store

/-- One atomic step of a client. -/
inductive Step [TimeScale τ] (system : System τ) : Event → System τ → Prop
  | create (source : String) : Step system (.created system.store.next source)
    { system with store := (system.store.create (.start source)).2 }
  | get (id : Id) : Step system (.got id) system
  | edit (id : Id) (source : String) : Step system (.edited id source)
    { system with store := (system.store.modify id fun state => state.edit source).2 }
  | load (id : Id) (given : Example) : Step system (.loaded id given)
    { system with store := (system.store.modify id fun state => state.load given).2 }
  | acknowledge (id : Id) (now duration : τ) : Step system (.acknowledged id)
    { system with store := system.store.acknowledge id now duration }
  | delete (id : Id) : Step system (.deleted id)
    { system with store := (system.store.delete id).2 }
  | clear : Step system .cleared { system with store := system.store.clear }
  | begin {id : Id} {running : State τ} {store : Store τ}
    (present : system.store.modify id State.begin = (some running, store)) :
    Step system (.began system.executions.length id running.source)
      ⟨store, system.executions ++ [⟨id, running.revision, running.source⟩]⟩
  | miss {id : Id} (absent : (system.store.modify id State.begin).1 = none) :
    Step system (.missed id) system
  | finish {number : Nat} {execution : Execution}
    (begun : system.executions[number]? = some execution) (result : ExecutionResult) :
    Step system (.finished number result) { system with
      store := (system.store.modify execution.id fun state =>
        state.complete execution.revision result).2 }

/-- Several steps, and what happened with them, the latest event first. -/
inductive Steps [TimeScale τ] (system : System τ) : System τ → List Event → Prop
  | none : Steps system system []
  | step {between next : System τ} {history : List Event} {event : Event}
    (steps : Steps system between history) (step : Step between event next) :
    Steps system next (event :: history)

/-- The system can be reached from an empty store, and this is what happened on the way. -/
def Reachable [TimeScale τ] (limit : Int) : System τ → List Event → Prop :=
  Steps ⟨.empty limit, []⟩

/-! ## What one step can do -/

/-- A session stands somewhere between its program and the end of a run. -/
def State.hasEnded (state : State τ) : Prop :=
  state.status = .succeeded ∨ state.status = .failed

theorem not_hasEnded_of_idle {state : State τ} (idle : state.status = .idle) :
    ¬state.hasEnded := by
  rintro (ended | ended) <;> rw [idle] at ended <;> cases ended

theorem not_hasEnded_of_running {state : State τ} (running : state.status = .running) :
    ¬state.hasEnded := by
  rintro (ended | ended) <;> rw [running] at ended <;> cases ended

/-- An acknowledgement changes a session that is there, or nothing. -/
theorem Store.acknowledge_cases [TimeScale τ] (store : Store τ) (id : Id) (now duration : τ) :
    store.acknowledge id now duration = store ∨
      ∃ before after, (id, before) ∈ store.sessions ∧ State.Change before after 0 none ∧
        store.acknowledge id now duration = store.put id after := by
  unfold acknowledge
  cases accepted : store.update id fun state => state.acknowledge now duration with
  | error fault => exact .inl rfl
  | ok answer =>
    rcases update_cases accepted with unchanged | ⟨before, after, entry, changed, put⟩
    · exact .inl unchanged
    · have change := before.change_acknowledge now duration
      rw [changed] at change
      exact .inr ⟨before, after, entry, change, put⟩

/-- Where an entry of the store after a step comes from. -/
inductive Origin (system : System τ) (event : Event) (id : Id) (after : State τ) : Prop
  /-- The session was there, and at most its acknowledgement is new. -/
  | kept {before : State τ} (entry : (id, before) ∈ system.store.sessions)
    (quiet : event.rewrites id = false) (source : after.source = before.source)
    (revision : after.revision = before.revision) (status : after.status = before.status)
    (result : after.result = before.result)
  /-- The session has moved on. -/
  | moved {before : State τ} (entry : (id, before) ∈ system.store.sessions)
    (revision : after.revision = before.revision + 1) (unended : ¬after.hasEnded)
    (source : after.source = before.source ∨ event.rewrites id = true)
  /-- The result of the run of the revision has been recorded. -/
  | recorded {before : State τ} {number : Nat} {execution : Execution} {result : ExecutionResult}
    (entry : (id, before) ∈ system.store.sessions)
    (begun : system.executions[number]? = some execution) (own : execution.id = id)
    (current : execution.revision = before.revision) (finished : event = .finished number result)
    (source : after.source = before.source) (revision : after.revision = before.revision)
    (held : after.result = some result)
  /-- The session is new. -/
  | fresh (new : id = system.store.next) (unended : ¬after.hasEnded)

theorem Origin.unchanged {system : System τ} {event : Event} {id : Id} {state : State τ}
    (entry : (id, state) ∈ system.store.sessions) (quiet : event.rewrites id = false) :
    Origin system event id state :=
  .kept entry quiet rfl rfl rfl rfl

/-- Where the entries come from when a session is changed by a step of its own. -/
theorem origin_of_put {system : System τ} {event : Event} {id other : Id} {after held : State τ}
    (own : Origin system event id after) (quiet : other ≠ id → event.rewrites other = false)
    (entry : (other, held) ∈ (system.store.put id after).sessions) :
    Origin system event other held := by
  rcases Store.mem_put.mp entry with ⟨different, kept⟩ | ⟨same, equal⟩
  · exact .unchanged kept (quiet different)
  · subst same equal
    exact own

theorem State.hasEnded_of_kept {before after : State τ} (status : after.status = before.status)
    (ended : after.hasEnded) : before.hasEnded := by
  rw [hasEnded, status] at ended
  exact ended

/-- Where the entries come from when a session moves on, if it is there. -/
theorem origin_of_modify {system : System τ} {event : Event} {id other : Id} {held : State τ}
    {change : State τ → State τ}
    (moves : ∀ before, (change before).revision = before.revision + 1 ∧ ¬(change before).hasEnded)
    (source : ∀ before, (change before).source = before.source ∨ event.rewrites id = true)
    (quiet : other ≠ id → event.rewrites other = false)
    (entry : (other, held) ∈ (system.store.modify id change).2.sessions) :
    Origin system event other held := by
  rcases system.store.modify_cases id change with ⟨absent, unchanged⟩ | ⟨before, present, changed⟩
  · rw [unchanged] at entry
    refine .unchanged entry (quiet ?_)
    rintro rfl
    exact absent (Store.mem_order entry)
  · rw [changed] at entry
    exact origin_of_put (.moved present (moves before).1 (moves before).2 (source before)) quiet
      entry

/-- The acknowledgement changes nothing but the acknowledgement. -/
theorem Origin.acknowledged {system : System τ} {event : Event} {id : Id} {before after : State τ}
    (entry : (id, before) ∈ system.store.sessions) (quiet : event.rewrites id = false)
    (change : State.Change before after 0 none) : Origin system event id after := by
  cases change with
  | stays => exact .unchanged entry quiet
  | acknowledged succeeded deadline => exact .kept entry quiet rfl rfl rfl rfl

/-- A result that comes in is recorded or dropped. -/
theorem Origin.completed {system : System τ} {id : Id} {before : State τ} {number : Nat}
    {execution : Execution} (begun : system.executions[number]? = some execution)
    (own : execution.id = id) (entry : (id, before) ∈ system.store.sessions)
    (result : ExecutionResult) :
    Origin system (.finished number result) id (before.complete execution.revision result) := by
  unfold State.complete State.complete?
  split_ifs with current
  · exact .recorded entry begun own (Int.ofNat.inj current.1).symm rfl rfl rfl rfl
  · exact .unchanged entry rfl

/-- Every entry of the store after a step has one of the four origins. -/
theorem origin_of_step [TimeScale τ] {system next : System τ} {event : Event}
    (step : Step system event next) {id : Id} {after : State τ}
    (entry : (id, after) ∈ next.store.sessions) : Origin system event id after := by
  cases step with
  | create source =>
    rcases Store.mem_create entry with kept | ⟨new, equal⟩
    · exact .unchanged kept rfl
    · exact .fresh new (equal ▸ not_hasEnded_of_idle rfl)
  | get other => exact .unchanged entry rfl
  | edit other source =>
    exact origin_of_modify (fun _ => ⟨rfl, not_hasEnded_of_idle rfl⟩)
      (fun _ => .inr (beq_self_eq_true other))
      (fun different => beq_eq_false_iff_ne.mpr different.symm) entry
  | load other given =>
    exact origin_of_modify (fun _ => ⟨rfl, not_hasEnded_of_idle rfl⟩)
      (fun _ => .inr (beq_self_eq_true other))
      (fun different => beq_eq_false_iff_ne.mpr different.symm) entry
  | acknowledge other now duration =>
    rcases system.store.acknowledge_cases other now duration with
      unchanged | ⟨before, changed, present, change, put⟩
    · rw [unchanged] at entry
      exact .unchanged entry rfl
    · rw [put] at entry
      exact origin_of_put (.acknowledged present rfl change) (fun _ => rfl) entry
  | delete other => exact .unchanged (Store.mem_delete entry) rfl
  | clear => cases entry
  | @begin other running store present =>
    have moved : (id, after) ∈ (system.store.modify other State.begin).2.sessions := by
      rw [present]
      exact entry
    exact origin_of_modify (fun before => ⟨rfl, @not_hasEnded_of_running _ before.begin rfl⟩)
      (fun _ => .inl rfl) (fun _ => rfl) moved
  | miss absent => exact .unchanged entry rfl
  | @finish number execution begun result =>
    rcases system.store.modify_cases execution.id fun state =>
      state.complete execution.revision result with ⟨_, unchanged⟩ | ⟨before, present, changed⟩
    · rw [unchanged] at entry
      exact .unchanged entry rfl
    · rw [changed] at entry
      exact origin_of_put (.completed begun rfl present result) (fun _ => rfl) entry

/-- Every step is at most one operation of the store. -/
theorem change_of_step [TimeScale τ] {system next : System τ} {event : Event}
    (step : Step system event next) : system.store.Change next.store := by
  cases step with
  | create source => exact .created _
  | get id => exact .stays
  | edit id source => exact system.store.change_modify id _
  | load id given => exact system.store.change_modify id _
  | acknowledge id now duration =>
    rcases system.store.acknowledge_cases id now duration with
      unchanged | ⟨before, changed, present, change, put⟩
    · rw [unchanged]
      exact .stays
    · rw [put]
      exact .changed present changed
  | delete id => exact .deleted id
  | clear => exact .cleared
  | @begin id running store present =>
    have change := system.store.change_modify id State.begin
    rw [present] at change
    exact change
  | miss absent => exact .stays
  | finish begun result => exact system.store.change_modify _ _

/-- An execute that is new has just begun, on what the store then holds. -/
theorem executions_of_step [TimeScale τ] {system next : System τ} {event : Event}
    (step : Step system event next) :
    (next.executions = system.executions ∧ event.begun? = none) ∨
      ∃ id running, (id, running) ∈ next.store.sessions ∧ id ∈ system.store.order ∧
        next.executions = system.executions ++ [⟨id, running.revision, running.source⟩] ∧
        event = .began system.executions.length id running.source := by
  cases step with
  | @begin id running store present =>
    rcases system.store.modify_cases id State.begin with
      ⟨_, unchanged⟩ | ⟨before, entry, changed⟩
    · rw [unchanged] at present
      cases present
    · rw [changed] at present
      cases present
      exact .inr ⟨id, _, Store.mem_put.mpr (.inr ⟨rfl, rfl⟩), Store.mem_order entry, rfl, rfl⟩
  | _ => exact .inl ⟨rfl, rfl⟩

/-! ## Runs on the program that is there -/

/-- An execute began on a program of a session, and since then, which is `later`, the
program was not replaced. -/
structure RunsOn (source : String) (id : Id) (number : Nat) (later history : List Event) :
    Prop where
  began : ∃ earlier, history = later ++ .began number id source :: earlier
  quiet : ∀ event ∈ later, event.rewrites id = false

theorem RunsOn.of_began (source : String) (id : Id) (number : Nat) (history : List Event) :
    RunsOn source id number [] (.began number id source :: history) :=
  ⟨⟨history, rfl⟩, nofun⟩

theorem RunsOn.cons {source : String} {id : Id} {number : Nat} {later history : List Event}
    {event : Event} (runs : RunsOn source id number later history)
    (quiet : event.rewrites id = false) :
    RunsOn source id number (event :: later) (event :: history) := by
  rcases runs.began with ⟨earlier, split⟩
  exact ⟨⟨earlier, congrArg (event :: ·) split⟩, List.forall_mem_cons.mpr ⟨quiet, runs.quiet⟩⟩

/-- Revisions keep results and programs together: a run whose revision is that of its
session was begun on the program that is there now, and what the session holds is what such
a run returned. -/
structure Sound (system : System τ) (history : List Event) : Prop where
  numbered : system.store.Numbered
  known : ∀ execution ∈ system.executions, execution.id < system.store.next
  current : ∀ {number execution state}, system.executions[number]? = some execution →
    (execution.id, state) ∈ system.store.sessions → execution.revision ≤ state.revision ∧
      (execution.revision = state.revision →
        ∃ later, RunsOn state.source execution.id number later history)
  held : ∀ {id state}, (id, state) ∈ system.store.sessions → state.hasEnded →
    ∃ number result later, state.result = some result ∧ .finished number result ∈ later ∧
      RunsOn state.source id number later history

theorem Sound.empty (limit : Int) : Sound (⟨.empty limit, []⟩ : System τ) [] where
  numbered := .empty limit
  known := nofun
  current := nofun
  held := nofun

/-- A run that had begun before a step still belongs to the program if its revision is that
of the session. -/
theorem Sound.current_of_origin {system : System τ} {history : List Event} {event : Event}
    {number : Nat} {execution : Execution} {after : State τ} (sound : Sound system history)
    (begun : system.executions[number]? = some execution)
    (origin : Origin system event execution.id after) :
    execution.revision ≤ after.revision ∧ (execution.revision = after.revision →
      ∃ later, RunsOn after.source execution.id number later (event :: history)) := by
  cases origin with
  | kept entry quiet source revision status result =>
    rw [source, revision]
    refine (sound.current begun entry).imp_right fun same equal => ?_
    rcases same equal with ⟨later, runs⟩
    exact ⟨event :: later, runs.cons quiet⟩
  | moved entry revision unended source =>
    -- The revision has left behind every run that had begun.
    have below := (sound.current begun entry).1
    rw [revision]
    exact ⟨Nat.le_succ_of_le below, fun equal => absurd below (equal ▸ Nat.not_succ_le_self _)⟩
  | recorded entry other own current finished source revision held =>
    rw [source, revision]
    refine (sound.current begun entry).imp_right fun same equal => ?_
    rcases same equal with ⟨later, runs⟩
    exact ⟨event :: later, runs.cons (finished ▸ rfl)⟩
  | fresh new unended =>
    have known := sound.known execution (List.mem_of_getElem? begun)
    exact absurd known (new ▸ Nat.lt_irrefl _)

/-- What a session holds after a step was held already, or was returned by the run of its
revision. -/
theorem Sound.held_of_origin {system : System τ} {history : List Event} {event : Event} {id : Id}
    {after : State τ} (sound : Sound system history) (origin : Origin system event id after)
    (ended : after.hasEnded) :
    ∃ number result later, after.result = some result ∧ .finished number result ∈ later ∧
      RunsOn after.source id number later (event :: history) := by
  cases origin with
  | kept entry quiet source revision status result =>
    rcases sound.held entry (State.hasEnded_of_kept status ended) with
      ⟨number, value, later, holds, finished, runs⟩
    rw [source, result]
    exact ⟨number, value, event :: later, holds, List.mem_cons_of_mem _ finished, runs.cons quiet⟩
  | moved entry revision unended source => exact absurd ended unended
  | @recorded before number execution result entry begun own current finished source _ held =>
    subst own finished
    rcases (sound.current begun entry).2 current with ⟨later, runs⟩
    rw [source]
    exact ⟨number, result, _, held, List.mem_cons_self, runs.cons rfl⟩
  | fresh new unended => exact absurd ended unended

theorem Sound.step [TimeScale τ] {system next : System τ} {history : List Event} {event : Event}
    (sound : Sound system history) (step : Step system event next) :
    Sound next (event :: history) := by
  have numbered : next.store.Numbered := (change_of_step step).numbered sound.numbered
  refine ⟨numbered, ?_, ?_, fun entry => sound.held_of_origin (origin_of_step step entry)⟩
  · intro execution member
    refine Nat.lt_of_lt_of_le ?_ (change_of_step step).next_le
    rcases executions_of_step step with ⟨same, _⟩ | ⟨id, running, _, present, more, _⟩
    · exact sound.known execution (same ▸ member)
    · rw [more] at member
      rcases List.mem_append.mp member with old | new
      · exact sound.known execution old
      · rw [List.mem_singleton.mp new]
        exact sound.numbered.fresh id present
  · intro number execution state begun entry
    have before (old : system.executions[number]? = some execution) :=
      sound.current_of_origin old (origin_of_step step entry)
    rcases executions_of_step step with ⟨same, _⟩ | ⟨id, running, held, present, more, began⟩
    · exact before (same ▸ begun)
    · rw [more] at begun
      -- The execute is an old one, or the last, whose program is the one the session holds.
      rcases Nat.lt_or_ge number system.executions.length with old | new
      · exact before (List.getElem?_append_left old ▸ begun)
      · rw [List.getElem?_append_right new, List.getElem?_singleton] at begun
        split_ifs at begun with first
        cases begun
        have last : number = system.executions.length :=
          Nat.le_antisymm (Nat.le_of_sub_eq_zero first) new
        rw [← numbered.eq_of_mem held entry, last, began]
        exact ⟨Nat.le_refl _, fun _ => ⟨[], .of_began _ _ _ _⟩⟩

theorem Sound.of_reachable [TimeScale τ] {limit : Int} {system : System τ} {history : List Event}
    (reachable : Reachable limit system history) : Sound system history := by
  induction reachable with
  | none => exact .empty limit
  | step _ step sound => exact sound.step step

/-- Executes are numbered one after the other, so no two have the same number. -/
theorem numbers_of_reachable [TimeScale τ] {limit : Int} {system : System τ}
    {history : List Event} (reachable : Reachable limit system history) :
    history.filterMap Event.begun? = (List.range system.executions.length).reverse := by
  induction reachable with
  | none => rfl
  | step _ step numbers =>
    rcases executions_of_step step with ⟨same, other⟩ | ⟨id, running, _, _, more, began⟩
    · rw [List.filterMap_cons_none other, same]
      exact numbers
    · rw [more, List.length_append, List.length_singleton, List.range_succ, List.reverse_append,
        ← numbers, began]
      rfl

/-- Only an edit of a session, or an example loaded into it, replaces its program. -/
theorem rewrites_of_source_ne [TimeScale τ] {system next : System τ} {event : Event} {id : Id}
    {before after : State τ} (numbered : system.store.Numbered) (step : Step system event next)
    (first : system.store.get? id = some before) (second : next.store.get? id = some after)
    (different : after.source ≠ before.source) : event.rewrites id = true := by
  have present := Store.mem_of_get? first
  cases origin_of_step step (Store.mem_of_get? second) with
  | kept entry quiet source revision status result =>
    exact absurd source (numbered.eq_of_mem entry present ▸ different)
  | moved entry revision unended source =>
    exact source.resolve_left (numbered.eq_of_mem entry present ▸ different)
  | recorded entry begun own current finished source revision held =>
    exact absurd source (numbered.eq_of_mem entry present ▸ different)
  | fresh new unended =>
    exact absurd (numbered.fresh id (Store.mem_order present)) (new ▸ Nat.lt_irrefl _)

/-- However the steps of the clients are mixed, a session that has succeeded or failed holds
what was returned by a run that an execute began on the program that is there now, after it
was edited or loaded last.  Executes are told apart by their numbers, and no step but an edit
or a load of the session replaces its program. -/
theorem results_belong_to_programs [TimeScale τ] {limit : Int} {system : System τ}
    {history : List Event} (reachable : Reachable limit system history) :
    (∀ id state, system.store.get? id = some state →
      state.status = .succeeded ∨ state.status = .failed →
      ∃ number result later, state.result = some result ∧ .finished number result ∈ later ∧
        RunsOn state.source id number later history) ∧
    (history.filterMap Event.begun?).Nodup ∧
    ∀ event next id before after, Step system event next →
      system.store.get? id = some before → next.store.get? id = some after →
      after.source ≠ before.source → event.rewrites id = true := by
  have sound : Sound system history := .of_reachable reachable
  refine ⟨?_, ?_, ?_⟩
  · intro id state found ended
    exact sound.held (Store.mem_of_get? found) ended
  · rw [numbers_of_reachable reachable]
    exact List.nodup_reverse.mpr List.nodup_range
  · intro event next id before after step first second
    exact rewrites_of_source_ne sound.numbered step first second

/-- A program is edited while it runs, and run again: the result of the first run comes
late, before the other and once more after it. -/
def lateHistory : List Event :=
  [.finished 0 (.success "late"), .finished 1 (.success "text"), .finished 0 (.success "late"),
    .began 1 0 "edited", .edited 0 "edited", .began 0 0 "given", .created 0 "given"]

/-- The system after `lateHistory`. -/
def lateSystem : System Seconds where
  store := ⟨[(0, ⟨"edited", .succeeded, some (.success "text"), 3, none⟩)], 1, 1⟩
  executions := [⟨0, 1, "given"⟩, ⟨0, 3, "edited"⟩]

theorem reachable_late : Reachable 1 lateSystem lateHistory := by
  have begun : Reachable 1
      (⟨⟨[(0, ⟨"given", .running, none, 1, none⟩)], 1, 1⟩, [⟨0, 1, "given"⟩]⟩ : System Seconds)
      [.began 0 0 "given", .created 0 "given"] :=
    .step (.step .none (.create "given"))
      (@Step.begin _ _ _ 0 ⟨"given", .running, none, 1, none⟩ _ rfl)
  have again : Reachable 1
      (⟨⟨[(0, ⟨"edited", .running, none, 3, none⟩)], 1, 1⟩,
        [⟨0, 1, "given"⟩, ⟨0, 3, "edited"⟩]⟩ : System Seconds)
      [.began 1 0 "edited", .edited 0 "edited", .began 0 0 "given", .created 0 "given"] :=
    .step (.step begun (.edit 0 "edited"))
      (@Step.begin _ _ _ 0 ⟨"edited", .running, none, 3, none⟩ _ rfl)
  have dropped := Steps.step again (@Step.finish _ _ _ 0 ⟨0, 1, "given"⟩ rfl (.success "late"))
  have ended := dropped.step (@Step.finish _ _ _ 1 ⟨0, 3, "edited"⟩ rfl (.success "text"))
  exact ended.step (@Step.finish _ _ _ 0 ⟨0, 1, "given"⟩ rfl (.success "late"))

theorem results_belong_to_programs_of_late :
    Reachable 1 lateSystem lateHistory ∧
    lateSystem.store.get? 0 = some ⟨"edited", .succeeded, some (.success "text"), 3, none⟩ ∧
    ∃ number result later, some (.success "text") = some result ∧
      .finished number result ∈ later ∧ RunsOn "edited" 0 number later lateHistory :=
  ⟨reachable_late, rfl, (results_belong_to_programs reachable_late).1 0 _ rfl (.inl rfl)⟩

/-! ## Executes of a store -/

theorem Steps.append [TimeScale τ] {system between next : System τ} {earlier later : List Event}
    (first : Steps system between earlier) (second : Steps between next later) :
    Steps system next (later ++ earlier) := by
  induction second with
  | none => exact first
  | step _ step reached => exact reached.step step

/-- An execute that has begun stays where it is among the others. -/
theorem Steps.getElem?_executions [TimeScale τ] {system next : System τ} {history : List Event}
    {number : Nat} {execution : Execution} (steps : Steps system next history)
    (begun : system.executions[number]? = some execution) :
    next.executions[number]? = some execution := by
  induction steps with
  | none => exact begun
  | step _ step before =>
    rcases executions_of_step step with ⟨same, _⟩ | ⟨id, running, _, _, more, _⟩
    · exact same ▸ before
    · have old := (List.getElem?_eq_some_iff.mp before).1
      rw [more, List.getElem?_append_left old]
      exact before

/-- A way to run programs that uses the store as the clients do, by steps. -/
def IsStepwise [TimeScale τ] {ε : Type} (run : Store.Runner τ ε) : Prop :=
  ∀ (source : String) (system : System τ), ∃ next history,
    Steps system next history ∧ next.store = (run source system.store).2

/-- What an execute does to a store are steps of the system, if what the program does to it
meanwhile are; the program may thus begin executes of its own. -/
theorem steps_of_execute [TimeScale τ] {ε : Type} {run : Store.Runner τ ε}
    (stepwise : IsStepwise run) (system : System τ) (id : Id) :
    ∃ next history, Steps system next history ∧ next.store = (system.store.execute id run).2 := by
  unfold Store.execute
  rcases present : system.store.modify id State.begin with ⟨_ | running, store⟩
  · have kept : store = system.store := by
      rcases system.store.modify_cases id State.begin with ⟨_, same⟩ | ⟨_, _, changed⟩
      · exact congrArg Prod.snd (present.symm.trans same)
      · cases present.symm.trans changed
    exact ⟨system, _, .none, kept.symm⟩
  · have begun : Steps system ⟨store, system.executions ++ [⟨id, running.revision, running.source⟩]⟩
        [.began system.executions.length id running.source] := .step .none (.begin present)
    rcases stepwise running.source
      ⟨store, system.executions ++ [⟨id, running.revision, running.source⟩]⟩ with
      ⟨between, during, steps, left⟩
    dsimp only at left ⊢
    rcases returned : run running.source store with ⟨error | result, after⟩
    · rw [returned] at left
      exact ⟨between, _, begun.append steps, left⟩
    · rw [returned] at left
      have number : between.executions[system.executions.length]? =
          some ⟨id, running.revision, running.source⟩ :=
        steps.getElem?_executions List.getElem?_concat_length
      change between.store = after at left
      subst left
      exact ⟨_, _, (begun.append steps).step (.finish number result), rfl⟩

/-- An execute keeps a store among those that can be reached. -/
theorem Reachable.execute [TimeScale τ] {ε : Type} {limit : Int} {system : System τ}
    {history : List Event} {run : Store.Runner τ ε} (reachable : Reachable limit system history)
    (stepwise : IsStepwise run) (id : Id) :
    ∃ next later, Reachable limit next (later ++ history) ∧
      next.store = (system.store.execute id run).2 := by
  rcases steps_of_execute stepwise system id with ⟨next, later, steps, store⟩
  exact ⟨next, later, reachable.append steps, store⟩

end Session
end PolicyStudio
