import PolicyStudio.Proofs.Execution.Calling
import PolicyStudio.Proofs.Execution.Compiling
import PolicyStudio.Proofs.Execution.Expiry

/-!
# What a run leaves behind

Runs share the values of their registry, and nothing else.  A program is called in
surroundings that are new, and the values that it is called with are all that it starts from.
So a later run can only find what an earlier one did through a value that can change: a list,
a dictionary, a set or an iteration.

A value is settled if nothing that it refers to can change, however far one follows the
references.  Settled values are as they were after any run.  If all values of a registry are,
whatever the next program starts from either is as it was before the earlier run, or is new.
-/

namespace PolicyStudio

open Script

namespace Script

/-! ## References -/

/-- The values that a value consists of or belongs to. -/
def Value.parts : Value → List Value
  | .tuple items => items
  | .slice start stop step => [start, stop, step]
  | .method receiver _ => [receiver]
  | .printer frame => [.object frame]
  | _ => []

/-- The values that the state of an iteration refers to. -/
def Iteration.parts : Iteration → List Value
  | .list source _ | .dictionary source .. | .set source .. => [.object source]
  | .values _ rest => rest
  | .enumerate source _ => [source]
  | .map function sources => function :: sources
  | .filter function source => [function, source]
  | .generator state =>
    state.running.map (fun clause => clause.1) ++ state.scope.frames.map .object
  | .suspended function frame => [.object function, .object frame]
  | .range .. | .spent _ => []

/-- The values that a binding of the host gives away. -/
def HostAction.parts : HostAction → List Value
  | .answer value => [value]
  | .raise _ arguments => arguments
  | .count | .expire => []

/-- The values that an object refers to. -/
def Object.parts : Object → List Value
  | .list items => items.toList
  | .dictionary entries => entries.toList.flatMap fun entry => [entry.1, entry.2]
  | .set members => members.toList
  | .view _ source => [.object source]
  | .iteration state => state.parts
  | .closure function => function.defaults.map Prod.snd ++ function.scope.frames.map .object
  | .host _ action => action.parts
  | .error _ arguments details => arguments ++ details.map Prod.snd
  | .policy (.foreignContext value) => [value]
  | .frame content => content.entries.map Prod.snd ++ content.yielded.toList
  | .plain | .interruptClass | .policy _ => []

namespace Machine

/-- An address that is reached from a value by following references. -/
inductive Reaches (machine : Machine) : Value → Address → Prop
  | here (address : Address) : Reaches machine (.object address) address
  | part {value part : Value} {address : Address} (member : part ∈ value.parts)
    (further : Reaches machine part address) : Reaches machine value address
  | inside {address other : Address} {object : Object} {part : Value}
    (there : machine.Holds address object) (member : part ∈ object.parts)
    (further : Reaches machine part other) : Reaches machine (.object address) other

/-- Nothing that a value refers to can change. -/
def Settles (machine : Machine) (value : Value) : Prop :=
  ∀ address, machine.Reaches value address →
    ∃ object, machine.Holds address object ∧ object.isFixed = true

variable {before after machine : Machine} {value piece : Value} {address other : Address}

theorem Settles.part (settled : machine.Settles value) (member : piece ∈ value.parts) :
    machine.Settles piece := by
  intro address further
  apply settled
  exact .part member further

theorem Settles.inside {object : Object} (settled : machine.Settles (.object address))
    (there : machine.Holds address object) (member : piece ∈ object.parts) :
    machine.Settles piece := by
  intro other further
  apply settled
  exact .inside there member further

/-- A value that is no object is settled if what it consists of is. -/
theorem Settles.of_parts (unplaced : ∀ address, value ≠ .object address)
    (each : ∀ piece ∈ value.parts, machine.Settles piece) : machine.Settles value := by
  intro address reaches
  cases reaches with
  | here => exact absurd rfl (unplaced address)
  | part member further => exact each _ member address further
  | inside => exact absurd rfl (unplaced _)

/-- An object that cannot change is settled if what it refers to is. -/
theorem Settles.of_holds {object : Object} (there : machine.Holds address object)
    (isFixed : object.isFixed = true) (each : ∀ piece ∈ object.parts, machine.Settles piece) :
    machine.Settles (.object address) := by
  intro other reaches
  cases reaches with
  | here => exact ⟨object, there, isFixed⟩
  | part member => cases member
  | inside holds member further =>
    cases there.symm.trans holds
    exact each _ member other further

/-- What stands at an address to which a settled value refers stays there. -/
theorem LeadsTo.heap_of_settles (leads : before.LeadsTo after) (settled : before.Settles value)
    (reaches : before.Reaches value address) : after.heap[address]? = before.heap[address]? := by
  rcases settled address reaches with ⟨object, there, isFixed⟩
  have still := leads.fixed address object isFixed there
  exact still.trans there.symm

/-- A settled value goes on to refer to what it has referred to. -/
theorem LeadsTo.reaches (leads : before.LeadsTo after) (settled : before.Settles value)
    (reaches : before.Reaches value address) : after.Reaches value address := by
  induction reaches with
  | here address => exact .here address
  | part member further inductionHypothesis =>
    exact .part member (inductionHypothesis (settled.part member))
  | @inside address other object part there member further inductionHypothesis =>
    have same := leads.heap_of_settles settled (.here address)
    exact .inside (same.trans there) member (inductionHypothesis (settled.inside there member))

/-- A settled value refers to nothing that it has not referred to. -/
theorem LeadsTo.reaches_of_after (leads : before.LeadsTo after) (settled : before.Settles value)
    (reaches : after.Reaches value address) : before.Reaches value address := by
  induction reaches with
  | here address => exact .here address
  | part member further inductionHypothesis =>
    exact .part member (inductionHypothesis (settled.part member))
  | @inside address other object part there member further inductionHypothesis =>
    have same := leads.heap_of_settles settled (.here address)
    have earlier : before.Holds address object := same.symm.trans there
    exact .inside earlier member (inductionHypothesis (settled.inside earlier member))

/-- Whatever is at an address is within the heap. -/
theorem Holds.lt_size {object : Object} (there : machine.Holds address object) :
    address < machine.heap.size := by
  rcases Array.getElem?_eq_some_iff.mp there with ⟨within, -⟩
  exact within

end Machine

end Script

namespace Execution

/-! ## The start of a program -/

/-- The parameters of a program are plain, because they are the names of its registry. -/
theorem load_of_compile {source : String} {registry : Registry} {program : CompiledProgram}
    (compiled : Program.compile source registry.names = .ok program) (before : Machine) :
    ∃ address after, (load program).run before = .ok (.object address) after ∧
      before.heap.size < address ∧
      after.Holds address (.closure (closureOf program before.heap.size)) ∧
      after.Holds before.heap.size (.frame (surroundingsOf address)) := by
  have header := (Program.compile_eq_ok_iff.mp compiled).2.1
  have same := Except.ok.inj (header.symm.trans registry.readParameters_names)
  rcases load_run same registry.hint_plainParameters before with
    ⟨address, after, loaded, larger, there, surroundings, -⟩
  exact ⟨address, after, loaded, larger, there, surroundings⟩

/-- The function of a program refers to itself and to its surroundings only. -/
theorem reaches_function {program : CompiledProgram} {surroundings function address : Address}
    {machine : Machine} (there : machine.Holds function (.closure (closureOf program surroundings)))
    (around : machine.Holds surroundings (.frame (surroundingsOf function))) {value : Value}
    (start : value = .object function ∨ value = .object surroundings)
    (reaches : machine.Reaches value address) : address = function ∨ address = surroundings := by
  induction reaches with
  | here address =>
    exact start.imp Value.object.inj Value.object.inj
  | part member further inductionHypothesis =>
    rcases start with rfl | rfl <;> cases member
  | inside holds member further inductionHypothesis =>
    apply inductionHypothesis
    rcases start with same | same
    · cases same
      cases there.symm.trans holds
      exact .inr (List.mem_singleton.mp member)
    · cases same
      cases around.symm.trans holds
      exact .inl (List.mem_singleton.mp member)

/-- What a run leaves behind.  Every settled value refers to what it referred to before, and all
of that is as it was; the time limit, the depth of calls and the errors that are being handled
are those from before, too.  If all values of the registry are settled, then whatever program
comes next, all that its function and its arguments refer to when it is called is as it was
before the run, or was not there when the run ended. -/
theorem nothing_of_settled_values_changes (limit : Option Int) (source : String)
    (registry : Registry) (before : Machine) :
    let after := (run limit source registry).run.stateAfter before
    (∀ value address, before.Settles value →
      (after.Reaches value address ↔ before.Reaches value address) ∧
      (before.Reaches value address → after.heap[address]? = before.heap[address]?)) ∧
    after.limit = before.limit ∧ after.depth = before.depth ∧ after.handling = before.handling ∧
    ((∀ value ∈ registry.values, before.Settles value) →
      ∀ next program, Program.compile next registry.names = .ok program →
        ∃ function start, (load program).run after = .ok function start ∧
          ∀ value ∈ function :: registry.values, ∀ address, start.Reaches value address →
            (address < before.heap.size ∧ start.heap[address]? = before.heap[address]?) ∨
              after.heap.size ≤ address) := by
  intro after
  have leads : before.LeadsTo after := (run limit source registry).leads before
  refine ⟨?_, leads.limit, leads.depth, leads.handling, ?_⟩
  · intro value address settled
    exact ⟨⟨leads.reaches_of_after settled, leads.reaches settled⟩,
      leads.heap_of_settles settled⟩
  · intro settled next program compiled
    rcases load_of_compile compiled after with
      ⟨function, start, loaded, larger, there, surroundings⟩
    refine ⟨.object function, start, loaded, ?_⟩
    intro value member address reaches
    rcases List.mem_cons.mp member with rfl | argument
    · right
      rcases reaches_function there surroundings (.inl rfl) reaches with rfl | rfl
      · exact Nat.le_of_lt larger
      · exact Nat.le_refl _
    · left
      have further : before.LeadsTo start := by
        have more := (load program).leads after
        rw [Run.stateAfter, loaded] at more
        exact leads.trans more
      have earlier := further.reaches_of_after (settled value argument) reaches
      rcases settled value argument address earlier with ⟨object, holds, -⟩
      exact ⟨holds.lt_size, further.heap_of_settles (settled value argument) earlier⟩

/-- A text and a binding of the host are settled, so a program that comes after another one
starts from them as they were. -/
theorem later_run_starts_afresh :
    let after := (run none "slow()" slowAndNote).run.stateAfter slowStart
    ∃ program function start,
      Program.compile ("return " ++ "note") slowAndNote.names = .ok program ∧
      (load program).run after = .ok function start ∧
      ∀ value ∈ function :: slowAndNote.values, ∀ address, start.Reaches value address →
        (address < slowStart.heap.size ∧ start.heap[address]? = slowStart.heap[address]?) ∨
          after.heap.size ≤ address := by
  intro after
  have slow : slowStart.Settles (.object 3) := .of_holds rfl rfl nofun
  have note : slowStart.Settles (.text "swallowed") := .of_parts nofun nofun
  have settled : ∀ value ∈ slowAndNote.values, slowStart.Settles value := by
    intro value member
    rcases List.mem_cons.mp member with rfl | member
    · exact slow
    · cases List.mem_singleton.mp member
      exact note
  have registered : "note" ∈ slowAndNote.names := List.mem_cons_of_mem _ List.mem_cons_self
  have compiled := (Registry.compile_return_iff registered).mpr (by decide +kernel)
  rcases (nothing_of_settled_values_changes none "slow()" slowAndNote slowStart).2.2.2.2
    settled _ _ compiled with ⟨function, start, loaded, afresh⟩
  exact ⟨_, function, start, compiled, loaded, afresh⟩

/-! ## A list that is shared -/

/-- The name of a list. -/
def boxAlone : Registry where
  entries := [("box", .object 3)]
  usable := by decide +kernel
  distinct := by decide +kernel

/-- The list is empty. -/
def boxStart : Machine :=
  { Machine.initial with heap := Machine.initial.heap.push (.list #[]) }

/-- How a program ends that is run after another one. -/
def runAfter (earlier later : String) (registry : Registry) (before : Machine) :
    EStateM.Result Signal Machine ExecutionResult :=
  (run none later registry).run ((run none earlier registry).run.stateAfter before)

set_option maxRecDepth 10000 in
/-- What a program puts into a list of the registry is there for the next one. -/
theorem earlier_run_is_noticed :
    (∃ after, (run none "return str(len(box))" boxAlone).run boxStart =
      .ok (.success "0") after) ∧
    ∃ after, runAfter "box.append('x')" "return str(len(box))" boxAlone boxStart =
      .ok (.success "1") after := by
  have alone : comesTo (fun result _ => decide (result = .success "0"))
      ((run none "return str(len(box))" boxAlone).run boxStart) = true := by decide +kernel
  have second : comesTo (fun result _ => decide (result = .success "1"))
      (runAfter "box.append('x')" "return str(len(box))" boxAlone boxStart) = true := by
    decide +kernel
  rcases exists_of_comesTo alone with ⟨_, first, ended, same⟩
  rcases exists_of_comesTo second with ⟨_, last, ended', same'⟩
  rw [of_decide_eq_true same] at ended
  rw [of_decide_eq_true same'] at ended'
  exact ⟨⟨first, ended⟩, ⟨last, ended'⟩⟩

end Execution
end PolicyStudio
