import PolicyStudio.Script.Machine

/-!
# What programs do to the state

Whatever a program computes, it adds calls of the host and never takes one back, and
it changes only what can change: containers, iterations and frames.  Bindings of the
host come from the host alone, and so do the errors that are meant for it, unless the
host gave away their class.  The time limit is out of reach, and when a computation has
ended, as many calls are open and the same errors are being handled as before it.

`Machine.LeadsTo` says so of two states.  It is closed under steps that follow one
another, and `Run.leadsTo_bind` carries it through computations.
-/

namespace PolicyStudio
namespace Script

namespace Object

/-- Nothing changes such an object once it is there. -/
def isFixed : Object → Bool
  | .list _ | .dictionary _ | .set _ | .iteration _ | .frame _ => false
  | _ => true

/-- Only the host puts such an object on the heap. -/
def isGiven : Object → Bool
  | .host .. | .interruptClass => true
  | _ => false

/-- The object is an error that is meant for the host. -/
def isInterrupt : Object → Bool
  | .error .keyboardInterrupt .. => true
  | _ => false

/-- Programs can make such an object by themselves. -/
def isMade (object : Object) : Bool :=
  !object.isGiven && !object.isInterrupt

theorem isGiven_of_isMade {object : Object} (made : object.isMade = true) :
    object.isGiven = false := by
  cases given : object.isGiven with
  | false => rfl
  | true =>
    rw [isMade, given] at made
    cases made

theorem isInterrupt_of_isMade {object : Object} (made : object.isMade = true) :
    object.isInterrupt = false := by
  cases interrupts : object.isInterrupt with
  | false => rfl
  | true =>
    rw [isMade, interrupts, Bool.not_true, Bool.and_false] at made
    cases made

/-- An error is one of the program unless it is meant for the host. -/
theorem isMade_error {kind : ErrorKind} (own : kind.isOwn = true)
    (arguments : List Value) (details : List (String × Value)) :
    (Object.error kind arguments details).isMade = true := by
  cases kind <;> first | rfl | cases own

end Object

namespace Machine

/-- An object stands at an address. -/
def Holds (machine : Machine) (address : Address) (object : Object) : Prop :=
  machine.heap[address]? = some object

/-- What stands somewhere once an object was added. -/
theorem holds_push {machine : Machine} {new object : Object} {address : Address} :
    Holds { machine with heap := machine.heap.push new } address object ↔
      machine.Holds address object ∨ address = machine.heap.size ∧ object = new := by
  rw [Holds, Holds, Array.getElem?_push]
  by_cases last : address = machine.heap.size
  · rw [if_pos last, last, Array.getElem?_size]
    exact ⟨fun same => .inr ⟨rfl, (Option.some.inj same).symm⟩,
      fun new => new.elim nofun fun same => same.2 ▸ rfl⟩
  · rw [if_neg last]
    exact ⟨.inl, fun there => there.resolve_right fun same => last same.1⟩

/-- At an address stands an error that is meant for the host. -/
def Interrupts (machine : Machine) (address : Address) : Prop :=
  ∃ object, machine.Holds address object ∧ object.isInterrupt = true

/-- The host gave away the class of these errors. -/
def KnowsInterrupts (machine : Machine) : Prop :=
  ∃ address, machine.Holds address .interruptClass

/-- Since an earlier state a binding of the host was called that raises such an error. -/
def InterruptedSince (after before : Machine) : Prop :=
  ∃ call ∈ after.calls.toList.drop before.calls.size, ∃ name arguments,
    after.Holds call.binding (.host name (.raise .keyboardInterrupt arguments))

/-- The state in which a computation goes on under the conditions of an earlier state. -/
def restore (after before : Machine) : Machine :=
  { after with limit := before.limit, depth := before.depth, handling := before.handling }

/-- What programs can make of a state. -/
structure LeadsTo (before after : Machine) : Prop where
  calls : before.calls.toList <+: after.calls.toList
  fixed : ∀ address object, object.isFixed = true →
    before.Holds address object → after.Holds address object
  given : ∀ address object, object.isGiven = true →
    after.Holds address object → before.Holds address object
  interrupts : ∀ address, after.Interrupts address →
    before.Interrupts address ∨ before.KnowsInterrupts ∨ after.InterruptedSince before
  limit : after.limit = before.limit
  depth : after.depth = before.depth
  handling : after.handling = before.handling

namespace LeadsTo

variable {before middle after : Machine}

/-! ## Steps after one another -/

theorem refl (machine : Machine) : machine.LeadsTo machine :=
  ⟨List.prefix_rfl, fun _ _ _ => id, fun _ _ _ => id, fun _ => .inl, rfl, rfl, rfl⟩

/-- Calls are not forgotten later on. -/
theorem interruptedSince_of_middle (second : middle.LeadsTo after)
    (interrupted : middle.InterruptedSince before) : after.InterruptedSince before := by
  rcases interrupted with ⟨call, recorded, name, arguments, there⟩
  refine ⟨call, ?_, name, arguments, second.fixed call.binding _ rfl there⟩
  rcases second.calls with ⟨added, equal⟩
  rw [← equal, List.drop_append]
  exact List.mem_append_left _ recorded

/-- Calls are not forgotten by looking back further. -/
theorem interruptedSince_of_since_middle (first : before.LeadsTo middle)
    (interrupted : after.InterruptedSince middle) : after.InterruptedSince before := by
  rcases interrupted with ⟨call, recorded, interrupting⟩
  have fewer : before.calls.size ≤ middle.calls.size := first.calls.length_le
  exact ⟨call, List.drop_subset_drop_left _ fewer recorded, interrupting⟩

theorem trans (first : before.LeadsTo middle) (second : middle.LeadsTo after) :
    before.LeadsTo after where
  calls := first.calls.trans second.calls
  fixed address object isFixed there :=
    second.fixed address object isFixed (first.fixed address object isFixed there)
  given address object isGiven there :=
    first.given address object isGiven (second.given address object isGiven there)
  interrupts address there := by
    rcases second.interrupts address there with earlier | ⟨known, there⟩ | interrupted
    · rcases first.interrupts address earlier with there | known | interrupted
      · exact .inl there
      · exact .inr (.inl known)
      · exact .inr (.inr (second.interruptedSince_of_middle interrupted))
    · exact .inr (.inl ⟨known, first.given known .interruptClass rfl there⟩)
    · exact .inr (.inr (first.interruptedSince_of_since_middle interrupted))
  limit := second.limit.trans first.limit
  depth := second.depth.trans first.depth
  handling := second.handling.trans first.handling

/-! ## Single changes -/

/-- Other conditions may hold in between. -/
theorem restore {start : Machine} (heap : start.heap = before.heap)
    (calls : start.calls = before.calls) (leads : start.LeadsTo after) :
    before.LeadsTo (after.restore before) := by
  rcases before with ⟨_, _, limit, depth, handling⟩
  cases heap
  cases calls
  exact ⟨leads.calls, leads.fixed, leads.given, leads.interrupts, rfl, rfl, rfl⟩

/-- An object that a program made may take a place that holds nothing fixed. -/
theorem of_made (calls : after.calls = before.calls) (limit : after.limit = before.limit)
    (depth : after.depth = before.depth) (handling : after.handling = before.handling)
    (changed : ∀ address, after.heap[address]? = before.heap[address]? ∨
      (∀ object, after.Holds address object → object.isMade = true) ∧
        ∀ object, before.Holds address object → object.isFixed = false) :
    before.LeadsTo after where
  calls := calls ▸ List.prefix_rfl
  fixed address object isFixed there := by
    rcases changed address with same | ⟨-, free⟩
    · exact same.trans there
    · rw [free object there] at isFixed
      cases isFixed
  given address object isGiven there := by
    rcases changed address with same | ⟨made, -⟩
    · exact same.symm.trans there
    · rw [Object.isGiven_of_isMade (made object there)] at isGiven
      cases isGiven
  interrupts address := by
    rintro ⟨object, there, isInterrupt⟩
    rcases changed address with same | ⟨made, -⟩
    · exact .inl ⟨object, same.symm.trans there, isInterrupt⟩
    · rw [Object.isInterrupt_of_isMade (made object there)] at isInterrupt
      cases isInterrupt
  limit := limit
  depth := depth
  handling := handling

/-- An object may be added that is none of the host's; one that is an error for the host
needs a reason that the host gave. -/
theorem push (leads : before.LeadsTo after) {object : Object} (own : object.isGiven = false)
    (reason : object.isInterrupt = true →
      before.KnowsInterrupts ∨ after.InterruptedSince before) :
    before.LeadsTo { after with heap := after.heap.push object } where
  calls := leads.calls
  fixed address other isFixed there :=
    holds_push.mpr (.inl (leads.fixed address other isFixed there))
  given address other isGiven there := by
    rcases holds_push.mp there with there | ⟨-, rfl⟩
    · exact leads.given address other isGiven there
    · rw [own] at isGiven
      cases isGiven
  interrupts address := by
    have kept : after.InterruptedSince before →
        InterruptedSince { after with heap := after.heap.push object } before :=
      fun ⟨call, recorded, name, arguments, there⟩ =>
        ⟨call, recorded, name, arguments, holds_push.mpr (.inl there)⟩
    rintro ⟨other, there, isInterrupt⟩
    rcases holds_push.mp there with there | ⟨-, rfl⟩
    · exact (leads.interrupts address ⟨other, there, isInterrupt⟩).imp_right (.imp_right kept)
    · exact .inr ((reason isInterrupt).imp_right kept)
  limit := leads.limit
  depth := leads.depth
  handling := leads.handling

/-- Programs may add an object that they can make. -/
theorem push_made (machine : Machine) {object : Object} (made : object.isMade = true) :
    machine.LeadsTo { machine with heap := machine.heap.push object } := by
  refine (refl machine).push (Object.isGiven_of_isMade made) fun isInterrupt => ?_
  rw [Object.isInterrupt_of_isMade made] at isInterrupt
  cases isInterrupt

/-- Programs may change what can change into something that they can make. -/
theorem modify (machine : Machine) (address : Address) {change : Object → Object}
    (made : ∀ object, change object = object ∨
      object.isFixed = false ∧ (change object).isMade = true) :
    machine.LeadsTo { machine with heap := machine.heap.modify address change } := by
  refine .of_made rfl rfl rfl rfl fun other => ?_
  simp only [Holds, Array.getElem?_modify]
  by_cases here : address = other
  · rw [if_pos here]
    cases machine.heap[other]? with
    | none => exact .inl rfl
    | some object =>
      rcases made object with same | ⟨free, isMade⟩
      · exact .inl (congrArg some same)
      · exact .inr ⟨fun _ same => Option.some.inj same ▸ isMade,
          fun _ same => Option.some.inj same ▸ free⟩
  · rw [if_neg here]
    exact .inl rfl

/-- Calls may be added. -/
theorem record (leads : before.LeadsTo after) (call : HostCall) :
    before.LeadsTo { after with calls := after.calls.push call } := by
  have more : after.calls.toList <+: (after.calls.push call).toList := by
    rw [Array.toList_push]
    exact List.prefix_append _ _
  exact leads.trans ⟨more, fun _ _ _ => id, fun _ _ _ => id, fun _ => .inl, rfl, rfl, rfl⟩

/-- A call that was just recorded is one of the calls since an earlier state. -/
theorem mem_drop_record (leads : before.LeadsTo after) (call : HostCall) :
    call ∈ (after.calls.push call).toList.drop before.calls.size := by
  have fewer : before.calls.size - after.calls.toList.length = 0 :=
    Nat.sub_eq_zero_of_le leads.calls.length_le
  rw [Array.toList_push, List.drop_append, fewer]
  exact List.mem_append_right _ (List.mem_singleton_self call)

end LeadsTo

end Machine

namespace Run

/-- Two computations do what programs can do if the second one adds nothing else to what
the first one did. -/
theorem leadsTo_bind {α β : Type} {run : Run α} {next : α → Run β} {before start : Machine}
    (first : before.LeadsTo (run.stateAfter start))
    (second : ∀ value after, before.LeadsTo after →
      before.LeadsTo ((next value).stateAfter after)) :
    before.LeadsTo ((run >>= next).stateAfter start) := by
  simp only [stateAfter, Bind.bind, EStateM.bind] at first second ⊢
  cases equal : run start with
  | ok value after =>
    rw [equal] at first
    exact second value after first
  | error signal after =>
    rw [equal] at first
    exact first

end Run

end Script
end PolicyStudio
