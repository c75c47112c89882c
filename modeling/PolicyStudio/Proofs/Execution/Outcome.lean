import PolicyStudio.Execution.Executor
import PolicyStudio.Proofs.Script.Writing
import PolicyStudio.Proofs.Text.Cutting

/-!
# How runs end

A run reports how the call of its program ended.  A text is a success, and everything
else is a failure with a message that says something, but for errors that are meant for
the host, which are raised again.  Such an error has its origin in the host: one of its
bindings raised it during the run, or it was there before, or the host gave away its
class.
-/

namespace PolicyStudio

open Script

/-- A fault of a source is one of two kinds. -/
theorem ProgramFault.kind_eq (fault : ProgramFault) :
    fault.kind = .value ∨ fault.kind = .badSyntax := by
  cases fault <;> first | exact .inl rfl | exact .inr rfl

namespace Execution

variable {limit : Option Int} {source : String} {registry : Registry} {before after : Machine}

/-! ## Messages -/

/-- A failure with a message that says something and is trimmed. -/
def IsReported (result : ExecutionResult) : Prop :=
  ∃ message worded, result = .failure message worded ∧ Text.IsTrimmed message

/-- A trimmed message is reported, or a trimmed one in its place. -/
theorem isReported_failed {message : String} (trimmed : Text.IsTrimmed message) :
    IsReported (.failed message) := by
  unfold ExecutionResult.failed
  split
  · exact ⟨_, _, rfl, trimmed⟩
  · exact ⟨_, _, rfl, by decide⟩

/-! ## Errors -/

/-- The kind of an object tells whether it is an error that is meant for the host. -/
theorem isKindOf_kindOfObject (object : Object) :
    (Execute.kindOfObject object).isKindOf .keyboardInterrupt = object.isInterrupt := by
  cases object with
  | error kind arguments details => cases kind <;> rfl
  | _ => rfl

/-- The error is one that is meant for the host. -/
def Interrupting (error : Value) (machine : Machine) : Prop :=
  ∃ address, error = .object address ∧ machine.Interrupts address

/-- Looking up the kind of an error changes nothing, and the kind tells whether the error
is meant for the host. -/
theorem kindOfError_run (error : Value) (machine : Machine) :
    ∃ kind, (Execute.kindOfError error).run machine = .ok kind machine ∧
      (kind.isKindOf .keyboardInterrupt = true ↔ Interrupting error machine) := by
  cases error with
  | object address =>
    refine ⟨Execute.kindOfObject (machine.heap[address]?.getD .plain), rfl, ?_⟩
    rw [isKindOf_kindOfObject]
    cases there : machine.heap[address]? with
    | none =>
      refine ⟨nofun, ?_⟩
      rintro ⟨_, same, object, holds, -⟩
      cases same
      cases there.symm.trans holds
    | some object =>
      constructor
      · exact fun isInterrupt => ⟨address, rfl, object, there, isInterrupt⟩
      · rintro ⟨_, same, other, holds, isInterrupt⟩
        cases same
        cases there.symm.trans holds
        exact isInterrupt
  | _ => exact ⟨.exception, rfl, nofun, fun ⟨_, same, _⟩ => nomatch same⟩

/-- The text of an error can always be had, and it is trimmed. -/
theorem errorText_run (error : Value) (machine : Machine) :
    ∃ text after, (errorText error).run machine = .ok text after ∧ Text.IsTrimmed text := by
  rw [errorText, Step.run_bind, Step.run_attempt]
  cases written : error.plainText.run machine with
  | ok text after => exact ⟨_, after, rfl, Text.isTrimmed_strip text⟩
  | error signal after =>
    cases signal with
    | raised => exact ⟨"", after, rfl, by decide⟩
    | exhausted => exact absurd written (error.ends_plainText machine after)

/-! ## Runs -/

/-- How a run ends, given how the call of its program did. -/
inductive Course : EStateM.Result Signal Machine Value →
    EStateM.Result Signal Machine ExecutionResult → Prop
  | returned (value : Value) (after : Machine) :
    Course (.ok value after) (.ok (resultOf value) after)
  /-- The error is meant for the host and is raised again. -/
  | interrupted {error : Value} {after : Machine} (interrupting : Interrupting error after) :
    Course (.error (.raised error) after) (.error (.raised error) after)
  /-- Any other error is reported by its text. -/
  | failed {error : Value} {middle after : Machine} {text : String}
    (own : ¬Interrupting error middle)
    (written : (errorText error).run middle = .ok text after) :
    Course (.error (.raised error) middle) (.ok (.failed text) after)
  | stopped (after : Machine) : Course (.error .exhausted after) (.error .exhausted after)

/-- Every run takes one of these courses. -/
theorem course_of_run (limit : Option Int) (source : String) (registry : Registry)
    (before : Machine) :
    Course ((invoke limit source registry).run before)
      ((run limit source registry).run before) := by
  rw [run, Step.run_bind, Step.run_attempt]
  cases (invoke limit source registry).run before with
  | ok value after => exact .returned value after
  | error signal after =>
    cases signal with
    | exhausted => exact .stopped after
    | raised error =>
      rcases kindOfError_run error after with ⟨kind, found, isInterrupt⟩
      dsimp only
      rw [Step.run_bind, found]
      dsimp only
      by_cases interrupting : Interrupting error after
      · rw [if_pos (isInterrupt.mpr interrupting)]
        exact .interrupted interrupting
      · rcases errorText_run error after with ⟨text, last, written, -⟩
        have reported : ((errorText error >>= fun text => pure (.failed text)) :
            Step ExecutionResult).run after = .ok (.failed text) last := by
          rw [Step.run_bind, written]
          rfl
        rw [if_neg (mt isInterrupt.mp interrupting)]
        exact reported ▸ .failed interrupting written

/-- The text of an error is what its kind makes of its arguments and details. -/
theorem plainText_run {kind : ErrorKind} (printable : kind ≠ .unprintable) {arguments : List Value}
    {details : List (String × Value)} {address : Address} {machine : Machine}
    (there : machine.Holds address (.error kind arguments details)) :
    (Value.plainText (.object address)).run machine =
      (ErrorText.write ⟨Value.textFrom 979, Value.shown⟩ kind arguments details).run machine := by
  show (Value.textFrom (979 + 1) (.object address)).run machine = _
  rw [Value.textFrom, Step.run_bind, Step.run_load there]
  cases kind <;> first | rfl | exact absurd rfl printable

/-- An error that is none of the host's is not meant for it. -/
theorem not_interrupting {object : Object} (made : object.isMade = true) {address : Address}
    {machine : Machine} (there : machine.Holds address object) :
    ¬Interrupting (.object address) machine := by
  rintro ⟨_, same, other, holds, isInterrupt⟩
  cases same
  cases there.symm.trans holds
  rw [Object.isInterrupt_of_isMade made] at isInterrupt
  cases isInterrupt

/-- A run whose call ends in an error of a program reports its text. -/
theorem run_of_error {kind : ErrorKind} (own : kind.isOwn = true)
    (printable : kind ≠ .unprintable) {arguments : List Value}
    {details : List (String × Value)} {address : Address} {text : String} {middle : Machine}
    (raised : (invoke limit source registry).run before =
      .error (.raised (.object address)) middle)
    (there : middle.Holds address (.error kind arguments details))
    (written : (ErrorText.write ⟨Value.textFrom 979, Value.shown⟩ kind arguments details).run
      middle = .ok text after) :
    (run limit source registry).run before = .ok (.failed (Text.strip text)) after := by
  have worded : (errorText (.object address)).run middle = .ok (Text.strip text) after := by
    rw [errorText, Step.run_bind, Step.run_attempt, plainText_run printable there, written]
    rfl
  have course := course_of_run limit source registry before
  rw [raised] at course
  generalize (run limit source registry).run before = finished at course ⊢
  cases course with
  | interrupted interrupting =>
    exact absurd interrupting (not_interrupting (Object.isMade_error own _ _) there)
  | failed _ found =>
    cases worded.symm.trans found
    rfl

/-- A source that is no program is reported by the message of its fault, and nothing is
called. -/
theorem run_of_fault {fault : ProgramFault}
    (refused : Program.compile source registry.names = .error fault) :
    ∃ last, last.calls = before.calls ∧ (run limit source registry).run before =
      .ok (.failed (Text.strip fault.message)) last := by
  let error : Object := .error fault.kind [.text fault.message] [("msg", .text fault.message)]
  let last : Machine := { before with heap := before.heap.push error }
  have raised : (invoke limit source registry).run before =
      .error (.raised (.object before.heap.size)) last := by
    rw [invoke, refused]
    rfl
  have there : last.Holds before.heap.size error := Machine.holds_push.mpr (.inr ⟨rfl, rfl⟩)
  refine ⟨last, rfl, run_of_error fault.isOwn_kind ?_ raised there ?_⟩
  · rcases fault.kind_eq with kind | kind <;> rw [kind] <;> decide
  · rcases fault.kind_eq with kind | kind <;> rw [kind] <;> rfl

/-- Only a text is a success. -/
theorem resultOf_eq_success_iff {value : Value} {text : String} :
    resultOf value = .success text ↔ value = .text text := by
  constructor
  · intro same
    cases value <;> cases same
    rfl
  · rintro rfl
    rfl

/-- What is reported is no success. -/
theorem not_isReported_success (text : String) : ¬IsReported (.success text) := by
  rintro ⟨_, _, same, -⟩
  cases same

/-- The text of an error is trimmed. -/
theorem isTrimmed_of_errorText_run {error : Value} {text : String} {middle : Machine}
    (written : (errorText error).run middle = .ok text after) : Text.IsTrimmed text := by
  rcases errorText_run error middle with ⟨other, last, same, trimmed⟩
  cases written.symm.trans same
  exact trimmed

/-- A run returns a text exactly if its program does. -/
theorem run_eq_success_iff {text : String} :
    (run limit source registry).run before = .ok (.success text) after ↔
      (invoke limit source registry).run before = .ok (.text text) after := by
  have course := course_of_run limit source registry before
  generalize (run limit source registry).run before = finished at course ⊢
  generalize (invoke limit source registry).run before = called at course ⊢
  cases course with
  | returned value last =>
    rw [EStateM.Result.ok.injEq, EStateM.Result.ok.injEq, resultOf_eq_success_iff]
  | interrupted | stopped => exact ⟨nofun, nofun⟩
  | failed _ written =>
    refine ⟨fun same => ?_, nofun⟩
    have reported := isReported_failed (isTrimmed_of_errorText_run written)
    rw [(EStateM.Result.ok.inj same).1] at reported
    exact absurd reported (not_isReported_success text)

/-- A run came to a value that passes a test together with the state. -/
def comesTo {α : Type} (test : α → Machine → Bool) : EStateM.Result Signal Machine α → Bool
  | .ok value after => test value after
  | .error .. => false

theorem exists_of_comesTo {α : Type} {test : α → Machine → Bool}
    {ended : EStateM.Result Signal Machine α} (passed : comesTo test ended = true) :
    ∃ value after, ended = .ok value after ∧ test value after = true := by
  cases ended with
  | ok value after => exact ⟨value, after, rfl, passed⟩
  | error => cases passed

end Execution
end PolicyStudio
