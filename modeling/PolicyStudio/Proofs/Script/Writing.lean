import PolicyStudio.Proofs.Script.Steps
import PolicyStudio.Script.Compare

/-!
# What stops the writing of values

Any value can be shown and written as text, unless it holds an integer with too many digits or
is nested too deep.  Besides, some errors and some expressions have no text of their own.  The
writing goes down to a depth that is fixed beforehand, so that no count of steps stops it.
-/

namespace PolicyStudio
namespace Script

open Policy Step

/-- Kinds of the errors that stop a value from being shown. -/
def showingFaults : List ErrorKind :=
  [.value, .recursion]

/-- Kinds of the errors that stop a value from being written plainly. -/
def writingFaults : List ErrorKind :=
  [.value, .recursion, .type, .runtime, .notImplemented, .policyDefinition]

/-- Kinds of the errors that stop a value from being a key. -/
def hashingFaults : List ErrorKind :=
  [.type, .recursion]

theorem showingFaults_subset : showingFaults ⊆ writingFaults := by
  decide

/-- Whatever keeps an expression from being written is a fault of writing. -/
theorem errorKind_mem_writingFaults (cause : RenderError) :
    errorKind (.render cause) ∈ writingFaults := by
  cases cause <;> simp only [errorKind] <;> decide

variable {start : Machine} {allowed : Signal → Machine → Prop}

namespace Value

/-! ## Types -/

theorem stopsBy_classOf (value : Value) : value.classOf.StopsBy start allowed := by
  cases value with
  | object address => exact (stopsBy_load address).bind fun _ => stopsBy_pure _
  | method receiver name =>
    cases receiver with
    | object address =>
      refine (stopsBy_load address).bind fun object => ?_
      split <;> exact stopsBy_pure _
    | classValue c named => cases c <;> exact stopsBy_pure _
    | _ => exact stopsBy_pure _
  | _ => exact stopsBy_pure _

/-- Every value has a type that can be named. -/
theorem stopsBy_typeName (value : Value) : value.typeName.StopsBy start allowed :=
  value.stopsBy_classOf.bind fun _ => stopsBy_pure _

end Value

/-! ## Values as programs write them -/

section Showing

variable {inner : Value → Step String}

theorem stopsBy_shownMembers (each : ∀ value, (inner value).StopsBy start allowed)
    (items : List Value) : (shownMembers inner items).StopsBy start allowed :=
  (StopsBy.mapM fun value _ => each value).bind fun _ => stopsBy_pure _

theorem stopsBy_shownEntry (each : ∀ value, (inner value).StopsBy start allowed)
    (entry : Value × Value) : (shownEntry inner entry).StopsBy start allowed :=
  (each entry.1).bind fun _ => (each entry.2).bind fun _ => stopsBy_pure _

theorem stopsBy_shownTuple (each : ∀ value, (inner value).StopsBy start allowed)
    (items : List Value) : (shownTuple inner items).StopsBy start allowed :=
  (stopsBy_shownMembers each items).bind fun _ => stopsBy_pure _

theorem stopsBy_entriesOf (address : Address) : (entriesOf address).StopsBy start allowed := by
  refine (stopsBy_load address).bind fun object => ?_
  split <;> exact stopsBy_pure _

theorem stopsBy_shownWith (each : ∀ value, (inner value).StopsBy start allowed)
    (object : Object) : (object.shownWith inner).StopsBy start allowed := by
  cases object with
  | list items => exact (stopsBy_shownMembers each _).bind fun _ => stopsBy_pure _
  | dictionary entries =>
    exact (StopsBy.mapM fun entry _ => stopsBy_shownEntry each entry).bind fun _ => stopsBy_pure _
  | set members =>
    exact .ite (stopsBy_pure _) ((stopsBy_shownMembers each _).bind fun _ => stopsBy_pure _)
  | view part source =>
    exact (stopsBy_entriesOf source).bind fun _ =>
      (stopsBy_shownMembers each _).bind fun _ => stopsBy_pure _
  | error kind arguments details =>
    exact (stopsBy_shownMembers each _).bind fun _ => stopsBy_pure _
  | policy content =>
    cases content with
    | foreignContext value => exact (each value).bind fun _ => stopsBy_pure _
    | _ => exact stopsBy_pure _
  | _ => exact stopsBy_pure _

end Showing

theorem stopsBy_integerShown (n : Int) :
    (integerShown n).StopsBy start (RaisedOneOf showingFaults) := by
  refine stopsBy_ofBuilt fun error refused signal after raised => ?_
  have tooLong : error = .render .integerTooLong := by
    unfold integerText at refused
    split_ifs at refused <;> cases refused
    rfl
  subst tooLong
  exact ⟨.value, by decide, _, raised⟩

namespace Value

/-- The induction is on the levels that are left: members are shown one level deeper. -/
theorem stopsBy_shownFrom (depth : Nat) (within : List Value) (value : Value) :
    (shownFrom depth within value).StopsBy start (RaisedOneOf showingFaults) := by
  induction depth generalizing within value with
  | zero => exact stopsBy_raise (by decide) _ _
  | succ depth inductionHypothesis =>
    cases value with
    | int n => exact stopsBy_integerShown n
    | tuple items =>
      exact .ite (stopsBy_pure _) (stopsBy_shownTuple (inductionHypothesis _) items)
    | range start stop step =>
      exact (stopsBy_integerShown start).bind fun _ => (stopsBy_integerShown stop).bind fun _ =>
        .ite (stopsBy_pure _) ((stopsBy_integerShown step).bind fun _ => stopsBy_pure _)
    | slice start stop step =>
      exact (stopsBy_shownMembers (inductionHypothesis within) _).bind fun _ => stopsBy_pure _
    | object address =>
      refine (stopsBy_load address).bind fun object => ?_
      split
      · split
        · exact stopsBy_pure _
        · exact stopsBy_shownWith (inductionHypothesis _) object
      · exact stopsBy_shownWith (inductionHypothesis _) object
    | method receiver name =>
      cases receiver with
      | classValue c named => exact stopsBy_pure _
      | _ => exact (stopsBy_typeName _).bind fun _ => stopsBy_pure _
    | _ => exact stopsBy_pure _

theorem stopsBy_shown (value : Value) : value.shown.StopsBy start (RaisedOneOf showingFaults) :=
  value.stopsBy_shownFrom nestingLimit []

end Value

/-! ## Texts of errors -/

namespace ErrorText

variable {writer : Writer}

theorem stopsBy_general (plain : ∀ value, (writer.plain value).StopsBy start allowed)
    (shown : ∀ value, (writer.shown value).StopsBy start allowed) (arguments : List Value) :
    (general writer arguments).StopsBy start allowed := by
  match arguments with
  | [] => exact stopsBy_pure _
  | [argument] => exact plain argument
  | _ :: _ :: _ => exact shown _

theorem stopsBy_ofFailure (plain : ∀ value, (writer.plain value).StopsBy start allowed)
    (shown : ∀ value, (writer.shown value).StopsBy start allowed) (arguments : List Value)
    (details : List (String × Value)) :
    (ofFailure writer arguments details).StopsBy start allowed := by
  unfold ofFailure
  split
  · refine (plain _).bind fun _ => (plain _).bind fun _ => ?_
    split
    · exact (shown _).bind fun _ => (shown _).bind fun _ => stopsBy_pure _
    · exact (shown _).bind fun _ => stopsBy_pure _
    · exact stopsBy_pure _
  · exact stopsBy_general plain shown arguments

theorem stopsBy_ofFault (plain : ∀ value, (writer.plain value).StopsBy start allowed)
    (details : List (String × Value)) : (ofFault writer details).StopsBy start allowed := by
  refine (plain _).bind fun _ => ?_
  split <;> exact stopsBy_pure _

theorem stopsBy_write (plain : ∀ value, (writer.plain value).StopsBy start allowed)
    (shown : ∀ value, (writer.shown value).StopsBy start allowed) (kind : ErrorKind)
    (arguments : List Value) (details : List (String × Value)) :
    (write writer kind arguments details).StopsBy start allowed := by
  refine .ite (stopsBy_ofFailure plain shown arguments details)
    (.ite (stopsBy_ofFault plain details) (.ite (stopsBy_pure _) ?_))
  split
  · exact shown _
  · exact stopsBy_general plain shown _

end ErrorText

namespace Value

/-- An expression is without a text only because something keeps it from being written. -/
theorem exists_of_policyText {content : PolicyObject} {built : Built String}
    (expression : policyText content = some built) {error : DefinitionError}
    (refused : built = .error error) : ∃ cause, error = .render cause := by
  have rendering : ∀ {text : Except RenderError String}, rendered text = .error error →
      ∃ cause, error = .render cause := by
    intro text refused
    cases text with
    | error cause =>
      cases refused
      exact ⟨cause, rfl⟩
    | ok text => cases refused
  cases content <;> cases expression
  case contextValue | column => cases refused
  case condition | query => exact rendering refused
  case unwritten =>
    cases refused
    exact ⟨_, rfl⟩

/-- Errors within errors are written one level deeper. -/
theorem stopsBy_textFrom (depth : Nat) (value : Value) :
    (textFrom depth value).StopsBy start (RaisedOneOf writingFaults) := by
  have shown : ∀ value : Value, value.shown.StopsBy start (RaisedOneOf writingFaults) :=
    fun value => value.stopsBy_shown.mono fun _ _ raised => raised.mono showingFaults_subset
  induction depth generalizing value with
  | zero => exact stopsBy_raise (by decide) _ _
  | succ depth inductionHypothesis =>
    cases value with
    | text s => exact stopsBy_pure s
    | date d => exact stopsBy_pure _
    | dateTime t => exact stopsBy_pure _
    | object address =>
      refine (stopsBy_load address).bind fun object => ?_
      split
      · exact stopsBy_raise (by decide) _ _
      · exact ErrorText.stopsBy_write inductionHypothesis shown _ _ _
      · exact (stopsBy_typeName _).bind fun _ => stopsBy_raise (by decide) _ _
      · split
        · next content _ built expression =>
          refine stopsBy_ofBuilt fun error refused signal after raised => ?_
          rcases exists_of_policyText expression refused with ⟨cause, rfl⟩
          exact ⟨_, errorKind_mem_writingFaults cause, _, raised⟩
        · exact stopsBy_pure _
      · exact shown _
    | _ => exact shown _

theorem stopsBy_plainText (value : Value) :
    value.plainText.StopsBy start (RaisedOneOf writingFaults) :=
  value.stopsBy_textFrom nestingLimit

/-- No count of steps stops the writing. -/
theorem ends_plainText (value : Value) (machine after : Machine) :
    value.plainText.run machine ≠ .error .exhausted after := by
  intro stopped
  rcases value.stopsBy_plainText machine _ after (.refl machine) stopped with
    ⟨kind, -, arguments, address, impossible, -⟩
  cases impossible

/-! ## Keys -/

/-- Members of a tuple are looked at one level deeper. -/
theorem stopsBy_requireHashableFrom (depth : Nat) (value : Value) :
    (requireHashableFrom depth value).StopsBy start (RaisedOneOf hashingFaults) := by
  induction depth generalizing value with
  | zero => exact stopsBy_raise (by decide) _ _
  | succ depth inductionHypothesis =>
    cases value with
    | tuple items => exact StopsBy.forM fun item _ => inductionHypothesis item
    | slice start stop step => exact stopsBy_raise (by decide) _ _
    | object address =>
      refine (stopsBy_load address).bind fun object => ?_
      exact .ite (stopsBy_raise (by decide) _ _) (stopsBy_pure _)
    | _ => exact stopsBy_pure _

theorem stopsBy_requireHashable (value : Value) :
    value.requireHashable.StopsBy start (RaisedOneOf hashingFaults) :=
  value.stopsBy_requireHashableFrom nestingLimit

end Value

end Script
end PolicyStudio
