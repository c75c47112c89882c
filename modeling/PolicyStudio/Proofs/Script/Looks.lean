import PolicyStudio.Proofs.Policy.Refusals
import PolicyStudio.Proofs.Script.Arguments
import PolicyStudio.Proofs.Script.Writing

/-!
# How calls look into what they are given

Programs may give a call whatever they have.  Nearly everything that a call cannot take is
refused as a malformed definition, but the call first looks into some of its arguments: it shows
a value that it refuses, writes one in the name of a policy, looks one up, goes through its
members.  Where such a look fails, the call fails just so.

The looks of each call are listed here, by its parameters.  They are its grounds for stopping,
together with the expressions that it was to write and that have no text.
-/

namespace PolicyStudio
namespace Script

open Policy Step

namespace PolicyCall

/-! ## Looks into arguments -/

/-- A way in which a call looks into an argument. -/
inductive Look where
  /-- It is shown in a refusal. -/
  | shown
  /-- It is written as plain text. -/
  | written
  /-- It is looked up. -/
  | keyed
  /-- It is taken as an operand that has a text. -/
  | operand
  /-- It is taken as an expression if it is one. -/
  | expression
  /-- Its members are gone through. -/
  | members
  /-- The names of operations are read from it. -/
  | names
deriving DecidableEq

/-- The error is one of a wrong type. -/
def IsTypeError (signal : Signal) (after : Machine) : Prop :=
  ∃ address kind arguments details, signal = .raised (.object address) ∧
    after.Holds address (.error kind arguments details) ∧ kind.isKindOf .type = true

/-- Looking into the value stops with the signal.  Values of a wrong type that cannot name
operations are refused, and no fault of the look. -/
def Look.Fails (self : Interpreter) (value : Value) (before : Machine) (signal : Signal)
    (after : Machine) : Look → Prop
  | .shown => value.shown.run before = .error signal after
  | .written => value.plainText.run before = .error signal after
  | .keyed => value.requireHashable.run before = .error signal after
  | .operand => (checkedOperandOf value).run before = .error signal after
  | .expression => (expressionOf? value).run before = .error signal after
  | .members => (collect self value).run before = .error signal after
  | .names => (namesOf self value).run before = .error signal after ∧ ¬IsTypeError signal after

/-- The errors that a look may fail with, if they do not depend on what the members of values
compute. -/
def Look.Faults (signal : Signal) (after : Machine) : Look → Prop
  | .shown => RaisedOneOf showingFaults signal after
  | .written | .operand | .expression => RaisedOneOf writingFaults signal after
  | .keyed => RaisedOneOf hashingFaults signal after
  | .members | .names => True

/-- The value was given for the parameter: as its argument, as one of those it gathers, or as a
member of such a one. -/
inductive GivenFor (self : Interpreter) (start : Machine) (bound : List (String × Bound Value))
    (name : String) : Value → Prop
  | argument : GivenFor self start bound name (argument bound name)
  | gathered {value : Value} (among : value ∈ arguments bound name) :
    GivenFor self start bound name value
  | member {container value : Value} {before after : Machine} {members : List Value}
    (given : GivenFor self start bound name container) (leads : start.LeadsTo before)
    (listed : (selected [container]).run before = .ok members after ∨
      (collect self container).run before = .ok members after)
    (among : value ∈ members) : GivenFor self start bound name value

/-! ## Grounds -/

/-- What a call may stop for besides a malformed definition: its looks into arguments, by their
parameters, and the causes for which its own expressions have no text. -/
structure Grounds where
  looks : List (String × Look) := []
  unwritten : RenderError → Prop := fun _ => False

/-- The error of a malformed definition was raised. -/
def Malformed (signal : Signal) (after : Machine) : Prop :=
  ∃ error, errorKind error = .policyDefinition ∧ RaisedFor error signal after

/-- What a call stopped with has a ground. -/
def Grounded (self : Interpreter) (start : Machine) (bound : List (String × Bound Value))
    (grounds : Grounds) (signal : Signal) (after : Machine) : Prop :=
  Malformed signal after ∨
    (∃ cause, grounds.unwritten cause ∧ RaisedFor (.render cause) signal after) ∨
    ∃ name look value before, (name, look) ∈ grounds.looks ∧ GivenFor self start bound name value ∧
      start.LeadsTo before ∧ look.Fails self value before signal after

/-- Looks into arguments by the methods. -/
def looksOf : PolicyMethod → List (String × Look)
  | .compare .like | .compare .likeAnyCase => []
  | .compare _ => [("value", .operand)]
  | .isIn => [("values", .expression), ("values", .members), ("values", .operand)]
  | .belongsToTenant => [("sessionKey", .shown)]
  | .isMemberOf => [("key", .shown), ("table", .shown), ("memberColumn", .shown)]
  | .select => [("columns", .shown)]
  | .join => [("table", .shown), ("kind", .written)]
  | .on => [("table", .shown)]
  | .grant => [("roles", .shown)]
  | .token => [("claim", .shown)]
  | .setting => [("key", .shown), ("type", .keyed), ("type", .shown)]
  | .userOwned =>
    [("operations", .names), ("operations", .shown), ("table", .written), ("table", .shown),
      ("ownerColumn", .shown)]
  | .tenantIsolation =>
    [("table", .written), ("table", .shown), ("tenantColumn", .shown), ("sessionKey", .shown)]
  | .publicAccess => [("visibilityColumn", .shown), ("table", .written), ("table", .shown)]
  | .roleAccess =>
    [("operations", .names), ("operations", .shown), ("table", .written), ("role", .written),
      ("table", .shown), ("role", .shown)]
  | _ => []

/-- An expression that a method is to write has no text for this cause. -/
def Unwritten (object : PolicyObject) (method : PolicyMethod) (cause : RenderError) : Prop :=
  match object, method with
  | .condition c, .render => c.write = .error cause
  | .condition c, .columns => c.listColumns = .error cause
  | .query q, .render => q.write = .error cause
  | .definition policy, .indexedColumns => ∃ c, policy.Holds c ∧ c.listColumns = .error cause
  | .definition policy, .statement =>
    ∃ c, policy.Holds c ∧ (c.write = .error cause ∨ c.listColumns = .error cause)
  | .unwritten _, _ => cause = .unwritten
  | _, _ => False

/-- The grounds of a method of an object. -/
def groundsOf (object : PolicyObject) (method : PolicyMethod) : Grounds where
  looks := looksOf method
  unwritten := Unwritten object method

/-- Looks into arguments by the functions. -/
def looksOfFunction : PolicyFunction → List (String × Look)
  | .createPolicy | .column | .quoteIdentifier | .quoteName => [("name", .shown)]
  | .fromTable => [("table", .shown)]
  | .hasRole => [("role", .shown)]
  | .call => [("args", .operand), ("name", .shown)]
  | .sqlString => [("value", .written)]
  | .renderValue => [("value", .operand)]
  | .checkQualifiedName => [("what", .written), ("name", .shown)]
  | .currentUser | .alwaysTrue | .sqlTruth => []

/-- The grounds of a function. -/
def groundsOfFunction (function : PolicyFunction) : Grounds where
  looks := looksOfFunction function

/-- A call of the policy language: of a function, or of a method of an object. -/
inductive Call where
  | ofFunction (function : PolicyFunction)
  | ofMethod (receiver : Value) (object : PolicyObject) (method : PolicyMethod)

namespace Call

/-- Bind the arguments of the call. -/
def bind (call : Call) (given : Arguments Value) : Step (List (String × Bound Value)) :=
  match call with
  | .ofFunction function => ofBound (function.signature.bind function.name [] given)
  | .ofMethod receiver object method =>
    bindMethod object.policyClass method
      { given with positional := receiver :: given.positional }

/-- Run the call. -/
def run (self : Interpreter) (call : Call) (given : Arguments Value) : Step Value :=
  match call with
  | .ofFunction function => callFunction function given
  | .ofMethod receiver object method => callMethod self receiver object method given

/-- The grounds of the call. -/
def grounds : Call → Grounds
  | .ofFunction function => groundsOfFunction function
  | .ofMethod _ object method => groundsOf object method

end Call

variable {self : Interpreter} {start : Machine} {bound : List (String × Bound Value)}
  {grounds : Grounds} {value : Value} {name : String} {α β : Type}

theorem grounded_of_malformed {error : DefinitionError} (malformed : errorKind error = .policyDefinition)
    (signal : Signal) (after : Machine) (raised : RaisedFor error signal after) :
    Grounded self start bound grounds signal after :=
  .inl ⟨error, malformed, raised⟩

/-- A refusal of a malformed definition has a ground. -/
theorem stopsBy_refuse {error : DefinitionError} (malformed : errorKind error = .policyDefinition) :
    (raiseDefinition error : Step α).StopsBy start (Grounded self start bound grounds) :=
  (stopsBy_raiseDefinition error).mono (grounded_of_malformed malformed)

theorem stopsBy_build {built : Built α} (malformed : RefusesMalformed built) :
    (ofBuilt built).StopsBy start (Grounded self start bound grounds) :=
  stopsBy_ofBuilt fun error refused => grounded_of_malformed (malformed error refused)

/-- Building may also stop for an expression without a text that is a ground. -/
theorem stopsBy_buildOr {built : Built α} (refused : RefusedFor grounds.unwritten built) :
    (ofBuilt built).StopsBy start (Grounded self start bound grounds) := by
  refine stopsBy_ofBuilt fun error stopped signal after raised => ?_
  rcases refused error stopped with malformed | ⟨cause, without, rfl⟩
  · exact grounded_of_malformed malformed signal after raised
  · exact .inr (.inl ⟨cause, without, raised⟩)

theorem stopsBy_rendered {text : Except RenderError α}
    (without : ∀ cause, text = .error cause → grounds.unwritten cause) :
    (ofBuilt (rendered text)).StopsBy start (Grounded self start bound grounds) :=
  stopsBy_buildOr (.rendered without)

/-- A look that is listed is a ground. -/
theorem stopsBy_look_at {step : Step α} {look : Look} (listed : (name, look) ∈ grounds.looks)
    (given : GivenFor self start bound name value)
    (fails : ∀ before signal after, step.run before = .error signal after →
      look.Fails self value before signal after) :
    step.StopsBy start (Grounded self start bound grounds) :=
  fun before signal after leads stopped =>
    .inr (.inr ⟨name, look, value, before, listed, given, leads, fails before signal after stopped⟩)

theorem stopsBy_show (listed : (name, .shown) ∈ grounds.looks)
    (given : GivenFor self start bound name value) :
    value.shown.StopsBy start (Grounded self start bound grounds) :=
  stopsBy_look_at listed given fun _ _ _ stopped => stopped

theorem stopsBy_write (listed : (name, .written) ∈ grounds.looks)
    (given : GivenFor self start bound name value) :
    value.plainText.StopsBy start (Grounded self start bound grounds) :=
  stopsBy_look_at listed given fun _ _ _ stopped => stopped

theorem stopsBy_take (listed : (name, .operand) ∈ grounds.looks)
    (given : GivenFor self start bound name value) :
    (checkedOperandOf value).StopsBy start (Grounded self start bound grounds) :=
  stopsBy_look_at listed given fun _ _ _ stopped => stopped

theorem stopsBy_key (listed : (name, .keyed) ∈ grounds.looks)
    (given : GivenFor self start bound name value) :
    value.requireHashable.StopsBy start (Grounded self start bound grounds) :=
  stopsBy_look_at listed given fun _ _ _ stopped => stopped

/-- An object of the policy language is made without a look. -/
theorem stopsBy_newPolicy (object : PolicyObject) :
    (newPolicy object).StopsBy start (Grounded self start bound grounds) :=
  stopsBy_allocate _ _

/-- The looks of a method are among the grounds of the method of any object. -/
theorem mem_looks {object : PolicyObject} {method : PolicyMethod} {entry : String × Look}
    (listed : entry ∈ looksOf method) : entry ∈ (groundsOf object method).looks :=
  listed

theorem mem_looksOfFunction {function : PolicyFunction} {entry : String × Look}
    (listed : entry ∈ looksOfFunction function) : entry ∈ (groundsOfFunction function).looks :=
  listed

/-! ## Arguments -/

theorem stopsBy_textOnly {accept : String → Built α} {refusal : String → DefinitionError}
    (checks : ∀ s, RefusesMalformed (accept s))
    (malformed : ∀ shown, errorKind (refusal shown) = .policyDefinition)
    (shown : value.shown.StopsBy start (Grounded self start bound grounds)) :
    (textOnly accept refusal value).StopsBy start (Grounded self start bound grounds) := by
  unfold textOnly
  split
  · exact stopsBy_build (checks _)
  · exact shown.bind fun text => stopsBy_refuse (malformed text)

theorem stopsBy_identifierOf (listed : (name, .shown) ∈ grounds.looks)
    (given : GivenFor self start bound name value) :
    (identifierOf value).StopsBy start (Grounded self start bound grounds) := by
  rw [identifierOf_eq]
  exact stopsBy_textOnly .identifier (fun _ => rfl) (stopsBy_show listed given)

theorem stopsBy_columnOf (listed : (name, .shown) ∈ grounds.looks)
    (given : GivenFor self start bound name value) :
    (columnOf value).StopsBy start (Grounded self start bound grounds) :=
  (stopsBy_identifierOf listed given).bind fun _ => stopsBy_pure _

theorem stopsBy_labelOf (listed : (name, .shown) ∈ grounds.looks)
    (given : GivenFor self start bound name value) :
    (labelOf value).StopsBy start (Grounded self start bound grounds) := by
  rw [labelOf_eq]
  exact stopsBy_textOnly .label (fun _ => rfl) (stopsBy_show listed given)

theorem stopsBy_qualifiedOf {purpose : String} (listed : (name, .shown) ∈ grounds.looks)
    (given : GivenFor self start bound name value) :
    (qualifiedOf purpose value).StopsBy start (Grounded self start bound grounds) := by
  rw [qualifiedOf_eq]
  exact stopsBy_textOnly (.qualifiedName purpose) (fun _ => rfl)
    (stopsBy_show listed given)

theorem stopsBy_hasRole (listed : (name, .shown) ∈ grounds.looks)
    (given : GivenFor self start bound name value) :
    (hasRole value).StopsBy start (Grounded self start bound grounds) := by
  rw [hasRole_eq]
  exact stopsBy_textOnly .hasRole (fun _ => rfl) (stopsBy_show listed given)

/-- Anything but a condition is refused by its type. -/
theorem stopsBy_conditionOr {refusal : String → DefinitionError}
    (malformed : ∀ type, errorKind (refusal type) = .policyDefinition) :
    (conditionOr value refusal).StopsBy start (Grounded self start bound grounds) := by
  have looked : (conditionOf? value).StopsBy start (Grounded self start bound grounds) := by
    unfold conditionOf?
    split
    · refine (stopsBy_load _).bind fun object => ?_
      split <;> exact stopsBy_pure _
    · exact stopsBy_pure _
  refine looked.bind fun found => ?_
  split
  · exact stopsBy_pure _
  · exact value.stopsBy_typeName.bind fun type => stopsBy_refuse (malformed type)

theorem stopsBy_isSet : value.isSet.StopsBy start (Grounded self start bound grounds) := by
  unfold Value.isSet
  split
  · refine (stopsBy_load _).bind fun object => ?_
    split <;> exact stopsBy_pure _
  · exact stopsBy_pure _

/-- The type of a setting is looked up, and shown if it is unknown. -/
theorem stopsBy_setting {type : Value} (listed : (name, .shown) ∈ grounds.looks)
    (given : GivenFor self start bound name value)
    (keyed : type.requireHashable.StopsBy start (Grounded self start bound grounds))
    (shown : type.shown.StopsBy start (Grounded self start bound grounds)) :
    (setting value type).StopsBy start (Grounded self start bound grounds) := by
  refine (stopsBy_qualifiedOf listed given).bind fun checked => ?_
  refine (stopsBy_build (.settingKey checked.text)).bind fun found => ?_
  refine stopsBy_isSet.bind fun isSet => ?_
  refine .ite (keyed.bind fun _ => ?_) ?_
  all_goals
    dsimp only
    split
    · exact stopsBy_pure _
    · exact shown.bind fun text => stopsBy_refuse rfl

/-! ## Values that are only asked for their kind -/

theorem stopsBy_isTrue : value.isTrue.StopsBy start (Grounded self start bound grounds) := by
  unfold Value.isTrue
  split
  all_goals try exact stopsBy_pure _
  refine (stopsBy_load _).bind fun object => ?_
  split
  all_goals try exact stopsBy_pure _
  exact (stopsBy_entriesOf _).bind fun _ => stopsBy_pure _

/-- Whether a value can be gone through is told without a look. -/
theorem stopsBy_isIterable : (isIterable value).StopsBy start (Grounded self start bound grounds) := by
  unfold isIterable
  split
  · refine (stopsBy_load _).bind fun object => ?_
    split
    · exact stopsBy_pure _
    · refine StopsBy.bind ?_ fun _ => stopsBy_pure _
      unfold Iteration.ofObject?
      split
      · exact stopsBy_pure _
      · exact stopsBy_pure _
      · exact stopsBy_pure _
      · exact (stopsBy_entriesOf _).bind fun _ => stopsBy_pure _
      · exact stopsBy_pure _
  · exact stopsBy_pure _

/-- What is given for a value of the request is looked up, not looked into. -/
theorem stopsBy_foreignOf : (foreignOf? value).StopsBy start (Grounded self start bound grounds) := by
  unfold foreignOf?
  split
  · refine (stopsBy_load _).bind fun object => ?_
    split <;> exact stopsBy_pure _
  · exact stopsBy_pure _

/-! ## Errors of looks -/

/-- Taking a value as an expression stops only where a value cannot be written. -/
theorem stopsBy_expressionOf : (expressionOf? value).StopsBy start (RaisedOneOf writingFaults) := by
  unfold expressionOf?
  split
  · refine (stopsBy_load _).bind fun object => ?_
    split
    · exact (Value.stopsBy_plainText _).bind fun _ =>
        (Value.stopsBy_typeName _).bind fun _ => stopsBy_pure _
    · exact stopsBy_pure _
    · exact stopsBy_pure _
  · exact stopsBy_pure _

theorem stopsBy_checkedOperandOf :
    (checkedOperandOf value).StopsBy start (RaisedOneOf writingFaults) := by
  have read : (operandOf value).StopsBy start (RaisedOneOf writingFaults) := by
    unfold operandOf
    split
    all_goals try exact stopsBy_pure _
    refine stopsBy_expressionOf.bind fun found => ?_
    split
    · exact stopsBy_pure _
    · refine (Value.stopsBy_typeName _).bind fun type => (stopsBy_raiseDefinition _).mono ?_
      exact fun signal after raised => ⟨.policyDefinition, by decide, _, raised⟩
  refine read.bind fun operand => stopsBy_ofBuilt fun error refused signal after raised => ?_
  unfold Operand.checked at refused
  cases written : operand.write with
  | ok text =>
    rw [written] at refused
    cases refused
  | error cause =>
    rw [written] at refused
    cases refused
    exact ⟨_, errorKind_mem_writingFaults cause, _, raised⟩

/-- The errors of a look are known by its way. -/
theorem Look.faults_of_fails {look : Look} {before after : Machine} {signal : Signal}
    (fails : look.Fails self value before signal after) : look.Faults signal after := by
  cases look with
  | shown => exact value.stopsBy_shown before signal after (.refl before) fails
  | written => exact value.stopsBy_plainText before signal after (.refl before) fails
  | keyed => exact value.stopsBy_requireHashable before signal after (.refl before) fails
  | operand => exact stopsBy_checkedOperandOf before signal after (.refl before) fails
  | expression => exact stopsBy_expressionOf before signal after (.refl before) fails
  | members | names => trivial

end PolicyCall

end Script
end PolicyStudio
