import PolicyStudio.Proofs.Policy.Refusals
import PolicyStudio.Proofs.Policy.Vetted
import PolicyStudio.Proofs.Script.Steps
import PolicyStudio.Script.PolicyCall

/-!
# Arguments of calls

Names of tables, columns, policies, functions, settings and roles are texts, and whatever else
a program gives in their place is shown in the refusal.  All of them are checked in the one
way that is told here once.

Operations are named by one text or by the members of a value.  A value without members is
refused; what else keeps the names from being read is the error of whoever raised it.

Functions and settings have lists of words for names, with single dots between them, and a setting
needs two words at least.  These names are never quoted.  Nothing else is accepted but a list with
one line feed behind it, which the test overlooks; a function is then written with the line feed.
-/

namespace PolicyStudio
namespace Script

open Policy Step

namespace PolicyCall

/-- Go on with a text, or refuse a value by showing it. -/
def textOnly {α : Type} (accept : String → Built α) (refusal : String → DefinitionError)
    (value : Value) : Step α := do
  match value with
  | .text s => ofBuilt (accept s)
  | _ => raiseDefinition (refusal (← value.shown))

theorem identifierOf_eq : identifierOf = textOnly identifier .identifierBlank := by
  funext value
  cases value <;> rfl

theorem labelOf_eq : labelOf = textOnly label .labelBlank := by
  funext value
  cases value <;> rfl

theorem qualifiedOf_eq (purpose : String) :
    qualifiedOf purpose = textOnly (qualifiedName purpose) (.nameInvalid purpose) := by
  funext value
  cases value <;> rfl

theorem hasRole_eq : hasRole = textOnly Policy.hasRole .roleNameExpected := by
  funext value
  cases value <;> rfl

variable {before after : Machine} {value : Value}

/-- Whatever is returned was made from a text, and nothing else was done. -/
theorem textOnly_eq_ok {α : Type} {accept : String → Built α} {refusal : String → DefinitionError}
    {result : α} : (textOnly accept refusal value).run before = .ok result after ↔
      ∃ s, value = .text s ∧ accept s = .ok result ∧ before = after := by
  constructor
  · intro returned
    unfold textOnly at returned
    split at returned
    · next s =>
      rcases ofBuilt_eq_ok.mp returned with ⟨accepted, same⟩
      exact ⟨s, rfl, accepted, same⟩
    · rcases Step.bind_eq_ok.mp returned with ⟨shown, middle, -, refused⟩
      exact absurd refused (raiseDefinition_ne_ok _ _)
  · rintro ⟨s, rfl, accepted, rfl⟩
    exact ofBuilt_eq_ok.mpr ⟨accepted, rfl⟩

theorem identifierOf_eq_ok {name : Sql.Identifier} :
    (identifierOf value).run before = .ok name after ↔
      ∃ s, value = .text s ∧ identifier s = .ok name ∧ before = after := by
  rw [identifierOf_eq, textOnly_eq_ok]

theorem columnOf_eq_ok {column : Column} :
    (columnOf value).run before = .ok column after ↔
      ∃ s, value = .text s ∧ Column.named s = .ok column ∧ before = after := by
  constructor
  · intro returned
    rcases Step.bind_eq_ok.mp returned with ⟨name, middle, named, result⟩
    rcases identifierOf_eq_ok.mp named with ⟨s, rfl, accepted, rfl⟩
    rcases Step.pure_eq_ok.mp result with ⟨rfl, rfl⟩
    exact ⟨s, rfl, Outcome.bind_eq_ok.mpr ⟨name, accepted, rfl⟩, rfl⟩
  · rintro ⟨s, rfl, accepted, rfl⟩
    rcases Outcome.bind_eq_ok.mp accepted with ⟨name, named, equal⟩
    cases equal
    exact Step.bind_eq_ok.mpr ⟨name, before, identifierOf_eq_ok.mpr ⟨s, rfl, named, rfl⟩, rfl⟩

theorem hasRole_eq_ok {condition : Condition} :
    (hasRole value).run before = .ok condition after ↔
      ∃ s, value = .text s ∧ Policy.hasRole s = .ok condition ∧ before = after := by
  rw [hasRole_eq, textOnly_eq_ok]

/-! ## Arguments of templates -/

/-- A policy that is named is put on a table that is a text. -/
theorem governed_eq_ok {name : List String} {table : Value} {command : Command}
    {policy : Definition} (returned : (governed name table command).run before = .ok policy after) :
    ∃ t, table = .text t ∧ Templates.governed (String.join name) t command = .ok policy ∧
      before = after := by
  rcases Step.bind_eq_ok.mp returned with ⟨created, middle, named, returned⟩
  rcases ofBuilt_eq_ok.mp named with ⟨createdNamed, rfl⟩
  rcases Step.bind_eq_ok.mp returned with ⟨checked, middle, found, result⟩
  rcases identifierOf_eq_ok.mp found with ⟨t, rfl, accepted, rfl⟩
  rcases Step.pure_eq_ok.mp result with ⟨rfl, rfl⟩
  exact ⟨t, rfl, Outcome.bind_eq_ok.mpr ⟨created, createdNamed,
    Outcome.bind_eq_ok.mpr ⟨checked, accepted, rfl⟩⟩, rfl⟩

theorem qualifiedName_eq_ok {purpose s : String} {name : Sql.QualifiedName} :
    qualifiedName purpose s = .ok name ↔ name.text = s := by
  unfold qualifiedName Sql.QualifiedName.ofString?
  constructor
  · intro accepted
    split_ifs at accepted
    cases accepted
    rfl
  · rintro rfl
    rw [dif_pos name.plain]

/-- A setting of a known kind is returned for keys that are texts. -/
theorem setting_eq_ok {key : Value} {type : String} {context : ContextValue}
    (returned : (setting key (.text type)).run before = .ok context after) :
    ∃ k, key = .text k ∧ ContextValue.setting k type = .ok context ∧ before = after := by
  rcases Step.bind_eq_ok.mp returned with ⟨name, middle, named, returned⟩
  rw [qualifiedOf_eq] at named
  rcases textOnly_eq_ok.mp named with ⟨k, rfl, accepted, rfl⟩
  rcases Step.bind_eq_ok.mp returned with ⟨checked, middle, keyed, returned⟩
  rcases ofBuilt_eq_ok.mp keyed with ⟨keyAccepted, rfl⟩
  rw [qualifiedName_eq_ok.mp accepted] at keyAccepted
  rcases Step.bind_eq_ok.mp returned with ⟨isSet, middle, told, returned⟩
  rcases Step.pure_eq_ok.mp told with ⟨rfl, rfl⟩
  rcases Step.bind_eq_ok.mp returned with ⟨_, middle, hashed, returned⟩
  rcases Step.pure_eq_ok.mp hashed with ⟨-, rfl⟩
  dsimp only at returned
  cases known : SettingType.ofName? type with
  | none =>
    rw [known] at returned
    rcases Step.bind_eq_ok.mp returned with ⟨shown, last, -, refused⟩
    exact absurd refused (raiseDefinition_ne_ok _ _)
  | some type =>
    rw [known] at returned
    rcases Step.pure_eq_ok.mp returned with ⟨rfl, rfl⟩
    refine ⟨k, rfl, Outcome.bind_eq_ok.mpr ⟨checked, keyAccepted, ?_⟩, rfl⟩
    rw [known]
    rfl

/-- The names of operations in a value: the text itself, or the texts of its members. -/
def namesOf (self : Interpreter) (value : Value) : Step (List String) :=
  match value with
  | .text s => return [s]
  | _ => do (← collect self value).mapM Value.plainText

/-- Go on where the names of operations could not be read: an error of a wrong type becomes a
refusal, and any other one is raised again. -/
def handleUnread (value error : Value) : Step (List Command) :=
  match error with
  | .object address => do
    match ← load address with
    | .error kind .. =>
      if kind.isKindOf .type then raiseDefinition (.operationsExpected (← value.shown))
      halt (.raised (.object address))
    | _ => halt (.raised (.object address))
  | error => halt (.raised error)

theorem commandsOf_eq (self : Interpreter) (value : Value) : commandsOf self value = (do
    match ← attempt (namesOf self value) with
    | .ok names => ofBuilt (Templates.commands names)
    | .error error => handleUnread value error) := by
  unfold commandsOf
  refine congrArg (attempt (namesOf self value) >>= ·) (funext fun outcome => ?_)
  rcases outcome with (_ | _) | _ <;> rfl

/-- Nothing is returned where the names could not be read. -/
theorem handleUnread_ne_ok (error : Value) (commands : List Command) :
    (handleUnread value error).run before ≠ .ok commands after := by
  intro returned
  unfold handleUnread at returned
  split at returned
  · rcases Step.bind_eq_ok.mp returned with ⟨object, middle, -, returned⟩
    split at returned
    · split_ifs at returned
      · rcases Step.bind_eq_ok.mp returned with ⟨shown, second, -, returned⟩
        rcases Step.bind_eq_ok.mp returned with ⟨_, third, refused, -⟩
        exact raiseDefinition_ne_ok _ _ refused
      · cases returned
    · cases returned
  · cases returned

/-- The commands are those whose names are listed. -/
theorem commandsOf_eq_ok {self : Interpreter} {commands : List Command}
    (returned : (commandsOf self value).run before = .ok commands after) :
    ∃ names, (namesOf self value).run before = .ok names after ∧
      Templates.commands names = .ok commands := by
  rw [commandsOf_eq] at returned
  rcases Step.bind_eq_ok.mp returned with ⟨outcome, middle, attempted, returned⟩
  cases outcome with
  | error error => exact absurd returned (handleUnread_ne_ok error commands)
  | ok names =>
    rcases ofBuilt_eq_ok.mp returned with ⟨accepted, rfl⟩
    exact ⟨names, attempt_eq_ok.mp attempted, accepted⟩

/-! ## Names with dots -/

/-- The calls that look up a name with dots: of a function, of a setting, or of the setting that
tells the tenant of a column. -/
inductive DottedCall where
  | function
  | setting (type : SettingType)
  | tenant (column : Column)

namespace DottedCall

/-- How many words the name must have. -/
def fewest : DottedCall → Nat
  | .function => 1
  | .setting _ | .tenant _ => 2

/-- The call with a text for the name. -/
def step (call : DottedCall) (self : Interpreter) (receiver : Value) (name : String) : Step Value :=
  match call with
  | .function => callFunction .call { positional := [.text name] }
  | .setting type =>
    callMethod self receiver .session .setting { positional := [.text name, .text type.name] }
  | .tenant column =>
    callMethod self receiver (.column column) .belongsToTenant { positional := [.text name] }

/-- What the call makes of an accepted name. -/
def made (call : DottedCall) (name : Sql.QualifiedName) : PolicyObject :=
  match call with
  | .function => .condition (.functionCall name [])
  | .setting type => .contextValue (ContextValue.settingOf name type)
  | .tenant column =>
    .condition (.comparison column .equal (ContextValue.settingOf name .uuid).operand)

/-- How the call checks the name. -/
def checked (call : DottedCall) (name : String) : Built Sql.QualifiedName :=
  match call with
  | .function => qualifiedName "function name" name
  | .setting _ | .tenant _ => ContextValue.settingKey name

end DottedCall

theorem settingKey_eq_ok {key : String} {name : Sql.QualifiedName} :
    ContextValue.settingKey key = .ok name ↔ name.text = key ∧ '.' ∈ key.toList := by
  constructor
  · intro accepted
    rcases Outcome.bind_eq_ok.mp accepted with ⟨found, named, rest⟩
    cases qualifiedName_eq_ok.mp named
    split_ifs at rest with dotted
    cases rest
    exact ⟨rfl, List.contains_iff_mem.mp dotted⟩
  · rintro ⟨rfl, dotted⟩
    exact Outcome.bind_eq_ok.mpr ⟨name, qualifiedName_eq_ok.mpr rfl,
      if_pos (List.contains_iff_mem.mpr dotted)⟩

/-- What was to follow a refusal does not matter. -/
theorem raiseDefinition_bind {α β : Type} (error : DefinitionError) (next : α → Step β) :
    raiseDefinition error >>= next = raiseDefinition error := by
  unfold raiseDefinition
  split <;> rfl

theorem ofBuilt_error_bind {α β : Type} (error : DefinitionError) (next : α → Step β) :
    ofBuilt (.error error) >>= next = raiseDefinition error :=
  raiseDefinition_bind error next

/-- The key of a setting is checked twice, which comes to the same as once. -/
theorem setting_text (key : String) (type : SettingType) :
    setting (.text key) (.text type.name) =
      (do return ContextValue.settingOf (← ofBuilt (ContextValue.settingKey key)) type) := by
  have known : setting (.text key) (.text type.name) = (do
      let name ← ofBuilt (qualifiedName "session key" key)
      let name ← ofBuilt (ContextValue.settingKey name.text)
      return ContextValue.settingOf name type) := by
    cases type <;> rfl
  rw [known]
  cases accepted : qualifiedName "session key" key with
  | ok name =>
    cases qualifiedName_eq_ok.mp accepted
    rfl
  | error error =>
    rw [ContextValue.settingKey, accepted, ofBuilt_error_bind]
    exact (ofBuilt_error_bind error _).symm

namespace DottedCall

variable (call : DottedCall) (s : String)

/-- The call checks the name and does nothing else that could fail. -/
theorem step_eq (self : Interpreter) (receiver : Value) :
    call.step self receiver s = (do newPolicy (call.made (← ofBuilt (call.checked s)))) := by
  cases call with
  | function => rfl
  | setting type =>
    change PolicyCall.setting (.text s) (.text type.name) >>= newContext = _
    rw [setting_text, checked, bind_assoc]
    rfl
  | tenant column =>
    change (PolicyCall.setting (.text s) (.text SettingType.uuid.name) >>= fun value => do
      newCondition (← ofBuilt (column.equals value.operand))) = _
    simp only [setting_text, checked, bind_assoc, pure_bind, column.equals_context]
    rfl

theorem refusesMalformed_checked : RefusesMalformed (call.checked s) := by
  cases call with
  | function => exact .qualifiedName _ s
  | setting _ | tenant _ => exact .settingKey s

theorem checked_eq_ok {name : Sql.QualifiedName} :
    call.checked s = .ok name ↔ name.text = s ∧ (call = .function ∨ '.' ∈ s.toList) := by
  cases call with
  | function => simp [checked, qualifiedName_eq_ok]
  | setting _ | tenant _ => simp [checked, settingKey_eq_ok]

/-- The names that are accepted are lists of words, with enough of them. -/
theorem exists_checked_iff : (∃ name, call.checked s = .ok name) ↔
    ∃ words, call.fewest ≤ words.length ∧ Sql.ListsInLine words s := by
  constructor
  · rintro ⟨name, accepted⟩
    rcases call.checked_eq_ok s |>.mp accepted with ⟨rfl, dotted⟩
    rcases (Sql.isQualified_iff _).mp name.plain with ⟨words, lists⟩
    rw [lists.dotted_iff] at dotted
    refine ⟨words, ?_, lists⟩
    cases call with
    | function => exact lists.length_pos
    | setting _ | tenant _ => exact dotted.resolve_left nofun
  · rintro ⟨words, enough, lists⟩
    refine ⟨⟨s, (Sql.isQualified_iff s).mpr ⟨words, lists⟩⟩, (call.checked_eq_ok s).mpr ⟨rfl, ?_⟩⟩
    rw [lists.dotted_iff]
    cases call with
    | function => exact .inl rfl
    | setting _ | tenant _ => exact .inr enough

end DottedCall

/-- The call of a function without arguments is written as its name and a pair of parentheses. -/
theorem write_functionCall (name : Sql.QualifiedName) :
    (Condition.functionCall name []).write = .ok (name.text ++ "()") := by
  have shallow : (Condition.functionCall name []).depth ≤ depthLimit := by
    unfold Condition.depth depthOfOperands
    decide
  rw [Condition.write, withinDepth_of_le shallow]
  unfold Condition.render renderList renderOperands
  change Except.ok (name.text ++ "(" ++ "" ++ ")") = _
  rw [String.append_assoc, String.append_assoc]
  rfl

/-- A call that looks up a name with dots returns exactly if the name is a list of words, with
single dots between them and enough words for the call, or such a list with one line feed behind
it.  For any other text a malformed definition is reported.  The call of a function is written
with the characters of the name as they are, and the parentheses behind them. -/
theorem dotted_names_are_lists_of_words (call : DottedCall) (self : Interpreter) (receiver : Value)
    (s : String) (machine : Machine) :
    ((∃ value after, (call.step self receiver s).run machine = .ok value after) ↔
      ∃ words, call.fewest ≤ words.length ∧ Sql.ListsInLine words s) ∧
    (∀ signal after, (call.step self receiver s).run machine = .error signal after →
      ∃ message, Raised .policyDefinition [.text message] signal after) ∧
    ∀ value after, (callFunction .call { positional := [.text s] }).run machine = .ok value after →
      ∃ address condition, value = .object address ∧
        after.Holds address (.policy (.condition condition)) ∧
        condition.write = .ok (s ++ "()") := by
  refine ⟨?_, ?_, ?_⟩
  · rw [← call.exists_checked_iff s, call.step_eq]
    constructor
    · rintro ⟨value, after, returned⟩
      rcases bind_eq_ok.mp returned with ⟨name, middle, accepted, -⟩
      exact ⟨name, (ofBuilt_eq_ok.mp accepted).1⟩
    · rintro ⟨name, accepted⟩
      exact ⟨_, _, bind_eq_ok.mpr ⟨name, machine, ofBuilt_eq_ok.mpr ⟨accepted, rfl⟩, rfl⟩⟩
  · intro signal after stopped
    have stops : (call.step self receiver s).StopsBy machine
        fun signal after => ∃ message, Raised .policyDefinition [.text message] signal after := by
      rw [call.step_eq]
      refine StopsBy.bind (stopsBy_ofBuilt fun error refused signal after raised => ?_) fun name =>
        stopsBy_allocate _ rfl
      have malformed := call.refusesMalformed_checked s error refused
      rw [RaisedFor, malformed, if_neg (by rintro rfl; cases malformed)] at raised
      exact ⟨_, raised⟩
    exact stops machine signal after (.refl machine) stopped
  · intro value after returned
    change (DottedCall.function.step self receiver s).run machine = _ at returned
    rw [DottedCall.step_eq] at returned
    rcases bind_eq_ok.mp returned with ⟨name, middle, found, allocated⟩
    rcases ofBuilt_eq_ok.mp found with ⟨accepted, rfl⟩
    rcases (DottedCall.function.checked_eq_ok s).mp accepted with ⟨rfl, -⟩
    rcases (allocate_eq_ok (.policy (DottedCall.function.made name)) rfl).mp allocated with
      ⟨rfl, rfl⟩
    exact ⟨_, _, rfl, Array.getElem?_push_size, write_functionCall name⟩

/-- A line feed behind the name of a function is overlooked, and written with it. -/
theorem name_with_feed_is_called : ∃ value after condition,
    (callFunction .call { positional := [.text "f\n"] }).run Machine.initial = .ok value after ∧
    (∃ address, value = .object address ∧ after.Holds address (.policy (.condition condition))) ∧
    condition.write = .ok "f\n()" ∧ ∀ words, ¬ Sql.Lists words "f\n" := by
  refine ⟨_, _, .functionCall ⟨"f\n", rfl⟩ [], rfl, ⟨_, rfl, rfl⟩, write_functionCall _, ?_⟩
  intro words lists
  have same := lists.lineOf_eq
  revert same
  decide

end PolicyCall

end Script
end PolicyStudio
