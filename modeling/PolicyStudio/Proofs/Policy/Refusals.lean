import PolicyStudio.Policy.Templates
import PolicyStudio.Proofs.Policy.Membership
import PolicyStudio.Proofs.Policy.Statements

/-!
# What building a policy is refused for

Nearly everything that is refused is a malformed definition.  Only what is written can fail
otherwise, for a cause that lies in a condition that the policy holds.
-/

namespace PolicyStudio
namespace Policy

open Script (errorKind)

variable {α β : Type}

/-! ## Malformed definitions -/

namespace RefusesMalformed

theorem error {error : DefinitionError} (malformed : errorKind error = .policyDefinition) :
    RefusesMalformed (.error error : Built α) := by
  intro other same
  cases same
  exact malformed

theorem label (name : String) : RefusesMalformed (label name) := by
  unfold Policy.label
  split
  · exact .ok _
  · exact .error rfl

theorem qualifiedName (purpose name : String) : RefusesMalformed (qualifiedName purpose name) := by
  unfold Policy.qualifiedName
  split
  · exact .ok _
  · exact .error rfl

theorem hasRole (role : String) : RefusesMalformed (hasRole role) := by
  unfold Policy.hasRole
  split
  · exact .error rfl
  · exact .ok _

theorem claim (name : String) : RefusesMalformed (ContextValue.claim name) := by
  unfold ContextValue.claim
  split
  · exact .error rfl
  · exact .ok _

theorem settingKey (key : String) : RefusesMalformed (ContextValue.settingKey key) := by
  refine (qualifiedName _ key).bind fun found => ?_
  split
  · exact .ok _
  · exact .error rfl

theorem joinKind (name : String) : RefusesMalformed (Subquery.joinKind name) := by
  unfold Subquery.joinKind
  split
  · exact .ok _
  · exact .error rfl

theorem selectColumns (query : Subquery) (columns : List Sql.Identifier) :
    RefusesMalformed (query.selectColumns columns) := by
  cases query
  unfold Subquery.selectColumns
  dsimp only
  split
  · exact .error rfl
  · exact .ok _

theorem grant (policy : Definition) (roles : List Sql.Identifier) :
    RefusesMalformed (policy.grant roles) := by
  unfold Definition.grant
  split
  · exact .error rfl
  · exact .ok _

theorem create (name : String) : RefusesMalformed (Definition.create name) :=
  (label name).bind fun _ => .ok _

theorem placed (policy : Definition) (command : Command) :
    RefusesMalformed (policy.placed command) := by
  unfold Definition.placed
  cases command with
  | update | all => exact .ok _
  | select | insert | delete =>
    dsimp only
    split
    · exact .error rfl
    · exact .ok _

/-- An incomplete policy is a malformed definition. -/
theorem resolve (policy : Definition) : RefusesMalformed policy.resolve := by
  unfold Definition.resolve
  split
  · split
    · refine (placed policy _).bind fun places => ?_
      dsimp only
      split
      · exact .error rfl
      · exact .ok _
    · exact .error rfl
  · exact .error rfl

theorem conditions (policy : Definition) : RefusesMalformed policy.conditions :=
  (resolve policy).bind fun _ => .ok _

/-- Members that have texts are refused only if there are none. -/
theorem isAmong (column : Column) {members : List Operand}
    (written : ∀ operand ∈ members, ∃ text, operand.write = .ok text) :
    RefusesMalformed (column.isAmong members) := by
  unfold Column.isAmong
  split
  · exact .error rfl
  · show RefusesMalformed (members.mapM Operand.checked >>= _)
    rw [Operand.mapM_checked_eq_ok.mpr ⟨written, rfl⟩]
    exact .ok _

end RefusesMalformed

/-! ## Expressions without a text -/

/-- Building is refused for a malformed definition, or for an expression without a text. -/
def RefusedFor (unwritten : RenderError → Prop) (built : Built α) : Prop :=
  ∀ error, built = .error error → errorKind error = .policyDefinition ∨
    ∃ cause, unwritten cause ∧ error = .render cause

variable {unwritten : RenderError → Prop}

theorem RefusedFor.of_malformed {built : Built α} (malformed : RefusesMalformed built) :
    RefusedFor unwritten built :=
  fun error refused => .inl (malformed error refused)

theorem RefusedFor.bind_of_ok {built : Built α} {next : α → Built β} (first : RefusedFor unwritten built)
    (rest : ∀ value, built = .ok value → RefusedFor unwritten (next value)) :
    RefusedFor unwritten (built >>= next) := by
  cases built with
  | ok value => exact rest value rfl
  | error cause =>
    intro error refused
    cases refused
    exact first cause rfl

theorem RefusedFor.mapM {step : α → Built β} {items : List α}
    (each : ∀ item ∈ items, RefusedFor unwritten (step item)) :
    RefusedFor unwritten (items.mapM step) := by
  induction items with
  | nil => exact nofun
  | cons item rest inductionHypothesis =>
    rw [List.mapM_cons]
    refine (each item List.mem_cons_self).bind_of_ok fun value _ => ?_
    refine (inductionHypothesis fun other among => each other (List.mem_cons_of_mem _ among)).bind_of_ok
      fun values _ => nofun

theorem RefusedFor.rendered {text : Except RenderError α}
    (without : ∀ cause, text = .error cause → unwritten cause) :
    RefusedFor unwritten (rendered text) := by
  intro error refused
  cases text with
  | ok value => cases refused
  | error cause =>
    cases refused
    exact .inr ⟨cause, without cause rfl, rfl⟩

theorem refusedFor_commands (names : List String) :
    RefusedFor unwritten (Templates.commands names) := by
  have named : ∀ name, RefusedFor unwritten (Templates.commandNamed name) := by
    intro name error refused
    unfold Templates.commandNamed at refused
    split at refused <;> cases refused
    exact .inl rfl
  unfold Templates.commands
  split
  · intro error refused
    cases refused
    exact .inl rfl
  · exact RefusedFor.mapM fun name _ => named name

/-! ## Statements -/

theorem refusedFor_renderOptional {condition : Option Condition}
    (without : ∀ c cause, condition = some c → c.write = .error cause → unwritten cause) :
    RefusedFor unwritten (renderOptional condition) := by
  cases condition with
  | none => exact nofun
  | some c =>
    exact (RefusedFor.rendered fun cause failed => without c cause rfl failed).bind_of_ok
      fun text _ => nofun

theorem refusedFor_statement {policy : Definition}
    (without : ∀ c cause, policy.Holds c → c.write = .error cause → unwritten cause) :
    RefusedFor unwritten policy.statement := by
  refine (RefusedFor.of_malformed (.resolve policy)).bind_of_ok
    fun placement complete => ?_
  refine (refusedFor_renderOptional fun c cause put => without c cause
    (Definition.holds_of_resolve complete (.inl put))).bind_of_ok fun filter _ => ?_
  refine (refusedFor_renderOptional fun c cause put => without c cause
    (Definition.holds_of_resolve complete (.inr put))).bind_of_ok fun check _ => nofun

theorem refusedFor_indexedColumns {policy : Definition}
    (without : ∀ c cause, policy.Holds c → c.listColumns = .error cause → unwritten cause) :
    RefusedFor unwritten policy.indexedColumns := by
  refine RefusedFor.bind_of_ok ?_ fun conditions placed => ?_
  · exact .of_malformed ((RefusesMalformed.resolve policy).bind fun _ => .ok _)
  · refine (RefusedFor.mapM fun c among => .rendered fun cause failed => ?_).bind_of_ok
      fun _ _ => nofun
    rcases Definition.conditions_eq_ok.mp placed with ⟨placement, complete, rfl⟩
    have holds : policy.Holds c := by
      refine Definition.holds_of_resolve complete ((List.mem_append.mp among).imp ?_ ?_)
      · exact Option.mem_toList.mp
      · exact Option.mem_toList.mp
    exact without c cause holds failed

theorem refusedFor_statementWithIndexes {policy : Definition}
    (shown : ∀ c cause, policy.Holds c → c.write = .error cause → unwritten cause)
    (listed : ∀ c cause, policy.Holds c → c.listColumns = .error cause → unwritten cause) :
    RefusedFor unwritten policy.statementWithIndexes := by
  refine (RefusedFor.of_malformed (.resolve policy)).bind_of_ok fun _ _ => ?_
  refine (refusedFor_indexedColumns listed).bind_of_ok fun _ _ => ?_
  exact (refusedFor_statement shown).bind_of_ok fun _ _ => nofun

end Policy
end PolicyStudio
