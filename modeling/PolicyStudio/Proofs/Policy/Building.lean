import Mathlib.Tactic.SplitIfs
import PolicyStudio.Policy.Templates
import PolicyStudio.Proofs.Policy.Rendering

/-!
# What calls return

A call of the policy language checks its arguments one after the other and puts together
what it returns.  For each call it is said here once which checks must succeed and what the
result is, so that nothing else depends on how a call is made.

An operand that is accepted is kept as it is.  It only has to have a text.
-/

namespace PolicyStudio
namespace Policy

open Sql

/-! ## Values of the request -/

namespace ContextValue

theorem claim_eq_ok {name : String} {value : ContextValue} :
    claim name = .ok value ↔
      name ≠ "" ∧ value = ⟨"(auth.jwt() ->> " ++ literal name ++ ")"⟩ :=
  Outcome.guarded_eq_ok.trans (and_congr_right' Outcome.pure_eq_ok)

theorem setting_eq_ok {key type : String} {value : ContextValue} :
    setting key type = .ok value ↔ ∃ checked known, settingKey key = .ok checked ∧
      SettingType.ofName? type = some known ∧ value = settingOf checked known := by
  rw [setting, Outcome.bind_eq_ok]
  cases SettingType.ofName? type with
  | none =>
    constructor
    · rintro ⟨_, _, impossible⟩
      cases impossible
    · rintro ⟨_, _, _, impossible, _⟩
      cases impossible
  | some known =>
    constructor
    · rintro ⟨checked, accepted, equal⟩
      exact ⟨checked, known, accepted, rfl, (Outcome.eq_of_pure equal).symm⟩
    · rintro ⟨checked, _, accepted, same, rfl⟩
      cases same
      exact ⟨checked, accepted, rfl⟩

theorem render_operand (value : ContextValue) : value.operand.render = .ok value.sql := by
  unfold operand Operand.render
  rfl

theorem write_operand (value : ContextValue) : value.operand.write = .ok value.sql := by
  have shallow : value.operand.depth ≤ depthLimit := by
    unfold operand Operand.depth
    decide
  rw [Operand.write, withinDepth_of_le shallow, render_operand]

end ContextValue

/-! ## Operands -/

namespace Operand

variable {operand result : Operand}

theorem checked_eq_ok :
    operand.checked = .ok result ↔ (∃ text, operand.write = .ok text) ∧ result = operand := by
  rw [checked, Outcome.bind_pure_eq_ok, exists_and_right]
  exact and_congr_left' (exists_congr fun _ => Outcome.mapError_eq_ok)

theorem checked_of_write {text : String} (written : operand.write = .ok text) :
    operand.checked = .ok operand :=
  checked_eq_ok.mpr ⟨⟨text, written⟩, rfl⟩

/-- What is written within the depth is written. -/
theorem exists_render_of_write (written : ∃ text, operand.write = .ok text) :
    ∃ text, operand.render = .ok text :=
  written.imp fun _ => eq_of_withinDepth

/-- A list of operands is accepted if each of them has a text. -/
theorem mapM_checked_eq_ok {operands results : List Operand} :
    operands.mapM checked = .ok results ↔
      (∀ operand ∈ operands, ∃ text, operand.write = .ok text) ∧ results = operands := by
  constructor
  · intro accepted
    refine ⟨fun operand listed => ?_,
      Outcome.mapM_eq_self (fun _ _ passed => (checked_eq_ok.mp passed).2) accepted⟩
    rcases Outcome.exists_mapM_eq_ok_iff.mp ⟨results, accepted⟩ operand listed with ⟨_, passed⟩
    exact (checked_eq_ok.mp passed).1
  · rintro ⟨each, rfl⟩
    rw [Outcome.mapM_eq_ok, List.forall₂_same]
    exact fun operand listed => checked_eq_ok.mpr ⟨each operand listed, rfl⟩

/-- A text, as an operand, is written as a literal. -/
theorem write_text (s : String) : (text s).write = .ok (literal s) := by
  unfold write depth render
  exact withinDepth_of_le (by decide) _

theorem write_truth (b : Bool) : (Operand.truth b).write = .ok (Sql.truth b) := by
  unfold write depth render
  exact withinDepth_of_le (by decide) _

end Operand

/-! ## Conditions -/

namespace Column

variable {column : Column} {comparator : Comparator} {operand : Operand} {result : Condition}

theorem compare_eq_ok : column.compare comparator operand = .ok result ↔
    (∃ text, operand.write = .ok text) ∧ result = .comparison column comparator operand := by
  rw [compare, Outcome.bind_pure_eq_ok]
  simp only [Operand.checked_eq_ok, and_assoc, exists_and_left, exists_eq_left]

theorem compare_of_write {text : String} (written : operand.write = .ok text) (column : Column)
    (comparator : Comparator) :
    column.compare comparator operand = .ok (.comparison column comparator operand) :=
  compare_eq_ok.mpr ⟨⟨text, written⟩, rfl⟩

theorem eq_of_compare (accepted : column.compare comparator operand = .ok result) :
    result = .comparison column comparator operand :=
  (compare_eq_ok.mp accepted).2

theorem exists_of_compare (accepted : column.compare comparator operand = .ok result) :
    ∃ text, operand.render = .ok text :=
  Operand.exists_render_of_write (compare_eq_ok.mp accepted).1

/-- Equality with nothing is a test for nothing, and with anything else a comparison. -/
theorem equals_cases (accepted : column.equals operand = .ok result) :
    operand = .null ∧ result = column.isNull ∨ column.compare .equal operand = .ok result := by
  unfold equals at accepted
  split at accepted
  · cases accepted
    exact Or.inl ⟨rfl, rfl⟩
  · exact Or.inr accepted

theorem differs_cases (accepted : column.differs operand = .ok result) :
    operand = .null ∧ result = column.isNotNull ∨ column.compare .different operand = .ok result := by
  unfold differs at accepted
  split at accepted
  · cases accepted
    exact Or.inl ⟨rfl, rfl⟩
  · exact Or.inr accepted

/-- Every value of the request can be compared with. -/
theorem equals_context (column : Column) (value : ContextValue) :
    column.equals value.operand = .ok (.comparison column .equal value.operand) :=
  compare_of_write value.write_operand column .equal

theorem isOwner_eq (column : Column) :
    column.isOwner = .ok (.comparison column .equal ContextValue.subject.operand) :=
  column.equals_context .subject

theorem isPublic_eq (column : Column) :
    column.isPublic = .ok (.comparison column .equal (.truth true)) :=
  compare_of_write (Operand.write_truth true) column .equal

theorem belongsToTenant_eq_ok {key : String} : column.belongsToTenant key = .ok result ↔
    ∃ value, ContextValue.setting key "uuid" = .ok value ∧
      result = .comparison column .equal value.operand := by
  rw [belongsToTenant, Outcome.bind_eq_ok]
  refine exists_congr fun value => and_congr_right' ?_
  rw [equals_context]
  exact Outcome.pure_eq_ok

theorem isAmong_eq_ok {members : List Operand} : column.isAmong members = .ok result ↔
    members ≠ [] ∧ (∀ member ∈ members, ∃ text, member.write = .ok text) ∧
      result = .among column members := by
  refine Outcome.guarded_eq_ok.trans (and_congr List.isEmpty_iff.not ?_)
  refine Outcome.bind_pure_eq_ok.trans ?_
  simp only [Operand.mapM_checked_eq_ok, and_assoc, exists_and_left, exists_eq_left]

theorem isMemberOf_eq_ok {table key member : String} :
    column.isMemberOf table key member = .ok result ↔ ∃ checkedKey checkedTable checkedMember,
      identifier key = .ok checkedKey ∧ identifier table = .ok checkedTable ∧
        identifier member = .ok checkedMember ∧
        result = column.isWithin (membershipQuery checkedTable checkedKey checkedMember).operand := by
  simp only [isMemberOf, Outcome.bind_eq_ok, Outcome.pure_eq_ok, exists_and_left]

end Column

theorem hasRole_eq_ok {role : String} {result : Condition} : hasRole role = .ok result ↔
    role ≠ "" ∧ result = .predicate ("(auth.jwt() ->> 'role') = " ++ literal role) :=
  Outcome.guarded_eq_ok.trans (and_congr_right' Outcome.pure_eq_ok)

theorem functionCall_eq_ok {name : String} {arguments : List Operand} {result : Condition} :
    functionCall name arguments = .ok result ↔ ∃ path,
      (∀ argument ∈ arguments, ∃ text, argument.write = .ok text) ∧
        qualifiedName "function name" name = .ok path ∧ result = .functionCall path arguments := by
  rw [functionCall, Outcome.bind_bind_pure_eq_ok]
  simp only [Operand.mapM_checked_eq_ok, and_assoc, exists_and_left, exists_eq_left]

/-! ## Queries -/

namespace Subquery

theorem fromTable_eq_ok {table : String} {query : Subquery} :
    fromTable table = .ok query ↔ ∃ checked, identifier table = .ok checked ∧ query = .on checked :=
  Outcome.bind_pure_eq_ok

/-- A selection is accepted if it has columns and all of them are names. -/
theorem select_eq_ok {table : Identifier} {columns : List Identifier} {joins : List Join}
    {filter : Option Condition} {names : List String} {result : Subquery} :
    (mk table columns joins filter).select names = .ok result ↔
      names ≠ [] ∧ ∃ checked, names.mapM identifier = .ok checked ∧
        result = .mk table checked joins filter := by
  cases names with
  | nil => exact ⟨fun impossible => (nomatch impossible), fun ⟨impossible, _⟩ => absurd rfl impossible⟩
  | cons first rest =>
    have replaced : ∀ checked, (first :: rest).mapM identifier = .ok checked →
        (mk table columns joins filter).selectColumns checked = .ok (.mk table checked joins filter) := by
      intro checked accepted
      rcases Outcome.mapM_cons_eq_ok.mp accepted with ⟨name, others, -, -, rfl⟩
      rfl
    constructor
    · intro selected
      rcases Outcome.bind_eq_ok.mp selected with ⟨checked, accepted, selected⟩
      rw [replaced checked accepted] at selected
      exact ⟨List.cons_ne_nil _ _, checked, accepted, (Except.ok.inj selected).symm⟩
    · rintro ⟨-, checked, accepted, rfl⟩
      exact Outcome.bind_eq_ok.mpr ⟨checked, accepted, replaced checked accepted⟩

end Subquery

/-! ## Policies -/

namespace Definition

variable {policy : Definition}

theorem create_eq_ok {name : String} :
    create name = .ok policy ↔ ∃ checked, label name = .ok checked ∧ policy = { name := checked } :=
  Outcome.bind_pure_eq_ok

theorem grant_eq_ok {roles : List Identifier} {result : Definition} :
    policy.grant roles = .ok result ↔ roles ≠ [] ∧ result = { policy with roles := roles } :=
  Outcome.guarded_eq_ok.trans (and_congr List.isEmpty_iff.not Outcome.pure_eq_ok)

/-- A policy is complete if it has a table and a command, and there are places for its conditions,
one of which is filled. -/
theorem resolve_eq_ok {placement : Placement} : policy.resolve = .ok placement ↔
    policy.table = some placement.table ∧ policy.command = some placement.command ∧
      policy.placed placement.command = .ok (placement.filter, placement.check) ∧
      (placement.filter.isSome = true ∨ placement.check.isSome = true) := by
  rcases placement with ⟨table, command, filter, check⟩
  unfold resolve
  constructor
  · intro complete
    split at complete
    · next found located =>
      split at complete
      · next chosen governed =>
        rcases Outcome.bind_eq_ok.mp complete with ⟨⟨first, second⟩, placed, complete⟩
        dsimp only at complete
        split_ifs at complete with missing
        · cases complete
        · cases complete
          refine ⟨located, governed, placed, ?_⟩
          simpa [Option.isSome_iff_ne_none, Classical.or_iff_not_imp_left] using missing
      · cases complete
    · cases complete
  · rintro ⟨located, governed, placed, filled⟩
    have present : ¬(filter.isNone && check.isNone) = true := by
      cases filter <;> cases check <;> simp at filled ⊢
    rw [located, governed]
    refine Outcome.bind_eq_ok.mpr ⟨(filter, check), placed, ?_⟩
    dsimp only
    rw [if_neg present]
    rfl

theorem conditions_eq_ok {conditions : List Condition} : policy.conditions = .ok conditions ↔
    ∃ placement, policy.resolve = .ok placement ∧
      conditions = placement.filter.toList ++ placement.check.toList :=
  Outcome.bind_pure_eq_ok

theorem indexedColumns_eq_ok {columns : List Identifier} : policy.indexedColumns = .ok columns ↔
    ∃ placement listed, policy.resolve = .ok placement ∧
      (placement.filter.toList ++ placement.check.toList).mapM
        (fun condition => rendered condition.listColumns) = .ok listed ∧
      columns = distinct [] (listed.flatten.filter Identifier.isSimple) := by
  simp only [indexedColumns, Outcome.bind_eq_ok, Outcome.pure_eq_ok, conditions_eq_ok]
  constructor
  · rintro ⟨_, ⟨placement, complete, rfl⟩, listed, each, equal⟩
    exact ⟨placement, listed, complete, each, equal⟩
  · rintro ⟨placement, listed, complete, each, equal⟩
    exact ⟨_, ⟨placement, complete, rfl⟩, listed, each, equal⟩

theorem statementWithIndexes_eq_ok {text : String} : policy.statementWithIndexes = .ok text ↔
    ∃ placement columns statement, policy.resolve = .ok placement ∧
      policy.indexedColumns = .ok columns ∧ policy.statement = .ok statement ∧
      text = statement ++ String.join (columns.map (indexStatement placement.table)) := by
  simp only [statementWithIndexes, Outcome.bind_eq_ok, Outcome.pure_eq_ok, exists_and_left]

end Definition

/-! ## Templates -/

namespace Templates

variable {table : String} {command : Command} {policy : Definition} {policies : List Definition}

/-- A named policy on a table that governs a command has nothing else. -/
theorem governed_eq_ok {name : String} : governed name table command = .ok policy ↔
    ∃ accepted checked, label name = .ok accepted ∧ identifier table = .ok checked ∧
      policy = { name := accepted, table := some checked, command := some command } := by
  rw [governed, Outcome.bind_bind_pure_eq_ok]
  constructor
  · rintro ⟨_, checked, created, found, rfl⟩
    rcases Definition.create_eq_ok.mp created with ⟨accepted, labelled, rfl⟩
    exact ⟨accepted, checked, labelled, found, rfl⟩
  · rintro ⟨accepted, checked, labelled, found, rfl⟩
    exact ⟨_, checked, Definition.create_eq_ok.mpr ⟨accepted, labelled, rfl⟩, found, rfl⟩

theorem owned_eq_ok {owner : String} : owned table owner command = .ok policy ↔
    ∃ start column condition,
      governed (table ++ "_" ++ command.slug ++ "_own") table command = .ok start ∧
        Column.named owner = .ok column ∧ column.isOwner = .ok condition ∧
        policy = start.allow condition := by
  simp only [owned, Outcome.bind_eq_ok, Outcome.pure_eq_ok, exists_and_left]

theorem granted_eq_ok {role : String} : granted table role command = .ok policy ↔
    ∃ start condition,
      governed (table ++ "_" ++ role ++ "_" ++ command.slug) table command = .ok start ∧
        hasRole role = .ok condition ∧ policy = start.allow condition :=
  Outcome.bind_bind_pure_eq_ok

theorem tenantIsolation_eq_ok {name key : String} : tenantIsolation table name key = .ok policies ↔
    ∃ start column condition, governed (table ++ "_tenant_isolation") table .all = .ok start ∧
      Column.named name = .ok column ∧ column.belongsToTenant key = .ok condition ∧
      policies = [start.requireAll.allow condition] := by
  simp only [tenantIsolation, Outcome.bind_eq_ok, Outcome.pure_eq_ok, exists_and_left]

/-- A flag makes the rows visible for which it is set, and no flag makes all of them visible. -/
theorem publicAccess_eq_ok {flag : Option String} : publicAccess table flag = .ok policy ↔
    ∃ start condition, governed (table ++ "_public_read") table .select = .ok start ∧
      (flag = none ∧ condition = alwaysTrue ∨ ∃ name column, flag = some name ∧
        Column.named name = .ok column ∧ column.isPublic = .ok condition) ∧
      policy = start.whenVisible condition := by
  cases flag with
  | none =>
    refine Outcome.bind_bind_pure_eq_ok.trans ?_
    constructor
    · rintro ⟨_, start, always, begun, equal⟩
      cases always
      exact ⟨start, alwaysTrue, begun, .inl ⟨rfl, rfl⟩, equal⟩
    · rintro ⟨start, _, begun, ⟨-, rfl⟩ | ⟨_, _, impossible, _⟩, equal⟩
      · exact ⟨alwaysTrue, start, rfl, begun, equal⟩
      · cases impossible
  | some name =>
    constructor
    · intro accepted
      rcases Outcome.bind_eq_ok.mp accepted with ⟨column, named, accepted⟩
      rcases Outcome.bind_bind_pure_eq_ok.mp accepted with ⟨condition, start, isPublic, begun, equal⟩
      exact ⟨start, condition, begun, .inr ⟨name, column, rfl, named, isPublic⟩, equal⟩
    · rintro ⟨start, condition, begun, ⟨impossible, _⟩ | ⟨_, column, same, named, isPublic⟩, equal⟩
      · cases impossible
      · cases same
        exact Outcome.bind_eq_ok.mpr ⟨column, named,
          Outcome.bind_bind_pure_eq_ok.mpr ⟨condition, start, isPublic, begun, equal⟩⟩

/-- Each policy for owners is for one of the commands. -/
theorem exists_owned {operations : List String} {owner : String}
    (accepted : userOwned table operations owner = .ok policies) (member : policy ∈ policies) :
    ∃ command, owned table owner command = .ok policy := by
  rcases Outcome.bind_eq_ok.mp accepted with ⟨commands, -, accepted⟩
  rcases Outcome.exists_of_mem_mapM accepted policy member with ⟨command, -, made⟩
  exact ⟨command, made⟩

/-- Each policy for the holders of a role is for one of the commands. -/
theorem exists_granted {operations : List String} {role : String}
    (accepted : roleAccess table role operations = .ok policies) (member : policy ∈ policies) :
    ∃ command, granted table role command = .ok policy := by
  rcases Outcome.bind_eq_ok.mp accepted with ⟨commands, -, accepted⟩
  rcases Outcome.exists_of_mem_mapM accepted policy member with ⟨command, -, made⟩
  exact ⟨command, made⟩

end Templates

end Policy
end PolicyStudio
