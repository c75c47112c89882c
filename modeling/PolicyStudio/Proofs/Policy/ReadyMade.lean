import PolicyStudio.Policy.Templates
import PolicyStudio.Proofs.Policy.Clauses
import PolicyStudio.Proofs.Policy.LastCalls
import PolicyStudio.Proofs.Policy.Vetted
import PolicyStudio.Proofs.Sql.Paths

/-!
# Ready-made policies are finished

A template gives each policy its table, its command and its one condition, so nothing is
missing for a statement, and the command alone decides which clauses show the condition.

The name of a ready-made policy ends in a word of its template or in its command.  None of
these words has an underscore in it, and they are all different, so the last word of a name
tells the template.  What is left before it, without the table, tells the rest.
-/

namespace PolicyStudio
namespace Policy

open Sql

/-! ## Last words -/

/-- Behind the last mark of a list stands one thing only. -/
theorem append_cons_of_last {α : Type} {mark : α} {front other word last : List α}
    (plain : mark ∉ word) (otherPlain : mark ∉ last)
    (equal : front ++ mark :: word = other ++ mark :: last) : front = other ∧ word = last := by
  have none_between : ∀ {between word last : List α}, mark ∉ word →
      mark :: word = between ++ mark :: last → between = [] := by
    intro between word last plain equal
    cases between with
    | nil => rfl
    | cons first rest =>
      rw [List.cons_append] at equal
      rw [(List.cons.inj equal).2] at plain
      exact absurd (List.mem_append_right _ List.mem_cons_self) plain
  rcases List.append_eq_append_iff.mp equal with ⟨between, rfl, ends⟩ | ⟨between, rfl, ends⟩
  · cases none_between plain ends
    exact ⟨(List.append_nil front).symm, (List.cons.inj ends).2⟩
  · cases none_between otherPlain ends
    exact ⟨List.append_nil other, (List.cons.inj ends).2.symm⟩

/-! ## Names -/

/-- What a ready-made policy was made for: its template, and what its name tells besides. -/
inductive Origin where
  | owned (command : Command)
  | tenant
  | visible
  | granted (role : String) (command : Command)
deriving DecidableEq

namespace Origin

/-- The command that the policy governs. -/
def command : Origin → Command
  | .owned command | .granted _ command => command
  | .tenant => .all
  | .visible => .select

/-- The name between the table and the last word. -/
def stem : Origin → String
  | .owned command => command.slug
  | .tenant => "tenant"
  | .visible => "public"
  | .granted role _ => role

/-- The last word of the name. -/
def word : Origin → String
  | .owned _ => "own"
  | .tenant => "isolation"
  | .visible => "read"
  | .granted _ command => command.slug

/-- The name of the policy on a table. -/
def name (origin : Origin) (table : String) : String :=
  table ++ "_" ++ origin.stem ++ "_" ++ origin.word

theorem not_underscore_in_slug (command : Command) : '_' ∉ command.slug.toList := by
  cases command <;> decide

theorem not_underscore_in_word (origin : Origin) : '_' ∉ origin.word.toList := by
  cases origin with
  | owned => exact (by decide : '_' ∉ "own".toList)
  | tenant => exact (by decide : '_' ∉ "isolation".toList)
  | visible => exact (by decide : '_' ∉ "read".toList)
  | granted _ command => exact not_underscore_in_slug command

/-- On one table, names are the same only if their last words and what stands before them are. -/
theorem name_eq_iff_parts {first second : Origin} {table : String} :
    first.name table = second.name table ↔
      first.stem = second.stem ∧ first.word = second.word := by
  constructor
  · intro equal
    have letters : ∀ origin : Origin, (origin.name table).toList =
        (table ++ "_" ++ origin.stem).toList ++ '_' :: origin.word.toList := by
      intro origin
      rw [name, String.toList_append, String.toList_append]
      exact List.append_assoc _ ['_'] _
    have same := congrArg String.toList equal
    rw [letters, letters] at same
    rcases append_cons_of_last first.not_underscore_in_word second.not_underscore_in_word same with
      ⟨front, word⟩
    exact ⟨(String.append_right_inj _).mp (String.toList_inj.mp front), String.toList_inj.mp word⟩
  · rintro ⟨stem, word⟩
    rw [name, name, stem, word]

theorem slug_injective {first second : Command} (same : first.slug = second.slug) :
    first = second := by
  revert same
  cases first <;> cases second <;> decide

/-- The slug of a command is none of the words that end the other names. -/
theorem slug_not_mem (command : Command) : command.slug ∉ ["own", "isolation", "read"] := by
  cases command <;> decide

/-- Ready-made policies on one table have the same name exactly if they come from the same template
for the same command and, where there is one, for the same role. -/
theorem name_eq_iff {first second : Origin} {table : String} :
    first.name table = second.name table ↔ first = second := by
  rw [name_eq_iff_parts]
  constructor
  · rintro ⟨stem, word⟩
    have foreign : ∀ command : Command, ∀ other ∈ ["own", "isolation", "read"],
        command.slug ≠ other := fun command other listed same => slug_not_mem command (same ▸ listed)
    cases first with
    | owned command => cases second with
      | owned other => exact congrArg owned (slug_injective stem)
      | tenant | visible => exact absurd word (by simp only [Origin.word]; decide)
      | granted _ other => exact absurd word.symm (foreign other "own" (by decide))
    | tenant => cases second with
      | tenant => rfl
      | owned | visible => exact absurd word (by simp only [Origin.word]; decide)
      | granted _ other => exact absurd word.symm (foreign other "isolation" (by decide))
    | visible => cases second with
      | visible => rfl
      | owned | tenant => exact absurd word (by simp only [Origin.word]; decide)
      | granted _ other => exact absurd word.symm (foreign other "read" (by decide))
    | granted role command => cases second with
      | granted _ other => exact congrArg₂ granted stem (slug_injective word)
      | owned => exact absurd word (foreign command "own" (by decide))
      | tenant => exact absurd word (foreign command "isolation" (by decide))
      | visible => exact absurd word (foreign command "read" (by decide))
  · rintro rfl
    exact ⟨rfl, rfl⟩

end Origin

/-! ## Statements -/

/-- The condition is put where the command has places. -/
def Origin.placement (origin : Origin) (table : Identifier) (condition : Condition) : Placement where
  table := table
  command := origin.command
  filter := if .filter ∈ origin.command.places then some condition else none
  check := if .check ∈ origin.command.places then some condition else none

/-- What a reader finds in the statement of a ready-made policy whose condition has this text. -/
def Origin.clauses (origin : Origin) (table shown : String) : Clauses where
  name := origin.name table
  table := table
  restrictive := origin = .tenant
  command := origin.command
  roles := []
  filter := if origin.command = .insert then none else some shown
  check := if origin.command = .select ∨ origin.command = .delete then none else some shown

/-- The clauses that a reader finds are the places that the command has. -/
theorem filter_clauses (origin : Origin) (table shown : String) :
    (if .filter ∈ origin.command.places then some shown else none) =
      (origin.clauses table shown).filter := by
  rw [Origin.clauses]
  cases origin.command <;> rfl

theorem check_clauses (origin : Origin) (table shown : String) :
    (if .check ∈ origin.command.places then some shown else none) =
      (origin.clauses table shown).check := by
  rw [Origin.clauses]
  cases origin.command <;> rfl

/-- The policy has the name of its origin, and a reader finds in its statement, with or without
the statements for indexes, what its origin tells and one condition. -/
structure Finished (table : String) (origin : Origin) (policy : Definition) : Prop where
  name : policy.name.text = origin.name table
  statements : ∃ shown, ∀ includeIndexes : Bool, ∃ text,
    (if includeIndexes then policy.statementWithIndexes else policy.statement) = .ok text ∧
      readClauses text = some (origin.clauses table shown)

/-- Give the condition to a policy as the template does. -/
def Origin.give (origin : Origin) (start : Definition) (condition : Condition) : Definition :=
  match origin with
  | .owned _ | .granted _ _ => start.allow condition
  | .tenant => start.requireAll.allow condition
  | .visible => start.whenVisible condition

/-- A text that is accepted as a name of a policy is that name. -/
theorem text_of_label {name : String} {accepted : Label} (labelled : label name = .ok accepted) :
    accepted.text = name := by
  unfold label Label.ofString? at labelled
  split_ifs at labelled
  cases labelled
  rfl

/-- A named policy on a table that governs a command has nothing else. -/
theorem eq_of_governed {name table : String} {command : Command} {start : Definition}
    (accepted : Templates.governed name table command = .ok start) :
    start.Obtained ∧ ∃ (label : Label) (checked : Identifier), label.text = name ∧
      checked.text = table ∧
      start = { name := label, table := some checked, command := some command } := by
  rcases Templates.governed_eq_ok.mp accepted with ⟨label, checked, labelled, found, rfl⟩
  have created := Definition.create_eq_ok.mpr ⟨label, labelled, rfl⟩
  exact ⟨.governing (.on (.create created) checked) command, label, checked,
    text_of_label labelled, text_of_identifier found, rfl⟩

namespace Origin

variable {origin : Origin} {table : String} {start : Definition} {condition : Condition}

theorem obtained_give (obtained : start.Obtained) (given : condition.Obtained) :
    (origin.give start condition).Obtained := by
  cases origin with
  | owned | granted => exact .allow obtained given
  | tenant => exact .allow (.requireAll obtained) given
  | visible => exact .whenVisible obtained given

/-- Nothing is missing from a policy that is given its condition. -/
theorem resolve_give {label : Label} {checked : Identifier}
    (equal : start = { name := label, table := some checked, command := some origin.command }) :
    (origin.give start condition).resolve = .ok (origin.placement checked condition) := by
  subst equal
  cases origin with
  | owned command | granted _ command => cases command <;> rfl
  | tenant | visible => rfl

theorem holds_give (accepted : Templates.governed (origin.name table) table origin.command = .ok start)
    {other : Condition} (holds : (origin.give start condition).Holds other) : other = condition := by
  rcases (eq_of_governed accepted).2 with ⟨label, checked, -, -, rfl⟩
  cases origin <;> rcases holds with held | held | held <;> cases held <;> rfl

/-- A condition that has a text is written in each of its places. -/
theorem renderOptional_placed {text : String} (written : condition.write = .ok text) (places : List Place)
    (place : Place) : renderOptional (if place ∈ places then some condition else none) =
      .ok (if place ∈ places then some text else none) := by
  split_ifs
  · exact renderOptional_of_rendered (Outcome.mapError_eq_ok.mpr written)
  · rfl

/-- A policy is finished when it is given a condition that can be shown. -/
theorem finished_give
    (accepted : Templates.governed (origin.name table) table origin.command = .ok start)
    (given : condition.Obtained) (shown : Definition.CanBeShown true condition) :
    Finished table origin (origin.give start condition) := by
  have only : ∀ other, (origin.give start condition).Holds other → other = condition :=
    fun _ => holds_give accepted
  rcases eq_of_governed accepted with ⟨obtained, label, checked, named, found, equal⟩
  have complete : (origin.give start condition).resolve = .ok (origin.placement checked condition) :=
    resolve_give equal
  rcases shown with ⟨⟨inner, innerWritten⟩, listed⟩
  refine ⟨?_, inner, fun includeIndexes => ?_⟩
  · subst equal
    cases origin <;> exact named
  · have shown : ∀ other, (origin.give start condition).Holds other →
        Definition.CanBeShown includeIndexes other := by
      intro other holds
      rw [only other holds]
      exact ⟨⟨inner, innerWritten⟩, fun _ => listed rfl⟩
    rcases (Definition.exists_statement_iff includeIndexes shown).mpr ⟨_, complete⟩ with
      ⟨text, written⟩
    refine ⟨text, written, ?_⟩
    rcases Definition.readClauses_text (obtained_give obtained given) includeIndexes written with
      ⟨placement, filter, check, resolved, filtered, checking, read⟩
    cases complete.symm.trans resolved
    cases (renderOptional_placed innerWritten _ _).symm.trans filtered
    cases (renderOptional_placed innerWritten _ _).symm.trans checking
    rw [read, Option.some.injEq, Definition.clauses, clauses, Clauses.mk.injEq]
    subst equal
    rw [filter_clauses origin table, check_clauses origin table]
    cases origin <;> exact ⟨named, found, rfl, rfl, rfl, rfl, rfl⟩

end Origin

/-! ## Templates -/

theorem canBeShown_comparison (column : Column) (comparator : Comparator) {operand : Operand}
    {text : String} (written : operand.render = .ok text) (shallow : operand.depth = 1) :
    Definition.CanBeShown true (.comparison column comparator operand) := by
  refine ⟨⟨column.render ++ " " ++ comparator.sign ++ " " ++ text, ?_⟩, fun _ => ⟨[column.name], ?_⟩⟩
  · rw [Condition.write, Condition.depth, shallow, withinDepth_of_le (by decide), Condition.render,
      written]
    rfl
  · have flat : (Condition.comparison column comparator operand).columnDepth ≤ depthLimit := by
      unfold Condition.columnDepth
      decide
    have columns : (Condition.comparison column comparator operand).columns = [column.name] := by
      unfold Condition.columns
      rfl
    rw [Condition.listColumns, withinDepth_of_le flat, columns]

theorem canBeShown_context (column : Column) (value : ContextValue) :
    Definition.CanBeShown true (.comparison column .equal value.operand) := by
  refine canBeShown_comparison column .equal value.render_operand ?_
  unfold ContextValue.operand Operand.depth
  rfl

theorem canBeShown_true (column : Column) :
    Definition.CanBeShown true (.comparison column .equal (.truth true)) := by
  have written : (Operand.truth true).render = .ok "TRUE" :=
    eq_of_withinDepth (Operand.write_truth true)
  refine canBeShown_comparison column .equal written ?_
  unfold Operand.depth
  rfl

theorem canBeShown_predicate (sql : String) : Definition.CanBeShown true (.predicate sql) := by
  refine ⟨⟨sql, ?_⟩, fun _ => ⟨[], ?_⟩⟩
  · rw [Condition.write, Condition.depth, withinDepth_of_le (by decide), Condition.render]
  · have flat : (Condition.predicate sql).columnDepth ≤ depthLimit := by
      unfold Condition.columnDepth
      decide
    have columns : (Condition.predicate sql).columns = [] := by
      unfold Condition.columns
      rfl
    rw [Condition.listColumns, withinDepth_of_le flat, columns]

theorem Origin.name_owned (table : String) (command : Command) :
    table ++ "_" ++ command.slug ++ "_own" = (Origin.owned command).name table := by
  simp only [Origin.name, String.append_assoc]
  rfl

theorem Origin.name_tenant (table : String) :
    table ++ "_tenant_isolation" = Origin.tenant.name table := by
  simp only [Origin.name, String.append_assoc]
  rfl

theorem Origin.name_visible (table : String) :
    table ++ "_public_read" = Origin.visible.name table := by
  simp only [Origin.name, String.append_assoc]
  rfl

namespace Finished

variable {table owner role : String} {policy : Definition} {command : Command}

theorem of_owned (accepted : Templates.owned table owner command = .ok policy) :
    Finished table (.owned command) policy := by
  rcases Templates.owned_eq_ok.mp accepted with ⟨start, column, condition, governed, -, isOwner, rfl⟩
  rw [Origin.name_owned] at governed
  have finished : Finished table (.owned command) ((Origin.owned command).give start condition) := by
    refine Origin.finished_give governed (.isOwner isOwner) ?_
    cases (column.isOwner_eq).symm.trans isOwner
    exact canBeShown_context column .subject
  exact finished

theorem of_tenantIsolation {column key : String} {policies : List Definition}
    (accepted : Templates.tenantIsolation table column key = .ok policies) :
    ∃ policy, policies = [policy] ∧ Finished table .tenant policy := by
  rcases Templates.tenantIsolation_eq_ok.mp accepted with
    ⟨start, column, condition, governed, -, tenant, rfl⟩
  rw [Origin.name_tenant] at governed
  refine ⟨Origin.tenant.give start condition, rfl,
    Origin.finished_give governed (.belongsToTenant tenant) ?_⟩
  rcases Column.belongsToTenant_eq_ok.mp tenant with ⟨value, -, rfl⟩
  exact canBeShown_context column value

theorem of_publicAccess {flag : Option String}
    (accepted : Templates.publicAccess table flag = .ok policy) :
    Finished table .visible policy := by
  rcases Templates.publicAccess_eq_ok.mp accepted with ⟨start, condition, governed, flagged, rfl⟩
  rw [Origin.name_visible] at governed
  have shown : condition.Obtained ∧ Definition.CanBeShown true condition := by
    rcases flagged with ⟨-, rfl⟩ | ⟨name, column, -, -, isPublic⟩
    · exact ⟨.alwaysTrue, canBeShown_predicate _⟩
    · refine ⟨.isPublic isPublic, ?_⟩
      cases (column.isPublic_eq).symm.trans isPublic
      exact canBeShown_true column
  have finished : Finished table .visible (Origin.visible.give start condition) :=
    Origin.finished_give governed shown.1 shown.2
  exact finished

theorem of_granted (accepted : Templates.granted table role command = .ok policy) :
    Finished table (.granted role command) policy := by
  rcases Templates.granted_eq_ok.mp accepted with ⟨start, condition, governed, held, rfl⟩
  have finished : Finished table (.granted role command)
      ((Origin.granted role command).give start condition) := by
    refine Origin.finished_give governed (.hasRole held) ?_
    rcases hasRole_eq_ok.mp held with ⟨-, rfl⟩
    exact canBeShown_predicate _
  exact finished

end Finished

/-- A command is named in capitals. -/
theorem Templates.name_of_commandNamed {name : String} {command : Command}
    (accepted : commandNamed name = .ok command) : command.name = Text.upper name := by
  unfold commandNamed at accepted
  split at accepted
  · next found known =>
    cases accepted
    have same := List.find?_some known
    exact eq_of_beq same
  · cases accepted

/-- The commands are the ones named, in the same order, and there is one. -/
theorem Templates.names_of_commands {names : List String} {named : List Command}
    (accepted : commands names = .ok named) :
    named ≠ [] ∧ named.map Command.name = names.map Text.upper := by
  unfold commands at accepted
  cases names with
  | nil => cases accepted
  | cons first rest =>
    have each : (first :: rest).mapM commandNamed = .ok named := accepted
    refine ⟨List.ne_nil_of_length_eq_add_one (Outcome.length_of_mapM each), ?_⟩
    have inOrder := (Outcome.forall₂_of_mapM each).imp fun _ _ => name_of_commandNamed
    have names := List.forall₂_map_left_iff.mpr (List.forall₂_map_right_iff.mpr inOrder.flip)
    rw [List.forall₂_eq_eq_eq] at names
    exact names

end Policy
end PolicyStudio
