import Mathlib.Data.List.Nodup
import PolicyStudio.Proofs.Policy.IndexedColumns

/-!
# Indexes that are skipped

A statement for an index does nothing where an index of that name exists.  `createIndex` is
what one statement does to the columns that have an index, and `indexed` what all of them do,
one after the other.  By induction on the statements every column finds an index of its name
in the end, its own or that of an earlier column.

Different columns may have the same slug, and then their indexes have the same name.  So all
columns have an index of their own exactly if their slugs are different, as they are where the
columns are called by small letters, digits and underscores.
-/

namespace PolicyStudio
namespace Policy

open Sql

/-! ## One statement after the other -/

/-- The columns with an index after the statement for one more column.  Nothing changes where
the name of the index is taken. -/
def createIndex (table : Identifier) (present : List Identifier) (column : Identifier) :
    List Identifier :=
  if indexName table column ∈ present.map (indexName table) then present else present ++ [column]

/-- The columns with an index after the statements for all columns, on a table without indexes. -/
def indexed (table : Identifier) (columns : List Identifier) : List Identifier :=
  columns.foldl (createIndex table) []

/-- What holds after the statements for some columns: indexes have different names, and each
column finds one of its name, which is not that of a later column. -/
structure Served (table : Identifier) (columns present : List Identifier) : Prop where
  asked : present.Sublist columns
  apart : (present.map (indexName table)).Nodup
  found : ∀ column ∈ columns, ∃ kept ∈ present, indexName table kept = indexName table column ∧
    columns.idxOf kept ≤ columns.idxOf column

namespace Served

variable {table : Identifier} {columns present : List Identifier}

theorem start (table : Identifier) : Served table [] [] where
  asked := List.Sublist.refl _
  apart := List.nodup_nil
  found _ member := nomatch member

/-- One more statement keeps the names apart and serves one more column. -/
theorem createIndex (served : Served table columns present) (column : Identifier) :
    Served table (columns ++ [column]) (createIndex table present column) := by
  -- A column that is not new is found where it was, before the new one.
  have earlier : ∀ {kept other}, kept ∈ columns →
      (other ∈ columns → columns.idxOf kept ≤ columns.idxOf other) →
        (columns ++ [column]).idxOf kept ≤ (columns ++ [column]).idxOf other := by
    intro kept other keptMember ordered
    rw [List.idxOf_append_of_mem keptMember]
    by_cases member : other ∈ columns
    · rw [List.idxOf_append_of_mem member]
      exact ordered member
    · rw [List.idxOf_append_of_notMem member]
      exact Nat.le_add_right_of_le (Nat.le_of_lt (List.idxOf_lt_length_of_mem keptMember))
  have known : ∀ other ∈ columns, ∃ kept ∈ present,
      indexName table kept = indexName table other ∧
        (columns ++ [column]).idxOf kept ≤ (columns ++ [column]).idxOf other := by
    intro other member
    rcases served.found other member with ⟨kept, keptMember, named, ordered⟩
    exact ⟨kept, keptMember, named, earlier (served.asked.subset keptMember) fun _ => ordered⟩
  rw [Policy.createIndex]
  split_ifs with taken
  · refine ⟨served.asked.trans (List.sublist_append_left _ _), served.apart, fun other member => ?_⟩
    rcases List.mem_append.mp member with member | member
    · exact known other member
    · cases List.mem_singleton.mp member
      rcases List.mem_map.mp taken with ⟨kept, keptMember, named⟩
      by_cases again : column ∈ columns
      · exact known column again
      · exact ⟨kept, keptMember, named, earlier (served.asked.subset keptMember) again.elim⟩
  · refine ⟨served.asked.append_right _, ?_, fun other member => ?_⟩
    · rw [List.map_append, List.map_singleton, ← List.concat_eq_append]
      exact served.apart.concat taken
    · rcases List.mem_append.mp member with member | member
      · rcases known other member with ⟨kept, keptMember, rest⟩
        exact ⟨kept, List.mem_append_left _ keptMember, rest⟩
      · cases List.mem_singleton.mp member
        exact ⟨column, List.mem_append_right _ (List.mem_singleton_self _), rfl, Nat.le_refl _⟩

/-- After all statements every column is served. -/
theorem indexed (table : Identifier) (columns : List Identifier) :
    Served table columns (indexed table columns) := by
  induction columns using List.reverseRecOn with
  | nil => exact start table
  | append_singleton columns column inductionHypothesis =>
    rw [Policy.indexed, List.foldl_append]
    exact inductionHypothesis.createIndex column

end Served

/-! ## Names that are the same -/

section

variable {table : Identifier} {columns : List Identifier}

/-- The names of indexes are different exactly if the slugs of their columns are. -/
theorem nodup_indexNames_iff : (columns.map (indexName table)).Nodup ↔
    columns.Pairwise fun first second => slug first.text ≠ slug second.text := by
  rw [List.Nodup, List.pairwise_map]
  exact iff_of_eq (congrArg (List.Pairwise · columns) (funext fun first => funext fun second =>
    congrArg Not (propext (indexName_eq_iff table first second))))

/-- All columns have an index of their own exactly if the names are different. -/
theorem indexed_eq_self_iff : indexed table columns = columns ↔ (columns.map (indexName table)).Nodup := by
  have served := Served.indexed table columns
  constructor
  · intro all
    rw [← all]
    exact served.apart
  · intro different
    have all : columns ⊆ indexed table columns := by
      intro column member
      rcases served.found column member with ⟨kept, keptMember, named, -⟩
      exact List.inj_on_of_nodup_map different (served.asked.subset keptMember) member named ▸ keptMember
    have same : (indexed table columns).Perm columns :=
      (List.perm_ext_iff_of_nodup (served.apart.of_map _) (different.of_map _)).mpr fun column =>
        ⟨fun member => served.asked.subset member, fun member => all member⟩
    exact served.asked.eq_of_length same.length_eq

/-- A column without an index of its own has the slug of an earlier column that has one. -/
theorem exists_earlier_of_not_indexed {column : Identifier} (member : column ∈ columns)
    (skipped : column ∉ indexed table columns) :
    ∃ kept ∈ indexed table columns, slug kept.text = slug column.text ∧
      columns.idxOf kept < columns.idxOf column := by
  have served := Served.indexed table columns
  rcases served.found column member with ⟨kept, keptMember, named, ordered⟩
  refine ⟨kept, keptMember, (indexName_eq_iff table kept column).mp named, ordered.lt_of_ne ?_⟩
  intro same
  have equal := (List.idxOf_inj (served.asked.subset keptMember)).mp same
  exact skipped (equal ▸ keptMember)

/-- Columns that are called by small letters, digits and underscores have different slugs. -/
theorem pairwise_slug_of_continuesBare (different : columns.Nodup)
    (plain : ∀ column ∈ columns, ∀ c ∈ column.text.toList, continuesBare c = true) :
    columns.Pairwise fun first second => slug first.text ≠ slug second.text := by
  refine different.imp_of_mem fun {first second} firstMember secondMember other same => ?_
  rw [slug_eq_self_iff.mpr (plain first firstMember), slug_eq_self_iff.mpr (plain second secondMember)]
    at same
  exact other (Identifier.text_injective same)

end

/-- A statement with indexes lists different columns, but some of the statements for indexes may
do nothing.  All columns have an index of their own exactly if the names of the indexes are
different, that is, if the slugs of the columns are; so it is where the columns are called by
small letters, digits and underscores.  Any other column has to share the index of an earlier
column with the same slug. -/
theorem indexes_are_skipped_by_slug {policy : Definition} {text : String}
    (written : policy.statementWithIndexes = .ok text) :
    ∃ table columns statement, policy.table = some table ∧ policy.indexedColumns = .ok columns ∧
      policy.statement = .ok statement ∧
      text = statement ++ String.join (columns.map (indexStatement table)) ∧ columns.Nodup ∧
      ((columns.map (indexName table)).Nodup ↔
        columns.Pairwise fun first second => slug first.text ≠ slug second.text) ∧
      ((∀ column ∈ columns, ∀ c ∈ column.text.toList, continuesBare c = true) →
        (columns.map (indexName table)).Nodup) ∧
      (indexed table columns = columns ↔ (columns.map (indexName table)).Nodup) ∧
      ∀ column ∈ columns, column ∉ indexed table columns →
        ∃ kept ∈ indexed table columns, slug kept.text = slug column.text ∧
          columns.idxOf kept < columns.idxOf column := by
  rcases Outcome.bind_eq_ok.mp written with ⟨placement, complete, rest⟩
  rcases Outcome.bind_eq_ok.mp rest with ⟨columns, listed, rest⟩
  rcases Outcome.bind_eq_ok.mp rest with ⟨statement, created, equal⟩
  have different : columns.Nodup := by
    rcases Outcome.bind_eq_ok.mp listed with ⟨conditions, -, rest⟩
    rcases Outcome.bind_eq_ok.mp rest with ⟨uses, -, equal⟩
    rw [← Outcome.eq_of_pure equal]
    exact (firstUses_distinct _).nodup
  exact ⟨placement.table, columns, statement, Definition.table_of_resolve complete, listed, created,
    (Outcome.eq_of_pure equal).symm, different, nodup_indexNames_iff,
    fun plain => nodup_indexNames_iff.mpr (pairwise_slug_of_continuesBare different plain),
    indexed_eq_self_iff, fun column member skipped => exists_earlier_of_not_indexed member skipped⟩

/-! ## Policies about two columns -/

/-- Both columns are to be missing. -/
def bothMissing (first second : Identifier) : Condition :=
  (Column.isNull ⟨first⟩).and [Column.isNull ⟨second⟩]

/-- A policy with this condition. -/
def missingPolicy (first second : Identifier) : Definition where
  name := ⟨"p", shows_p⟩
  table := some ⟨"t", shows_t, complete_t⟩
  command := some .select
  visible := some (bothMissing first second)

def missingPlacement (first second : Identifier) : Placement :=
  ⟨⟨"t", shows_t, complete_t⟩, .select, some (bothMissing first second), none⟩

section

variable (first second : Identifier)

theorem bothMissing_eq : bothMissing first second =
    .junction .all [.nullTest ⟨first⟩ false, .nullTest ⟨second⟩ false] :=
  rfl

theorem bothMissing_rendered : rendered (bothMissing first second).write =
    .ok (joined " AND " [first.render ++ " IS NULL", second.render ++ " IS NULL"]) := by
  have shallow : (bothMissing first second).depth ≤ depthLimit := by
    simp only [bothMissing_eq, Condition.depth, depthOfParts]
    decide
  refine rendered_write shallow ?_
  simp only [bothMissing_eq, Condition.render, renderParts]
  rfl

theorem missingPolicy_resolve :
    (missingPolicy first second).resolve = .ok (missingPlacement first second) :=
  rfl

theorem missingPolicy_searchable : (missingPolicy first second).Searchable := by
  intro placement complete condition member
  cases (missingPolicy_resolve first second).symm.trans complete
  cases List.mem_singleton.mp member
  simp only [bothMissing_eq, Condition.columnDepth, columnDepthOfParts]
  decide

theorem subjects_missingPlacement :
    (missingPlacement first second).subjects = [first, second].filter Identifier.isSimple := by
  simp only [Placement.subjects, missingPlacement, bothMissing_eq, Option.toList_some, Option.toList_none,
    List.append_nil, leavesOfParts, Condition.leaves]
  rfl

theorem missingPolicy_withIndexes : (missingPolicy first second).statementWithIndexes =
    .ok ((missingPolicy first second).opening (missingPlacement first second) ++
      clause "USING" (some (joined " AND " [first.render ++ " IS NULL", second.render ++ " IS NULL"])) ++
      clause "WITH CHECK" none ++ ";" ++
      String.join ((distinct [] ([first, second].filter Identifier.isSimple)).map
        (indexStatement ⟨"t", shows_t, complete_t⟩))) := by
  have complete := missingPolicy_resolve first second
  rw [Definition.statementWithIndexes_eq complete (missingPolicy_searchable first second),
    Definition.statement_of_shown complete
      (renderOptional_of_rendered (bothMissing_rendered first second)) rfl,
    subjects_missingPlacement]
  rfl

end

/-- Two columns with different slugs have an index each, although one of them is a capital. -/
theorem different_slugs_are_indexed :
    (missingPolicy ⟨"B", rfl, rfl⟩ ⟨"a", rfl, rfl⟩).statementWithIndexes =
      .ok ("CREATE POLICY \"p\" ON t\n  AS PERMISSIVE\n  FOR SELECT\n  USING (\"B\" IS NULL AND " ++
        "a IS NULL);\nCREATE INDEX IF NOT EXISTS idx_t_b ON t (\"B\");\n" ++
        "CREATE INDEX IF NOT EXISTS idx_t_a ON t (a);") ∧
    ∃ table columns, (missingPolicy ⟨"B", rfl, rfl⟩ ⟨"a", rfl, rfl⟩).table = some table ∧
      (missingPolicy ⟨"B", rfl, rfl⟩ ⟨"a", rfl, rfl⟩).indexedColumns = .ok columns ∧
      columns.map (indexName table) = ["idx_t_b", "idx_t_a"] ∧
      (columns.map (indexName table)).Nodup ∧ indexed table columns = columns := by
  have written := missingPolicy_withIndexes ⟨"B", rfl, rfl⟩ ⟨"a", rfl, rfl⟩
  rcases indexes_are_skipped_by_slug written with
    ⟨table, columns, statement, named, listed, -, -, -, bySlugs, -, all, -⟩
  cases named
  have uses : (missingPolicy ⟨"B", rfl, rfl⟩ ⟨"a", rfl, rfl⟩).indexedColumns =
      .ok [⟨"B", rfl, rfl⟩, ⟨"a", rfl, rfl⟩] := rfl
  cases uses.symm.trans listed
  have apart : slug "B" ≠ slug "a" := by decide
  have different := bySlugs.mpr (List.pairwise_pair.mpr apart)
  exact ⟨written, _, _, rfl, uses, rfl, different, all.mpr different⟩

/-- Two columns whose names differ in a capital are listed, and only the first one has an index. -/
theorem capitals_share_an_index : ∃ start : Definition, Definition.create "p" = .ok start ∧
    start.following [.on ⟨"t", shows_t, complete_t⟩, .governing .select,
      .whenVisible (bothMissing ⟨"A", rfl, rfl⟩ ⟨"a", rfl, rfl⟩)] =
        .ok (missingPolicy ⟨"A", rfl, rfl⟩ ⟨"a", rfl, rfl⟩) ∧
    (bothMissing ⟨"A", rfl, rfl⟩ ⟨"a", rfl, rfl⟩).Obtained ∧
    (missingPolicy ⟨"A", rfl, rfl⟩ ⟨"a", rfl, rfl⟩).indexedColumns =
      .ok [⟨"A", rfl, rfl⟩, ⟨"a", rfl, rfl⟩] ∧
    (missingPolicy ⟨"A", rfl, rfl⟩ ⟨"a", rfl, rfl⟩).statementWithIndexes =
      .ok ("CREATE POLICY \"p\" ON t\n  AS PERMISSIVE\n  FOR SELECT\n  USING (\"A\" IS NULL AND " ++
        "a IS NULL);\nCREATE INDEX IF NOT EXISTS idx_t_a ON t (\"A\");\n" ++
        "CREATE INDEX IF NOT EXISTS idx_t_a ON t (a);") ∧
    ¬([⟨"A", rfl, rfl⟩, ⟨"a", rfl, rfl⟩].map (indexName ⟨"t", shows_t, complete_t⟩)).Nodup ∧
    indexed ⟨"t", shows_t, complete_t⟩ [⟨"A", rfl, rfl⟩, ⟨"a", rfl, rfl⟩] = [⟨"A", rfl, rfl⟩] := by
  refine ⟨{ name := ⟨"p", shows_p⟩ }, rfl, rfl, ?_, rfl, ?_, by decide, rfl⟩
  · exact .and (List.cons_ne_nil _ _) (.isNull _) (List.forall_mem_singleton.mpr (.isNull _))
  · exact missingPolicy_withIndexes _ _

end Policy
end PolicyStudio
