import PolicyStudio.Proofs.Policy.Bracketings
import PolicyStudio.Proofs.Policy.LastCalls
import PolicyStudio.Proofs.Sql.Paths

/-!
# Columns worth an index

The columns that are worth an index stand on the left of comparisons, null tests and
memberships.  `Condition.leaves` lists the conditions at the leaves of a tree from left to
right, and `Condition.subject?` is the column that a leaf is about; whatever stands to the
right of it, in a sub-query or in a call, is not looked at.  Of the subjects in the two
places of a policy each is listed once, where it is used first.

The statement with indexes is the one without, and one more line for each of these columns.
It fails where the other does, and in the same way.  The tree is searched by a recursion of
its own, which may be too deep where writing the same tree is not; then there are no indexes
and no statement with them.

The name of an index is made of slugs.  Whatever the table and the column are called, it
consists of small letters, digits and underscores, and it is none of the reserved words.
So it is an identifier that is written as it is.

The slug of a column can be read off the name of its index, and nothing else of the column.
Slugs forget capitals, marks and letters outside of the basic ones, and only a name that has
none of these is its own slug.
-/

namespace PolicyStudio

/-! ## Bare words are names -/

namespace Sql

theorem not_isBlank_of_startsBare {c : Char} (starts : startsBare c = true) :
    Text.isBlank c = false := by
  rw [startsBare, Bool.or_eq_true, Bool.and_eq_true, decide_eq_true_eq, decide_eq_true_eq,
    beq_iff_eq] at starts
  rcases starts with ⟨low, high⟩ | rfl
  · have low : 97 ≤ c.toNat := low
    have high : c.toNat ≤ 122 := high
    simp only [Text.isBlank, Bool.or_eq_false_iff, Bool.and_eq_false_iff, decide_eq_false_iff_not,
      beq_eq_false_iff_ne]
    omega
  · decide

theorem isBarePart_of_isBareWord {word : List Char} (bare : isBareWord word = true) :
    isBarePart word = true := by
  have plain := (Bool.and_eq_true_iff.mp bare).1
  have whole : lineOf word = word := by
    rcases eq_lineOf_or word with equal | fed
    · exact equal.symm
    · rw [fed, isWordOf_concat_feed] at plain
      cases plain
  rw [isBarePart, whole]
  exact bare

/-- The characters of a bare word continue bare words. -/
theorem continuesBare_of_isBareWord {word : List Char} (bare : isBareWord word = true) :
    ∀ c ∈ word, continuesBare c = true :=
  continuesBare_of_isWordOf (Bool.and_eq_true_iff.mp bare).1

end Sql

namespace Policy

open Sql

/-- A bare word is accepted as a name and written as it is. -/
theorem exists_identifier_of_isBareWord {s : String} (bare : isBareWord s.toList = true) :
    ∃ checked, identifier s = .ok checked ∧ checked.render = s := by
  have undotted : '.' ∉ s.toList := by
    intro dotted
    exact absurd (continuesBare_of_isBareWord bare '.' dotted) (by decide)
  have single : pathParts s = [s.toList] := Text.cutAt_eq_singleton undotted
  have plain := (Bool.and_eq_true_iff.mp bare).1
  rcases identifier_cases s with ⟨blank, -⟩ | ⟨-, missing, -⟩ | ⟨checked, accepted, text, -, -⟩
  · cases letters : s.toList with
    | nil =>
      rw [letters] at plain
      cases plain
    | cons first rest =>
      rw [letters, isWordOf, Bool.and_eq_true] at plain
      rw [Text.blank, letters, List.all_cons, not_isBlank_of_startsBare plain.1] at blank
      cases blank
  · rw [single, List.mem_singleton] at missing
    rw [← missing] at plain
    cases plain
  · refine ⟨checked, accepted, ?_⟩
    rw [Identifier.render, text, single, List.map_singleton, joinDots, renderPart,
      if_pos (isBarePart_of_isBareWord bare), String.ofList_toList]

/-! ## Index names are bare words -/

theorem indexName_toList (table column : Identifier) : (indexName table column).toList =
    'i' :: ("dx_".toList ++ ((slug table.text).toList ++ ('_' :: (slug column.text).toList))) := by
  simp only [indexName, String.toList_append, List.append_assoc]
  rfl

theorem prefix_indexName (table column : Identifier) :
    "idx_".toList <+: (indexName table column).toList := by
  rw [indexName_toList]
  exact ⟨_, rfl⟩

/-- The name of an index has only small letters, digits and underscores and is not reserved. -/
theorem isBareWord_indexName (table column : Identifier) :
    isBareWord (indexName table column).toList = true := by
  have unlisted : ∀ word ∈ reservedWords, ¬"idx_".toList <+: word.toList := by decide
  have free : String.ofList (indexName table column).toList ∉ reservedWords := by
    intro listed
    rw [String.ofList_toList] at listed
    exact unlisted _ listed (prefix_indexName table column)
  have plain : isWordOf startsBare continuesBare (indexName table column).toList = true := by
    have slugs : ∀ name, (slug name).toList.all continuesBare = true :=
      fun name => List.all_eq_true.mpr continuesBare_of_mem_slug
    rw [indexName_toList, isWordOf, List.all_append, List.all_append, List.all_cons, slugs, slugs]
    rfl
  rw [isBareWord, plain, Bool.true_and, Bool.not_eq_true', List.contains_eq_mem,
    decide_eq_false_iff_not]
  exact free

/-! ## Slugs -/

/-- Small letters, digits and underscores are the same in lower case. -/
theorem lowerChar_of_continuesBare {c : Char} (bare : continuesBare c = true) :
    Text.lowerChar c = [c] := by
  have ranges : (97 ≤ c.toNat ∧ c.toNat ≤ 122) ∨ c.toNat = 95 ∨ (48 ≤ c.toNat ∧ c.toNat ≤ 57) := by
    rw [continuesBare, startsBare, Bool.or_eq_true, Bool.or_eq_true, Bool.and_eq_true,
      Bool.and_eq_true, decide_eq_true_eq, decide_eq_true_eq, decide_eq_true_eq, decide_eq_true_eq,
      beq_iff_eq, or_assoc] at bare
    exact bare.imp_right (Or.imp_left (congrArg Char.toNat))
  have small : ¬(c.val ≥ 'A'.val ∧ c.val ≤ 'Z'.val) := by
    rw [ge_iff_le, UInt32.le_iff_toNat_le, UInt32.le_iff_toNat_le]
    change ¬(65 ≤ c.toNat ∧ c.toNat ≤ 90)
    omega
  have basic : c.toNat < 0x80 := by omega
  have same : c.toLower = c := dif_neg small
  rw [Text.lowerChar, if_pos basic, same]

theorem slugFrom_eq_self {cs : List Char} (bare : ∀ c ∈ cs, continuesBare c = true) (inRun : Bool) :
    slugFrom inRun cs = cs := by
  induction cs generalizing inRun with
  | nil => rfl
  | cons first rest inductionHypothesis =>
    rw [List.forall_mem_cons] at bare
    rw [slugFrom, if_pos bare.1, inductionHypothesis bare.2]

/-- A name of small letters, digits and underscores is its own slug, and no other name is. -/
theorem slug_eq_self_iff {name : String} :
    slug name = name ↔ ∀ c ∈ name.toList, continuesBare c = true := by
  constructor
  · intro same
    rw [← same]
    exact continuesBare_of_mem_slug
  · intro bare
    have lowered : name.toList.flatMap Text.lowerChar = name.toList := by
      rw [List.flatMap_congr fun c member => lowerChar_of_continuesBare (bare c member)]
      exact List.flatMap_singleton' _
    rw [slug, Text.lower, String.toList_ofList, lowered, slugFrom_eq_self bare, String.ofList_toList]

/-- The names of two indexes on a table are the same exactly if the slugs of their columns are. -/
theorem indexName_eq_iff (table first second : Identifier) :
    indexName table first = indexName table second ↔ slug first.text = slug second.text := by
  rw [← String.toList_inj, indexName_toList, indexName_toList, List.cons_inj_right,
    List.append_cancel_left_eq, List.append_cancel_left_eq, List.cons_inj_right, String.toList_inj]

/-! ## Leaves -/

mutual

/-- The conditions at the leaves of a tree of junctions and negations, from left to right. -/
def Condition.leaves : Condition → List Condition
  | .junction _ parts => leavesOfParts parts
  | .negation inner => inner.leaves
  | leaf => [leaf]

/-- The leaves of several trees, one after the other. -/
def leavesOfParts : List Condition → List Condition
  | [] => []
  | part :: rest => part.leaves ++ leavesOfParts rest

end

/-- The column that a leaf is about: the one on the left of a comparison, a null test or a
membership. -/
def Condition.subject? : Condition → Option Identifier
  | .comparison column _ _ | .nullTest column _ | .among column _ | .within column _ =>
    some column.name
  | .junction .. | .negation _ | .predicate _ | .functionCall .. | .unwritten => none

mutual

/-- The columns of a condition are the subjects of its leaves. -/
theorem Condition.columns_eq : ∀ condition : Condition,
    condition.columns = condition.leaves.filterMap Condition.subject?
  | .junction _ parts => by
    rw [Condition.columns, Condition.leaves, columnsOfParts_eq parts]
  | .negation inner => by
    rw [Condition.columns, Condition.leaves, inner.columns_eq]
  | .comparison .. | .nullTest .. | .among .. | .within .. | .predicate _ | .functionCall ..
  | .unwritten => by
    rw [Condition.columns, Condition.leaves]
    · rfl
    all_goals exact nofun

theorem columnsOfParts_eq : ∀ parts : List Condition,
    columnsOfParts parts = (leavesOfParts parts).filterMap Condition.subject?
  | [] => by rw [columnsOfParts, leavesOfParts, List.filterMap_nil]
  | part :: rest => by
    rw [columnsOfParts, leavesOfParts, List.filterMap_append, part.columns_eq, columnsOfParts_eq rest]

end

/-! ## First uses -/

/-- The members of a list, each of them once, in the order of their first uses. -/
structure FirstUses {α : Type} [DecidableEq α] (uses firsts : List α) : Prop where
  nodup : firsts.Nodup
  mem_iff : ∀ x, x ∈ firsts ↔ x ∈ uses
  inOrder : firsts.Pairwise fun x y => uses.idxOf x < uses.idxOf y

section

variable {α : Type} [DecidableEq α]

theorem mem_distinct {seen uses : List α} {x : α} :
    x ∈ distinct seen uses ↔ x ∈ uses ∧ x ∉ seen := by
  induction uses generalizing seen with
  | nil => exact ⟨fun impossible => (nomatch impossible), fun impossible => (nomatch impossible.1)⟩
  | cons first rest inductionHypothesis =>
    rw [distinct]
    split_ifs with before
    · have before : first ∈ seen := List.contains_iff_mem.mp before
      rw [inductionHypothesis, List.mem_cons]
      refine and_congr_left fun fresh => ⟨Or.inr, fun used => used.resolve_left ?_⟩
      rintro rfl
      exact fresh before
    · have before : first ∉ seen := mt List.contains_iff_mem.mpr before
      rw [List.mem_cons, inductionHypothesis, List.mem_cons, List.mem_cons, not_or]
      constructor
      · rintro (rfl | ⟨used, -, fresh⟩)
        · exact ⟨Or.inl rfl, before⟩
        · exact ⟨Or.inr used, fresh⟩
      · rintro ⟨used, fresh⟩
        by_cases same : x = first
        · exact Or.inl same
        · exact Or.inr ⟨used.resolve_left same, same, fresh⟩

theorem pairwise_distinct (seen uses : List α) :
    (distinct seen uses).Pairwise fun x y => uses.idxOf x < uses.idxOf y := by
  induction uses generalizing seen with
  | nil => exact List.Pairwise.nil
  | cons first rest inductionHypothesis =>
    -- Members other than the first one are found one place further on.
    have later : ∀ {members : List α}, first ∉ members →
        (members.Pairwise fun x y => rest.idxOf x < rest.idxOf y) →
        members.Pairwise fun x y => (first :: rest).idxOf x < (first :: rest).idxOf y := by
      intro members absent ordered
      refine ordered.imp_of_mem fun {x y} xMember yMember before => ?_
      have xOther : first ≠ x := fun same => absent (same ▸ xMember)
      have yOther : first ≠ y := fun same => absent (same ▸ yMember)
      rw [List.idxOf_cons_ne _ xOther, List.idxOf_cons_ne _ yOther]
      exact Nat.succ_lt_succ before
    rw [distinct]
    split_ifs with before
    · refine later (fun member => ?_) (inductionHypothesis seen)
      exact (mem_distinct.mp member).2 (List.contains_iff_mem.mp before)
    · have absent : first ∉ distinct (first :: seen) rest :=
        fun member => (mem_distinct.mp member).2 List.mem_cons_self
      refine List.pairwise_cons.mpr ⟨fun x member => ?_, later absent (inductionHypothesis _)⟩
      have other : first ≠ x := fun same => absent (same ▸ member)
      rw [List.idxOf_cons_self, List.idxOf_cons_ne _ other]
      exact Nat.succ_pos _

theorem firstUses_distinct (uses : List α) : FirstUses uses (distinct [] uses) where
  nodup := (pairwise_distinct [] uses).imp fun before => ne_of_apply_ne uses.idxOf before.ne
  mem_iff _ := mem_distinct.trans (and_iff_left List.not_mem_nil)
  inOrder := pairwise_distinct [] uses

/-- There is only one list of first uses. -/
theorem firstUses_iff {uses firsts : List α} : FirstUses uses firsts ↔ firsts = distinct [] uses := by
  constructor
  · intro found
    have expected := firstUses_distinct uses
    have same : firsts.Perm (distinct [] uses) :=
      (List.perm_ext_iff_of_nodup found.nodup expected.nodup).mpr fun x =>
        (found.mem_iff x).trans (expected.mem_iff x).symm
    exact same.eq_of_pairwise (fun x y _ _ before after => absurd before (Nat.lt_asymm after))
      found.inOrder expected.inOrder
  · rintro rfl
    exact firstUses_distinct uses

end

/-! ## The columns of a policy -/

/-- The columns without a table that the leaves in the two places are about. -/
def Placement.subjects (placement : Placement) : List Identifier :=
  ((leavesOfParts (placement.filter.toList ++ placement.check.toList)).filterMap
    Condition.subject?).filter Identifier.isSimple

namespace Definition

variable {policy : Definition} {placement : Placement}

/-- The conditions in the places of the policy are not nested too deep to be searched. -/
def Searchable (policy : Definition) : Prop :=
  ∀ placement, policy.resolve = .ok placement →
    ∀ condition ∈ placement.filter.toList ++ placement.check.toList, condition.columnDepth ≤ depthLimit

theorem mapM_listColumns {conditions : List Condition}
    (shallow : ∀ condition ∈ conditions, condition.columnDepth ≤ depthLimit) :
    ∃ columns, (conditions.mapM fun condition => rendered condition.listColumns) = .ok columns ∧
      columns.flatten = columnsOfParts conditions := by
  induction conditions with
  | nil => exact ⟨[], rfl, by rw [columnsOfParts, List.flatten_nil]⟩
  | cons condition rest inductionHypothesis =>
    rw [List.forall_mem_cons] at shallow
    rcases inductionHypothesis shallow.2 with ⟨others, listed, equal⟩
    have first : rendered condition.listColumns = .ok condition.columns := by
      rw [Condition.listColumns, withinDepth_of_le shallow.1]
      rfl
    refine ⟨_, Outcome.mapM_cons_eq_ok.mpr ⟨_, others, first, listed, rfl⟩, ?_⟩
    rw [List.flatten_cons, equal, columnsOfParts]

/-- What keeps a policy from being complete also keeps it from having statements or columns. -/
theorem of_refused {cause : DefinitionError} (refused : policy.resolve = .error cause) :
    policy.statement = .error cause ∧ policy.statementWithIndexes = .error cause ∧
      policy.indexedColumns = .error cause := by
  refine ⟨?_, ?_, ?_⟩
  · rw [statement, refused]
    rfl
  · rw [statementWithIndexes, refused]
    rfl
  · rw [indexedColumns, conditions, refused]
    rfl

/-- The columns of a complete policy are the first uses of its subjects. -/
theorem indexedColumns_eq (complete : policy.resolve = .ok placement)
    (searchable : policy.Searchable) :
    policy.indexedColumns = .ok (distinct [] placement.subjects) := by
  rcases mapM_listColumns (searchable placement complete) with ⟨columns, listed, equal⟩
  refine indexedColumns_eq_ok.mpr ⟨placement, columns, complete, listed, ?_⟩
  rw [equal, columnsOfParts_eq]
  rfl

/-- The statements for indexes go behind the statement, if there is one. -/
theorem statementWithIndexes_eq (complete : policy.resolve = .ok placement)
    (searchable : policy.Searchable) :
    policy.statementWithIndexes = policy.statement.map fun text =>
      text ++ String.join ((distinct [] placement.subjects).map (indexStatement placement.table)) := by
  rw [statementWithIndexes, complete, indexedColumns_eq complete searchable]
  cases policy.statement <;> rfl

end Definition

/-- The statement with indexes fails where the one without fails, in the same way.  Otherwise it
is that statement and a line for each indexed column, with a name for the index that is never
quoted, whatever the table and the column are called.  The indexed columns are the columns
without a table that the leaves of the filter and then of the check are about, each at its first
use.  All this holds of conditions that are not nested too deep to be searched. -/
theorem indexes_follow_the_statement {policy : Definition} (searchable : policy.Searchable) :
    (∀ error, policy.statementWithIndexes = .error error ↔ policy.statement = .error error) ∧
    (∀ text, policy.statement = .ok text → ∃ table columns, policy.table = some table ∧
      policy.indexedColumns = .ok columns ∧
      policy.statementWithIndexes = .ok (text ++ String.join (columns.map fun column =>
        "\nCREATE INDEX IF NOT EXISTS " ++ indexName table column ++ " ON " ++ table.render ++
          " (" ++ column.render ++ ");"))) ∧
    (∀ table column, "idx_".toList <+: (indexName table column).toList ∧
      isBareWord (indexName table column).toList = true ∧
      ∃ checked, identifier (indexName table column) = .ok checked ∧
        checked.render = indexName table column) ∧
    (∀ error, policy.indexedColumns = .error error ↔ policy.resolve = .error error) ∧
    ∀ placement, policy.resolve = .ok placement → ∀ columns,
      policy.indexedColumns = .ok columns ↔ FirstUses placement.subjects columns := by
  refine ⟨fun error => ?_, fun text written => ?_, fun table column => ?_, fun error => ?_,
    fun placement complete columns => ?_⟩
  · cases complete : policy.resolve with
    | error cause =>
      rcases Definition.of_refused complete with ⟨statement, withIndexes, -⟩
      rw [statement, withIndexes]
    | ok placement =>
      rw [Definition.statementWithIndexes_eq complete searchable]
      cases policy.statement with
      | error cause => rfl
      | ok text => exact iff_of_false nofun nofun
  · rcases Outcome.bind_eq_ok.mp written with ⟨placement, complete, -⟩
    refine ⟨placement.table, _, Definition.table_of_resolve complete,
      Definition.indexedColumns_eq complete searchable, ?_⟩
    rw [Definition.statementWithIndexes_eq complete searchable, written]
    rfl
  · have bare := isBareWord_indexName table column
    exact ⟨prefix_indexName table column, bare, exists_identifier_of_isBareWord bare⟩
  · cases complete : policy.resolve with
    | error cause =>
      rw [(Definition.of_refused complete).2.2]
      exact ⟨congrArg _ ∘ Except.error.inj, congrArg _ ∘ Except.error.inj⟩
    | ok placement =>
      rw [Definition.indexedColumns_eq complete searchable]
      exact iff_of_false nofun nofun
  · rw [Definition.indexedColumns_eq complete searchable, firstUses_iff]
    exact ⟨fun equal => (Except.ok.inj equal).symm, fun equal => congrArg Except.ok equal.symm⟩

/-! ## A policy with columns in all places -/

/-- The owner is not the writer, no organization is named, and the project is not hidden. -/
def crowdedFilter : Condition :=
  .junction .all [.negation (.comparison ⟨⟨"Owner", rfl, rfl⟩⟩ .equal (.column ⟨⟨"writer", rfl, rfl⟩⟩)),
    .nullTest ⟨⟨"t.org", rfl, rfl⟩⟩ false,
    .within ⟨⟨"project", rfl, rfl⟩⟩ (.query (.mk ⟨"projects", rfl, rfl⟩ [⟨"project", rfl, rfl⟩] []
      (some (.nullTest ⟨⟨"hidden", rfl, rfl⟩⟩ false))))]

/-- There is an owner, or something holds of another column. -/
def crowdedCheck : Condition :=
  .junction .any [.nullTest ⟨⟨"Owner", rfl, rfl⟩⟩ true,
    .functionCall ⟨"f", rfl⟩ [.column ⟨⟨"other", rfl, rfl⟩⟩]]

/-- A policy for updates of a table whose name is quoted. -/
def crowdedPolicy : Definition where
  name := ⟨"p", shows_p⟩
  table := some ⟨"Tasks", rfl, rfl⟩
  command := some .update
  visible := some crowdedFilter
  written := some crowdedCheck

def crowdedPlacement : Placement :=
  ⟨⟨"Tasks", rfl, rfl⟩, .update, some crowdedFilter, some crowdedCheck⟩

/-- The statement of the policy without indexes. -/
def crowdedText : String :=
  "CREATE POLICY \"p\" ON \"Tasks\"\n  AS PERMISSIVE\n  FOR UPDATE\n  USING (NOT (\"Owner\" = " ++
    "writer) AND t.org IS NULL AND project IN (SELECT project FROM projects WHERE hidden IS NULL))\n" ++
    "  WITH CHECK (\"Owner\" IS NOT NULL OR f(other));"

theorem render_column (column : Column) : (Operand.column column).render = .ok column.render := by
  unfold Operand.render
  rfl

theorem crowdedFilter_render : crowdedFilter.render = .ok ("NOT (\"Owner\" = writer) AND " ++
    "t.org IS NULL AND project IN (SELECT project FROM projects WHERE hidden IS NULL)") := by
  simp only [crowdedFilter, Condition.render, renderParts, render_column, Subquery.render, renderJoins,
    renderFilter]
  rfl

theorem crowdedCheck_render : crowdedCheck.render = .ok "\"Owner\" IS NOT NULL OR f(other)" := by
  simp only [crowdedCheck, Condition.render, renderParts, renderList, renderOperands, render_column]
  rfl

theorem rendered_write {condition : Condition} {text : String} (shallow : condition.depth ≤ depthLimit)
    (written : condition.render = .ok text) : rendered condition.write = .ok text := by
  rw [Condition.write, withinDepth_of_le shallow, written]
  rfl

theorem crowdedPolicy_resolve : crowdedPolicy.resolve = .ok crowdedPlacement := rfl

set_option maxRecDepth 2000 in
theorem crowdedPolicy_statement : crowdedPolicy.statement = .ok crowdedText := by
  rw [Definition.statement_of_shown crowdedPolicy_resolve
    (renderOptional_of_rendered (rendered_write (by decide) crowdedFilter_render))
    (renderOptional_of_rendered (rendered_write (by decide) crowdedCheck_render))]
  rfl

theorem crowdedPolicy_searchable : crowdedPolicy.Searchable := by
  intro placement complete
  have complete : crowdedPlacement = placement := Except.ok.inj complete
  subst complete
  decide

set_option maxRecDepth 2000 in
/-- The column that is used in both places is listed once.  Columns with a table in front are not
listed, nor are those in the sub-query, in the call or on the right of the comparison. -/
theorem crowded_policy_has_two_indexes :
    crowdedPolicy.Searchable ∧ crowdedPolicy.statement = .ok crowdedText ∧
      crowdedPolicy.indexedColumns = .ok [⟨"Owner", rfl, rfl⟩, ⟨"project", rfl, rfl⟩] ∧
      crowdedPolicy.statementWithIndexes = .ok (crowdedText ++
        "\nCREATE INDEX IF NOT EXISTS idx_tasks_owner ON \"Tasks\" (\"Owner\");" ++
        "\nCREATE INDEX IF NOT EXISTS idx_tasks_project ON \"Tasks\" (project);") := by
  rcases indexes_follow_the_statement crowdedPolicy_searchable with ⟨-, written, -, -, listed⟩
  have subjects : crowdedPlacement.subjects =
      [⟨"Owner", rfl, rfl⟩, ⟨"project", rfl, rfl⟩, ⟨"Owner", rfl, rfl⟩] := by
    decide
  have columns : crowdedPolicy.indexedColumns = .ok [⟨"Owner", rfl, rfl⟩, ⟨"project", rfl, rfl⟩] := by
    refine (listed crowdedPlacement rfl _).mpr ?_
    rw [subjects, firstUses_iff]
    rfl
  rcases written crowdedText crowdedPolicy_statement with ⟨table, indexed, named, found, text⟩
  cases named
  cases columns.symm.trans found
  exact ⟨crowdedPolicy_searchable, crowdedPolicy_statement, columns, text⟩

/-! ## A condition that is too deep to be searched -/

/-- A condition with an alternative and a further demand, added so many times. -/
def stairs : Nat → Condition
  | 0 => firstCondition
  | count + 1 => ((stairs count).or [alwaysTrue]).and [alwaysTrue]

/-- A policy with such a condition. -/
def stairsPolicy (count : Nat) : Definition where
  name := ⟨"p", shows_p⟩
  table := some ⟨"t", shows_t, complete_t⟩
  command := some .select
  visible := some (stairs count)

theorem stairs_succ (count : Nat) :
    stairs (count + 1) = .junction .all [.junction .any [stairs count, alwaysTrue], alwaysTrue] := by
  cases count <;> rfl

theorem stairs_obtained (count : Nat) : (stairs count).Obtained := by
  have given : ∀ other ∈ [alwaysTrue], other.Obtained := List.forall_mem_singleton.mpr .alwaysTrue
  have nonempty : [alwaysTrue] ≠ [] := List.cons_ne_nil _ _
  induction count with
  | zero => exact .isNull _
  | succ count inductionHypothesis => exact .and nonempty (.or nonempty inductionHypothesis given) given

/-- Writing goes one step deeper for each junction, and searching two. -/
theorem depths_stairs (count : Nat) :
    (stairs count).depth = 2 * count + 1 ∧ (stairs count).columnDepth = 4 * count + 1 := by
  induction count with
  | zero => exact ⟨rfl, rfl⟩
  | succ count inductionHypothesis =>
    simp only [stairs_succ, alwaysTrue, Condition.depth, depthOfParts, Condition.columnDepth,
      columnDepthOfParts, inductionHypothesis]
    omega

theorem exists_render_stairs (count : Nat) : ∃ text, (stairs count).render = .ok text := by
  induction count with
  | zero => exact ⟨_, firstCondition_render⟩
  | succ count inductionHypothesis =>
    rcases inductionHypothesis with ⟨text, written⟩
    simp only [stairs_succ, alwaysTrue, Condition.render, renderParts, written]
    exact ⟨_, rfl⟩

theorem stairsPolicy_resolve (count : Nat) : (stairsPolicy count).resolve =
    .ok ⟨⟨"t", shows_t, complete_t⟩, .select, some (stairs count), none⟩ :=
  rfl

theorem exists_stairsPolicy_statement (count : Nat) (shallow : 2 * count + 1 ≤ depthLimit) :
    ∃ text, (stairsPolicy count).statement = .ok text := by
  rcases exists_render_stairs count with ⟨text, written⟩
  rw [← (depths_stairs count).1] at shallow
  exact ⟨_, Definition.statement_of_shown (stairsPolicy_resolve count)
    (renderOptional_of_rendered (rendered_write shallow written)) rfl⟩

theorem stairsPolicy_withIndexes (count : Nat) (deep : depthLimit < 4 * count + 1) :
    (stairsPolicy count).statementWithIndexes = .error (.render .tooDeep) := by
  rw [← (depths_stairs count).2] at deep
  have unlisted : (stairs count).listColumns = .error .tooDeep := by
    rw [Condition.listColumns, withinDepth, if_pos deep]
  have conditions : (stairsPolicy count).conditions = pure [stairs count] := rfl
  have columns : (stairsPolicy count).indexedColumns = .error (.render .tooDeep) := by
    rw [Definition.indexedColumns, conditions, pure_bind, List.mapM_cons, unlisted]
    rfl
  rw [Definition.statementWithIndexes, stairsPolicy_resolve, columns]
  rfl

/-- A statement is written, and with indexes it is not, since the condition is too deep to be
searched. -/
theorem stairs_have_no_indexes : ∃ start : Definition, Definition.create "p" = .ok start ∧
    start.following [.on ⟨"t", shows_t, complete_t⟩, .governing .select, .whenVisible (stairs 440)] =
      .ok (stairsPolicy 440) ∧
    (stairs 440).Obtained ∧ (∃ text, (stairsPolicy 440).statement = .ok text) ∧
    (stairsPolicy 440).statementWithIndexes = .error (.render .tooDeep) ∧
    ¬∀ error, (stairsPolicy 440).statementWithIndexes = .error error ↔
      (stairsPolicy 440).statement = .error error := by
  rcases exists_stairsPolicy_statement 440 (by decide) with ⟨text, written⟩
  have refused := stairsPolicy_withIndexes 440 (by decide)
  refine ⟨{ name := ⟨"p", shows_p⟩ }, rfl, rfl, stairs_obtained 440, ⟨text, written⟩, refused, ?_⟩
  intro alike
  cases written.symm.trans ((alike _).mp refused)

end Policy
end PolicyStudio
