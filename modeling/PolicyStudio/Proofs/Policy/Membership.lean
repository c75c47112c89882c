import PolicyStudio.Proofs.Policy.Bracketings
import PolicyStudio.Proofs.Policy.Vetted
import PolicyStudio.Script.Machine

/-!
# Memberships with and without a sub-query

Whether a column is among the keys of those rows of a table that belong to the subject can be
asked with the helper for it or with a sub-query that is put together by hand.  The helper
writes its text when it is called, and the sub-query is a tree that is written with the
condition around it.  The names are checked in both, and the texts are the same.

Nobody can tell conditions apart by their texts that agree as a whole and as parts of a
junction, and combinations of them agree again, by induction over the combination.  Only the
tree is nested deeper than the text of the helper, so that a combination can be too deep with
the one and not with the other.
-/

namespace PolicyStudio
namespace Policy

open Sql

/-! ## The two ways -/

/-- What the helper makes of checked names. -/
def membership (column table key member : Identifier) : Condition :=
  .within ⟨column⟩ (Column.membershipQuery table key member).operand

variable {name table key member : String}

/-- Building is refused only because something is malformed. -/
def RefusesMalformed {α : Type} (built : Built α) : Prop :=
  ∀ error, built = .error error → Script.errorKind error = .policyDefinition

namespace RefusesMalformed

variable {α β : Type}

theorem ok (value : α) : RefusesMalformed (.ok value) :=
  fun _ impossible => nomatch impossible

theorem bind {built : Built α} {next : α → Built β} (first : RefusesMalformed built)
    (second : ∀ value, RefusesMalformed (next value)) : RefusesMalformed (built >>= next) := by
  cases built with
  | error cause =>
    intro error refused
    cases refused
    exact first cause rfl
  | ok value => exact second value

theorem identifier (name : String) : RefusesMalformed (identifier name) := by
  intro error refused
  unfold Policy.identifier at refused
  split at refused <;> cases refused <;> rfl

theorem named (name : String) : RefusesMalformed (Column.named name) :=
  (identifier name).bind fun _ => ok _

end RefusesMalformed

/-- Two conditions have the same text or the same failure and the same columns.  One of them may
be nested deeper, by so many levels. -/
structure Alike (slack : Nat) (first second : Condition) : Prop where
  text : first.render = second.render
  columns : first.columns = second.columns
  columnDepth : first.columnDepth = second.columnDepth
  least : first.depth ≤ second.depth
  most : second.depth ≤ first.depth + slack
  junction : first.isJunction = second.isJunction

/-- The same of two lists of parts of junctions. -/
structure AlikeParts (slack : Nat) (first second : List Condition) : Prop where
  texts : renderParts first = renderParts second
  columns : columnsOfParts first = columnsOfParts second
  columnDepth : columnDepthOfParts first = columnDepthOfParts second
  least : depthOfParts first ≤ depthOfParts second
  most : depthOfParts second ≤ depthOfParts first + slack

/-- Two conditions are alike, and so are the parts that they bring into junctions. -/
structure Interchangeable (slack : Nat) (first second : Condition) : Prop where
  whole : Alike slack first second
  parts : ∀ connective, AlikeParts slack (first.partsFor connective) (second.partsFor connective)

theorem renderParts_append_eq (first second : List Condition) :
    renderParts (first ++ second) = do
      let pieces ← renderParts first
      let others ← renderParts second
      return pieces ++ others := by
  induction first with
  | nil =>
    rw [List.nil_append, renderParts]
    exact (bind_pure _).symm
  | cons part rest inductionHypothesis =>
    rw [List.cons_append, renderParts, renderParts, inductionHypothesis]
    simp only [bind_assoc, pure_bind, List.cons_append]

theorem depthOfParts_append (first second : List Condition) :
    depthOfParts (first ++ second) = max (depthOfParts first) (depthOfParts second) := by
  induction first with
  | nil => rw [List.nil_append, depthOfParts, Nat.zero_max]
  | cons part rest inductionHypothesis =>
    rw [List.cons_append, depthOfParts, depthOfParts, inductionHypothesis, Nat.max_assoc]

theorem columnDepthOfParts_append (first second : List Condition) :
    columnDepthOfParts (first ++ second) =
      max (columnDepthOfParts first) (columnDepthOfParts second) := by
  induction first with
  | nil => rw [List.nil_append, columnDepthOfParts, Nat.zero_max]
  | cons part rest inductionHypothesis =>
    rw [List.cons_append, columnDepthOfParts, columnDepthOfParts, inductionHypothesis,
      Nat.max_assoc]

namespace AlikeParts

variable {slack : Nat} {first second more others : List Condition}

theorem refl (slack : Nat) (parts : List Condition) : AlikeParts slack parts parts :=
  ⟨rfl, rfl, rfl, Nat.le_refl _, Nat.le_add_right _ _⟩

theorem append (front : AlikeParts slack first second) (back : AlikeParts slack more others) :
    AlikeParts slack (first ++ more) (second ++ others) where
  texts := by rw [renderParts_append_eq, renderParts_append_eq, front.texts, back.texts]
  columns := by rw [columnsOfParts_append, columnsOfParts_append, front.columns, back.columns]
  columnDepth := by
    rw [columnDepthOfParts_append, columnDepthOfParts_append, front.columnDepth, back.columnDepth]
  least := by
    have frontLeast := front.least
    have backLeast := back.least
    rw [depthOfParts_append, depthOfParts_append]
    omega
  most := by
    have frontMost := front.most
    have backMost := back.most
    rw [depthOfParts_append, depthOfParts_append]
    omega

/-- Junctions of parts that are alike are alike. -/
theorem junction (parts : AlikeParts slack first second) (connective : Connective) :
    Alike slack (.junction connective first) (.junction connective second) where
  text := by rw [Condition.render, Condition.render, parts.texts]
  columns := by rw [Condition.columns, Condition.columns, parts.columns]
  columnDepth := by rw [Condition.columnDepth, Condition.columnDepth, parts.columnDepth]
  least := by
    rw [Condition.depth, Condition.depth]
    exact Nat.add_le_add_left parts.least 1
  most := by
    rw [Condition.depth, Condition.depth, Nat.add_assoc]
    exact Nat.add_le_add_left parts.most 1
  junction := rfl

end AlikeParts

namespace Alike

variable {slack : Nat} {first second : Condition}

theorem single (alike : Alike slack first second) : AlikeParts slack [first] [second] where
  texts := by simp only [renderParts, alike.text, alike.junction]
  columns := by simp only [columnsOfParts, alike.columns]
  columnDepth := by simp only [columnDepthOfParts, alike.columnDepth]
  least := by simpa only [depthOfParts, Nat.max_zero] using alike.least
  most := by simpa only [depthOfParts, Nat.max_zero] using alike.most

/-- The text that is written differs only where one of the conditions is too deep. -/
theorem write (alike : Alike slack first second) : second.write = first.write ∨
    second.write = .error .tooDeep ∧ depthLimit < first.depth + slack := by
  rw [Condition.write, Condition.write, withinDepth, withinDepth, alike.text]
  by_cases deep : depthLimit < second.depth
  · exact .inr ⟨if_pos deep, Nat.lt_of_lt_of_le deep alike.most⟩
  · have shallow : ¬depthLimit < first.depth := fun deeper =>
      deep (Nat.lt_of_lt_of_le deeper alike.least)
    exact .inl (by rw [if_neg deep, if_neg shallow])

theorem listColumns (alike : Alike slack first second) : second.listColumns = first.listColumns := by
  rw [Condition.listColumns, Condition.listColumns, alike.columns, alike.columnDepth]

end Alike

namespace Interchangeable

variable {slack : Nat} {first second : Condition}

theorem refl (slack : Nat) (condition : Condition) : Interchangeable slack condition condition :=
  ⟨⟨rfl, rfl, rfl, Nat.le_refl _, Nat.le_add_right _ _, rfl⟩, fun _ => .refl slack _⟩

/-- Conditions that are no junctions bring themselves along. -/
theorem of_single (alike : Alike slack first second) (single : first.isJunction = false) :
    Interchangeable slack first second := by
  have alone : ∀ {condition : Condition}, condition.isJunction = false → ∀ connective,
      condition.partsFor connective = [condition] := by
    intro condition single connective
    cases condition with
    | junction => cases single
    | _ => rfl
  refine ⟨alike, fun connective => ?_⟩
  rw [alone single, alone (alike.junction ▸ single)]
  exact alike.single

theorem not (same : Interchangeable slack first second) :
    Interchangeable slack first.not second.not := by
  have whole := same.whole
  refine of_single ⟨?_, ?_, ?_, ?_, ?_, rfl⟩ rfl
  · rw [Condition.not, Condition.not, Condition.render, Condition.render, whole.text]
  · rw [Condition.not, Condition.not, Condition.columns, Condition.columns, whole.columns]
  · rw [Condition.not, Condition.not, Condition.columnDepth, Condition.columnDepth,
      whole.columnDepth]
  · rw [Condition.not, Condition.not, Condition.depth, Condition.depth]
    exact Nat.add_le_add_left whole.least 1
  · rw [Condition.not, Condition.not, Condition.depth, Condition.depth, Nat.add_assoc]
    exact Nat.add_le_add_left whole.most 1

/-- One call connects conditions that are interchangeable in pairs. -/
theorem connect {firsts seconds : List Condition} (connective : Connective)
    (pairs : List.Forall₂ (Interchangeable slack) firsts seconds) :
    Interchangeable slack (.connect connective firsts) (.connect connective seconds) := by
  have collected : AlikeParts slack (firsts.flatMap (Condition.partsFor connective))
      (seconds.flatMap (Condition.partsFor connective)) := by
    induction pairs with
    | nil => exact .refl slack []
    | cons same _ inductionHypothesis =>
      rw [List.flatMap_cons, List.flatMap_cons]
      exact (same.parts connective).append inductionHypothesis
  refine ⟨collected.junction connective, fun other => ?_⟩
  rw [Condition.connect, Condition.connect, Condition.partsFor, Condition.partsFor]
  split_ifs
  · exact collected
  · exact (collected.junction connective).single

end Interchangeable

/-! ## Combinations -/

/-- A combination of conditions in which one is left open. -/
inductive Combination where
  | gap
  | given (condition : Condition)
  | call (connective : Connective) (object argument : Combination) (more : List Combination)
  | denied (inner : Combination)

mutual

/-- What the calls return if the gap is filled. -/
def Combination.fill (filling : Condition) : Combination → Condition
  | .gap => filling
  | .given condition => condition
  | .call connective object argument more =>
    connective.call (object.fill filling) (argument.fill filling :: fillAll filling more)
  | .denied inner => (inner.fill filling).not

/-- What further arguments evaluate to. -/
def fillAll (filling : Condition) : List Combination → List Condition
  | [] => []
  | combination :: rest => combination.fill filling :: fillAll filling rest

end

mutual

/-- Conditions that can be interchanged can be interchanged in every combination. -/
theorem Combination.interchangeable {slack : Nat} {first second : Condition}
    (same : Interchangeable slack first second) : ∀ combination : Combination,
      Interchangeable slack (combination.fill first) (combination.fill second)
  | .gap => by
    rw [Combination.fill, Combination.fill]
    exact same
  | .given condition => by
    rw [Combination.fill, Combination.fill]
    exact .refl slack condition
  | .call connective object argument more => by
    rw [Combination.fill, Combination.fill, Connective.call_eq, Connective.call_eq]
    exact .connect connective (.cons (object.interchangeable same)
      (.cons (argument.interchangeable same) (interchangeableAll same more)))
  | .denied inner => by
    rw [Combination.fill, Combination.fill]
    exact (inner.interchangeable same).not

/-- The same holds of further arguments. -/
theorem interchangeableAll {slack : Nat} {first second : Condition}
    (same : Interchangeable slack first second) : ∀ more : List Combination,
      List.Forall₂ (Interchangeable slack) (fillAll first more) (fillAll second more)
  | [] => by
    rw [fillAll, fillAll]
    exact .nil
  | combination :: rest => by
    rw [fillAll, fillAll]
    exact .cons (combination.interchangeable same) (interchangeableAll same rest)

end

/-! ## The texts -/

section

variable (column table key member : Identifier)

end

end Policy
end PolicyStudio
