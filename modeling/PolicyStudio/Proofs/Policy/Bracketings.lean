import Mathlib.Data.List.Forall2
import PolicyStudio.Proofs.Policy.Placing
import PolicyStudio.Proofs.Policy.Reading

/-!
# Brackets that do not matter

Several conditions can be connected in the same way by one call or by many, from the left,
from the right or in groups.  Each call takes the parts of the operands that are connected
as it connects, and only one level of them.  That is enough: what an operand brings along
was already collected when the operand was made, so by induction over the brackets every
way of connecting ends in one junction, with the same parts in the same order.

The text of this junction shows the conditions one after the other.  Parentheses are put
around those that are connected in the other way, and around no others.
-/

namespace PolicyStudio
namespace Policy

open Sql

/-! ## Ways of connecting -/

/-- Call the method that connects a condition with others. -/
def Connective.call : Connective → Condition → List Condition → Condition
  | .all, first, others => first.and others
  | .any, first, others => first.or others

theorem Connective.call_eq (connective : Connective) (first : Condition) (others : List Condition) :
    connective.call first others = .connect connective (first :: others) := by
  cases connective <;> rfl

/-- A way of connecting conditions: a condition as it is, or a call on something that was
connected before, with one or more arguments that were. -/
inductive Bracketing where
  | single (condition : Condition)
  | call (object argument : Bracketing) (more : List Bracketing)

mutual

/-- The conditions that are connected, from left to right. -/
def Bracketing.conditions : Bracketing → List Condition
  | .single condition => [condition]
  | .call object argument more =>
    object.conditions ++ (argument.conditions ++ conditionsOfAll more)

/-- The conditions in further arguments. -/
def conditionsOfAll : List Bracketing → List Condition
  | [] => []
  | bracketing :: rest => bracketing.conditions ++ conditionsOfAll rest

end

mutual

/-- What the calls return if all of them connect in the same way. -/
def Bracketing.connected (connective : Connective) : Bracketing → Condition
  | .single condition => condition
  | .call object argument more =>
    connective.call (object.connected connective)
      (argument.connected connective :: connectedAll connective more)

/-- What further arguments evaluate to. -/
def connectedAll (connective : Connective) : List Bracketing → List Condition
  | [] => []
  | bracketing :: rest => bracketing.connected connective :: connectedAll connective rest

end

/-! ## The parts -/

/-- A junction brings all its parts into another one of its kind. -/
theorem Condition.partsFor_connect (connective : Connective) (conditions : List Condition) :
    (connect connective conditions).partsFor connective =
      conditions.flatMap (partsFor connective) := by
  rw [connect, partsFor, if_pos rfl]

/-- A call on what a call of the same kind returned adds its arguments to those of the first. -/
theorem Condition.connect_connect (connective : Connective) (conditions others : List Condition) :
    connect connective (connect connective conditions :: others) =
      connect connective (conditions ++ others) := by
  rw [connect, List.flatMap_cons, partsFor_connect, connect, List.flatMap_append]

mutual

/-- Whatever the brackets are, what is connected brings the parts of its conditions along. -/
theorem Bracketing.partsFor_connected (connective : Connective) : ∀ bracketing : Bracketing,
    (bracketing.connected connective).partsFor connective =
      bracketing.conditions.flatMap (Condition.partsFor connective)
  | .single condition => by
    rw [Bracketing.connected, Bracketing.conditions, List.flatMap_cons, List.flatMap_nil,
      List.append_nil]
  | .call object argument more => by
    rw [Bracketing.connected, Connective.call_eq, Condition.partsFor_connect, List.flatMap_cons,
      List.flatMap_cons, object.partsFor_connected connective, argument.partsFor_connected connective,
      flatMap_connectedAll connective more, Bracketing.conditions, List.flatMap_append,
      List.flatMap_append]

/-- The same holds of further arguments. -/
theorem flatMap_connectedAll (connective : Connective) : ∀ more : List Bracketing,
    (connectedAll connective more).flatMap (Condition.partsFor connective) =
      (conditionsOfAll more).flatMap (Condition.partsFor connective)
  | [] => by rw [connectedAll, conditionsOfAll]
  | bracketing :: rest => by
    rw [connectedAll, List.flatMap_cons, bracketing.partsFor_connected connective,
      flatMap_connectedAll connective rest, conditionsOfAll, List.flatMap_append]

end

/-- Brackets around two or more conditions can be removed. -/
theorem Bracketing.connected_eq (connective : Connective) {bracketing : Bracketing}
    {first second : Condition} {rest : List Condition}
    (inOrder : bracketing.conditions = first :: second :: rest) :
    bracketing.connected connective = connective.call first (second :: rest) := by
  cases bracketing with
  | single condition =>
    rw [conditions] at inOrder
    cases inOrder
  | call object argument more =>
    have parts := (Bracketing.call object argument more).partsFor_connected connective
    rw [connected, Connective.call_eq, Condition.partsFor_connect, inOrder] at parts
    rw [connected, Connective.call_eq, Connective.call_eq, Condition.connect, Condition.connect, parts]

/-! ## Columns and texts -/

/-- The parts that a condition brings along are searched for the columns of the condition. -/
theorem Condition.columnsOfParts_partsFor (connective : Connective) (condition : Condition) :
    columnsOfParts (condition.partsFor connective) = condition.columns := by
  have alone : columnsOfParts [condition] = condition.columns := by
    rw [columnsOfParts, columnsOfParts, List.append_nil]
  cases condition with
  | junction own parts =>
    rw [partsFor]
    split_ifs
    · rw [columns]
    · exact alone
  | _ => exact alone

theorem columnsOfParts_append (first second : List Condition) :
    columnsOfParts (first ++ second) = columnsOfParts first ++ columnsOfParts second := by
  induction first with
  | nil => rfl
  | cons part rest inductionHypothesis =>
    rw [List.cons_append, columnsOfParts, columnsOfParts, inductionHypothesis, List.append_assoc]

/-- The columns of a junction are those of the conditions that were connected. -/
theorem Condition.columns_connect (connective : Connective) (conditions : List Condition) :
    (connect connective conditions).columns = conditions.flatMap Condition.columns := by
  rw [connect, columns]
  induction conditions with
  | nil => rfl
  | cons condition rest inductionHypothesis =>
    rw [List.flatMap_cons, List.flatMap_cons, columnsOfParts_append, columnsOfParts_partsFor,
      inductionHypothesis]

/-- The text of a condition among others that are connected in a certain way: in parentheses if
it is a junction of the other kind. -/
def Condition.amongOthers (connective : Connective) (condition : Condition) (text : String) : String :=
  match condition with
  | .junction own _ => if own = connective then text else parenthesized text
  | _ => text

theorem joined_append (separator : String) {first second : List String} (nonempty : first ≠ [])
    (more : second ≠ []) :
    joined separator (first ++ second) = joined separator first ++ separator ++ joined separator second := by
  induction first with
  | nil => exact absurd rfl nonempty
  | cons text rest inductionHypothesis =>
    cases rest with
    | nil =>
      rcases List.exists_cons_of_ne_nil more with ⟨next, others, rfl⟩
      rfl
    | cons next others =>
      have behind := inductionHypothesis (List.cons_ne_nil next others)
      change text ++ separator ++ joined separator (next :: others ++ second) =
        text ++ separator ++ joined separator (next :: others) ++ separator ++ joined separator second
      simp only [behind, String.append_assoc]

theorem renderParts_append {first second : List Condition} {pieces others : List String}
    (written : renderParts first = .ok pieces) (more : renderParts second = .ok others) :
    renderParts (first ++ second) = .ok (pieces ++ others) := by
  induction first generalizing pieces with
  | nil =>
    rw [renderParts_nil_eq_ok.mp written]
    exact more
  | cons part rest inductionHypothesis =>
    rcases renderParts_cons_eq_ok.mp written with ⟨text, texts, shown, restWritten, rfl⟩
    exact renderParts_cons_eq_ok.mpr ⟨text, _, shown, inductionHypothesis restWritten, rfl⟩

/-- The parts that a condition brings along make up its text. -/
theorem Condition.exists_renderParts_partsFor {condition : Condition} {text : String}
    (written : condition.render = .ok text) {connective : Connective}
    (brings : condition.partsFor connective ≠ []) :
    ∃ pieces, renderParts (condition.partsFor connective) = .ok pieces ∧ pieces ≠ [] ∧
      joined (" " ++ connective.word ++ " ") pieces = condition.amongOthers connective text := by
  have alone : renderParts [condition] =
      .ok [if condition.isJunction then parenthesized text else text] := by
    rw [renderParts, renderParts, written]
    rfl
  cases condition with
  | junction own parts =>
    by_cases same : own = connective
    · rw [partsFor, if_pos same] at brings ⊢
      rw [amongOthers, if_pos same]
      subst same
      rcases render_junction_eq_ok.mp written with ⟨pieces, partsWritten, equal⟩
      have counted := length_of_renderParts partsWritten
      refine ⟨pieces, partsWritten, ?_, equal.symm⟩
      rintro rfl
      exact brings (List.length_eq_zero_iff.mp counted.symm)
    · rw [partsFor, if_neg same, amongOthers, if_neg same]
      exact ⟨_, alone, List.cons_ne_nil _ _, rfl⟩
  | _ => exact ⟨_, alone, List.cons_ne_nil _ _, rfl⟩

/-- The text of a junction shows the conditions that were connected, one after the other. -/
theorem Condition.render_connect {connective : Connective} {conditions : List Condition}
    {texts : List String} (nonempty : conditions ≠ [])
    (each : List.Forall₂ (fun condition text => condition.render = .ok text) conditions texts)
    (bring : ∀ condition ∈ conditions, condition.partsFor connective ≠ []) :
    (connect connective conditions).render = .ok (joined (" " ++ connective.word ++ " ")
      (List.zipWith (amongOthers connective) conditions texts)) := by
  have collected : ∃ pieces, renderParts (conditions.flatMap (partsFor connective)) = .ok pieces ∧
      pieces ≠ [] ∧ joined (" " ++ connective.word ++ " ") pieces =
        joined (" " ++ connective.word ++ " ") (List.zipWith (amongOthers connective) conditions texts) := by
    induction each with
    | nil => exact absurd rfl nonempty
    | @cons condition text rest others written restWritten inductionHypothesis =>
      rw [List.forall_mem_cons] at bring
      rcases exists_renderParts_partsFor written bring.1 with ⟨pieces, shown, filled, equal⟩
      cases restWritten with
      | nil => exact ⟨pieces, by rwa [List.flatMap_cons, List.flatMap_nil, List.append_nil], filled, equal⟩
      | cons _ _ =>
        rcases inductionHypothesis (List.cons_ne_nil _ _) bring.2 with
          ⟨morePieces, moreShown, moreFilled, moreEqual⟩
        refine ⟨pieces ++ morePieces, renderParts_append shown moreShown,
          List.append_ne_nil_of_left_ne_nil filled _, ?_⟩
        rw [joined_append _ filled moreFilled, equal, moreEqual]
        rfl
  rcases collected with ⟨pieces, shown, -, equal⟩
  rw [connect, render, shown, ← equal]
  rfl

/-- Calls return what programs can build. -/
theorem Connective.obtained_call (connective : Connective) {first : Condition} {others : List Condition}
    (nonempty : others ≠ []) (obtained : ∀ condition ∈ first :: others, condition.Obtained) :
    (connective.call first others).Obtained := by
  rw [List.forall_mem_cons] at obtained
  cases connective with
  | all => exact .and nonempty obtained.1 obtained.2
  | any => exact .or nonempty obtained.1 obtained.2

/-- Two or more conditions that are connected in the same way, by whatever calls, come to what
one call makes of them: a junction with all their parts in order, with the same text or the same
failure, and with the same columns, which are those of the conditions one after the other.  Of
conditions that programs can build, no part is a junction of the same kind, and the text is made
up of theirs, where only junctions of the other kind stand in parentheses. -/
theorem brackets_do_not_matter (connective : Connective) {bracketing : Bracketing}
    {first second : Condition} {rest : List Condition}
    (inOrder : bracketing.conditions = first :: second :: rest) :
    ∃ parts, bracketing.connected connective = .junction connective parts ∧
      connective.call first (second :: rest) = .junction connective parts ∧
      parts = (first :: second :: rest).flatMap (Condition.partsFor connective) ∧
      (bracketing.connected connective).write = (connective.call first (second :: rest)).write ∧
      (bracketing.connected connective).listColumns =
        (connective.call first (second :: rest)).listColumns ∧
      (bracketing.connected connective).columns =
        (first :: second :: rest).flatMap Condition.columns ∧
      ((∀ condition ∈ first :: second :: rest, condition.Obtained) →
        (∀ inner, .junction connective inner ∉ parts) ∧
        ∀ texts, List.Forall₂ (fun condition text => condition.render = .ok text)
            (first :: second :: rest) texts →
          (bracketing.connected connective).render = .ok (joined (" " ++ connective.word ++ " ")
            (List.zipWith (Condition.amongOthers connective) (first :: second :: rest) texts))) := by
  have equal := bracketing.connected_eq connective inOrder
  have several : second :: rest ≠ [] := List.cons_ne_nil _ _
  refine ⟨_, equal.trans (connective.call_eq _ _), connective.call_eq _ _, rfl, by rw [equal],
    by rw [equal], ?_, fun obtained => ⟨?_, fun texts each => ?_⟩⟩
  · rw [equal, connective.call_eq, Condition.columns_connect]
  · have genuine := (connective.obtained_call several obtained).genuine
    rw [Connective.call_eq, Operand.Genuine, Condition.connect, Condition.Genuine] at genuine
    exact genuine.2.1
  · rw [equal, connective.call_eq]
    refine Condition.render_connect (List.cons_ne_nil _ _) each fun condition member => ?_
    have genuine : condition.Genuine := (obtained condition member).genuine
    exact List.ne_nil_of_length_pos (Condition.genuine_partsFor genuine connective).1

/-- The first condition is connected with a group of junctions of both kinds, and with one more. -/
def groupedBrackets : Bracketing :=
  .call (.single firstCondition)
    (.call (.single (firstCondition.or [secondCondition]))
      (.single (secondCondition.and [firstCondition])) [])
    [.single secondCondition]

theorem firstCondition_render : firstCondition.render = .ok "a IS NULL" :=
  eq_of_withinDepth (Column.write_isNull _)

theorem secondCondition_render : secondCondition.render = .ok "b IS NULL" :=
  eq_of_withinDepth (Column.write_isNull _)

theorem render_junction_of_two (connective : Connective) :
    (Condition.junction connective [firstCondition, secondCondition]).render =
        .ok ("a IS NULL " ++ connective.word ++ " b IS NULL") ∧
      (Condition.junction connective [secondCondition, firstCondition]).render =
        .ok ("b IS NULL " ++ connective.word ++ " a IS NULL") := by
  simp only [Condition.render, renderParts, firstCondition_render, secondCondition_render]
  cases connective <;> exact ⟨rfl, rfl⟩

/-- The group disappears in a call for all, and the one junction of the other kind stays. -/
theorem brackets_do_not_matter_in_group :
    groupedBrackets.conditions = [firstCondition, firstCondition.or [secondCondition],
        secondCondition.and [firstCondition], secondCondition] ∧
      groupedBrackets.connected .all = .junction .all [firstCondition,
        .junction .any [firstCondition, secondCondition], secondCondition, firstCondition,
        secondCondition] ∧
      (groupedBrackets.connected .all).render = .ok ("a IS NULL AND (a IS NULL OR b IS NULL) AND " ++
        "b IS NULL AND a IS NULL AND b IS NULL") := by
  have inOrder : groupedBrackets.conditions = [firstCondition, firstCondition.or [secondCondition],
      secondCondition.and [firstCondition], secondCondition] := by
    simp only [groupedBrackets, Bracketing.conditions, conditionsOfAll, List.cons_append,
      List.nil_append, List.append_nil]
  rcases brackets_do_not_matter .all inOrder with ⟨parts, junction, -, equal, -, -, -, ofObtained⟩
  have obtained : ∀ condition ∈ [firstCondition, firstCondition.or [secondCondition],
      secondCondition.and [firstCondition], secondCondition], condition.Obtained := by
    have first : firstCondition.Obtained := .isNull _
    have second : secondCondition.Obtained := .isNull _
    simp only [List.forall_mem_cons]
    exact ⟨first, .or (List.cons_ne_nil _ _) first (List.forall_mem_singleton.mpr second),
      .and (List.cons_ne_nil _ _) second (List.forall_mem_singleton.mpr first), second,
      List.forall_mem_nil _⟩
  have texts := (ofObtained obtained).2 ["a IS NULL", "a IS NULL OR b IS NULL",
    "b IS NULL AND a IS NULL", "b IS NULL"] (.cons firstCondition_render
      (.cons (render_junction_of_two .any).1 (.cons (render_junction_of_two .all).2
        (.cons secondCondition_render .nil))))
  exact ⟨inOrder, junction.trans (congrArg _ equal), texts⟩

end Policy
end PolicyStudio
