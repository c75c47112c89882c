import Mathlib.Data.List.Basic
import PolicyStudio.Policy.Render
import PolicyStudio.Proofs.Outcome

/-!
# What a text is made of

Rendering is structural, and a text exists only if every part has one.  For each form of
an expression it is said here once which parts have texts and how these are put
together; what is proved about texts elsewhere follows the tree by these rules.
-/

namespace PolicyStudio
namespace Policy

open Sql

/-! ## Conditions -/

namespace Condition

theorem render_junction_eq_ok {connective : Connective} {parts : List Condition} {text : String} :
    (junction connective parts).render = .ok text ↔
      ∃ texts, renderParts parts = .ok texts ∧
        text = joined (" " ++ connective.word ++ " ") texts := by
  rw [render]
  exact Outcome.bind_pure_eq_ok

theorem render_negation_eq_ok {inner : Condition} {text : String} :
    (negation inner).render = .ok text ↔
      ∃ innerText, inner.render = .ok innerText ∧ text = "NOT (" ++ innerText ++ ")" := by
  rw [render]
  exact Outcome.bind_pure_eq_ok

theorem render_comparison_eq_ok {column : Column} {comparator : Comparator} {operand : Operand}
    {text : String} : (comparison column comparator operand).render = .ok text ↔
      ∃ value, operand.render = .ok value ∧
        text = column.render ++ " " ++ comparator.sign ++ " " ++ value := by
  rw [render]
  exact Outcome.bind_pure_eq_ok

theorem render_nullTest_eq_ok {column : Column} {negated : Bool} {text : String} :
    (nullTest column negated).render = .ok text ↔
      text = column.render ++ (if negated then " IS NOT NULL" else " IS NULL") := by
  rw [render]
  exact Outcome.pure_eq_ok

theorem render_among_eq_ok {column : Column} {members : List Operand} {text : String} :
    (among column members).render = .ok text ↔
      ∃ texts, renderList members = .ok texts ∧
        text = column.render ++ " IN (" ++ joined ", " texts ++ ")" := by
  rw [render]
  exact Outcome.bind_pure_eq_ok

/-- A range is written in parentheses, and a query among them in no further ones. -/
theorem exists_of_render_within {column : Column} {range : Operand} {text : String}
    (written : (within column range).render = .ok text) :
    ∃ inner, (range.render = .ok inner ∨ ∃ query, range = .query query ∧ query.render = .ok inner) ∧
      text = column.render ++ " IN (" ++ inner ++ ")" := by
  by_cases direct : ∀ query, range ≠ .query query
  · rw [render] at written
    · rcases Outcome.bind_pure_eq_ok.mp written with ⟨inner, rangeWritten, equal⟩
      exact ⟨inner, Or.inl rangeWritten, equal⟩
    · exact direct
  · rcases not_forall_not.mp direct with ⟨query, isQuery⟩
    rw [isQuery, render] at written
    rcases Outcome.bind_pure_eq_ok.mp written with ⟨inner, queryWritten, equal⟩
    exact ⟨inner, Or.inr ⟨query, isQuery, queryWritten⟩, equal⟩

theorem render_predicate_eq_ok {sql text : String} :
    (predicate sql).render = .ok text ↔ text = sql := by
  rw [render]
  exact Outcome.pure_eq_ok

theorem render_functionCall_eq_ok {name : QualifiedName} {arguments : List Operand} {text : String} :
    (functionCall name arguments).render = .ok text ↔
      ∃ texts, renderList arguments = .ok texts ∧
        text = name.text ++ "(" ++ joined ", " texts ++ ")" := by
  rw [render]
  exact Outcome.bind_pure_eq_ok

end Condition

/-! ## Lists of conditions and operands -/

theorem renderParts_nil_eq_ok {texts : List String} : renderParts [] = .ok texts ↔ texts = [] := by
  rw [renderParts]
  exact Outcome.pure_eq_ok

/-- Parts of a junction stand in parentheses if they are junctions themselves. -/
theorem renderParts_cons_eq_ok {part : Condition} {rest : List Condition} {texts : List String} :
    renderParts (part :: rest) = .ok texts ↔
      ∃ text others, part.render = .ok text ∧ renderParts rest = .ok others ∧
        texts = (if part.isJunction then parenthesized text else text) :: others := by
  rw [renderParts]
  exact Outcome.bind_bind_pure_eq_ok

/-- Each part has one text. -/
theorem length_of_renderParts {parts : List Condition} {texts : List String}
    (written : renderParts parts = .ok texts) : texts.length = parts.length := by
  induction parts generalizing texts with
  | nil =>
    rw [renderParts_nil_eq_ok.mp written]
    rfl
  | cons part rest inductionHypothesis =>
    rcases renderParts_cons_eq_ok.mp written with ⟨text, others, -, restWritten, rfl⟩
    rw [List.length_cons, List.length_cons, inductionHypothesis restWritten]

theorem renderOperands_nil_eq_ok {texts : List String} :
    renderOperands [] = .ok texts ↔ texts = [] := by
  rw [renderOperands]
  exact Outcome.pure_eq_ok

theorem renderOperands_cons_eq_ok {operand : Operand} {rest : List Operand} {texts : List String} :
    renderOperands (operand :: rest) = .ok texts ↔
      ∃ text others, operand.render = .ok text ∧ renderOperands rest = .ok others ∧
        texts = text :: others := by
  rw [renderOperands]
  exact Outcome.bind_bind_pure_eq_ok

/-- A list is only written if all its members are texts. -/
theorem renderList_eq_ok {operands : List Operand} {texts : List String} :
    renderList operands = .ok texts ↔
      renderOperands operands = .ok texts ∧ firstForeign? 0 operands = none := by
  rw [renderList, Outcome.bind_eq_ok]
  cases firstForeign? 0 operands with
  | none =>
    constructor
    · rintro ⟨_, written, equal⟩
      exact ⟨Outcome.eq_of_pure equal ▸ written, rfl⟩
    · rintro ⟨written, -⟩
      exact ⟨texts, written, rfl⟩
  | some foreign =>
    constructor
    · rintro ⟨_, _, impossible⟩
      cases impossible
    · rintro ⟨_, impossible⟩
      cases impossible

/-! ## Queries -/

/-- A query that is a value stands in parentheses. -/
theorem Operand.render_query_eq_ok {query : Subquery} {text : String} :
    (Operand.query query).render = .ok text ↔
      ∃ inner, query.render = .ok inner ∧ text = parenthesized inner := by
  unfold Operand.render
  exact Outcome.bind_pure_eq_ok

/-- A query is only written if it selects something. -/
theorem Subquery.render_eq_ok {table : Identifier} {columns : List Identifier} {joins : List Join}
    {filter : Option Condition} {text : String} :
    (Subquery.mk table columns joins filter).render = .ok text ↔
      columns ≠ [] ∧ ∃ clauses condition, renderJoins joins = .ok clauses ∧
        renderFilter filter = .ok condition ∧
        text = "SELECT " ++ joined ", " (columns.map Identifier.render) ++ " FROM " ++ table.render ++
          clauses ++ condition := by
  rw [Subquery.render]
  exact Outcome.guarded_eq_ok.trans (and_congr List.isEmpty_iff.not Outcome.bind_bind_pure_eq_ok)

theorem renderJoins_nil_eq_ok {clauses : String} : renderJoins [] = .ok clauses ↔ clauses = "" := by
  rw [renderJoins]
  exact Outcome.pure_eq_ok

theorem renderJoins_cons_eq_ok {join : Join} {rest : List Join} {clauses : String} :
    renderJoins (join :: rest) = .ok clauses ↔
      ∃ clause others, join.render = .ok clause ∧ renderJoins rest = .ok others ∧
        clauses = " " ++ clause ++ others := by
  rw [renderJoins]
  exact Outcome.bind_bind_pure_eq_ok

theorem Join.render_eq_ok {kind : JoinKind} {table : Identifier} {condition : Condition}
    {text : String} : (Join.mk kind table condition).render = .ok text ↔
      ∃ inner, condition.render = .ok inner ∧
        text = kind.keyword ++ " " ++ table.render ++ " ON " ++ inner := by
  rw [Join.render]
  exact Outcome.bind_pure_eq_ok

theorem renderFilter_none_eq_ok {clause : String} : renderFilter none = .ok clause ↔ clause = "" := by
  rw [renderFilter]
  exact Outcome.pure_eq_ok

theorem renderFilter_some_eq_ok {condition : Condition} {clause : String} :
    renderFilter (some condition) = .ok clause ↔
      ∃ inner, condition.render = .ok inner ∧ clause = " WHERE " ++ inner := by
  rw [renderFilter]
  exact Outcome.bind_pure_eq_ok

/-! ## Depth -/

section Depth

variable {α : Type} {depth : Nat} {written : Except RenderError α} {result : α}

theorem withinDepth_eq_ok : withinDepth depth written = .ok result ↔
    depth ≤ depthLimit ∧ written = .ok result :=
  Outcome.guarded_eq_ok.trans (and_congr_left' Nat.not_lt)

theorem eq_of_withinDepth (within : withinDepth depth written = .ok result) : written = .ok result :=
  (withinDepth_eq_ok.mp within).2

theorem le_of_withinDepth (within : withinDepth depth written = .ok result) : depth ≤ depthLimit :=
  (withinDepth_eq_ok.mp within).1

theorem withinDepth_of_le (shallow : depth ≤ depthLimit) (written : Except RenderError α) :
    withinDepth depth written = written :=
  if_neg (Nat.not_lt.mpr shallow)

end Depth

end Policy
end PolicyStudio
