import PolicyStudio.Proofs.Policy.Sealing

/-!
# The grouping of conditions

Junctions write their parts with a word between them and put parentheses around parts
that are junctions themselves.  This is enough for a reader to find the parts again:
cutting the text of a junction at its connectives yields the texts of its parts, and in
the text of any other condition nothing is cut.

The one exception is a comparison with a condition, which is written without
parentheses.  A function call is a condition, too, but its arguments are in parentheses,
so a comparison with a call is no exception.
-/

namespace PolicyStudio
namespace Policy

open Sql

/-! ## Comparisons without connectives -/

/-- The operand is no condition, or it is the call of a function. -/
def Operand.isPlain : Operand → Bool
  | .condition (.functionCall ..) => true
  | .condition _ => false
  | _ => true

mutual

/-- No comparison among the leaves has a condition on its right-hand side, unless it is the
call of a function. -/
def Condition.comparesPlainly : Condition → Bool
  | .junction _ parts => partsComparePlainly parts
  | .negation inner => inner.comparesPlainly
  | .comparison _ _ operand => operand.isPlain
  | _ => true

/-- No comparison in any part has such a condition on its right-hand side. -/
def partsComparePlainly : List Condition → Bool
  | [] => true
  | part :: rest => part.comparesPlainly && partsComparePlainly rest

end

/-! ## Uncut texts -/

/-- The text is read as sealed lexemes in which nothing is cut. -/
def SealsUncut (text : String) : Prop :=
  ∃ lexemes, spell lexemes = text.toList ∧ Sealed 0 lexemes ∧ Uncut lexemes

theorem SealsValue.uncut {text : String} (value : SealsValue text) : SealsUncut text := by
  rcases value with ⟨lexemes, spelled, compact, _⟩
  exact ⟨lexemes, spelled, compact.closed, Uncut.of_compact compact⟩

/-- A value goes behind an uncut text and a space. -/
theorem SealsUncut.spaced {before after : String} (first : SealsUncut before)
    (second : SealsValue after) : SealsUncut (before ++ " " ++ after) := by
  rcases first with ⟨front, frontSpelled, frontSealed, frontUncut⟩
  rcases second with ⟨back, backSpelled, compact, separate⟩
  have glue : Glue [.bare ' '] := by decide
  refine ⟨front ++ .bare ' ' :: back, ?_, frontSealed.join glue compact.closed,
    frontUncut.spaced (Uncut.of_compact compact) separate⟩
  simp [frontSpelled, backSpelled, Lexeme.spell]

/-- What stands in parentheses is a value. -/
theorem Seals.value {text : String} (inner : Seals 0 text) : SealsValue (Policy.parenthesized text) := by
  rcases inner with ⟨lexemes, spelled, closed⟩
  refine ⟨_, ?_, Compact.parenthesized closed, Unconnected.of_head (by decide) (by decide) _⟩
  simp [Policy.parenthesized, spelled, Lexeme.spell]

theorem sealsValue_call (name : QualifiedName) {arguments : String} (inner : Seals 0 arguments) :
    SealsValue (name.text ++ "(" ++ arguments ++ ")") := by
  rcases inner with ⟨lexemes, spelled, closed⟩
  have blankless : Lexeme.bare ' ' ∉ bares name.text.toList := by
    intro member
    rcases List.mem_map.mp member with ⟨c, written, equal⟩
    exact (name.isInert_of_mem c written).2 (Lexeme.bare.inj equal)
  refine ⟨_, ?_, compact_call name closed, Unconnected.call blankless _⟩
  simp [spelled, Lexeme.spell]

theorem Comparator.sealsValue_sign (comparator : Comparator) : SealsValue comparator.sign := by
  cases comparator <;> exact sealsValue_word ⟨by decide, rfl⟩ rfl

/-- The operand of a comparison is a value, unless it is a condition other than a call. -/
theorem Operand.sealsValue_of_isPlain {operand : Operand} {text : String} (genuine : operand.Genuine)
    (plain : operand.isPlain = true) (written : operand.render = .ok text) : SealsValue text := by
  cases operand with
  | condition condition =>
    cases condition with
    | functionCall name arguments =>
      unfold Operand.render at written
      rcases Condition.render_functionCall_eq_ok.mp written with ⟨texts, argumentsWritten, rfl⟩
      exact sealsValue_call name (Seals.joined ", " (by decide) (seals_of_renderList genuine argumentsWritten))
    | _ => cases plain
  | query query =>
    rcases Operand.render_query_eq_ok.mp written with ⟨inner, queryWritten, rfl⟩
    exact (Subquery.seals_of_render genuine queryWritten).value
  | _ =>
    refine Operand.sealsValue_of_render genuine ?_ ?_ written
    · rintro condition impossible
      cases impossible
    · rintro query impossible
      cases impossible

/-- A range is written as three words: the column, `IN` and what stands in parentheses. -/
theorem Column.words_range (column : Column) (text : String) :
    column.render ++ " IN (" ++ text ++ ")" =
      column.name.render ++ " " ++ "IN" ++ " " ++ parenthesized text :=
  String.toList_inj.mp (by simp [Column.render, parenthesized])

/-- Holding a role is written as a comparison of the claim with the role. -/
theorem words_hasRole (role : String) : "(auth.jwt() ->> 'role') = " ++ literal role =
    "(auth.jwt() ->> " ++ literal "role" ++ ")" ++ " " ++ "=" ++ " " ++ literal role :=
  String.toList_inj.mp (by simp [toList_literal, enclosed, doubled])

theorem Column.uncut_range (column : Column) {text : String} (inner : Seals 0 text) :
    SealsUncut (column.render ++ " IN (" ++ text ++ ")") := by
  have word : SealsValue "IN" := sealsValue_word ⟨by decide, rfl⟩ rfl
  rw [column.words_range]
  exact ((sealsValue_identifier column.name).uncut.spaced word).spaced inner.value

theorem Column.uncut_nullTest (column : Column) (negated : Bool) :
    SealsUncut (column.render ++ (if negated then " IS NOT NULL" else " IS NULL")) := by
  have name := (sealsValue_identifier column.name).uncut
  have absence : SealsValue "NULL" := sealsValue_word ⟨by decide, rfl⟩ rfl
  have denial : SealsValue "NOT" := sealsValue_word ⟨by decide, rfl⟩ rfl
  have tested : SealsUncut (column.name.render ++ " " ++ "IS") :=
    name.spaced (sealsValue_word ⟨by decide, rfl⟩ rfl)
  cases negated with
  | false =>
    have equal : column.render ++ " IS NULL" = column.name.render ++ " " ++ "IS" ++ " " ++ "NULL" :=
      String.toList_inj.mp (by simp [Column.render])
    rw [if_neg Bool.false_ne_true, equal]
    exact tested.spaced absence
  | true =>
    have equal : column.render ++ " IS NOT NULL" =
        column.name.render ++ " " ++ "IS" ++ " " ++ "NOT" ++ " " ++ "NULL" :=
      String.toList_inj.mp (by simp [Column.render])
    rw [if_pos rfl, equal]
    exact (tested.spaced denial).spaced absence

theorem IsPredicate.uncut {sql : String} (predicate : IsPredicate sql) : SealsUncut sql := by
  rcases predicate with equal | ⟨role, equal⟩
  · rw [equal]
    have word : SealsValue "true" := sealsValue_word ⟨by decide, rfl⟩ rfl
    exact word.uncut
  · rw [equal, words_hasRole]
    exact ((sealsValue_claim "role").uncut.spaced (Comparator.sealsValue_sign .equal)).spaced
      (sealsValue_literal role)

/-- In the text of a condition that is no junction nothing is cut. -/
theorem Condition.uncut_of_render {condition : Condition} {text : String}
    (genuine : condition.Genuine) (plain : condition.comparesPlainly = true)
    (single : condition.isJunction = false) (written : condition.render = .ok text) :
    SealsUncut text := by
  cases condition with
  | junction connective parts => cases single
  | negation inner =>
    rcases Condition.render_negation_eq_ok.mp written with ⟨innerText, innerWritten, rfl⟩
    rw [Condition.Genuine] at genuine
    have word : SealsValue "NOT" := sealsValue_word ⟨by decide, rfl⟩ rfl
    have uncut := word.uncut.spaced (Condition.seals_of_render genuine innerWritten).value
    have same : "NOT (" ++ innerText ++ ")" = "NOT" ++ " " ++ parenthesized innerText :=
      String.toList_inj.mp (by simp [parenthesized])
    rw [same]
    exact uncut
  | comparison column comparator operand =>
    rcases Condition.render_comparison_eq_ok.mp written with ⟨value, valueWritten, rfl⟩
    rw [Condition.Genuine] at genuine
    rw [Condition.comparesPlainly] at plain
    have signed := (sealsValue_identifier column.name).uncut.spaced comparator.sealsValue_sign
    exact signed.spaced (Operand.sealsValue_of_isPlain genuine plain valueWritten)
  | nullTest column negated =>
    rw [Condition.render_nullTest_eq_ok.mp written]
    exact column.uncut_nullTest negated
  | among column members =>
    rcases Condition.render_among_eq_ok.mp written with ⟨texts, membersWritten, rfl⟩
    rw [Condition.Genuine] at genuine
    exact column.uncut_range (Seals.joined ", " (by decide) (seals_of_renderList genuine membersWritten))
  | within column range =>
    rcases Condition.exists_of_render_within written with ⟨inner, innerWritten, rfl⟩
    rw [Condition.Genuine] at genuine
    exact column.uncut_range (Operand.seals_of_range genuine innerWritten)
  | predicate sql =>
    rw [Condition.render_predicate_eq_ok.mp written]
    exact IsPredicate.uncut genuine
  | functionCall name arguments =>
    rcases Condition.render_functionCall_eq_ok.mp written with ⟨texts, argumentsWritten, rfl⟩
    rw [Condition.Genuine] at genuine
    exact (sealsValue_call name
      (Seals.joined ", " (by decide) (seals_of_renderList genuine argumentsWritten))).uncut
  | unwritten => exact genuine.elim

/-! ## Cutting a junction -/

/-- The text of a piece. -/
def pieceText (piece : List Lexeme) : String :=
  String.ofList (spell piece)

theorem pieceText_of_spell {piece : List Lexeme} {text : String}
    (spelled : spell piece = text.toList) : pieceText piece = text := by
  rw [pieceText, spelled, String.ofList_toList]

theorem Connective.spell_lexemes (connective : Connective) :
    spell connective.lexemes = (" " ++ connective.word ++ " ").toList :=
  spell_bares _

theorem Connective.glue_lexemes (connective : Connective) : Glue connective.lexemes := by
  cases connective <;> decide

/-- Uncut texts with one connective between them are read as sealed lexemes, and cutting
these yields the texts again. -/
theorem exists_cut_joined (connective : Connective) {first : String} {others : List String}
    (uncut : ∀ text ∈ first :: others, SealsUncut text) :
    ∃ lexemes, spell lexemes = (joined (" " ++ connective.word ++ " ") (first :: others)).toList ∧
      Sealed 0 lexemes ∧
      ((cut 0 lexemes).1 :: (cut 0 lexemes).2.map Prod.snd).map pieceText = first :: others ∧
      (cut 0 lexemes).2.map Prod.fst = List.replicate others.length connective := by
  induction others generalizing first with
  | nil =>
    rcases uncut first List.mem_cons_self with ⟨lexemes, spelled, closed, whole⟩
    have alone : cut 0 lexemes = (lexemes, []) := by
      have passed := whole []
      rw [List.append_nil, cut] at passed
      rw [passed, prepend, List.append_nil]
    refine ⟨lexemes, spelled, closed, ?_, ?_⟩
    · rw [alone]
      simp [pieceText_of_spell spelled]
    · rw [alone]
      rfl
  | cons second others inductionHypothesis =>
    rcases uncut first List.mem_cons_self with ⟨lexemes, spelled, closed, whole⟩
    rcases inductionHypothesis fun text member => uncut text (List.mem_cons_of_mem _ member) with
      ⟨behind, behindSpelled, behindClosed, texts, connectives⟩
    have pieces : cut 0 (lexemes ++ (connective.lexemes ++ behind)) =
        (lexemes, (connective, (cut 0 behind).1) :: (cut 0 behind).2) := by
      rw [whole, cut_connective, prepend, List.append_nil]
    refine ⟨lexemes ++ (connective.lexemes ++ behind), ?_,
      closed.join connective.glue_lexemes behindClosed, ?_, ?_⟩
    · have unfolded : joined (" " ++ connective.word ++ " ") (first :: second :: others) =
          first ++ (" " ++ connective.word ++ " ") ++
            joined (" " ++ connective.word ++ " ") (second :: others) := rfl
      simp only [unfolded, spell_append, spelled, connective.spell_lexemes, behindSpelled,
        String.toList_append, List.append_assoc]
    · rw [pieces, ← texts]
      simp [pieceText_of_spell spelled]
    · rw [pieces]
      simp [connectives, List.replicate_succ]

/-- Cutting uncut texts with one connective between them yields the texts again. -/
theorem cutText_joined (connective : Connective) {first : String} {others : List String}
    (uncut : ∀ text ∈ first :: others, SealsUncut text) :
    cutText (joined (" " ++ connective.word ++ " ") (first :: others)) =
      some (first :: others, List.replicate others.length connective) := by
  rcases exists_cut_joined connective uncut with ⟨lexemes, spelled, closed, texts, connectives⟩
  have read := lex_spell lexemes closed.proper closed.apart
  rw [spelled] at read
  rw [cutText, read, Option.map_some, ← texts, ← connectives]
  rfl

/-- Nothing is cut in an uncut text. -/
theorem SealsUncut.cutText_eq {text : String} (uncut : SealsUncut text) :
    cutText text = some ([text], []) := by
  have all : ∀ part ∈ [text], SealsUncut part := List.forall_mem_singleton.mpr uncut
  exact cutText_joined .all all

/-- A part of a junction is enclosed exactly if it is a junction itself. -/
def enclosedPart (part : Condition) (text : String) : String :=
  if part.isJunction then parenthesized text else text

/-- The parts of a junction are written as texts in which nothing is cut. -/
theorem uncut_of_renderParts {parts : List Condition} {pieces : List String}
    (genuine : GenuineParts parts) (plain : partsComparePlainly parts = true)
    (written : renderParts parts = .ok pieces) : ∀ piece ∈ pieces, SealsUncut piece := by
  induction parts generalizing pieces with
  | nil =>
    rw [renderParts_nil_eq_ok.mp written]
    nofun
  | cons part rest inductionHypothesis =>
    rcases renderParts_cons_eq_ok.mp written with ⟨text, others, partWritten, restWritten, rfl⟩
    rw [GenuineParts] at genuine
    rw [partsComparePlainly, Bool.and_eq_true] at plain
    have restUncut := inductionHypothesis genuine.2 plain.2 restWritten
    refine List.forall_mem_cons.mpr ⟨?_, restUncut⟩
    split_ifs with nested
    · exact (Condition.seals_of_render genuine.1 partWritten).value.uncut
    · exact Condition.uncut_of_render genuine.1 plain.1 (Bool.not_eq_true _ ▸ nested) partWritten

end Policy
end PolicyStudio
