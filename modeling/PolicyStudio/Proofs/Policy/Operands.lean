import PolicyStudio.Proofs.Policy.Reading
import PolicyStudio.Proofs.Sql.Outline

/-!
# Operands from outside

The operand of a comparison is written without parentheses of its own, so it matters what
a reader sees of its text from outside.  Constants, columns, values of the request, calls
and sub-queries are one word, which is a keyword only if it is a name that is written
without quotes.  All other conditions are several words, with a keyword or a sign among
them.
-/

namespace PolicyStudio
namespace Policy

open Sql

/-! ## Texts with an outline -/

/-- The text is read as sealed lexemes, and this is seen of it from outside. -/
def Outlined (cs : List Char) (text : String) : Prop :=
  ∃ lexemes, spell lexemes = text.toList ∧ Sealed 0 lexemes ∧ outline 0 lexemes = cs

theorem Seals.exists_outlined {text : String} (closed : Seals 0 text) : ∃ cs, Outlined cs text := by
  rcases closed with ⟨lexemes, spelled, closed⟩
  exact ⟨outline 0 lexemes, lexemes, spelled, closed, rfl⟩

namespace Outlined

variable {cs ds : List Char} {text before after : String}

theorem isClosed_eq (outlined : Outlined cs text) : isClosed text = !regroups cs := by
  rcases outlined with ⟨lexemes, spelled, closed, seen⟩
  have read := lex_spell lexemes closed.proper closed.apart
  rw [spelled] at read
  rw [isClosed, read, Option.any_some, seen]

/-- A neutral text is seen as it is. -/
theorem neutral (closed : Sealed 0 (bares text.toList)) (neutral : Neutral text.toList) :
    Outlined text.toList text :=
  ⟨bares text.toList, spell_bares _, closed, outline_bares fun c member => (neutral.seen c member).1⟩

theorem quoted {mark : Char} (known : isMark mark = true) {content : List Char}
    (spelled : enclosed mark content = text.toList) : Outlined ['"'] text :=
  ⟨[.quoted mark content], (spell_quoted _ _).trans spelled, (Compact.quoted known content).closed, rfl⟩

/-- Two texts with a space between them. -/
theorem spaced (first : Outlined cs before) (second : Outlined ds after) :
    Outlined (cs ++ ' ' :: ds) (before ++ " " ++ after) := by
  rcases first with ⟨front, frontSpelled, frontSealed, rfl⟩
  rcases second with ⟨back, backSpelled, backSealed, rfl⟩
  have glue : Glue [.bare ' '] := by decide
  refine ⟨front ++ .bare ' ' :: back, ?_, frontSealed.join glue backSealed, ?_⟩
  · simp [frontSpelled, backSpelled, Lexeme.spell]
  · rw [outline_append _ frontSealed.balanced]
    rfl

/-- Of a text in parentheses only the opening one is seen. -/
theorem call (front : Outlined cs before) (inner : Seals 0 text) :
    Outlined (cs ++ ['(']) (before ++ "(" ++ text ++ ")") := by
  rcases front with ⟨front, frontSpelled, frontSealed, rfl⟩
  rcases inner with ⟨lexemes, spelled, closed⟩
  refine ⟨front ++ .bare '(' :: (lexemes ++ [.bare ')']), ?_,
    frontSealed.append closed.parenthesized (apart_before_break rfl), ?_⟩
  · simp [frontSpelled, spelled, Lexeme.spell]
  · rw [outline_append _ frontSealed.balanced, outline_parenthesized closed]

theorem parenthesized (inner : Seals 0 text) : Outlined ['('] (parenthesized text) := by
  have empty : Outlined [] "" := ⟨[], rfl, Sealed.nil, rfl⟩
  have enclosed := empty.call inner
  rwa [String.empty_append] at enclosed

/-- Words that begin with a break may stand behind. -/
theorem followed (front : Outlined cs before) (closed : Sealed 0 (bares after.toList))
    (starts : (bares after.toList).head?.any Lexeme.isBreak = true) (neutral : Neutral after.toList) :
    Outlined (cs ++ after.toList) (before ++ after) := by
  rcases front with ⟨front, frontSpelled, frontSealed, rfl⟩
  refine ⟨front ++ bares after.toList, ?_, frontSealed.append closed (apart_before_break starts), ?_⟩
  · rw [spell_append, spell_bares, frontSpelled, String.toList_append]
  · rw [outline_append _ frontSealed.balanced, outline_bares fun c member => (neutral.seen c member).1]

end Outlined

/-! ## Texts that are one word from outside -/

/-- From outside the text is one word, which may be a keyword. -/
def OneWord (keyword : Bool) (text : String) : Prop :=
  ∃ cs, Outlined cs text ∧ isWhole cs = true ∧ regroups cs = keyword

namespace OneWord

variable {text : String}

theorem neutral (closed : Sealed 0 (bares text.toList)) (neutral : Neutral text.toList) :
    OneWord false text :=
  ⟨text.toList, .neutral closed neutral, isWhole_of_forall fun c member => (neutral.seen c member).2,
    neutral.calm⟩

theorem numeral (numeral : Numeral text.toList) (neutral : Neutral text.toList) : OneWord false text :=
  .neutral numeral.compact.closed neutral

theorem quoted {mark : Char} (known : isMark mark = true) {content : List Char}
    (spelled : enclosed mark content = text.toList) : OneWord false text :=
  ⟨['"'], .quoted known spelled, rfl, by decide⟩

theorem parenthesized (inner : Seals 0 text) : OneWord false (parenthesized text) :=
  ⟨['('], .parenthesized inner, rfl, by decide⟩

theorem identifier (name : Identifier) : OneWord name.namesKeyword name.render :=
  ⟨outline 0 name.lexemes, ⟨name.lexemes, name.spell_lexemes, name.compact_lexemes.closed, rfl⟩,
    name.isWhole_outline, name.regroups_outline⟩

theorem call (name : QualifiedName) {arguments : String} (inner : Seals 0 arguments) :
    OneWord name.namesKeyword (name.text ++ "(" ++ arguments ++ ")") := by
  have front : Outlined name.text.toList name.text :=
    ⟨bares name.text.toList, spell_bares _, (Compact.bares name.isInert_of_mem).closed,
      outline_bares fun c member => (name.ne_of_mem c member).1⟩
  refine ⟨name.text.toList ++ ['('], front.call inner, ?_, ?_⟩
  · refine isWhole_of_forall fun c member => ?_
    rcases List.mem_append.mp member with member | member
    · exact (name.ne_of_mem c member).2
    · rw [List.mem_singleton.mp member]
      decide
  · rw [regroups_append_cons _ _ (by decide) (by decide), regroups_nil, Bool.or_false,
      name.regroups_text]

theorem integerText {n : Int} {text : String} (written : Policy.integerText n = .ok text) :
    OneWord false text := by
  unfold Policy.integerText at written
  split_ifs at written
  · cases written
    have digits := (magnitude_repr n.natAbs).minus
    refine numeral ?_ (Neutral.of_isNumeralChar ?_)
    · rwa [String.toList_append]
    · rw [String.toList_append]
      exact List.forall_mem_cons.mpr ⟨by decide, isNumeralChar_repr _⟩
  · cases written
    exact numeral (magnitude_repr _).numeral (Neutral.of_isNumeralChar (isNumeralChar_repr _))

theorem date {text : String} (dated : ∀ c ∈ text.toList, isDateChar c = true) :
    OneWord false ("'" ++ text ++ "'") := by
  have unmarked : '\'' ∉ text.toList := fun member => absurd (dated _ member) (by decide)
  have spelled : enclosed '\'' text.toList = ("'" ++ text ++ "'").toList := by
    rw [enclosed, doubled_eq_self unmarked, String.toList_append, String.toList_append]
    rfl
  exact quoted rfl spelled

end OneWord

/-! ## Values of the request -/

theorem outlined_setting (key : String) :
    Outlined "current_setting(".toList ("current_setting(" ++ literal key ++ ", true)") := by
  have name : Outlined "current_setting".toList "current_setting" :=
    .neutral (by decide) (by decide)
  have quotedKey := (sealsValue_literal key).seals
  have arguments := quotedKey.followed (show Sealed 0 (bares ", true".toList) by decide) rfl
  have same : "current_setting(" ++ literal key ++ ", true)" =
      "current_setting" ++ "(" ++ (literal key ++ ", true") ++ ")" :=
    String.toList_inj.mp (by simp)
  rw [same]
  exact name.call arguments

theorem oneWord_settingOf (key : QualifiedName) (type : SettingType) :
    OneWord false (ContextValue.settingOf key type).sql := by
  have value := outlined_setting key.text
  have cast : ∀ shown : SettingType, Sealed 0 (bares ("::" ++ shown.name).toList) ∧
      Neutral ("::" ++ shown.name).toList ∧
      isWhole ("current_setting(".toList ++ ("::" ++ shown.name).toList) = true ∧
      regroups ("current_setting(".toList ++ ("::" ++ shown.name).toList) = false := by
    intro shown
    cases shown <;> decide
  cases type with
  | text => exact ⟨_, value, by decide, by decide⟩
  | _ =>
    refine (congrArg (OneWord false) (String.append_assoc ..)).mpr ?_
    exact ⟨_, value.followed (cast _).1 rfl (cast _).2.1, (cast _).2.2⟩

/-- A value of the request is one word and no keyword. -/
theorem ContextValue.Obtained.oneWord {value : ContextValue} (obtained : value.Obtained) :
    OneWord false value.sql := by
  have nothing : Seals 0 "" := ⟨[], rfl, Sealed.nil⟩
  cases obtained with
  | subject => exact OneWord.call ⟨"auth.uid", rfl⟩ nothing
  | subjectRole => exact OneWord.call ⟨"auth.role", rfl⟩ nothing
  | token => exact OneWord.call ⟨"auth.jwt", rfl⟩ nothing
  | currentUser => exact OneWord.neutral (by decide) (by decide)
  | @claim name _ accepted =>
    rcases claim_eq_ok.mp accepted with ⟨-, rfl⟩
    have token : Seals 0 "auth.jwt()" := Seals.words (by decide)
    have read := token.glued " ->> " (by decide) (sealsValue_literal name).seals
    have same : "(auth.jwt() ->> " ++ literal name ++ ")" =
        parenthesized ("auth.jwt()" ++ " ->> " ++ literal name) :=
      String.toList_inj.mp (by simp [parenthesized])
    rw [same]
    exact OneWord.parenthesized read
  | @setting key type _ accepted =>
    rcases setting_eq_ok.mp accepted with ⟨checked, known, -, -, rfl⟩
    exact oneWord_settingOf checked known

/-! ## Texts that are several words -/

/-- From outside the text is several words, and a keyword or a sign is among them. -/
def SeveralWords (text : String) : Prop :=
  ∃ cs, Outlined cs text ∧ isWhole cs = false ∧ regroups cs = true

/-- A word of the language itself that regroups what stands around it. -/
def Regrouping (word : String) : Prop :=
  Sealed 0 (bares word.toList) ∧ outline 0 (bares word.toList) = word.toList ∧
    regroups word.toList = true

instance (word : String) : Decidable (Regrouping word) :=
  inferInstanceAs (Decidable (_ ∧ _))

theorem Regrouping.outlined {word : String} (regrouping : Regrouping word) :
    Outlined word.toList word :=
  ⟨bares word.toList, spell_bares _, regrouping.1, regrouping.2.1⟩

/-- Two texts with a keyword or a sign between them. -/
theorem SeveralWords.of_word {before word after : String} (front : Seals 0 before)
    (middle : Regrouping word) (back : Seals 0 after) : SeveralWords (before ++ " " ++ word ++ " " ++ after) := by
  rcases front.exists_outlined with ⟨cs, front⟩
  rcases back.exists_outlined with ⟨ds, back⟩
  refine ⟨_, (front.spaced middle.outlined).spaced back, ?_, ?_⟩
  · simp [isWhole]
  · rw [regroups_append_cons _ _ (by decide) (by decide), regroups_append_cons _ _ (by decide) (by decide),
      middle.2.2, Bool.or_true, Bool.true_or]

/-- A keyword in front of a text. -/
theorem SeveralWords.of_first {word after : String} (front : Regrouping word) (back : Seals 0 after) : SeveralWords (word ++ " " ++ after) := by
  rcases back.exists_outlined with ⟨ds, back⟩
  refine ⟨_, front.outlined.spaced back, ?_, ?_⟩
  · simp [isWhole]
  · rw [regroups_append_cons _ _ (by decide) (by decide), front.2.2, Bool.true_or]

theorem Column.severalWords_range (column : Column) {text : String} (inner : Seals 0 text) :
    SeveralWords (column.render ++ " IN (" ++ text ++ ")") := by
  rw [column.words_range]
  exact .of_word (seals_identifier column.name) (by decide) inner.parenthesized

theorem Column.severalWords_nullTest (column : Column) (negated : Bool) :
    SeveralWords (column.render ++ (if negated then " IS NOT NULL" else " IS NULL")) := by
  have tested : ∀ test : String, Seals 0 test → SeveralWords (column.render ++ (" IS " ++ test)) := by
    intro test closed
    have same : column.render ++ (" IS " ++ test) = column.name.render ++ " " ++ "IS" ++ " " ++ test :=
      String.toList_inj.mp (by simp [Column.render])
    rw [same]
    exact .of_word (seals_identifier column.name) (by decide) closed
  cases negated with
  | false => exact tested "NULL" (Seals.words (by decide))
  | true => exact tested "NOT NULL" (Seals.words (by decide))

theorem SeveralWords.hasRole (role : String) : SeveralWords ("(auth.jwt() ->> 'role') = " ++ literal role) := by
  rw [words_hasRole]
  exact .of_word (sealsValue_claim "role").seals (by decide) (sealsValue_literal role).seals

/-- The parts of a junction are apart, with its word between the first one and the others. -/
theorem SeveralWords.joined (connective : Connective) {texts : List String}
    (several : 2 ≤ texts.length) (each : ∀ text ∈ texts, Seals 0 text) :
    SeveralWords (joined (" " ++ connective.word ++ " ") texts) := by
  have word : Regrouping connective.word := by
    cases connective <;> decide
  have glue : Glue (bares (" " ++ connective.word ++ " ").toList) := by
    cases connective <;> decide
  cases texts with
  | nil => exact absurd several (by decide)
  | cons first rest =>
    cases rest with
    | nil => exact absurd several (Nat.not_succ_le_self 1)
    | cons second rest =>
      have others := Seals.joined _ glue fun text member => each text (List.mem_cons_of_mem first member)
      have same : Policy.joined (" " ++ connective.word ++ " ") (first :: second :: rest) =
          first ++ " " ++ connective.word ++ " " ++
            Policy.joined (" " ++ connective.word ++ " ") (second :: rest) :=
        String.toList_inj.mp (by simp [Policy.joined])
      rw [same]
      exact .of_word (each first List.mem_cons_self) word others

/-! ## The text of an operand -/

/-- The operand is no condition, or one that stands for itself: a call, or the condition that
every row meets. -/
def Operand.isSingle : Operand → Bool
  | .condition (.functionCall ..) => true
  | .condition (.predicate sql) => sql == "true"
  | .condition _ => false
  | _ => true

/-- The operand is a column or a call with a name that is a keyword and not quoted. -/
def Operand.namesKeyword : Operand → Bool
  | .column shown => shown.name.namesKeyword
  | .condition (.functionCall name _) => name.namesKeyword
  | _ => false

theorem Operand.oneWord_of_render {operand : Operand} {text : String} (genuine : operand.Genuine)
    (single : operand.isSingle = true) (written : operand.render = .ok text) :
    OneWord operand.namesKeyword text := by
  cases operand with
  | null =>
    unfold render at written
    cases written
    exact .neutral (by decide) (by decide)
  | truth value =>
    unfold render at written
    cases written
    cases value <;> exact .neutral (by decide) (by decide)
  | integer value =>
    unfold render at written
    exact .integerText written
  | number value =>
    unfold render at written
    cases written
    exact .numeral (numeral_write _) (neutral_write _)
  | text value =>
    unfold render at written
    cases written
    exact .quoted rfl (toList_literal value).symm
  | date value =>
    unfold render at written
    cases written
    exact .date (isDated_date value)
  | dateTime value =>
    unfold render at written
    cases written
    exact .date (isDated_dateTime value)
  | context sql =>
    unfold render at written
    cases written
    rcases genuine with ⟨value, obtained, rfl⟩
    exact obtained.oneWord
  | column column =>
    unfold render at written
    cases written
    exact .identifier column.name
  | query query =>
    rcases render_query_eq_ok.mp written with ⟨inner, queryWritten, rfl⟩
    exact .parenthesized (Subquery.seals_of_render genuine queryWritten)
  | condition condition =>
    unfold render at written
    cases condition with
    | functionCall name arguments =>
      rcases Condition.render_functionCall_eq_ok.mp written with ⟨texts, argumentsWritten, rfl⟩
      exact .call name (Seals.joined ", " (by decide) (seals_of_renderList genuine argumentsWritten))
    | predicate sql =>
      rw [Condition.render_predicate_eq_ok.mp written, beq_iff_eq.mp single]
      exact .neutral (by decide) (by decide)
    | _ => cases single
  | foreign | unwritten => exact genuine.elim

/-- Every other condition is written as several words. -/
theorem Condition.severalWords_of_render {condition : Condition} {text : String}
    (genuine : condition.Genuine) (compound : (Operand.condition condition).isSingle = false)
    (written : condition.render = .ok text) : SeveralWords text := by
  cases condition with
  | junction connective parts =>
    rcases Condition.render_junction_eq_ok.mp written with ⟨texts, partsWritten, rfl⟩
    rw [Condition.Genuine, ← length_of_renderParts partsWritten] at genuine
    exact .joined connective genuine.1 (seals_of_renderParts genuine.2.2 partsWritten)
  | negation inner =>
    rcases Condition.render_negation_eq_ok.mp written with ⟨innerText, innerWritten, rfl⟩
    rw [Condition.Genuine] at genuine
    have same : "NOT (" ++ innerText ++ ")" = "NOT" ++ " " ++ parenthesized innerText :=
      String.toList_inj.mp (by simp [parenthesized])
    rw [same]
    exact .of_first (by decide) (Condition.seals_of_render genuine innerWritten).parenthesized
  | comparison column comparator operand =>
    rcases Condition.render_comparison_eq_ok.mp written with ⟨value, valueWritten, rfl⟩
    rw [Condition.Genuine] at genuine
    have sign : Regrouping comparator.sign := by
      cases comparator <;> decide
    exact .of_word (seals_identifier column.name) sign (Operand.seals_of_render genuine valueWritten)
  | nullTest column negated =>
    rw [Condition.render_nullTest_eq_ok.mp written]
    exact column.severalWords_nullTest negated
  | among column members =>
    rcases Condition.render_among_eq_ok.mp written with ⟨texts, membersWritten, rfl⟩
    rw [Condition.Genuine] at genuine
    exact column.severalWords_range (Seals.joined ", " (by decide) (seals_of_renderList genuine membersWritten))
  | within column range =>
    rcases Condition.exists_of_render_within written with ⟨inner, innerWritten, rfl⟩
    rw [Condition.Genuine] at genuine
    exact column.severalWords_range (Operand.seals_of_range genuine innerWritten)
  | predicate sql =>
    rw [Condition.render_predicate_eq_ok.mp written]
    rcases genuine with equal | ⟨role, equal⟩
    · rw [equal] at compound
      cases compound
    · rw [equal]
      exact .hasRole role
  | functionCall => cases compound
  | unwritten => exact genuine.elim

theorem Operand.severalWords_of_render {operand : Operand} {text : String} (genuine : operand.Genuine)
    (compound : operand.isSingle = false) (written : operand.render = .ok text) : SeveralWords text := by
  cases operand with
  | condition condition =>
    unfold render at written
    exact Condition.severalWords_of_render genuine compound written
  | _ => cases compound

/-- From outside the text of an operand is one word exactly if the operand is a single one, and
then it may be a keyword. -/
theorem Operand.exists_outlined {operand : Operand} {text : String} (genuine : operand.Genuine)
    (written : operand.render = .ok text) : ∃ cs, Outlined cs text ∧ isWhole cs = operand.isSingle ∧
      (!regroups cs) = (operand.isSingle && !operand.namesKeyword) := by
  cases single : operand.isSingle with
  | true =>
    rcases oneWord_of_render genuine single written with ⟨cs, outlined, whole, keyword⟩
    exact ⟨cs, outlined, whole, by rw [keyword, Bool.true_and]⟩
  | false =>
    rcases severalWords_of_render genuine single written with ⟨cs, outlined, several, regroup⟩
    exact ⟨cs, outlined, several, by rw [regroup, Bool.false_and, Bool.not_true]⟩

end Policy
end PolicyStudio
