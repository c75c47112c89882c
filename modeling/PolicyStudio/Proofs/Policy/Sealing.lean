import PolicyStudio.Proofs.Policy.Cutting
import PolicyStudio.Proofs.Policy.Obtained
import PolicyStudio.Proofs.Policy.Rendering
import PolicyStudio.Proofs.Sql.Constants

/-!
# Rendered texts are sealed

The text of every expression that programs can build is read as sealed lexemes: its
quotes are closed, its parentheses match, it opens no comment and ends no statement,
whatever the names and constants in it are.  The proof follows the tree.  Names and
constants are sealed for themselves, and the language puts texts together with
parentheses and glue only.

The text of a value is compact in addition, because the language writes spaces around
a value and never outside of parentheses within one.  Nor does a value begin like the
word of a connective, so that the space before it opens none.
-/

namespace PolicyStudio
namespace Policy

open Sql

/-! ## Texts -/

/-- The text is read as lexemes that can stand anywhere, with a number of semicolons. -/
def Seals (ends : Nat) (text : String) : Prop :=
  ∃ lexemes, spell lexemes = text.toList ∧ Sealed ends lexemes

/-- The text is read as lexemes without a space outside of parentheses, and a space before
it opens no connective. -/
def SealsValue (text : String) : Prop :=
  ∃ lexemes, spell lexemes = text.toList ∧ Compact lexemes ∧ Unconnected lexemes

theorem SealsValue.seals {text : String} (value : SealsValue text) : Seals 0 text := by
  rcases value with ⟨lexemes, spelled, compact, _⟩
  exact ⟨lexemes, spelled, compact.closed⟩

namespace Seals

variable {m n : Nat} {before after : String}

/-- A text of the language itself is sealed if its characters are. -/
theorem words {text : String} (closed : Sealed n (bares text.toList)) : Seals n text :=
  ⟨bares text.toList, spell_bares _, closed⟩

/-- Two sealed texts are glued together. -/
theorem glued (first : Seals m before) (glue : String) (between : Glue (bares glue.toList))
    (second : Seals n after) : Seals (m + n) (before ++ glue ++ after) := by
  rcases first with ⟨front, frontSpelled, frontSealed⟩
  rcases second with ⟨back, backSpelled, backSealed⟩
  refine ⟨front ++ (bares glue.toList ++ back), ?_, frontSealed.join between backSealed⟩
  simp only [spell_append, spell_bares, frontSpelled, backSpelled, String.toList_append,
    List.append_assoc]

/-- Words that begin with a break may stand behind a sealed text. -/
theorem followed (first : Seals m before) (closed : Sealed n (bares after.toList))
    (starts : (bares after.toList).head?.any Lexeme.isBreak = true) :
    Seals (m + n) (before ++ after) := by
  rcases first with ⟨front, spelled, frontSealed⟩
  refine ⟨front ++ bares after.toList, ?_, frontSealed.append closed (apart_before_break starts)⟩
  rw [spell_append, spell_bares, spelled, String.toList_append]

/-- A sealed text may stand in parentheses behind another one. -/
theorem enclosed {front : List Lexeme} (closed : Sealed m front)
    (opening : before.toList = spell front ++ ['(']) (inner : Seals n after) :
    Seals (m + n) (before ++ after ++ ")") := by
  rcases inner with ⟨lexemes, spelled, innerSealed⟩
  refine ⟨front ++ .bare '(' :: (lexemes ++ [.bare ')']), ?_,
    closed.append innerSealed.parenthesized (apart_before_break rfl)⟩
  simp [spelled, opening, Lexeme.spell]

/-- Behind a sealed text and a space, another one may stand in parentheses. -/
theorem embraced (front : Seals m before) (inner : Seals n after) :
    Seals (m + n) (before ++ " (" ++ after ++ ")") := by
  rcases front with ⟨lexemes, spelled, closed⟩
  have opening := closed.append (show Sealed 0 (bares " ".toList) by decide) (apart_before_break rfl)
  refine enclosed opening ?_ inner
  simp [spelled]

theorem parenthesized (inner : Seals n after) : Seals n (parenthesized after) := by
  have closed : Seals (0 + n) ("(" ++ after ++ ")") := enclosed Sealed.nil rfl inner
  rwa [Nat.zero_add] at closed

/-- Sealed texts with glue between them are sealed together. -/
theorem joined (glue : String) (between : Glue (bares glue.toList)) {texts : List String}
    (each : ∀ text ∈ texts, Seals 0 text) : Seals 0 (joined glue texts) := by
  fun_induction Policy.joined glue texts with
  | case1 => exact words Sealed.nil
  | case2 text => exact each text List.mem_cons_self
  | case3 text rest _ inductionHypothesis =>
    have others := inductionHypothesis fun other member => each other (List.mem_cons_of_mem _ member)
    exact glued (each text List.mem_cons_self) glue between others

end Seals

/-! ## Names and constants -/

/-- Names do not begin with a capital. -/
theorem unconnected_of_startsLow {lexemes : List Lexeme} (low : StartsLow lexemes) :
    Unconnected lexemes := by
  rcases low with ⟨first, rest, equal, starts⟩
  rw [equal]
  refine Unconnected.of_head ?_ ?_ rest
  · rintro rfl
    exact absurd starts (by decide)
  · rintro rfl
    exact absurd starts (by decide)

/-- Numbers do not begin with a capital. -/
theorem unconnected_of_numeral {cs : List Char} (numeral : Numeral cs) : Unconnected (bares cs) := by
  rcases numeral.low with ⟨first, rest, equal, low⟩
  rw [equal]
  refine Unconnected.of_head ?_ ?_ (bares rest)
  · rintro same
    rw [Lexeme.bare.inj same] at low
    exact absurd low (by decide)
  · rintro same
    rw [Lexeme.bare.inj same] at low
    exact absurd low (by decide)

/-- A compact word that the language writes itself is a value. -/
theorem sealsValue_word {text : String} (compact : Compact (bares text.toList))
    (starts : text.toList.head?.any (fun c => c != 'A' && c != 'O') = true) : SealsValue text := by
  refine ⟨_, spell_bares _, compact, ?_⟩
  cases spelled : text.toList with
  | nil =>
    rw [spelled] at starts
    cases starts
  | cons first rest =>
    rw [spelled, List.head?_cons, Option.any_some, Bool.and_eq_true, bne_iff_ne, bne_iff_ne] at starts
    exact Unconnected.of_head (fun same => starts.1 (Lexeme.bare.inj same))
      (fun same => starts.2 (Lexeme.bare.inj same)) (bares rest)

theorem seals_identifier (name : Identifier) : Seals 0 name.render :=
  ⟨name.lexemes, name.spell_lexemes, name.compact_lexemes.closed⟩

theorem seals_identifiers (names : List Identifier) :
    ∀ text ∈ names.map Identifier.render, Seals 0 text := by
  intro text member
  rcases List.mem_map.mp member with ⟨name, _, rendered⟩
  exact rendered ▸ seals_identifier name

theorem toList_literal (text : String) : (literal text).toList = enclosed '\'' text.toList :=
  String.toList_ofList

theorem sealsValue_identifier (name : Identifier) : SealsValue name.render :=
  ⟨name.lexemes, name.spell_lexemes, name.compact_lexemes,
    unconnected_of_startsLow name.startsLow_lexemes⟩

theorem sealsValue_literal (text : String) : SealsValue (literal text) :=
  ⟨_, (spell_quoted _ _).trans (toList_literal text).symm, Compact.quoted rfl _,
    Unconnected.quoted _ _ _⟩

theorem sealsValue_numeral {text : String} (numeral : Numeral text.toList) : SealsValue text :=
  ⟨bares text.toList, spell_bares _, numeral.compact, unconnected_of_numeral numeral⟩

theorem sealsValue_integerText {n : Int} {text : String} (written : integerText n = .ok text) :
    SealsValue text := by
  unfold integerText at written
  split_ifs at written
  · cases written
    refine sealsValue_numeral ?_
    rw [String.toList_append]
    exact (magnitude_repr _).minus
  · cases written
    exact sealsValue_numeral (magnitude_repr _).numeral

theorem sealsValue_date {text : String} (dated : ∀ c ∈ text.toList, isDateChar c = true) :
    SealsValue ("'" ++ text ++ "'") := by
  refine ⟨[.quoted '\'' text.toList], ?_, Compact.quoted rfl _, Unconnected.quoted _ _ _⟩
  rw [spell_quoted_date dated, String.toList_append, String.toList_append]
  rfl

/-! ## Values of the request -/

/-- The token of the subject, of which a claim is read. -/
private theorem sealed_claim (content : List Char) :
    Sealed 0 (bares "auth.jwt() ->> ".toList ++ [.quoted '\'' content]) :=
  (show Sealed 0 (bares "auth.jwt() ->> ".toList) by decide).append
    (Compact.quoted rfl content).closed (apart_behind_break rfl)

theorem sealsValue_claim (name : String) :
    SealsValue ("(auth.jwt() ->> " ++ literal name ++ ")") := by
  refine ⟨_, ?_, Compact.parenthesized (sealed_claim name.toList), Unconnected.of_head (by decide) (by decide) _⟩
  simp [Lexeme.spell, toList_literal]

/-- A setting of the session and what may stand behind it. -/
private theorem sealsValue_setting (key cast : String)
    (compact : Compact (bares cast.toList)) :
    SealsValue ("current_setting(" ++ literal key ++ ", true)" ++ cast) := by
  have arguments : Sealed 0 ([.quoted '\'' key.toList] ++ bares ", true".toList) :=
    (Compact.quoted rfl key.toList).closed.append
      (show Sealed 0 (bares ", true".toList) by decide) (apart_before_break rfl)
  have name : Compact (bares "current_setting".toList) := ⟨by decide, rfl⟩
  have call := name.append (Compact.parenthesized arguments) (apart_before_break rfl)
  refine ⟨_, ?_, call.append compact (apart_behind_break ?_), Unconnected.of_head (by decide) (by decide) _⟩
  · simp [Lexeme.spell, toList_literal]
  · rw [← List.cons_append, ← List.append_assoc, List.getLast?_concat]
    rfl

private theorem sealsValue_settingOf (key : QualifiedName) (type : SettingType) :
    SealsValue (ContextValue.settingOf key type).sql := by
  have cast : ∀ shown : SettingType, Compact (bares ("::".toList ++ shown.name.toList)) := by
    intro shown
    cases shown <;> exact ⟨by decide, rfl⟩
  cases type with
  | text =>
    have plain := sealsValue_setting key.text "" ⟨Sealed.nil, rfl⟩
    rwa [String.append_empty] at plain
  | _ =>
    refine (congrArg SealsValue (String.append_assoc ..)).mpr (sealsValue_setting key.text _ ?_)
    rw [String.toList_append]
    exact cast _

theorem ContextValue.Obtained.sealsValue {value : ContextValue} (obtained : value.Obtained) :
    SealsValue value.sql := by
  cases obtained with
  | subject => exact sealsValue_word ⟨by decide, rfl⟩ rfl
  | subjectRole => exact sealsValue_word ⟨by decide, rfl⟩ rfl
  | token => exact sealsValue_word ⟨by decide, rfl⟩ rfl
  | currentUser => exact sealsValue_word ⟨by decide, rfl⟩ rfl
  | @claim name _ accepted =>
    rcases claim_eq_ok.mp accepted with ⟨-, rfl⟩
    exact sealsValue_claim name
  | @setting key type _ accepted =>
    rcases setting_eq_ok.mp accepted with ⟨checked, known, -, -, rfl⟩
    exact sealsValue_settingOf checked known

/-! ## Texts that the language writes itself -/

theorem IsContext.sealsValue {sql : String} (context : IsContext sql) : SealsValue sql := by
  rcases context with ⟨value, obtained, equal⟩
  exact equal ▸ obtained.sealsValue

theorem IsPredicate.seals {sql : String} (predicate : IsPredicate sql) : Seals 0 sql := by
  rcases predicate with equal | ⟨role, equal⟩
  · subst equal
    exact Seals.words (by decide)
  · subst equal
    have claim : Seals 0 "(auth.jwt() ->> 'role')" :=
      ⟨_, rfl, (Compact.parenthesized (sealed_claim "role".toList)).closed⟩
    have compared := claim.glued " = " (by decide) (sealsValue_literal role).seals
    rwa [show "(auth.jwt() ->> 'role') = " = "(auth.jwt() ->> 'role')" ++ " = " from rfl]

theorem IsMembership.seals {sql : String} (membership : IsMembership sql) : Seals 0 sql := by
  rcases membership with ⟨table, key, member, equal⟩
  subst equal
  have opening : Seals 0 "SELECT" := Seals.words (by decide)
  have selected := opening.glued " " (by decide) (seals_identifier key)
  have found := selected.glued " FROM " (by decide) (seals_identifier table)
  have filtered := found.glued " WHERE " (by decide) (seals_identifier member)
  exact filtered.glued " = " (by decide) ContextValue.Obtained.subject.sealsValue.seals

theorem IsMembership.seals_of_range {sql inner : String} {range : Operand}
    (membership : IsMembership sql) (context : range = .context sql)
    (written : range.render = .ok inner ∨ ∃ query, range = .query query ∧ query.render = .ok inner) :
    Seals 0 inner := by
  rw [context] at written
  rcases written with written | ⟨_, impossible, _⟩
  · unfold Operand.render at written
    rw [← Except.ok.inj written]
    exact membership.seals
  · cases impossible

/-- A constant, a column or a value of the request, as it stands in a comparison. -/
theorem Operand.sealsValue_of_render {operand : Operand} {text : String} (genuine : operand.Genuine)
    (simple : ∀ condition, operand ≠ .condition condition) (direct : ∀ query, operand ≠ .query query)
    (written : operand.render = .ok text) : SealsValue text := by
  cases operand with
  | null =>
    unfold render at written
    cases written
    exact sealsValue_word ⟨by decide, rfl⟩ rfl
  | truth value =>
    unfold render at written
    cases written
    cases value <;> exact sealsValue_word ⟨by decide, rfl⟩ rfl
  | integer value =>
    unfold render at written
    exact sealsValue_integerText written
  | number value =>
    unfold render at written
    cases written
    exact sealsValue_numeral (numeral_write _)
  | text value =>
    unfold render at written
    cases written
    exact sealsValue_literal value
  | date value =>
    unfold render at written
    cases written
    exact sealsValue_date (isDated_date value)
  | dateTime value =>
    unfold render at written
    cases written
    exact sealsValue_date (isDated_dateTime value)
  | context sql =>
    unfold render at written
    cases written
    exact IsContext.sealsValue genuine
  | column column =>
    unfold render at written
    cases written
    exact sealsValue_identifier column.name
  | condition condition => exact absurd rfl (simple condition)
  | query query => exact absurd rfl (direct query)
  | foreign | unwritten => exact genuine.elim

/-! ## Expressions -/

theorem Comparator.seals_sign (comparator : Comparator) : Seals 0 comparator.sign := by
  cases comparator <;> exact Seals.words (by decide)

theorem JoinKind.seals_keyword (kind : JoinKind) : Seals 0 kind.keyword := by
  cases kind <;> exact Seals.words (by decide)

/-- A column and a range in parentheses. -/
theorem Column.seals_range (column : Column) {text : String} (inner : Seals 0 text) :
    Seals 0 (column.render ++ " IN (" ++ text ++ ")") := by
  have opening := Sealed.append column.name.compact_lexemes.closed
    (show Sealed 0 (bares " IN ".toList) by decide) (apart_before_break rfl)
  refine Seals.enclosed opening ?_ inner
  simp [Column.render, Identifier.spell_lexemes]

/-- A function name and arguments in parentheses. -/
theorem compact_call (name : QualifiedName) {arguments : List Lexeme} (inner : Sealed 0 arguments) :
    Compact (bares name.text.toList ++ .bare '(' :: (arguments ++ [.bare ')'])) :=
  (Compact.bares name.isInert_of_mem).append (Compact.parenthesized inner) (apart_before_break rfl)

mutual

/-- Every condition that programs can build is written as a sealed text. -/
theorem Condition.seals_of_render : ∀ {condition : Condition} {text : String}, condition.Genuine →
    condition.render = .ok text → Seals 0 text
  | .junction connective parts, text, genuine, written => by
    rcases Condition.render_junction_eq_ok.mp written with ⟨texts, partsWritten, rfl⟩
    rw [Condition.Genuine] at genuine
    refine Seals.joined _ ?_ (seals_of_renderParts genuine.2.2 partsWritten)
    cases connective <;> decide
  | .negation inner, text, genuine, written => by
    rcases Condition.render_negation_eq_ok.mp written with ⟨innerText, innerWritten, rfl⟩
    rw [Condition.Genuine] at genuine
    have innerSeals := Condition.seals_of_render genuine innerWritten
    exact Seals.enclosed (show Sealed 0 (bares "NOT ".toList) by decide) rfl innerSeals
  | .comparison column comparator operand, text, genuine, written => by
    rcases Condition.render_comparison_eq_ok.mp written with ⟨value, valueWritten, rfl⟩
    rw [Condition.Genuine] at genuine
    have valueSeals := Operand.seals_of_render genuine valueWritten
    have opening := (seals_identifier column.name).glued " " (by decide) comparator.seals_sign
    exact opening.glued " " (by decide) valueSeals
  | .nullTest column negated, text, genuine, written => by
    rw [Condition.render_nullTest_eq_ok.mp written]
    have opening := seals_identifier column.name
    cases negated with
    | false => exact opening.followed (show Sealed 0 (bares " IS NULL".toList) by decide) rfl
    | true => exact opening.followed (show Sealed 0 (bares " IS NOT NULL".toList) by decide) rfl
  | .among column members, text, genuine, written => by
    rcases Condition.render_among_eq_ok.mp written with ⟨texts, membersWritten, rfl⟩
    rw [Condition.Genuine] at genuine
    exact column.seals_range (Seals.joined ", " (by decide) (seals_of_renderList genuine membersWritten))
  | .within column range, text, genuine, written => by
    rw [Condition.Genuine] at genuine
    rcases Condition.exists_of_render_within written with ⟨inner, innerWritten, rfl⟩
    refine column.seals_range ?_
    rcases genuine with genuine | ⟨sql, context, membership⟩
    · rcases innerWritten with innerWritten | ⟨query, isQuery, innerWritten⟩
      · exact Operand.seals_of_render genuine innerWritten
      · exact Operand.seals_of_query genuine isQuery innerWritten
    · exact membership.seals_of_range context innerWritten
  | .predicate sql, text, genuine, written => by
    rw [Condition.render_predicate_eq_ok.mp written]
    exact IsPredicate.seals genuine
  | .functionCall name arguments, text, genuine, written => by
    rcases Condition.render_functionCall_eq_ok.mp written with ⟨texts, argumentsWritten, rfl⟩
    rw [Condition.Genuine] at genuine
    have inner := Seals.joined ", " (by decide) (seals_of_renderList genuine argumentsWritten)
    refine Seals.enclosed (Compact.bares name.isInert_of_mem).closed ?_ inner
    rw [String.toList_append, spell_bares]
    rfl
  | .unwritten, text, genuine, written => genuine.elim

/-- The parts of a junction are sealed, with or without parentheses. -/
theorem seals_of_renderParts : ∀ {parts : List Condition} {texts : List String}, GenuineParts parts →
    renderParts parts = .ok texts → ∀ text ∈ texts, Seals 0 text
  | [], texts, _, written => by
    rw [renderParts_nil_eq_ok.mp written]
    exact fun _ impossible => nomatch impossible
  | part :: rest, texts, genuine, written => by
    rcases renderParts_cons_eq_ok.mp written with ⟨first, others, partWritten, restWritten, rfl⟩
    rw [GenuineParts] at genuine
    have partSeals := Condition.seals_of_render genuine.1 partWritten
    have restSeals := seals_of_renderParts genuine.2 restWritten
    intro text member
    rcases List.mem_cons.mp member with equal | member
    · subst equal
      split_ifs
      · exact partSeals.parenthesized
      · exact partSeals
    · exact restSeals text member

theorem Operand.seals_of_render {operand : Operand} {text : String} (genuine : operand.Genuine)
    (written : operand.render = .ok text) : Seals 0 text := by
  cases operand with
  | condition condition =>
    unfold Operand.render at written
    exact Condition.seals_of_render genuine written
  | query query =>
    rcases Operand.render_query_eq_ok.mp written with ⟨inner, queryWritten, rfl⟩
    exact (Subquery.seals_of_render genuine queryWritten).parenthesized
  | _ => exact (Operand.sealsValue_of_render genuine nofun nofun written).seals

/-- A query that is an operand is sealed without its parentheses, too. -/
theorem Operand.seals_of_query {operand : Operand} {query : Subquery} {text : String}
    (genuine : operand.Genuine) (isQuery : operand = .query query)
    (written : query.render = .ok text) : Seals 0 text := by
  cases operand with
  | query inner =>
    cases isQuery
    exact Subquery.seals_of_render genuine written
  | _ => cases isQuery

theorem seals_of_renderList : ∀ {operands : List Operand} {texts : List String},
    GenuineOperands operands → renderList operands = .ok texts → ∀ text ∈ texts, Seals 0 text
  | operands, texts, genuine, written =>
    seals_of_renderOperands genuine (renderList_eq_ok.mp written).1

theorem seals_of_renderOperands : ∀ {operands : List Operand} {texts : List String},
    GenuineOperands operands → renderOperands operands = .ok texts → ∀ text ∈ texts, Seals 0 text
  | [], texts, _, written => by
    rw [renderOperands_nil_eq_ok.mp written]
    exact fun _ impossible => nomatch impossible
  | operand :: rest, texts, genuine, written => by
    rcases renderOperands_cons_eq_ok.mp written with
      ⟨first, others, operandWritten, restWritten, rfl⟩
    rw [GenuineOperands] at genuine
    have operandSeals := Operand.seals_of_render genuine.1 operandWritten
    have restSeals := seals_of_renderOperands genuine.2 restWritten
    intro text member
    rcases List.mem_cons.mp member with equal | member
    · exact equal ▸ operandSeals
    · exact restSeals text member

theorem Subquery.seals_of_render : ∀ {query : Subquery} {text : String}, query.Genuine →
    query.render = .ok text → Seals 0 text
  | .mk table columns joins filter, text, genuine, written => by
    rcases Subquery.render_eq_ok.mp written with
      ⟨-, clauses, condition, joinsWritten, filterWritten, rfl⟩
    rw [Subquery.Genuine] at genuine
    have opening : Seals 0 "SELECT" := Seals.words (by decide)
    have selected := opening.glued " " (by decide)
      (Seals.joined ", " (by decide) (seals_identifiers columns))
    have found := selected.glued " FROM " (by decide) (seals_identifier table)
    exact seals_behind_filter genuine.2 filterWritten (seals_behind_joins genuine.1 joinsWritten found)

/-- Joins go behind a sealed text. -/
theorem seals_behind_joins : ∀ {joins : List Join} {clauses before : String}, GenuineJoins joins →
    renderJoins joins = .ok clauses → Seals 0 before → Seals 0 (before ++ clauses)
  | [], clauses, before, _, written, front => by
    rw [renderJoins_nil_eq_ok.mp written]
    rwa [String.append_empty]
  | join :: rest, clauses, before, genuine, written, front => by
    rcases renderJoins_cons_eq_ok.mp written with ⟨clause, others, joinWritten, restWritten, rfl⟩
    rw [GenuineJoins] at genuine
    have first := front.glued " " (by decide) (Join.seals_of_render genuine.1 joinWritten)
    have all := seals_behind_joins genuine.2 restWritten first
    rwa [String.append_assoc, String.append_assoc] at all

theorem Join.seals_of_render : ∀ {join : Join} {text : String}, join.Genuine →
    join.render = .ok text → Seals 0 text
  | .mk kind table condition, text, genuine, written => by
    rcases Join.render_eq_ok.mp written with ⟨inner, conditionWritten, rfl⟩
    rw [Join.Genuine] at genuine
    have opening := kind.seals_keyword.glued " " (by decide) (seals_identifier table)
    exact opening.glued " ON " (by decide) (Condition.seals_of_render genuine conditionWritten)

/-- A filter goes behind a sealed text. -/
theorem seals_behind_filter : ∀ {filter : Option Condition} {clause before : String},
    GenuineFilter filter → renderFilter filter = .ok clause → Seals 0 before →
    Seals 0 (before ++ clause)
  | none, clause, before, _, written, front => by
    rw [renderFilter_none_eq_ok.mp written]
    rwa [String.append_empty]
  | some condition, clause, before, genuine, written, front => by
    rcases renderFilter_some_eq_ok.mp written with ⟨inner, conditionWritten, rfl⟩
    rw [GenuineFilter] at genuine
    have filtered := front.glued " WHERE " (by decide)
      (Condition.seals_of_render genuine conditionWritten)
    rwa [String.append_assoc] at filtered

end

/-- The text in the parentheses of a range is sealed, whether a query or another operand is the
range. -/
theorem Operand.seals_of_range {range : Operand} {text : String}
    (genuine : range.Genuine ∨ ∃ sql, range = .context sql ∧ IsMembership sql)
    (written : range.render = .ok text ∨ ∃ query, range = .query query ∧ query.render = .ok text) :
    Seals 0 text := by
  rcases genuine with genuine | ⟨sql, context, membership⟩
  · rcases written with written | ⟨query, isQuery, written⟩
    · exact Operand.seals_of_render genuine written
    · exact Operand.seals_of_query genuine isQuery written
  · exact membership.seals_of_range context written

/-- A condition that programs can build is written as a sealed text, if it is written. -/
theorem Condition.seals_of_write {condition : Condition} {text : String}
    (obtained : condition.Obtained) (written : condition.write = .ok text) : Seals 0 text :=
  Condition.seals_of_render (Operand.Obtained.genuine obtained) (eq_of_withinDepth written)

/-! ## A hostile leaf -/

/-- A condition whose names and constants are meant to end the statement. -/
def hostileCondition : Condition :=
  .comparison ⟨⟨"owner\" = '", rfl, rfl⟩⟩ .equal (.text "') OR true; --")

theorem hostileCondition_render :
    hostileCondition.render = .ok "\"owner\"\" = '\" = ''') OR true; --'" := by
  rw [hostileCondition, Condition.render]
  unfold Operand.render
  rfl

theorem hostileCondition_obtained : hostileCondition.Obtained :=
  .equals (.text _) (Column.compare_of_write (Operand.write_text _) _ .equal)

end Policy
end PolicyStudio
