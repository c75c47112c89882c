import PolicyStudio.Proofs.Policy.Grouping

/-!
# The one reading of a condition

The text of a condition determines how its leaves are grouped.  A junction is recognized
by its connectives, and its parts are the pieces between them: pieces in parentheses are
junctions in their turn, because the text of no other condition is enclosed in this way.
A negation is recognized by its first word, which no leaf begins with.
-/

namespace PolicyStudio
namespace Policy

open Sql

/-! ## Groupings -/

/-- How a condition groups its leaves, with the texts of the leaves as they are. -/
inductive Grouping where
  | leaf (text : String)
  | negated (inner : Grouping)
  | connected (connective : Connective) (parts : List Grouping)

mutual

/-- The grouping of a condition. -/
def Condition.grouping : Condition → Except RenderError Grouping
  | .junction connective parts => do return .connected connective (← groupings parts)
  | .negation inner => do return .negated (← inner.grouping)
  | condition => do return .leaf (← condition.render)

/-- The groupings of the parts of a junction. -/
def groupings : List Condition → Except RenderError (List Grouping)
  | [] => .ok []
  | part :: rest => do return (← part.grouping) :: (← groupings rest)

end

/-- The condition is a negation. -/
def Condition.isNegation : Condition → Bool
  | .negation _ => true
  | _ => false

/-! ## Beginnings of texts -/

/-- A text that begins like a name. -/
def BeginsLow (text : String) : Prop :=
  ∃ c rest, text.toList = c :: rest ∧ (startsBare c = true ∨ c = '"')

theorem Identifier.beginsLow_render (name : Identifier) (more : String) :
    BeginsLow (name.render ++ more) := by
  rcases name.startsLow_lexemes with ⟨first, rest, equal, starts⟩
  have spelled := name.spell_lexemes
  rw [equal, spell_cons] at spelled
  cases first with
  | bare c =>
    refine ⟨c, spell rest ++ more.toList, ?_, Or.inl starts⟩
    rw [String.toList_append, ← spelled]
    rfl
  | quoted mark content =>
    refine ⟨mark, doubled mark content ++ [mark] ++ spell rest ++ more.toList, ?_,
      Or.inr (beq_iff_eq.mp starts)⟩
    rw [String.toList_append, ← spelled]
    rfl

theorem BeginsLow.not_prefix {text : String} (low : BeginsLow text) (c : Char) (rest : List Char)
    (begins : text.toList = c :: rest) (special : startsBare c = false) (unquoted : c ≠ '"') : False := by
  rcases low with ⟨d, _, equal, starts⟩
  rw [equal] at begins
  cases begins
  rcases starts with starts | starts
  · rw [special] at starts
    cases starts
  · exact unquoted starts

/-- A text that is neither in parentheses nor the text of a negation. -/
structure Plainly (text : String) : Prop where
  bare : ∀ inner, text ≠ parenthesized inner
  positive : ∀ inner, text ≠ "NOT (" ++ inner ++ ")"

theorem BeginsLow.plainly {text : String} (low : BeginsLow text) : Plainly text where
  bare inner equal := by
    refine low.not_prefix '(' (inner.toList ++ [')']) ?_ (by decide) (by decide)
    simp [equal, parenthesized]
  positive inner equal := by
    refine low.not_prefix 'N' ('O' :: 'T' :: ' ' :: '(' :: (inner.toList ++ [')'])) ?_
      (by decide) (by decide)
    simp [equal]

theorem plainly_call (name : QualifiedName) (arguments : String) :
    Plainly (name.text ++ "(" ++ arguments ++ ")") where
  bare inner equal := by
    have chars := congrArg String.toList equal
    simp only [parenthesized, String.toList_append] at chars
    cases spelled : name.text.toList with
    | nil =>
      have plain := name.plain
      rw [isQualified, spelled] at plain
      cases plain
    | cons c rest =>
      rw [spelled] at chars
      have calm := (name.isInert_of_mem c (spelled ▸ List.mem_cons_self)).1
      rw [(List.cons.inj chars).1] at calm
      exact absurd calm (by decide)
  positive inner equal := by
    have chars := congrArg String.toList equal
    have blankless : ' ' ∉ name.text.toList := fun member => (name.isInert_of_mem ' ' member).2 rfl
    have passed := isPrefixOf_call (by decide) (show '(' ∉ ['N', 'O', 'T'] by decide) blankless
      (arguments.toList ++ [')'])
    have same : name.text.toList ++ '(' :: (arguments.toList ++ [')']) =
        'N' :: 'O' :: 'T' :: ' ' :: '(' :: (inner.toList ++ [')']) := by
      simpa using chars
    rw [same] at passed
    cases passed

theorem IsPredicate.plainly {sql : String} (predicate : IsPredicate sql) : Plainly sql := by
  rcases predicate with equal | ⟨role, equal⟩
  · constructor
    · intro inner same
      have chars := congrArg String.toList (equal.symm.trans same)
      simp [parenthesized] at chars
    · intro inner same
      have chars := congrArg String.toList (equal.symm.trans same)
      simp at chars
  · constructor
    · intro inner same
      have ends := congrArg (fun text : String => text.toList.getLast?) (equal.symm.trans same)
      simp only [parenthesized, String.toList_append, toList_literal, enclosed, ← List.cons_append,
        ← List.append_assoc, List.getLast?_concat] at ends
      rw [show ")".toList = [')'] from rfl, List.getLast?_concat] at ends
      exact absurd (Option.some.inj ends) (by decide)
    · intro inner same
      have chars := congrArg String.toList (equal.symm.trans same)
      simp at chars

/-- The text of a leaf is neither in parentheses nor the text of a negation. -/
theorem Condition.plainly_of_render {condition : Condition} {text : String}
    (genuine : condition.Genuine) (single : condition.isJunction = false)
    (positive : condition.isNegation = false) (written : condition.render = .ok text) :
    Plainly text := by
  cases condition with
  | junction connective parts => cases single
  | negation inner => cases positive
  | comparison column comparator operand =>
    rcases Condition.render_comparison_eq_ok.mp written with ⟨value, -, rfl⟩
    simp only [String.append_assoc]
    exact (Identifier.beginsLow_render column.name _).plainly
  | nullTest column negated =>
    rw [Condition.render_nullTest_eq_ok.mp written]
    exact (Identifier.beginsLow_render column.name _).plainly
  | among column members =>
    rcases Condition.render_among_eq_ok.mp written with ⟨texts, -, rfl⟩
    simp only [String.append_assoc]
    exact (Identifier.beginsLow_render column.name _).plainly
  | within column range =>
    rcases Condition.exists_of_render_within written with ⟨inner, -, rfl⟩
    simp only [String.append_assoc]
    exact (Identifier.beginsLow_render column.name _).plainly
  | predicate sql =>
    rw [Condition.render_predicate_eq_ok.mp written]
    exact IsPredicate.plainly genuine
  | functionCall name arguments =>
    rcases Condition.render_functionCall_eq_ok.mp written with ⟨texts, -, rfl⟩
    exact plainly_call name _
  | unwritten => exact genuine.elim

/-- Only junctions are written in parentheses as a whole. -/
theorem Condition.bare_of_render {condition : Condition} {text : String}
    (genuine : condition.Genuine) (single : condition.isJunction = false)
    (written : condition.render = .ok text) (inner : String) : text ≠ parenthesized inner := by
  cases positive : condition.isNegation with
  | false => exact (Condition.plainly_of_render genuine single positive written).bare inner
  | true =>
    cases condition with
    | negation negated =>
      rcases Condition.render_negation_eq_ok.mp written with ⟨negatedText, -, rfl⟩
      intro same
      have chars := congrArg String.toList same
      simp [parenthesized] at chars
    | _ => cases positive

/-! ## The parts of a junction -/

/-- The pieces of a junction are the texts of its parts, in parentheses where a part is a
junction itself. -/
theorem exists_writes_of_renderParts {parts : List Condition} {pieces : List String}
    (written : renderParts parts = .ok pieces) (shallow : depthOfParts parts ≤ depthLimit) :
    ∃ texts, parts.mapM Condition.write = .ok texts ∧ pieces = List.zipWith enclosedPart parts texts := by
  induction parts generalizing pieces with
  | nil =>
    exact ⟨[], rfl, renderParts_nil_eq_ok.mp written⟩
  | cons part rest inductionHypothesis =>
    rcases renderParts_cons_eq_ok.mp written with ⟨text, others, partWritten, restWritten, rfl⟩
    rw [depthOfParts, Nat.max_le] at shallow
    rcases inductionHypothesis restWritten shallow.2 with ⟨texts, restTexts, zipped⟩
    have partText : part.write = .ok text := by
      rw [Condition.write, withinDepth_of_le shallow.1, partWritten]
    refine ⟨text :: texts, Outcome.mapM_cons_eq_ok.mpr ⟨text, texts, partText, restTexts, rfl⟩, ?_⟩
    rw [List.zipWith_cons_cons, ← zipped]
    rfl

/-- Cutting the text of a junction yields its pieces, and its connective between them. -/
theorem cutText_of_junction {connective : Connective} {parts : List Condition} {text : String}
    (genuine : (Condition.junction connective parts).Genuine)
    (plain : (Condition.junction connective parts).comparesPlainly = true)
    (written : (Condition.junction connective parts).render = .ok text) :
    ∃ pieces, renderParts parts = .ok pieces ∧
      cutText text = some (pieces, List.replicate (parts.length - 1) connective) := by
  rcases Condition.render_junction_eq_ok.mp written with ⟨pieces, partsWritten, rfl⟩
  rw [Condition.Genuine] at genuine
  rw [Condition.comparesPlainly] at plain
  have uncut := uncut_of_renderParts genuine.2.2 plain partsWritten
  have counted := length_of_renderParts partsWritten
  refine ⟨pieces, partsWritten, ?_⟩
  cases pieces with
  | nil =>
    rw [← counted] at genuine
    exact absurd genuine.1 (by decide)
  | cons first others =>
    rw [← counted]
    exact cutText_joined connective uncut

/-! ## Texts determine groupings -/

/-- The claim about a condition: any other one of the same text has the same grouping. -/
def ReadsUniquely (condition : Condition) : Prop :=
  ∀ {other : Condition} {text : String}, other.Genuine → other.comparesPlainly = true →
    condition.render = .ok text → other.render = .ok text →
    ∃ grouping, condition.grouping = .ok grouping ∧ other.grouping = .ok grouping

theorem parenthesized_inj {first second : String}
    (equal : parenthesized first = parenthesized second) : first = second := by
  have chars := congrArg String.toList equal
  simp only [parenthesized, String.toList_append] at chars
  exact String.toList_inj.mp (List.append_cancel_left (List.append_cancel_right chars))

/-- The grouping of a leaf is its text. -/
theorem Condition.grouping_of_leaf {condition : Condition} {text : String}
    (single : condition.isJunction = false) (positive : condition.isNegation = false)
    (written : condition.render = .ok text) : condition.grouping = .ok (.leaf text) := by
  cases condition with
  | junction connective parts => cases single
  | negation inner => cases positive
  | _ => exact Outcome.bind_eq_ok.mpr ⟨text, written, rfl⟩

/-- Parts with the same pieces are grouped alike. -/
theorem exists_groupings {parts others : List Condition} {pieces : List String}
    (unique : ∀ part ∈ parts, ReadsUniquely part) (genuine : GenuineParts parts)
    (plain : partsComparePlainly parts = true) (otherGenuine : GenuineParts others)
    (otherPlain : partsComparePlainly others = true) (written : renderParts parts = .ok pieces)
    (otherWritten : renderParts others = .ok pieces) :
    ∃ found, groupings parts = .ok found ∧ groupings others = .ok found := by
  have counted := (length_of_renderParts written).symm.trans (length_of_renderParts otherWritten)
  induction parts generalizing others pieces with
  | nil =>
    rw [List.eq_nil_of_length_eq_zero counted.symm]
    exact ⟨[], rfl, rfl⟩
  | cons part rest inductionHypothesis =>
    cases others with
    | nil => cases counted
    | cons other others =>
      rcases renderParts_cons_eq_ok.mp written with ⟨text, texts, partWritten, restWritten, rfl⟩
      rcases renderParts_cons_eq_ok.mp otherWritten with
        ⟨otherText, otherTexts, otherPartWritten, otherRestWritten, same⟩
      rw [GenuineParts] at genuine otherGenuine
      rw [partsComparePlainly, Bool.and_eq_true] at plain otherPlain
      -- A part in parentheses is a junction on both sides, because no other text is enclosed.
      have sameText : text = otherText := by
        have headed := (List.cons.inj same).1
        cases nested : part.isJunction <;> cases otherNested : other.isJunction <;>
          simp only [nested, otherNested, if_true, if_false, Bool.false_eq_true] at headed
        · exact headed
        · exact absurd headed (Condition.bare_of_render genuine.1 nested partWritten otherText)
        · exact absurd headed.symm
            (Condition.bare_of_render otherGenuine.1 otherNested otherPartWritten text)
        · exact parenthesized_inj headed
      rw [← sameText] at otherPartWritten
      rw [← (List.cons.inj same).2] at otherRestWritten
      rcases unique part List.mem_cons_self otherGenuine.1 otherPlain.1 partWritten otherPartWritten
        with ⟨first, firstFound, otherFound⟩
      rcases inductionHypothesis (fun inner member => unique inner (List.mem_cons_of_mem _ member))
        genuine.2 plain.2 otherGenuine.2 otherPlain.2 restWritten otherRestWritten
        (Nat.succ.inj counted) with ⟨found, restFound, othersFound⟩
      exact ⟨first :: found,
        Outcome.bind_eq_ok.mpr ⟨first, firstFound, Outcome.bind_eq_ok.mpr ⟨found, restFound, rfl⟩⟩,
        Outcome.bind_eq_ok.mpr ⟨first, otherFound, Outcome.bind_eq_ok.mpr ⟨found, othersFound, rfl⟩⟩⟩

/-- A connective is found in the texts of junctions and in no others. -/
theorem Condition.exists_cutText {condition : Condition} {text : String}
    (genuine : condition.Genuine) (plain : condition.comparesPlainly = true)
    (written : condition.render = .ok text) : ∃ pieces connectives,
      cutText text = some (pieces, connectives) ∧ (connectives = [] ↔ condition.isJunction = false) := by
  cases single : condition.isJunction with
  | false =>
    have uncut := Condition.uncut_of_render genuine plain single written
    exact ⟨[text], [], uncut.cutText_eq, iff_of_true rfl rfl⟩
  | true =>
    cases condition with
    | junction connective parts =>
      rcases cutText_of_junction genuine plain written with ⟨pieces, _, cutting⟩
      refine ⟨pieces, _, cutting, iff_of_false (fun none => ?_) Bool.noConfusion⟩
      rw [Condition.Genuine] at genuine
      have count := congrArg List.length none
      rw [List.length_replicate, List.length_nil] at count
      have several := genuine.1
      omega
    | _ => cases single

theorem Condition.isJunction_eq {condition other : Condition} {text : String}
    (genuine : condition.Genuine) (plain : condition.comparesPlainly = true)
    (written : condition.render = .ok text) (otherGenuine : other.Genuine)
    (otherPlain : other.comparesPlainly = true) (otherWritten : other.render = .ok text) :
    other.isJunction = condition.isJunction := by
  rcases Condition.exists_cutText genuine plain written with ⟨pieces, connectives, cutting, junction⟩
  rcases Condition.exists_cutText otherGenuine otherPlain otherWritten with
    ⟨_, _, otherCutting, otherJunction⟩
  have same := congrArg Prod.snd (Option.some.inj (cutting.symm.trans otherCutting))
  dsimp only at same
  rw [← same, junction] at otherJunction
  rw [Bool.eq_iff_iff, ← not_iff_not, Bool.not_eq_true, Bool.not_eq_true]
  exact otherJunction.symm

/-- A condition of the same text as a junction is a junction with the same pieces. -/
theorem ReadsUniquely.junction {connective : Connective} {parts : List Condition}
    (genuine : (Condition.junction connective parts).Genuine)
    (plain : (Condition.junction connective parts).comparesPlainly = true)
    (unique : ∀ part ∈ parts, ReadsUniquely part) :
    ReadsUniquely (.junction connective parts) := by
  intro other text otherGenuine otherPlain written otherWritten
  rcases cutText_of_junction genuine plain written with ⟨pieces, partsWritten, cutting⟩
  have single := Condition.isJunction_eq genuine plain written otherGenuine otherPlain otherWritten
  cases other with
  | junction otherConnective others =>
    rcases cutText_of_junction otherGenuine otherPlain otherWritten with
      ⟨otherPieces, othersWritten, otherCutting⟩
    have same := Option.some.inj (cutting.symm.trans otherCutting)
    have samePieces : pieces = otherPieces := congrArg Prod.fst same
    have sameConnectives : List.replicate (parts.length - 1) connective =
        List.replicate (others.length - 1) otherConnective := congrArg Prod.snd same
    rw [← samePieces] at othersWritten
    rw [Condition.Genuine] at genuine otherGenuine
    rw [Condition.comparesPlainly] at plain otherPlain
    rcases exists_groupings unique genuine.2.2 plain otherGenuine.2.2 otherPlain partsWritten
      othersWritten with ⟨found, partsFound, othersFound⟩
    have several := genuine.1
    have between : connective ∈ List.replicate (parts.length - 1) connective :=
      List.mem_replicate.mpr ⟨by omega, rfl⟩
    rw [sameConnectives] at between
    have sameConnective := List.eq_of_mem_replicate between
    exact ⟨.connected connective found, Outcome.bind_eq_ok.mpr ⟨found, partsFound, rfl⟩,
      Outcome.bind_eq_ok.mpr ⟨found, othersFound, sameConnective ▸ rfl⟩⟩
  | _ => cases single

/-- A condition of the same text as a negation is a negation. -/
theorem ReadsUniquely.negation {inner : Condition} (genuine : inner.Genuine)
    (plain : inner.comparesPlainly = true) (unique : ReadsUniquely inner) :
    ReadsUniquely (.negation inner) := by
  intro other text otherGenuine otherPlain written otherWritten
  have single : other.isJunction = (Condition.negation inner).isJunction :=
    Condition.isJunction_eq genuine plain written otherGenuine otherPlain otherWritten
  rcases Condition.render_negation_eq_ok.mp written with ⟨innerText, innerWritten, spelled⟩
  cases positive : other.isNegation with
  | false =>
    have plainly := Condition.plainly_of_render otherGenuine single positive otherWritten
    exact absurd spelled (plainly.positive innerText)
  | true =>
    cases other with
    | negation otherInner =>
      rcases Condition.render_negation_eq_ok.mp otherWritten with
        ⟨otherText, otherInnerWritten, otherSpelled⟩
      have same := congrArg String.toList (spelled.symm.trans otherSpelled)
      simp only [String.toList_append] at same
      have sameText := String.toList_inj.mp (List.append_cancel_left (List.append_cancel_right same))
      rw [← sameText] at otherInnerWritten
      rw [Condition.Genuine] at otherGenuine
      rw [Condition.comparesPlainly] at otherPlain
      rcases unique otherGenuine otherPlain innerWritten otherInnerWritten with
        ⟨found, innerFound, otherFound⟩
      exact ⟨.negated found, Outcome.bind_eq_ok.mpr ⟨found, innerFound, rfl⟩,
        Outcome.bind_eq_ok.mpr ⟨found, otherFound, rfl⟩⟩
    | _ => cases positive

/-- A condition of the same text as a leaf is a leaf. -/
theorem ReadsUniquely.leaf {condition : Condition} (genuine : condition.Genuine)
    (plain : condition.comparesPlainly = true) (single : condition.isJunction = false)
    (positive : condition.isNegation = false) : ReadsUniquely condition := by
  intro other text otherGenuine otherPlain written otherWritten
  have otherSingle :=
    (Condition.isJunction_eq genuine plain written otherGenuine otherPlain otherWritten).trans single
  have otherPositive : other.isNegation = false := by
    cases other with
    | negation inner =>
      rcases Condition.render_negation_eq_ok.mp otherWritten with ⟨innerText, -, spelled⟩
      have plainly := Condition.plainly_of_render genuine single positive written
      exact absurd spelled (plainly.positive innerText)
    | _ => rfl
  exact ⟨.leaf text, Condition.grouping_of_leaf single positive written,
    Condition.grouping_of_leaf otherSingle otherPositive otherWritten⟩

mutual

/-- The text of a condition has one reading. -/
theorem Condition.readsUniquely : ∀ {condition : Condition}, condition.Genuine →
    condition.comparesPlainly = true → ReadsUniquely condition
  | .junction connective parts, genuine, plain => by
    have unique := readsUniquely_of_mem (by rw [Condition.Genuine] at genuine; exact genuine.2.2)
      (by rw [Condition.comparesPlainly] at plain; exact plain)
    exact ReadsUniquely.junction genuine plain unique
  | .negation inner, genuine, plain => by
    rw [Condition.Genuine] at genuine
    rw [Condition.comparesPlainly] at plain
    exact ReadsUniquely.negation genuine plain (Condition.readsUniquely genuine plain)
  | .comparison .., genuine, plain => ReadsUniquely.leaf genuine plain rfl rfl
  | .nullTest .., genuine, plain => ReadsUniquely.leaf genuine plain rfl rfl
  | .among .., genuine, plain => ReadsUniquely.leaf genuine plain rfl rfl
  | .within .., genuine, plain => ReadsUniquely.leaf genuine plain rfl rfl
  | .predicate _, genuine, plain => ReadsUniquely.leaf genuine plain rfl rfl
  | .functionCall .., genuine, plain => ReadsUniquely.leaf genuine plain rfl rfl
  | .unwritten, genuine, _ => genuine.elim

/-- The texts of the parts of a junction have one reading each. -/
theorem readsUniquely_of_mem : ∀ {parts : List Condition}, GenuineParts parts →
    partsComparePlainly parts = true → ∀ part ∈ parts, ReadsUniquely part
  | [], _, _ => nofun
  | part :: rest, genuine, plain => by
    rw [GenuineParts] at genuine
    rw [partsComparePlainly, Bool.and_eq_true] at plain
    exact List.forall_mem_cons.mpr
      ⟨Condition.readsUniquely genuine.1 plain.1, readsUniquely_of_mem genuine.2 plain.2⟩

end

/-! ## What a reader finds -/

/-- Cutting the text of a condition that programs can build, at the connectives outside of
quotes and parentheses, yields the texts of the parts of a junction with its connective
between them, and of any other condition the text itself.  So the text has one reading:
every condition with the same text groups the same leaves in the same way. -/
theorem cutting_finds_the_grouping {condition : Condition} (obtained : condition.Obtained)
    (plain : condition.comparesPlainly = true) {text : String}
    (written : condition.write = .ok text) :
    (∀ connective parts, condition = .junction connective parts →
      ∃ texts, parts.mapM Condition.write = .ok texts ∧
        cutText text = some (List.zipWith enclosedPart parts texts,
          List.replicate (parts.length - 1) connective)) ∧
    (condition.isJunction = false → cutText text = some ([text], [])) ∧
    ∃ grouping, condition.grouping = .ok grouping ∧
      ∀ other : Condition, other.Obtained → other.comparesPlainly = true →
        other.write = .ok text → other.grouping = .ok grouping := by
  have genuine := Operand.Obtained.genuine obtained
  rw [Operand.Genuine] at genuine
  have rendered := eq_of_withinDepth written
  refine ⟨?_, ?_, ?_⟩
  · intro connective parts junction
    subst junction
    rcases cutText_of_junction genuine plain rendered with ⟨pieces, partsWritten, cutting⟩
    have shallow : depthOfParts parts ≤ depthLimit := by
      have within := le_of_withinDepth written
      rw [Condition.depth] at within
      omega
    rcases exists_writes_of_renderParts partsWritten shallow with ⟨texts, textsWritten, zipped⟩
    exact ⟨texts, textsWritten, zipped ▸ cutting⟩
  · intro single
    exact (Condition.uncut_of_render genuine plain single rendered).cutText_eq
  · have unique : ReadsUniquely condition := Condition.readsUniquely genuine plain
    rcases unique genuine plain rendered rendered with ⟨grouping, found, _⟩
    refine ⟨grouping, found, fun other otherObtained otherPlain otherWritten => ?_⟩
    have otherGenuine := Operand.Obtained.genuine otherObtained
    rw [Operand.Genuine] at otherGenuine
    rcases unique otherGenuine otherPlain rendered (eq_of_withinDepth otherWritten) with
      ⟨_, sameFound, otherFound⟩
    rw [otherFound, ← sameFound, found]

/-- A junction with another one and a hostile leaf below it, twice. -/
def nestedCondition : Condition :=
  hostileCondition.and [alwaysTrue.or [hostileCondition.not]]

/-- The hostile leaf does not hide the grouping of the nested junctions. -/
theorem cutting_finds_the_grouping_of_nested : ∃ text, nestedCondition.write = .ok text ∧
    nestedCondition.comparesPlainly = true ∧
    (∀ connective parts, nestedCondition = .junction connective parts →
      ∃ texts, parts.mapM Condition.write = .ok texts ∧
        cutText text = some (List.zipWith enclosedPart parts texts,
          List.replicate (parts.length - 1) connective)) ∧
    (nestedCondition.isJunction = false → cutText text = some ([text], [])) ∧
    ∃ grouping, nestedCondition.grouping = .ok grouping ∧
      ∀ other : Condition, other.Obtained → other.comparesPlainly = true →
        other.write = .ok text → other.grouping = .ok grouping := by
  have obtained : nestedCondition.Obtained := by
    refine .and (List.cons_ne_nil _ _) hostileCondition_obtained ?_
    refine List.forall_mem_singleton.mpr (.or (List.cons_ne_nil _ _) .alwaysTrue ?_)
    exact List.forall_mem_singleton.mpr (.not hostileCondition_obtained)
  have plain : nestedCondition.comparesPlainly = true := rfl
  have written : ∃ text, nestedCondition.write = .ok text := by
    have junction : nestedCondition = .junction .all [hostileCondition,
        .junction .any [.predicate "true", .negation hostileCondition]] := rfl
    have shallow : nestedCondition.depth ≤ depthLimit := by
      rw [junction, hostileCondition]
      simp only [Condition.depth, depthOfParts]
      unfold Operand.depth
      decide
    rw [Condition.write, withinDepth, if_neg (Nat.not_lt.mpr shallow), junction]
    simp only [Condition.render, renderParts, hostileCondition_render]
    exact ⟨_, rfl⟩
  rcases written with ⟨text, written⟩
  exact ⟨text, written, plain, cutting_finds_the_grouping obtained plain written⟩

end Policy
end PolicyStudio
