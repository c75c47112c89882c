import PolicyStudio.Proofs.Sql.Constants

/-!
# Outlines

The outline of a text is what is seen of it outside of quotes and parentheses: a quoted
text is seen as one mark, and what is in parentheses as the opening one.  A keyword or a
sign of comparison in the outline may regroup what stands around the text, and a space or
a comma ends the word that the text begins with.  In the rest of the text neither matters.

Outlines are put together like the texts, so that a keyword is in one of the pieces if the
pieces are kept apart.
-/

namespace PolicyStudio
namespace Sql

/-! ## What is seen from outside -/

/-- How a lexeme looks outside of parentheses. -/
def Lexeme.seen : Lexeme → Char
  | .bare c => c
  | .quoted .. => '"'

/-- What is seen outside of quotes and parentheses. -/
def outline (depth : Nat) : List Lexeme → List Char
  | [] => []
  | first :: rest =>
    let behind := outline ((first.level? depth).getD 0) rest
    if depth = 0 then first.seen :: behind else behind

theorem outline_append {depth reached : Nat} {first : List Lexeme} (second : List Lexeme)
    (matched : level depth first = some reached) :
    outline depth (first ++ second) = outline depth first ++ outline reached second := by
  induction first generalizing depth with
  | nil =>
    cases matched
    rfl
  | cons lexeme rest inductionHypothesis =>
    rw [level_cons] at matched
    rcases Option.bind_eq_some_iff.mp matched with ⟨next, stepped, restMatched⟩
    have behind := inductionHypothesis restMatched
    simp only [List.cons_append, outline, stepped, Option.getD_some, behind]
    split_ifs <;> rfl

/-- Within parentheses nothing is seen. -/
theorem outline_succ {depth reached : Nat} {lexemes : List Lexeme}
    (matched : level depth lexemes = some reached) : outline (depth + 1) lexemes = [] := by
  induction lexemes generalizing depth with
  | nil => rfl
  | cons first rest inductionHypothesis =>
    rw [level_cons] at matched
    rcases Option.bind_eq_some_iff.mp matched with ⟨next, stepped, restMatched⟩
    rw [outline, Lexeme.level?_add stepped, Option.getD_some, if_neg (Nat.succ_ne_zero depth)]
    exact inductionHypothesis restMatched

theorem outline_parenthesized {n : Nat} {inner : List Lexeme} (closed : Sealed n inner) :
    outline 0 (.bare '(' :: (inner ++ [.bare ')'])) = ['('] := by
  change '(' :: outline 1 (inner ++ [.bare ')']) = ['(']
  rw [outline_append _ (closed.level_eq 1), outline_succ closed.balanced]
  rfl

/-- Characters that enclose nothing are seen as they are. -/
theorem outline_bares {cs : List Char} (single : ∀ c ∈ cs, c ≠ '(' ∧ c ≠ ')') :
    outline 0 (bares cs) = cs := by
  induction cs with
  | nil => rfl
  | cons c rest inductionHypothesis =>
    have level : (Lexeme.bare c).level? 0 = some 0 := by
      have first := single c List.mem_cons_self
      rw [Lexeme.level?, if_neg first.1, if_neg first.2]
    have behind := inductionHypothesis fun d member => single d (List.mem_cons_of_mem _ member)
    change outline 0 (.bare c :: bares rest) = _
    rw [outline, level, Option.getD_some, behind]
    rfl

/-! ## Words that regroup -/

/-- The words that connect, deny, test or match. -/
def keywords : List String :=
  ["AND", "OR", "NOT", "IN", "IS", "LIKE", "ILIKE"]

/-- The word is a keyword, in whatever case. -/
def isKeyword (word : List Char) : Bool :=
  keywords.contains (String.ofList (word.map Char.toUpper))

/-- The signs of comparison are made of these characters. -/
def isSign (c : Char) : Bool :=
  ['=', '<', '>'].contains c

/-- The words between all characters that continue none. -/
def wordsOf (cs : List Char) : List (List Char) :=
  cs.splitOnP fun c => !continuesPlain c

/-- A keyword or a sign is among the characters. -/
def regroups (cs : List Char) : Bool :=
  cs.any isSign || (wordsOf cs).any isKeyword

/-- No keyword and no sign stands in the text outside of quotes and parentheses. -/
def isClosed (text : String) : Bool :=
  (lex text.toList).any fun lexemes => !regroups (outline 0 lexemes)

theorem isSign_of_continuesPlain {c : Char} (plain : continuesPlain c = true) : isSign c = false := by
  simp only [isSign, List.contains_eq_mem, decide_eq_false_iff_not, List.mem_cons, List.not_mem_nil,
    or_false]
  rintro (rfl | rfl | rfl) <;> exact absurd plain (by decide)

theorem regroups_nil : regroups [] = false := by decide

/-- Between two pieces that are kept apart no keyword arises. -/
theorem regroups_append_cons (front back : List Char) {between : Char}
    (apart : continuesPlain between = false) (unsigned : isSign between = false) :
    regroups (front ++ between :: back) = (regroups front || regroups back) := by
  have ends : (!continuesPlain between) = true := by rw [apart, Bool.not_false]
  have words : wordsOf (front ++ between :: back) = wordsOf front ++ wordsOf back :=
    List.splitOnP_append_cons front back ends
  simp only [regroups, words, List.any_append, List.any_cons, unsigned, Bool.false_or]
  ac_rfl

/-- A single word regroups if it is a keyword. -/
theorem regroups_word {word : List Char} (plain : ∀ c ∈ word, continuesPlain c = true) :
    regroups word = isKeyword word := by
  have whole : wordsOf word = [word] := by
    refine List.splitOnP_eq_singleton fun c member => ?_
    rw [plain c member, Bool.not_true]
  have unsigned : word.any isSign = false := by
    rw [List.any_eq_false]
    intro c member
    rw [isSign_of_continuesPlain (plain c member)]
    exact Bool.false_ne_true
  rw [regroups, whole, unsigned, Bool.false_or, List.any_cons, List.any_nil, Bool.or_false]

/-- A line feed at the end hides no word. -/
theorem regroups_lineOf (cs : List Char) : regroups (lineOf cs) = regroups cs := by
  rcases eq_lineOf_or cs with equal | equal
  · exact congrArg regroups equal.symm
  · calc regroups (lineOf cs) = (regroups (lineOf cs) || regroups []) := by rw [regroups_nil, Bool.or_false]
      _ = regroups (lineOf cs ++ ['\n']) := (regroups_append_cons _ _ (by decide) (by decide)).symm
      _ = regroups cs := congrArg regroups equal.symm

/-- In a path the words of the parts are apart. -/
theorem regroups_joinDots (parts : List (List Char)) : regroups (joinDots parts) = parts.any regroups := by
  fun_induction joinDots parts with
  | case1 => rfl
  | case2 part => rw [List.any_cons, List.any_nil, Bool.or_false]
  | case3 part rest _ inductionHypothesis =>
    rw [regroups_append_cons part _ (by decide) (by decide), inductionHypothesis, List.any_cons]

/-! ## Characters that end a word -/

/-- Nothing among the characters ends a word. -/
def isWhole (cs : List Char) : Bool :=
  cs.all fun c => c != ' ' && c != ','

theorem isWhole_of_forall {cs : List Char} (plain : ∀ c ∈ cs, c ≠ ' ' ∧ c ≠ ',') : isWhole cs = true := by
  rw [isWhole, List.all_eq_true]
  intro c member
  simp only [Bool.and_eq_true, bne_iff_ne]
  exact plain c member

theorem isWhole_joinDots (parts : List (List Char)) : isWhole (joinDots parts) = parts.all isWhole := by
  fun_induction joinDots parts with
  | case1 => rfl
  | case2 part => rw [List.all_cons, List.all_nil, Bool.and_true]
  | case3 part rest _ inductionHypothesis =>
    have dot : isWhole ('.' :: joinDots rest) = isWhole (joinDots rest) := rfl
    rw [isWhole, List.all_append, ← isWhole, ← isWhole, dot, inductionHypothesis, List.all_cons]

/-! ## Outlines of names -/

/-- Characters of words enclose nothing and end no word. -/
theorem ne_of_continuesPlain {c : Char} (plain : continuesPlain c = true ∨ c = '\n' ∨ c = '.') :
    (c ≠ '(' ∧ c ≠ ')') ∧ c ≠ ' ' ∧ c ≠ ',' := by
  refine ⟨⟨?_, ?_⟩, ?_, ?_⟩ <;> rintro rfl <;> exact absurd plain (by decide)

/-- How a part of a path is seen. -/
def seenPart (part : List Char) : List Char :=
  if isBarePart part then part else ['"']

/-- A bare part is one word, but for a line feed. -/
theorem continuesPlain_of_isBarePart {part : List Char} (bare : isBarePart part = true) :
    ∀ c ∈ lineOf part, continuesPlain c = true := by
  intro c member
  refine continuesPlain_of_continuesBare ?_
  exact continuesBare_of_isWordOf (Bool.and_eq_true_iff.mp bare).1 c member

theorem ne_of_isBarePart {part : List Char} (bare : isBarePart part = true) :
    ∀ c ∈ part, (c ≠ '(' ∧ c ≠ ')') ∧ c ≠ ' ' ∧ c ≠ ',' := by
  intro c member
  refine ne_of_continuesPlain ?_
  rcases mem_lineOf member with feed | inside
  · exact Or.inr (Or.inl feed)
  · exact Or.inl (continuesPlain_of_isBarePart bare c inside)

theorem outline_partLexemes (part : List Char) : outline 0 (partLexemes part) = seenPart part := by
  unfold partLexemes seenPart
  split_ifs with bare
  · exact outline_bares fun c member => (ne_of_isBarePart bare c member).1
  · rfl

theorem outline_pathLexemes (parts : List (List Char)) :
    outline 0 (pathLexemes parts) = joinDots (parts.map seenPart) := by
  fun_induction pathLexemes parts with
  | case1 => rfl
  | case2 part => exact outline_partLexemes part
  | case3 part rest several inductionHypothesis =>
    rw [outline_append _ (compact_partLexemes part).closed.balanced, outline_partLexemes]
    change seenPart part ++ '.' :: outline 0 (pathLexemes rest) = _
    rw [inductionHypothesis]
    cases rest with
    | nil => exact absurd rfl several
    | cons next rest => rfl

/-- A part of the name is a keyword and is written without quotes. -/
def Identifier.namesKeyword (name : Identifier) : Bool :=
  (pathParts name.text).any fun part => isBarePart part && isKeyword (lineOf part)

theorem Identifier.outline_lexemes (name : Identifier) :
    outline 0 name.lexemes = joinDots ((pathParts name.text).map seenPart) :=
  outline_pathLexemes _

theorem Identifier.regroups_outline (name : Identifier) :
    regroups (outline 0 name.lexemes) = name.namesKeyword := by
  have part : ∀ part, regroups (seenPart part) = (isBarePart part && isKeyword (lineOf part)) := by
    intro part
    unfold seenPart
    cases bare : isBarePart part with
    | true =>
      rw [if_pos rfl, Bool.true_and, ← regroups_lineOf]
      exact regroups_word (continuesPlain_of_isBarePart bare)
    | false =>
      rw [if_neg Bool.false_ne_true, Bool.false_and]
      decide
  rw [name.outline_lexemes, regroups_joinDots, List.any_map, namesKeyword]
  exact List.any_congr rfl fun shown => part shown

theorem Identifier.isWhole_outline (name : Identifier) : isWhole (outline 0 name.lexemes) = true := by
  rw [name.outline_lexemes, isWhole_joinDots, List.all_map, List.all_eq_true]
  intro part _
  change isWhole (seenPart part) = true
  unfold seenPart
  split_ifs with bare
  · exact isWhole_of_forall fun c member => (ne_of_isBarePart bare c member).2
  · rfl

/-- A part of the name is a keyword. -/
def QualifiedName.namesKeyword (name : QualifiedName) : Bool :=
  (Text.cutAt '.' (lineOf name.text.toList)).any isKeyword

theorem QualifiedName.continuesPlain_of_mem (name : QualifiedName) {piece : List Char}
    (listed : piece ∈ Text.cutAt '.' (lineOf name.text.toList)) :
    ∀ c ∈ piece, continuesPlain c = true := by
  have plain := name.plain
  rw [isQualified, List.all_eq_true] at plain
  exact continuesPlain_of_isWordOf (plain piece listed)

theorem QualifiedName.regroups_text (name : QualifiedName) :
    regroups name.text.toList = name.namesKeyword := by
  rw [← regroups_lineOf, ← joinDots_cutAt (lineOf name.text.toList), regroups_joinDots, namesKeyword]
  rw [Bool.eq_iff_iff, List.any_eq_true, List.any_eq_true]
  refine exists_congr fun piece => and_congr_right fun listed => ?_
  rw [regroups_word (name.continuesPlain_of_mem listed)]

theorem QualifiedName.ne_of_mem (name : QualifiedName) :
    ∀ c ∈ name.text.toList, (c ≠ '(' ∧ c ≠ ')') ∧ c ≠ ' ' ∧ c ≠ ',' := by
  intro c member
  refine ne_of_continuesPlain ?_
  rcases mem_lineOf member with feed | inside
  · exact Or.inr (Or.inl feed)
  · rcases Text.mem_cutAt '.' inside with dot | ⟨piece, listed, within⟩
    · exact Or.inr (Or.inr dot)
    · exact Or.inl (name.continuesPlain_of_mem listed c within)

/-! ## Outlines of numbers -/

/-- A character of a number that has digits. -/
def isNumeralChar (c : Char) : Bool :=
  c.isDigit || ['e', '.', '-', '+'].contains c

/-- The characters of a word are among those that it was cut from. -/
theorem mem_of_mem_wordsOf {cs word : List Char} (listed : word ∈ wordsOf cs) : ∀ c ∈ word, c ∈ cs := by
  induction cs generalizing word with
  | nil =>
    rw [List.mem_singleton.mp listed]
    exact fun _ impossible => nomatch impossible
  | cons first rest inductionHypothesis =>
    intro c member
    rw [wordsOf, List.splitOnP_cons_eq_if_modifyHead, ← wordsOf] at listed
    split_ifs at listed
    -- A character that continues no word begins a new one; any other goes to the first word.
    · rcases List.mem_cons.mp listed with empty | listed
      · rw [empty] at member
        cases member
      · exact List.mem_cons_of_mem _ (inductionHypothesis listed c member)
    · rcases List.exists_cons_of_ne_nil (List.splitOnP_ne_nil (fun c => !continuesPlain c) rest) with
        ⟨head, tail, words⟩
      rw [← wordsOf] at words
      rw [words, List.modifyHead_cons] at listed
      rcases List.mem_cons.mp listed with grown | listed
      · rw [grown] at member
        rcases List.mem_cons.mp member with equal | member
        · exact equal ▸ List.mem_cons_self
        · exact List.mem_cons_of_mem _ (inductionHypothesis (words ▸ List.mem_cons_self) c member)
      · exact List.mem_cons_of_mem _
          (inductionHypothesis (words ▸ List.mem_cons_of_mem _ listed) c member)

/-- What holds of the ten digits and the four other characters holds in every number. -/
theorem of_isNumeralChar {p : Char → Prop} (each : ∀ n < 10, p (Char.ofNat (48 + n)))
    (others : p 'e' ∧ p '.' ∧ p '-' ∧ p '+') {c : Char} (numeral : isNumeralChar c = true) : p c := by
  simp only [isNumeralChar, Bool.or_eq_true, List.contains_eq_mem, decide_eq_true_eq, List.mem_cons,
    List.not_mem_nil, or_false] at numeral
  rcases numeral with digit | rfl | rfl | rfl | rfl
  · have bounds := Bool.and_eq_true_iff.mp digit
    have low : 48 ≤ c.toNat := of_decide_eq_true bounds.1
    have high : c.toNat ≤ 57 := of_decide_eq_true bounds.2
    have shifted := each (c.toNat - 48) (by omega)
    rwa [Nat.add_sub_cancel' low, Char.ofNat_toNat] at shifted
  · exact others.1
  · exact others.2.1
  · exact others.2.2.1
  · exact others.2.2.2

/-- The capital of no character of a number begins a keyword. -/
theorem regroups_of_isNumeralChar {cs : List Char} (numeral : ∀ c ∈ cs, isNumeralChar c = true) :
    regroups cs = false := by
  have unsigned : ∀ c ∈ cs, isSign c = false :=
    fun c member => of_isNumeralChar (p := fun c => isSign c = false) (by decide) (by decide) (numeral c member)
  have initials : keywords.all (fun keyword =>
      keyword.toList.head?.any (['A', 'O', 'N', 'I', 'L'].contains ·)) = true := by
    decide
  rw [regroups, Bool.or_eq_false_iff, List.any_eq_false, List.any_eq_false]
  refine ⟨fun c member => Bool.not_eq_true _ ▸ unsigned c member, ?_⟩
  intro word listed isKeyword
  rw [Sql.isKeyword, List.contains_iff_mem] at isKeyword
  have initial := List.all_eq_true.mp initials _ isKeyword
  rw [String.toList_ofList] at initial
  cases word with
  | nil => cases initial
  | cons c rest =>
    have digit := numeral c (mem_of_mem_wordsOf listed c List.mem_cons_self)
    have none := of_isNumeralChar (p := fun c => ['A', 'O', 'N', 'I', 'L'].contains c.toUpper = false)
      (by decide) (by decide) digit
    rw [List.map_cons, List.head?_cons, Option.any_some, none] at initial
    cases initial

/-- Characters that are seen as they are, and neither regroup nor end a word. -/
structure Neutral (cs : List Char) : Prop where
  seen : ∀ c ∈ cs, (c ≠ '(' ∧ c ≠ ')') ∧ c ≠ ' ' ∧ c ≠ ','
  calm : regroups cs = false

instance (cs : List Char) : Decidable (Neutral cs) :=
  decidable_of_iff
    ((cs.all fun c => decide ((c ≠ '(' ∧ c ≠ ')') ∧ c ≠ ' ' ∧ c ≠ ',')) = true ∧ regroups cs = false)
    ⟨fun ⟨seen, calm⟩ => ⟨fun c member => of_decide_eq_true (List.all_eq_true.mp seen c member), calm⟩,
      fun ⟨seen, calm⟩ => ⟨List.all_eq_true.mpr fun c member => decide_eq_true (seen c member), calm⟩⟩

theorem Neutral.of_isNumeralChar {cs : List Char} (numeral : ∀ c ∈ cs, isNumeralChar c = true) :
    Neutral cs where
  seen c member :=
    Sql.of_isNumeralChar (p := fun c => (c ≠ '(' ∧ c ≠ ')') ∧ c ≠ ' ' ∧ c ≠ ',') (by decide)
      (by decide) (numeral c member)
  calm := regroups_of_isNumeralChar numeral

theorem isNumeralChar_of_isDigit {c : Char} (digit : c.isDigit = true) : isNumeralChar c = true := by
  rw [isNumeralChar, digit, Bool.true_or]

theorem isNumeralChar_repr (n : Nat) : ∀ c ∈ n.repr.toList, isNumeralChar c = true :=
  fun _ member => isNumeralChar_of_isDigit (isDigit_of_mem_repr member)

theorem isNumeralChar_exponentText (n : Int) : ∀ c ∈ Decimal.exponentText n, isNumeralChar c = true := by
  intro c member
  unfold Decimal.exponentText at member
  rcases List.mem_cons.mp member with sign | digit
  · rw [sign]
    split_ifs <;> rfl
  · split_ifs at digit
    · rcases List.mem_cons.mp digit with zero | digit
      · exact zero ▸ rfl
      · exact isNumeralChar_repr _ c digit
    · exact isNumeralChar_repr _ c digit

theorem isNumeralChar_positional {d : Decimal.Digits} (digits : ∀ c ∈ d.digits, isNumeralChar c = true) :
    ∀ c ∈ Decimal.positional d, isNumeralChar c = true := by
  have zero : isNumeralChar '0' = true := by decide
  have dot : isNumeralChar '.' = true := by decide
  have zeros : ∀ {k : Nat}, ∀ c ∈ List.replicate k '0', isNumeralChar c = true :=
    fun c member => List.eq_of_mem_replicate member ▸ zero
  unfold Decimal.positional
  simp only
  split_ifs
  · refine List.forall_mem_cons.mpr ⟨zero, List.forall_mem_cons.mpr ⟨dot, ?_⟩⟩
    exact List.forall_mem_append.mpr ⟨zeros, digits⟩
  · refine List.forall_mem_append.mpr ⟨List.forall_mem_append.mpr ⟨digits, zeros⟩, ?_⟩
    exact List.forall_mem_cons.mpr ⟨dot, List.forall_mem_singleton.mpr zero⟩
  · refine List.forall_mem_append.mpr ⟨fun c member => digits c (List.mem_of_mem_take member), ?_⟩
    exact List.forall_mem_cons.mpr ⟨dot, fun c member => digits c (List.mem_of_mem_drop member)⟩

theorem isNumeralChar_scientific {d : Decimal.Digits} (digits : ∀ c ∈ d.digits, isNumeralChar c = true) :
    ∀ c ∈ Decimal.scientific d, isNumeralChar c = true := by
  have exponent : ∀ c ∈ 'e' :: Decimal.exponentText (d.point - 1), isNumeralChar c = true :=
    List.forall_mem_cons.mpr ⟨by decide, isNumeralChar_exponentText _⟩
  unfold Decimal.scientific
  split
  · exact List.forall_mem_singleton.mpr (by decide)
  · next first only =>
    rw [only] at digits
    exact List.forall_mem_cons.mpr ⟨digits first List.mem_cons_self, exponent⟩
  · next first rest _ several =>
    rw [several] at digits
    have others := (List.forall_mem_cons.mp digits).2
    refine List.forall_mem_cons.mpr ⟨digits first List.mem_cons_self, ?_⟩
    exact List.forall_mem_cons.mpr ⟨by decide, List.forall_mem_append.mpr ⟨others, exponent⟩⟩

/-- A number is written neutrally, also if it has no digits. -/
theorem neutral_write (number : Decimal.Binary) : Neutral number.write.toList := by
  cases number with
  | notANumber => decide
  | infinite negative => cases negative <;> decide
  | finite negative mantissa exponent narrow =>
    have body : ∀ c ∈ (if mantissa = 0 then ['0', '.', '0']
        else (Decimal.shortest mantissa exponent narrow).write), isNumeralChar c = true := by
      have digits : ∀ c ∈ (Decimal.shortest mantissa exponent narrow).digits, isNumeralChar c = true :=
        fun c member => isNumeralChar_of_isDigit (isDigit_of_mem_shortest member)
      unfold Decimal.Digits.write
      split_ifs
      · exact List.all_eq_true.mp (show ['0', '.', '0'].all isNumeralChar = true by decide)
      · exact isNumeralChar_positional digits
      · exact isNumeralChar_scientific digits
    refine Neutral.of_isNumeralChar ?_
    simp only [Decimal.Binary.write, String.toList_ofList]
    cases negative with
    | false => exact body
    | true => exact List.forall_mem_cons.mpr ⟨by decide, body⟩

end Sql
end PolicyStudio
