import PolicyStudio.Script.Lexer
import PolicyStudio.Proofs.Text.Cutting

/-!
# The tokens of plain lines

A line that holds only words and single marks has these words and marks as its tokens.
`Cuts` says that some tokens are cut off with all that follows in view, so what is known
of the tokens of two parts of a text is known of both together.
-/

namespace PolicyStudio

namespace Script

/-! ## Characters of words -/

/-- What holds of each character of ASCII by itself holds of all of them. -/
theorem of_ascii {p : Char → Prop} (each : ∀ n < 0x80, p (Char.ofNat n)) {c : Char}
    (plain : c.toNat < 0x80) : p c :=
  Char.ofNat_toNat c ▸ each c.toNat plain

/-- What may stand inside a word may stand inside a name. -/
theorem isNamePart_of_isWordPart {c : Char} (part : Text.isWordPart c = true) :
    isNamePart c = true := by
  unfold Text.isWordPart at part
  split at part
  · next plain =>
    exact of_ascii (p := fun c => (Text.isPlainLetter c || Text.isPlainDigit c) = true →
      isNamePart c = true) (by decide) plain part
  · next wide =>
    rw [isNamePart, decide_eq_true (Nat.not_lt.mp wide), Bool.or_true]

/-- A name can start with what a word starts with. -/
theorem isNameStart_of_isWordStart {c : Char} (start : Text.isWordStart c = true) :
    isNameStart c = true := by
  unfold Text.isWordStart at start
  split at start
  · next plain =>
    exact of_ascii (p := fun c => Text.isPlainLetter c = true → isNameStart c = true) (by decide)
      plain start
  · next wide =>
    have undigit : c.isDigit = false := by
      cases digit : c.isDigit with
      | false => rfl
      | true =>
        have below : c.toNat ≤ 57 := (Bool.and_eq_true_iff.mp digit).2 |> of_decide_eq_true
        exact absurd (Nat.lt_of_le_of_lt below (by decide)) wide
    rw [isNameStart, isNamePart, decide_eq_true (Nat.not_lt.mp wide), Bool.or_true, undigit]
    rfl

/-- A name ends before this character, and no text begins there. -/
def EndsName (c : Char) : Prop :=
  isNamePart c = false ∧ ¬(c = '"' ∨ c = '\'')

instance (c : Char) : Decidable (EndsName c) :=
  inferInstanceAs (Decidable (_ ∧ _))

/-- A word consists of what may stand inside a name. -/
theorem isNamePart_of_mem {word : List Char} (isWord : Text.isWord word = true) :
    ∀ c ∈ word, isNamePart c = true := by
  cases word with
  | nil => cases isWord
  | cons c rest =>
    rcases Bool.and_eq_true_iff.mp isWord with ⟨start, parts⟩
    have first := (Bool.and_eq_true_iff.mp (isNameStart_of_isWordStart start)).1
    exact List.forall_mem_cons.mpr ⟨first, fun c member =>
      isNamePart_of_isWordPart (List.all_eq_true.mp parts c member)⟩

/-- A word is all of a name that ends there. -/
theorem takeWhile_isNamePart {word : List Char} (isWord : Text.isWord word = true) {stop : Char}
    (ends : isNamePart stop = false) (tail : List Char) :
    (word ++ stop :: tail).takeWhile isNamePart = word := by
  rw [List.takeWhile_append_of_pos (isNamePart_of_mem isWord),
    List.takeWhile_cons_of_neg (Bool.eq_false_iff.mp ends), List.append_nil]

/-- Nothing is wrong with the characters of a word. -/
theorem nameFault?_eq_none {word : List Char} (isWord : Text.isWord word = true) :
    Lexer.nameFault? word = none := by
  cases word with
  | nil => rfl
  | cons c rest =>
    rcases Bool.and_eq_true_iff.mp isWord with ⟨start, parts⟩
    rw [Lexer.nameFault?, if_pos start, List.find?_eq_none]
    intro part member
    rw [List.all_eq_true.mp parts part member]
    decide

/-! ## Tokens of one line -/

/-- A token of a line by itself, with the brackets open behind it. -/
def Token.onLine (line : Nat) (brackets : List OpenBracket) (kind : TokenKind) (text : List Char) :
    Token :=
  ⟨kind, String.ofList text, line, line, line, brackets⟩

namespace Lexer

/-- Within a line of a text without blocks. -/
def within (line : Nat) (brackets : List OpenBracket) (rest : List Char) : LexerState :=
  ⟨rest, line, line, false, false, [], 0, brackets⟩

/-- Before a line of a text without blocks. -/
def before (line shown : Nat) (rest : List Char) : LexerState :=
  ⟨rest, line, shown, true, true, [], 0, []⟩

variable {line shown steps : Nat} {brackets : List OpenBracket} {rest tail word : List Char}

/-- A line with content may begin with this character, without a blank. -/
def startsBare (c : Char) : Bool :=
  !([' ', '\t', '\x0c', '\\', '#', '\n'].contains c)

theorem measure_within {c : Char} (bare : startsBare c = true) :
    measure (steps + 1) (within line brackets (c :: rest)) 0 0 0 =
      .ok (within line brackets (c :: rest), 0, 0) := by
  unfold measure
  split
  · next same => cases same; cases bare
  · next same => cases same; cases bare
  · next same => cases same; cases bare
  · next same => cases same; cases bare
  · rfl

theorem startLine_before {c : Char} (bare : startsBare c = true) :
    startLine (before line shown (c :: rest)) = .ok (within (line + 1) [] (c :: rest), false) := by
  show (measure ((c :: rest).length + 1) (within (line + 1) [] (c :: rest)) 0 0 0 >>= _) = _
  rw [measure_within bare]
  show (if _ then _ else _) = _
  split
  · next same => cases same; cases bare
  · next same => cases same; cases bare
  · rfl

/-- A line that begins without a blank is entered. -/
theorem next_before {c : Char} (bare : startsBare c = true) :
    next (steps + 1) false (before line shown (c :: rest)) =
      next steps false (within (line + 1) [] (c :: rest)) := by
  have fresh : (before line shown (c :: rest)).atStart = true := rfl
  rw [next, if_pos fresh, startLine_before bare]

/-- Behind the last line the text ends. -/
theorem next_before_nil :
    next (steps + 2) false (before line shown []) =
      (⟨.ending, "", line, shown, line, []⟩, ⟨[], line, shown, true, false, [], 0, []⟩) :=
  rfl

/-- A name follows. -/
theorem next_of_isNameStart {c : Char} (start : isNameStart c = true)
    (blank : skipBlanks rest = c :: tail) :
    next (steps + 1) false (within line brackets rest) =
      nameToken (within line brackets (c :: tail)) := by
  rw [next]
  simp only [within, Bool.false_eq_true, if_false, Int.lt_irrefl, blank]
  split
  · next none => cases none
  · next none => cases none; cases start
  · next none => cases none; cases start
  · next same => cases same; exact if_pos start

/-- With this character begins a mark. -/
def startsMark (c : Char) : Bool :=
  !isNameStart c && !c.isDigit && !(['\n', '\\', '"', '\'', '.'].contains c)

/-- A mark follows. -/
theorem next_of_startsMark {c : Char} (start : startsMark c = true)
    (blank : skipBlanks rest = c :: tail) :
    next (steps + 1) false (within line brackets rest) =
      markToken (within line brackets (c :: tail)) c := by
  rcases Bool.and_eq_true_iff.mp start with ⟨unnamed, special⟩
  rcases Bool.and_eq_true_iff.mp unnamed with ⟨unnamed, undigit⟩
  rw [Bool.not_eq_true'] at unnamed undigit special
  have plain : ∀ other ∈ ['\n', '\\', '"', '\'', '.'], c ≠ other := by
    rintro other member rfl
    exact Bool.false_ne_true (special.symm.trans (List.contains_iff_mem.mpr member))
  simp only [List.forall_mem_cons] at plain
  rcases plain with ⟨newline, backslash, double, single, dot, -⟩
  rw [next]
  simp only [within, Bool.false_eq_true, if_false, Int.lt_irrefl, blank, unnamed, undigit, double,
    single, or_self]
  split
  · exact absurd rfl dot
  · rfl

/-- A word is a name. -/
theorem nameToken_within (isWord : Text.isWord word = true) {stop : Char} (ends : EndsName stop) :
    nameToken (within line brackets (word ++ stop :: tail)) =
      (.onLine line brackets .name word, within line brackets (stop :: tail)) := by
  have name := takeWhile_isNamePart isWord ends.1 tail
  have unquoted := decide_eq_false ends.2
  simp only [nameToken, within, name, List.drop_left, unquoted, Bool.false_and, Bool.false_eq_true,
    if_false, nameToken.plain, nameFault?_eq_none isWord]
  rfl

/-- A word is cut off. -/
theorem next_word (isWord : Text.isWord word = true) {stop : Char} (ends : EndsName stop)
    (blank : skipBlanks rest = word ++ stop :: tail) :
    next (steps + 1) false (within line brackets rest) =
      (.onLine line brackets .name word, within line brackets (stop :: tail)) := by
  cases word with
  | nil => cases isWord
  | cons c inner =>
    have start := isNameStart_of_isWordStart (Bool.and_eq_true_iff.mp isWord).1
    exact (next_of_isNameStart start blank).trans (nameToken_within isWord ends)

/-! ## Marks -/

/-- The character is a mark by itself, with what follows it in view. -/
def IsSingle (c : Char) (rest : List Char) : Prop :=
  longMarks.contains (String.ofList (c :: rest.take 2)) = false ∧
    doubleMarks.contains (String.ofList (c :: rest.take 1)) = false

/-- A text is none of some marks if none of them begins like it. -/
theorem not_contains_of_head {marks : List String} {c : Char}
    (alone : ∀ mark ∈ marks, mark.toList.head? ≠ some c) (cs : List Char) :
    marks.contains (String.ofList (c :: cs)) = false := by
  refine Bool.eq_false_iff.mpr fun listed => ?_
  refine alone _ (List.contains_iff_mem.mp listed) ?_
  rw [String.toList_ofList, List.head?_cons]

theorem isSingle_of_head {c : Char}
    (alone : ∀ mark ∈ longMarks ++ doubleMarks, mark.toList.head? ≠ some c) (rest : List Char) :
    IsSingle c rest :=
  ⟨not_contains_of_head (fun mark member => alone mark (List.mem_append_left _ member)) _,
    not_contains_of_head (fun mark member => alone mark (List.mem_append_right _ member)) _⟩

/-- A character that is a mark by itself and no bracket is cut off. -/
theorem markToken_plain {c : Char} (single : IsSingle c rest)
    (unbracketed : c ∉ ['(', '[', '\x7b', ')', ']', '\x7d'])
    (printable : Text.isPrintable c = true) :
    markToken (within line brackets (c :: rest)) c =
      (.onLine line brackets .mark [c], within line brackets rest) := by
  simp only [List.mem_cons, List.not_mem_nil, or_false, not_or] at unbracketed
  simp only [markToken, within, List.take_succ_cons, single.1, single.2, Bool.false_eq_true,
    if_false, unbracketed, or_self, printable, Bool.not_true]
  rfl

/-- A round bracket is opened. -/
theorem markToken_open (few : brackets.length < bracketLimit) :
    markToken (within line brackets ('(' :: rest)) '(' =
      (.onLine line (⟨'(', line⟩ :: brackets) .mark ['('],
        within line (⟨'(', line⟩ :: brackets) rest) := by
  have single := isSingle_of_head (c := '(') (by decide) rest
  simp only [markToken, within, List.take_succ_cons, single.1, single.2, Bool.false_eq_true,
    if_false, Nat.not_le.mpr few]
  rfl

/-- A round bracket is closed. -/
theorem markToken_close {opened : Nat} :
    markToken (within line (⟨'(', opened⟩ :: brackets) (')' :: rest)) ')' =
      (.onLine line brackets .mark [')'], within line brackets rest) := by
  have single := isSingle_of_head (c := ')') (by decide) rest
  simp only [markToken, within, List.take_succ_cons, single.1, single.2, Bool.false_eq_true,
    if_false]
  rfl

/-! ## Tokens after one another -/

/-- With all that follows in view, these tokens are cut off, and this is left. -/
inductive Cuts : LexerState → List Token → LexerState → Prop
  | nil (state : LexerState) : Cuts state [] state
  | cons {state middle after : LexerState} {token : Token} {tokens : List Token}
      (first : ∀ steps, next (steps + 2) false state = (token, middle))
      (goesOn : ¬(token.kind = .ending ∨ token.isFault = true))
      (shorter : middle.rest.length < state.rest.length)
      (others : Cuts middle tokens after) : Cuts state (token :: tokens) after

namespace Cuts

variable {state middle after : LexerState} {tokens others : List Token}

theorem append (first : Cuts state tokens middle) (second : Cuts middle others after) :
    Cuts state (tokens ++ others) after := by
  induction first with
  | nil => exact second
  | cons first goesOn shorter _ inductionHypothesis =>
    exact cons first goesOn shorter (inductionHypothesis second)

/-- Each token takes a character at least. -/
theorem length_le (cuts : Cuts state tokens after) :
    tokens.length + after.rest.length ≤ state.rest.length := by
  induction cuts with
  | nil => exact Nat.le_of_eq (Nat.zero_add _)
  | cons _ _ shorter _ inductionHypothesis =>
    rw [List.length_cons]
    omega

/-- The tokens that are cut off are found. -/
theorem tokensFrom_eq (cuts : Cuts state tokens after) (steps : Nat) (found : List Token) :
    tokensFrom (tokens.length + steps) state found =
      tokensFrom steps after (tokens.reverse ++ found) := by
  induction cuts generalizing found with
  | nil => rw [List.length_nil, Nat.zero_add, List.reverse_nil, List.nil_append]
  | @cons state _ _ token tokens first goesOn _ _ inductionHypothesis =>
    rw [List.length_cons, Nat.add_right_comm, tokensFrom, first (2 * state.rest.length + 2)]
    dsimp only
    rw [if_neg goesOn, inductionHypothesis, List.reverse_cons, List.append_assoc]
    rfl

/-- The tokens of a text, of which the last one is the ending. -/
theorem tokensOf_eq {cs : List Char} {last : Token} {final : LexerState}
    (cuts : Cuts (before 0 1 cs) tokens after)
    (ended : ∀ steps, next (steps + 2) false after = (last, final)) (ending : last.kind = .ending) :
    tokensOf cs 1 = (tokens ++ [last]).toArray := by
  have start : LexerState.initial cs 1 = before 0 1 cs := rfl
  have few : tokens.length + after.rest.length ≤ cs.length := cuts.length_le
  have steps : 2 * cs.length + 4 = tokens.length + (2 * cs.length + 3 - tokens.length + 1) := by
    omega
  rw [tokensOf, start, steps, cuts.tokensFrom_eq, tokensFrom, ended (2 * after.rest.length + 2)]
  dsimp only
  rw [if_pos (.inl ending), List.append_nil, List.reverse_cons, List.reverse_reverse]

end Cuts

/-! ## Words and marks -/

/-- A name starts with none of the characters that end lines or stand between tokens. -/
theorem ne_of_isNameStart {c : Char} (start : isNameStart c = true) :
    ∀ other ∈ [' ', '\t', '\x0c', '\\', '#', '\n'], c ≠ other := by
  have never : [' ', '\t', '\x0c', '\\', '#', '\n'].any isNameStart = false := rfl
  rintro other member rfl
  exact Bool.false_ne_true (never.symm.trans (List.any_eq_true.mpr ⟨c, member, start⟩))

theorem startsBare_of_isNameStart {c : Char} (start : isNameStart c = true) :
    startsBare c = true := by
  refine (Bool.not_eq_true' _).mpr (Bool.eq_false_iff.mpr fun listed => ?_)
  exact ne_of_isNameStart start c (List.contains_iff_mem.mp listed) rfl

/-- No blank and no comment stands in front of a name. -/
theorem skipBlanks_of_isNameStart {c : Char} (start : isNameStart c = true) (cs : List Char) :
    skipBlanks (c :: cs) = c :: cs := by
  have solid := ne_of_isNameStart start
  simp only [List.forall_mem_cons] at solid
  rcases solid with ⟨blank, tab, feed, -, comment, -, -⟩
  simp only [skipBlanks, List.dropWhile_cons, blank, tab, feed, decide_false, Bool.or_self,
    Bool.false_eq_true, if_false]
  split
  · next same => cases same; exact absurd rfl comment
  · rfl

theorem exists_isNameStart (isWord : Text.isWord word = true) :
    ∃ c inner, word = c :: inner ∧ isNameStart c = true := by
  cases word with
  | nil => cases isWord
  | cons c inner =>
    exact ⟨c, inner, rfl, isNameStart_of_isWordStart (Bool.and_eq_true_iff.mp isWord).1⟩

/-- A word that stands in front is cut off. -/
theorem next_bare_word (isWord : Text.isWord word = true) {stop : Char} (ends : EndsName stop) :
    next (steps + 1) false (within line brackets (word ++ stop :: tail)) =
      (.onLine line brackets .name word, within line brackets (stop :: tail)) := by
  refine next_word isWord ends ?_
  rcases exists_isNameStart isWord with ⟨c, inner, rfl, start⟩
  exact skipBlanks_of_isNameStart start _

/-- What follows a word is shorter. -/
theorem length_lt_of_isWord (isWord : Text.isWord word = true) (tail : List Char) :
    tail.length < (word ++ tail).length := by
  rcases exists_isNameStart isWord with ⟨c, inner, rfl, -⟩
  rw [List.length_append, List.length_cons]
  omega

/-- A word is cut off. -/
theorem cuts_word (isWord : Text.isWord word = true) {stop : Char} (ends : EndsName stop) :
    Cuts (within line brackets (word ++ stop :: tail)) [.onLine line brackets .name word]
      (within line brackets (stop :: tail)) :=
  .cons (fun _ => next_bare_word isWord ends) nofun (length_lt_of_isWord isWord _) (.nil _)

/-- A word at the start of a line is cut off. -/
theorem cuts_first_word (isWord : Text.isWord word = true) {stop : Char} (ends : EndsName stop) :
    Cuts (before line shown (word ++ stop :: tail)) [.onLine (line + 1) [] .name word]
      (within (line + 1) [] (stop :: tail)) := by
  refine .cons (fun steps => ?_) nofun (length_lt_of_isWord isWord _) (.nil _)
  rcases exists_isNameStart isWord with ⟨c, inner, rfl, start⟩
  exact (next_before (startsBare_of_isNameStart start)).trans (next_bare_word isWord ends)

/-- A blank in front of a token does not matter. -/
theorem Cuts.blank {tokens : List Token} {after : LexerState}
    (cuts : Cuts (within line brackets rest) tokens after) (some : tokens ≠ []) :
    Cuts (within line brackets (' ' :: rest)) tokens after := by
  cases cuts with
  | nil => exact absurd rfl some
  | cons first goesOn shorter others =>
    exact .cons (fun steps => first steps) goesOn (Nat.lt_succ_of_lt shorter) others

/-- A mark is cut off. -/
theorem cuts_of_markToken {c : Char} {opened : List OpenBracket} (starts : startsMark c = true)
    (solid : skipBlanks (c :: rest) = c :: rest)
    (cut : markToken (within line brackets (c :: rest)) c =
      (.onLine line opened .mark [c], within line opened rest)) :
    Cuts (within line brackets (c :: rest)) [.onLine line opened .mark [c]]
      (within line opened rest) :=
  .cons (fun _ => (next_of_startsMark starts solid).trans cut) nofun (Nat.lt_succ_self _) (.nil _)

/-- The end of a line is cut off. -/
theorem cuts_newline :
    Cuts (within line [] ('\n' :: rest)) [.onLine line [] .newline []] (before line line rest) :=
  .cons (fun _ => rfl) nofun (Nat.lt_succ_self _) (.nil _)

theorem cuts_open (few : brackets.length < bracketLimit) :
    Cuts (within line brackets ('(' :: rest)) [.onLine line (⟨'(', line⟩ :: brackets) .mark ['(']]
      (within line (⟨'(', line⟩ :: brackets) rest) :=
  cuts_of_markToken (by decide) rfl (markToken_open few)

theorem cuts_close {opened : Nat} :
    Cuts (within line (⟨'(', opened⟩ :: brackets) (')' :: rest)) [.onLine line brackets .mark [')']]
      (within line brackets rest) :=
  cuts_of_markToken (by decide) rfl markToken_close

theorem cuts_comma :
    Cuts (within line brackets (',' :: rest)) [.onLine line brackets .mark [',']]
      (within line brackets rest) :=
  cuts_of_markToken (by decide) rfl
    (markToken_plain (isSingle_of_head (by decide) rest) (by decide) (by decide))

/-- A colon in front of a blank is cut off. -/
theorem cuts_colon :
    Cuts (within line brackets (':' :: ' ' :: rest)) [.onLine line brackets .mark [':']]
      (within line brackets (' ' :: rest)) := by
  have single : IsSingle ':' (' ' :: rest) :=
    ⟨not_contains_of_head (by decide) _, by
      rw [List.take_succ_cons, List.take_zero]
      decide⟩
  exact cuts_of_markToken (by decide) rfl (markToken_plain single (by decide) (by decide))

/-- Words with commas between them are cut off. -/
theorem cuts_words {words : List (List Char)} (areWords : ∀ word ∈ words, Text.isWord word = true)
    (some : words ≠ []) {stop : Char} (ends : EndsName stop) :
    Cuts (within line brackets ([',', ' '].intercalate words ++ stop :: tail))
      ((words.map (Token.onLine line brackets .name)).intersperse
        (.onLine line brackets .mark [',']))
      (within line brackets (stop :: tail)) := by
  induction words with
  | nil => exact absurd rfl some
  | cons word rest inductionHypothesis =>
    have isWord := areWords word List.mem_cons_self
    cases rest with
    | nil =>
      rw [List.intercalate_singleton]
      exact cuts_word isWord ends
    | cons second rest =>
      have others := inductionHypothesis
        (fun other member => areWords other (List.mem_cons_of_mem _ member)) (List.cons_ne_nil _ _)
      have listed : ((second :: rest).map (Token.onLine line brackets .name)).intersperse
          (.onLine line brackets .mark [',']) ≠ [] := by
        cases rest <;> nofun
      rw [List.intercalate_cons_cons, List.append_assoc, List.append_assoc]
      exact (cuts_word isWord (by decide)).append (cuts_comma.append (others.blank listed))

end Lexer

/-! ## Whole lines -/

/-- The character belongs to a name, or to what stands between names here. -/
def standsInLine (c : Char) : Bool :=
  isNamePart c || [' ', '(', ',', ')', ':', '\n'].contains c

theorem not_mem_of_standsInLine {cs : List Char} (plain : cs.all standsInLine = true) {c : Char}
    (odd : standsInLine c = false) : c ∉ cs :=
  fun member => Bool.false_ne_true (odd.symm.trans (List.all_eq_true.mp plain c member))

theorem all_standsInLine_of_isWord {word : List Char} (isWord : Text.isWord word = true) :
    word.all standsInLine = true :=
  List.all_eq_true.mpr fun c member =>
    Bool.or_eq_true_iff.mpr (.inl (isNamePart_of_mem isWord c member))

/-- The lines of a text are those that it is read by, if it ends with a line. -/
theorem programCharacters_of_line {source : String}
    (plain : source.toList.all standsInLine = true) :
    programCharacters source =
      if source.toList.getLast? = some '\n' then source.toList else source.toList ++ ['\n'] := by
  rw [programCharacters, Text.lineFeeds_eq_self (not_mem_of_standsInLine plain (by decide))]

end Script
end PolicyStudio
