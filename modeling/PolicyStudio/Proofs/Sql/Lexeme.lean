import Mathlib.Data.List.Chain
import PolicyStudio.Sql.Identifier

/-!
# Reading a statement back

A reader of statements sees characters outside of quotes one by one, and a text
between quotes as a whole, with its doubled marks undone.  `lex` is such a reader;
it answers nothing when the text ends inside of quotes.  `spell` writes lexemes
down again.

What was spelled is read back as it was only if no two neighbours run together.
Two quoted texts with the same mark would become one, and there are three other
pairs that a reader of the dialect takes for something else: the two openings of a
comment, and a word right before a quote, which would change the rules for what is
between the quotes.  `Lexeme.merges` names them all, so that a text without them is
read in the same way by a reader that knows comments and prefixed constants.
-/

namespace PolicyStudio
namespace Sql

/-- What a reader of statements sees. -/
inductive Lexeme where
  /-- A character outside of quotes. -/
  | bare (c : Char)
  /-- A text between two marks, as it was before its marks were doubled. -/
  | quoted (mark : Char) (content : List Char)
deriving Repr, DecidableEq

/-- A character that opens a quoted text. -/
def isMark (c : Char) : Bool :=
  c == '\'' || c == '"'

/-- Read on after an opening mark: the content up to the first mark that stands alone,
and what follows it. -/
def readContent (mark : Char) : List Char → Option (List Char × List Char)
  | [] => none
  | c :: rest =>
    if c = mark then
      match rest with
      | [] => some ([], [])
      | next :: after =>
        if next = mark then
          (readContent mark after).map fun read => (mark :: read.1, read.2)
        else some ([], next :: after)
    else (readContent mark rest).map fun read => (c :: read.1, read.2)

/-- Something is read in any case, at least the closing mark. -/
theorem readContent_shorter {mark : Char} {cs content after : List Char}
    (read : readContent mark cs = some (content, after)) : after.length < cs.length := by
  fun_induction readContent mark cs generalizing content after with
  | case1 => cases read
  | case2 =>
    cases read
    exact Nat.zero_lt_succ _
  | case3 next inductionHypothesis =>
    rcases Option.map_eq_some_iff.mp read with ⟨inner, innerRead, equal⟩
    cases equal
    have shorter := inductionHypothesis innerRead
    simp only [List.length_cons]
    omega
  | case4 =>
    cases read
    exact Nat.lt_succ_self _
  | case5 c rest different inductionHypothesis =>
    rcases Option.map_eq_some_iff.mp read with ⟨inner, innerRead, equal⟩
    cases equal
    exact Nat.lt_succ_of_lt (inductionHypothesis innerRead)

/-- A text with its marks doubled is read up to the closing mark, unless another mark
follows. -/
theorem readContent_doubled (mark : Char) (content rest : List Char)
    (ends : rest.head? ≠ some mark) :
    readContent mark (doubled mark content ++ mark :: rest) = some (content, rest) := by
  induction content with
  | nil =>
    cases rest with
    | nil => simp [doubled, readContent]
    | cons next after =>
      have different : next ≠ mark := fun equal => ends (congrArg some equal)
      simp [doubled, readContent, different]
  | cons c content inductionHypothesis =>
    by_cases same : c = mark
    · subst same
      simp only [doubled, if_true, List.cons_append, readContent, inductionHypothesis,
        Option.map_some]
    · rw [doubled, if_neg same, List.cons_append, readContent.eq_def]
      simp only [if_neg same, inductionHypothesis, Option.map_some]

/-- Read a whole text; there is no answer if it ends inside of quotes. -/
def lex : List Char → Option (List Lexeme)
  | [] => some []
  | c :: rest =>
    if isMark c then
      match _found : readContent c rest with
      | none => none
      | some (content, after) => (lex after).map (.quoted c content :: ·)
    else (lex rest).map (.bare c :: ·)
termination_by cs => cs.length
decreasing_by
  · exact Nat.lt_succ_of_lt (readContent_shorter _found)
  · exact Nat.lt_succ_self _

/-! ## Writing lexemes down -/

/-- A lexeme as it stands in a statement. -/
def Lexeme.spell : Lexeme → List Char
  | .bare c => [c]
  | .quoted mark content => enclosed mark content

/-- Lexemes as they stand in a statement. -/
def spell (lexemes : List Lexeme) : List Char :=
  lexemes.flatMap Lexeme.spell

@[simp] theorem spell_nil : spell [] = [] := rfl

@[simp] theorem spell_cons (first : Lexeme) (rest : List Lexeme) :
    spell (first :: rest) = first.spell ++ spell rest := rfl

@[simp] theorem spell_append (first second : List Lexeme) :
    spell (first ++ second) = spell first ++ spell second :=
  List.flatMap_append

/-- A text without quotes, character by character. -/
def bares (cs : List Char) : List Lexeme :=
  cs.map .bare

@[simp] theorem spell_bares (cs : List Char) : spell (bares cs) = cs := by
  induction cs with
  | nil => rfl
  | cons c rest inductionHypothesis =>
    change c :: spell (bares rest) = c :: rest
    rw [inductionHypothesis]

/-- A bare character is no mark and does not open a text between dollar signs, and only
marks enclose a text. -/
def Lexeme.isProper : Lexeme → Bool
  | .bare c => !isMark c && c != '$'
  | .quoted mark _ => isMark mark

/-- The two characters open a comment. -/
def Lexeme.opensComment (first second : Lexeme) : Bool :=
  (first == .bare '-' && second == .bare '-') || (first == .bare '/' && second == .bare '*')

/-- Two neighbours that are read as something else when nothing stands between them. -/
def Lexeme.merges (first second : Lexeme) : Bool :=
  first.opensComment second || match first, second with
    | .bare c, .quoted .. => continuesPlain c || c == '&'
    | .quoted mark _, .quoted next _ => mark == next
    | _, _ => false

/-- What was spelled is read back, lexeme by lexeme. -/
theorem lex_spell (lexemes : List Lexeme) (proper : ∀ lexeme ∈ lexemes, lexeme.isProper = true)
    (apart : lexemes.IsChain fun first second => first.merges second = false) :
    lex (spell lexemes) = some lexemes := by
  induction lexemes with
  | nil => rw [spell_nil, lex]
  | cons first rest inductionHypothesis =>
    have restRead := inductionHypothesis (fun lexeme member => proper lexeme (List.mem_cons_of_mem _ member))
      apart.tail
    have firstProper := proper first List.mem_cons_self
    cases first with
    | bare c =>
      have unmarked : isMark c = false := by
        simp only [Lexeme.isProper, Bool.and_eq_true, Bool.not_eq_true'] at firstProper
        exact firstProper.1
      rw [spell_cons, Lexeme.spell, List.singleton_append, lex, unmarked, restRead]
      rfl
    | quoted mark content =>
      have ends : (spell rest).head? ≠ some mark := by
        intro headed
        cases rest with
        | nil => cases headed
        | cons second rest =>
          have secondProper := proper second (List.mem_cons_of_mem _ List.mem_cons_self)
          have separate := (List.isChain_cons_cons.mp apart).1
          cases second with
          | bare c =>
            cases headed
            simp only [Lexeme.isProper, Bool.and_eq_true, Bool.not_eq_true'] at firstProper secondProper
            rw [firstProper] at secondProper
            cases secondProper.1
          | quoted next _ =>
            cases headed
            simp [Lexeme.merges] at separate
      have read : readContent mark (doubled mark content ++ mark :: spell rest) =
          some (content, spell rest) := readContent_doubled mark content _ ends
      have spelled : spell (.quoted mark content :: rest) =
          mark :: (doubled mark content ++ mark :: spell rest) := by
        simp only [spell_cons, Lexeme.spell, enclosed, List.cons_append, List.append_assoc,
          List.nil_append]
      rw [spelled, lex, if_pos (show isMark mark = true from firstProper)]
      split
      · rename_i missing
        rw [read] at missing
        cases missing
      · rename_i found after present
        rw [read] at present
        cases present
        rw [restRead]
        rfl

/-! ## One quoted text

A quoted text goes from a mark to the first mark behind it that stands alone.  Reading one is the
reverse of writing one, whatever the content is, and also where marks stand at the beginning or
at the end of it: only if the mark itself follows, the text goes on.  So nothing but the written
text and what follows is read as this content and this rest. -/

/-- Read one quoted text: its content, and what follows it. -/
def readQuoted (mark : Char) : List Char → Option (List Char × List Char)
  | [] => none
  | c :: rest => if c = mark then readContent mark rest else none

variable {mark : Char} {cs content rest : List Char}

/-- What was read is the content with its marks doubled and a mark that stands alone. -/
theorem eq_of_readContent (read : readContent mark cs = some (content, rest)) :
    cs = doubled mark content ++ mark :: rest ∧ rest.head? ≠ some mark := by
  fun_induction readContent mark cs generalizing content rest with
  | case1 => cases read
  | case2 =>
    cases read
    exact ⟨rfl, nofun⟩
  | case3 next inductionHypothesis =>
    rcases Option.map_eq_some_iff.mp read with ⟨⟨inner, behind⟩, innerRead, equal⟩
    cases equal
    rcases inductionHypothesis innerRead with ⟨written, alone⟩
    rw [doubled, if_pos rfl, written]
    exact ⟨rfl, alone⟩
  | case4 next after different =>
    cases read
    exact ⟨rfl, fun headed => different (Option.some.inj headed)⟩
  | case5 c after different inductionHypothesis =>
    rcases Option.map_eq_some_iff.mp read with ⟨⟨inner, behind⟩, innerRead, equal⟩
    cases equal
    rcases inductionHypothesis innerRead with ⟨written, alone⟩
    rw [doubled, if_neg different, written]
    exact ⟨rfl, alone⟩

/-- A quoted text is read as what it was made of, and nothing else is. -/
theorem readQuoted_eq_some_iff : readQuoted mark cs = some (content, rest) ↔
    cs = enclosed mark content ++ rest ∧ rest.head? ≠ some mark := by
  have written : enclosed mark content ++ rest = mark :: (doubled mark content ++ mark :: rest) := by
    rw [enclosed, List.cons_append, List.append_assoc, List.singleton_append]
  rw [written]
  constructor
  · intro read
    cases cs with
    | nil => cases read
    | cons c behind =>
      rw [readQuoted] at read
      split at read
      · next opened =>
        rcases eq_of_readContent read with ⟨equal, alone⟩
        rw [opened, equal]
        exact ⟨rfl, alone⟩
      · cases read
  · rintro ⟨rfl, alone⟩
    rw [readQuoted, if_pos rfl]
    exact readContent_doubled mark content rest alone

/-- From the literal of a text and anything that does not begin with a single quote, one
quoted text is read: it is the text, and what follows is left.  The same holds of the quoted
name of a text that shows something, with the double quote.  And whatever is read, nothing
but the quoted text is used up, and the mark does not follow. -/
theorem quoted_texts_are_read_exactly (s : String) (rest : List Char) :
    (rest.head? ≠ some '\'' →
      readQuoted '\'' ((literal s).toList ++ rest) = some (s.toList, rest)) ∧
    (Text.blank s = false → ∃ label, Label.ofString? s = some label ∧
      (rest.head? ≠ some '"' →
        readQuoted '"' (label.render.toList ++ rest) = some (s.toList, rest))) ∧
    ∀ mark cs content, readQuoted mark cs = some (content, rest) →
      cs = enclosed mark content ++ rest ∧ rest.head? ≠ some mark := by
  refine ⟨fun alone => ?_, fun shows => ⟨⟨s, shows⟩, dif_pos shows, fun alone => ?_⟩,
    fun mark cs content => readQuoted_eq_some_iff.mp⟩
  · rw [literal, String.toList_ofList]
    exact readQuoted_eq_some_iff.mpr ⟨rfl, alone⟩
  · rw [Label.render, quotedName, String.toList_ofList]
    exact readQuoted_eq_some_iff.mpr ⟨rfl, alone⟩

/-- Marks at both ends of a text are read back, and another mark may follow them. -/
theorem marked_text_is_read_exactly :
    "\", x".toList.head? ≠ some '\'' ∧
      readQuoted '\'' ((literal "''it's''").toList ++ "\", x".toList) =
        some ("''it's''".toList, "\", x".toList) ∧
      Text.blank "\"\"" = false ∧ ∃ label, Label.ofString? "\"\"" = some label ∧
        readQuoted '"' (label.render.toList ++ "'x".toList) = some ("\"\"".toList, "'x".toList) := by
  have follows : "\", x".toList.head? ≠ some '\'' := by decide
  have shows : Text.blank "\"\"" = false := by decide
  rcases (quoted_texts_are_read_exactly "\"\"" "'x".toList).2.1 shows with ⟨label, made, read⟩
  exact ⟨follows, (quoted_texts_are_read_exactly "''it's''" _).1 follows, shows, label, made,
    read (by decide)⟩

end Sql
end PolicyStudio
