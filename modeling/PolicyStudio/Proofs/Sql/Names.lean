import PolicyStudio.Proofs.Sql.Sealed
import PolicyStudio.Proofs.Text.Cutting

/-!
# Names and literals as lexemes

How identifiers, labels, qualified names and literals are read.  A part of an
identifier is either a word of small letters or one quoted text, so whatever the
caller's text holds, an identifier is compact and never begins with a capital.  A
qualified name is never quoted, but it has no character that means anything.

Bare words may end with a line feed, because the test for them disregards it.  It is
one more character that spells nothing.
-/

namespace PolicyStudio
namespace Sql

/-! ## The characters of words -/

theorem isInert_of_continuesPlain {c : Char} (plain : continuesPlain c = true) :
    isInert c = true ∧ c ≠ ' ' := by
  constructor
  · by_contra special
    simp only [isInert, isMark, List.contains_eq_mem, List.mem_cons, List.not_mem_nil, or_false,
      Bool.and_eq_true, Bool.not_eq_true', Bool.or_eq_false_iff, beq_eq_false_iff_ne,
      decide_eq_false_iff_not, not_and_or, not_not] at special
    rcases special with (equal | equal) | equal | equal | equal | equal | equal | equal <;>
      subst equal <;> exact absurd plain (by decide)
  · rintro rfl
    exact absurd plain (by decide)

theorem continuesPlain_of_continuesBare {c : Char} (bare : continuesBare c = true) :
    continuesPlain c = true := by
  simp only [continuesBare, continuesPlain, startsPlain, Bool.or_eq_true] at bare ⊢
  rcases bare with starts | digit
  · exact Or.inl (Or.inl starts)
  · exact Or.inr digit

/-- All characters of a word continue words. -/
theorem continues_of_isWordOf {starts continues : Char → Bool}
    (wider : ∀ c, starts c = true → continues c = true) {cs : List Char}
    (word : isWordOf starts continues cs = true) : ∀ c ∈ cs, continues c = true := by
  intro c member
  cases cs with
  | nil => cases member
  | cons first rest =>
    simp only [isWordOf, Bool.and_eq_true, List.all_eq_true] at word
    rcases List.mem_cons.mp member with equal | member
    · exact equal ▸ wider first word.1
    · exact word.2 c member

theorem continuesBare_of_isWordOf {cs : List Char} (word : isWordOf startsBare continuesBare cs = true) :
    ∀ c ∈ cs, continuesBare c = true :=
  continues_of_isWordOf (fun c starts => by rw [continuesBare, starts, Bool.true_or]) word

theorem continuesPlain_of_isWordOf {cs : List Char}
    (word : isWordOf startsPlain continuesPlain cs = true) : ∀ c ∈ cs, continuesPlain c = true :=
  continues_of_isWordOf (fun c starts => by rw [continuesPlain, starts, Bool.true_or]) word

/-- Only a line feed is missing in a line. -/
theorem mem_lineOf {c : Char} {cs : List Char} (member : c ∈ cs) : c = '\n' ∨ c ∈ lineOf cs := by
  fun_induction lineOf cs with
  | case1 => cases member
  | case2 => exact Or.inl (List.mem_singleton.mp member)
  | case3 first rest _ inductionHypothesis =>
    rcases List.mem_cons.mp member with equal | member
    · exact Or.inr (equal ▸ List.mem_cons_self)
    · exact (inductionHypothesis member).imp_right (List.mem_cons_of_mem _)

/-- A line lacks one line feed at most. -/
theorem eq_lineOf_or (cs : List Char) : cs = lineOf cs ∨ cs = lineOf cs ++ ['\n'] := by
  fun_induction lineOf cs with
  | case1 => exact Or.inl rfl
  | case2 => exact Or.inr rfl
  | case3 first rest _ inductionHypothesis =>
    exact inductionHypothesis.imp (congrArg (first :: ·)) (congrArg (first :: ·))

theorem lineOf_concat (word : List Char) : lineOf (word ++ ['\n']) = word := by
  induction word with
  | nil => rfl
  | cons first rest inductionHypothesis =>
    have several : ∀ later : List Char, later ++ ['\n'] ≠ [] :=
      fun later => List.append_ne_nil_of_right_ne_nil later (List.cons_ne_nil _ _)
    rw [List.cons_append, lineOf, inductionHypothesis]
    exact fun _ empty => several rest empty

/-- Dots between the parts of a path make the path again. -/
theorem joinDots_cutAt (cs : List Char) : joinDots (Text.cutAt '.' cs) = cs := by
  induction cs with
  | nil => rfl
  | cons first rest inductionHypothesis =>
    by_cases cut : first = '.'
    · subst cut
      rcases List.exists_cons_of_ne_nil (Text.cutAt_ne_nil '.' rest) with ⟨piece, pieces, parts⟩
      rw [Text.cutAt_cons_self, parts]
      rw [parts] at inductionHypothesis
      exact congrArg ('.' :: ·) inductionHypothesis
    · rcases Text.exists_cutAt_cons cut rest with ⟨piece, pieces, parts, grown⟩
      rw [parts] at inductionHypothesis
      rw [grown]
      cases pieces <;> exact congrArg (first :: ·) inductionHypothesis

/-! ## Identifiers -/

/-- One part of a path, as it is read. -/
def partLexemes (part : List Char) : List Lexeme :=
  if isBarePart part then bares part else [.quoted '"' part]

/-- The parts of a path with dots between them, as they are read. -/
def pathLexemes : List (List Char) → List Lexeme
  | [] => []
  | [part] => partLexemes part
  | part :: rest => partLexemes part ++ .bare '.' :: pathLexemes rest

theorem spell_partLexemes (part : List Char) : spell (partLexemes part) = renderPart part := by
  unfold partLexemes renderPart
  split_ifs
  · exact spell_bares part
  · exact List.append_nil _

theorem spell_pathLexemes (parts : List (List Char)) :
    spell (pathLexemes parts) = joinDots (parts.map renderPart) := by
  fun_induction pathLexemes parts with
  | case1 => rfl
  | case2 part => exact spell_partLexemes part
  | case3 part rest several inductionHypothesis =>
    cases rest with
    | nil => exact absurd rfl several
    | cons next rest =>
      rw [spell_append, spell_cons, inductionHypothesis, spell_partLexemes]
      rfl

/-- A bare part is made of inert characters without a space. -/
theorem isInert_of_isBarePart {part : List Char} (bare : isBarePart part = true) :
    ∀ c ∈ part, isInert c = true ∧ c ≠ ' ' := by
  intro c member
  have word := (Bool.and_eq_true_iff.mp bare).1
  rcases mem_lineOf member with equal | member
  · subst equal
    exact ⟨by decide, by decide⟩
  · have continues := continuesBare_of_isWordOf word c member
    exact isInert_of_continuesPlain (continuesPlain_of_continuesBare continues)

theorem compact_partLexemes (part : List Char) : Compact (partLexemes part) := by
  unfold partLexemes
  split_ifs with bare
  · exact Compact.bares (isInert_of_isBarePart bare)
  · exact Compact.quoted rfl part

theorem compact_pathLexemes (parts : List (List Char)) : Compact (pathLexemes parts) := by
  fun_induction pathLexemes parts with
  | case1 => exact ⟨Sealed.nil, rfl⟩
  | case2 part => exact compact_partLexemes part
  | case3 part rest _ inductionHypothesis =>
    have dot : Compact [.bare '.'] := ⟨by decide, rfl⟩
    have behind := dot.append inductionHypothesis (apart_behind_break rfl)
    exact (compact_partLexemes part).append behind (apart_before_break rfl)

/-- The beginning of a bare or of a quoted name. -/
def Lexeme.startsName : Lexeme → Bool
  | .bare c => startsBare c
  | .quoted mark _ => mark == '"'

/-- Lexemes that begin like a name. -/
def StartsLow (lexemes : List Lexeme) : Prop :=
  ∃ first rest, lexemes = first :: rest ∧ first.startsName = true

theorem StartsLow.append {first : List Lexeme} (low : StartsLow first) (second : List Lexeme) :
    StartsLow (first ++ second) := by
  rcases low with ⟨lexeme, rest, equal, starts⟩
  exact ⟨lexeme, rest ++ second, by rw [equal, List.cons_append], starts⟩

theorem startsLow_partLexemes {part : List Char} (shows : part ≠ []) :
    StartsLow (partLexemes part) := by
  unfold partLexemes
  split_ifs with bare
  · cases part with
    | nil => exact absurd rfl shows
    | cons c rest =>
      refine ⟨.bare c, bares rest, rfl, ?_⟩
      have word := (Bool.and_eq_true_iff.mp bare).1
      by_cases last : c = '\n' ∧ rest = []
      · rw [last.1, last.2] at word
        cases word
      · have kept : lineOf (c :: rest) = c :: lineOf rest := by
          rw [lineOf]
          exact fun newline ended => last ⟨newline, ended⟩
        rw [kept, isWordOf, Bool.and_eq_true] at word
        exact word.1
  · exact ⟨_, _, rfl, rfl⟩

namespace Identifier

/-- The identifier as it is read. -/
def lexemes (name : Identifier) : List Lexeme :=
  pathLexemes (pathParts name.text)

theorem spell_lexemes (name : Identifier) : spell name.lexemes = name.render.toList := by
  rw [lexemes, spell_pathLexemes, render, String.toList_ofList]

theorem compact_lexemes (name : Identifier) : Compact name.lexemes :=
  compact_pathLexemes _

theorem startsLow_lexemes (name : Identifier) : StartsLow name.lexemes := by
  have complete := name.complete
  rw [hasAllParts, List.all_eq_true] at complete
  unfold lexemes
  cases parts : pathParts name.text with
  | nil => exact absurd parts (Text.cutAt_ne_nil _ _)
  | cons part rest =>
    have shows : part ≠ [] := by
      have filled := complete part (parts ▸ List.mem_cons_self)
      rintro rfl
      cases filled
    cases rest with
    | nil => exact startsLow_partLexemes shows
    | cons next rest => exact (startsLow_partLexemes shows).append _

end Identifier

/-- Identifiers with the same text are the same. -/
theorem Identifier.text_injective : Function.Injective Identifier.text := by
  rintro ⟨firstText, _, _⟩ ⟨secondText, _, _⟩ rfl
  rfl

/-! ## Labels, literals and qualified names -/

/-- Labels with the same text are the same. -/
theorem Label.text_injective : Function.Injective Label.text := by
  rintro ⟨firstText, _⟩ ⟨secondText, _⟩ rfl
  rfl

/-- A text between quotes, as it is read. -/
theorem spell_quoted (mark : Char) (content : List Char) :
    spell [.quoted mark content] = enclosed mark content :=
  List.append_nil _

/-- A text without the mark is not changed between quotes. -/
theorem doubled_eq_self {mark : Char} {cs : List Char} (unmarked : mark ∉ cs) :
    doubled mark cs = cs := by
  induction cs with
  | nil => rfl
  | cons c rest inductionHypothesis =>
    have different : c ≠ mark := fun equal => unmarked (equal ▸ List.mem_cons_self)
    rw [doubled, if_neg different,
      inductionHypothesis fun member => unmarked (List.mem_cons_of_mem _ member)]

theorem QualifiedName.isInert_of_mem (name : QualifiedName) :
    ∀ c ∈ name.text.toList, isInert c = true ∧ c ≠ ' ' := by
  intro c member
  have plain := name.plain
  rw [isQualified, List.all_eq_true] at plain
  rcases mem_lineOf member with equal | member
  · subst equal
    exact ⟨by decide, by decide⟩
  · rcases Text.mem_cutAt '.' member with equal | ⟨piece, listed, inside⟩
    · subst equal
      exact ⟨by decide, by decide⟩
    · exact isInert_of_continuesPlain (continuesPlain_of_isWordOf (plain piece listed) c inside)

/-! ## Words between dots -/

/-- An ASCII letter or an underscore, and behind it letters, digits and underscores. -/
def IsIdentifierWord (word : List Char) : Prop :=
  ∃ first rest, word = first :: rest ∧ (first.isAlpha = true ∨ first = '_') ∧
    ∀ c ∈ rest, c.isAlphanum = true ∨ c = '_'

/-- The text lists the words, with single dots between them. -/
structure Lists (words : List (List Char)) (s : String) : Prop where
  inhabited : words ≠ []
  named : ∀ word ∈ words, IsIdentifierWord word
  spelled : s.toList = ['.'].intercalate words

/-- The text lists the words, perhaps with one line feed behind them. -/
def ListsInLine (words : List (List Char)) (s : String) : Prop :=
  ∃ line, Lists words line ∧ (s = line ∨ s = line ++ "\n")

theorem startsPlain_iff (c : Char) : startsPlain c = true ↔ c.isAlpha = true ∨ c = '_' := by
  have upper : c.isUpper = ('A' ≤ c && c ≤ 'Z') := Bool.decide_and _ _
  have alphabetic : c.isAlpha = (c.isUpper || ('a' ≤ c && c ≤ 'z')) := rfl
  rw [startsPlain, startsBare, alphabetic, upper]
  simp only [Bool.or_eq_true, beq_iff_eq]
  tauto

theorem continuesPlain_iff (c : Char) :
    continuesPlain c = true ↔ c.isAlphanum = true ∨ c = '_' := by
  have alphanumeric : c.isAlphanum = (c.isAlpha || ('0' ≤ c && c ≤ '9')) := rfl
  rw [continuesPlain, alphanumeric, Bool.or_eq_true, startsPlain_iff, Bool.or_eq_true]
  tauto

theorem isIdentifierWord_iff (word : List Char) :
    IsIdentifierWord word ↔ isWordOf startsPlain continuesPlain word = true := by
  cases word with
  | nil =>
    refine iff_of_false ?_ nofun
    rintro ⟨first, rest, impossible, -⟩
    cases impossible
  | cons first rest =>
    rw [isWordOf, Bool.and_eq_true, List.all_eq_true, startsPlain_iff]
    constructor
    · rintro ⟨_, _, same, starts, continues⟩
      cases same
      exact ⟨starts, fun c member => (continuesPlain_iff c).mpr (continues c member)⟩
    · rintro ⟨starts, continues⟩
      exact ⟨first, rest, rfl, starts,
        fun c member => (continuesPlain_iff c).mp (continues c member)⟩

theorem IsIdentifierWord.continues {word : List Char} (named : IsIdentifierWord word) :
    ∀ c ∈ word, continuesPlain c = true :=
  continuesPlain_of_isWordOf ((isIdentifierWord_iff word).mp named)

theorem IsIdentifierWord.undotted {word : List Char} (named : IsIdentifierWord word) :
    '.' ∉ word :=
  fun member => absurd (named.continues '.' member) (by decide)

section Lists

variable {words : List (List Char)} {s : String}

/-- The words are those between the dots. -/
theorem lists_iff : Lists words s ↔
    Text.cutAt '.' s.toList = words ∧ ∀ word ∈ words, IsIdentifierWord word := by
  constructor
  · rintro ⟨inhabited, named, spelled⟩
    exact ⟨Text.cutAt_eq_iff.mpr ⟨inhabited, fun word listed => (named word listed).undotted,
      spelled⟩, named⟩
  · rintro ⟨cut, named⟩
    rcases Text.cutAt_eq_iff.mp cut with ⟨inhabited, -, spelled⟩
    exact ⟨inhabited, named, spelled⟩

theorem Lists.lineOf_eq (lists : Lists words s) : lineOf s.toList = s.toList := by
  rcases eq_lineOf_or s.toList with whole | ended
  · exact whole.symm
  · have plain : s.toList.all (fun c => continuesPlain c || c == '.') = true := by
      rw [lists.spelled]
      refine Text.all_intercalate (by decide) fun word listed => ?_
      refine List.all_eq_true.mpr fun c member => ?_
      rw [(lists.named word listed).continues c member, Bool.true_or]
    have feed : '\n' ∈ s.toList := ended ▸ List.mem_append_right _ List.mem_cons_self
    exact absurd (List.all_eq_true.mp plain '\n' feed) (by decide)

/-- There is a dot in a list exactly if there is more than one word. -/
theorem Lists.dotted_iff (lists : Lists words s) : '.' ∈ s.toList ↔ 2 ≤ words.length := by
  rw [lists.spelled]
  cases words with
  | nil => exact absurd rfl lists.inhabited
  | cons first rest =>
    cases rest with
    | nil =>
      rw [List.intercalate_singleton]
      exact iff_of_false (lists.named first List.mem_cons_self).undotted (by simp)
    | cons second rest =>
      rw [List.intercalate_cons_cons]
      exact iff_of_true (by simp) (by simp)

theorem ListsInLine.length_pos (lists : ListsInLine words s) : 0 < words.length := by
  rcases lists with ⟨line, lists, -⟩
  exact List.length_pos_of_ne_nil lists.inhabited

theorem ListsInLine.dotted_iff (lists : ListsInLine words s) :
    '.' ∈ s.toList ↔ 2 ≤ words.length := by
  rcases lists with ⟨line, lists, rfl | rfl⟩
  · exact lists.dotted_iff
  · rw [String.toList_append, List.mem_append, lists.dotted_iff]
    exact or_iff_left (by decide)

/-- The texts that pass for qualified names are the lists of words, and those with a line feed
behind the last word. -/
theorem isQualified_iff (s : String) : isQualified s = true ↔ ∃ words, ListsInLine words s := by
  rw [isQualified, List.all_eq_true]
  constructor
  · intro plain
    refine ⟨Text.cutAt '.' (lineOf s.toList), String.ofList (lineOf s.toList), ?_, ?_⟩
    · rw [lists_iff, String.toList_ofList]
      exact ⟨rfl, fun word listed => (isIdentifierWord_iff word).mpr (plain word listed)⟩
    · refine (eq_lineOf_or s.toList).imp (fun whole => ?_) fun ended => ?_
      · rw [← whole, String.ofList_toList]
      · rw [← String.toList_inj, String.toList_append, String.toList_ofList]
        exact ended
  · rintro ⟨words, line, lists, ends⟩ word listed
    have same : lineOf s.toList = line.toList := by
      rcases ends with rfl | rfl
      · exact lists.lineOf_eq
      · rw [String.toList_append]
        exact lineOf_concat _
    rw [same, (lists_iff.mp lists).1] at listed
    exact (isIdentifierWord_iff word).mp (lists.named word listed)

end Lists

end Sql
end PolicyStudio
