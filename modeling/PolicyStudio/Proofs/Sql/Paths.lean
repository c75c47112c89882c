import PolicyStudio.Proofs.Sql.Names
import PolicyStudio.Script.Machine

/-!
# Reading dotted names back

A reader of a statement takes a dotted name apart at the dots outside of quotes.  Between
them it accepts a quoted text, or a word of small letters, digits and underscores that
does not begin with a digit and is not reserved.  `readPath` is this reader; it knows
nothing of how names are written.

It finds the parts of every name again, with one exception.  The test that decides
between a bare and a quoted part overlooks a line feed at the end, so a word with one
line feed behind it is written bare, be it a reserved one.  Then there is no reading.
-/

namespace PolicyStudio
namespace Sql

/-! ## The reader -/

/-- The character of a lexeme outside of quotes. -/
def Lexeme.bare? : Lexeme → Option Char
  | .bare c => some c
  | .quoted .. => none

/-- The word names something without quotes. -/
def isBareWord (word : List Char) : Bool :=
  isWordOf startsBare continuesBare word && !reservedWords.contains (String.ofList word)

/-- Read one part of a dotted name. -/
def readPart (piece : List Lexeme) : Option (List Char) :=
  match piece with
  | [.quoted '"' content] => if content = [] then none else some content
  | _ => do
    let word ← piece.mapM Lexeme.bare?
    if isBareWord word then some word else none

/-- Read a whole text as a dotted name. -/
def readPath (text : String) : Option (List (List Char)) := do
  let lexemes ← lex text.toList
  (lexemes.splitOn (.bare '.')).mapM readPart

/-! ## Words with a line feed behind them -/

/-- No word has a line feed at its end. -/
theorem isWordOf_concat_feed (word : List Char) :
    isWordOf startsBare continuesBare (word ++ ['\n']) = false := by
  cases word with
  | nil => rfl
  | cons first rest =>
    have feed : continuesBare '\n' = false := by decide
    rw [List.cons_append, isWordOf, List.all_append, List.all_cons, feed, Bool.false_and,
      Bool.and_false, Bool.and_false]

/-- A word with a line feed behind it is written bare, also if it is reserved. -/
theorem isBarePart_concat_feed {word : List Char}
    (plain : isWordOf startsBare continuesBare word = true) :
    isBarePart (word ++ ['\n']) = true := by
  have unlisted : ∀ reserved ∈ reservedWords, '\n' ∉ reserved.toList := by decide
  have free : String.ofList (word ++ ['\n']) ∉ reservedWords := by
    intro listed
    refine unlisted _ listed ?_
    rw [String.toList_ofList]
    exact List.mem_append_right _ List.mem_cons_self
  rw [isBarePart, lineOf_concat, plain, Bool.true_and, Bool.not_eq_true', List.contains_eq_mem,
    decide_eq_false_iff_not]
  exact free

/-! ## Reading parts -/

theorem mapM_bare?_bares (cs : List Char) : (bares cs).mapM Lexeme.bare? = some cs := by
  induction cs with
  | nil => rfl
  | cons c rest inductionHypothesis =>
    change (Lexeme.bare c :: bares rest).mapM Lexeme.bare? = _
    rw [List.mapM_cons, inductionHypothesis]
    rfl

theorem readPart_bares (cs : List Char) :
    readPart (bares cs) = if isBareWord cs then some cs else none := by
  have read : readPart (bares cs) = (do
      let word ← (bares cs).mapM Lexeme.bare?
      if isBareWord word then some word else none) := by
    cases cs <;> rfl
  rw [read, mapM_bare?_bares]
  rfl

/-- A word that was written with the line feed behind it is not read. -/
theorem readPart_of_feed {word : List Char} (plain : isWordOf startsBare continuesBare word = true) :
    readPart (partLexemes (word ++ ['\n'])) = none := by
  rw [partLexemes, if_pos (isBarePart_concat_feed plain), readPart_bares, isBareWord,
    isWordOf_concat_feed]
  rfl

/-- Any other part is read as it is. -/
theorem readPart_partLexemes {part : List Char} (shows : part ≠ [])
    (unfed : ∀ word, isWordOf startsBare continuesBare word = true → part ≠ word ++ ['\n']) :
    readPart (partLexemes part) = some part := by
  unfold partLexemes
  split_ifs with bare
  · have word := (Bool.and_eq_true_iff.mp bare).1
    have whole : lineOf part = part := by
      rcases eq_lineOf_or part with equal | equal
      · exact equal.symm
      · exact absurd equal (unfed _ word)
    have named : isBareWord part = true := by
      rw [isBarePart, whole] at bare
      exact bare
    rw [readPart_bares, if_pos named]
  · rw [readPart, if_neg shows]

/-! ## Reading paths -/

/-- Single dots stand between the parts of a path. -/
theorem pathLexemes_eq (parts : List (List Char)) :
    pathLexemes parts = [Lexeme.bare '.'].intercalate (parts.map partLexemes) := by
  fun_induction pathLexemes parts with
  | case1 => rfl
  | case2 part => simp
  | case3 part rest several inductionHypothesis =>
    have others : rest.map partLexemes ≠ [] := fun empty => several (List.map_eq_nil_iff.mp empty)
    rw [inductionHypothesis, List.map_cons, List.intercalate_cons_of_ne_nil others,
      List.append_assoc, List.singleton_append]

/-- There is no dot in a part outside of quotes. -/
theorem dot_not_mem_partLexemes {part : List Char} (undotted : '.' ∉ part) :
    Lexeme.bare '.' ∉ partLexemes part := by
  intro member
  unfold partLexemes at member
  split_ifs at member
  · rcases List.mem_map.mp member with ⟨c, written, equal⟩
    exact undotted (Lexeme.bare.inj equal ▸ written)
  · cases List.mem_singleton.mp member

/-- Every part is read as it is, and so are all of them. -/
theorem mapM_eq_some_self {α : Type} {read : α → Option α} {parts : List α}
    (each : ∀ part ∈ parts, read part = some part) : parts.mapM read = some parts := by
  induction parts with
  | nil => rfl
  | cons part rest inductionHypothesis =>
    have others := inductionHypothesis fun other member => each other (List.mem_cons_of_mem _ member)
    rw [List.mapM_cons, each part List.mem_cons_self, others]
    rfl

/-- If one part is not read, nothing is. -/
theorem mapM_eq_none {α β : Type} {read : α → Option β} {parts : List α} {part : α}
    (listed : part ∈ parts) (unread : read part = none) : parts.mapM read = none := by
  induction parts with
  | nil => cases listed
  | cons first rest inductionHypothesis =>
    rw [List.mapM_cons]
    rcases List.mem_cons.mp listed with equal | member
    · rw [← equal, unread]
      rfl
    · rw [inductionHypothesis member]
      cases read first <;> rfl

namespace Identifier

variable (name : Identifier)

theorem lex_render : lex name.render.toList = some name.lexemes := by
  have compact := name.compact_lexemes
  rw [← name.spell_lexemes]
  exact lex_spell _ compact.closed.proper compact.closed.apart

/-- A reader takes an identifier apart where its parts meet. -/
theorem readPath_render :
    readPath name.render = (pathParts name.text).mapM fun part => readPart (partLexemes part) := by
  have undotted : ∀ piece ∈ (pathParts name.text).map partLexemes, Lexeme.bare '.' ∉ piece := by
    intro piece listed
    rcases List.mem_map.mp listed with ⟨part, member, equal⟩
    exact equal ▸ dot_not_mem_partLexemes (Text.not_mem_of_mem_cutAt member)
  have pieces : (pathParts name.text).map partLexemes ≠ [] :=
    fun empty => Text.cutAt_ne_nil _ _ (List.map_eq_nil_iff.mp empty)
  rw [readPath, name.lex_render, lexemes, pathLexemes_eq]
  change ((List.splitOn _ _).mapM readPart : Option _) = _
  rw [List.splitOn_intercalate _ undotted pieces, List.mapM_map]
  rfl

theorem ne_nil_of_mem_pathParts : ∀ part ∈ pathParts name.text, part ≠ [] := by
  rintro _ member rfl
  have filled := List.all_eq_true.mp name.complete [] member
  cases filled

/-- An identifier is read as its parts, unless one of them is a word with a line feed behind
it; then it is not read. -/
theorem readPath_render_cases :
    (readPath name.render = some (pathParts name.text) ∧
      ∀ word, isWordOf startsBare continuesBare word = true → word ++ ['\n'] ∉ pathParts name.text) ∨
    (readPath name.render = none ∧
      ∃ word, isWordOf startsBare continuesBare word = true ∧ word ++ ['\n'] ∈ pathParts name.text) := by
  rw [readPath_render]
  by_cases fed : ∃ word, isWordOf startsBare continuesBare word = true ∧
      word ++ ['\n'] ∈ pathParts name.text
  · rcases fed with ⟨word, plain, member⟩
    exact Or.inr ⟨mapM_eq_none member (readPart_of_feed plain), word, plain, member⟩
  · have unfed : ∀ word, isWordOf startsBare continuesBare word = true →
        word ++ ['\n'] ∉ pathParts name.text :=
      fun word plain member => fed ⟨word, plain, member⟩
    refine Or.inl ⟨mapM_eq_some_self fun part member => ?_, unfed⟩
    refine readPart_partLexemes (name.ne_nil_of_mem_pathParts part member) fun word plain equal => ?_
    exact unfed word plain (equal ▸ member)

end Identifier

end Sql

/-! ## Names that programs give -/

namespace Policy

open Sql Script

/-- A text is blank, has an empty part, or is accepted as it is. -/
theorem identifier_cases (s : String) :
    (Text.blank s = true ∧ identifier s = .error (.identifierBlank (Text.quoted s))) ∨
    (Text.blank s = false ∧ [] ∈ pathParts s ∧ identifier s = .error (.identifierPartEmpty s)) ∨
    ∃ name, identifier s = .ok name ∧ name.text = s ∧ Text.blank s = false ∧ [] ∉ pathParts s := by
  have emptiness : hasAllParts s = true ↔ [] ∉ pathParts s := by
    rw [hasAllParts, List.all_eq_true]
    constructor
    · intro filled missing
      cases filled [] missing
    · intro complete part member
      cases part with
      | nil => exact absurd member complete
      | cons first rest => rfl
  cases shows : Text.blank s with
  | true =>
    refine Or.inl ⟨rfl, ?_⟩
    simp only [identifier, Identifier.ofString, shows, Bool.true_eq_false, dite_false]
  | false =>
    refine Or.inr ?_
    by_cases complete : hasAllParts s = true
    · refine Or.inr ⟨⟨s, shows, complete⟩, ?_, rfl, rfl, emptiness.mp complete⟩
      simp only [identifier, Identifier.ofString, shows, complete, dite_true]
    · refine Or.inl ⟨rfl, not_not.mp (mt emptiness.mpr complete), ?_⟩
      simp only [identifier, Identifier.ofString, shows, complete, dite_true, dite_false,
        Bool.false_eq_true]

theorem text_of_identifier {name : String} {accepted : Identifier}
    (checked : identifier name = .ok accepted) : accepted.text = name := by
  rcases identifier_cases name with ⟨-, refused⟩ | ⟨-, -, refused⟩ | ⟨found, same, text, -⟩
  · exact nomatch refused.symm.trans checked
  · exact nomatch refused.symm.trans checked
  · exact Except.ok.inj (same.symm.trans checked) ▸ text

/-- A text is refused as a name exactly if it is blank or has an empty part between its dots.
What is written for any other text is read as exactly the parts between its dots, unless one
of them is a word with a line feed behind it, which no reader takes for a name. -/
theorem names_are_read_back (s : String) :
    ((∃ error, identifier s = .error error) ↔ Text.blank s = true ∨ [] ∈ pathParts s) ∧
    (∀ error, identifier s = .error error → errorKind error = .policyDefinition) ∧
    ∀ name, identifier s = .ok name →
      (readPath name.render = some (pathParts s) ∨ readPath name.render = none) ∧
      (readPath name.render = none ↔
        ∃ word, isWordOf startsBare continuesBare word = true ∧ word ++ ['\n'] ∈ pathParts s) := by
  have outcome := identifier_cases s
  refine ⟨⟨?_, ?_⟩, ?_, ?_⟩
  · rintro ⟨error, refused⟩
    rcases outcome with ⟨blank, -⟩ | ⟨-, missing, -⟩ | ⟨name, accepted, -⟩
    · exact Or.inl blank
    · exact Or.inr missing
    · rw [accepted] at refused
      cases refused
  · intro malformed
    rcases outcome with ⟨-, refused⟩ | ⟨-, -, refused⟩ | ⟨name, -, -, shows, complete⟩
    · exact ⟨_, refused⟩
    · exact ⟨_, refused⟩
    · rcases malformed with blank | missing
      · rw [shows] at blank
        cases blank
      · exact absurd missing complete
  · intro error refused
    rcases outcome with ⟨-, equal⟩ | ⟨-, -, equal⟩ | ⟨name, equal, -⟩
    all_goals
      rw [equal] at refused
      cases refused
    all_goals rfl
  · intro name accepted
    rcases outcome with ⟨-, equal⟩ | ⟨-, -, equal⟩ | ⟨checked, equal, text, -⟩
    · rw [equal] at accepted
      cases accepted
    · rw [equal] at accepted
      cases accepted
    · cases equal.symm.trans accepted
      rw [← text]
      rcases name.readPath_render_cases with ⟨read, unfed⟩ | ⟨unread, fed⟩
      · rw [read]
        exact ⟨Or.inl rfl, iff_of_false nofun fun ⟨word, plain, member⟩ => unfed word plain member⟩
      · rw [unread]
        exact ⟨Or.inr rfl, iff_of_true rfl fed⟩

/-- A name with capitals, a reserved word and marks in it. -/
def markedName : String := "public.User.select.say \"hi\""

/-- All four parts of it are read back. -/
theorem marked_name_is_read_back : ∃ name, identifier markedName = .ok name ∧
    name.render = "public.\"User\".\"select\".\"say \"\"hi\"\"\"" ∧
    readPath name.render = some (pathParts markedName) := by
  have accepted : identifier markedName = .ok ⟨markedName, rfl, rfl⟩ := rfl
  refine ⟨_, accepted, rfl, ?_⟩
  have reading := (names_are_read_back markedName).2.2 _ accepted
  refine reading.1.resolve_right fun unread => ?_
  rcases reading.2.mp unread with ⟨word, -, member⟩
  have unfed : ∀ part ∈ pathParts markedName, part.getLast? ≠ some '\n' := by decide
  exact unfed _ member List.getLast?_concat

/-- A word with a line feed behind it is a name that is written as it is and not read back. -/
theorem name_with_feed_is_not_read_back : ∃ name, identifier "a\n" = .ok name ∧
    name.render = "a\n" ∧ readPath name.render ≠ some (pathParts "a\n") := by
  have accepted : identifier "a\n" = .ok ⟨"a\n", rfl, rfl⟩ := rfl
  refine ⟨_, accepted, rfl, ?_⟩
  have word : isWordOf startsBare continuesBare ['a'] = true := by decide
  have part : ['a'] ++ ['\n'] ∈ pathParts "a\n" := by decide
  have unread := Identifier.readPath_render_cases ⟨"a\n", rfl, rfl⟩
  rcases unread with ⟨-, unfed⟩ | ⟨unread, -⟩
  · exact absurd part (unfed ['a'] word)
  · rw [unread]
    exact nofun

end Policy
end PolicyStudio
