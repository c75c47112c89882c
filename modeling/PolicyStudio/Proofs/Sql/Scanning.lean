import PolicyStudio.Proofs.Sql.Names

/-!
# Scanning a statement

A reader who knows the grammar of a statement goes through its lexemes from left to
right.  It expects certain words, and between them it reads names, lines and what stands
in parentheses.  A line ends where an indented line begins, or with the semicolon.

Every scanner comes with the lexemes that it reads.  It reads exactly these, whatever
stands behind them, as long as nothing in them looks like their end.  Names never do:
all that stands in them outside of quotes are small letters, digits, dots, underscores
and line feeds.
-/

namespace PolicyStudio
namespace Sql

/-! ## Scanners -/

/-- Something is read from lexemes, and the others are left. -/
abbrev Scanner (α : Type) := StateT (List Lexeme) Option α

/-- A line ends here, because an indented one begins or because the statement ends. -/
def endsLine (lexemes : List Lexeme) : Bool :=
  (bares "\n  ".toList).isPrefixOf lexemes || lexemes.head? == some (.bare ';')

/-- The lexemes up to the end of the line, and the others. -/
def toLineEnd : List Lexeme → List Lexeme × List Lexeme
  | [] => ([], [])
  | first :: rest =>
    if endsLine (first :: rest) then ([], first :: rest)
    else (first :: (toLineEnd rest).1, (toLineEnd rest).2)

/-- The lexemes up to the parenthesis that closes the outermost one, and those behind it. -/
def toClosing (depth : Nat) : List Lexeme → Option (List Lexeme × List Lexeme)
  | [] => none
  | first :: rest =>
    if depth = 0 ∧ first = .bare ')' then some ([], rest)
    else (toClosing ((first.level? depth).getD 0) rest).map fun read => (first :: read.1, read.2)

namespace Scanner

/-- Words that have to stand here. -/
def expect (words : String) : Scanner Unit := fun lexemes =>
  if (bares words.toList).isPrefixOf lexemes then some ((), lexemes.drop words.toList.length)
  else none

/-- A quoted name. -/
def label : Scanner String
  | .quoted '"' content :: rest => some (String.ofList content, rest)
  | _ => none

/-- The rest of a line. -/
def line : Scanner (List Lexeme) := fun lexemes => some (toLineEnd lexemes)

/-- The rest of a line, which is a word with a meaning. -/
def meaning {α : Type} (meanings : List (String × α)) : Scanner α := do
  let found ← line
  StateT.lift (meanings.lookup (String.ofList (spell found)))

/-- The text before the closing parenthesis. -/
def enclosed : Scanner String := fun lexemes =>
  (toClosing 0 lexemes).map fun read => (String.ofList (spell read.1), read.2)

/-- The text in parentheses. -/
def inParentheses : Scanner String := do
  expect "("
  enclosed

/-- What may stand here, behind words of its own. -/
def optionally {α : Type} (opening : String) (scanner : Scanner α) : Scanner (Option α) :=
  fun lexemes => match expect opening lexemes with
    | none => some (none, lexemes)
    | some (_, behind) => (scanner behind).map fun read => (some read.1, read.2)

variable {α β : Type} {scanner : Scanner α} {lexemes rest : List Lexeme}

/-- The second scanner goes on where the first one stopped. -/
theorem bind_eq {next : α → Scanner β} {value : α} (read : scanner lexemes = some (value, rest)) :
    (scanner >>= next) lexemes = next value rest := by
  change (scanner lexemes).bind (fun read => next read.1 read.2) = next value rest
  rw [read]
  rfl

/-! ## Words -/

theorem expect_append (words : String) (rest : List Lexeme) :
    expect words (bares words.toList ++ rest) = some ((), rest) := by
  have found : (bares words.toList).isPrefixOf (bares words.toList ++ rest) = true :=
    List.isPrefixOf_iff_prefix.mpr (List.prefix_append _ _)
  have counted : (bares words.toList).length = words.toList.length := List.length_map _
  rw [expect, if_pos found, ← counted, List.drop_left]

theorem label_cons (name : String) (rest : List Lexeme) :
    label (.quoted '"' name.toList :: rest) = some (name, rest) := by
  rw [label, String.ofList_toList]

theorem optionally_append {opening : String} {value : α} (read : scanner lexemes = some (value, rest)) :
    optionally opening scanner (bares opening.toList ++ lexemes) = some (some value, rest) := by
  rw [optionally, expect_append]
  change (scanner lexemes).map _ = _
  rw [read]
  rfl

theorem optionally_of_absent {opening : String}
    (absent : (bares opening.toList).isPrefixOf lexemes = false) :
    optionally opening scanner lexemes = some (none, lexemes) := by
  rw [optionally, expect, absent]
  rfl

end Scanner

/-! ## Lines -/

/-- No line ends within the lexemes. -/
structure Unbroken (lexemes : List Lexeme) : Prop where
  flush : lexemes.IsChain fun first second => ¬(first = .bare '\n' ∧ second = .bare ' ')
  unended : .bare ';' ∉ lexemes

/-- Where a line ends there is the semicolon, or a line feed with a space behind it. -/
theorem endsLine_cons {first : Lexeme} {rest : List Lexeme} (ends : endsLine (first :: rest) = true) :
    first = .bare ';' ∨ (first = .bare '\n' ∧ rest.head? = some (.bare ' ')) := by
  rw [endsLine, Bool.or_eq_true] at ends
  rcases ends with indented | ended
  · rcases List.isPrefixOf_iff_prefix.mp indented with ⟨behind, equal⟩
    cases equal
    exact Or.inr ⟨rfl, rfl⟩
  · exact Or.inl (Option.some.inj (beq_iff_eq.mp ended))

/-- The end of a line begins with a break, which is no space. -/
theorem head?_of_endsLine {lexemes : List Lexeme} (ends : endsLine lexemes = true) :
    lexemes.head?.any Lexeme.isBreak = true ∧ lexemes.head? ≠ some (.bare ' ') := by
  cases lexemes with
  | nil => cases ends
  | cons first rest =>
    rcases endsLine_cons ends with equal | ⟨equal, -⟩
    · subst equal
      exact ⟨rfl, nofun⟩
    · subst equal
      exact ⟨rfl, nofun⟩

theorem toLineEnd_append {front rest : List Lexeme} (unbroken : Unbroken front)
    (ends : endsLine rest = true) : toLineEnd (front ++ rest) = (front, rest) := by
  induction front with
  | nil =>
    cases rest with
    | nil => cases ends
    | cons first rest => rw [List.nil_append, toLineEnd, if_pos ends]
  | cons first front inductionHypothesis =>
    have goesOn : ¬endsLine (first :: (front ++ rest)) = true := by
      intro ended
      rcases endsLine_cons ended with semicolon | ⟨feed, space⟩
      · exact unbroken.unended (semicolon ▸ List.mem_cons_self)
      · cases front with
        | nil => exact (head?_of_endsLine ends).2 space
        | cons second front =>
          exact (List.isChain_cons_cons.mp unbroken.flush).1 ⟨feed, Option.some.inj space⟩
    have others : Unbroken front :=
      ⟨unbroken.flush.tail, fun member => unbroken.unended (List.mem_cons_of_mem _ member)⟩
    rw [List.cons_append, toLineEnd, if_neg goesOn, inductionHypothesis others]

/-- Without spaces and semicolons no line ends. -/
theorem Unbroken.of_forall {lexemes : List Lexeme} (blankless : ∀ lexeme ∈ lexemes, lexeme ≠ .bare ' ')
    (unended : .bare ';' ∉ lexemes) : Unbroken lexemes where
  flush := by
    refine List.isChain_iff_forall_rel_of_append_cons_cons.mpr ?_
    rintro first second front back split ⟨-, space⟩
    refine blankless second ?_ space
    rw [split]
    exact List.mem_append_right _ (List.mem_cons_of_mem _ List.mem_cons_self)
  unended := unended

/-- Two pieces of a line, between which no space follows a line feed. -/
theorem Unbroken.append {first second : List Lexeme} (before : Unbroken first)
    (after : Unbroken second) (joint : first.getLast? ≠ some (.bare '\n') ∨
      second.head? ≠ some (.bare ' ')) : Unbroken (first ++ second) where
  flush := by
    refine before.flush.append after.flush ?_
    rintro last ended next headed ⟨rfl, rfl⟩
    exact joint.elim (· ended) (· headed)
  unended member := (List.mem_append.mp member).elim before.unended after.unended

namespace Scanner

theorem line_append {front rest : List Lexeme} (unbroken : Unbroken front)
    (ends : endsLine rest = true) : line (front ++ rest) = some (front, rest) := by
  rw [line, toLineEnd_append unbroken ends]

theorem meaning_append {α : Type} {meanings : List (String × α)} {word : String} {value : α}
    {rest : List Lexeme} (known : meanings.lookup word = some value)
    (unbroken : Unbroken (bares word.toList)) (ends : endsLine rest = true) :
    meaning meanings (bares word.toList ++ rest) = some (value, rest) := by
  rw [meaning, bind_eq (line_append unbroken ends), spell_bares, String.ofList_toList, known]
  rfl

end Scanner

/-! ## Parentheses -/

/-- What closes at the depth at which it is read is read as a whole. -/
theorem toClosing_append {depth : Nat} {inner : List Lexeme} (balanced : level depth inner = some 0)
    (rest : List Lexeme) : toClosing depth (inner ++ .bare ')' :: rest) = some (inner, rest) := by
  induction inner generalizing depth with
  | nil =>
    cases balanced
    rfl
  | cons first inner inductionHypothesis =>
    rw [level_cons] at balanced
    rcases Option.bind_eq_some_iff.mp balanced with ⟨next, stepped, innerBalanced⟩
    have goesOn : ¬(depth = 0 ∧ first = .bare ')') := by
      rintro ⟨rfl, rfl⟩
      cases stepped
    rw [List.cons_append, toClosing, if_neg goesOn, stepped, Option.getD_some,
      inductionHypothesis innerBalanced]
    rfl

theorem Scanner.inParentheses_append {inner : List Lexeme} (balanced : level 0 inner = some 0)
    (rest : List Lexeme) :
    inParentheses (.bare '(' :: (inner ++ [.bare ')']) ++ rest) =
      some (String.ofList (spell inner), rest) := by
  have opened := expect_append "(" (inner ++ .bare ')' :: rest)
  rw [List.cons_append, List.append_assoc]
  refine (bind_eq opened).trans ?_
  rw [enclosed, toClosing_append balanced]
  rfl

/-! ## Names -/

/-- The characters of a lexeme, without quotes. -/
def Lexeme.content : Lexeme → List Char
  | .bare c => [c]
  | .quoted _ content => content

/-- The text that lexemes name, without quotes. -/
def namedBy (lexemes : List Lexeme) : String :=
  String.ofList (lexemes.flatMap Lexeme.content)

/-- A lexeme that can stand in a name. -/
def Lexeme.isOfName : Lexeme → Bool
  | .bare c => continuesBare c || c == '.' || c == '\n'
  | .quoted mark _ => mark == '"'

theorem isOfName_of_mem_partLexemes {part : List Char} :
    ∀ lexeme ∈ partLexemes part, lexeme.isOfName = true := by
  intro lexeme member
  unfold partLexemes at member
  split_ifs at member with bare
  · rcases List.mem_map.mp member with ⟨c, written, equal⟩
    subst equal
    rw [Lexeme.isOfName, Bool.or_eq_true, Bool.or_eq_true, beq_iff_eq, beq_iff_eq]
    rcases mem_lineOf written with feed | inside
    · exact Or.inr feed
    · have word := (Bool.and_eq_true_iff.mp bare).1
      exact Or.inl (Or.inl (continuesBare_of_isWordOf word c inside))
  · rw [List.mem_singleton.mp member]
    rfl

theorem isOfName_of_mem_pathLexemes {parts : List (List Char)} :
    ∀ lexeme ∈ pathLexemes parts, lexeme.isOfName = true := by
  fun_induction pathLexemes parts with
  | case1 => exact fun _ impossible => absurd impossible List.not_mem_nil
  | case2 part => exact isOfName_of_mem_partLexemes
  | case3 part rest _ inductionHypothesis =>
    intro lexeme member
    rcases List.mem_append.mp member with member | member
    · exact isOfName_of_mem_partLexemes lexeme member
    · rcases List.mem_cons.mp member with equal | member
      · exact equal ▸ by decide
      · exact inductionHypothesis lexeme member

theorem content_bares (cs : List Char) : (bares cs).flatMap Lexeme.content = cs := by
  induction cs with
  | nil => rfl
  | cons c rest inductionHypothesis => exact congrArg (c :: ·) inductionHypothesis

theorem content_partLexemes (part : List Char) :
    (partLexemes part).flatMap Lexeme.content = part := by
  unfold partLexemes
  split_ifs
  · exact content_bares part
  · exact List.append_nil part

theorem content_pathLexemes (parts : List (List Char)) :
    (pathLexemes parts).flatMap Lexeme.content = joinDots parts := by
  fun_induction pathLexemes parts with
  | case1 => rfl
  | case2 part => exact content_partLexemes part
  | case3 part rest several inductionHypothesis =>
    cases rest with
    | nil => exact absurd rfl several
    | cons next rest =>
      rw [List.flatMap_append, List.flatMap_cons, content_partLexemes, inductionHypothesis]
      rfl

namespace Identifier

variable (name : Identifier)

/-- An identifier is read as its text. -/
theorem namedBy_lexemes : namedBy name.lexemes = name.text := by
  rw [namedBy, lexemes, content_pathLexemes, pathParts, joinDots_cutAt, String.ofList_toList]

theorem ne_of_mem_lexemes {other : Lexeme} (foreign : other.isOfName = false) :
    ∀ lexeme ∈ name.lexemes, lexeme ≠ other := by
  rintro lexeme member rfl
  rw [isOfName_of_mem_pathLexemes lexeme member] at foreign
  cases foreign

theorem unbroken_lexemes : Unbroken name.lexemes :=
  .of_forall (name.ne_of_mem_lexemes (by decide))
    fun member => name.ne_of_mem_lexemes (by decide) _ member rfl

end Identifier

/-! ## Lists of names -/

/-- The names between commas.  Spaces outside of quotes do not count. -/
def namesBetweenCommas (lexemes : List Lexeme) : List String :=
  ((lexemes.filter (· != .bare ' ')).splitOn (.bare ',')).map namedBy

/-- Identifiers with commas between them, as they are read. -/
def listLexemes : List Identifier → List Lexeme
  | [] => []
  | [name] => name.lexemes
  | name :: rest => name.lexemes ++ (bares ", ".toList ++ listLexemes rest)

theorem sealed_listLexemes (names : List Identifier) : Sealed 0 (listLexemes names) := by
  fun_induction listLexemes names with
  | case1 => exact Sealed.nil
  | case2 name => exact name.compact_lexemes.closed
  | case3 name rest _ inductionHypothesis =>
    exact name.compact_lexemes.closed.join (by decide) inductionHypothesis

theorem unbroken_listLexemes (names : List Identifier) : Unbroken (listLexemes names) := by
  fun_induction listLexemes names with
  | case1 => exact ⟨List.isChain_nil, List.not_mem_nil⟩
  | case2 name => exact name.unbroken_lexemes
  | case3 name rest _ inductionHypothesis =>
    have comma : Unbroken (bares ", ".toList) := ⟨by decide, by decide⟩
    have behind := comma.append inductionHypothesis (Or.inl (by decide))
    exact name.unbroken_lexemes.append behind (Or.inr nofun)

/-- Without the spaces, single commas stand between the identifiers. -/
theorem filter_listLexemes (names : List Identifier) :
    (listLexemes names).filter (· != .bare ' ') =
      [Lexeme.bare ','].intercalate (names.map Identifier.lexemes) := by
  have kept : ∀ name : Identifier, name.lexemes.filter (· != .bare ' ') = name.lexemes :=
    fun name => List.filter_eq_self.mpr fun lexeme member =>
      bne_iff_ne.mpr (name.ne_of_mem_lexemes (by decide) lexeme member)
  fun_induction listLexemes names with
  | case1 => rfl
  | case2 name => simpa using kept name
  | case3 name rest several inductionHypothesis =>
    cases rest with
    | nil => exact absurd rfl several
    | cons next rest =>
      have comma : (bares ", ".toList).filter (· != .bare ' ') = [.bare ','] := by decide
      rw [List.filter_append, List.filter_append, kept, comma, inductionHypothesis,
        ← List.append_assoc]
      exact (List.intercalate_cons_of_ne_nil (List.cons_ne_nil _ _)).symm

/-- The names of a list are read back, in their order. -/
theorem namesBetweenCommas_listLexemes {names : List Identifier} (given : names ≠ []) :
    namesBetweenCommas (listLexemes names) = names.map Identifier.text := by
  have unseparated : ∀ piece ∈ names.map Identifier.lexemes, Lexeme.bare ',' ∉ piece := by
    intro piece member inside
    rcases List.mem_map.mp member with ⟨name, -, equal⟩
    subst equal
    exact name.ne_of_mem_lexemes (by decide) _ inside rfl
  have pieces : names.map Identifier.lexemes ≠ [] := fun empty => given (List.map_eq_nil_iff.mp empty)
  rw [namesBetweenCommas, filter_listLexemes, List.splitOn_intercalate _ unseparated pieces,
    List.map_map]
  exact List.map_congr_left fun name _ => name.namedBy_lexemes

end Sql
end PolicyStudio
