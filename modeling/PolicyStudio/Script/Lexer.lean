import PolicyStudio.Text.Printable
import PolicyStudio.Text.Utf8
import PolicyStudio.Text.Word
import PolicyStudio.Script.Numeral
import PolicyStudio.Script.Token

/-!
# Cutting a program into tokens

Lines matter: the indentation of a line opens and closes blocks, and its end ends
a statement.  Inside brackets neither counts.  Lines without content count
nowhere, and a backslash at the end of a line joins it with the next.

Indentation is measured twice, with wide and with narrow tabs.  Where the two
measures disagree about an order, the text is refused.
-/

namespace PolicyStudio
namespace Script

/-- The state between two tokens. -/
structure LexerState where
  rest : List Char
  /-- How many lines have been looked at. -/
  line : Nat
  /-- The first line that a refusal shows. -/
  shownFrom : Nat
  /-- The next character is the first of a line that was not looked at yet. -/
  isFresh : Bool
  /-- The indentation of the line has not been measured yet. -/
  atStart : Bool
  /-- The open levels of indentation in both measures, the innermost first; the
  outermost level, which is never closed, is not among them. -/
  levels : List (Nat × Nat)
  /-- How many levels are still to be announced as opened or closed. -/
  waiting : Int
  brackets : List OpenBracket

namespace LexerState

/-- The state before the first token of a text whose first line has this number. -/
def initial (cs : List Char) (firstLine : Nat) : LexerState :=
  ⟨cs, firstLine - 1, firstLine, true, true, [], 0, []⟩

/-- Look at the next line if the current one is used up.  `keep` tells that a
token has begun, so that what is shown begins where it did. -/
def look (state : LexerState) (keep : Bool) : LexerState :=
  if state.isFresh && !state.rest.isEmpty then
    { state with
      line := state.line + 1
      shownFrom := if keep then state.shownFrom else state.line + 1
      isFresh := false }
  else state

/-- A token that begins on a line. -/
def tokenAt (state : LexerState) (kind : TokenKind) (text : List Char) (line : Nat) : Token :=
  ⟨kind, String.ofList text, line, state.shownFrom, state.line, state.brackets⟩

/-- A token on the current line. -/
def token (state : LexerState) (kind : TokenKind) (text : List Char) : Token :=
  state.tokenAt kind text state.line

/-- A token that tells why it cannot go on. -/
def fault (state : LexerState) (cause : TokenFault) : Token :=
  state.token (.fault cause) []

/-- The text is malformed on the current line. -/
def malformed (state : LexerState) (message : String) : Token :=
  state.fault (.malformed state.line message)

/-- The innermost level of indentation. -/
def level (state : LexerState) : Nat × Nat :=
  state.levels.head?.getD (0, 0)

end LexerState

namespace Lexer

/-- How many levels of indentation there may be. -/
def levelLimit : Nat := 99

/-- How many brackets may be open. -/
def bracketLimit : Nat := 200

/-- The outcome of a step that may find the text to be faulty. -/
abbrev Step (α : Type) := Except Token α

/-- Go past a backslash that joins the line with the next. -/
def join (state : LexerState) (keep : Bool) : Step LexerState :=
  match state.rest with
  | '\n' :: rest =>
    if rest.isEmpty then .error (state.fault .endOfText)
    else .ok ({ state with rest, isFresh := true }.look keep)
  | _ => .error (state.fault .strayJoin)

/-! ## Indentation -/

/-- Measure an indentation: the state behind it and its two widths.  `joined`
holds the widths at the first backslash. -/
def measure : Nat → LexerState → (wide narrow : Nat) → (joined : Nat) →
    Step (LexerState × Nat × Nat)
  | 0, state, wide, narrow, _ => .ok (state, wide, narrow)
  | steps + 1, state, wide, narrow, joined =>
    match state.rest with
    | ' ' :: rest => measure steps { state with rest } (wide + 1) (narrow + 1) joined
    | '\t' :: rest => measure steps { state with rest } ((wide / 8 + 1) * 8) (narrow + 1) joined
    | '\x0c' :: rest => measure steps { state with rest } 0 0 joined
    | '\\' :: rest => do
      let joined := if joined = 0 then wide else joined
      let state ← join { state with rest } false
      measure steps state wide narrow joined
    | _ => if joined = 0 then .ok (state, wide, narrow) else .ok (state, joined, joined)

/-- Close levels that are wider than an indentation. -/
def closeLevels (wide : Nat) : List (Nat × Nat) → Int → List (Nat × Nat) × Int
  | [], waiting => ([], waiting)
  | level :: rest, waiting =>
    if wide < level.1 then closeLevels wide rest (waiting - 1) else (level :: rest, waiting)

/-- Compare the indentation of a line with content with the open levels. -/
def indented (state : LexerState) (wide narrow : Nat) : Step LexerState :=
  let (current, currentNarrow) := state.level
  if wide = current then
    if narrow = currentNarrow then .ok state else .error (state.fault .mixedTabs)
  else if current < wide then
    if levelLimit ≤ state.levels.length then .error (state.fault .tooDeep)
    else if narrow ≤ currentNarrow then .error (state.fault .mixedTabs)
    else .ok { state with levels := (wide, narrow) :: state.levels, waiting := state.waiting + 1 }
  else
    let (levels, waiting) := closeLevels wide state.levels state.waiting
    let state := { state with levels, waiting }
    if state.level.1 ≠ wide then .error (state.fault .misaligned)
    else if state.level.2 ≠ narrow then .error (state.fault .mixedTabs)
    else .ok state

/-- Measure the indentation at the start of a line.  The answer tells, too, that
the line has no content. -/
def startLine (state : LexerState) : Step (LexerState × Bool) := do
  let state := { state with atStart := false }.look false
  let (state, wide, narrow) ← measure (state.rest.length + 1) state 0 0 0
  let isEmpty := match state.rest with
    | '#' :: _ | '\n' :: _ => true
    | _ => false
  if isEmpty || !state.brackets.isEmpty then return (state, isEmpty)
  return (← indented state wide narrow, false)

/-! ## Names and texts -/

/-- What is wrong with a name that holds more than plain letters. -/
def nameFault? (cs : List Char) : Option Char :=
  match cs with
  | [] => none
  | c :: rest => if Text.isWordStart c then rest.find? fun c => !Text.isWordPart c else some c

/-- The refusal of a character. -/
def characterRefusal (c : Char) : String :=
  let code := String.ofList ((Nat.toDigits 16 c.toNat).map Char.toUpper)
  let code := String.ofList (List.replicate (4 - code.length) '0') ++ code
  if Text.isPrintable c then
    "invalid character '" ++ String.ofList [c] ++ "' (U+" ++ code ++ ")"
  else "invalid non-printable character U+" ++ code

/-- The marks before a text that there can be, in small letters. -/
def textMarks : List String :=
  ["", "b", "r", "u", "f", "br", "rb", "fr", "rf"]

/-- The quote that follows a mark of a text, if the name is one. -/
def isTextMark (name : List Char) : Bool :=
  textMarks.contains (String.ofList (name.map Char.toLower))

/-- The rest of a text up to its closing quotes: what it consists of, what
follows, and how many line breaks it holds; or, if it does not end, the number of
line breaks before the place where that is noticed. -/
def closing (quote : Char) (size : Nat) : (found : Nat) → (breaks : Nat) → List Char → List Char →
    Except Nat (List Char × List Char × Nat)
  | found, breaks, taken, cs =>
    if found = size then .ok (taken.reverse, cs, breaks)
    else match cs with
      | [] => .error breaks
      | ['\\'] => .error breaks
      | '\\' :: c :: rest =>
        closing quote size 0 (if c = '\n' then breaks + 1 else breaks) (c :: '\\' :: taken) rest
      | c :: rest =>
        if c = quote then closing quote size (found + 1) breaks (c :: taken) rest
        else if c = '\n' then
          if size = 1 then .error breaks
          else closing quote size 0 (breaks + 1) (c :: taken) rest
        else closing quote size 0 breaks (c :: taken) rest
termination_by _ _ _ cs => cs.length

/-- Cut off a text; `mark` is what stood before its first quote. -/
def textToken (state : LexerState) (mark : List Char) (quote : Char) : Token × LexerState :=
  let rest := state.rest.drop 1
  let (size, opening, rest) := match rest with
    | a :: b :: after =>
      if a = quote ∧ b = quote then (3, [quote, quote, quote], after)
      else if a = quote then (0, [quote, quote], b :: after)
      else (1, [quote], rest)
    | [a] => if a = quote then (0, [quote, quote], []) else (1, [quote], rest)
    | [] => (1, [quote], [])
  match closing quote size 0 0 [] rest with
  | .ok (taken, rest, breaks) =>
    let after := { state with rest, line := state.line + breaks }
    (after.tokenAt .text (mark ++ opening ++ taken) state.line, after)
  | .error breaks =>
    let total := (rest.filter (· == '\n')).length
    let seen := state.line + (if size = 3 ∨ total ≤ breaks then total - 1 else breaks)
    let message := if size = 3 then "unterminated triple-quoted string literal (detected at line "
      else "unterminated string literal (detected at line "
    ({ state with line := seen }.fault (.malformed state.line (message ++ seen.repr ++ ")")), state)

/-- Cut off a name, or a text that begins like one. -/
def nameToken (state : LexerState) : Token × LexerState :=
  let name := state.rest.takeWhile isNamePart
  let after := { state with rest := state.rest.drop name.length }
  match after.rest with
  | quote :: _ =>
    if (quote = '"' ∨ quote = '\'') && isTextMark name then textToken after name quote
    else plain name after
  | [] => plain name after
where
  /-- A name that is no mark of a text. -/
  plain (name : List Char) (after : LexerState) : Token × LexerState :=
    match nameFault? name with
    | some c => (state.malformed (characterRefusal c), state)
    | none => (state.token .name name, after)

/-! ## Marks -/

/-- The marks of three characters. -/
def longMarks : List String := ["**=", "...", "//=", "<<=", ">>="]

/-- The marks of two characters. -/
def doubleMarks : List String :=
  ["!=", "%=", "&=", "**", "*=", "+=", "-=", "->", "//", "/=", ":=", "<<", "<=", "<>", "==", ">=",
    ">>", "@=", "^=", "|="]

/-- The bracket that closes another one. -/
def closes (opening : Char) : Char :=
  match opening with
  | '(' => ')'
  | '[' => ']'
  | _ => '\x7d'

/-- Close the innermost bracket. -/
def closeBracket (state : LexerState) (c : Char) : Token × LexerState :=
  match state.brackets with
  | [] => (state.malformed ("unmatched '" ++ String.ofList [c] ++ "'"), state)
  | opening :: rest =>
    let after := { state with rest := state.rest.drop 1, brackets := rest }
    if closes opening.bracket = c then (after.token .mark [c], after)
    else
      let message := "closing parenthesis '" ++ String.ofList [c] ++
        "' does not match opening parenthesis '" ++ String.ofList [opening.bracket] ++ "'"
      let place := if opening.line = state.line then "" else " on line " ++ opening.line.repr
      ({ state with brackets := rest }.malformed (message ++ place), state)

/-- Cut off a mark. -/
def markToken (state : LexerState) (c : Char) : Token × LexerState :=
  let after := fun count => { state with rest := state.rest.drop count }
  let three := state.rest.take 3
  let two := state.rest.take 2
  if longMarks.contains (String.ofList three) then (state.token .mark three, after 3)
  else if doubleMarks.contains (String.ofList two) then (state.token .mark two, after 2)
  else if c = '(' ∨ c = '[' ∨ c = '\x7b' then
    if bracketLimit ≤ state.brackets.length then
      (state.malformed "too many nested parentheses", state)
    else
      let after := { after 1 with brackets := ⟨c, state.line⟩ :: state.brackets }
      (after.token .mark [c], after)
  else if c = ')' ∨ c = ']' ∨ c = '\x7d' then closeBracket state c
  else if !Text.isPrintable c then (state.malformed (characterRefusal c), state)
  else (state.token .mark [c], after 1)

/-- Cut off a numeral. -/
def numeralToken (state : LexerState) (found : Numeral.Scan) : Token × LexerState :=
  match found with
  | .ok (taken, rest) => (state.token .number taken, { state with rest })
  | .error message => (state.malformed message, state)

/-! ## The next token -/

/-- Leave out blanks and a comment. -/
def skipBlanks (cs : List Char) : List Char :=
  let cs := cs.dropWhile fun c => c = ' ' || c = '\t' || c = '\x0c'
  match cs with
  | '#' :: _ => cs.dropWhile (· != '\n')
  | _ => cs

/-- The next token.  Lines without content are passed over. -/
def next : Nat → (isEmpty : Bool) → LexerState → Token × LexerState
  | 0, _, state => (state.token .ending [], state)
  | steps + 1, isEmpty, state =>
    if state.atStart then
      match startLine state with
      | .error token => (token, state)
      | .ok (state, isEmpty) => next steps isEmpty state
    else if state.waiting < 0 then
      (state.token .dedent [], { state with waiting := state.waiting + 1 })
    else if 0 < state.waiting then
      (state.token .indent [], { state with waiting := state.waiting - 1 })
    else
      let state := { state with rest := skipBlanks state.rest }
      match state.rest with
      | [] =>
        if state.brackets.isEmpty then (state.token .ending [], state)
        else (state.fault .endOfText, state)
      | '\n' :: rest =>
        let after := { state with rest, isFresh := true, atStart := true }
        if isEmpty || !state.brackets.isEmpty then next steps false after
        else (state.token .newline [], after)
      | '\\' :: rest => match join { state with rest } true with
        | .error token => (token, state)
        | .ok state => next steps isEmpty state
      | c :: rest =>
        if isNameStart c then nameToken state
        else if c.isDigit then numeralToken state (Numeral.scan state.rest)
        else if c = '"' ∨ c = '\'' then textToken state [] c
        else match c, rest with
          | '.', d :: _ =>
            if d.isDigit then numeralToken state (Numeral.scanFraction rest)
            else markToken state c
          | _, _ => markToken state c

/-- All tokens, the last one being the ending or a fault. -/
def tokensFrom : Nat → LexerState → List Token → List Token
  | 0, _, found => found.reverse
  | steps + 1, state, found =>
    let (token, after) := next (2 * state.rest.length + 4) false state
    if token.kind = .ending ∨ token.isFault then (token :: found).reverse
    else tokensFrom steps after (token :: found)

end Lexer

/-- The characters of a program, ending with a line feed. -/
def programCharacters (source : String) : List Char :=
  let cs := Text.lineFeeds source.toList
  if cs.getLast? = some '\n' then cs else cs ++ ['\n']

/-- The tokens of a program, whose first line has this number. -/
def tokensOf (cs : List Char) (firstLine : Nat) : Array Token :=
  (Lexer.tokensFrom (2 * cs.length + 4) (.initial cs firstLine) []).toArray

end Script
end PolicyStudio
