import PolicyStudio.Script.Grammar.Literal
import PolicyStudio.Script.Grammar.Rules

/-!
# Formatted texts

A formatted text holds expressions in curly brackets; a bracket that is written
twice stands for itself.  Behind an expression there may be an equals sign, which
repeats its wording, a conversion, and a format, in which expressions may stand
once more.

The end of an expression is found before it is read, so an expression can hold
neither a backslash nor a comment.
-/

namespace PolicyStudio
namespace Script

namespace Reader

/-- A formatted text that is being read. -/
structure FormattedState where
  /-- The characters that are left. -/
  rest : List Char
  /-- The line on which they start. -/
  line : Nat

/-- Go past characters. -/
def FormattedState.skip (state : FormattedState) (count : Nat) : FormattedState :=
  { rest := state.rest.drop count
    line := state.line + ((state.rest.take count).filter (· == '\n')).length }

/-! ## Characters -/

/-- How a run of characters ends. -/
inductive RunEnd where
  /-- At the end of the text, or at a bracket. -/
  | stop
  /-- Behind a bracket that is written twice. -/
  | doubled
  /-- At a closing bracket that stands alone. -/
  | lone
deriving DecidableEq

/-- The length of a run of characters, how it ends, and how many characters more
are left out then.  In a format brackets are not written twice. -/
def runLength (isRaw inFormat : Bool) : Nat → List Char → Nat × RunEnd
  | n, [] => (n, .stop)
  | n, '\\' :: rest =>
    if isRaw then runLength isRaw inFormat (n + 1) rest
    else match rest with
      | 'N' :: '\x7b' :: after =>
        runLength isRaw inFormat (n + 3 + (after.takeWhile (· != '\x7d')).length + 1)
          (after.drop ((after.takeWhile (· != '\x7d')).length + 1))
      | c :: after =>
        if c = '\x7b' ∨ c = '\x7d' then runLength isRaw inFormat (n + 1) (c :: after)
        else runLength isRaw inFormat (n + 2) after
      | [] => (n + 1, .stop)
  | n, c :: rest =>
    if c = '\x7b' ∨ c = '\x7d' then
      if inFormat then (n, .stop)
      else if rest.head? = some c then (n + 1, .doubled)
      else if c = '\x7d' then (n, .lone)
      else (n, .stop)
    else runLength isRaw inFormat (n + 1) rest
termination_by _ cs => cs.length
decreasing_by all_goals (simp; try omega)

/-! ## Expressions -/

/-- The state of the search for the end of an expression. -/
structure EndSearch where
  /-- The quote of the text that is open, with the number of its quotes. -/
  quote : Option (Char × Nat) := none
  brackets : List Char := []

/-- The two-character marks that do not end an expression. -/
def innerMarks : List String := ["!=", "==", "<=", ">="]

/-- The length of an expression. -/
def expressionLength : Nat → EndSearch → Nat → List Char → Except String Nat
  | 0, _, n, _ => .ok n
  | _, search, n, [] =>
    if search.quote.isSome then .error "f-string: unterminated string"
    else match search.brackets with
      | opening :: _ => .error ("f-string: unmatched '" ++ String.ofList [opening] ++ "'")
      | [] => .ok n
  | steps + 1, search, n, c :: rest =>
    let goOn := fun (search : EndSearch) (count : Nat) =>
      expressionLength steps search (n + count) ((c :: rest).drop count)
    let isTriple := (c :: rest).take 3 == [c, c, c]
    if c = '\\' then .error "f-string expression part cannot include a backslash"
    else match search.quote with
      | some (quote, size) =>
        if c ≠ quote then goOn search 1
        else if size = 3 then
          if isTriple then goOn { search with quote := none } 3 else goOn search 1
        else goOn { search with quote := none } 1
      | none =>
        if c = '\'' ∨ c = '"' then
          if isTriple then goOn { search with quote := some (c, 3) } 3
          else goOn { search with quote := some (c, 1) } 1
        else if c = '[' ∨ c = '\x7b' ∨ c = '(' then
          if Lexer.bracketLimit ≤ search.brackets.length then
            .error "f-string: too many nested parenthesis"
          else goOn { search with brackets := c :: search.brackets } 1
        else if c = '#' then .error "f-string expression part cannot include '#'"
        else if search.brackets.isEmpty && ['!', ':', '\x7d', '=', '<', '>'].contains c then
          if innerMarks.contains (String.ofList ((c :: rest).take 2)) then goOn search 2
          else if c = '<' ∨ c = '>' then goOn search 1
          else .ok n
        else if c = ']' ∨ c = '\x7d' ∨ c = ')' then
          match search.brackets with
          | [] => .error ("f-string: unmatched '" ++ String.ofList [c] ++ "'")
          | opening :: others =>
            if Lexer.closes opening = c then goOn { search with brackets := others } 1
            else .error ("f-string: closing parenthesis '" ++ String.ofList [c] ++
              "' does not match opening parenthesis '" ++ String.ofList [opening] ++ "'")
        else goOn search 1

/-- Read an expression that stands in a text, on a line, before a character. -/
def innerExpression (rule : Reader Expression) (cs : List Char) (line : Nat)
    (following : Option Char) : Reader Expression := do
  if cs.all fun c => c = ' ' || c = '\t' || c = '\n' || c = '\x0c' then
    match following with
    | some c =>
      if ['!', ':', '='].contains c then
        refuseHere ("f-string: expression required before '" ++ String.ofList [c] ++ "'")
    | none => pure ()
    refuseHere "f-string: empty expression not allowed"
  let wrapped := '(' :: cs ++ [')', '\n']
  match readTwice rule (initialState wrapped line "f-string: ") with
  | .ok value => return value
  | .error fault => throw (.refused fault)

/-- The conversion at the front, and the number of characters that it takes. -/
def conversionAt (state : FormattedState) : Reader (Conversion × Nat) := do
  match state.rest with
  | '!' :: rest => match rest with
    | 's' :: _ => return (.text, 2)
    | 'r' :: _ => return (.quoted, 2)
    | 'a' :: _ => return (.ascii, 2)
    | [] => refuseHere "f-string: expecting '\x7d'"
    | _ => refuseHere "f-string: invalid conversion character: expected 's', 'r', or 'a'"
  | _ => return (.none, 0)

/-- Pieces with characters in front. -/
def withLiteral (content : String) (parts : List FormattedPart) : List FormattedPart :=
  if content.isEmpty then parts
  else match parts with
    | .literal following :: rest => .literal (content ++ following) :: rest
    | _ => .literal content :: parts

/-- The pieces of a formatted text up to its end; `depth` tells how deep formats
may still be nested. -/
def formattedFrom (rule : Reader Expression) (isRaw : Bool) :
    Nat → (depth : Nat) → (inFormat : Bool) → FormattedState →
    Reader (List FormattedPart × FormattedState)
  | 0, _, _, _ => mismatch
  | steps + 1, depth, inFormat, state => do
    let (length, ending) := runLength isRaw inFormat 0 state.rest
    if ending = .lone then refuseHere "f-string: single '\x7d' is not allowed"
    let content ← Literal.textContent isRaw (state.rest.take length)
    match ending with
    | .doubled => do
      let (parts, after) ← formattedFrom rule isRaw steps depth inFormat (state.skip (length + 1))
      return (withLiteral content parts, after)
    | _ => do
      let state := state.skip length
      match state.rest with
      | '\x7b' :: _ => match depth with
        | 0 => refuseHere "f-string: expressions nested too deeply"
        | deeper + 1 => do
          let inside := state.skip 1
          let found ← Literal.resolved
            (expressionLength (2 * inside.rest.length + 4) {} 0 inside.rest)
          let wording := inside.rest.take found
          let after := inside.skip found
          if after.rest.isEmpty then refuseHere "f-string: expecting '\x7d'"
          let value ← innerExpression rule wording state.line after.rest.head?
          let (repeated, after) := match after.rest with
            | '=' :: rest =>
              let blanks := rest.takeWhile fun c =>
                c = ' ' || c = '\t' || c = '\n' || c = '\x0b' || c = '\x0c' || c = '\r'
              (some (String.ofList (wording ++ '=' :: blanks)), after.skip (1 + blanks.length))
            | _ => (none, after)
          if after.rest.isEmpty then refuseHere "f-string: expecting '\x7d'"
          let (conversion, count) ← conversionAt after
          let after := after.skip count
          let (format, after) ← match after.rest with
            | ':' :: rest =>
              if rest.isEmpty then refuseHere "f-string: expecting '\x7d'"
              let (parts, after) ← formattedFrom rule isRaw steps deeper true (after.skip 1)
              pure (some parts, after)
            | _ => pure (none, after)
          match after.rest with
          | '\x7d' :: _ => do
            let conversion := if repeated.isSome && format.isNone && conversion = .none
              then Conversion.quoted else conversion
            let (parts, rest) ← formattedFrom rule isRaw steps depth inFormat (after.skip 1)
            let parts := .field value conversion format :: parts
            return (withLiteral (content ++ repeated.getD "") parts, rest)
          | _ => refuseHere "f-string: expecting '\x7d'"
      | _ => return (withLiteral content [], state)

/-- The pieces of a formatted text. -/
def formattedParts (rule : Reader Expression) (token : Token) (raw : Literal.Raw) :
    Reader (List FormattedPart) := do
  let steps := 2 * raw.content.length + 4
  return (← formattedFrom rule raw.isRaw steps 2 false ⟨raw.content, token.line⟩).1

end Reader

end Script
end PolicyStudio
