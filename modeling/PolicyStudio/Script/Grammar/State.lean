import PolicyStudio.Script.ErrorKind
import PolicyStudio.Script.Lexer
import PolicyStudio.Script.Tree

/-!
# Reading trees from tokens

A program is read from left to right with one token to look at, and in a few
places with a step back.  If the text is no program, it is read once more, and
this time the common mistakes are looked for on the way, so that the refusal can
name one.  If none is found, the last token that was looked at is to blame.

A token that tells why the text cannot be cut stops the reading as soon as it is
looked at.
-/

namespace PolicyStudio
namespace Script

/-- The refusal of a text that is no program. -/
structure SyntaxFault where
  kind : ErrorKind
  line : Nat
  message : String
  /-- The part of the text that is to blame. -/
  shown : String
deriving Repr, DecidableEq

/-- The rules whose outcomes are remembered. -/
inductive Rule where
  | expression
  | disjunction
  | bitwise
  | factor
deriving Repr, DecidableEq

/-- What the rules read at one place, as far as they were tried there: an expression
and the place behind it, or nothing. -/
structure Readings where
  expression : Option (Option (Expression × Nat)) := none
  disjunction : Option (Option (Expression × Nat)) := none
  bitwise : Option (Option (Expression × Nat)) := none
  factor : Option (Option (Expression × Nat)) := none

namespace Readings

/-- What a rule read. -/
def get? (readings : Readings) : Rule → Option (Option (Expression × Nat))
  | .expression => readings.expression
  | .disjunction => readings.disjunction
  | .bitwise => readings.bitwise
  | .factor => readings.factor

/-- Remember what a rule read. -/
def set (readings : Readings) (rule : Rule) (outcome : Option (Expression × Nat)) : Readings :=
  match rule with
  | .expression => { readings with expression := some outcome }
  | .disjunction => { readings with disjunction := some outcome }
  | .bitwise => { readings with bitwise := some outcome }
  | .factor => { readings with factor := some outcome }

end Readings

/-- The state of reading. -/
structure ReaderState where
  tokens : Array Token
  /-- The lines of the text, the first one being `firstLine`. -/
  lines : Array String
  firstLine : Nat
  position : Nat
  /-- How many tokens have been looked at. -/
  seen : Nat
  /-- Common mistakes are looked for. -/
  isStrict : Bool
  /-- How many blocks are open. -/
  depth : Nat
  /-- What the rules read at the place of each token. -/
  known : Array Readings
  /-- What stands before the wording of every refusal. -/
  lead : String

/-- Why reading cannot go on. -/
inductive ReaderStop where
  /-- Something else may be read at this place. -/
  | mismatch
  | refused (fault : SyntaxFault)

instance : Inhabited ReaderStop := ⟨.mismatch⟩

/-- A step of reading. -/
abbrev Reader := EStateM ReaderStop ReaderState

instance {α : Type} : Inhabited (Reader α) := ⟨throw .mismatch⟩

namespace Reader

/-! ## Refusals -/

/-- The lines from one to another. -/
def linesBetween (state : ReaderState) (first last : Nat) : String :=
  let lines := (state.lines.toList.drop (first - state.firstLine)).take (last + 1 - first)
  "\n".intercalate lines

/-- The last token that was looked at. -/
def lastSeen (state : ReaderState) : Token :=
  (state.tokens[state.seen - 1]?).getD Token.none

/-- The part of the text to show for a refusal on a line. -/
def shownAt (state : ReaderState) (line : Nat) : String :=
  let token := lastSeen state
  if token.seenTo ≤ line then linesBetween state token.shownFrom token.seenTo
  else linesBetween state line line

/-- The refusal of a kind on a line. -/
def faultOf (state : ReaderState) (kind : ErrorKind) (line : Nat) (message : String) :
    SyntaxFault :=
  ⟨kind, line, state.lead ++ message, shownAt state line⟩

/-- The refusal of a bracket that is not closed. -/
def unclosed (state : ReaderState) (bracket : OpenBracket) : SyntaxFault :=
  faultOf state .badSyntax bracket.line
    ("'" ++ String.ofList [bracket.bracket] ++ "' was never closed")

/-- The refusal that a faulty token stands for. -/
def faultOfToken (state : ReaderState) (token : Token) (cause : TokenFault) : SyntaxFault :=
  match cause with
  | .malformed line message => ⟨.badSyntax, line, message, linesBetween state line line⟩
  | .endOfText => match token.brackets with
    | bracket :: _ => unclosed state bracket
    | [] => faultOf state .badSyntax token.line "unexpected EOF while parsing"
  | .misaligned =>
    faultOf state .indentation token.line "unindent does not match any outer indentation level"
  | .mixedTabs =>
    faultOf state .tab token.line "inconsistent use of tabs and spaces in indentation"
  | .tooDeep => faultOf state .indentation token.line "too many levels of indentation"
  | .strayJoin =>
    faultOf state .badSyntax token.line "unexpected character after line continuation character"

/-- Refuse on a line. -/
def refuseWith {α : Type} (kind : ErrorKind) (line : Nat) (message : String) : Reader α := do
  throw (.refused (faultOf (← get) kind line message))

/-- Refuse on a line. -/
def refuse {α : Type} (line : Nat) (message : String) : Reader α :=
  refuseWith .badSyntax line message

/-- Refuse at the last token that was looked at. -/
def refuseHere {α : Type} (message : String) : Reader α := do
  refuse (lastSeen (← get)).line message

/-- Go back and read something else, if there is anything. -/
def mismatch {α : Type} : Reader α :=
  throw .mismatch

/-! ## Tokens -/

/-- The token at a position. -/
def tokenAt (state : ReaderState) (position : Nat) : Token :=
  match state.tokens[position]? with
  | some token => token
  | none => state.tokens.back?.getD Token.none

/-- Look at the token so many places further on. -/
def lookAhead (count : Nat) : Reader Token := do
  let state ← get
  let position := min (state.position + count) (state.tokens.size - 1)
  let token := tokenAt state position
  let state := { state with seen := max state.seen (position + 1) }
  set state
  match token.kind with
  | .fault cause => throw (.refused (faultOfToken state token cause))
  | _ => return token

/-- Look at the next token. -/
def peek : Reader Token := lookAhead 0

/-- Go past the next token. -/
def skip : Reader Unit :=
  modify fun state => { state with position := min (state.position + 1) (state.tokens.size - 1) }

/-- Where reading is. -/
def mark : Reader Nat :=
  return (← get).position

/-- Go back. -/
def reset (position : Nat) : Reader Unit :=
  modify fun state => { state with position }

/-- The line of the token at a position. -/
def lineAt (position : Nat) : Reader Nat :=
  return (tokenAt (← get) position).line

/-- The line of the next token. -/
def line : Reader Nat :=
  return (← peek).line

/-- Common mistakes are looked for. -/
def isStrict : Reader Bool :=
  return (← get).isStrict

/-- The words that are keywords in some places only. -/
def softKeywords : List String := ["_", "case", "match"]

/-- A name with which such a word begins. -/
def startsSoftKeyword (token : Token) : Bool :=
  token.kind = .name && softKeywords.any fun word => token.text.toList.isPrefixOf word.toList

/-- The token is a name. -/
def isName (token : Token) : Bool :=
  token.kind = .name && !keywords.contains token.text

/-- The token is this mark or keyword. -/
def isText (token : Token) (text : String) : Bool :=
  match token.kind with
  | .mark | .name => token.text == text
  | _ => false

/-- The next token is this mark or keyword. -/
def nextIs (text : String) : Reader Bool :=
  return isText (← peek) text

/-- The next token is one of these marks or keywords. -/
def nextIsAny (texts : List String) : Reader Bool := do
  let token ← peek
  return texts.any (isText token)

/-- The next token is of a kind. -/
def nextIsKind (kind : TokenKind) : Reader Bool :=
  return (← peek).kind = kind

/-- Go past a mark or keyword, if it comes next. -/
def accept (text : String) : Reader Bool := do
  if ← nextIs text then
    skip
    return true
  return false

/-- Go past a mark or keyword. -/
def expect (text : String) : Reader Unit := do
  if !(← accept text) then mismatch

/-- Go past a mark that must come here. -/
def demand (text : String) : Reader Unit := do
  if !(← accept text) then
    let token ← peek
    refuse token.line ("expected '" ++ text ++ "'")

/-- Go past a token of a kind. -/
def expectKind (kind : TokenKind) : Reader Unit := do
  if !(← nextIsKind kind) then mismatch
  skip

/-- Read a name. -/
def name : Reader String := do
  let token ← peek
  if !isName token then mismatch
  skip
  return token.name

/-- A name comes next, and then a mark. -/
def nameThen (mark : String) : Reader Bool := do
  if isName (← peek) then return isText (← lookAhead 1) mark
  return false

/-! ## Steps back -/

/-- Read something, or go back if that is not possible. -/
def attempt? {α : Type} (reader : Reader α) : Reader (Option α) := fun state =>
  match reader state with
  | .ok value state => .ok (some value) state
  | .error .mismatch after =>
    .ok none { after with position := state.position, depth := state.depth }
  | .error (.refused fault) after => .error (.refused fault) after

/-- Read by a rule, unless it was tried at this place before.  What was read
without looking for mistakes is not searched for them again. -/
def remembered (rule : Rule) (reader : Reader Expression) : Reader Expression := do
  let start ← mark
  match (← get).known[start]?.bind fun readings => readings.get? rule with
  | some (some (value, behind)) => do
    reset behind
    return value
  | some none => mismatch
  | none => do
    let found ← attempt? reader
    let behind ← mark
    let outcome := found.map fun value => (value, behind)
    modify fun state => { state with known := state.known.modify start (·.set rule outcome) }
    match found with
    | some value => return value
    | none => mismatch

/-- Read without looking for common mistakes. -/
def leniently {α : Type} (reader : Reader α) : Reader α := fun state =>
  match reader { state with isStrict := false } with
  | .ok value after => .ok value { after with isStrict := state.isStrict }
  | .error stop after => .error stop { after with isStrict := state.isStrict }

/-- If common mistakes are looked for, look for one and go back. -/
def probe (reader : Reader Unit) : Reader Unit := do
  if ← isStrict then
    let position ← mark
    let _ ← attempt? reader
    reset position

/-- Read something; if that is not possible, look for a common mistake. -/
def orProbe {α : Type} (reader : Reader α) (mistake : Reader Unit) : Reader α := do
  match ← attempt? reader with
  | some value => return value
  | none =>
    probe mistake
    mismatch

/-- A bound for the number of things in a row. -/
def rowLimit : Reader Nat :=
  return (← get).tokens.size + 1

/-- Read what comes after the first things that are divided by commas.  The answer
tells whether a comma stands behind the last one. -/
def commaRest {α : Type} (item : Reader α) : Nat → List α → Reader (List α × Bool)
  | 0, _ => mismatch
  | rounds + 1, found => do
    if !(← accept ",") then return (found.reverse, false)
    match ← attempt? item with
    | some value => commaRest item rounds (value :: found)
    | none => return (found.reverse, true)

/-- Read things that are divided by commas, at least one.  The answer tells whether
a comma stands behind the last one. -/
def commaList {α : Type} (item : Reader α) : Reader (List α × Bool) := do
  let first ← item
  commaRest item (← rowLimit) [first]

/-- Read things that are divided by commas, without one behind the last. -/
def dividedList {α : Type} (item : Reader α) : Reader (List α) := do
  let (found, hasComma) ← commaList item
  if hasComma then mismatch
  return found

/-! ## Reading a whole text -/

/-- Prefer the refusal of what follows, if the text cannot be cut there.  A bracket
that stays open is to blame only for what goes wrong on a later line. -/
def overruled (state : ReaderState) (fault : SyntaxFault) : SyntaxFault :=
  match state.tokens.back? with
  | some token =>
    if state.tokens.size ≤ state.seen then fault
    else match token.kind with
      | .fault (.malformed line message) =>
        faultOfToken state token (.malformed line message)
      | .fault _ => match token.brackets with
        | bracket :: _ =>
          if bracket.line < (lastSeen state).line then
            unclosed { state with seen := state.tokens.size } bracket
          else fault
        | [] => fault
      | _ => fault
  | none => fault

/-- The refusal of a text in which no common mistake was found, given the last
token that was looked at when it was read for the first time. -/
def unexplained (state : ReaderState) (last : Token) : SyntaxFault :=
  match last.kind with
  | .indent => faultOf state .indentation (lastSeen state).line "unexpected indent"
  | .dedent => faultOf state .indentation (lastSeen state).line "unexpected unindent"
  | _ => overruled state (faultOf state .badSyntax last.line "invalid syntax")

/-- Read a whole text, and if that fails, read it again for the reason. -/
def readTwice {α : Type} (reader : Reader α) (state : ReaderState) : Except SyntaxFault α :=
  match reader { state with isStrict := false } with
  | .ok value _ => .ok value
  | .error (.refused fault) after => .error (overruled after fault)
  | .error .mismatch after =>
    let last := lastSeen after
    match reader { state with isStrict := true, seen := after.seen } with
    | .ok _ again => .error (unexplained again last)
    | .error .mismatch again => .error (unexplained again last)
    | .error (.refused fault) again => .error (overruled again fault)

/-- The state before a text is read, whose first line has this number. -/
def initialState (cs : List Char) (firstLine : Nat) (lead : String) : ReaderState :=
  let tokens := tokensOf cs firstLine
  { tokens
    lines := ((Text.cutAt '\n' cs).map String.ofList).toArray
    firstLine
    position := 0
    seen := 0
    isStrict := false
    depth := 0
    known := .replicate tokens.size {}
    lead }

end Reader

end Script
end PolicyStudio
