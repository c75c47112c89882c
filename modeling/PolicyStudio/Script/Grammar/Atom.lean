import PolicyStudio.Script.Grammar.Call
import PolicyStudio.Script.Grammar.Formatted

/-!
# What expressions are made of

Names, literals, and what stands in brackets; and what can be attached to them:
attributes, arguments and indexes.
-/

namespace PolicyStudio
namespace Script

namespace Reader

/-! ## Texts -/

/-- A piece of a text: characters, bytes, or pieces of a formatted text. -/
inductive TextPiece where
  | text (content : String)
  | bytes (content : List UInt8)
  | formatted (parts : List FormattedPart)

/-- The piece of a text holds bytes. -/
def TextPiece.isBytes : TextPiece → Bool
  | .bytes _ => true
  | _ => false

/-- Read the tokens of a text. -/
def textPieces (self : Grammar) : Nat → List TextPiece → List Token → Reader (List TextPiece)
  | 0, found, _ => return found.reverse
  | _, found, [] => return found.reverse
  | rounds + 1, found, token :: rest => do
    let raw := Literal.raw token.text
    let piece ← if raw.isBytes then do pure (TextPiece.bytes (← Literal.bytesContent token raw))
      else if raw.isFormatted then do
        pure (TextPiece.formatted (← formattedParts self.expression token raw))
      else do pure (TextPiece.text (← Literal.textContent raw.isRaw raw.content))
    match found with
    | before :: _ =>
      if before.isBytes ≠ piece.isBytes then refuseHere "cannot mix bytes and nonbytes literals"
    | [] => pure ()
    textPieces self rounds (piece :: found) rest

/-- A piece of a formatted text in front of others; characters are joined. -/
def besideLiteral (part : FormattedPart) (after : List FormattedPart) : List FormattedPart :=
  match part with
  | .literal content => withLiteral content after
  | _ => part :: after

/-- Several pieces as one text. -/
def joinPieces (pieces : List TextPiece) : Expression :=
  if pieces.any TextPiece.isBytes then
    .bytes (pieces.flatMap fun piece => match piece with
      | .bytes content => content
      | _ => [])
  else
    let isFormatted := pieces.any fun piece => match piece with
      | .formatted _ => true
      | _ => false
    if isFormatted then
      .formatted (pieces.foldr (fun piece after => match piece with
        | .formatted parts => parts.foldr besideLiteral after
        | .text content => withLiteral content after
        | .bytes _ => after) [])
    else
      .text (String.join (pieces.map fun piece => match piece with
        | .text content => content
        | _ => ""))

/-- The tokens of texts that stand next to each other. -/
def textTokens : Nat → List Token → Reader (List Token)
  | 0, found => return found.reverse
  | rounds + 1, found => do
    let token ← peek
    if token.kind = .text then
      skip
      textTokens rounds (token :: found)
    else return found.reverse

/-- Texts that stand next to each other, which are one. -/
def texts (self : Grammar) : Reader Expression := do
  let limit ← rowLimit
  let tokens ← textTokens limit []
  return joinPieces (← textPieces self limit [] tokens)

/-! ## Brackets -/

/-- All clauses of a comprehension. -/
def allClauses (self : Grammar) : Reader (List Clause) := do
  clauses self (← rowLimit) []

/-- What is wrong with brackets that are taken for a comprehension: its element is
starred, or it has several that lack brackets of their own. -/
def comprehensionMistake (self : Grammar) : Reader Unit := do
  let opening ← peek
  skip
  let start ← mark
  let line ← line
  probe do
    let _ ← spread self
    let _ ← allClauses self
    refuse line "iterable unpacking cannot be used in comprehension"
  reset start
  if isText opening "(" then mismatch
  let _ ← starNamed self
  expect ","
  let _ ← attempt? (commaList (starNamed self))
  let _ ← allClauses self
  refuse line "did you forget parentheses around the comprehension target?"

/-- What is wrong with round brackets around a single thing. -/
def groupMistake (self : Grammar) : Reader Unit := do
  skip
  let start ← mark
  let line ← line
  probe do
    let _ ← spread self
    expect ")"
    refuse line "cannot use starred expression here"
  reset start
  expect "**"
  let _ ← self.expression
  expect ")"
  refuse line "cannot use double starred expression here"

/-- What stands in brackets that are not empty, up to the closing one: the first
item, and the clauses of a comprehension or the other items.  The answer tells
whether there was a comma. -/
def filled (self : Grammar) (closing : String) :
    Reader (Expression × List Clause × List Expression × Bool) := do
  let first ← starNamed self
  match first, ← clauseNext with
  | .starred .., true => mismatch
  | _, true => do
    let found ← allClauses self
    expect closing
    return (first, found, [], false)
  | _, false => do
    let (rest, hasComma) ← commaRest (starNamed self) (← rowLimit) []
    expect closing
    return (first, [], rest, hasComma || !rest.isEmpty)

/-- What stands in round brackets. -/
def group (self : Grammar) : Reader Expression := do
  expect "("
  if ← accept ")" then return .tuple []
  if ← nextIs "yield" then
    let value ← yieldExpression self
    expect ")"
    return value
  match ← filled self ")" with
  | (.starred .., [], [], false) => mismatch
  | (first, [], [], false) => return first
  | (first, [], rest, _) => return .tuple (first :: rest)
  | (first, found, _) => return .comprehension .generator first found

/-- What stands in square brackets. -/
def list (self : Grammar) : Reader Expression := do
  expect "["
  if ← accept "]" then return .list []
  match ← filled self "]" with
  | (first, [], rest, _) => return .list (first :: rest)
  | (first, found, _) => return .comprehension .list first found

/-- The value of an entry of a dictionary, after the colon. -/
def entryValue (self : Grammar) (colonLine : Nat) : Reader Expression := do
  let token ← peek
  if isText token "*" then
    skip
    let _ ← self.bitwise
    refuse token.line "cannot use a starred expression in a dictionary value"
  if isText token "\x7d" || isText token "," then
    refuse colonLine "expression expected after dictionary key and ':'"
  self.expression

/-- An entry of a dictionary. -/
def entry (self : Grammar) : Reader DictionaryEntry := do
  if ← accept "**" then return .mk none (← self.bitwise)
  let line ← line
  let key ← self.expression
  let colon ← peek
  if !(← accept ":") then refuse line "':' expected after dictionary key"
  return .mk (some key) (← entryValue self colon.line)

/-- The entries of a dictionary after the first one. -/
def entriesAfter (self : Grammar) (first : DictionaryEntry) : Reader Expression := do
  let (entries, _) ← commaRest (entry self) (← rowLimit) [first]
  expect "\x7d"
  return .dictionary entries

/-- A dictionary or a comprehension of one, after the opening bracket. -/
def dictionary (self : Grammar) : Reader Expression := do
  if ← accept "\x7d" then return .dictionary []
  let line ← line
  if ← accept "**" then
    let value ← self.bitwise
    if ← clauseNext then
      probe do
        let _ ← allClauses self
        expect "\x7d"
        refuse line "dict unpacking cannot be used in dict comprehension"
    return ← entriesAfter self (.mk none value)
  let key ← self.expression
  let colon ← peek
  expect ":"
  let value ← entryValue self colon.line
  if ← clauseNext then
    let found ← allClauses self
    expect "\x7d"
    return .dictionaryComprehension key value found
  entriesAfter self (.mk (some key) value)

/-- A set or a comprehension of one, after the opening bracket. -/
def set (self : Grammar) : Reader Expression := do
  match ← filled self "\x7d" with
  | (first, [], rest, _) => return .set (first :: rest)
  | (first, found, _) => return .comprehension .set first found

/-- What stands in curly brackets. -/
def braces (self : Grammar) : Reader Expression := do
  expect "\x7b"
  match ← attempt? (dictionary self) with
  | some found => return found
  | none => set self

/-! ## Indexes -/

/-- What follows the start of a slice. -/
def sliceAfter (self : Grammar) (start : Option Expression) : Reader Expression := do
  expect ":"
  let stop ← attempt? self.expression
  let step ← if ← accept ":" then attempt? self.expression else pure none
  return .slice start stop step

/-- One index, which may be a slice. -/
def slice (self : Grammar) : Reader Expression := do
  let token ← peek
  if isText token "*" then return .starred token.line (← spread self)
  if isText token ":" then return ← sliceAfter self none
  let first ← namedExpression self
  if !(← nextIs ":") then return first
  match first with
  | .assignment .. => mismatch
  | _ => sliceAfter self (some first)

/-- The index of an item, after the opening bracket. -/
def index (self : Grammar) : Reader Expression := do
  let (items, hasComma) ← commaList (slice self)
  expect "]"
  match items, hasComma with
  | [.starred line value], false => return .tuple [.starred line value]
  | _, _ => return tupleOf (items, hasComma)

/-! ## Atoms and what is attached to them -/

/-- A name, a literal, or something in brackets. -/
def atom (self : Grammar) : Reader Expression := do
  let token ← peek
  match token.kind with
  | .number => do
    skip
    match Literal.tooManyDigits? token.text with
    | some count => refuse token.line (Literal.digitRefusal count)
    | none => return Literal.number token.text
  | .text => texts self
  | .name => do
    if isName token then
      skip
      return .name token.line token.name
    match token.text with
    | "None" => skip; return .nothing
    | "True" => skip; return .truth true
    | "False" => skip; return .truth false
    | _ => mismatch
  | .mark => match token.text with
    | "(" => orProbe (group self) do
      probe (groupMistake self)
      comprehensionMistake self
    | "[" => orProbe (list self) (comprehensionMistake self)
    | "\x7b" => orProbe (braces self) (comprehensionMistake self)
    | "..." => skip; return .ellipsis
    | _ => mismatch
  | _ => mismatch

/-- An expression that starts on a line, with one thing attached to it. -/
def attachment (self : Grammar) (line : Nat) (value : Expression) : Reader Expression := do
  if ← accept "." then return .attribute line value (← name)
  if ← nextIsAny ["(", "[", "\x7b"] then probe (comprehensionMistake self)
  if ← accept "(" then return .call line value (← arguments self)
  expect "["
  return .subscript value (← index self)

/-- An expression that starts on a line, with what is attached to it. -/
def attached (self : Grammar) (line : Nat) : Nat → Expression → Reader Expression
  | 0, _ => mismatch
  | rounds + 1, value => do
    match ← attempt? (attachment self line value) with
    | some value => attached self line rounds value
    | none => return value

/-- An atom with what is attached to it. -/
def primary (self : Grammar) : Reader Expression := do
  let token ← peek
  if isText token "await" then
    skip
    let value ← atom self
    let _ ← attached self token.line (← rowLimit) value
    return .refused token.line "Await"
  let value ← atom self
  attached self token.line (← rowLimit) value

end Reader

end Script
end PolicyStudio
