import PolicyStudio.Script.Grammar.Simple

/-!
# Statements with blocks

A block is indented on lines of its own, or stands behind the colon.  What is
missing is named together with the line on which the statement began.
-/

namespace PolicyStudio
namespace Script

namespace Reader

/-! ## Blocks -/

/-- The block of something that began on a line. -/
def blockOf (self : Grammar) (owner : String) (line : Nat) : Reader (List Statement) := do
  if !(← nextIsKind .newline) then return ← simpleStatements self
  let start ← mark
  skip
  if ← nextIsKind .indent then
    reset start
    self.block
  else if ← isStrict then
    refuseWith .indentation (lastSeen (← get)).line
      ("expected an indented block after " ++ owner ++ " on line " ++ line.repr)
  else mismatch

/-- A colon, which is named if the line ends instead. -/
def colon : Reader Unit := do
  if ← accept ":" then return ()
  if (← nextIsKind .newline) && (← isStrict) then refuseHere "expected ':'"
  mismatch

/-- The block of an `else`, if there is one. -/
def elseBlock (self : Grammar) : Reader (List Statement) := do
  let line ← line
  if !(← accept "else") then return []
  demand ":"
  blockOf self "'else' statement" line

/-! ## Branches and loops -/

/-- A condition with its block, and what else there is. -/
def branch (self : Grammar) (word : String) : Nat → Reader Statement
  | 0 => mismatch
  | rounds + 1 => do
    let line ← line
    skip
    let test ← namedExpression self
    colon
    let body ← blockOf self ("'" ++ word ++ "' statement") line
    if ← nextIs "elif" then
      return .branch test body [← branch self "elif" rounds]
    return .branch test body (← elseBlock self)

/-- A loop with a condition. -/
def whileLoop (self : Grammar) : Reader Statement := do
  let line ← line
  skip
  let test ← namedExpression self
  colon
  let body ← blockOf self "'while' statement" line
  return .loop line test body (← elseBlock self)

/-- A loop over elements. -/
def forLoop (self : Grammar) : Reader Statement := do
  let line ← line
  skip
  let target ← loopHead self
  let iterable ← starExpressions self
  colon
  let body ← blockOf self "'for' statement" line
  return .iterate line target iterable body (← elseBlock self)

/-! ## Attempts -/

/-- Several kinds of errors stand without brackets. -/
def bareErrors (self : Grammar) (line : Nat) : Reader Unit := do
  expect ","
  let _ ← starExpressions self
  if ← accept "as" then
    let _ ← name
  expect ":"
  refuse line "multiple exception types must be parenthesized"

/-- A handler; the answer tells whether it handles groups.  All handlers of an
attempt do, or none. -/
def handler (self : Grammar) (before : Option Bool) : Reader (Handler × Bool) := do
  let line ← line
  skip
  let isGroup ← accept "*"
  let owner := if isGroup then "'except*' statement" else "'except' statement"
  let error ← if isGroup then do
      if (← nextIs ":") || (← nextIsKind .newline) then
        if ← isStrict then refuseHere "expected one or more exception types"
        mismatch
      pure (some (← self.expression))
    else if (← nextIs ":") || (← nextIsKind .newline) then pure none
    else do
      let errorLine ← Reader.line
      let error ← self.expression
      probe (bareErrors self errorLine)
      pure (some error)
  let found ← if error.isSome && (← accept "as") then do pure (some (← name)) else pure none
  colon
  if before.any (· != isGroup) then
    mistake line "cannot have both 'except' and 'except*' on the same 'try'"
  let body ← blockOf self owner line
  return (.mk line error found body, isGroup)

/-- The handlers of an attempt. -/
def handlers (self : Grammar) : Nat → List (Handler × Bool) → Reader (List (Handler × Bool))
  | 0, _ => mismatch
  | rounds + 1, found => do
    if ← nextIs "except" then 
      let next ← handler self (found.head?.map (·.2))
      handlers self rounds (next :: found)
   
    else return found.reverse

/-- An attempt. -/
def tryStatement (self : Grammar) : Reader Statement := do
  let line ← line
  skip
  demand ":"
  let body ← blockOf self "'try' statement" line
  let found ← handlers self (← rowLimit) []
  let alternative ← if found.isEmpty then pure [] else elseBlock self
  let finalLine ← Reader.line
  let final ← if ← accept "finally" then do
      demand ":"
      pure (some (← blockOf self "'finally' statement" finalLine))
    else pure none
  if found.isEmpty && final.isNone then
    if ← isStrict then refuseHere "expected 'except' or 'finally' block"
    mismatch
  if found.any (·.2) then return .refused line "TryStar"
  return .attempt line body (found.map (·.1)) alternative (final.getD [])

/-! ## Contexts -/

/-- A context, possibly with a target. -/
def contextItem (self : Grammar) : Reader (Expression × Option Expression) := do
  let value ← self.expression
  if !(← accept "as") then return (value, none)
  let line ← line
  let token ← peek
  let target ← if isText token "*" then do
      skip
      pure (Expression.starred line (← self.bitwise))
    else self.bitwise
  if target.isTarget .assignment then return (value, some target)
  if ← nextIsAny [",", ")", ":"] then probe (refuseTarget .assignment line target)
  mismatch

/-- Contexts in brackets of their own. -/
def bracketedContexts (self : Grammar) : Reader (List (Expression × Option Expression)) := do
  expect "("
  let (items, _) ← commaList (contextItem self)
  expect ")"
  if !(← nextIs ":") then mismatch
  return items

/-- A block within contexts. -/
def withStatement (self : Grammar) : Reader Statement := do
  let line ← line
  skip
  let items ← match ← attempt? (bracketedContexts self) with
    | some items => pure items
    | none => dividedList (contextItem self)
  colon
  let body ← blockOf self "'with' statement" line
  return .scoped line items body

/-! ## Definitions -/

/-- A function, its line being that of its first word. -/
def functionDefinition (self : Grammar) (decorators : List Expression) : Reader Statement := do
  let line ← line
  let depth := (← get).depth
  expect "def"
  let found ← name
  demand "("
  let given ← parameters self functionParameters
  expect ")"
  let result ← if ← accept "->" then do pure (some (← self.expression)) else pure none
  demand ":"
  let body ← blockOf self "function definition" line
  return .function line depth found given body decorators result

/-- A class. -/
def classStatement (self : Grammar) (decorators : List Expression) : Reader Statement := do
  let line ← line
  skip
  let found ← name
  let bases ← if ← accept "(" then arguments self else pure []
  colon
  let body ← blockOf self "class definition" line
  return .classDefinition line found bases body decorators

/-- The decorators of a definition. -/
def decorators (self : Grammar) : Nat → List Expression → Reader (List Expression)
  | 0, _ => mismatch
  | rounds + 1, found => do
    if ← accept "@" then
      let decorator ← namedExpression self
      expectKind .newline
      decorators self rounds (decorator :: found)
    else return found.reverse

/-- A statement that is marked as asynchronous, which is refused later on. -/
def asyncStatement (self : Grammar) : Reader Statement := do
  let line ← line
  skip
  let token ← peek
  if isText token "def" then
    let _ ← functionDefinition self []
    return .refused line "AsyncFunctionDef"
  if isText token "for" then
    let _ ← forLoop self
    return .refused line "AsyncFor"
  if isText token "with" then
    let _ ← withStatement self
    return .refused line "AsyncWith"
  mismatch

/-- A definition with its decorators. -/
def definition (self : Grammar) : Reader Statement := do
  let found ← decorators self (← rowLimit) []
  let token ← peek
  if isText token "def" then functionDefinition self found
  else if isText token "class" then classStatement self found
  else if isText token "async" then
    if isText (← lookAhead 1) "def" then asyncStatement self else mismatch
  else mismatch

/-! ## Selections -/

/-- Go past tokens up to a colon outside of brackets. -/
def skipPattern (depth : Nat) : Nat → Reader Unit
  | 0 => mismatch
  | rounds + 1 => do
    let token ← peek
    if token.brackets.length = depth && isText token ":" then return ()
    match token.kind with
    | .newline => return ()
    | .indent | .dedent | .ending => mismatch
    | _ => do
      skip
      skipPattern depth rounds

/-- The cases of a selection. -/
def cases (self : Grammar) : Nat → Reader Unit
  | 0 => mismatch
  | rounds + 1 => do
    let token ← peek
    if isText token "case" then
      skip
      skipPattern token.brackets.length (← rowLimit)
      colon
      let _ ← blockOf self "'case' statement" token.line
      cases self rounds
    else expectKind .dedent

/-- A selection by patterns, which is refused later on. -/
def matchStatement (self : Grammar) : Reader Statement := do
  let line ← line
  expect "match"
  let _ ← commaList (starNamed self)
  colon
  expectKind .newline
  if !(← nextIsKind .indent) && (← isStrict) then
    refuseWith .indentation (lastSeen (← get)).line
      ("expected an indented block after 'match' statement on line " ++ line.repr)
  expectKind .indent
  if !(← nextIs "case") then mismatch
  cases self (← rowLimit)
  return .refused line "Match"

/-! ## Statements -/

/-- The statements that come next: one with blocks, or those on a line. -/
def statementsHere (self : Grammar) : Reader (List Statement) := do
  let token ← peek
  let one := fun (reader : Reader Statement) => do return [← reader]
  match (if token.kind = .name ∨ token.kind = .mark then token.text else "") with
  | "if" => one (branch self "if" (← rowLimit))
  | "while" => one (whileLoop self)
  | "for" => one (forLoop self)
  | "try" => one (tryStatement self)
  | "with" => one (withStatement self)
  | "def" => one (functionDefinition self [])
  | "class" => one (classStatement self [])
  | "async" => one (asyncStatement self)
  | "@" => one (definition self)
  | "match" => match ← attempt? (matchStatement self) with
    | some found => return [found]
    | none => simpleStatements self
  | _ => simpleStatements self

/-- Statements up to a token of a kind. -/
def statementsUntil (self : Grammar) (final : TokenKind) :
    Nat → List (List Statement) → Reader (List Statement)
  | 0, _ => mismatch
  | rounds + 1, found => do
    if ← nextIsKind final then return found.reverse.flatten
    statementsUntil self final rounds ((← statementsHere self) :: found)

/-- An indented block. -/
def indentedBlock (self : Grammar) : Reader (List Statement) := do
  expectKind .newline
  expectKind .indent
  modify fun state => { state with depth := state.depth + 1 }
  let body ← statementsUntil self .dedent (← rowLimit) []
  skip
  modify fun state => { state with depth := state.depth - 1 }
  return body

end Reader

/-- The rules for trees of a certain depth. -/
def grammar : Nat → Grammar
  | 0 => Grammar.empty
  | depth + 1 =>
    { expression := fun state =>
        Reader.remembered .expression (readExpression (grammar depth)) state
      disjunction := fun state =>
        Reader.remembered .disjunction (Reader.disjunctionOf (grammar depth).bitwise) state
      bitwise := fun state =>
        let primary := Reader.primary (grammar depth)
        Reader.remembered .bitwise (Reader.bitwiseOr (grammar depth) primary) state
      factor := fun state =>
        let primary := Reader.primary (grammar depth)
        Reader.remembered .factor (Reader.factor (grammar depth) primary) state
      block := fun state => Reader.indentedBlock (grammar depth) state }
where
  /-- An expression, with or without a function. -/
  readExpression (self : Grammar) : Reader Expression := do
    if ← Reader.nextIs "lambda" then Reader.lambdaExpression self
    else Reader.conditional self (Reader.starExpressions self)

/-- Read a program. -/
def readProgram (source : String) : Except SyntaxFault Program :=
  let state := Reader.initialState (programCharacters source) 1 ""
  let self := grammar (8 * state.tokens.size + 16)
  Reader.readTwice (do Reader.statementsUntil self .ending (← Reader.rowLimit) []) state

end Script
end PolicyStudio
