import PolicyStudio.Script.Grammar.Rules
import PolicyStudio.Script.Grammar.Target

/-!
# Expressions of the grammar

Expressions from the loosest to the tightest: named, conditional, connected,
compared, combined by operators, and those with something attached.  What stands
at the bottom is handed in, because brackets may hold anything.
-/

namespace PolicyStudio
namespace Script

namespace Reader

/-! ## Operators -/

/-- Read operands that are joined by operators of one level, from the left. -/
def leftChain (operators : List (String × BinaryOperator)) (operand : Reader Expression) :
    Nat → Expression → Reader Expression
  | 0, _ => mismatch
  | rounds + 1, left => do
    let token ← peek
    match operators.find? fun entry => isText token entry.1 with
    | none => return left
    | some (_, operator) =>
      match ← attempt? (do skip; operand) with
      | some right => leftChain operators operand rounds (.binary operator left right)
      | none => return left

/-- One level of operators that are read from the left. -/
def level (operators : List (String × BinaryOperator)) (operand : Reader Expression) :
    Reader Expression := do
  let first ← operand
  leftChain operators operand (← rowLimit) first

/-- A power, whose exponent may have a sign. -/
def power (self : Grammar) (primary : Reader Expression) : Reader Expression := do
  let base ← primary
  match ← attempt? (do expect "**"; self.factor) with
  | some exponent => return .binary .power base exponent
  | none => return base

/-- The operators before one operand. -/
def signs : List (String × UnaryOperator) := [("+", .plus), ("-", .minus), ("~", .invert)]

/-- An operand with a sign, or a power. -/
def factor (self : Grammar) (primary : Reader Expression) : Reader Expression := do
  let token ← peek
  match signs.find? fun entry => isText token entry.1 with
  | some (_, operator) => do
    skip
    return .unary operator (← self.factor)
  | none => power self primary

/-- Operands joined by operators on numbers and bits. -/
def bitwiseOr (self : Grammar) (primary : Reader Expression) : Reader Expression :=
  let term := level [("*", .multiply), ("/", .divide), ("//", .floorDivide), ("%", .modulo),
    ("@", .matrixMultiply)] (factor self primary)
  let sum := level [("+", .add), ("-", .subtract)] term
  let shift := level [("<<", .shiftLeft), (">>", .shiftRight)] sum
  let bitAnd := level [("&", .bitAnd)] shift
  let bitXor := level [("^", .bitXor)] bitAnd
  level [("|", .bitOr)] bitXor

/-- The comparisons that are written as one mark. -/
def comparisonMarks : List (String × ComparisonOperator) :=
  [("==", .equal), ("!=", .notEqual), ("<=", .lessEqual), ("<", .less), (">=", .greaterEqual),
    (">", .greater), ("in", .isIn)]

/-- Go past the operator of a comparison. -/
def comparisonOperator : Reader ComparisonOperator := do
  let token ← peek
  match comparisonMarks.find? fun entry => isText token entry.1 with
  | some (_, operator) => do
    skip
    return operator
  | none =>
    if ← accept "not" then
      expect "in"
      return .isNotIn
    expect "is"
    if ← accept "not" then return .isNotSame
    return .isSame

/-- The comparisons after the first operand. -/
def comparisons (operand : Reader Expression) :
    Nat → List (ComparisonOperator × Expression) → Reader (List (ComparisonOperator × Expression))
  | 0, _ => mismatch
  | rounds + 1, found => do
    let next : Reader (ComparisonOperator × Expression) := do
      return (← comparisonOperator, ← operand)
    match ← attempt? next with
    | none => return found.reverse
    | some next => comparisons operand rounds (next :: found)

/-- Operands that are compared. -/
def comparison (operand : Reader Expression) : Reader Expression := do
  let left ← operand
  match ← comparisons operand (← rowLimit) [] with
  | [] => return left
  | rest => return .comparison left rest

/-- A comparison, possibly negated. -/
def inversion (operand : Reader Expression) : Nat → Reader Expression
  | 0 => mismatch
  | rounds + 1 => do
    if ← accept "not" then return .unary .negate (← inversion operand rounds)
    comparison operand

/-- Operands that are joined by a word. -/
def joinedBy (word : String) (operand : Reader Expression) :
    Nat → List Expression → Reader (List Expression)
  | 0, _ => mismatch
  | rounds + 1, found => do
    match ← attempt? (do expect word; operand) with
    | some next => joinedBy word operand rounds (next :: found)
    | none => return found.reverse

/-- Operands joined by `and`. -/
def conjunction (operand : Reader Expression) : Reader Expression := do
  let limit ← rowLimit
  let first ← inversion operand limit
  match ← joinedBy "and" (inversion operand limit) limit [first] with
  | [single] => return single
  | operands => return .conjunction operands

/-- Operands joined by `or`. -/
def disjunctionOf (operand : Reader Expression) : Reader Expression := do
  let first ← conjunction operand
  match ← joinedBy "or" (conjunction operand) (← rowLimit) [first] with
  | [single] => return single
  | operands => return .disjunction operands

/-! ## Conditional expressions and common mistakes -/

/-- The two other parts of a conditional expression. -/
def conditionalRest (self : Grammar) : Reader (Expression × Expression) := do
  expect "if"
  let test ← self.disjunction
  expect "else"
  return (test, ← self.expression)

/-- An expression, of which only the parts are remembered. -/
def firstExpression (self : Grammar) : Reader Expression := do
  if ← nextIs "lambda" then return ← self.expression
  let first ← self.disjunction
  match ← attempt? (conditionalRest self) with
  | some (test, no) => return .conditional test first no
  | none => return first

/-- Two expressions stand next to each other within brackets, as if a comma had
been forgotten.  The first one began at `start`. -/
def forgottenComma (self : Grammar) (start : Nat) (first : Expression) : Reader Unit := do
  let state ← get
  let token := tokenAt state start
  let following := tokenAt state (start + 1)
  if isName token && following.kind = .text then return ()
  if startsSoftKeyword token then return ()
  leniently (do let _ ← firstExpression self)
  let isLegacy := match first with
    | .name _ name => name == "print" || name == "exec"
    | _ => false
  let state ← get
  let last := tokenAt state (state.position - 1)
  if !isLegacy && !last.brackets.isEmpty then
    refuse token.line "invalid syntax. Perhaps you forgot a comma?"

/-- A conditional expression lacks its other half. -/
def forgottenElse (self : Grammar) (start : Nat) : Reader Unit := do
  expect "if"
  let _ ← self.disjunction
  if !(← nextIsAny ["else", ":"]) then
    refuse (← lineAt start) "expected 'else' after 'if' expression"

/-- A name is followed by expressions as if it were a statement. -/
def forgottenParentheses (items : Reader Expression) : Reader Unit := do
  let token ← peek
  let function ← name
  if ← nextIs "(" then mismatch
  let _ ← items
  if function == "print" || function == "exec" then
    refuse token.line ("Missing parentheses in call to '" ++ function ++ "'. Did you mean " ++
      function ++ "(...)?")

/-- An expression that is not a function without a name. -/
def conditional (self : Grammar) (items : Reader Expression) : Reader Expression := do
  let start ← mark
  let first ← self.disjunction
  probe (forgottenComma self start first)
  probe (forgottenElse self start)
  if ← isStrict then
    let after ← mark
    reset start
    probe (forgottenParentheses items)
    reset after
  match ← attempt? (conditionalRest self) with
  | some (test, no) => return .conditional test first no
  | none => return first

/-! ## Named expressions -/

/-- A name is given a value with the wrong mark, or something that is no name is
given one. -/
def misplacedAssignment (self : Grammar) (start : Nat)
    (first : Expression) : Reader Unit := do
  let line ← lineAt start
  probe do
    expect ":="
    let _ ← self.expression
    refuse line ("cannot use assignment expressions with " ++ first.kindName)
  reset start
  probe do
    let _ ← name
    expect "="
    let _ ← self.bitwise
    if !(← nextIsAny ["=", ":="]) then
      refuse line "invalid syntax. Maybe you meant '==' or ':=' instead of '='?"
  reset start
  probe do
    if ← nextIsAny ["True", "None", "False"] then mismatch
    let opening ← peek
    let target ← self.bitwise
    let isDisplay := match target.leftmost with
      | .list _ => isText opening "["
      | .tuple _ | .comprehension .generator _ _ => isText opening "("
      | _ => false
    if isDisplay then mismatch
    expect "="
    let _ ← self.bitwise
    if !(← nextIsAny ["=", ":="]) then
      refuse line ("cannot assign to " ++ target.kindName ++
        " here. Maybe you meant '==' instead of '='?")

/-- A name with the value that it is given, if that is what comes next. -/
def assignment? (self : Grammar) : Reader (Option Expression) := do
  let token ← peek
  if !(← nameThen ":=") then return none
  skip
  skip
  return some (.assignment token.line token.name (← self.expression))

/-- An expression, or a name with the value that it is given. -/
def namedExpression (self : Grammar) : Reader Expression := do
  if let some found ← assignment? self then return found
  let start ← mark
  let first ← self.expression
  if ← isStrict then
    let after ← mark
    misplacedAssignment self start first
    reset after
  if ← nextIs ":=" then mismatch
  return first

/-- A named expression, or a starred one. -/
def starNamed (self : Grammar) : Reader Expression := do
  let token ← peek
  if isText token "*" then
    skip
    return .starred token.line (← self.bitwise)
  namedExpression self

/-- An expression, or a starred one. -/
def starExpression (self : Grammar) : Reader Expression := do
  let token ← peek
  if isText token "*" then
    skip
    return .starred token.line (← self.bitwise)
  self.expression

/-- Expressions divided by commas. -/
def starExpressions (self : Grammar) : Reader Expression := do
  return tupleOf (← commaList (starExpression self))

/-- A `yield` with what it yields. -/
def yieldExpression (self : Grammar) : Reader Expression := do
  let line ← line
  expect "yield"
  if ← accept "from" then return .yieldedFrom line (← self.expression)
  return .yielded line (← attempt? (starExpressions self))

/-! ## Clauses of comprehensions -/

/-- The targets of a loop. -/
def loopTargets (self : Grammar) : Reader Expression := do
  let item : Reader Expression := do
    let token ← peek
    if isText token "*" then
      skip
      return .starred token.line (← self.bitwise)
    self.bitwise
  let target := tupleOf (← commaList item)
  if !target.isTarget .iteration then mismatch
  return target

/-- The targets of a loop, with `in` behind them. -/
def loopHead (self : Grammar) : Reader Expression := do
  let start ← mark
  let found ← attempt? do
    let target ← loopTargets self
    expect "in"
    return target
  match found with
  | some target => return target
  | none => do
    probe do
      let found ← starExpressions self
      match found.badTarget? .iteration with
      | some bad => do refuse (← lineAt start) ("cannot assign to " ++ bad.kindName)
      | none => return ()
    mismatch

/-- A `for` of a comprehension comes next. -/
def clauseNext : Reader Bool := do
  if ← nextIs "for" then return true
  if ← nextIs "async" then return isText (← lookAhead 1) "for"
  return false

/-- The tests of a clause. -/
def clauseTests (self : Grammar) :
    Nat → List Expression → Reader (List Expression)
  | 0, _ => mismatch
  | rounds + 1, found => do
    match ← attempt? (do expect "if"; self.disjunction) with
    | some test => clauseTests self rounds (test :: found)
    | none => return found.reverse

/-- The clauses of a comprehension. -/
def clauses (self : Grammar) :
    Nat → List Clause → Reader (List Clause)
  | 0, _ => mismatch
  | rounds + 1, found => do
    let isAsync ← accept "async"
    expect "for"
    let target ← loopHead self
    let iterable ← self.disjunction
    let tests ← clauseTests self (← rowLimit) []
    let found := .mk target iterable tests isAsync :: found
    if ← clauseNext then clauses self rounds found
    else return found.reverse

end Reader

end Script
end PolicyStudio
