import PolicyStudio.Script.Grammar.Atom

/-!
# Statements on one line

Statements without a block of their own.  An assignment is told from an
expression by the mark that follows, and what stands before the mark is checked
then.
-/

namespace PolicyStudio
namespace Script

namespace Reader

/-! ## Assignments -/

/-- The marks of updates. -/
def updateMarks : List (String × BinaryOperator) :=
  [("+=", .add), ("-=", .subtract), ("*=", .multiply), ("@=", .matrixMultiply), ("/=", .divide),
    ("%=", .modulo), ("&=", .bitAnd), ("|=", .bitOr), ("^=", .bitXor), ("<<=", .shiftLeft),
    (">>=", .shiftRight), ("**=", .power), ("//=", .floorDivide)]

/-- A `yield`, or expressions. -/
def assignedValue (self : Grammar) : Reader Expression := do
  if ← nextIs "yield" then yieldExpression self else starExpressions self

/-- Refuse a target, naming the part that cannot be one. -/
def refuseTarget (use : TargetUse) (line : Nat) (target : Expression) : Reader Unit := do
  let words := match use with
    | .deletion => "cannot delete "
    | _ => "cannot assign to "
  match target.badTarget? use with
  | some bad => refuse line (words ++ bad.kindName)
  | none => return ()

/-- Rows of things divided by commas, as many as there are. -/
def rowsOf {α : Type} (item : Reader α) : Nat → Reader Unit
  | 0 => mismatch
  | rounds + 1 => do
    if (← attempt? (commaList item)).isSome then rowsOf item rounds

/-- What is wrong with the left side of an assignment that began at `start`. -/
def assignmentMistake (self : Grammar) (start : Nat) : Reader Unit := do
  reset start
  let line ← line
  probe do
    let _ ← starNamed self
    expect ","
    let _ ← rowsOf (starNamed self) (← rowLimit)
    expect ":"
    let _ ← self.expression
    refuse line "only single target (not tuple) can be annotated"
  reset start
  probe do
    let target ← self.expression
    expect ":"
    let _ ← self.expression
    match target with
    | .list _ => refuse line "only single target (not list) can be annotated"
    | .tuple _ => refuse line "only single target (not tuple) can be annotated"
    | _ => refuse line "illegal target for annotation"
  reset start
  probe (chain (← rowLimit))
  reset start
  probe do
    let target ← starExpressions self
    let token ← peek
    if !updateMarks.any fun entry => isText token entry.1 then mismatch
    skip
    let _ ← assignedValue self
    refuse line ("'" ++ target.kindName ++ "' is an illegal expression for augmented assignment")
where
  /-- The first target of a chain that cannot be one. -/
  chain : Nat → Reader Unit
    | 0 => mismatch
    | rounds + 1 => do
      let line ← line
      if ← nextIs "yield" then
        let _ ← yieldExpression self
        expect "="
        refuse line "assignment to yield expression not possible"
      let target ← starExpressions self
      expect "="
      refuseTarget .assignment line target
      chain rounds

/-- The targets of an assignment after the first one, and its value. -/
def assignmentRest (self : Grammar) :
    Nat → List Expression → Reader (List Expression × Expression)
  | 0, _ => mismatch
  | rounds + 1, targets => do
    let value ← assignedValue self
    if !(← accept "=") then return (targets.reverse, value)
    match value with
    | .yielded .. | .yieldedFrom .. => mismatch
    | _ =>
      if !value.isTarget .assignment then mismatch
      assignmentRest self rounds (value :: targets)

/-- A target with a hint, and possibly a value. -/
def hintedTarget (self : Grammar) (line : Nat) (target : Expression) : Reader Statement := do
  if !target.isPlace then mismatch
  expect ":"
  let _ ← self.expression
  let _ ← attempt? (do expect "="; let _ ← assignedValue self)
  return .refused line "AnnAssign"

/-- An assignment, an update, or an expression. -/
def expressionStatement (self : Grammar) : Reader Statement := do
  let start ← mark
  let line ← line
  let read : Reader Statement := do
    let first ← assignedValue self
    let token ← peek
    if isText token "=" then
      skip
      if !first.isTarget .assignment then mismatch
      let (targets, value) ← assignmentRest self (← rowLimit) [first]
      return .assign targets value
    if isText token ":" then return ← hintedTarget self line first
    match updateMarks.find? fun entry => isText token entry.1 with
    | some (_, operator) => do
      if !first.isPlace then mismatch
      skip
      return .update line first operator (← assignedValue self)
    | none =>
      if isText token ";" || token.kind = .newline then return .expression first
      mismatch
  orProbe read (assignmentMistake self start)

/-! ## Statements that begin with a word -/

/-- A name with dots. -/
def dottedName : Reader String := do
  let first ← name
  go (← rowLimit) first
where
  /-- The names after the first one. -/
  go : Nat → String → Reader String
    | 0, _ => mismatch
    | rounds + 1, found => do
      if ← accept "." then go rounds (found ++ "." ++ (← name)) else return found

/-- A name that is brought in, possibly under another one. -/
def aliasOf (source : Reader String) : Reader Alias := do
  let line ← line
  let found ← source
  let rename ← if ← accept "as" then do pure (some (← name)) else pure none
  return ⟨line, found, rename⟩

/-- The module after `from`, which may be relative. -/
def sourceModule : Nat → Bool → Reader Unit
  | 0, _ => mismatch
  | rounds + 1, sawDots => do
    if ← nextIsAny [".", "..."] then
      skip
      sourceModule rounds true
    else if sawDots && (← nextIs "import") then return ()
    else
      let _ ← dottedName

/-- The names after `import`. -/
def importedNames : Reader (List Alias) := do
  let line ← line
  if ← accept "*" then return [⟨line, "*", none⟩]
  if ← accept "(" then
    let (names, _) ← commaList (aliasOf name)
    expect ")"
    return names
  let (names, hasComma) ← commaList (aliasOf name)
  if hasComma then
    if ← isStrict then refuseHere "trailing comma not allowed without surrounding parentheses"
    mismatch
  return names

/-- What is deleted. -/
def deletedTargets (self : Grammar) : Reader (List Expression) := do
  let start ← mark
  let line ← line
  let read : Reader (List Expression) := do
    let (targets, _) ← commaList self.bitwise
    if !targets.all fun target => target.isTarget .deletion then mismatch
    if !(← nextIs ";") && !(← nextIsKind .newline) then mismatch
    return targets
  orProbe read do
    reset start
    refuseTarget .deletion line (← starExpressions self)

/-- Nothing more comes in the statement. -/
def atStatementEnd : Reader Bool := do
  if ← nextIs ";" then return true
  nextIsKind .newline

/-- One statement without a block. -/
def simpleStatement (self : Grammar) : Reader Statement := do
  let token ← peek
  let line := token.line
  match (if token.kind = .name then token.text else "") with
  | "pass" => skip; return .pass
  | "break" => skip; return .break line
  | "continue" => skip; return .continue line
  | "return" => do
    skip
    if ← atStatementEnd then return .return none
    return .return (some (← starExpressions self))
  | "raise" => do
    skip
    if ← atStatementEnd then return .raise none none
    let error ← self.expression
    let cause ← if ← accept "from" then do pure (some (← self.expression)) else pure none
    return .raise (some error) cause
  | "global" => do
    skip
    return .global line (← dividedList name)
  | "nonlocal" => do
    skip
    let _ ← dividedList name
    return .refused line "Nonlocal"
  | "del" => do
    skip
    return .delete (← deletedTargets self)
  | "assert" => do
    skip
    let test ← self.expression
    let message ← if ← accept "," then do pure (some (← self.expression)) else pure none
    return .assert line test message
  | "import" => do
    skip
    return .importNames line (← dividedList (aliasOf dottedName))
  | "from" => do
    skip
    sourceModule (← rowLimit) false
    expect "import"
    return .importFrom line (← importedNames)
  | _ => expressionStatement self

/-- The statements on one line. -/
def simpleStatements (self : Grammar) : Reader (List Statement) := do
  go (← rowLimit) []
where
  /-- The statements after those that were found. -/
  go : Nat → List Statement → Reader (List Statement)
    | 0, _ => mismatch
    | rounds + 1, found => do
      let found := (← simpleStatement self) :: found
      if ← accept ";" then
        if ← nextIsKind .newline then
          skip
          return found.reverse
        go rounds found
      else
        expectKind .newline
        return found.reverse

end Reader

end Script
end PolicyStudio
