import PolicyStudio.Script.Grammar.Expression

/-!
# Arguments and parameters

The arguments of a call are read in any order and checked afterwards: positional
ones stand before named ones, only starred ones may stand between those, and
after two stars nothing positional follows.

Parameters are read alike.  A bare star divides those that are given by name
only, and a slash those that are not.
-/

namespace PolicyStudio
namespace Script

namespace Reader

/-! ## Arguments -/

/-- An argument with the line on which it starts. -/
structure PlacedArgument where
  line : Nat
  argument : Argument
  /-- It is a comprehension without brackets of its own. -/
  isBare : Bool

/-- A named argument whose value is a bare comprehension, or whose name is none. -/
def namedMistake (self : Grammar) : Reader Unit := do
  let token ← peek
  if ["True", "False", "None"].any (isText token) then
    if isText (← lookAhead 1) "=" then refuse token.line ("cannot assign to " ++ token.text)
  if ← nameThen "=" then
    skip
    skip
    let _ ← self.expression
    let _ ← clauses self (← rowLimit) []
    refuse token.line "invalid syntax. Maybe you meant '==' or ':=' instead of '='?"
  let _ ← self.expression
  if ← nextIs "=" then
    refuse token.line "expression cannot contain assignment, perhaps you meant \"==\"?"

/-- A starred expression, without its star. -/
def spread (self : Grammar) : Reader Expression := do
  expect "*"
  match ← attempt? self.expression with
  | some value => return value
  | none => refuseHere "Invalid star expression"

/-- One argument. -/
def argumentItem (self : Grammar) :
    Reader PlacedArgument := do
  let token ← peek
  if isText token "*" then return ⟨token.line, .spread (← spread self), false⟩
  if isText token "**" then
    skip
    return ⟨token.line, .spreadNamed (← self.expression), false⟩
  probe (namedMistake self)
  if ← nameThen "=" then
    skip
    skip
    return ⟨token.line, .named token.line token.name (← self.expression), false⟩
  let value ← match ← assignment? self with
    | some found => pure found
    | none => self.expression
  if ← nextIsAny [":=", "="] then mismatch
  if ← clauseNext then
    let found ← clauses self (← rowLimit) []
    return ⟨token.line, .positional (.comprehension .generator value found), true⟩
  return ⟨token.line, .positional value, false⟩

/-- The mistake in the order of arguments, if there is one: its line and wording.
The line is left out if it is that of the last token. -/
def orderMistake? (items : List PlacedArgument) : Option (Option Nat × String) :=
  go false false items
where
  /-- Look for it, knowing whether there were named arguments and those that are
  spread by name. -/
  go (named spreadNamed : Bool) : List PlacedArgument → Option (Option Nat × String)
    | [] => none
    | item :: rest => match item.argument with
      | .positional _ =>
        if spreadNamed then
          some (none, "positional argument follows keyword argument unpacking")
        else if named then some (none, "positional argument follows keyword argument")
        else go named spreadNamed rest
      | .spread _ =>
        if spreadNamed then
          some ((items.head?.map PlacedArgument.line),
            "iterable argument unpacking follows keyword argument unpacking")
        else go named spreadNamed rest
      | .named .. => go true spreadNamed rest
      | .spreadNamed _ => go true true rest

/-- The bare comprehension among several arguments, if there is one. -/
def bareComprehension? (items : List PlacedArgument) (hasComma : Bool) : Option PlacedArgument :=
  match items, hasComma with
  | [_], false => none
  | _, _ => items.find? PlacedArgument.isBare

/-- The arguments of a call, after the opening bracket. -/
def arguments (self : Grammar) :
    Reader (List Argument) := do
  if ← accept ")" then return []
  let (items, hasComma) ← commaList (argumentItem self)
  match bareComprehension? items hasComma with
  | some item =>
    if ← isStrict then refuse item.line "Generator expression must be parenthesized"
    mismatch
  | none => pure ()
  match orderMistake? items with
  | some (line, message) => do
    if ← isStrict then
      match line with
      | some line => refuse line message
      | none => refuseHere message
    mismatch
  | none => pure ()
  expect ")"
  return items.map PlacedArgument.argument

/-! ## Parameters -/

/-- What has been read of parameters. -/
structure ParametersState where
  positionalOnly : List Parameter := []
  positional : List Parameter := []
  defaults : List Expression := []
  rest : Option Parameter := none
  keywordOnly : List Parameter := []
  keywordDefaults : List (Option Expression) := []
  keywordRest : Option Parameter := none
  sawSlash : Bool := false
  sawStar : Bool := false
  /-- The last thing was a bare star, which a name must follow. -/
  sawBareStar : Bool := false

/-- Only parameters without default values have been read. -/
def ParametersState.isPlain (state : ParametersState) : Bool :=
  !state.sawSlash && !state.sawStar && state.defaults.isEmpty

/-- What parameters are for. -/
structure ParametersUse where
  /-- The mark that ends them. -/
  ending : String
  /-- They may have hints. -/
  hasHints : Bool
  /-- The refusal of brackets among them. -/
  bracketRefusal : String

/-- The parameters of a function with a name. -/
def functionParameters : ParametersUse :=
  ⟨")", true, "Function parameters cannot be parenthesized"⟩

/-- The parameters of a function without a name. -/
def lambdaParameters : ParametersUse :=
  ⟨":", false, "Lambda expression parameters cannot be parenthesized"⟩

/-- The name of a parameter with its hint. -/
def parameter (use : ParametersUse) (starHint : Reader Expression) :
    Reader Parameter := do
  let token ← peek
  let found ← name
  if use.hasHints then
    if ← accept ":" then
      return .mk token.line found (some (← starHint))
  return .mk token.line found none

/-- Refuse a common mistake, or go back. -/
def mistake {α : Type} (line : Nat) (message : String) : Reader α := do
  if ← isStrict then refuse line message
  mismatch

/-- The default value of a parameter, if it has one. -/
def standardValue? (self : Grammar) : Reader (Option Expression) := do
  let token ← peek
  if !(← accept "=") then return none
  if ← nextIsAny [")", ","] then mistake token.line "expected default value expression"
  return some (← self.expression)

/-- A parameter by position or by name, with its default value. -/
def plainParameter (self : Grammar) (use : ParametersUse) (state : ParametersState) :
    Reader ParametersState := do
  let token ← peek
  if isText token "(" then
    if state.isPlain then
      probe do
        skip
        let _ ← commaList name
        expect ")"
        refuse token.line use.bracketRefusal
    mismatch
  let found ← parameter use self.expression
  let standard ← standardValue? self
  if state.sawStar then
    return { state with
      keywordOnly := state.keywordOnly ++ [found]
      keywordDefaults := state.keywordDefaults ++ [standard]
      sawBareStar := false }
  match standard with
  | some value =>
    return { state with
      positional := state.positional ++ [found]
      defaults := state.defaults ++ [value] }
  | none =>
    if !state.defaults.isEmpty then
      mistake token.line "non-default argument follows default argument"
    return { state with positional := state.positional ++ [found] }

/-- A slash. -/
def slashParameter (line : Nat) (state : ParametersState) : Reader ParametersState := do
  skip
  if state.sawSlash then mistake line "/ may appear only once"
  if state.sawStar then mistake line "/ must be ahead of *"
  if state.positional.isEmpty then
    if ← nextIs "," then mistake line "at least one argument must precede /"
    mismatch
  let token ← peek
  if isText token "*" then mistake token.line "expected comma between / and *"
  return { state with
    positionalOnly := state.positional
    positional := []
    sawSlash := true }

/-- A star, bare or with the parameter that takes the rest. -/
def starParameter (self : Grammar) (use : ParametersUse) (line : Nat)
    (state : ParametersState) : Reader ParametersState := do
  skip
  if state.sawStar then
    if !(← nextIs ",") then
      let _ ← name
      if !(← nextIsAny [",", use.ending]) then mismatch
    mistake line "* argument may appear only once"
  if ← nextIs use.ending then mistake line "named arguments must follow bare *"
  if ← nextIs "," then
    let following ← lookAhead 1
    if isText following use.ending || isText following "**" then
      mistake line "named arguments must follow bare *"
    return { state with sawStar := true, sawBareStar := true }
  let found ← parameter use (starExpression self)
  let token ← peek
  if isText token "=" then
    mistake token.line "var-positional argument cannot have default value"
  return { state with rest := some found, sawStar := true }

/-- Two stars with the parameter that takes the rest by name. -/
def doubleStarParameter (self : Grammar) (use : ParametersUse) (state : ParametersState) :
    Reader ParametersState := do
  skip
  let found ← parameter use self.expression
  let token ← peek
  if isText token "=" then mistake token.line "var-keyword argument cannot have default value"
  if isText token "," then
    let following ← lookAhead 1
    if isName following || ["*", "**", "/"].any (isText following) then
      mistake following.line "arguments cannot follow var-keyword argument"
  return { state with keywordRest := some found }

/-- Parameters up to the mark that ends them. -/
def parametersFrom (self : Grammar) (use : ParametersUse) :
    Nat → ParametersState → Reader ParametersState
  | 0, _ => mismatch
  | rounds + 1, state => do
    let token ← peek
    let state ← if isText token "/" then slashParameter token.line state
      else if isText token "*" then starParameter self use token.line state
      else if isText token "**" then doubleStarParameter self use state
      else plainParameter self use state
    if !(← accept ",") then return state
    if ← nextIs use.ending then return state
    if state.keywordRest.isSome then mismatch
    parametersFrom self use rounds state

/-- Parameters up to the mark that ends them, which is not read. -/
def parameters (self : Grammar) (use : ParametersUse) :
    Reader Parameters := do
  if ← nextIs use.ending then return .mk [] [] none [] none [] []
  let state ← parametersFrom self use (← rowLimit) {}
  return .mk state.positionalOnly state.positional state.rest state.keywordOnly state.keywordRest
    state.defaults state.keywordDefaults

/-- A function without a name. -/
def lambdaExpression (self : Grammar) : Reader Expression := do
  let line ← line
  expect "lambda"
  let found ← parameters self lambdaParameters
  expect ":"
  return .lambda line found (← self.expression)

end Reader

end Script
end PolicyStudio
