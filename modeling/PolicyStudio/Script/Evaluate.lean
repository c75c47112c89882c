import PolicyStudio.Script.Call
import PolicyStudio.Script.Unpack

/-!
# Evaluation

One step of the evaluation of an expression; the expressions inside are handed to
the interpreter.  Operands are evaluated from left to right, and the positional
arguments of a call before the named ones.

Slices that are read, and calls with spread arguments, go through functions of
the surroundings, which shows in their refusals.
-/

namespace PolicyStudio
namespace Script

open Step

/-- The name under which calls with spread arguments are refused. -/
def spreadCall : String := "rls_playground.engines.sandbox._apply()"

namespace Evaluate

/-! ## Names -/

/-- The value of a name.  Two names stand for printing in the function around. -/
def nameValue (scope : Scope) (name : String) : Step Value := do
  match name with
  | "print" => return .printer (← Variable.printingFrame scope.frames)
  | "printed" => do
    let frame ← Variable.frameAt (← Variable.printingFrame scope.frames)
    return .text frame.printed
  | _ => Variable.read scope name

/-! ## Displays -/

/-- The elements that a spread value adds to a display. -/
def spreadElements (self : Interpreter) (value : Value) : Step (List Value) := do
  if !(← isIterable value) then
    raise .type ("Value after * must be an iterable, not " ++ (← value.typeName))
  collect self value

/-- The members of a list or a tuple. -/
def members (self : Interpreter) (scope : Scope) : List Expression → Step (List Value)
  | [] => return []
  | .starred _ inner :: rest => do
    let found ← spreadElements self (← self.evaluate scope inner)
    return found ++ (← members self scope rest)
  | item :: rest => do
    let value ← self.evaluate scope item
    return value :: (← members self scope rest)

/-- The members of a set, added to those found so far. -/
def setMembers (self : Interpreter) (scope : Scope) (found : Members) :
    List Expression → Step Members
  | [] => return found
  | .starred _ inner :: rest => do
    let value ← self.evaluate scope inner
    let found ← match value with
      | .object address => do
        match ← load address with
        | .set members => found.unite members
        | _ => found.putChecked (← collect self value)
      | _ => found.putChecked (← collect self value)
    setMembers self scope found rest
  | item :: rest => do
    setMembers self scope (← found.putChecked [← self.evaluate scope item]) rest

/-- The members of a set; those before the first spread one are evaluated before
any is added.  Three or more constants make a set of their own, which is added at
once. -/
def setDisplay (self : Interpreter) (scope : Scope) (items : List Expression) : Step Value := do
  let before := items.takeWhile fun item => !item.isStarred
  let first ← before.mapM (self.evaluate scope)
  let found ← Members.empty.putChecked first
  let found := if 2 < items.length ∧ items.all Expression.isConstant then found.again.copy
    else found
  allocate (.set (← setMembers self scope found (items.drop before.length)))

/-- The entries of a dictionary; `waiting` are evaluated and not put yet. -/
def dictionaryEntries (self : Interpreter) (scope : Scope) (entries : Dictionary)
    (waiting : List (Value × Value)) : List DictionaryEntry → Step Dictionary
  | [] => entries.putChecked waiting
  | .mk (some key) value :: rest => do
    let key ← self.evaluate scope key
    let value ← self.evaluate scope value
    dictionaryEntries self scope entries (waiting ++ [(key, value)]) rest
  | .mk none value :: rest => do
    let entries ← entries.putChecked waiting
    let value ← self.evaluate scope value
    match value with
    | .object address => do
      match ← load address with
      | .dictionary others => do
        dictionaryEntries self scope (← entries.putAll others.toList) [] rest
      | _ => raise .type ("'" ++ (← value.typeName) ++ "' object is not a mapping")
    | _ => raise .type ("'" ++ (← value.typeName) ++ "' object is not a mapping")

/-! ## Calls -/

/-- The argument is given by position. -/
def isPositional : Argument → Bool
  | .positional _ | .spread _ => true
  | _ => false

/-- The argument is spread. -/
def isSpread : Argument → Bool
  | .spread _ | .spreadNamed _ => true
  | _ => false

/-- The arguments that are given by position. -/
def positionalArguments (self : Interpreter) (scope : Scope) : List Argument → Step (List Value)
  | [] => return []
  | .positional e :: rest => do
    let value ← self.evaluate scope e
    return value :: (← positionalArguments self scope rest)
  | .spread e :: rest => do
    let found ← spreadElements self (← self.evaluate scope e)
    return found ++ (← positionalArguments self scope rest)
  | _ :: rest => positionalArguments self scope rest

/-- Add a named argument that may be there already. -/
def addNamed (named : List (Value × Value)) (key value : Value) : Step (List (Value × Value)) := do
  match ← Value.findEntry Value.equals key named with
  | some _ =>
    let key ← key.plainText
    raise .type (spreadCall ++ " got multiple values for keyword argument '" ++ key ++ "'")
  | none => return named ++ [(key, value)]

/-- The arguments that are given by name. -/
def namedArguments (self : Interpreter) (scope : Scope) (named : List (Value × Value)) :
    List Argument → Step (List (Value × Value))
  | [] => return named
  | .named _ name e :: rest => do
    let value ← self.evaluate scope e
    namedArguments self scope (← addNamed named (.text name) value) rest
  | .spreadNamed e :: rest => do
    let value ← self.evaluate scope e
    let refusal : Step (List (Value × Value)) := do
      raise .type (spreadCall ++ " argument after ** must be a mapping, not " ++
        (← value.typeName))
    match value with
    | .object address => do
      match ← load address with
      | .dictionary entries => do
        let named ← entries.toList.foldlM (fun named (key, value) => addNamed named key value) named
        namedArguments self scope named rest
      | _ => refusal
    | _ => refusal
  | _ :: rest => namedArguments self scope named rest

/-- The name of a named argument, which must be a text. -/
def argumentName (entry : Value × Value) : Step (String × Value) :=
  match entry.1 with
  | .text name => return (name, entry.2)
  | _ => raise .type "keywords must be strings"

/-- Evaluate a call. -/
def callExpression (self : Interpreter) (scope : Scope) (function : Expression)
    (given : List Argument) : Step Value := do
  let function ← self.evaluate scope function
  let positional ← positionalArguments self scope given
  let named ← namedArguments self scope [] given
  let named ← named.mapM argumentName
  if given.any isSpread ∧ named.any (fun entry => entry.1 == "f") then
    raise .type "_apply() got multiple values for argument 'f'"
  self.call function { positional, named }

/-! ## Operators -/

/-- Compare two values. -/
def compareValues (self : Interpreter) (operator : ComparisonOperator) (left right : Value) :
    Step Bool := do
  match operator with
  | .equal => left.equals right
  | .notEqual => return !(← left.equals right)
  | .less => left.ordered .below right
  | .lessEqual => left.ordered .atMost right
  | .greater => left.ordered .above right
  | .greaterEqual => left.ordered .atLeast right
  | .isSame => return Value.isSame Value.nestingLimit left right
  | .isNotSame => return !Value.isSame Value.nestingLimit left right
  | .isIn => isMember self left right
  | .isNotIn => return !(← isMember self left right)

/-- Evaluate a chain of comparisons up to the first that does not hold. -/
def compareChain (self : Interpreter) (scope : Scope) (left : Value) :
    List (ComparisonOperator × Expression) → Step Value
  | [] => return left
  | [(operator, right)] => do
    let right ← self.evaluate scope right
    return .bool (← compareValues self operator left right)
  | (operator, right) :: rest => do
    let right ← self.evaluate scope right
    if ← compareValues self operator left right then compareChain self scope right rest
    else return .bool false

/-- Evaluate operands up to the first whose truth decides; it is the value. -/
def decisive (self : Interpreter) (scope : Scope) (deciding : Bool) : List Expression → Step Value
  | [] => return .bool (!deciding)
  | [operand] => self.evaluate scope operand
  | operand :: rest => do
    let value ← self.evaluate scope operand
    if (← value.isTrue) = deciding then return value
    decisive self scope deciding rest

/-! ## Formatted texts -/

/-- The text of a value after its conversion. -/
def converted (conversion : Conversion) (value : Value) : Step Value := do
  match conversion with
  | .none => return value
  | .text => return .text (← value.plainText)
  | .quoted => return .text (← value.shown)
  | .ascii => return .text (Format.ascii (← value.shown))

mutual

/-- The text of the pieces of a formatted text. -/
def formattedText (self : Interpreter) (scope : Scope) : List FormattedPart → Step String
  | [] => return ""
  | .literal text :: rest => return text ++ (← formattedText self scope rest)
  | .field value conversion format :: rest => do
    let value ← converted conversion (← self.evaluate scope value)
    let spec ← formatSpec self scope format
    let piece ← Format.format value spec
    return piece ++ (← formattedText self scope rest)

/-- The format of a field. -/
def formatSpec (self : Interpreter) (scope : Scope) : Option (List FormattedPart) → Step String
  | none => return ""
  | some parts => formattedText self scope parts

end

/-! ## Functions and comprehensions -/

/-- Default values by the names of their parameters. -/
def defaultValues (self : Interpreter) (scope : Scope) : Parameters → Step (List (String × Value))
  | .mk positionalOnly positional _ keywordOnly _ defaults keywordDefaults => do
    let names := (positionalOnly ++ positional).map Parameter.name
    let values ← defaults.mapM (self.evaluate scope)
    let byName ← (keywordOnly.zip keywordDefaults).mapM fun (parameter, standard) => do
      match standard with
      | some e => return [(parameter.name, ← self.evaluate scope e)]
      | none => return []
    return alignDefaults names values ++ byName.flatten

/-- The signature that parameters describe. -/
def signatureOf : Parameters → Signature
  | .mk positionalOnly positional rest keywordOnly keywordRest _ _ =>
    { positional := (positionalOnly ++ positional).map Parameter.name
      positionalOnly := positionalOnly.length
      rest := rest.map Parameter.name
      keywordOnly := keywordOnly.map Parameter.name
      keywordRest := keywordRest.map Parameter.name }

/-- The full name of a function that is defined in a scope. -/
def pathIn (scope : Scope) (name : String) : String :=
  if scope.path = "" then name else scope.path ++ "." ++ name

/-- Evaluate a function without a name. -/
def lambdaValue (self : Interpreter) (scope : Scope) (parameters : Parameters)
    (body : Expression) : Step Value := do
  let defaults ← defaultValues self scope parameters
  let bindings := Bindings.ofExpression body
  allocate (.closure {
    name := "<lambda>"
    path := pathIn scope "<lambda>"
    signature := signatureOf parameters
    defaults
    body := .expression body
    locals := localNames parameters.names bindings
    globals := []
    isGenerator := bindings.yields
    prints := false
    scope })

/-- The value to go through for the clauses of a comprehension.  A tuple target
asks for its elements only when they are needed. -/
def clauseSource (target : Expression) (value : Value) : Step Value := do
  match target with
  | .tuple _ => return value
  | _ => startIteration value

/-- Start a comprehension: its first source is evaluated outside of it. -/
def startComprehension (self : Interpreter) (scope : Scope) (name : String) (element : Element)
    (clauses : List Clause) : Step ComprehensionState := do
  let locals := Parameters.distinctNames (clauses.flatMap fun clause => match clause with
    | .mk target _ _ _ => target.targetNames)
  match clauses with
  | [] => return ⟨scope, element, []⟩
  | .mk target iterable tests isAsync :: rest => do
    let source ← clauseSource target (← self.evaluate scope iterable)
    match ← allocate (.frame ⟨.comprehension, locals, [], [], "", #[], false⟩) with
    | .object frame =>
      let inside : Scope := ⟨frame :: scope.frames, pathIn scope name⟩
      return ⟨inside, element, [(source, .mk target iterable tests isAsync, rest)]⟩
    | _ => return ⟨scope, element, []⟩

/-- The value of an element. -/
def elementValue (self : Interpreter) (scope : Scope) : Element → Step Value
  | .one e => self.evaluate scope e
  | .entry key value => do
    let key ← self.evaluate scope key
    return .tuple [key, ← self.evaluate scope value]

/-- All of these tests hold. -/
def testsHold (self : Interpreter) (scope : Scope) : List Expression → Step Bool
  | [] => return true
  | test :: rest => do
    if ← (← self.evaluate scope test).isTrue then testsHold self scope rest else return false

/-- The next element of a comprehension. -/
def nextElement (self : Interpreter) : Nat → ComprehensionState →
    Step (Option Value × ComprehensionState)
  | 0, _ => halt .exhausted
  | rounds + 1, state => match state.running with
    | [] => return (none, state)
    | (source, .mk target iterable tests isAsync, rest) :: outer => do
      let source ← startIteration source
      match ← advance self source with
      | none => nextElement self rounds { state with running := outer }
      | some value => do
        let running := (source, .mk target iterable tests isAsync, rest) :: outer
        Target.assignApart self state.scope value target
        if !(← testsHold self state.scope tests) then
          nextElement self rounds { state with running }
        else match rest with
          | [] => return (some (← elementValue self state.scope state.element),
              { state with running })
          | .mk target iterable tests isAsync :: rest => do
            let source ← clauseSource target (← self.evaluate state.scope iterable)
            nextElement self rounds
              { state with running := (source, .mk target iterable tests isAsync, rest) :: running }

/-- Go through a comprehension, adding each element to what was built. -/
def gather {α : Type} (self : Interpreter) (add : α → Value → Step α) :
    Nat → ComprehensionState → α → Step α
  | 0, _, _ => halt .exhausted
  | rounds + 1, state, built => do
    match ← self.resume state with
    | (none, _) => return built
    | (some value, state) => do gather self add rounds state (← add built value)

/-- Evaluate a comprehension of single elements. -/
def comprehensionValue (self : Interpreter) (scope : Scope) (kind : ComprehensionKind)
    (element : Expression) (clauses : List Clause) : Step Value := do
  match kind with
  | .list => do
    let state ← startComprehension self scope "<listcomp>" (.one element) clauses
    let items ← gather self (fun (items : Array Value) value => return items.push value)
      roundLimit state #[]
    allocate (.list items)
  | .set => do
    let state ← startComprehension self scope "<setcomp>" (.one element) clauses
    let add := fun (members : Members) value => members.putChecked [value]
    allocate (.set (← gather self add roundLimit state .empty))
  | .generator => do
    let state ← startComprehension self scope "<genexpr>" (.one element) clauses
    allocate (.iteration (.generator state))

/-- Evaluate a comprehension of entries. -/
def dictionaryComprehensionValue (self : Interpreter) (scope : Scope) (key value : Expression)
    (clauses : List Clause) : Step Value := do
  let state ← startComprehension self scope "<dictcomp>" (.entry key value) clauses
  let add := fun (entries : Dictionary) (entry : Value) => match entry with
    | .tuple [key, value] => entries.putChecked [(key, value)]
    | _ => return entries
  allocate (.dictionary (← gather self add roundLimit state .empty))

/-! ## Yielding -/

/-- Note an element that the call around yields. -/
def yieldValue (scope : Scope) (value : Value) : Step Unit := do
  match scope.frames with
  | [] => return ()
  | frame :: _ => update frame fun object => match object with
    | .frame frame => .frame { frame with yielded := frame.yielded.push value }
    | other => other

/-! ## One step -/

/-- A bound of a slice that is read; it is nothing if it is left out. -/
def boundValue (self : Interpreter) (scope : Scope) : Option Expression → Step Value
  | none => return .none
  | some e => self.evaluate scope e

/-- One step of evaluation. -/
def step (self : Interpreter) (scope : Scope) (expression : Expression) : Step Value := do
  match expression with
  | .nothing => return .none
  | .truth b => return .bool b
  | .integer n => return .int n
  | .number x => return .number x
  | .imaginary x => return .complex ⟨0.0, x⟩
  | .text s => return .text s
  | .bytes content => return .bytes content
  | .ellipsis => return .ellipsis
  | .formatted parts => return .text (← formattedText self scope parts)
  | .name _ name => nameValue scope name
  | .attribute _ value name => do guardedAttribute (← self.evaluate scope value) name
  | .subscript value index => do
    let value ← self.evaluate scope value
    Subscript.read value (← self.evaluate scope index)
  | .slice start stop step => do
    let start ← boundValue self scope start
    let stop ← boundValue self scope stop
    return .slice start stop (← boundValue self scope step)
  | .call _ function given => callExpression self scope function given
  | .unary operator operand => do Arithmetic.unary operator (← self.evaluate scope operand)
  | .binary operator left right => do
    let left ← self.evaluate scope left
    Arithmetic.binary (collect self) operator false left (← self.evaluate scope right)
  | .conjunction operands => decisive self scope false operands
  | .disjunction operands => decisive self scope true operands
  | .comparison left rest => do compareChain self scope (← self.evaluate scope left) rest
  | .conditional test yes no => do
    if ← (← self.evaluate scope test).isTrue then self.evaluate scope yes
    else self.evaluate scope no
  | .lambda _ parameters body => lambdaValue self scope parameters body
  | .list items => do newList (← members self scope items)
  | .tuple items => return .tuple (← members self scope items)
  | .set items => setDisplay self scope items
  | .dictionary entries => do
    allocate (.dictionary (← dictionaryEntries self scope .empty [] entries))
  | .comprehension kind element clauses => comprehensionValue self scope kind element clauses
  | .dictionaryComprehension key value clauses =>
    dictionaryComprehensionValue self scope key value clauses
  | .assignment _ name value => do
    let value ← self.evaluate scope value
    Variable.writeOutside scope name value
    return value
  | .starred _ value => self.evaluate scope value
  | .yielded _ value => do
    yieldValue scope (← boundValue self scope value)
    return .none
  | .yieldedFrom _ value => do
    for element in ← collect self (← self.evaluate scope value) do
      yieldValue scope element
    return .none
  | .refused _ _ => return .none

end Evaluate

end Script
end PolicyStudio
