import PolicyStudio.Script.Evaluate
import PolicyStudio.Script.Printing

/-!
# Execution

One step of the execution of statements.  A statement ends by going on, or by
leaving the loop or the function around it; an error leaves it too, up to the
handler that takes it.

Whatever happens in an attempt, its final part runs, and if that part leaves by
itself, what happened before is forgotten.
-/

namespace PolicyStudio
namespace Script

open Step

namespace Execute

/-! ## Errors -/

/-- What can be raised: an error, or a kind of errors, of which one is made. -/
def raisable (self : Interpreter) (refusal : String) (value : Value) : Step Value := do
  match ← value.class? with
  | some (.error _) => self.call value {}
  | _ => do
    match value with
    | .object address => do
      match ← load address with
      | .error .. => return value
      | _ => raise .type refusal
    | _ => raise .type refusal

/-- Raise an error, or the one that is being handled. -/
def raiseError (self : Interpreter) (scope : Scope) (error cause : Option Expression) :
    Step Flow := do
  match error with
  | none => match (← look).handling with
    | handled :: _ => halt (.raised handled)
    | [] => raise .runtime "No active exception to reraise"
  | some error => do
    let error ← self.evaluate scope error
    let cause ← match cause with
      | some e => do pure (some (← self.evaluate scope e))
      | none => pure none
    let error ← raisable self "exceptions must derive from BaseException" error
    match cause with
    | none | some .none => halt (.raised error)
    | some cause => do
      let _ ← raisable self "exception causes must derive from BaseException" cause
      halt (.raised error)

/-- The kinds of errors that a handler names. -/
def handledKinds (value : Value) : Step (List ErrorKind) := do
  let kindOf := fun (value : Value) => do
    match ← value.class? with
    | some (.error kind) => return kind
    | _ => raise .type "catching classes that do not inherit from BaseException is not allowed"
  match value with
  | .tuple items => items.mapM kindOf
  | _ => return [← kindOf value]

/-- The kind of an object as an error. -/
def kindOfObject : Object → ErrorKind
  | .error kind .. => kind
  | _ => .exception

/-- The kind of an error. -/
def kindOfError (error : Value) : Step ErrorKind := do
  match error with
  | .object address => return kindOfObject (← load address)
  | _ => return .exception

/-- Run the body of a handler; the name of the error is gone afterwards. -/
def runHandler (self : Interpreter) (scope : Scope) (error : Value) (name : Option String)
    (body : List Statement) : Step Flow :=
  whileHandling error do
    match name with
    | none => self.execute scope body
    | some name => do
      Variable.write scope name error
      let result ← attempt (self.execute scope body)
      Variable.clear scope name
      match result with
      | .ok flow => return flow
      | .error error => halt (.raised error)

/-- Handle an error by the first handler that takes it. -/
def handle (self : Interpreter) (scope : Scope) (error : Value) (kind : ErrorKind) :
    List Handler → Step Flow
  | [] => halt (.raised error)
  | .mk _ none name body :: _ => runHandler self scope error name body
  | .mk _ (some class') name body :: rest => do
    let kinds ← whileHandling error do handledKinds (← self.evaluate scope class')
    if kinds.any kind.isKindOf then runHandler self scope error name body
    else handle self scope error kind rest

/-- The body of an attempt with its handlers, and what follows if there was no
error. -/
def runAttempt (self : Interpreter) (scope : Scope) (body : List Statement)
    (handlers : List Handler) (alternative : List Statement) : Step Flow := do
  match ← attempt (self.execute scope body) with
  | .ok .next => self.execute scope alternative
  | .ok flow => return flow
  | .error error => do handle self scope error (← kindOfError error) handlers

/-- Run, and then the final part. -/
def finallyRun (self : Interpreter) (scope : Scope) (run : Step Flow) (final : List Statement) :
    Step Flow := do
  match ← attempt run with
  | .ok flow => match ← self.execute scope final with
    | .next => return flow
    | other => return other
  | .error error => match ← whileHandling error (self.execute scope final) with
    | .next => halt (.raised error)
    | other => return other

/-! ## Loops -/

/-- Go round as long as a test holds. -/
def loop (self : Interpreter) (scope : Scope) (test : Expression)
    (body alternative : List Statement) : Nat → Step Flow
  | 0 => halt .exhausted
  | rounds + 1 => do
    if !(← (← self.evaluate scope test).isTrue) then self.execute scope alternative
    else match ← self.execute scope body with
      | .broken => return .next
      | .returned value => return .returned value
      | .next | .continued => loop self scope test body alternative rounds

/-- Go through the elements of an iteration. -/
def iterate (self : Interpreter) (scope : Scope) (target : Expression) (iteration : Value)
    (body alternative : List Statement) : Nat → Step Flow
  | 0 => halt .exhausted
  | rounds + 1 => do
    match ← advance self iteration with
    | none => self.execute scope alternative
    | some value => do
      Target.assignApart self scope value target
      match ← self.execute scope body with
      | .broken => return .next
      | .returned value => return .returned value
      | .next | .continued => iterate self scope target iteration body alternative rounds

/-! ## Definitions -/

/-- Evaluate the hints at parameters, whose values are not kept. -/
def evaluateHints (self : Interpreter) (scope : Scope) : Parameters → Step Unit
  | .mk positionalOnly positional rest keywordOnly keywordRest _ _ => do
    let inOrder := positional ++ positionalOnly ++ rest.toList ++ keywordOnly ++ keywordRest.toList
    for parameter in inOrder do
      match parameter.hint with
      | some e => let _ ← self.evaluate scope e
      | none => pure ()

/-- The name is declared global by the code of the innermost frame. -/
def isDeclaredGlobal (scope : Scope) (name : String) : Step Bool := do
  match scope.frames with
  | [] => return false
  | frame :: _ => return (← Variable.frameAt frame).globals.contains name

/-- Define a function and give it to what decorates it, the last one first. -/
def defineFunction (self : Interpreter) (scope : Scope) (name : String) (parameters : Parameters)
    (body : List Statement) (decoration : List Expression) (result : Option Expression) :
    Step Unit := do
  let decorators ← decoration.mapM (self.evaluate scope)
  let defaults ← Evaluate.defaultValues self scope parameters
  evaluateHints self scope parameters
  if let some e := result then
    let _ ← self.evaluate scope e
  let bindings := bindingsOf body
  let path := if ← isDeclaredGlobal scope name then name else Evaluate.pathIn scope name
  let function ← allocate (.closure {
    name
    path
    signature := Evaluate.signatureOf parameters
    defaults
    body := .statements body
    locals := localNames parameters.names bindings
    globals := bindings.globals
    isGenerator := bindings.yields
    prints := definitionPrints parameters body decoration result
    scope })
  let function ← decorators.reverse.foldlM
    (fun function decorator => self.call decorator { positional := [function] }) function
  Variable.write scope name function

/-- Refuse to define a class, once its surroundings are evaluated. -/
def refuseClass (self : Interpreter) (scope : Scope) (bases : List Argument)
    (decorators : List Expression) : Step Unit := do
  let _ ← decorators.mapM (self.evaluate scope)
  let _ ← Evaluate.positionalArguments self scope bases
  let _ ← Evaluate.namedArguments self scope [] bases
  Variable.unknown "__metaclass__"

/-! ## One step -/

/-- The operators that may stand in an update. -/
def allowedUpdates : List BinaryOperator :=
  [.add, .subtract, .multiply, .divide, .floorDivide, .modulo, .bitOr, .bitAnd]

/-- Update a variable. -/
def updateVariable (self : Interpreter) (scope : Scope) (target : Expression)
    (operator : BinaryOperator) (value : Expression) : Step Unit := do
  match target with
  | .name _ name => do
    let before ← Evaluate.nameValue scope name
    let value ← self.evaluate scope value
    if !allowedUpdates.contains operator then
      let message := Value.text ("Operator '" ++ operator.signIn true ++ "' is not allowed")
      raiseDetailed .badSyntax [message] [("msg", message)]
    Variable.write scope name 
      (← Arithmetic.inPlace (collect self) (fun address value =>
        updateDictionary self address [value] []) operator before value)
  | _ => return ()

/-- Assign a value to targets.  If one of them is a tuple, the value is evaluated
anew for each target, the last one first. -/
def assign (self : Interpreter) (scope : Scope) (targets : List Expression) (value : Expression) :
    Step Unit := do
  if targets.any fun target => (Target.innerShape target).isSome then
    for target in targets.reverse do
      Target.assignApart self scope (← self.evaluate scope value) target
  else
    let value ← self.evaluate scope value
    for target in targets do
      Target.assign self scope value target

/-- Execute one statement. -/
def statement (self : Interpreter) (scope : Scope) (s : Statement) : Step Flow := do
  match s with
  | .expression value => do
    let _ ← self.evaluate scope value
    return .next
  | .assign targets value => do
    assign self scope targets value
    return .next
  | .update _ target operator value => do
    updateVariable self scope target operator value
    return .next
  | .delete targets => do
    Target.deleteAll self scope targets
    return .next
  | .pass | .global .. | .refused .. => return .next
  | .break _ => return .broken
  | .continue _ => return .continued
  | .return none => return .returned .none
  | .return (some value) => return .returned (← self.evaluate scope value)
  | .raise error cause => raiseError self scope error cause
  | .assert _ test message => do
    if ← (← self.evaluate scope test).isTrue then return .next
    match message with
    | none => raiseWith .assertion []
    | some message => raiseWith .assertion [← self.evaluate scope message]
  | .branch test body alternative => do
    if ← (← self.evaluate scope test).isTrue then self.execute scope body
    else self.execute scope alternative
  | .loop _ test body alternative => loop self scope test body alternative roundLimit
  | .iterate _ target iterable body alternative => do
    let iteration ← startIteration (← self.evaluate scope iterable)
    iterate self scope target iteration body alternative roundLimit
  | .attempt _ body handlers alternative final =>
    let run := runAttempt self scope body handlers alternative
    if final.isEmpty then run else finallyRun self scope run final
  | .function _ _ name parameters body decorators result => do
    defineFunction self scope name parameters body decorators result
    return .next
  | .classDefinition _ _ bases _ decorators => do
    refuseClass self scope bases decorators
    return .next
  | .importNames _ _ | .importFrom _ _ => do
    let message := Value.text "__import__ not found"
    raiseDetailed .importing [message] [("msg", message)]
  | .scoped _ items _ => do
    match items with
    | [] => return .next
    | (e, _) :: _ => do
      let value ← self.evaluate scope e
      raise .type ("'" ++ (← value.typeName) ++
        "' object does not support the context manager protocol")

/-- One step of execution: statements up to the first that leaves. -/
def step (self : Interpreter) (scope : Scope) : List Statement → Step Flow
  | [] => return .next
  | s :: rest => do
    match ← statement self scope s with
    | .next => step self scope rest
    | flow => return flow

end Execute

/-- The interpreter for computations that are nested at most so deep. -/
def interpreter : Nat → Interpreter
  | 0 =>
    { evaluate := fun _ _ => halt .exhausted
      execute := fun _ _ => halt .exhausted
      call := fun _ _ => halt .exhausted
      resume := fun _ => halt .exhausted
      yields := fun _ _ => halt .exhausted }
  | depth + 1 =>
    { evaluate := fun scope e => Evaluate.step (interpreter depth) scope e
      execute := fun scope body => Execute.step (interpreter depth) scope body
      call := fun function given => callValue (interpreter depth) function given
      resume := fun state => Evaluate.nextElement (interpreter depth) roundLimit state
      yields := fun function frame => yieldsOf (interpreter depth) function frame }

/-- How deep the computations of a program may be nested, which is deeper than
the limit on calls lets any program get. -/
def computationLimit : Nat := 1000000000

/-- The interpreter that runs programs. -/
def programInterpreter : Interpreter :=
  interpreter computationLimit

end Script
end PolicyStudio
