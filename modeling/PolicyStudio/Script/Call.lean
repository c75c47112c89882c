import PolicyStudio.Script.Builtins
import PolicyStudio.Script.Describe
import PolicyStudio.Script.Scoping
import PolicyStudio.Script.Variable

/-!
# Calls

Everything that can be called: functions of a program, bindings of the host,
classes, functions of the library, methods, and the printing function that every
call of a function has for itself.

Calls of functions of a program may be nested to a depth; beyond it the program
gets an error that it can handle.
-/

namespace PolicyStudio
namespace Script

open Step

/-- How deep calls of functions of a program may be nested. -/
def callLimit : Nat := 990

/-! ## Functions of a program -/

/-- What a parameter stands for, as a value. -/
def Bound.toValue : Bound Value → Step Value
  | .one value => return value
  | .many values => return .tuple values
  | .table entries =>
    allocate (.dictionary (.ofList (entries.map fun entry => (.text entry.1, entry.2))))

/-- The frame of a call, with the parameters as its first variables. -/
def openFrame (closure : Closure) (given : Arguments Value) : Step Address := do
  let bound ← ofBound (closure.signature.bind closure.path closure.defaults given)
  let entries ← bound.mapM fun entry => return (entry.1, ← entry.2.toValue)
  let kind := match closure.body with
    | .statements _ => FrameKind.function
    | .expression _ => .lambda
  match ← allocate (.frame ⟨kind, closure.locals, closure.globals, entries, "", #[],
      closure.prints⟩) with
  | .object address => return address
  | _ => return 0

/-- The scope of the code of a function, given the frame of the call. -/
def Closure.inside (closure : Closure) (frame : Address) : Scope :=
  ⟨frame :: closure.scope.frames, closure.path ++ ".<locals>"⟩

/-- Run the code of a function. -/
def runBody (self : Interpreter) (closure : Closure) (frame : Address) : Step Value := do
  let scope := closure.inside frame
  match closure.body with
  | .expression body => self.evaluate scope body
  | .statements body => match ← self.execute scope body with
    | .returned value => return value
    | _ => return .none

/-- Run code one call deeper. -/
def nested {α : Type} (run : Step α) : Step α := do
  if callLimit ≤ (← look).depth then raise .recursion "maximum recursion depth exceeded"
  deeper run

/-- Call a function of a program.  One that yields elements does not start yet. -/
def callClosure (self : Interpreter) (function : Address) (closure : Closure)
    (given : Arguments Value) : Step Value := do
  let frame ← openFrame closure given
  if closure.isGenerator then allocate (.iteration (.suspended function frame))
  else nested (runBody self closure frame)

/-- All elements that a function yields. -/
def yieldsOf (self : Interpreter) (function frame : Address) : Step (List Value) := do
  match ← load function with
  | .closure closure => do
    let _ ← nested (runBody self closure frame)
    return (← Variable.frameAt frame).yielded.toList
  | _ => return []

/-! ## Bindings of the host -/

/-- Arguments as they are reported. -/
def describeArguments (given : Arguments Value) : Step (Arguments Description) := do
  let positional ← given.positional.mapM describe
  let named ← given.named.mapM fun entry => return (entry.1, ← describe entry.2)
  return { positional, named }

/-- Record a call. -/
def record (call : HostCall) : Run Unit :=
  modify fun machine => { machine with calls := machine.calls.push call }

/-- What runs out when the time limit does, in seconds. -/
def expiryMessage (limit : Int) : String :=
  "Script execution timed out after " ++ Decimal.intText limit ++ "s"

/-- What a binding of the host does. -/
def perform (self : Interpreter) (name : String) (action : HostAction) : Run Value := do
  match action with
  | .answer value => return value
  | .count => do
    let calls := (← get).calls.filter fun call => call.name == name
    return .text calls.size.repr
  | .raise kind arguments => throw (.raised (← Failure.make self kind { positional := arguments }))
  | .expire => do
    match (← get).limit with
    | some limit => raise .scriptTimeout (expiryMessage limit)
    | none => return .none

/-- Call a binding of the host, given where it stands. -/
def callHost (self : Interpreter) (binding : Address) (name : String) (action : HostAction)
    (given : Arguments Value) : Run Value := do
  let described ← describeArguments given
  record ⟨binding, name, described.positional, described.named⟩
  perform self name action

/-- What a binding does is what programs can do, if its call is reason enough for an
error that is meant for the host. -/
theorem leadsTo_perform (self : Interpreter) (name : String) {action : HostAction}
    {before after : Machine} (leads : before.LeadsTo after)
    (called : ∀ arguments, action = .raise .keyboardInterrupt arguments →
      after.InterruptedSince before) :
    before.LeadsTo ((perform self name action).stateAfter after) := by
  cases action with
  | answer value => exact leads
  | count => exact leads
  | raise kind arguments =>
    refine Run.leadsTo_bind ?_ fun _ _ made => made
    by_cases own : kind.isOwn = true
    · rw [Failure.make, dif_pos own]
      exact leads.trans ((Failure.makeOwn self kind own _).leads after)
    · cases ErrorKind.eq_keyboardInterrupt_of_not_isOwn own
      exact leads.push rfl fun _ => .inr (called arguments rfl)
  | expire =>
    refine Run.leadsTo_bind leads fun (machine : Machine) after leads => ?_
    cases machine.limit with
    | none => exact leads
    | some limit => exact leads.trans ((raise .scriptTimeout (expiryMessage limit)).leads after)

/-- A call of a binding of the host does what programs can do. -/
theorem leadsTo_callHost (self : Interpreter) {binding : Address} {name : String}
    {action : HostAction} (given : Arguments Value) {machine : Machine}
    (there : machine.Holds binding (.host name action)) :
    machine.LeadsTo ((callHost self binding name action given).stateAfter machine) := by
  refine Run.leadsTo_bind ((describeArguments given).leads machine) fun described after leads => ?_
  let call : HostCall := ⟨binding, name, described.positional, described.named⟩
  refine leadsTo_perform self name (leads.record call) fun arguments interrupting => ?_
  have still : after.Holds binding (.host name action) := leads.fixed binding _ rfl there
  exact ⟨call, leads.mem_drop_record call, name, arguments, interrupting ▸ still⟩

/-! ## Printing -/

/-- Add to what was printed during a call. -/
def printText (frame : Address) (text : String) : Step Unit :=
  update frame fun object => match object with
    | .frame frame => .frame { frame with printed := frame.printed ++ text }
    | other => other

/-- A text that is put between or behind printed values. -/
def printMark (name standard : String) (given : Option Value) : Step String := do
  match given with
  | none | some .none => return standard
  | some (.text s) => return s
  | some other =>
    raise .type (name ++ " must be None or a string, not " ++ (← other.typeName))

/-- Print values, one after the other. -/
def printAll (frame : Address) (separator : String) : List Value → Step Unit
  | [] => return ()
  | [value] => do printText frame (← value.plainText)
  | value :: rest => do
    printText frame (← value.plainText)
    printText frame separator
    printAll frame separator rest

/-- The value is given and is not nothing. -/
def isGiven : Option Value → Bool
  | none | some .none => false
  | some _ => true

/-- Print for the function call to which a frame belongs. -/
def print (frame : Address) (given : Arguments Value) : Step Value := do
  let known := ["sep", "end", "file", "flush"]
  if let some (name, _) := given.named.find? fun entry => !known.contains entry.1 then
    raise .type ("'" ++ name ++ "' is an invalid keyword argument for print()")
  let flush ← match given.named.lookup "flush" with
    | some value => value.isTrue
    | none => pure false
  let separator ← printMark "sep" " " (given.named.lookup "sep")
  let ending ← printMark "end" "\n" (given.named.lookup "end")
  let file := given.named.lookup "file"
  if isGiven file then
    missingAttribute (file.getD .none) "write"
  printAll frame separator given.positional
  printText frame ending
  if flush then raise .attribute "'PrintCollector' object has no attribute 'flush'"
  return .none

/-! ## Anything -/

/-- Refuse to call a value. -/
def notCallable {α : Type} (value : Value) : Step α := do
  raise .type ("'" ++ (← value.typeName) ++ "' object is not callable")

/-- Call an object, given where it stands. -/
def callLoaded (self : Interpreter) (address : Address) (given : Arguments Value) :
    Object → Run Value
  | .closure closure => callClosure self address closure given
  | .host name action => callHost self address name action given
  | .interruptClass => Failure.makeInterrupt given
  | _ => notCallable (.object address)

theorem leadsTo_callLoaded (self : Interpreter) (given : Arguments Value) {machine : Machine}
    {address : Address} {object : Object}
    (there : object.isGiven = true → machine.Holds address object) :
    machine.LeadsTo ((callLoaded self address given object).stateAfter machine) := by
  cases object with
  | closure closure => exact (callClosure self address closure given).leads machine
  | host name action => exact leadsTo_callHost self given (there rfl)
  | interruptClass => exact Failure.leadsTo_makeInterrupt given ⟨address, there rfl⟩
  | _ => exact (notCallable (.object address)).leads machine

/-- Call an object. -/
def callObject (self : Interpreter) (address : Address) (given : Arguments Value) : Step Value where
  run := do callLoaded self address given (← load address)
  leads machine := by
    refine leadsTo_callLoaded self given fun isGiven => ?_
    cases there : machine.heap[address]? with
    | none =>
      rw [there] at isGiven
      cases isGiven
    | some object => exact there

/-- Call a value. -/
def callValue (self : Interpreter) (function : Value) (given : Arguments Value) : Step Value := do
  match function with
  | .object address => callObject self address given
  | .classValue c named => construct self c named given
  | .builtin f => callBuiltin self f given
  | .policyFunction f => PolicyCall.callFunction f given
  | .method receiver name => callMethod self receiver name given
  | .printer frame => print frame given
  | _ => notCallable function

end Script
end PolicyStudio
