import PolicyStudio.Execution.Program
import PolicyStudio.Execution.Result
import PolicyStudio.Registry
import PolicyStudio.Script.Execute

/-!
# Running programs

A program is run once, as a call of the function whose body it is, with the values
of a registry as arguments.  A text that it returns is its result; anything else,
and any error that it does not handle, is a failure.  One kind of error is passed
on, because it is meant for the host.

Variables do not outlive a run, but the values of the registry do, with whatever
the run did to them.
-/

namespace PolicyStudio

open Script

namespace Execution

/-- The time limit in force: one of its own comes before the one that is set for
all runs, and a limit that is not positive is none. -/
def effectiveLimit (own setting : Option Int) : Option Int :=
  (own <|> setting).filter fun limit => decide (0 < limit)

/-- Make the function whose body a program is, in surroundings of its own. -/
def load (program : CompiledProgram) : Step Value := do
  let bindings := bindingsOf program.body
  let surroundings ← Step.allocate (.frame ⟨.global, [], [], [], "", #[], false⟩)
  match surroundings with
  | .object address => do
    let scope : Scope := ⟨[address], ""⟩
    let defaults ← Evaluate.defaultValues programInterpreter scope program.parameters
    Execute.evaluateHints programInterpreter scope program.parameters
    let function ← Step.allocate (.closure {
      name := programName
      path := programName
      signature := Evaluate.signatureOf program.parameters
      defaults
      body := .statements program.body
      locals := localNames program.parameters.names bindings
      globals := bindings.globals
      isGenerator := bindings.yields
      prints := definitionPrints program.parameters program.body [] none
      scope })
    Variable.write scope programName function
    return function
  | _ => return .none

/-- What a program returns when it is called with the values of a registry. -/
def invoke (limit : Option Int) (source : String) (registry : Registry) : Step Value := do
  match Program.compile source registry.names with
  | .error fault =>
    let message := Value.text fault.message
    Step.raiseDetailed fault.kind [message] [("msg", message)] fault.isOwn_kind
  | .ok program => do
    let function ← load program
    Step.underLimit limit
      (programInterpreter.call function { positional := registry.values })

/-- The text of an error without blanks around it, or nothing if it has none. -/
def errorText (error : Value) : Step String := do
  match ← Step.attempt error.plainText with
  | .ok text => return Text.strip text
  | .error _ => return ""

/-- The result for what a program returns: programs are to return a text. -/
def resultOf : Value → ExecutionResult
  | .text text => .success text
  | _ => .failed ExecutionResult.contractMessage

/-- Run a program and report how it ended. -/
def run (limit : Option Int) (source : String) (registry : Registry) : Step ExecutionResult := do
  match ← Step.attempt (invoke limit source registry) with
  | .ok value => return resultOf value
  | .error error => do
    if (← Execute.kindOfError error).isKindOf .keyboardInterrupt then Step.halt (.raised error)
    return .failed (← errorText error)

/-- Why a run has no result. -/
inductive Interruption where
  /-- An error that is meant for the host. -/
  | raised (kind : ErrorKind) (message : String)
  /-- The run takes more steps than are counted. -/
  | unfinished
deriving Repr, DecidableEq

/-- How a program ends that is run on its own. -/
def runAlone (limit : Option Int) (source : String) (registry : Registry) :
    Except Interruption ExecutionResult :=
  match (run limit source registry).run Machine.initial with
  | .ok result _ => .ok result
  | .error (.raised error) machine =>
    let described : Step (ErrorKind × String) := do
      return (← Execute.kindOfError error, ← error.plainText)
    match described.run machine with
    | .ok (kind, message) _ => .error (.raised kind message)
    | .error .. => .error .unfinished
  | .error .exhausted _ => .error .unfinished

end Execution

end PolicyStudio
