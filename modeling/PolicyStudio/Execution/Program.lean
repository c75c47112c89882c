import PolicyStudio.Script.Grammar.Compound
import PolicyStudio.Script.Placement
import PolicyStudio.Script.Restriction
import PolicyStudio.Text.Blank
import PolicyStudio.Text.Quoted

/-!
# Programs

The source of a program is the body of a function.  Its parameters are the names
under which it finds the values that it is run with.

A source passes four checks: it must be well formed, so must its parameters, it
must not say what programs may not say, and nothing may stand in the wrong place.
-/

namespace PolicyStudio

open Script

/-- The name of the function whose body a program is. -/
def programName : String := "program"

/-- Why a source is no program. -/
inductive ProgramFault where
  /-- The source holds the character that texts end with inside a machine. -/
  | nullCharacter
  | malformed (fault : SyntaxFault)
  | malformedParameters (fault : SyntaxFault)
  | refused (refusals : List Refusal)
  /-- A variable has a name that nothing can have. -/
  | unnamable (offence : Offence)
  | misplaced (found : Misplaced)

namespace ProgramFault

/-- The kind of error that a fault is. -/
def kind : ProgramFault → ErrorKind
  | .nullCharacter | .unnamable _ => .value
  | _ => .badSyntax

theorem isOwn_kind (fault : ProgramFault) : fault.kind.isOwn = true := by
  cases fault <;> rfl

/-- The report of a source that is not well formed. -/
def syntaxReport (fault : SyntaxFault) : String :=
  let statement := if fault.shown.isEmpty then "None" else Text.quoted (Text.strip fault.shown)
  "Line " ++ fault.line.repr ++ ": " ++ fault.kind.name ++ ": " ++ fault.message ++
    " at statement: " ++ statement

/-- A message with the place that it is about. -/
def located (message file : String) (line : Nat) : String :=
  message ++ " (" ++ file ++ ", line " ++ line.repr ++ ")"

/-- The wording of a fault. -/
def message : ProgramFault → String
  | .nullCharacter => "source code string cannot contain null bytes"
  | .malformed fault => syntaxReport fault
  | .malformedParameters fault => located fault.message "<func wrapper>" fault.line
  | .refused refusals => "; ".intercalate (refusals.map Refusal.message)
  | .unnamable offence => offence.message
  | .misplaced found => located found.cause.message "<program>" found.line

end ProgramFault

/-- A program that passed all checks. -/
structure CompiledProgram where
  parameters : Parameters
  body : Script.Program

namespace CompiledProgram

/-- How many parameters a program has. -/
def arity (program : CompiledProgram) : Nat :=
  program.parameters.all.length

end CompiledProgram

namespace Program

/-- Read a text, given how to word that it is not well formed. -/
def readText (text : String) (fault : SyntaxFault → ProgramFault) :
    Except ProgramFault Script.Program :=
  if text.toList.contains '\x00' then .error .nullCharacter
  else (readProgram text).mapError fault

/-- Read the parameters of a program. -/
def readParameters (names : List String) : Except ProgramFault Parameters := do
  let header := "def " ++ programName ++ "(" ++ ", ".intercalate names ++ "): pass"
  match ← readText header .malformedParameters with
  | .function _ _ _ parameters _ _ _ :: _ => return parameters
  | _ => return default

/-- What a program with these parameters must not say. -/
def refusals (parameters : Parameters) (body : Script.Program) : List Refusal :=
  Restriction.ofParameterNames 1 parameters ++ parameters.refusals ++ refusalsOfBody body

/-- Check a source as the body of a function with these parameters.  A last
statement keeps a source valid that has none. -/
def compile (source : String) (parameters : List String) :
    Except ProgramFault CompiledProgram := do
  let body ← readText (source ++ "\npass\n") .malformed
  let parameters ← readParameters parameters
  let (constants, others) := (refusals parameters body).partition Refusal.isConstant
  match others, constants, misplacement? parameters body with
  | [], [], none => return ⟨parameters, body⟩
  | [], [], some found => throw (.misplaced found)
  | [], constant :: _, _ => throw (.unnamable constant.offence)
  | _, _, _ => throw (.refused others)

end Program

end PolicyStudio
