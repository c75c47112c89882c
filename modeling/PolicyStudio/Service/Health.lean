import PolicyStudio.Execution.Result
import PolicyStudio.Registry

/-!
# Health

The playground is alive as long as it answers.  It is ready if its registry holds
something and a small program succeeds; the second is asked only if the first
holds.
-/

namespace PolicyStudio
namespace Service
namespace Health

variable {ε : Type}

/-- A way to run programs with a registry. -/
abbrev Trial (ε : Type) := String → Registry → Except ε ExecutionResult

/-- The program that is tried. -/
def probeProgram : String := "return 'ok'"

/-- The registry can be made and holds something. -/
def registryReady : Except ε Registry → Bool
  | .ok registry => decide (0 < registry.size)
  | .error _ => false

/-- The small program succeeds. -/
def sandboxReady (registry : Except ε Registry) (trial : Trial ε) : Except ε Bool := do
  return (← trial probeProgram (← registry)).isSuccess

/-- What keeps the playground from being ready. -/
def readiness (registry : Except ε Registry) (trial : Trial ε) : Except ε (List String) := do
  if !registryReady registry then return ["registry"]
  if ← sandboxReady registry trial then return []
  return ["sandbox"]

/-- What keeps the playground from being alive: nothing that could be told. -/
def liveness : List String := []

end Health
end Service
end PolicyStudio
