import PolicyStudio.Proofs.Execution.Outcome

/-!
# The time limit

A program cannot change the time limit that is in force while it is called.  When the
limit runs out, an error arises inside the call that names the limit, and a run whose
call ends in this error reports it.  It is an error like any other, though: a program
that handles it goes on.
-/

namespace PolicyStudio

open Script

namespace Execution

variable {limit : Int} {source : String} {registry : Registry} {before after : Machine}

/-- The names of a binding in whose call the limit runs out, and of a text. -/
def slowAndNote : Registry where
  entries := [("slow", .object 3), ("note", .text "swallowed")]
  usable := by decide +kernel
  distinct := by decide +kernel

/-- The state in which nothing has run. -/
def slowStart : Machine :=
  { Machine.initial with heap := Machine.initial.heap.push (.host "slow" .expire) }

end Execution
end PolicyStudio
