import PolicyStudio.Json.Basic

/-!
# Results

A run ends with a text, or it fails with a message.  A message always says
something.
-/

namespace PolicyStudio

/-- How a run ended. -/
inductive ExecutionResult where
  | success (text : String)
  | failure (message : String) (worded : message ≠ "")
deriving Repr, DecidableEq

namespace ExecutionResult

/-- A failure with a message, if there is a wording. -/
def failure? (message : String) : Option ExecutionResult :=
  if worded : message ≠ "" then some (.failure message worded) else none

/-- The message for a run that ends without a text. -/
def contractMessage : String := "Code must return a string (use policy.toSQL())"

/-- The message for an error without a wording. -/
def fallbackMessage : String := "An error occurred"

/-- The failure with a message; one without a wording is replaced. -/
def failed (message : String) : ExecutionResult :=
  if worded : message ≠ "" then .failure message worded
  else .failure fallbackMessage (by decide)

/-- The run ended with a text. -/
def isSuccess : ExecutionResult → Bool
  | .success _ => true
  | .failure .. => false

/-- The text of a run that ended with one. -/
def text? : ExecutionResult → Option String
  | .success text => some text
  | .failure .. => none

/-- A result as it is handed on. -/
def json : ExecutionResult → Json
  | .success text => .object [("kind", .text "success"), ("text", .text text)]
  | .failure message _ => .object [("kind", .text "failure"), ("message", .text message)]

end ExecutionResult

end PolicyStudio
