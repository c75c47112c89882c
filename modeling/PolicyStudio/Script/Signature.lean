/-!
# Parameters and arguments

Binding the arguments of a call to the parameters of a function is the same work
for functions of a program and for those of the library.  The result names a
value for every parameter; a fault carries its full wording, because the wording
counts and lists.

Faults are looked for in a fixed order: named arguments first, then too many
positional arguments, then missing ones.
-/

namespace PolicyStudio
namespace Script

/-- The parameters of a function by name. -/
structure Signature where
  positional : List String := []
  /-- How many of the positional parameters cannot be given by name. -/
  positionalOnly : Nat := 0
  rest : Option String := none
  keywordOnly : List String := []
  keywordRest : Option String := none
deriving Repr, DecidableEq

/-- The arguments of a call. -/
structure Arguments (α : Type) where
  positional : List α := []
  named : List (String × α) := []

/-- A parameter with what it stands for. -/
inductive Bound (α : Type) where
  | one (value : α)
  | many (values : List α)
  | table (entries : List (String × α))

namespace Signature

/-- `"s"` unless the count is one. -/
def plural (count : Nat) : String :=
  if count = 1 then "" else "s"

/-- Names in a sentence: `'a'`, `'a' and 'b'`, `'a', 'b', and 'c'`. -/
def listed (names : List String) : String :=
  let shown := names.map fun name => "'" ++ name ++ "'"
  match shown with
  | [] => ""
  | [one] => one
  | [one, two] => one ++ " and " ++ two
  | _ => ", ".intercalate shown.dropLast ++ ", and " ++ shown.getLastD ""

/-- Parameters without an argument. -/
def missingMessage (function kind : String) (names : List String) : String :=
  function ++ "() missing " ++ names.length.repr ++ " required " ++ kind ++ " argument" ++
    plural names.length ++ ": " ++ listed names

/-- More positional arguments than parameters. -/
def tooManyMessage (function : String) (parameters defaults given keywordGiven : Nat) : String :=
  let (sig, many) :=
    if defaults = 0 then (parameters.repr, decide (parameters ≠ 1))
    else ("from " ++ (parameters - defaults).repr ++ " to " ++ parameters.repr, true)
  let keywords :=
    if keywordGiven = 0 then ""
    else " positional argument" ++ plural given ++ " (and " ++ keywordGiven.repr ++
      " keyword-only argument" ++ plural keywordGiven ++ ")"
  let verb := if given = 1 ∧ keywordGiven = 0 then "was" else "were"
  function ++ "() takes " ++ sig ++ " positional argument" ++ (if many then "s" else "") ++
    " but " ++ given.repr ++ keywords ++ " " ++ verb ++ " given"

/-- Where the named arguments go: to parameters, or to the rest. -/
structure NamedState (α : Type) where
  taken : List (String × α)
  others : List (String × α)

/-- Place one named argument. -/
def placeNamed {α : Type} (s : Signature) (function : String) (unplacedOnly : List String)
    (state : NamedState α) (argument : String × α) : Except String (NamedState α) :=
  let (name, value) := argument
  let byName := s.positional.drop s.positionalOnly ++ s.keywordOnly
  if byName.contains name then
    if state.taken.any (fun entry => entry.1 == name) then
      .error (function ++ "() got multiple values for argument '" ++ name ++ "'")
    else .ok { state with taken := state.taken ++ [(name, value)] }
  else if s.keywordRest.isSome then .ok { state with others := state.others ++ [(name, value)] }
  else if unplacedOnly.isEmpty then
    .error (function ++ "() got an unexpected keyword argument '" ++ name ++ "'")
  else
    .error (function ++ "() got some positional-only arguments passed as keyword arguments: '" ++
      ", ".intercalate unplacedOnly ++ "'")

/-- Bind arguments.  `defaults` gives the values of parameters that may be left
out. -/
def bind {α : Type} (s : Signature) (function : String) (defaults : List (String × α))
    (arguments : Arguments α) : Except String (List (String × Bound α)) := do
  let given := arguments.positional.length
  let direct := s.positional.zip arguments.positional
  let blocked := (s.positional.take s.positionalOnly).filter fun name =>
    arguments.named.any fun entry => entry.1 == name
  let state ← arguments.named.foldlM (placeNamed s function blocked) ⟨direct, []⟩
  let isTaken := fun name => state.taken.any fun entry => entry.1 == name
  if s.rest.isNone ∧ s.positional.length < given then
    let keywordGiven := (s.keywordOnly.filter isTaken).length
    let optional := (s.positional.filter fun name => (defaults.lookup name).isSome).length
    throw (tooManyMessage function s.positional.length optional given keywordGiven)
  let isMissing := fun name => !isTaken name && (defaults.lookup name).isNone
  let missing := s.positional.filter isMissing
  if !missing.isEmpty then throw (missingMessage function "positional" missing)
  let missing := s.keywordOnly.filter isMissing
  if !missing.isEmpty then throw (missingMessage function "keyword-only" missing)
  let value := fun name => (state.taken.lookup name <|> defaults.lookup name).map fun v =>
    (name, Bound.one v)
  let rest := s.rest.toList.map fun name =>
    (name, Bound.many (arguments.positional.drop s.positional.length))
  let others := s.keywordRest.toList.map fun name => (name, Bound.table state.others)
  return (s.positional ++ s.keywordOnly).filterMap value ++ rest ++ others

end Signature

end Script
end PolicyStudio
