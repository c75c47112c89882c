import PolicyStudio.Script.Methods

/-!
# Making errors

An error keeps the arguments that it is made from.  Some kinds also make details
of them, which can be read by name and which their texts show: the place of a
fault in a program, the number and the files of a failure of the machine, the
characters that could not be written.
-/

namespace PolicyStudio
namespace Script

open Step

namespace Failure

/-- An error that a program is to make. -/
structure Draft where
  kind : ErrorKind
  own : kind.isOwn = true
  arguments : List Value
  details : List (String × Value) := []

/-! ## Details by name -/

/-- The kind whose rule for named arguments a kind follows, with the names. -/
def namedDetails? (kind : ErrorKind) : Option (String × List String) :=
  if kind.isKindOf .importing then some ("ImportError", ["name", "path"])
  else if kind.isKindOf .unknownName then some ("NameError", ["name"])
  else if kind.isKindOf .attribute then some ("AttributeError", ["name", "obj"])
  else none

/-- Take named arguments as details; those that are not given are nothing. -/
def takeNamed (owner : String) (names : List String) (named : List (String × Value)) :
    Step (List (String × Value)) := do
  if names.length < named.length then
    raise .type (owner ++ "() takes at most " ++ names.length.repr ++ " keyword argument" ++
      Signature.plural names.length ++ " (" ++ named.length.repr ++ " given)")
  if let some (other, _) := named.find? fun entry => !names.contains entry.1 then
    raise .type ("'" ++ other ++ "' is an invalid keyword argument for " ++ owner ++ "()")
  return names.map fun name => (name, (named.lookup name).getD .none)

/-! ## Failures of the machine -/

/-- The kind of a failure with a number. -/
def kindOfNumber? (n : Int) : Option ErrorKind :=
  match n with
  | 1 | 13 => some .permission
  | 2 => some .fileNotFound
  | 3 => some .processLookup
  | 4 => some .interrupted
  | 10 => some .childProcess
  | 11 | 114 | 115 => some .blockingInput
  | 17 => some .fileExists
  | 20 => some .notDirectory
  | 21 => some .isDirectory
  | 32 | 108 => some .brokenPipe
  | 103 => some .connectionAborted
  | 104 => some .connectionReset
  | 110 => some .timeout
  | 111 => some .connectionRefused
  | _ => none

/-- The kind of a failure whose kind is left open. -/
def kindOfFailure (kind : ErrorKind) (number : Value) : ErrorKind :=
  match kind, Subscript.position? number with
  | .os, some n => (kindOfNumber? n).getD .os
  | _, _ => kind

theorem isOwn_kindOfFailure {kind : ErrorKind} (own : kind.isOwn = true) (number : Value) :
    (kindOfFailure kind number).isOwn = true := by
  unfold kindOfFailure
  split
  · unfold kindOfNumber?
    split <;> rfl
  · exact own

/-- The value is given and is not nothing. -/
def isGiven : Value → Bool
  | .none => false
  | _ => true

/-- A failure of the machine: a number and a text, perhaps with one file or two.
Files are no arguments. -/
def draftOs (kind : ErrorKind) (own : kind.isOwn = true) (arguments : List Value) :
    Draft :=
  match arguments with
  | number :: text :: rest =>
    if 3 < rest.length then { kind, own, arguments }
    else
      let own := isOwn_kindOfFailure own number
      let kind := kindOfFailure kind number
      let basic := [("errno", number), ("strerror", text)]
      let file := rest.head?.getD .none
      if !isGiven file || (kind = .blockingInput && file.number?.isSome) then
        ⟨kind, own, arguments, basic⟩
      else
        let other := rest[2]?.getD .none
        ⟨kind, own, [number, text], basic ++ [("filename", file)] ++
          (if isGiven other then [("filename2", other)] else [])⟩
  | _ => { kind, own, arguments }

/-! ## Faults of programs -/

/-- The names of the members that describe the place of a fault. -/
def placeNames : List String :=
  ["filename", "lineno", "offset", "text", "end_lineno", "end_offset"]

/-- The fault of a program: a message, and perhaps its place. -/
def draftSyntax (self : Interpreter) (kind : ErrorKind) (own : kind.isOwn = true)
    (arguments : List Value) : Step Draft := do
  let message := arguments.head?.toList.map fun value => ("msg", value)
  match arguments with
  | [_, place] => do
    if !(← isIterable place) then notIterable place
    let members ← collect self place
    let refuse := fun (bound : String) => do
      raise .type ("function takes " ++ bound ++ " arguments (" ++ members.length.repr ++ " given)")
    if members.length < 4 then refuse "at least 4"
    if 6 < members.length then refuse "at most 6"
    if members.length = 5 then
      raise .type "end_offset must be provided when end_lineno is provided"
    return ⟨kind, own, arguments, message ++ placeNames.zip members⟩
  | _ => return ⟨kind, own, arguments, message⟩

/-! ## Texts that cannot be coded -/

/-- An argument that must be a text. -/
def requireText (position : Nat) (value : Value) : Step Unit := do
  match value with
  | .text _ => return ()
  | _ => raise .type ("argument " ++ position.repr ++ " must be str, not " ++ (← value.typeName))

/-- The failure to write, to read or to translate a text: what was to be coded,
the part that could not be, and the reason. -/
def draftUnicode (kind : ErrorKind) (own : kind.isOwn = true) (arguments : List Value) :
    Step Draft := do
  let count := if kind = .unicodeTranslate then 4 else 5
  if arguments.length ≠ count then
    raise .type ("function takes exactly " ++ count.repr ++ " arguments (" ++
      arguments.length.repr ++ " given)")
  let hasEncoding := kind != .unicodeTranslate
  let first := if hasEncoding then 2 else 1
  let inner := if hasEncoding then arguments.drop 1 else arguments
  match arguments, inner with
  | encoding :: _, [object, start, stop, reason] => do
    if hasEncoding then requireText 1 encoding
    if kind != .unicodeDecode then requireText first object
    let start ← sizeOf start
    let stop ← sizeOf stop
    requireText (first + 3) reason
    if kind = .unicodeDecode then
      match object with
      | .bytes _ => pure ()
      | _ => raise .type ("a bytes-like object is required, not '" ++ (← object.typeName) ++ "'")
    return ⟨kind, own, arguments, (if hasEncoding then [("encoding", encoding)] else []) ++
      [("object", object), ("start", .int start), ("end", .int stop), ("reason", reason)]⟩
  | _, _ => return { kind, own, arguments }

/-! ## All kinds -/

/-- The details of an error that stands for a value. -/
def valueDetail (name : String) (arguments : List Value) : List (String × Value) :=
  match arguments with
  | [] => [(name, .none)]
  | [value] => [(name, value)]
  | first :: _ => [(name, if name = "value" then first else .tuple arguments)]

/-- Refuse named arguments. -/
def refuseNamed (kind : ErrorKind) (given : Arguments Value) : Step Unit := do
  if !given.named.isEmpty then raise .type (kind.name ++ "() takes no keyword arguments")

/-- What an error of a kind is, made from arguments. -/
def draft (self : Interpreter) (kind : ErrorKind) (own : kind.isOwn = true)
    (given : Arguments Value) : Step Draft := do
  let arguments := given.positional
  match namedDetails? kind with
  | some (owner, names) => do
    let details ← takeNamed owner names given.named
    let message := match kind.isKindOf .importing, arguments with
      | true, [message] => [("msg", message)]
      | _, _ => []
    return ⟨kind, own, arguments, message ++ details⟩
  | none => do
    refuseNamed kind given
    if kind.isKindOf .os then return draftOs kind own arguments
    if kind.isKindOf .badSyntax then return ← draftSyntax self kind own arguments
    match kind with
    | .unicodeDecode | .unicodeEncode | .unicodeTranslate => draftUnicode kind own arguments
    | .stopIteration => return ⟨kind, own, arguments, valueDetail "value" arguments⟩
    | .systemExit => return ⟨kind, own, arguments, valueDetail "code" arguments⟩
    | _ => return { kind, own, arguments }

/-- Make an error of the program. -/
def makeOwn (self : Interpreter) (kind : ErrorKind) (own : kind.isOwn = true)
    (given : Arguments Value) : Step Value := do
  let made ← draft self kind own given
  allocate (.error made.kind made.arguments made.details)
    (Object.isMade_error made.own made.arguments made.details)

/-- Make an error that is meant for the host. -/
def makeInterrupt (given : Arguments Value) : Run Value := do
  refuseNamed .keyboardInterrupt given
  Run.allocate (.error .keyboardInterrupt given.positional [])

/-- Programs make such an error if the host gave away its class. -/
theorem leadsTo_makeInterrupt (given : Arguments Value) {machine : Machine}
    (known : machine.KnowsInterrupts) :
    machine.LeadsTo ((makeInterrupt given).stateAfter machine) :=
  Run.leadsTo_bind ((refuseNamed .keyboardInterrupt given).leads machine)
    fun _ _ first => first.push rfl fun _ => .inl known

/-- Make an error. -/
def make (self : Interpreter) (kind : ErrorKind) (given : Arguments Value) : Run Value :=
  if own : kind.isOwn = true then (makeOwn self kind own given).run
  else makeInterrupt given

/-- Details that an error of a kind has, though it was made without them. -/
def standardDetails (kind : ErrorKind) : List String :=
  if kind.isKindOf .os then ["errno", "strerror", "filename", "filename2"]
  else if kind.isKindOf .badSyntax then "msg" :: "print_file_and_line" :: placeNames
  else if kind.isKindOf .importing then ["msg", "name", "path"]
  else if kind.isKindOf .unknownName then ["name"]
  else if kind.isKindOf .attribute then ["name", "obj"]
  else if kind.isKindOf .stopIteration then ["value"]
  else []

/-- What stands under a name in an error. -/
def attribute? (kind : ErrorKind) (arguments : List Value) (details : List (String × Value))
    (name : String) : Option Value :=
  if name = "args" then some (.tuple arguments)
  else match details.lookup name with
    | some value => some value
    | none => if (standardDetails kind).contains name then some .none else none

end Failure

end Script
end PolicyStudio
