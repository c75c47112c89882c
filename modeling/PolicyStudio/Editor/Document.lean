import PolicyStudio.Files.Path

/-!
# Documents

An editor knows documents by address.  A document that is to become a file has an
address that names a place below a directory of the editor's choice: it starts as
file addresses do, and what follows is a path with a name that never goes up.
-/

namespace PolicyStudio
namespace Editor

open Files

/-- Why an address names no place for a document. -/
inductive DocumentFault where
  /-- The address does not start as file addresses do. -/
  | foreign (address : String)
  | unusable (address : String)
deriving Repr, DecidableEq

/-- How file addresses start. -/
def fileScheme : String := "file:///"

/-- The wording of a fault. -/
def DocumentFault.message : DocumentFault → String
  | .foreign address =>
    "Only " ++ fileScheme ++ " URIs are supported, got " ++ Text.quoted address
  | .unusable address => "Invalid document URI: " ++ Text.quoted address

/-- The part of a file address that names the place. -/
def placeText? (address : String) : Option String :=
  if address.startsWith fileScheme then
    some (String.ofList (address.toList.drop fileScheme.length))
  else none

/-- A path that can be the place of a document: there is something in it, and it
does not go up. -/
def isPlace (path : Path) : Bool :=
  (path.isAbsolute || !path.names.isEmpty) && !path.names.contains Path.up

/-- The place that an address names. -/
def placeOf (address : String) : Except DocumentFault Path :=
  match placeText? address with
  | none => .error (.foreign address)
  | some text =>
    if isPlace (.read text) then .ok (.read text) else .error (.unusable address)

/-! ## The documents of the playground -/

/-- The address of the declarations of the policy language. -/
def typesAddress : String := "file:///typings/rls_playground/dsl.pyi"

/-- The address of the declarations of the names that programs know. -/
def globalsAddress : String := "file:///__builtins__.pyi"

/-- The address of the program. -/
def snippetAddress : String := "file:///snippet.py"

end Editor
end PolicyStudio
