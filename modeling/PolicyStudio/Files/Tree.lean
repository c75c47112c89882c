import PolicyStudio.Files.Path

/-!
# Files and directories

A tree of files is known by what is at each place.  The top is always a directory,
and so is what a path goes through, or else the path leads nowhere.

An action that fails may have done a part of its work; directories that were made
on the way are kept.
-/

namespace PolicyStudio
namespace Files

/-- A place: the names from the top. -/
abbrev Location := List String

-- Bytes are compared by the built-in equality, also where there is another.
attribute [local instance (2000)] ByteArray.instDecidableEq

/-- What can be at a place. -/
inductive Entry where
  | directory
  | file (content : ByteArray)
deriving DecidableEq

/-- Files and directories by place, and the working directory. -/
structure Tree where
  entries : List (Location × Entry)
  workplace : Location

/-- Why an action on files fails. -/
inductive FileFault where
  | exists (path : Path)
  | isDirectory (path : Path)
  | notDirectory (path : Path)
  | notFound (path : Path)
  | nameTooLong (path : Path)
  /-- No name holds the character that texts end with inside a machine. -/
  | nullCharacter
  /-- A file is not copied onto itself. -/
  | sameFile (source target : Path)
deriving Repr, DecidableEq

namespace FileFault

/-- A message with the number that the system gives to its cause. -/
def numbered (number : Nat) (cause : String) (path : Path) : String :=
  "[Errno " ++ number.repr ++ "] " ++ cause ++ ": " ++ path.shown

/-- A path as a message shows it that names its kind. -/
def named (path : Path) : String :=
  "PosixPath(" ++ path.shown ++ ")"

/-- The wording of a fault. -/
def message : FileFault → String
  | .exists path => numbered 17 "File exists" path
  | .isDirectory path => numbered 21 "Is a directory" path
  | .notDirectory path => numbered 20 "Not a directory" path
  | .notFound path => numbered 2 "No such file or directory" path
  | .nameTooLong path => numbered 36 "File name too long" path
  | .nullCharacter => "embedded null byte"
  | .sameFile source target => named source ++ " and " ++ named target ++ " are the same file"

end FileFault

/-- An action on files. -/
abbrev Action := EStateM FileFault Tree

namespace Tree

/-- What is at a place. -/
def lookup? (tree : Tree) (location : Location) : Option Entry :=
  if location.isEmpty then some .directory else tree.entries.lookup location

/-- Put something at a place. -/
def put (tree : Tree) (location : Location) (entry : Entry) : Tree :=
  { tree with
    entries := tree.entries.filter (fun other => other.1 != location) ++ [(location, entry)] }

/-- Put something at a place, and directories where none lead to it. -/
def plant (tree : Tree) (location : Location) (entry : Entry) : Tree :=
  let step (tree : Tree) (length : Nat) : Tree :=
    if (tree.lookup? (location.take length)).isSome then tree
    else tree.put (location.take length) .directory
  ((List.range location.length).foldl step tree).put location entry

/-- What is below a place, sorted by the way to it. -/
def below (tree : Tree) (location : Location) : List (String × Entry) :=
  let found := tree.entries.filterMap fun (place, entry) =>
    if location.isPrefixOf place ∧ location.length < place.length then
      some ("/".intercalate (place.drop location.length), entry)
    else none
  found.mergeSort fun first second => !(second.1 < first.1)

/-- The most bytes in one name. -/
def longestName : Nat := 255

/-- The most bytes in a path. -/
def longestPath : Nat := 4095

/-- Follow names from a place.  All but the last lead to directories; the last may
lead to something that is not there. -/
def follow (tree : Tree) (path : Path) (place : Location) : List String → Except FileFault Location
  | [] => .ok place
  | name :: rest => match tree.lookup? place with
    | none => .error (.notFound path)
    | some (.file _) => .error (.notDirectory path)
    | some .directory =>
      if name = Path.up then tree.follow path place.dropLast rest
      else if longestName < name.utf8ByteSize then .error (.nameTooLong path)
      else tree.follow path (place ++ [name]) rest

/-- The place that a path leads to. -/
def locate (tree : Tree) (path : Path) : Except FileFault Location :=
  if path.holdsNull then .error .nullCharacter
  else if longestPath < path.text.utf8ByteSize then .error (.nameTooLong path)
  else tree.follow path (if path.isAbsolute then [] else tree.workplace) path.names

/-- What a path leads to. -/
def find? (tree : Tree) (path : Path) : Except FileFault (Option Entry) := do
  return tree.lookup? (← tree.locate path)

/-- A path leads to a directory. -/
def isDirectory (tree : Tree) (path : Path) : Bool :=
  match tree.find? path with
  | .ok (some .directory) => true
  | _ => false

/-- Two paths lead to one thing that is there. -/
def sameEntry (tree : Tree) (path other : Path) : Bool :=
  match tree.locate path, tree.locate other with
  | .ok place, .ok otherPlace => place == otherPlace && (tree.lookup? place).isSome
  | _, _ => false

end Tree

namespace Action

/-- What does not change the files. -/
def ofTree {α : Type} (look : Tree → Except FileFault α) : Action α := fun tree =>
  match look tree with
  | .ok value => .ok value tree
  | .error fault => .error fault tree

/-- Run, and turn a fault into a value. -/
def attempt {α : Type} (action : Action α) : Action (Except FileFault α) := fun tree =>
  match action tree with
  | .ok value tree => .ok (.ok value) tree
  | .error fault tree => .ok (.error fault) tree

/-- Make a directory where nothing is. -/
def makeDirectory (path : Path) : Action Unit := do
  let place ← ofTree (·.locate path)
  match (← get).lookup? place with
  | some _ => throw (.exists path)
  | none => modify (·.put place .directory)

/-- Make a directory where none is. -/
def ensureDirectory (path : Path) : Action Unit := do
  match ← attempt (makeDirectory path) with
  | .ok _ => return
  | .error fault =>
    if (← get).isDirectory path then return
    throw fault

/-- Make a directory where none is, and those that lead to it, given how many
names may be left out from the end. -/
def ensureDirectories : Nat → Path → Action Unit
  | 0, path => ensureDirectory path
  | n + 1, path => do
    match ← attempt (makeDirectory path) with
    | .ok _ => return
    | .error (.notFound _) =>
      ensureDirectories n path.parent
      ensureDirectory path
    | .error fault =>
      if (← get).isDirectory path then return
      throw fault

/-- Make a directory where none is, and those that lead to it. -/
def makeDirectories (path : Path) : Action Unit :=
  ensureDirectories path.names.length path

/-- The bytes of a file. -/
def read (path : Path) : Action ByteArray := ofTree fun tree => do
  match ← tree.find? path with
  | some (.file content) => return content
  | some .directory => throw (.isDirectory path)
  | none => throw (.notFound path)

/-- Write the bytes of a file, which need not be there. -/
def write (path : Path) (content : ByteArray) : Action Unit := do
  let place ← ofTree (·.locate path)
  match (← get).lookup? place with
  | some .directory => throw (.isDirectory path)
  | _ => modify (·.put place (.file content))

/-- Copy the bytes of a file. -/
def copy (source target : Path) : Action Unit := do
  if target.holdsNull then throw .nullCharacter
  if (← get).sameEntry source target then throw (.sameFile source target)
  write target (← read source)

end Action

end Files
end PolicyStudio
