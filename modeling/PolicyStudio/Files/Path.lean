import PolicyStudio.Text.CharSet
import PolicyStudio.Text.Quoted

/-!
# Paths

A path starts at the working directory or at the top, and goes on by names.  The
text of a path may hold more: empty names and the name for staying in place are
dropped when it is read, and a trailing slash with them.  The name for going up
is kept, because only the files tell where it leads.

A path that starts with exactly two slashes keeps both.
-/

namespace PolicyStudio
namespace Files

/-- Where a path starts. -/
inductive Start where
  /-- At the working directory. -/
  | here
  /-- At the top. -/
  | top
  /-- At the top, written with two slashes. -/
  | doubledTop
deriving Repr, DecidableEq

/-- What stands before the names of a path. -/
def Start.text : Start → String
  | .here => ""
  | .top => "/"
  | .doubledTop => "//"

/-- A path. -/
structure Path where
  start : Start
  names : List String
deriving Repr, DecidableEq

namespace Path

/-- The name for going up. -/
def up : String := ".."

/-- The path from the working directory to itself. -/
def here : Path := ⟨.here, []⟩

/-- Where the text of a path starts. -/
def startOf : List Char → Start
  | '/' :: '/' :: '/' :: _ => .top
  | '/' :: '/' :: _ => .doubledTop
  | '/' :: _ => .top
  | _ => .here

/-- The names in a text. -/
def namesOf (cs : List Char) : List String :=
  ((Text.cutAt '/' cs).map String.ofList).filter fun name => name != "" && name != "."

/-- Read the text of a path. -/
def read (text : String) : Path :=
  ⟨startOf text.toList, namesOf text.toList⟩

/-- The text of a path. -/
def text (path : Path) : String :=
  let text := path.start.text ++ "/".intercalate path.names
  if text == "" then "." else text

/-- The path does not start at the working directory. -/
def isAbsolute (path : Path) : Bool :=
  path.start != .here

/-- Go on by another path; one that starts at the top starts anew. -/
def join (path other : Path) : Path :=
  if other.isAbsolute then other else { path with names := path.names ++ other.names }

/-- The path without its last name. -/
def parent (path : Path) : Path :=
  { path with names := path.names.dropLast }

/-- A name holds the character that texts end with inside a machine. -/
def holdsNull (path : Path) : Bool :=
  path.names.any (·.contains '\x00')

/-- The path as messages about it show it. -/
def shown (path : Path) : String :=
  Text.quoted path.text

end Path

end Files
end PolicyStudio
