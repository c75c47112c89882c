import PolicyStudio.Files.Tree
import PolicyStudio.Text.Utf8

/-!
# Snapshots of the declarations

The declarations of the policy language can be kept in a file.  Building the file
takes the first of three sources: a bundle that is there, the declarations that
are made here, and a short text that only points at the language.

Loading takes what the file holds.  Where there is no file to read, the text is
made here; a file that is no text is an error.
-/

namespace PolicyStudio
namespace Editor

open Files

/-- Where a snapshot came from. -/
inductive SnapshotSource where
  | bundle
  | synthesized
  | fallback
deriving Repr, DecidableEq

/-- The name of a source. -/
def SnapshotSource.name : SnapshotSource → String
  | .bundle => "BUNDLE"
  | .synthesized => "SYNTHESIZED"
  | .fallback => "STUB"

namespace Snapshot

/-- The text that only points at the language. -/
def fallbackText : String := "# Fallback type declarations\nfrom rls_playground.dsl import *\n"

/-- Where the snapshot is if nothing else is said. -/
def standardTarget : Path := .read "/opt/playground/typings/dsl.pyi"

/-- Where the bundle is if nothing else is said. -/
def standardBundle : Path := .read "/opt/playground/bundle.pyi"

/-- The first path in force: one of its own, the one that is set, or the standard
one; an empty one is none. -/
def pathOf (own setting : Option String) : Path :=
  match (own.filter (· ≠ "")) <|> (setting.filter (· ≠ "")) with
  | some text => .read text
  | none => standardTarget

/-- The text of the declarations, if they can be made. -/
def textOf (made : Option String) : String := made.getD fallbackText

/-- Something is at a path.  A path that is too long is a fault, but one that leads
nowhere is not. -/
def isThere (path : Path) : Action Bool := do
  match (← get).find? path with
  | .ok entry => return entry.isSome
  | .error (.nameTooLong _) => throw (.nameTooLong path)
  | .error _ => return false

/-- Build the snapshot, given the declarations if they can be made. -/
def build (made : Option String) (target bundle : Path) : Action SnapshotSource := do
  Action.makeDirectories target.parent
  if ← isThere bundle then
    Action.copy bundle target
    return .bundle
  Action.write target (textOf made).toUTF8
  return if made.isSome then .synthesized else .fallback

/-- Why there is no snapshot. -/
inductive LoadFault where
  /-- No path holds the character that texts end with inside a machine. -/
  | nullCharacter
  /-- The file is no text. -/
  | malformed
deriving Repr, DecidableEq

/-- The text that bytes are, with single line feeds. -/
def decode (content : ByteArray) : Except LoadFault String :=
  match String.fromUTF8? content with
  | some text => .ok (String.ofList (Text.lineFeeds text.toList))
  | none => .error .malformed

/-- The text of the snapshot, given the declarations if they can be made. -/
def load (made : Option String) (path : Path) (files : Tree) : Except LoadFault String :=
  match Action.read path files with
  | .ok content _ => decode content
  | .error .nullCharacter _ => .error .nullCharacter
  | .error _ _ => .ok (textOf made)

end Snapshot

end Editor
end PolicyStudio
