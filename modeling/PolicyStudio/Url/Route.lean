import PolicyStudio.Text.CharSet
import PolicyStudio.Url.Escape

/-!
# Paths of addresses

A path is a list of segments.  Segments that stay in place are left out, and those
that go up take the segment before them along.

A drive is a letter with a colon or a bar behind it.  No path goes up from a drive.
The path of a file may begin with one: then its colon is written, and the file is on
no other host.
-/

namespace PolicyStudio
namespace Url

/-- The path of an address. -/
inductive Route where
  /-- A text that is no path. -/
  | plain (text : String)
  | segments (names : List String)
deriving Repr, DecidableEq

namespace Route

/-- The text of a path. -/
def text : Route → String
  | .plain text => text
  | .segments names => String.join (names.map ("/" ++ ·))

/-- The text of a path begins with two slashes, as what names a host does. -/
def looksLikeHost : Route → Bool
  | .segments ("" :: _ :: _) => true
  | _ => false

/-- Cut a path into segments. -/
def cut (lenient : Bool) (cs : List Char) : List (List Char) :=
  Text.cutAt '/' (if lenient then cs.map fun c => if c = '\\' then '/' else c else cs)

/-- A segment that stays in place. -/
def staysInPlace (segment : List Char) : Bool :=
  segment.map Char.toLower ∈ [".".toList, "%2e".toList]

/-- A segment that goes up. -/
def goesUp (segment : List Char) : Bool :=
  segment.map Char.toLower ∈ ["..".toList, ".%2e".toList, "%2e.".toList, "%2e%2e".toList]

/-- A drive. -/
def isDrive : List Char → Bool
  | [letter, mark] => letter.isAlpha && (mark = ':' || mark = '|')
  | _ => false

/-- The segment is a drive, with a backslash and more behind it or without. -/
def staysOnDrive (segment : String) : Bool :=
  isDrive (segment.toList.takeWhile (· ≠ '\\'))

/-- The way through the segments of a path. -/
structure Walk where
  /-- The segments so far, the last one first. -/
  done : List String
  /-- The path of a file begins with a drive. -/
  onDrive : Bool

namespace Walk

/-- Go up. -/
def up (walk : Walk) : Walk :=
  match walk.done with
  | last :: before => if staysOnDrive last then walk else { walk with done := before }
  | [] => walk

/-- Enter a segment of a file that is the first one. -/
def enterFirst (walk : Walk) : List Char → Walk
  | letter :: mark :: rest =>
    let drive := String.ofList [letter, ':']
    if isDrive [letter, mark] ∧ rest.isEmpty then ⟨[drive], true⟩
    else if isDrive [letter, mark] ∧ mark = ':' then
      { walk with done := [String.ofList (escape escapedInPath rest), drive] }
    else { walk with done := [String.ofList (escape escapedInPath (letter :: mark :: rest))] }
  | segment => { walk with done := [String.ofList (escape escapedInPath segment)] }

/-- Go on with a segment. -/
def enter (ofFile : Bool) (walk : Walk) (segment : List Char) : Walk :=
  if goesUp segment then walk.up
  else if staysInPlace segment then walk
  else if ofFile ∧ walk.done.isEmpty then walk.enterFirst segment
  else { walk with done := String.ofList (escape escapedInPath segment) :: walk.done }

/-- Where a path leads; one that ends with going up or staying ends with a slash. -/
def through (ofFile : Bool) (segments : List (List Char)) : Walk :=
  let walk := segments.foldl (enter ofFile) ⟨[], false⟩
  match segments.getLast? with
  | some last =>
    if goesUp last ∨ staysInPlace last then { walk with done := "" :: walk.done } else walk
  | none => walk

end Walk

/-- The path behind a host that is not the host of a file. -/
def behindHost (lenient : Bool) : List Char → Route
  | [] => .segments (if lenient then [""] else [])
  | c :: rest =>
    let inner := if c = '/' ∨ (lenient ∧ c = '\\') then rest else c :: rest
    .segments (Walk.through false (cut lenient inner)).done.reverse

/-- Names without the empty ones in front of another name. -/
def withoutEmptyStart : List String → List String
  | "" :: name :: rest => withoutEmptyStart (name :: rest)
  | names => names

/-- The path of a file, and whether it begins with a drive. -/
def ofFile (cs : List Char) : Route × Bool :=
  let walk := Walk.through true (cut true cs)
  (.segments (withoutEmptyStart walk.done.reverse), walk.onDrive)

end Route

end Url
end PolicyStudio
