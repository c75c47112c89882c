import PolicyStudio.Text.Blank

/-!
# Searching and splitting texts

Occurrences are looked for from the left and do not overlap.  All functions work
on lists of characters.
-/

namespace PolicyStudio
namespace Text

/-- What follows a piece at the front of a text. -/
def afterStart? (piece cs : List Char) : Option (List Char) :=
  if piece.isPrefixOf cs then some (cs.drop piece.length) else none

/-- The text before the first occurrence of a piece, and the text after it. -/
def cutFirst? (piece : List Char) : List Char → Option (List Char × List Char)
  | [] => if piece.isEmpty then some ([], []) else none
  | c :: rest =>
    if piece.isPrefixOf (c :: rest) then some ([], (c :: rest).drop piece.length)
    else (cutFirst? piece rest).map fun (before, after) => (c :: before, after)

/-- Cut at the occurrences of a piece that is not empty, at most `count` times. -/
def splitAt (piece : List Char) : Nat → List Char → List (List Char)
  | 0, cs => [cs]
  | count + 1, cs => match cutFirst? piece cs with
    | none => [cs]
    | some (before, after) => before :: splitAt piece count after

/-- Cut at runs of blanks, at most `count` times.  Blanks at the start are left
out, and those at the end too unless the last cut comes before them. -/
def splitBlanks : Nat → List Char → List (List Char)
  | count, cs =>
    let cs := cs.dropWhile isBlank
    match count with
    | 0 => if cs.isEmpty then [] else [cs]
    | count + 1 =>
      if cs.isEmpty then []
      else
        let word := cs.takeWhile fun c => !isBlank c
        let rest := cs.dropWhile fun c => !isBlank c
        word :: splitBlanks count rest

/-- Put a text in the place of a piece that is not empty, at most `count` times. -/
def replaceAll (piece other : List Char) (count : Nat) (cs : List Char) : List Char :=
  match splitAt piece count cs with
  | [] => []
  | first :: rest => first ++ rest.flatMap fun part => other ++ part

/-- Put a text before every character and at the end, at most `count` times. -/
def interleave (other : List Char) : Nat → List Char → List Char
  | 0, cs => cs
  | _ + 1, [] => other
  | count + 1, c :: rest => other ++ c :: interleave other count rest

/-- The position of the first occurrence of a piece. -/
def position? (piece cs : List Char) : Option Nat :=
  (cutFirst? piece cs).map fun (before, _) => before.length

/-- How often a piece occurs. -/
def occurrences (piece cs : List Char) : Nat :=
  if piece.isEmpty then cs.length + 1 else (splitAt piece cs.length cs).length - 1

end Text
end PolicyStudio
