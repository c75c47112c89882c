/-!
# Blank characters

A text is *blank* when every character of it separates words without showing
anything.  The set has twenty-nine members: the ASCII controls that move the
cursor, the four information separators, the space, and the spaces and line
separators of the larger character set.  A zero-width space is not one of them,
because it does not separate.

Trimming is stated over lists of characters.  It removes blanks at both ends and
never touches what stands between two characters that show.
-/

namespace PolicyStudio
namespace Text

/-- A character that separates words without showing anything. -/
def isBlank (c : Char) : Bool :=
  let n := c.toNat
  (0x09 ≤ n && n ≤ 0x0d) || (0x1c ≤ n && n ≤ 0x20) || n == 0x85 || n == 0xa0 || n == 0x1680 ||
    (0x2000 ≤ n && n ≤ 0x200a) || n == 0x2028 || n == 0x2029 || n == 0x202f || n == 0x205f ||
    n == 0x3000

/-- Remove the blanks at the start. -/
def trimStart (cs : List Char) : List Char :=
  cs.dropWhile isBlank

/-- Remove the blanks at the end. -/
def trimEnd (cs : List Char) : List Char :=
  (cs.reverse.dropWhile isBlank).reverse

/-- Remove the blanks at both ends. -/
def trim (cs : List Char) : List Char :=
  trimEnd (trimStart cs)

/-- The text without the blanks at its ends. -/
def strip (s : String) : String :=
  String.ofList (trim s.toList)

/-- Nothing in the text shows; the empty text is blank. -/
def blank (s : String) : Bool :=
  s.toList.all isBlank

/-- The pieces between runs of blanks, none of them empty. -/
def words (s : String) : List String :=
  let step : Char → List Char × List String → List Char × List String := fun c (word, done) =>
    if isBlank c then
      ([], if word.isEmpty then done else String.ofList word :: done)
    else (c :: word, done)
  let (word, done) := s.toList.foldr step ([], [])
  if word.isEmpty then done else String.ofList word :: done

end Text
end PolicyStudio
