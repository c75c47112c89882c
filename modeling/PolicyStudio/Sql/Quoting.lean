/-!
# Quoting by doubling

A text between quotes holds any character.  A quote mark inside it is written
twice, and nothing else is changed, so the text ends at the first mark that
stands alone.  String literals use the single quote and quoted names the double
one.
-/

namespace PolicyStudio
namespace Sql

/-- Write every `mark` twice. -/
def doubled (mark : Char) : List Char → List Char
  | [] => []
  | c :: rest => if c = mark then mark :: mark :: doubled mark rest else c :: doubled mark rest

/-- The characters between two marks. -/
def enclosed (mark : Char) (cs : List Char) : List Char :=
  mark :: (doubled mark cs ++ [mark])

/-- The string literal for a text. -/
def literal (s : String) : String :=
  String.ofList (enclosed '\'' s.toList)

/-- The quoted name for a text. -/
def quotedName (s : String) : String :=
  String.ofList (enclosed '"' s.toList)

/-- The truth values. -/
def truth (b : Bool) : String :=
  if b then "TRUE" else "FALSE"

end Sql
end PolicyStudio
