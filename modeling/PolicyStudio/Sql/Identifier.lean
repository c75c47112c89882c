import PolicyStudio.Text.Blank
import PolicyStudio.Text.CharSet
import PolicyStudio.Sql.Quoting

/-!
# Names in statements

An identifier is a dotted path, `schema.table`, none of whose parts is empty.
Each part is written bare when it is a plain lower-case word that the language
does not reserve, and between double quotes otherwise.  A qualified name is a
path of plain words in either case that is always written bare; functions and
session settings have such names.

The test for a plain word looks at the end of the line, so it disregards one
line feed at the very end.
-/

namespace PolicyStudio
namespace Sql

/-- Words that must be quoted when they name something. -/
def reservedWords : List String :=
  ["all", "and", "any", "as", "check", "column", "constraint", "create", "default", "desc",
   "distinct", "do", "else", "end", "false", "for", "foreign", "from", "grant", "group",
   "having", "in", "limit", "not", "null", "offset", "on", "only", "or", "order", "primary",
   "references", "select", "table", "then", "to", "true", "union", "unique", "user", "using",
   "when", "where", "with"]

/-- A small letter or an underscore. -/
def startsBare (c : Char) : Bool :=
  ('a' ≤ c && c ≤ 'z') || c == '_'

/-- What may follow in a bare word. -/
def continuesBare (c : Char) : Bool :=
  startsBare c || ('0' ≤ c && c ≤ '9')

/-- A letter of either case or an underscore. -/
def startsPlain (c : Char) : Bool :=
  startsBare c || ('A' ≤ c && c ≤ 'Z')

/-- What may follow in a plain word. -/
def continuesPlain (c : Char) : Bool :=
  startsPlain c || ('0' ≤ c && c ≤ '9')

/-- A nonempty word whose first character and further characters are of two classes. -/
def isWordOf (starts continues : Char → Bool) : List Char → Bool
  | [] => false
  | c :: rest => starts c && rest.all continues

/-- The characters up to the end of the line: without one line feed at the end. -/
def lineOf : List Char → List Char
  | [] => []
  | ['\n'] => []
  | c :: rest => c :: lineOf rest

/-- A part that is written bare. -/
def isBarePart (part : List Char) : Bool :=
  isWordOf startsBare continuesBare (lineOf part) && !reservedWords.contains (String.ofList part)

/-- One part of a path. -/
def renderPart (part : List Char) : List Char :=
  if isBarePart part then part else enclosed '"' part

/-- Put dots between the parts. -/
def joinDots : List (List Char) → List Char
  | [] => []
  | [part] => part
  | part :: rest => part ++ '.' :: joinDots rest

/-- The parts of a path. -/
def pathParts (s : String) : List (List Char) :=
  Text.cutAt '.' s.toList

/-- No part of the path is empty. -/
def hasAllParts (s : String) : Bool :=
  (pathParts s).all fun part => !part.isEmpty

/-- A dotted path that can be written as an identifier. -/
structure Identifier where
  text : String
  shows : Text.blank text = false
  complete : hasAllParts text = true
deriving DecidableEq

/-- Why a text is no identifier. -/
inductive IdentifierFault where
  | blank
  | emptyPart
deriving Repr, DecidableEq

namespace Identifier

/-- Check a text; that something shows is checked first. -/
def ofString (s : String) : Except IdentifierFault Identifier :=
  if shows : Text.blank s = false then
    if complete : hasAllParts s = true then .ok ⟨s, shows, complete⟩
    else .error .emptyPart
  else .error .blank

/-- The identifier as it stands in a statement. -/
def render (name : Identifier) : String :=
  String.ofList (joinDots ((pathParts name.text).map renderPart))

/-- The name has a single part. -/
def isSimple (name : Identifier) : Bool :=
  !name.text.toList.contains '.'

end Identifier

/-- A path of plain words. -/
def isQualified (s : String) : Bool :=
  (Text.cutAt '.' (lineOf s.toList)).all (isWordOf startsPlain continuesPlain)

/-- The name of a function or of a session setting; it is never quoted. -/
structure QualifiedName where
  text : String
  plain : isQualified text = true
deriving DecidableEq

namespace QualifiedName

/-- Check a text. -/
def ofString? (s : String) : Option QualifiedName :=
  if plain : isQualified s = true then some ⟨s, plain⟩ else none

/-- The name has at least two parts. -/
def isNamespaced (name : QualifiedName) : Bool :=
  name.text.toList.contains '.'

end QualifiedName

/-- A name that is always quoted, so that only blank ones are refused. -/
structure Label where
  text : String
  shows : Text.blank text = false
deriving DecidableEq

namespace Label

/-- Check a text. -/
def ofString? (s : String) : Option Label :=
  if shows : Text.blank s = false then some ⟨s, shows⟩ else none

/-- The label as it stands in a statement. -/
def render (label : Label) : String :=
  quotedName label.text

end Label

end Sql
end PolicyStudio
