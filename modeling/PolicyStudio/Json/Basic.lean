import PolicyStudio.Text.Quoted
import PolicyStudio.Decimal.Layout

/-!
# JSON values and their text

The members of an object keep the order in which they were first named.  Whole
numbers and others are kept apart.

A text is written in ASCII alone: what lies beyond is escaped by its code units,
of which a character beyond the first plane has two.
-/

namespace PolicyStudio

/-- A JSON value. -/
inductive Json where
  | null
  | truth (value : Bool)
  | integer (value : Int)
  | number (value : Float)
  | text (value : String)
  | list (items : List Json)
  | object (members : List (String × Json))

namespace Json

instance : Inhabited Json := ⟨.null⟩

/-- The member of an object under a name. -/
def member? (name : String) : Json → Option Json
  | .object members => members.lookup name
  | _ => none

/-- One code unit, escaped. -/
def unitEscape (n : Nat) : List Char :=
  '\\' :: 'u' :: Text.hexDigitsFrom 4 n []

/-- A character of a text. -/
def escapedChar (c : Char) : List Char :=
  let n := c.toNat
  match c with
  | '"' => ['\\', '"']
  | '\\' => ['\\', '\\']
  | '\n' => ['\\', 'n']
  | '\r' => ['\\', 'r']
  | '\t' => ['\\', 't']
  | '\x08' => ['\\', 'b']
  | '\x0c' => ['\\', 'f']
  | _ =>
    if 0x20 ≤ n ∧ n < 0x7f then [c]
    else if n < 0x10000 then unitEscape n
    else
      let rest := n - 0x10000
      unitEscape (0xd800 + rest / 0x400) ++ unitEscape (0xdc00 + rest % 0x400)

/-- A text between double quotes. -/
def quoted (s : String) : String :=
  String.ofList ('"' :: (s.toList.flatMap escapedChar ++ ['"']))

/-- A number that may have a fraction. -/
def numberText (x : Float) : String :=
  if x.isNaN then "NaN"
  else if x.isInf then (if x < 0 then "-Infinity" else "Infinity")
  else Decimal.floatText x

mutual

/-- The text of a value on one line; `item` stands after an item and `name` after
the name of a member. -/
def textWith (item name : String) : Json → String
  | .null => "null"
  | .truth value => if value then "true" else "false"
  | .integer n => Decimal.intText n
  | .number x => numberText x
  | .text s => quoted s
  | .list items => "[" ++ textOfItems item name items ++ "]"
  | .object members => "\x7b" ++ textOfMembers item name members ++ "\x7d"

/-- The text of the items of a list. -/
def textOfItems (item name : String) : List Json → String
  | [] => ""
  | [value] => textWith item name value
  | value :: rest => textWith item name value ++ item ++ textOfItems item name rest

/-- The text of the members of an object. -/
def textOfMembers (item name : String) : List (String × Json) → String
  | [] => ""
  | [(key, value)] => quoted key ++ name ++ textWith item name value
  | (key, value) :: rest =>
    quoted key ++ name ++ textWith item name value ++ item ++ textOfMembers item name rest

end

/-- The text of a value on one line. -/
def compact (value : Json) : String :=
  textWith ", " ": " value

/-- A line break before an item at a depth, two blanks for each level. -/
def lineBreak (depth : Nat) : String :=
  String.ofList ('\n' :: List.replicate (2 * depth) ' ')

mutual

/-- The text of a value with each item on a line of its own. -/
def indentedAt (depth : Nat) : Json → String
  | .list [] => "[]"
  | .list items =>
    "[" ++ lineBreak (depth + 1) ++ indentedItems (depth + 1) items ++ lineBreak depth ++ "]"
  | .object [] => "\x7b\x7d"
  | .object members =>
    "\x7b" ++ lineBreak (depth + 1) ++ indentedMembers (depth + 1) members ++ lineBreak depth ++
      "\x7d"
  | .null => "null"
  | .truth value => if value then "true" else "false"
  | .integer n => Decimal.intText n
  | .number x => numberText x
  | .text s => quoted s

/-- The items of a list, each on a line of its own. -/
def indentedItems (depth : Nat) : List Json → String
  | [] => ""
  | [value] => indentedAt depth value
  | value :: rest =>
    indentedAt depth value ++ "," ++ lineBreak depth ++ indentedItems depth rest

/-- The members of an object, each on a line of its own. -/
def indentedMembers (depth : Nat) : List (String × Json) → String
  | [] => ""
  | [(key, value)] => quoted key ++ ": " ++ indentedAt depth value
  | (key, value) :: rest =>
    quoted key ++ ": " ++ indentedAt depth value ++ "," ++ lineBreak depth ++
      indentedMembers depth rest

end

/-- The text of a value with each item on a line of its own. -/
def indented (value : Json) : String :=
  indentedAt 0 value

end Json

end PolicyStudio
