import PolicyStudio.Text.CharNameTable
import PolicyStudio.Text.CharSet

/-!
# Characters by name

Every character has a name in the character database, and some have further names.
Large and small letters make no difference, except in the names of ideographs and of
the syllables of Hangul, which are made by rules.
-/

namespace PolicyStudio
namespace Text

namespace CharName

/-! ## Published names -/

/-- The state of a walk through published names.  Words are kept with their last
character first, and the last word first. -/
structure Walk where
  /-- The code point of the name that is read. -/
  code : Nat
  readsCode : Bool
  words : List (List Char)
  word : List Char

/-- The words of the name that is read. -/
def Walk.name (walk : Walk) : List (List Char) :=
  walk.word :: walk.words

/-- Begin the next name, which shares words with the one before it. -/
def Walk.begin (walk : Walk) (shared : Nat) : Walk :=
  let words := if walk.word.isEmpty then walk.words else walk.name
  ⟨if walk.readsCode then walk.code else walk.code + 1, false,
    words.drop (words.length - shared), []⟩

/-- Find the code point of a name in what is left of a table. -/
def findFrom (name : List (List Char)) (walk : Walk) : List Char → Option Nat
  | [] => if walk.name = name then some walk.code else none
  | c :: rest =>
    let isOver := c.isLower || c = '='
    if isOver && walk.name = name then some walk.code
    else if c = '=' then findFrom name ⟨0, true, walk.words, walk.word⟩ rest
    else if isOver then findFrom name (walk.begin (c.toNat - 'a'.toNat)) rest
    else if c = '\n' then findFrom name walk rest
    else if walk.readsCode then
      findFrom name { walk with code := walk.code * 16 + hexNumber [c] } rest
    else if c = ' ' then findFrom name { walk with words := walk.name, word := [] } rest
    else findFrom name { walk with word := c :: walk.word } rest

/-- Find the code point of a name in a table. -/
@[noinline] def find (table : String) (name : List Char) : Option Nat :=
  findFrom ((cutAt ' ' name).map List.reverse).reverse ⟨0, true, [], []⟩ table.toList

/-! ## Names made by rules -/

/-- The text after a beginning. -/
def after? (beginning : String) (name : List Char) : Option (List Char) :=
  if beginning.toList.isPrefixOf name then some (name.drop beginning.length) else none

/-- The unified ideographs. -/
def ideographs : CharSet := CharSet.read
  "3400-4DBF 4E00-9FFF 20000-2A6DF 2A700-2B738 2B740-2B81D 2B820-2CEA1 2CEB0-2EBE0 30000-3134A"

/-- A code point of four or five digits. -/
def code? (digits : List Char) : Option Char :=
  if (digits.length = 4 || digits.length = 5) &&
      digits.all fun c => c.isDigit || ('A' ≤ c && c ≤ 'F') then
    some (Char.ofNat (hexNumber digits))
  else none

/-- Characters other than ideographs whose names end in their numbers: how the names
begin, and the characters. -/
def numbered : List (String × CharSet) :=
  [("CJK COMPATIBILITY IDEOGRAPH-", CharSet.read "F900-FA6D FA70-FAD9 2F800-2FA1D"),
    ("KHITAN SMALL SCRIPT CHARACTER-", CharSet.read "18B00-18CD5"),
    ("NUSHU CHARACTER-", CharSet.read "1B170-1B2FB")]

/-- The names of the leads of syllables. -/
def leads : List String :=
  ["G", "GG", "N", "D", "DD", "R", "M", "B", "BB", "S", "SS", "", "J", "JJ", "C", "K", "T", "P",
    "H"]

/-- The names of the vowels of syllables. -/
def vowels : List String :=
  ["A", "AE", "YA", "YAE", "EO", "E", "YEO", "YE", "O", "WA", "WAE", "OE", "YO", "U", "WEO", "WE",
    "WI", "YU", "EU", "YI", "I"]

/-- The names of the tails of syllables. -/
def tails : List String :=
  ["", "G", "GG", "GS", "N", "NJ", "NH", "D", "L", "LG", "LM", "LB", "LS", "LT", "LP", "LH", "M",
    "B", "BS", "S", "SS", "NG", "J", "C", "K", "T", "P", "H"]

/-- The longest of some names with which a text begins: its position, and the rest. -/
def longest? (names : List String) (text : List Char) : Option (Nat × List Char) :=
  (names.zipIdx.foldl (fun (best : Option (Nat × Nat)) (name, position) =>
    if name.toList.isPrefixOf text && (best.all fun (_, length) => length < name.length) then
      some (position, name.length)
    else best) none).map fun (position, length) => (position, text.drop length)

/-- The syllable of a name, after its beginning. -/
def syllable? (text : List Char) : Option Char := do
  let (lead, text) ← longest? leads text
  let (vowel, text) ← longest? vowels text
  let (tail, text) ← longest? tails text
  if text.isEmpty then some (Char.ofNat (0xAC00 + (lead * 21 + vowel) * 28 + tail)) else none

/-- The character of a name that is made by a rule from capital letters. -/
def numbered? (name : List Char) : Option Char :=
  numbered.findSome? fun (beginning, characters) => do
    let digits ← after? beginning name
    let c ← code? digits
    if characters.contains c && (digits.length = 4 || digits.head? != some '0') then some c
    else none

end CharName

/-- The character that has a name. -/
def named? (name : List Char) : Option Char :=
  match CharName.after? "HANGUL SYLLABLE " name, CharName.after? "CJK UNIFIED IDEOGRAPH-" name with
  | some syllable, _ => CharName.syllable? syllable
  | _, some digits => (CharName.code? digits).filter CharName.ideographs.contains
  | none, none =>
    let name := name.map Char.toUpper
    CharName.numbered? name <|> (CharName.find CharNameTable.names name).map Char.ofNat <|>
      (CharName.find CharNameTable.aliases name).map Char.ofNat

end Text
end PolicyStudio
