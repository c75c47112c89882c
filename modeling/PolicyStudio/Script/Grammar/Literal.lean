import PolicyStudio.Decimal.Read
import PolicyStudio.Script.Tree
import PolicyStudio.Script.Grammar.State
import PolicyStudio.Text.CharName

/-!
# Literals

What a numeral or a text stands for.  A backslash in a text begins an escape,
unless the text is marked as raw; an escape that is not known stands for itself.
-/

namespace PolicyStudio
namespace Script

namespace Literal

open Reader

/-! ## Numerals -/

/-- How many digits a decimal numeral may have. -/
def digitLimit : Nat := 4300

/-- The refusal of a numeral with too many digits. -/
def digitRefusal (count : Nat) : String :=
  "Exceeds the limit (4300 digits) for integer string conversion: value has " ++ count.repr ++
  " digits; use sys.set_int_max_str_digits() to increase the limit - Consider hexadecimal " ++
  "for huge integer literals to avoid decimal conversion limits."

/-- The number of digits that are too many, if they are. -/
def tooManyDigits? (text : String) : Option Nat :=
  let digits := (text.toList.filter Char.isDigit).length
  let isDecimal := text.toList.all fun c => c.isDigit || c == '_'
  if isDecimal && decide (digitLimit < digits) then some digits else none

/-- What a numeral stands for. -/
def number (text : String) : Expression :=
  let cs := text.toList
  match cs.getLast? with
  | some 'j' | some 'J' =>
    .imaginary ((Decimal.readFloat? (String.ofList cs.dropLast)).getD 0)
  | _ => match Decimal.readInteger? 0 text with
    | some n => .integer n
    | none => .number ((Decimal.readFloat? text).getD 0)

/-! ## Texts -/

/-- A text as it stands in a program, cut into what matters. -/
structure Raw where
  isBytes : Bool
  isRaw : Bool
  isFormatted : Bool
  /-- What stands between the quotes. -/
  content : List Char
  /-- What stands before the content. -/
  opening : List Char

/-- Cut a text as it stands in a program. -/
def raw (text : String) : Raw :=
  let cs := text.toList
  let marks := cs.takeWhile fun c => c != '"' && c != '\''
  let rest := cs.drop marks.length
  let size := match rest with
    | a :: b :: c :: _ => if a = b ∧ b = c ∧ 6 ≤ rest.length then 3 else 1
    | _ => 1
  let small := marks.map Char.toLower
  { isBytes := small.contains 'b'
    isRaw := small.contains 'r'
    isFormatted := small.contains 'f'
    content := (rest.drop size).take (rest.length - 2 * size)
    opening := marks ++ rest.take size }

/-- The number that hexadecimal digits at the front write, at most so many of
them, and how many there are. -/
def hexAt (count : Nat) (cs : List Char) : Nat × Nat :=
  let digits := (cs.take count).takeWhile Numeral.isHexDigit
  (digits.foldl (fun n c => 16 * n + (Decimal.digitIn? 16 c).getD 0) 0, digits.length)

/-- The number that octal digits at the front write, at most three of them, and
how many there are. -/
def octalAt (cs : List Char) : Nat × Nat :=
  let digits := (cs.take 3).takeWhile fun c => '0' ≤ c && c < '8'
  (digits.foldl (fun n c => 8 * n + (c.toNat - '0'.toNat)) 0, digits.length)

/-- The character that an escape of one letter stands for. -/
def simpleEscape? : Char → Option (List Char)
  | '\n' => some []
  | '\\' => some ['\\']
  | '\'' => some ['\'']
  | '"' => some ['"']
  | 'a' => some ['\x07']
  | 'b' => some ['\x08']
  | 'f' => some ['\x0c']
  | 'n' => some ['\n']
  | 'r' => some ['\r']
  | 't' => some ['\t']
  | 'v' => some ['\x0b']
  | _ => none

/-- The number of bytes of a character. -/
def byteLength (c : Char) : Nat := c.utf8Size

/-- The refusal of an escape that begins at a byte and spans so many. -/
def escapeRefusal (start length : Nat) (reason : String) : String :=
  "(unicode error) 'unicodeescape' codec can't decode bytes in position " ++ start.repr ++ "-" ++
    (start + length).repr ++ ": " ++ reason

/-- How many bytes a character takes where escapes are resolved: beyond ASCII it
is written as an escape itself. -/
def escapedLength (c : Char) : Nat :=
  if c.toNat < 0x80 then 1 else 10

/-- An escape by name, which begins at a byte: the character, the number of bytes, and
what comes after it. -/
def namedEscape (start : Nat) (rest : List Char) : Except String (Char × Nat × List Char) :=
  match rest with
  | '\x7b' :: after =>
    let name := after.takeWhile (· != '\x7d')
    let length := name.foldl (fun total c => total + escapedLength c) 0
    if name.isEmpty ∨ name.length = after.length then
      .error (escapeRefusal start (2 + length) "malformed \\N character escape")
    else match Text.named? name with
      | some c => .ok (c, 4 + length, after.drop (name.length + 1))
      | none => .error (escapeRefusal start (3 + length) "unknown Unicode character name")
  | _ => .error (escapeRefusal start 1 "malformed \\N character escape")

/-- Resolve the escapes of a text; `start` is the place of the first character. -/
def unescape : Nat → (start : Nat) → List Char → List Char → Except String (List Char)
  | 0, _, found, _ => .ok found.reverse
  | _, _, found, [] => .ok found.reverse
  | steps + 1, start, found, '\\' :: c :: rest =>
    let coded := fun (count : Nat) (name : String) =>
      let (n, digits) := hexAt count rest
      if digits < count then
        .error (escapeRefusal start (digits + 1) ("truncated " ++ name ++ " escape"))
      else if 0x110000 ≤ n then
        .error (escapeRefusal start (digits + 1) "illegal Unicode character")
      else unescape steps (start + 2 + count) (Char.ofNat n :: found) (rest.drop count)
    match simpleEscape? c with
    | some meant => unescape steps (start + 2) (meant ++ found) rest
    | none =>
      if c = 'x' then coded 2 "\\xXX"
      else if c = 'u' then coded 4 "\\uXXXX"
      else if c = 'U' then coded 8 "\\UXXXXXXXX"
      else if '0' ≤ c ∧ c < '8' then
        let (n, digits) := octalAt (c :: rest)
        unescape steps (start + 1 + digits) (Char.ofNat n :: found) (rest.drop (digits - 1))
      else if c = 'N' then do
        let (c, length, rest) ← namedEscape start rest
        unescape steps (start + length) (c :: found) rest
      else unescape steps (start + 1 + escapedLength c) (c :: '\\' :: found) rest
  | steps + 1, start, found, c :: rest =>
    unescape steps (start + escapedLength c) (c :: found) rest

/-- Resolve the escapes of bytes; `start` is the place of the first one. -/
def unescapeBytes : Nat → (start : Nat) → List UInt8 → List Char → Except String (List UInt8)
  | 0, _, found, _ => .ok found.reverse
  | _, _, found, [] => .ok found.reverse
  | steps + 1, start, found, '\\' :: c :: rest =>
    match simpleEscape? c with
    | some meant =>
      unescapeBytes steps (start + 2) (meant.map (fun c => UInt8.ofNat c.toNat) ++ found) rest
    | none =>
      if c = 'x' then
        let (n, digits) := hexAt 2 rest
        if digits < 2 then .error ("(value error) invalid \\x escape at position " ++ start.repr)
        else unescapeBytes steps (start + 4) (UInt8.ofNat n :: found) (rest.drop 2)
      else if '0' ≤ c ∧ c < '8' then
        let (n, digits) := octalAt (c :: rest)
        unescapeBytes steps (start + 1 + digits) (UInt8.ofNat n :: found) (rest.drop (digits - 1))
      else unescapeBytes steps (start + 2) (UInt8.ofNat c.toNat :: 0x5c :: found) rest
  | steps + 1, start, found, c :: rest =>
    unescapeBytes steps (start + 1) (UInt8.ofNat c.toNat :: found) rest

/-- Accept what was resolved, or refuse. -/
def resolved {α : Type} : Except String α → Reader α
  | .ok value => return value
  | .error message => refuseHere message

/-- The characters of a text. -/
def textContent (isRaw : Bool) (content : List Char) : Reader String := do
  if isRaw || !content.contains '\\' then return String.ofList content
  return String.ofList (← resolved (unescape (content.length + 1) 0 [] content))

/-- The bytes of a text that is marked as bytes. -/
def bytesContent (token : Token) (found : Raw) : Reader (List UInt8) := do
  if found.content.any fun c => 0x80 ≤ c.toNat then
    refuse token.line "bytes can only contain ASCII literal characters"
  if found.isRaw then return found.content.map fun c => UInt8.ofNat c.toNat
  resolved (unescapeBytes (found.content.length + 1) 0 [] found.content)

end Literal

end Script
end PolicyStudio
