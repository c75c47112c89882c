import PolicyStudio.Decimal.Read
import PolicyStudio.Text.Utf8

/-!
# Escapes in addresses

A character that must not stand in a part of an address is written by its bytes,
each as a percent sign and two hexadecimal digits.  Which characters these are
depends on the part; characters beyond the smallest set are always among them.
-/

namespace PolicyStudio
namespace Url

/-- A control character. -/
def isControl (c : Char) : Bool :=
  c.toNat < 0x20 || c.toNat == 0x7f

/-- What is escaped in every part. -/
def escapedAnywhere (c : Char) : Bool :=
  isControl c || 0x80 ≤ c.toNat

/-- What is escaped behind the number sign. -/
def escapedInFragment (c : Char) : Bool :=
  escapedAnywhere c || c ∈ [' ', '"', '<', '>', '\x60']

/-- What is escaped behind the question mark. -/
def escapedInQuery (c : Char) : Bool :=
  escapedAnywhere c || c ∈ [' ', '"', '#', '<', '>']

/-- What is escaped behind the question mark of common addresses. -/
def escapedInCommonQuery (c : Char) : Bool :=
  escapedInQuery c || c == '\''

/-- What is escaped in a path. -/
def escapedInPath (c : Char) : Bool :=
  escapedInFragment c || c ∈ ['#', '?', '\x7b', '\x7d']

/-- What is escaped in the name and password of a user. -/
def escapedInUser (c : Char) : Bool :=
  escapedInPath c || c ∈ ['/', ':', ';', '=', '@', '[', '\\', ']', '^', '|']

/-- A hexadecimal digit. -/
def hexDigit (n : Nat) : Char :=
  if n < 10 then Char.ofNat (0x30 + n) else Char.ofNat (0x41 + n - 10)

/-- The escape of a byte. -/
def escapeByte (b : UInt8) : List Char :=
  ['%', hexDigit (b.toNat / 16), hexDigit (b.toNat % 16)]

/-- Escape some characters. -/
def escape (escaped : Char → Bool) (cs : List Char) : List Char :=
  cs.flatMap fun c =>
    if escaped c then (String.singleton c).toUTF8.toList.flatMap escapeByte else [c]

/-- The bytes of a text with its escapes read. -/
def unescapedBytes : List Char → List UInt8
  | [] => []
  | '%' :: a :: b :: rest => match Decimal.digitIn? 16 a, Decimal.digitIn? 16 b with
    | some high, some low => UInt8.ofNat (16 * high + low) :: unescapedBytes rest
    | _, _ => UInt8.ofNat '%'.toNat :: unescapedBytes (a :: b :: rest)
  | c :: rest => (String.singleton c).toUTF8.toList ++ unescapedBytes rest

/-- A text with its escapes read. -/
def unescape (cs : List Char) : List Char :=
  Text.Utf8.decodeFrom none (unescapedBytes cs)

end Url
end PolicyStudio
