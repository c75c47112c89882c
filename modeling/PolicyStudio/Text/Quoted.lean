import PolicyStudio.Text.Printable
import PolicyStudio.Text.Digit

/-!
# Quoted texts in messages

A message shows a text between quotes, so that blanks and controls in it can be
seen.  The quote is the single one, unless the text holds a single quote and no
double one.  Within it the quote itself and the backslash are escaped, line feed,
carriage return and tab have a letter, and every other character that does not
print is written by its code in two, four or eight hexadecimal digits.

Bytes are shown alike, after a `b`, except that nothing above ASCII prints.
-/

namespace PolicyStudio
namespace Text

/-- The quote mark for these characters. -/
def quoteMark (cs : List Char) : Char :=
  if cs.contains '\'' && !cs.contains '"' then '"' else '\''

/-- A character by its code, in as few digits as its size allows. -/
def codeEscape (n : Nat) : List Char :=
  if n < 0x100 then '\\' :: 'x' :: hexDigitsFrom 2 n []
  else if n < 0x10000 then '\\' :: 'u' :: hexDigitsFrom 4 n []
  else '\\' :: 'U' :: hexDigitsFrom 8 n []

/-- One character between quotes of the given kind. -/
def quotedChar (mark c : Char) : List Char :=
  if c = mark ∨ c = '\\' then ['\\', c]
  else if c = '\n' then ['\\', 'n']
  else if c = '\r' then ['\\', 'r']
  else if c = '\t' then ['\\', 't']
  else if isPrintable c then [c]
  else codeEscape c.toNat

/-- The text between quotes. -/
def quoted (s : String) : String :=
  let cs := s.toList
  let mark := quoteMark cs
  String.ofList (mark :: (cs.flatMap (quotedChar mark) ++ [mark]))

/-- One byte between quotes of the given kind. -/
def quotedByte (mark : Char) (b : UInt8) : List Char :=
  if b < 0x80 then
    let c := Char.ofNat b.toNat
    if 0x20 ≤ b ∧ b < 0x7f ∨ c = '\n' ∨ c = '\r' ∨ c = '\t' then quotedChar mark c
    else codeEscape b.toNat
  else codeEscape b.toNat

/-- Bytes between quotes. -/
def quotedBytes (bytes : List UInt8) : String :=
  let mark := if bytes.contains 0x27 && !bytes.contains 0x22 then '"' else '\''
  String.ofList ('b' :: mark :: (bytes.flatMap (quotedByte mark) ++ [mark]))

end Text
end PolicyStudio
