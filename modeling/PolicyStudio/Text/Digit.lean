import PolicyStudio.Text.CharSet

/-!
# Decimal digits

Every script of the character set that counts in tens has a block of ten digits
in ascending order.  A number may be written with any of them.  The blocks are
those of version 14.
-/

namespace PolicyStudio
namespace Text

/-- Where the blocks of ten digits above ASCII start. -/
def digitBlocks : List Nat :=
  (cutAt ' ' ("660 6F0 7C0 966 9E6 A66 AE6 B66 BE6 C66 CE6 D66 DE6 E50 ED0 F20 1040 1090 17E0 " ++
    "1810 1946 19D0 1A80 1A90 1B50 1BB0 1C40 1C50 A620 A8D0 A900 A9D0 A9F0 AA50 ABF0 FF10 " ++
    "104A0 10D30 11066 110F0 11136 111D0 112F0 11450 114D0 11650 116C0 11730 118E0 11950 " ++
    "11C50 11D50 11DA0 16A60 16AC0 16B50 1D7CE 1D7D8 1D7E2 1D7EC 1D7F6 1E140 1E2F0 1E950 " ++
    "1FBF0").toList).map hexNumber

/-- The value of a decimal digit of any script. -/
def digit? (c : Char) : Option Nat :=
  let n := c.toNat
  if n < 0x80 then
    if '0' ≤ c ∧ c ≤ '9' then some (n - '0'.toNat) else none
  else
    (digitBlocks.find? fun start => start ≤ n && n < start + 10).map fun start => n - start

/-- The decimal notation of a number, least digit first, below `10 ^ count`. -/
def digitsFrom : Nat → Nat → List Char → List Char
  | 0, _, tail => tail
  | count + 1, n, tail => digitsFrom count (n / 10) (Char.ofNat ('0'.toNat + n % 10) :: tail)

/-- Exactly `count` digits, with zeros in front. -/
def padded (count n : Nat) : String :=
  String.ofList (digitsFrom count n [])

/-- Hexadecimal digits in lower case, exactly `count` of them. -/
def hexDigitsFrom : Nat → Nat → List Char → List Char
  | 0, _, tail => tail
  | count + 1, n, tail =>
    let d := n % 16
    let c := if d < 10 then Char.ofNat ('0'.toNat + d) else Char.ofNat ('a'.toNat + (d - 10))
    hexDigitsFrom count (n / 16) (c :: tail)

end Text
end PolicyStudio
