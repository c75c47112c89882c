import PolicyStudio.Decimal.Layout

/-!
# A given number of digits

Besides its shortest form a number can be written with a fixed count of places,
or of significant digits.  The exact value is rounded once, and a tie goes to the
even neighbour.
-/

namespace PolicyStudio
namespace Decimal

/-- The quotient rounded to the nearest integer, a tie to the even one. -/
def roundDiv (numerator denominator : Nat) : Nat :=
  let quotient := numerator / denominator
  let rest := numerator % denominator
  if 2 * rest < denominator then quotient
  else if denominator < 2 * rest then quotient + 1
  else quotient + quotient % 2

/-- Digits with `places` of them after the point. -/
def placed (places : Nat) (n : Nat) : List Char :=
  let digits := n.repr.toList
  let digits := List.replicate (places + 1 - digits.length) '0' ++ digits
  let whole := digits.length - places
  if places = 0 then digits else digits.take whole ++ '.' :: digits.drop whole

/-- A nonnegative fraction with so many places. -/
def fixed (numerator denominator places : Nat) : List Char :=
  placed places (roundDiv (numerator * 10 ^ places) denominator)

/-- The decimal exponent of a positive fraction: the place of its first digit. -/
def leadingExponent (numerator denominator : Nat) : Int :=
  (Cell.point ⟨0, numerator, 0, denominator, false⟩) - 1

/-- The digits of a fraction, one before the point and `places` after it, and
the exponent. -/
def scientificDigits (numerator denominator places : Nat) : Nat × Int :=
  if numerator = 0 then (0, 0)
  else
    let exponent := leadingExponent numerator denominator
    let shift := (places : Int) - exponent
    let n := roundDiv (numerator * 10 ^ shift.toNat) (denominator * 10 ^ (-shift).toNat)
    if n = 10 ^ (places + 1) then (n / 10, exponent + 1) else (n, exponent)

/-- A nonnegative fraction with an exponent and so many places. -/
def fixedScientific (numerator denominator places : Nat) : List Char :=
  let (n, exponent) := scientificDigits numerator denominator places
  let digits := n.repr.toList
  let digits := List.replicate (places + 1 - digits.length) '0' ++ digits
  (match digits with
    | [] => []
    | first :: rest => if rest.isEmpty then [first] else first :: '.' :: rest) ++
    'e' :: exponentText exponent

/-- Drop the zeros after the point, and a point that ends the number. -/
def withoutTrailingZeros (cs : List Char) : List Char :=
  if cs.contains '.' then
    let short := (cs.reverse.dropWhile (· == '0'))
    (match short with
      | '.' :: rest => rest
      | other => other).reverse
  else cs

/-- A nonnegative fraction with so many significant digits, positionally while
the exponent is small. -/
def general (numerator denominator digits : Nat) (keepZeros : Bool) : List Char :=
  let digits := max digits 1
  let (_, exponent) := scientificDigits numerator denominator (digits - 1)
  if -4 ≤ exponent ∧ exponent < digits then
    let text := fixed numerator denominator ((digits : Int) - 1 - exponent).toNat
    if keepZeros then text else withoutTrailingZeros text
  else
    let text := fixedScientific numerator denominator (digits - 1)
    if keepZeros then text
    else withoutTrailingZeros (text.takeWhile (· != 'e')) ++ text.dropWhile (· != 'e')

end Decimal
end PolicyStudio
