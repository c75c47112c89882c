import PolicyStudio.Decimal.Binary

/-!
# How a number is written

The shortest digits are written positionally when the point falls at most four
places before the first digit or at most sixteen places after it, and with an
exponent of at least two digits otherwise.  A positional number always shows a
digit after its point, so that it cannot be taken for an integer.
-/

namespace PolicyStudio
namespace Decimal

/-- Digits around a point. -/
def positional (d : Digits) : List Char :=
  let count := d.digits.length
  if d.point ≤ 0 then
    '0' :: '.' :: (List.replicate (-d.point).toNat '0' ++ d.digits)
  else
    let whole := d.point.toNat
    if count ≤ whole then d.digits ++ List.replicate (whole - count) '0' ++ ['.', '0']
    else d.digits.take whole ++ '.' :: d.digits.drop whole

/-- An exponent with its sign and at least two digits. -/
def exponentText (n : Int) : List Char :=
  let digits := n.natAbs.repr.toList
  (if n < 0 then '-' else '+') :: (if digits.length < 2 then '0' :: digits else digits)

/-- Digits with one of them before the point, and an exponent. -/
def scientific (d : Digits) : List Char :=
  match d.digits with
  | [] => ['0']
  | [first] => first :: 'e' :: exponentText (d.point - 1)
  | first :: rest => first :: '.' :: rest ++ 'e' :: exponentText (d.point - 1)

/-- The choice between the two ways of writing. -/
def Digits.write (d : Digits) : List Char :=
  if -4 < d.point ∧ d.point ≤ 16 then positional d else scientific d

/-- A binary number in the shortest way that reads back. -/
def Binary.write : Binary → String
  | .notANumber => "nan"
  | .infinite negative => if negative then "-inf" else "inf"
  | .finite negative mantissa exponent narrow =>
    let body := if mantissa = 0 then ['0', '.', '0']
      else (shortest mantissa exponent narrow).write
    String.ofList (if negative then '-' :: body else body)

/-- The text of a number. -/
def floatText (x : Float) : String :=
  (decompose x).write

/-- The text of an integer. -/
def intText (n : Int) : String :=
  if n < 0 then "-" ++ n.natAbs.repr else n.natAbs.repr

end Decimal
end PolicyStudio
