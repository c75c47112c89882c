import PolicyStudio.Decimal.Shortest

/-!
# Binary numbers taken apart

A number of the 64-bit binary format is a sign, eleven bits of exponent and
fifty-two bits of fraction.  `decompose` reads these fields, and everything that
is printed about a number is computed from them.
-/

namespace PolicyStudio
namespace Decimal

/-- What a 64-bit pattern stands for. -/
inductive Binary where
  | notANumber
  | infinite (negative : Bool)
  /-- The number `mantissa * 2 ^ exponent`; the gap below it is half as wide as
  the gap above it when `narrow` holds. -/
  | finite (negative : Bool) (mantissa : Nat) (exponent : Int) (narrow : Bool)
deriving Repr, DecidableEq

/-- Read the three fields of a pattern. -/
def Binary.ofBits (bits : Nat) : Binary :=
  let negative := bits / 2 ^ 63 % 2 = 1
  let field : Nat := bits / 2 ^ 52 % 2 ^ 11
  let fraction : Nat := bits % 2 ^ 52
  if field = 2047 then
    if fraction = 0 then .infinite negative else .notANumber
  else if field = 0 then .finite negative fraction (-1074) false
  else .finite negative (2 ^ 52 + fraction) ((field : Int) - 1075) (fraction = 0 && field ≠ 1)

/-- The fields of a number. -/
def decompose (x : Float) : Binary :=
  Binary.ofBits x.toBits.toNat

/-- The integer nearest to zero on this side of the number, if it is finite. -/
def truncated? (x : Float) : Option Int :=
  match decompose x with
  | .finite negative mantissa exponent _ =>
    let size : Nat := if 0 ≤ exponent then mantissa * 2 ^ exponent.toNat
      else mantissa / 2 ^ (-exponent).toNat
    some (if negative then - (size : Int) else size)
  | _ => none

/-- The integer that the number is, if it is one. -/
def whole? (x : Float) : Option Int :=
  match decompose x with
  | .finite negative mantissa exponent _ =>
    let parts := 2 ^ (-exponent).toNat
    if mantissa % parts = 0 then
      let size : Nat := mantissa / parts * 2 ^ exponent.toNat
      some (if negative then - (size : Int) else size)
    else none
  | _ => none

/-- The exact value as a fraction with a positive denominator, if it is finite. -/
def fraction? (x : Float) : Option (Int × Nat) :=
  match decompose x with
  | .finite negative mantissa exponent _ =>
    let size : Int := (mantissa * 2 ^ exponent.toNat : Nat)
    some (if negative then -size else size, 2 ^ (-exponent).toNat)
  | _ => none

/-- Compare a number with a fraction exactly; nothing compares with no number. -/
def compareFraction (x : Float) (numerator : Int) (denominator : Nat) : Option Ordering :=
  match decompose x with
  | .notANumber => none
  | .infinite negative => some (if negative then .lt else .gt)
  | .finite .. => match fraction? x with
    | some (n, d) => some (compare (n * denominator) (numerator * d))
    | none => none

/-- The number nearest to `numerator / denominator`, ties to the even mantissa.
Numbers beyond the range become infinite. -/
def ofFraction (numerator : Int) (denominator : Nat) : Float :=
  if numerator = 0 ∨ denominator = 0 then 0.0
  else
    let size := numerator.natAbs
    let estimate : Int := (size.log2 : Int) - (denominator.log2 : Int) - 52
    -- The quotient by `2 ^ exponent` has fifty-three or fifty-four binary digits.
    let exponent : Int := max (estimate - 1) (-1074)
    let top := size * 2 ^ (-exponent).toNat
    let bottom := denominator * 2 ^ exponent.toNat
    let quotient := top / bottom
    -- Drop the digits beyond fifty-three, and round with all that was left over.
    let excess := if -1074 < exponent then quotient.log2 - 52 else 0
    let bottom := bottom * 2 ^ excess
    let quotient := top / bottom
    let rest := top % bottom
    let rounded :=
      if 2 * rest < bottom then quotient
      else if bottom < 2 * rest then quotient + 1
      else quotient + quotient % 2
    let exponent := exponent + excess
    let carried := rounded = 2 ^ 53
    let mantissa := if carried then 2 ^ 52 else rounded
    let exponent := if carried then exponent + 1 else exponent
    let bits :=
      if 971 < exponent then 2047 * 2 ^ 52
      else if mantissa < 2 ^ 52 then mantissa
      else (exponent + 1075).toNat * 2 ^ 52 + (mantissa - 2 ^ 52)
    Float.ofBits (UInt64.ofNat (if numerator < 0 then bits + 2 ^ 63 else bits))

/-- An integer is too large for the format when it rounds to no finite number. -/
def ofInt? (n : Int) : Option Float :=
  let x := ofFraction n 1
  if x.isInf then none else some x

end Decimal
end PolicyStudio
