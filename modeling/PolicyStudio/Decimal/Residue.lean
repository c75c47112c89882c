import PolicyStudio.Decimal.Complex

/-!
# Residues of numbers

A residue is an integer that equal numbers of all types have in common: the rest of
the number by a prime, where a power of two in the denominator divides as it does in
the field of that prime.  No residue is minus one.
-/

namespace PolicyStudio
namespace Decimal
namespace Residue

/-- The prime by which rests are taken. -/
def modulus : Nat := 2 ^ 61 - 1

/-- The residue of the infinite numbers, without the sign. -/
def infinite : Int := 314159

/-- Minus one is set aside. -/
def settle (n : Int) : Int :=
  if n = -1 then -2 else n

/-- The residue of an integer has its sign. -/
def ofInt (n : Int) : Int :=
  settle (Int.tmod n modulus)

/-- The residue of a binary number, if it is a number.  Two has order 61 in the field. -/
def ofFloat? (x : Float) : Option Int :=
  match decompose x with
  | .notANumber => none
  | .infinite negative => some (if negative then -infinite else infinite)
  | .finite negative mantissa exponent _ =>
    let rest : Int := (mantissa * 2 ^ (exponent % 61).toNat % modulus : Nat)
    some (settle (if negative then -rest else rest))

/-- An integer as a machine word. -/
def word (n : Int) : UInt64 :=
  UInt64.ofNat (n % 2 ^ 64).toNat

/-- The integer that a machine word with a sign holds. -/
def ofWord (w : UInt64) : Int :=
  if w.toNat < 2 ^ 63 then w.toNat else (w.toNat : Int) - 2 ^ 64

/-- The residue of a complex number. -/
def ofComplex? (z : Complex) : Option Int := do
  let real ← ofFloat? z.real
  let imaginary ← ofFloat? z.imaginary
  some (settle (ofWord (word real + 1000003 * word imaginary)))

/-- The residue of a sequence with these residues. -/
def ofSequence (residues : List Int) : Int :=
  let mixed := residues.foldl (fun (mixed : UInt64) residue =>
    let mixed := mixed + word residue * 14029467366897019727
    (mixed <<< 31 ||| mixed >>> 33) * 11400714785074694791) 2870177450012600261
  let mixed := mixed + (UInt64.ofNat residues.length ^^^ (2870177450012600261 ^^^ 3527539))
  if mixed = 0 - 1 then 1546275796 else ofWord mixed

end Residue
end Decimal
end PolicyStudio
