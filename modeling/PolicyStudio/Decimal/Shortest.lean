/-!
# The shortest decimal that reads back

A finite binary number stands for all reals that are nearer to it than to its
neighbours.  Among the decimals in this interval the shortest is chosen, and of
those with equally many digits the nearest to the number itself.

Everything is decided in exact arithmetic.  For a growing count of digits the
two neighbours of the number on the decimal grid of that count are tested; if
any decimal of the grid lies in the interval, one of the two does.
-/

-- Powers of numbers are the built-in ones, also where an algebra brings others.
attribute [instance (2000)] instPowNat
attribute [default_instance (20000)] instPowNat

namespace PolicyStudio
namespace Decimal

/-- Digits with the place of the point: `digits / 10 ^ count * 10 ^ point`. -/
structure Digits where
  digits : List Char
  point : Int
deriving Repr, DecidableEq

/-- A positive number and the ends of its interval, over a common denominator. -/
structure Cell where
  low : Nat
  value : Nat
  high : Nat
  unit : Nat
  /-- Whether the ends belong to the interval. -/
  closed : Bool

namespace Cell

/-- The cell of `mantissa * 2 ^ exponent`.  At a power of two the gap below is
half as wide, which `narrow` tells. -/
def ofBinary (mantissa : Nat) (exponent : Int) (narrow : Bool) : Cell :=
  let shift := exponent - 2
  let scale := 2 ^ shift.toNat
  { low := (4 * mantissa - (if narrow then 1 else 2)) * scale
    value := 4 * mantissa * scale
    high := (4 * mantissa + 2) * scale
    unit := 2 ^ (-shift).toNat
    closed := mantissa % 2 = 0 }

/-- The number of decimal digits of a positive number. -/
def digitCount (n : Nat) : Nat :=
  n.repr.length

/-- The place of the point: the least `p` with the value below `10 ^ p`. -/
def point (c : Cell) : Int :=
  if c.unit ≤ c.value then digitCount (c.value / c.unit)
  else
    let places := digitCount (c.unit / c.value)
    if c.unit ≤ c.value * 10 ^ (places - 1) then 2 - (places : Int) else 1 - (places : Int)

/-- The cell with everything multiplied by `10 ^ (-exponent)`. -/
def scaled (c : Cell) (exponent : Int) : Cell :=
  let up := 10 ^ (-exponent).toNat
  let down := 10 ^ exponent.toNat
  { low := c.low * up, value := c.value * up, high := c.high * up, unit := c.unit * down,
    closed := c.closed }

/-- The whole number `n` lies in the interval. -/
def contains (c : Cell) (n : Nat) : Bool :=
  let x := n * c.unit
  if c.closed then c.low ≤ x && x ≤ c.high else c.low < x && x < c.high

/-- The neighbour of the value on the grid of whole numbers that lies in the
interval; the nearer one if both do, the even one if they are equally near. -/
def nearest? (c : Cell) : Option Nat :=
  let below := c.value / c.unit
  let above := below + 1
  match c.contains below, c.contains above with
  | false, false => none
  | true, false => some below
  | false, true => some above
  | true, true =>
    let left := c.value - below * c.unit
    let right := above * c.unit - c.value
    if left < right then some below
    else if right < left then some above
    else some (if below % 2 = 0 then below else above)

/-- Try grids of `count`, `count + 1`, … digits.  Seventeen digits are always
enough for the numbers of this format. -/
def search (c : Cell) (point : Int) : Nat → Nat → Nat × Int
  | 0, count => ((c.scaled (point - count)).value / (c.scaled (point - count)).unit, point - count)
  | tries + 1, count =>
    match (c.scaled (point - count)).nearest? with
    | some n => if n = 0 then search c point tries (count + 1) else (n, point - count)
    | none => search c point tries (count + 1)

end Cell

/-- The digits of a number without the zeros at its end. -/
def significant (n : Nat) : List Char :=
  ((n.repr.toList.reverse).dropWhile (· == '0')).reverse

/-- Digits of `n * 10 ^ exponent`. -/
def Digits.ofScaled (n : Nat) (exponent : Int) : Digits :=
  ⟨significant n, exponent + n.repr.length⟩

/-- The shortest digits for `mantissa * 2 ^ exponent`, which is not zero. -/
def shortest (mantissa : Nat) (exponent : Int) (narrow : Bool) : Digits :=
  let cell := Cell.ofBinary mantissa exponent narrow
  let (n, e) := cell.search cell.point 17 1
  Digits.ofScaled n e

end Decimal
end PolicyStudio
