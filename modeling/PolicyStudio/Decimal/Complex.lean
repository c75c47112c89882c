import PolicyStudio.Decimal.Layout
import PolicyStudio.Decimal.Read

/-!
# Complex numbers

A complex number is a pair of binary numbers, and its operations are those of the
pair, in the order of operations that keeps the loss of digits small.  A quotient
is computed after dividing by the larger part of the divisor.  Powers with a small
whole exponent are products; all others go through length and angle.
-/

namespace PolicyStudio
namespace Decimal

/-- A complex number. -/
structure Complex where
  real : Float
  imaginary : Float

/-- Why there is no power. -/
inductive PowerFault where
  /-- Zero has no power with a negative or complex exponent. -/
  | ofZero
  | tooLarge
deriving Repr, DecidableEq

namespace Complex

/-- A binary number as a complex number. -/
def ofFloat (x : Float) : Complex := ⟨x, 0.0⟩

/-- The sum. -/
def add (a b : Complex) : Complex :=
  ⟨a.real + b.real, a.imaginary + b.imaginary⟩

/-- The difference. -/
def subtract (a b : Complex) : Complex :=
  ⟨a.real - b.real, a.imaginary - b.imaginary⟩

/-- The product. -/
def multiply (a b : Complex) : Complex :=
  ⟨a.real * b.real - a.imaginary * b.imaginary, a.real * b.imaginary + a.imaginary * b.real⟩

/-- The number with both signs turned. -/
def negate (a : Complex) : Complex :=
  ⟨-a.real, -a.imaginary⟩

/-- The number mirrored at the real line. -/
def conjugate (a : Complex) : Complex :=
  ⟨a.real, -a.imaginary⟩

/-- Both parts are zero. -/
def isZero (a : Complex) : Bool :=
  a.real == 0.0 && a.imaginary == 0.0

/-- The quotient, unless the divisor is zero. -/
def divide? (a b : Complex) : Option Complex :=
  if b.imaginary.abs ≤ b.real.abs then
    if b.real.abs == 0.0 then none
    else
      let ratio := b.imaginary / b.real
      let bottom := b.real + b.imaginary * ratio
      some ⟨(a.real + a.imaginary * ratio) / bottom, (a.imaginary - a.real * ratio) / bottom⟩
  else if b.real.abs ≤ b.imaginary.abs then
    let ratio := b.real / b.imaginary
    let bottom := b.real * ratio + b.imaginary
    some ⟨(a.real * ratio + a.imaginary) / bottom, (a.imaginary * ratio - a.real) / bottom⟩
  else
    let nan : Float := 0.0 / 0.0
    some ⟨nan, nan⟩

/-- The square root of a fraction as a binary number, from its integer part at a
scale at which it has more digits than are kept. -/
def rootOfFraction (numerator denominator : Nat) : Float :=
  let shift := 2 * (80 + denominator.log2)
  let scaled := numerator * 2 ^ shift / denominator
  ofFraction (2 * Nat.sqrt scaled + 1 : Nat) (2 * 2 ^ (shift / 2))

/-- The distance from zero. -/
def magnitude (a : Complex) : Float :=
  if a.real.isInf || a.imaginary.isInf then Float.ofBits (UInt64.ofNat (2047 * 2 ^ 52))
  else if a.imaginary == 0.0 then a.real.abs
  else if a.real == 0.0 then a.imaginary.abs
  else match fraction? a.real, fraction? a.imaginary with
    | some (n, d), some (m, e) =>
      rootOfFraction ((n * e) ^ 2 + (m * d) ^ 2).toNat ((d * e) ^ 2)
    | _, _ => a.real + a.imaginary

/-- A power with a whole exponent, by repeated squaring; `result` collects the
factors. -/
def powerNat (result square : Complex) : Nat → Nat → Complex
  | 0, _ => result
  | _ + 1, 0 => result
  | steps + 1, n =>
    let result := if n % 2 = 1 then result.multiply square else result
    powerNat result (square.multiply square) steps (n / 2)

/-- A power by length and angle.  An angle without bounds has no direction. -/
def powerPolar (a b : Complex) : Except PowerFault Complex :=
  if b.isZero then .ok ⟨1.0, 0.0⟩
  else if a.isZero then
    if b.imaginary != 0.0 || b.real < 0.0 then .error .ofZero else .ok ⟨0.0, 0.0⟩
  else
    let size := a.magnitude
    let angle := Float.atan2 a.imaginary a.real
    let length := Float.pow size b.real
    let phase := angle * b.real
    let (length, phase) :=
      if b.imaginary != 0.0 then
        (length / Float.exp (angle * b.imaginary), phase + b.imaginary * Float.log size)
      else (length, phase)
    if phase.isInf then .error .ofZero
    else .ok ⟨length * Float.cos phase, length * Float.sin phase⟩

/-- The exponent up to which whole powers are products. -/
def wholeExponentLimit : Nat := 100

/-- A power. -/
def power (a b : Complex) : Except PowerFault Complex := do
  let one : Complex := ⟨1.0, 0.0⟩
  let whole := if b.imaginary == 0.0 then whole? b.real else none
  let result ← match whole with
    | some n =>
      if n.natAbs ≤ wholeExponentLimit then
        let size := powerNat one a (n.natAbs.log2 + 1) n.natAbs
        if 0 < n then pure size
        else match one.divide? size with
          | some inverse => pure inverse
          | none => throw .ofZero
      else powerPolar a b
    | none => powerPolar a b
  if result.real.isInf || result.imaginary.isInf then throw .tooLarge
  return result

/-! ## Texts -/

/-- Read a part that has no blanks; a part of an imaginary unit may be a bare
sign. -/
def readPart? (isUnit : Bool) (cs : List Char) : Option Float :=
  match isUnit, cs with
  | true, [] | true, ['+'] => some 1.0
  | true, ['-'] => some (-1.0)
  | _, _ => if cs.any Text.isBlank then none else readFloat? (String.ofList cs)

/-- The characters before the last sign that is not that of an exponent, and those
from it on, given what comes before; `found` holds the last cut so far. -/
def cutAtSign (before : List Char) (found : Option (List Char × List Char)) :
    List Char → Option (List Char × List Char)
  | [] => found
  | c :: rest =>
    let isCut := (c = '+' || c = '-') && match before with
      | [] => false
      | last :: _ => last != 'e' && last != 'E'
    cutAtSign (c :: before) (if isCut then some (before.reverse, c :: rest) else found) rest

/-- Read a complex number that ends with the imaginary unit, or a real one. -/
def readSum? (cs : List Char) : Option Complex :=
  match cs.getLast? with
  | some 'j' | some 'J' =>
    let body := cs.dropLast
    match cutAtSign [] none body with
    | none => (readPart? true body).map fun y => ⟨0.0, y⟩
    | some (first, second) => match readPart? false first, readPart? true second with
      | some x, some y => some ⟨x, y⟩
      | _, _ => none
  | _ => (readPart? false cs).map ofFloat

/-- Read a complex number from a text, which may stand in one pair of brackets. -/
def read? (text : String) : Option Complex :=
  match Text.trim text.toList with
  | '(' :: rest => match rest.getLast? with
    | some ')' => readSum? (Text.trim rest.dropLast)
    | _ => none
  | cs => readSum? cs

/-- A part without the point and the zero that mark a whole number. -/
def partText (x : Float) : String :=
  let cs := (floatText x).toList
  if cs.drop (cs.length - 2) = ['.', '0'] then String.ofList (cs.take (cs.length - 2))
  else String.ofList cs

/-- A part with its sign. -/
def signedText (x : Float) : String :=
  let text := partText x
  if text.startsWith "-" then text else "+" ++ text

/-- The number as it is written: a real part of zero is left out. -/
def write (a : Complex) : String :=
  if a.real.toBits = 0 then partText a.imaginary ++ "j"
  else "(" ++ partText a.real ++ signedText a.imaginary ++ "j)"

end Complex
end Decimal
end PolicyStudio
