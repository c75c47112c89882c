import PolicyStudio.Script.Lookup

/-!
# Arithmetic on values

The operators between two values.  Integers are exact and of any size, mixed
operands are computed in binary floating point, and texts and sequences can be
joined and repeated.  Division rounds towards the smaller integer, and the
remainder has the sign of the divisor.
-/

namespace PolicyStudio
namespace Script

namespace BinaryOperator

/-- The operator as it is written. -/
def sign : BinaryOperator → String
  | .add => "+"
  | .subtract => "-"
  | .multiply => "*"
  | .matrixMultiply => "@"
  | .divide => "/"
  | .modulo => "%"
  | .power => "**"
  | .shiftLeft => "<<"
  | .shiftRight => ">>"
  | .bitOr => "|"
  | .bitXor => "^"
  | .bitAnd => "&"
  | .floorDivide => "//"

/-- The operator as a refusal names it. -/
def signIn (operator : BinaryOperator) (inPlace : Bool) : String :=
  if inPlace then operator.sign ++ "="
  else if operator = .power then "** or pow()"
  else operator.sign

end BinaryOperator

namespace Arithmetic

open Step

/-- The refusal of an operator. -/
def refused {α : Type} (sign : String) (left right : Value) : Step α := do
  raise .type ("unsupported operand type(s) for " ++ sign ++ ": '" ++ (← left.typeName) ++
    "' and '" ++ (← right.typeName) ++ "'")

/-- An integer as a binary number. -/
def toFloat (n : Int) : Step Float :=
  match Decimal.ofInt? n with
  | some x => return x
  | none => raise .overflow "int too large to convert to float"

/-- Either kind of number as a binary number. -/
def numberToFloat : Int ⊕ Float → Step Float
  | .inl n => toFloat n
  | .inr x => return x

/-- The number of binary digits that hold an integer and its sign. -/
def width (n : Int) : Nat :=
  n.natAbs.log2 + 2

/-- An operation on the binary digits of two integers. -/
def bitwise (operation : Nat → Nat → Nat) (a b : Int) : Int :=
  let bits := max (width a) (width b)
  let unsigned := fun (n : Int) => (Int.emod n (2 ^ bits : Nat)).toNat
  Int.bmod (operation (unsigned a) (unsigned b)) (2 ^ bits)

/-- The quotient of two integers as a binary number, rounded once. -/
def divideIntegers (a b : Int) : Step Value := do
  if b = 0 then raise .zeroDivision "division by zero"
  if a = 0 then return .number (if b < 0 then -0.0 else 0.0)
  let x := Decimal.ofFraction (if b < 0 then -a else a) b.natAbs
  if x.isInf then raise .overflow "integer division result too large for a float"
  return .number x

/-- The remainder of two finite numbers, exact and with the sign of the first. -/
def truncatedRemainder (x y : Float) : Float :=
  match Decimal.fraction? x, Decimal.fraction? y with
  | some (n, d), some (m, e) =>
    let rest := Int.tmod (n * e) (m * d)
    if rest = 0 then (if x.toBits.toNat / 2 ^ 63 = 1 then -0.0 else 0.0)
    else Decimal.ofFraction rest (d * e)
  | some _, none => if y.isInf then x else y
  | none, _ => x - x

/-- A zero with the sign of a number. -/
def zeroLike (x : Float) : Float :=
  if x.toBits.toNat / 2 ^ 63 = 1 then -0.0 else 0.0

/-- The remainder with the sign of the divisor. -/
def floorRemainder (x y : Float) : Float :=
  let rest := truncatedRemainder x y
  if rest.isNaN then rest
  else if rest == 0.0 then zeroLike y
  else if (y < 0.0) != (rest < 0.0) then rest + y
  else rest

/-- The quotient rounded towards the smaller integer. -/
def floorQuotient (x y : Float) : Float :=
  let rest := truncatedRemainder x y
  let quotient := (x - rest) / y
  let quotient :=
    if rest != 0.0 && (y < 0.0) != (rest < 0.0) then quotient - 1.0 else quotient
  if quotient == 0.0 then zeroLike (x / y)
  else
    let floor := quotient.floor
    if quotient - floor > 0.5 then floor + 1.0 else floor

/-- The error of a result beyond the range of binary numbers. -/
def outOfRange {α : Type} : Step α :=
  raiseWith .overflow [.int 34, .text "Numerical result out of range"]

/-- A power of complex numbers. -/
def powerComplex (a b : Decimal.Complex) : Step Value := do
  match a.power b with
  | .ok result => return .complex result
  | .error .ofZero => raise .zeroDivision "0.0 to a negative or complex power"
  | .error .tooLarge => raise .overflow "complex exponentiation"

/-- A power of binary numbers.  A negative number has complex powers where the
exponent is not whole. -/
def powerFloat (x y : Float) : Step Value := do
  if x == 0.0 && y < 0.0 then
    raise .zeroDivision "0.0 cannot be raised to a negative power"
  let finite := fun (z : Float) => !z.isInf && !z.isNaN
  if finite x && x < 0.0 && finite y && (Decimal.whole? y).isNone then
    powerComplex (.ofFloat x) (.ofFloat y)
  else
    let result := Float.pow x y
    if result.isInf && finite x && finite y then outOfRange
    newFloat result

/-- An operator between two integers. -/
def integers (operator : BinaryOperator) (a b : Int) : Step (Option Value) := do
  match operator with
  | .add => return some (.int (a + b))
  | .subtract => return some (.int (a - b))
  | .multiply => return some (.int (a * b))
  | .divide => return some (← divideIntegers a b)
  | .floorDivide =>
    if b = 0 then raise .zeroDivision "integer division or modulo by zero"
    return some (.int (Int.fdiv a b))
  | .modulo =>
    if b = 0 then raise .zeroDivision "integer modulo by zero"
    return some (.int (Int.fmod a b))
  | .power =>
    if a.natAbs ≤ 1 ∧ 0 < b then return some (.int (if b % 2 = 0 then a * a else a))
    if 0 ≤ b then return some (.int (a ^ b.toNat))
    else
      let x ← toFloat a
      let y ← toFloat b
      return some (← powerFloat x y)
  | .shiftLeft =>
    if b < 0 then raise .value "negative shift count"
    if a = 0 then return some (.int 0)
    if 2 ^ 63 ≤ b then raise .overflow "too many digits in integer"
    if 2 ^ 36 ≤ b then raiseWith .memory []
    return some (.int (a * 2 ^ b.toNat))
  | .shiftRight =>
    if b < 0 then raise .value "negative shift count"
    if (width a : Int) ≤ b then return some (.int (if a < 0 then -1 else 0))
    return some (.int (Int.fdiv a (2 ^ b.toNat)))
  | .bitOr => return some (.int (bitwise (· ||| ·) a b))
  | .bitXor => return some (.int (bitwise (· ^^^ ·) a b))
  | .bitAnd => return some (.int (bitwise (· &&& ·) a b))
  | .matrixMultiply => return none

/-- An operator between two binary numbers. -/
def floats (operator : BinaryOperator) (x y : Float) : Step (Option Value) := do
  match operator with
  | .add => return some (← newFloat (x + y))
  | .subtract => return some (← newFloat (x - y))
  | .multiply => return some (← newFloat (x * y))
  | .divide =>
    if y == 0.0 then raise .zeroDivision "float division by zero"
    return some (← newFloat (x / y))
  | .floorDivide =>
    if y == 0.0 then raise .zeroDivision "float floor division by zero"
    return some (← newFloat (floorQuotient x y))
  | .modulo =>
    if y == 0.0 then raise .zeroDivision "float modulo"
    return some (← newFloat (floorRemainder x y))
  | .power => return some (← powerFloat x y)
  | _ => return none

/-- Two truth values stay truth values under the operators on binary digits. -/
def truths (operator : BinaryOperator) (a b : Bool) : Option Value :=
  match operator with
  | .bitOr => some (.bool (a || b))
  | .bitXor => some (.bool (a != b))
  | .bitAnd => some (.bool (a && b))
  | _ => none

/-- An operator between two numbers. -/
def numbers (operator : BinaryOperator) (a b : Int ⊕ Float) : Step (Option Value) := do
  match a, b with
  | .inl m, .inl n => integers operator m n
  | _, _ =>
    match operator with
    | .add | .subtract | .multiply | .divide | .floorDivide | .modulo | .power =>
      let x ← numberToFloat a
      let y ← numberToFloat b
      floats operator x y
    | _ => return none

/-- A number as a complex number for an operator. -/
def toComplex (value : Value) : Step (Option Decimal.Complex) := do
  match value, value.number? with
  | .complex z, _ => return some z
  | _, some number => return some (.ofFloat (← numberToFloat number))
  | _, none => return none

/-- An operator between two numbers, one of which is complex. -/
def complexNumbers (operator : BinaryOperator) (left right : Value) : Step (Option Value) := do
  match ← toComplex left, ← toComplex right with
  | some a, some b =>
    match operator with
    | .add => return some (.complex (a.add b))
    | .subtract => return some (.complex (a.subtract b))
    | .multiply => return some (.complex (a.multiply b))
    | .divide => match a.divide? b with
      | some quotient => return some (.complex quotient)
      | none => raise .zeroDivision "complex division by zero"
    | .power => return some (← powerComplex a b)
    | _ => return none
  | _, _ => return none

/-- How many members a sequence may have. -/
def sizeLimit : Nat := 2 ^ 63 - 1

/-- For how many members the machine has no room. -/
def roomLimit : Nat := 2 ^ 36

/-- A number of repetitions must be a possible size. -/
def checkCount (n : Int) : Step Unit := do
  if n < -2 ^ 63 ∨ 2 ^ 63 ≤ n then
    raise .overflow "cannot fit 'int' into an index-sized integer"

/-- There must be room for a sequence that is repeated; `refusal` tells what
cannot even be counted. -/
def checkRoom (length : Nat) (count : Int) (refusal : Option String) : Step Unit := do
  let total := length * count.toNat
  match refusal with
  | some message => if sizeLimit < total then raise .overflow message
  | none => pure ()
  if roomLimit ≤ total then raiseWith .memory []

/-- A text several times in a row, put together from halves. -/
def repeatedText (s : String) (count : Nat) : String :=
  if _h : count = 0 then ""
  else
    let half := repeatedText s (count / 2)
    if count % 2 = 0 then half ++ half else half ++ half ++ s
termination_by count
decreasing_by omega

/-- Members several times in a row. -/
def repeated {α : Type} (items : Array α) (count : Nat) : Array α :=
  if items.isEmpty then #[] else Nat.repeat (· ++ items) count #[]

/-- A sequence repeated, if the value is one. -/
def repeatValue? (value : Value) (count : Int) : Step (Option Value) := do
  checkCount count
  match value with
  | .text s => do
    checkRoom s.length count (some "repeated string is too long")
    return some (.text (if s.isEmpty then "" else repeatedText s count.toNat))
  | .bytes content => do
    checkRoom content.length count (some "repeated bytes are too long")
    return some (.bytes (repeated content.toArray count.toNat).toList)
  | .tuple items => do
    checkRoom items.length count none
    return some (.tuple (repeated items.toArray count.toNat).toList)
  | .object address => do
    match ← load address with
    | .list items => do
      checkRoom items.size count none
      return some (← allocate (.list (repeated items count.toNat)))
    | _ => return none
  | _ => return none

/-- The value can be repeated. -/
def isSequence : Value → Step Bool
  | .text _ | .bytes _ | .tuple _ => return true
  | .object address => do
    match ← load address with
    | .list _ => return true
    | _ => return false
  | _ => return false

/-- A number of repetitions. -/
def count? : Value → Option Int
  | .int n => some n
  | .bool b => some (if b then 1 else 0)
  | _ => none

/-- Repeat the sequence on either side. -/
def multiply (sign : String) (left right : Value) : Step Value := do
  if ← isSequence left then
    match count? right with
    | some count => return (← repeatValue? left count).getD .none
    | none => raise .type ("can't multiply sequence by non-int of type '" ++
        (← right.typeName) ++ "'")
  else if ← isSequence right then
    match count? left with
    | some count => return (← repeatValue? right count).getD .none
    | none => raise .type ("can't multiply sequence by non-int of type '" ++
        (← left.typeName) ++ "'")
  else refused sign left right

/-- The refusal to join values of different types. -/
def joinRefused {α : Type} (kind : String) (right : Value) : Step α := do
  raise .type ("can only concatenate " ++ kind ++ " (not \"" ++ (← right.typeName) ++ "\") to " ++
    kind)

/-- Join two sequences of one type. -/
def concatenate (sign : String) (left right : Value) : Step Value := do
  match left, right with
  | .text a, .text b => return .text (a ++ b)
  | .text _, _ => joinRefused "str" right
  | .bytes a, .bytes b => return .bytes (a ++ b)
  | .bytes _, _ => raise .type ("can't concat " ++ (← right.typeName) ++ " to bytes")
  | .tuple a, .tuple b => return .tuple (a ++ b)
  | .tuple _, _ => joinRefused "tuple" right
  | .object a, .object b => do
    match ← load a, ← load b with
    | .list items, .list others => allocate (.list (items ++ others))
    | .list _, _ => joinRefused "list" right
    | _, _ => refused sign left right
  | .object a, _ => do
    match ← load a with
    | .list _ => joinRefused "list" right
    | _ => refused sign left right
  | _, _ => refused sign left right

/-- An operator between sets. -/
def sets (operator : BinaryOperator) (a b : Members) : Step (Option Members) := do
  match operator with
  | .bitOr => return some (← a.copy.unite b)
  | .bitAnd => return some (← a.intersect b)
  | .subtract => return some (← a.subtract b)
  | .bitXor => return some (← b.copy.toggleAll a.toList)
  | _ => return none

/-- An operator between two objects. -/
def objects (operator : BinaryOperator) (sign : String) (left right : Value)
    (first second : Object) : Step Value := do
  match operator, first, second with
  | .bitOr, .dictionary entries, .dictionary others =>
    allocate (.dictionary (← entries.putAll others.toList))
  | _, .set members, .set others =>
    match ← sets operator members others with
    | some result => allocate (.set result)
    | none => refused sign left right
  | _, _, _ => refused sign left right

end Arithmetic

end Script
end PolicyStudio
