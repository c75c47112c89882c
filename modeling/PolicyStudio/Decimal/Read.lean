import PolicyStudio.Decimal.Binary
import PolicyStudio.Text.Blank
import PolicyStudio.Text.Case
import PolicyStudio.Text.Digit

/-!
# Reading numbers

Numbers are read from texts with blanks around them, an optional sign, digits of
any script, and single underscores between digits.
-/

namespace PolicyStudio
namespace Decimal

/-- The value of a digit in a base of at most thirty-six. -/
def digitIn? (base : Nat) (c : Char) : Option Nat :=
  let value := match Text.digit? c with
    | some d => some d
    | none =>
      if 'a' ≤ c ∧ c ≤ 'z' then some (c.toNat - 'a'.toNat + 10)
      else if 'A' ≤ c ∧ c ≤ 'Z' then some (c.toNat - 'A'.toNat + 10)
      else none
  value.filter (· < base)

/-- Read digits with single underscores between them.  `afterDigit` tells whether
an underscore may come next. -/
def readDigits (base : Nat) (afterDigit : Bool) (n : Nat) : List Char → Option Nat
  | [] => if afterDigit then some n else none
  | c :: rest =>
    if c = '_' then (if afterDigit then readDigits base false n rest else none)
    else match digitIn? base c with
      | some d => readDigits base true (base * n + d) rest
      | none => none

/-- Split off a sign. -/
def takeSign : List Char → Bool × List Char
  | '-' :: rest => (true, rest)
  | '+' :: rest => (false, rest)
  | cs => (false, cs)

/-- The base that a two-character mark stands for. -/
def baseOfMark? : List Char → Option Nat
  | ['0', 'x'] | ['0', 'X'] => some 16
  | ['0', 'o'] | ['0', 'O'] => some 8
  | ['0', 'b'] | ['0', 'B'] => some 2
  | _ => none

/-- The digits after the mark of a base, if the mark is there; an underscore may
follow the mark. -/
def afterMark (base : Nat) (cs : List Char) : Nat × List Char :=
  let found := baseOfMark? (cs.take 2)
  let rest := match cs.drop 2 with
    | '_' :: digits => digits
    | digits => digits
  if base = 0 then
    match found with
    | some other => (other, rest)
    | none => (10, cs)
  else if found = some base then (base, rest)
  else (base, cs)

/-- Read an integer in a base; base zero takes the base from the mark, and then
refuses superfluous zeros in front. -/
def readInteger? (base : Nat) (text : String) : Option Int :=
  let (negative, cs) := takeSign (Text.trim text.toList)
  let (actual, digits) := afterMark base cs
  let superfluous := base = 0 && actual = 10 && cs.head? == some '0' &&
    cs.any fun c => c != '0' && c != '_'
  if superfluous then none
  else match readDigits actual false 0 digits with
    | some n => some (if negative then - (n : Int) else n)
    | none => none

/-- The number `n * 10 ^ exponent`, rounded once. -/
def ofDecimal (n : Nat) (exponent : Int) : Float :=
  let size := (n.repr.length : Int) + exponent
  if n = 0 ∨ size < -400 then 0.0
  else if 400 < size then Float.ofBits (UInt64.ofNat (2047 * 2 ^ 52))
  else ofFraction (n * 10 ^ exponent.toNat : Nat) (10 ^ (-exponent).toNat)

/-- Digits in ASCII, with single underscores between digits taken out. -/
def plainDigits (afterDigit : Bool) : List Char → Option (List Char)
  | [] => some []
  | c :: rest =>
    if c = '_' then
      match rest with
      | d :: _ => if afterDigit ∧ (Text.digit? d).isSome then plainDigits false rest else none
      | [] => none
    else match Text.digit? c with
      | some d => (plainDigits true rest).map (Char.ofNat ('0'.toNat + d) :: ·)
      | none => (plainDigits false rest).map (c :: ·)

/-- Read a number in positional or scientific form, without blanks and sign. -/
def readUnsigned? (cs : List Char) : Option Float :=
  let isDigit := fun (c : Char) => '0' ≤ c && c ≤ '9'
  let whole := cs.takeWhile isDigit
  let rest := cs.dropWhile isDigit
  let (fraction, rest) := match rest with
    | '.' :: tail => (tail.takeWhile isDigit, tail.dropWhile isDigit)
    | other => ([], other)
  let digits := (whole ++ fraction).foldl (fun n c => 10 * n + (c.toNat - '0'.toNat)) 0
  if whole.isEmpty ∧ fraction.isEmpty then none
  else match rest with
    | [] => some (ofDecimal digits (- (fraction.length : Int)))
    | mark :: tail =>
      if mark ≠ 'e' ∧ mark ≠ 'E' then none
      else
        let (negative, power) := takeSign tail
        if power.isEmpty ∨ !power.all isDigit then none
        else
          let size : Int :=
            (power.foldl (fun n c => 10 * n + (c.toNat - '0'.toNat)) 0 : Nat)
          some (ofDecimal digits ((if negative then -size else size) - fraction.length))

/-- Read a number from a text. -/
def readFloat? (text : String) : Option Float :=
  let (negative, cs) := takeSign (Text.trim text.toList)
  let word := String.ofList (cs.map Char.toLower)
  let value :=
    if word = "inf" ∨ word = "infinity" then
      some (Float.ofBits (UInt64.ofNat (2047 * 2 ^ 52)))
    else if word = "nan" then some (Float.ofBits (UInt64.ofNat (4095 * 2 ^ 51)))
    else match plainDigits false cs with
      | some plain => readUnsigned? plain
      | none => none
  value.map fun x => if negative then -x else x

end Decimal
end PolicyStudio
