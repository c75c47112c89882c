/-!
# Labels in the smallest set

A label of a domain that holds characters beyond the smallest set is written by
its characters of that set and a number for each of the others, in the order of
their codes.  The numbers are differences; how many digits they take adapts to the
differences before.

Each loop ends because what it takes apart becomes smaller.
-/

namespace PolicyStudio
namespace Url
namespace Punycode

/-- A digit of base thirty-six: letters first. -/
def digit (n : Nat) : Char :=
  if n < 26 then Char.ofNat (0x61 + n) else Char.ofNat (0x30 + n - 26)

/-- From where on a digit is not the last one. -/
def threshold (position bias : Nat) : Nat :=
  if position ≤ bias then 1 else if bias + 26 ≤ position then 26 else position - bias

theorem threshold_pos (position bias : Nat) : 0 < threshold position bias := by
  unfold threshold
  split
  · omega
  · split <;> omega

/-- Divide until the difference is small, and count the digits. -/
def shrink (difference count : Nat) : Nat × Nat :=
  if 455 < difference then shrink (difference / 35) (count + 36) else (difference, count)
termination_by difference
decreasing_by exact Nat.div_lt_self (by omega) (by omega)

/-- The bias after a difference, when so many characters are written. -/
def adapt (difference written : Nat) (first : Bool) : Nat :=
  let start := if first then difference / 700 else difference / 2
  let (rest, count) := shrink (start + start / written) 0
  count + 36 * rest / (rest + 38)

/-- The digits of a difference. -/
def digits (bias position n : Nat) : List Char :=
  let least := threshold position bias
  if n < least then [digit n]
  else
    digit (least + (n - least) % (36 - least)) ::
      digits bias (position + 36) ((n - least) / (36 - least))
termination_by n
decreasing_by
  have positive := threshold_pos position bias
  exact Nat.lt_of_le_of_lt (Nat.div_le_self _ _) (by omega)

/-- How far the writing of a label is. -/
structure Progress where
  written : List Char
  difference : Nat
  bias : Nat
  count : Nat

/-- Take one character while the characters with a code are written. -/
def Progress.step (basic code : Nat) (progress : Progress) (c : Char) : Progress :=
  if c.toNat < code then { progress with difference := progress.difference + 1 }
  else if c.toNat = code then
    { written := progress.written ++ digits progress.bias 36 progress.difference
      difference := 0
      bias := adapt progress.difference (progress.count + 1) (progress.count == basic)
      count := progress.count + 1 }
  else progress

/-- Write the characters with each of the codes, in ascending order. -/
def writeCodes (label : List Char) (basic : Nat) : List Nat → Nat → Progress → Progress
  | [], _, progress => progress
  | code :: rest, next, progress =>
    let start :=
      { progress with
        difference := progress.difference + (code - next) * (progress.count + 1) }
    let done := label.foldl (Progress.step basic code) start
    writeCodes label basic rest (code + 1) { done with difference := done.difference + 1 }

/-- A label in the smallest set. -/
def encode (label : List Char) : List Char :=
  let basic := label.filter fun c => c.toNat < 0x80
  let codes := ((label.map Char.toNat).filter (0x80 ≤ ·)).mergeSort.eraseReps
  let start : Progress := ⟨[], 0, 72, basic.length⟩
  let numbers := (writeCodes label basic.length codes 0x80 start).written
  (if basic.isEmpty then [] else basic ++ ['-']) ++ numbers

/-! ## Reading -/

/-- The value of a digit; letters count as digits in both sizes. -/
def value? (c : Char) : Option Nat :=
  if 'a' ≤ c ∧ c ≤ 'z' then some (c.toNat - 'a'.toNat)
  else if 'A' ≤ c ∧ c ≤ 'Z' then some (c.toNat - 'A'.toNat)
  else if '0' ≤ c ∧ c ≤ '9' then some (26 + (c.toNat - '0'.toNat))
  else none

/-- Read the digits of a difference; the last one is below its threshold.  What is
left is returned, too. -/
def readDifference (bias : Nat) : Nat → Nat → Nat → List Char → Option (Nat × List Char)
  | _, _, _, [] => none
  | position, weight, sum, c :: rest => do
    let d ← value? c
    let least := threshold position bias
    let sum := sum + d * weight
    if d < least then return (sum, rest)
    else readDifference bias (position + 36) (weight * (36 - least)) sum rest

/-- The character with a code, if there is one. -/
def charOf? (code : Nat) : Option Char :=
  if code.isValidChar then some (Char.ofNat code) else none

/-- Read the differences and put a character for each of them into its place; `count`
bounds how many there are. -/
def readCodes : Nat → Nat → Nat → Nat → List Char → List Char → Option (List Char)
  | _, _, _, _, label, [] => some label
  | 0, _, _, _, _, _ => none
  | count + 1, code, start, bias, label, cs => do
    let (difference, rest) ← readDifference bias 36 1 0 cs
    let length := label.length + 1
    let place := start + difference
    let code := code + place / length
    let c ← charOf? code
    let index := place % length
    readCodes count code (index + 1) (adapt difference length (start == 0))
      (label.take index ++ c :: label.drop index) rest

/-- The label that is written in the smallest set. -/
def decode? (cs : List Char) : Option (List Char) :=
  let (basic, numbers) := match cs.reverse.span (· ≠ '-') with
    | (numbers, _ :: basic) =>
      if basic.isEmpty then ([], cs) else (basic.reverse, numbers.reverse)
    | _ => ([], cs)
  if basic.all fun c => c.toNat < 0x80 then readCodes cs.length 0x80 0 72 basic numbers
  else none

end Punycode
end Url
end PolicyStudio
