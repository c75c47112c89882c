/-!
# Sets of characters given by ranges

The properties of a large character set are published as long lists of ranges.
A `CharSet` holds such a list in ascending order and answers membership by
halving it.  `CharSet.read` turns the written form, for instance `41-5A 5F`,
into the set.
-/

namespace PolicyStudio
namespace Text

/-- Ascending, disjoint ranges of code points, each with both of its ends. -/
structure CharSet where
  ranges : Array (Nat × Nat)

/-- The value of one hexadecimal digit. -/
def hexDigit? (c : Char) : Option Nat :=
  if '0' ≤ c ∧ c ≤ '9' then some (c.toNat - '0'.toNat)
  else if 'a' ≤ c ∧ c ≤ 'f' then some (c.toNat - 'a'.toNat + 10)
  else if 'A' ≤ c ∧ c ≤ 'F' then some (c.toNat - 'A'.toNat + 10)
  else none

/-- Read hexadecimal digits; any other character counts as nothing. -/
def hexNumber (cs : List Char) : Nat :=
  cs.foldl (fun n c => match hexDigit? c with
    | some d => 16 * n + d
    | none => n) 0

/-- Cut at every occurrence of one character, as often as it occurs. -/
def cutAt (mark : Char) (cs : List Char) : List (List Char) :=
  cs.foldr (fun c pieces =>
    if c = mark then [] :: pieces
    else match pieces with
      | [] => [[c]]
      | piece :: rest => (c :: piece) :: rest) [[]]

namespace CharSet

/-- Read one range: `41-5A`, or `5F` for a single character. -/
def readRange (cs : List Char) : Nat × Nat :=
  match cutAt '-' cs with
  | [low, high] => (hexNumber low, hexNumber high)
  | _ => (hexNumber cs, hexNumber cs)

/-- Read ranges separated by single spaces. -/
def read (text : String) : CharSet :=
  ⟨((cutAt ' ' text.toList).map readRange).toArray⟩

/-- Halve the candidates between `low` and `high` until one range is left. -/
def find (s : CharSet) (n : Nat) : Nat → Nat → Nat → Bool
  | 0, _, _ => false
  | steps + 1, low, high =>
    if low < high then
      let middle := (low + high) / 2
      match s.ranges[middle]? with
      | none => false
      | some (first, last) =>
        if n < first then find s n steps low middle
        else if last < n then find s n steps (middle + 1) high
        else true
    else false

/-- Membership.  Each step halves the candidates, so as many steps as the
number of ranges has binary digits are enough. -/
def contains (s : CharSet) (c : Char) : Bool :=
  s.find c.toNat (s.ranges.size.log2 + 2) 0 s.ranges.size

end CharSet

end Text
end PolicyStudio
