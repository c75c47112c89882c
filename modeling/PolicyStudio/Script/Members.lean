import PolicyStudio.Decimal.Residue
import PolicyStudio.Script.Value

/-!
# Sets

The members of a set stand in the places of a table, and are met in the order of
their places.  A member goes to the place that its residue names, or, where that is
taken, to one of the places that are tried after it; so whole numbers that are small
come in ascending order.  Members without a residue come in the order in which they
were added.
-/

namespace PolicyStudio
namespace Script

open Decimal

mutual

/-- The residue of a value, if it has one. -/
def Value.residue? : Value → Option Int
  | .int n => some (Residue.ofInt n)
  | .bool b => some (if b then 1 else 0)
  | .float x _ => Residue.ofFloat? x
  | .complex z => Residue.ofComplex? z
  | .text s => if s.isEmpty then some 0 else Option.none
  | .bytes content => if content.isEmpty then some 0 else Option.none
  | .tuple items => (residuesOf? items).map Residue.ofSequence
  | _ => Option.none

/-- The residues of all values, if all have one. -/
def residuesOf? : List Value → Option (List Int)
  | [] => some []
  | value :: rest => do
    let residue ← value.residue?
    return residue :: (← residuesOf? rest)

end

/-- A place of a table. -/
inductive Place where
  | free
  /-- A member was here. -/
  | left
  | taken (word : Nat) (member : Value)

/-- The members of a set in the places of a table. -/
structure Members where
  places : Array Place
  size : Nat
  /-- How many places members have left. -/
  gone : Nat

namespace Members

/-- The least size of a table. -/
def leastTable : Nat := 8

/-- How many places after one are tried before another one is computed. -/
def neighbours : Nat := 9

/-- The table of a size that is empty. -/
def emptyTable (size : Nat) : Array Place :=
  Array.replicate size .free

/-- The set without members. -/
def empty : Members := ⟨emptyTable leastTable, 0, 0⟩

instance : Inhabited Members := ⟨empty⟩

/-- The places with members. -/
def taken (members : Members) : List (Nat × Value) :=
  members.places.toList.filterMap fun place => match place with
    | .taken word member => some (word, member)
    | _ => none

/-- The members in order. -/
def toList (members : Members) : List Value :=
  members.taken.map (·.2)

/-- There are no members. -/
def isEmpty (members : Members) : Bool :=
  members.size == 0

/-- Look for a free place among so many from one on.  A place that was left and comes
before it takes precedence; `left` is the last one so far. -/
def freeAmong (places : Array Place) (left : Option Nat) (place : Nat) :
    Nat → Option Nat × Option Nat
  | 0 => (none, left)
  | count + 1 => match places[place]? with
    | some .free => (some (left.getD place), left)
    | some .left => freeAmong places (some place) (place + 1) count
    | _ => freeAmong places left (place + 1) count

/-- The place that is found for a word.  What is left of the word, `rest`, decides
where the search goes on; `tries` bounds it. -/
def freeFrom (places : Array Place) (left : Option Nat) : Nat → (place rest : Nat) → Nat
  | 0, place, _ => place
  | tries + 1, place, rest =>
    let inReach := place + neighbours < places.size
    match freeAmong places left place (if inReach then neighbours + 1 else 1) with
    | (some found, _) => found
    | (none, left) =>
      let rest := rest / 32
      freeFrom places left tries ((place * 5 + 1 + rest) % places.size) rest

/-- The place where a word leads. -/
def placeFor (places : Array Place) (word : Nat) : Nat :=
  freeFrom places none (places.size + 16) (word % places.size) word

/-- Put a member where its word leads. -/
def settle (places : Array Place) (word : Nat) (member : Value) : Array Place :=
  places.setIfInBounds (placeFor places word) (.taken word member)

/-- The least table size above a count; the number of doublings is bounded. -/
def sizeAbove (count : Nat) : Nat :=
  doubled 64 leastTable
where
  /-- Double until the size is above the count. -/
  doubled : Nat → Nat → Nat
    | 0, size => size
    | steps + 1, size => if size ≤ count then doubled steps (2 * size) else size

/-- The set in a table of a size above a count, without places that were left. -/
def resized (members : Members) (count : Nat) : Members :=
  ⟨members.taken.foldl (fun places (word, member) => settle places word member)
    (emptyTable (sizeAbove count)), members.size, 0⟩

/-- Make room as the set grows. -/
def grown (members : Members) : Members :=
  members.resized (members.size * if 50000 < members.size then 2 else 4)

/-- So many places are too many for a table. -/
def isTight (members : Members) (used : Nat) : Bool :=
  3 * (members.places.size - 1) ≤ 5 * used

/-- Add a member with its word.  The table grows when a place is used that nothing was
in before. -/
def addWord (members : Members) (word : Nat) (member : Value) : Members :=
  let place := placeFor members.places word
  let places := members.places.setIfInBounds place (.taken word member)
  match members.places[place]? with
  | some .left => ⟨places, members.size + 1, members.gone - 1⟩
  | _ =>
    let added : Members := ⟨places, members.size + 1, members.gone⟩
    if added.isTight (added.size + added.gone) then added.grown else added

/-- Add a member, which is new. -/
def add (members : Members) (member : Value) : Members :=
  let word := match member.residue? with
    | some residue => (Residue.word residue).toNat
    | none => members.size + members.gone
  members.addWord word member

/-- Remove the member in a place. -/
def eraseAt (members : Members) (place : Nat) : Members :=
  ⟨members.places.setIfInBounds place .left, members.size - 1, members.gone + 1⟩

/-- Close the places that were left if they are many. -/
def tidied (members : Members) : Members :=
  if members.gone ≤ (members.places.size - 1) / 4 then members else members.grown

/-- Make room for so many further members. -/
def reserve (members : Members) (count : Nat) : Members :=
  if members.isTight (members.size + members.gone + count) then
    members.resized ((members.size + count) * 2)
  else members

/-- The members of a set in a table that is empty: in the same places, if they fit. -/
def copyInto (target members : Members) : Members :=
  if target.places.size = members.places.size ∧ members.gone = 0 then members
  else ⟨members.taken.foldl (fun places (word, member) => settle places word member)
    target.places, members.size, 0⟩

/-- A set with the same members, which need not stand in the same places. -/
def copy (members : Members) : Members :=
  (empty.reserve members.size).copyInto members

/-- The set to which the members were added once more, in their order. -/
def again (members : Members) : Members :=
  members.taken.foldl (fun again (word, member) => again.addWord word member) empty

/-- The member in the first place from one on that has one, with its place; `steps`
bounds the search. -/
def nextFrom (members : Members) : Nat → Nat → Option (Nat × Value)
  | 0, _ => none
  | steps + 1, place => match members.places[place]? with
    | some (.taken _ member) => some (place, member)
    | some _ => nextFrom members steps (place + 1)
    | none => none

/-- The first member from a place on, with its place. -/
def next? (members : Members) (place : Nat) : Option (Nat × Value) :=
  members.nextFrom (members.places.size + 1 - place) place

end Members

end Script
end PolicyStudio
