import PolicyStudio.Script.Step

/-!
# Sorting with comparisons that may fail

A row is sorted in stretches: each begins with the members that are in order
already, a falling stretch turned round, and is filled up to a least length by
putting one member after the other into its place.  Stretches are then merged.
Members of which neither is below the other keep their order.

A comparison may end in an error.  Then the row stays as far sorted as it was.
-/

namespace PolicyStudio
namespace Script

namespace Sorting

/-- A row as far as it is sorted, and the error that ended the sorting. -/
structure Outcome (α : Type) where
  row : Array α
  error : Option Value

/-- Compare; an error is a result, too. -/
abbrev Below (α : Type) := α → α → Step (Except Value Bool)

/-- The stretches that every row is at least sorted in: a row is halved until it is
short, and what is lost by halving is made up for. -/
def leastLength (length : Nat) : Nat :=
  halved 64 length 0
where
  /-- Halve at most so often. -/
  halved : Nat → Nat → Nat → Nat
    | 0, n, lost => n + lost
    | steps + 1, n, lost => if n < 64 then n + lost else halved steps (n / 2) (max lost (n % 2))

/-- How many members at the front are in order, going on from `count` of them;
`falling` tells the direction. -/
def stretch {α : Type} (below : Below α) (falling : Bool) :
    Nat → List α → Step (Except Value Nat)
  | count, before :: next :: rest => do
    match ← below next before with
    | .error error => return .error error
    | .ok isBelow =>
      if isBelow = falling then stretch below falling (count + 1) (next :: rest)
      else return .ok count
  | count, _ => return .ok count

/-- Where a member belongs between two positions, after all that are not above
it. -/
def place {α : Type} (below : Below α) (row : Array α) (member : α) :
    Nat → Nat → Nat → Step (Except Value Nat)
  | 0, low, _ => return .ok low
  | steps + 1, low, high => do
    if low < high then
      let middle := low + (high - low) / 2
      match row[middle]? with
      | some other => match ← below member other with
        | .error error => return .error error
        | .ok true => place below row member steps low middle
        | .ok false => place below row member steps (middle + 1) high
      | none => return .ok low
    else return .ok low

/-- Put members into their places in a sorted row. -/
def insertAll {α : Type} (below : Below α) (row : Array α) : List α → Step (Outcome α)
  | [] => return ⟨row, none⟩
  | member :: rest => do
    match ← place below row member (row.size + 1) 0 row.size with
    | .error error => return ⟨row ++ member :: rest, some error⟩
    | .ok position => insertAll below (row.insertIdxIfInBounds position member) rest

/-- One stretch at the front, and what follows it. -/
def firstStretch {α : Type} (below : Below α) (least : Nat) (members : List α) :
    Step (Outcome α × List α) := do
  match members with
  | first :: second :: rest => match ← below second first with
    | .error error => return (⟨members.toArray, some error⟩, [])
    | .ok falling => match ← stretch below falling 2 (second :: rest) with
      | .error error => return (⟨members.toArray, some error⟩, [])
      | .ok count =>
        let front := (members.take count).toArray
        let front := if falling then front.reverse else front
        let done ← insertAll below front ((members.drop count).take (least - count))
        return (done, members.drop (max least count))
  | _ => return (⟨members.toArray, none⟩, [])

/-- The stretches of a row, each sorted, behind those that are done. -/
def stretches {α : Type} (below : Below α) (least : Nat) :
    Nat → Array (Array α) → List α → Step (Array (Array α) × Option Value)
  | 0, done, rest => return (done.push rest.toArray, none)
  | steps + 1, done, rest => do
    if rest.isEmpty then return (done, none)
    let (found, rest) ← firstStretch below least rest
    match found.error with
    | some error => return (done ++ [found.row, rest.toArray], some error)
    | none => stretches below least steps (done.push found.row) rest

/-- Merge two sorted lists behind what is merged already. -/
def mergeLists {α : Type} (below : Below α) :
    Nat → Array α → List α → List α → Step (Outcome α)
  | 0, merged, left, right => return ⟨merged ++ left ++ right, none⟩
  | steps + 1, merged, left, right => match left, right with
    | a :: rest, b :: others => do
      match ← below b a with
      | .error error => return ⟨merged ++ left ++ right, some error⟩
      | .ok true => mergeLists below steps (merged.push b) left others
      | .ok false => mergeLists below steps (merged.push a) rest right
    | _, _ => return ⟨merged ++ left ++ right, none⟩

/-- Merge neighbouring stretches, each pair once; `done` is merged already. -/
def mergePairs {α : Type} (below : Below α) :
    Array (Array α) → List (Array α) → Step (Array (Array α) × Option Value)
  | done, a :: b :: rest => do
    let merged ← mergeLists below (a.size + b.size) #[] a.toList b.toList
    match merged.error with
    | some error => return (done.push merged.row ++ rest, some error)
    | none => mergePairs below (done.push merged.row) rest
  | done, rest => return (done ++ rest, none)

/-- Merge stretches until one is left. -/
def mergeAll {α : Type} (below : Below α) : Nat → Array (Array α) → Step (Outcome α)
  | 0, parts => return ⟨parts.flatten, none⟩
  | rounds + 1, parts => do
    if parts.size ≤ 1 then return ⟨parts.flatten, none⟩
    match ← mergePairs below #[] parts.toList with
    | (parts, some error) => return ⟨parts.flatten, some error⟩
    | (parts, none) => mergeAll below rounds parts

/-- Sort a row. -/
def sort {α : Type} (below : Below α) (row : Array α) : Step (Outcome α) := do
  match ← stretches below (leastLength row.size) row.size #[] row.toList with
  | (parts, some error) => return ⟨parts.flatten, some error⟩
  | (parts, none) => mergeAll below row.size parts

end Sorting

end Script
end PolicyStudio
