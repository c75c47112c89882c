import PolicyStudio.Script.Arithmetic
import PolicyStudio.Script.Interpreter

/-!
# Items and slices

Reading, writing and deleting what stands in brackets.  Positions count from the
end when they are negative.  Only lists and dictionaries can be written to.
-/

namespace PolicyStudio
namespace Script

namespace Subscript

open Step

/-- An integer used as a position. -/
def position? : Value → Option Int
  | .int n => some n
  | .bool b => some (if b then 1 else 0)
  | _ => none

/-- An integer that is used as a position must be a possible one. -/
def requirePosition (n : Int) : Step Unit := do
  if n < -2 ^ 63 ∨ 2 ^ 63 ≤ n then
    raise .index "cannot fit 'int' into an index-sized integer"

/-- A position in a sequence of a given length, if there is one. -/
def resolve? (length : Nat) (n : Int) : Option Nat :=
  let n := if n < 0 then n + length else n
  if 0 ≤ n ∧ n < length then some n.toNat else none

/-- A bound of a slice. -/
def bound? (value : Value) : Step (Option Int) := do
  match value with
  | .none => return none
  | _ => match position? value with
    | some n => return some n
    | none =>
      raise .type "slice indices must be integers or None or have an __index__ method"

/-- A bound brought into the range of positions that a slice in a direction can
have. -/
def clamp (length : Nat) (step n : Int) : Int :=
  let n := if n < 0 then n + length else n
  if n < 0 then (if step < 0 then -1 else 0)
  else if (length : Int) ≤ n then (if step < 0 then (length : Int) - 1 else length)
  else n

/-- The bounds and the step of a slice of a sequence of a given length. -/
def boundsOf (length : Nat) (start stop step : Value) : Step (Int × Int × Int) := do
  let step := (← bound? step).getD 1
  if step = 0 then raise .value "slice step cannot be zero"
  let start ← bound? start
  let stop ← bound? stop
  let start := match start with
    | some n => clamp length step n
    | none => if step < 0 then (length : Int) - 1 else 0
  let stop := match stop with
    | some n => clamp length step n
    | none => if step < 0 then -1 else length
  return (start, stop, step)

/-- The positions that a slice takes from a sequence of a given length, as a
start, a step and a count. -/
def sliceOf (length : Nat) (start stop step : Value) : Step (Int × Int × Nat) := do
  let (start, stop, step) ← boundsOf length start stop step
  return (start, step, rangeLength start stop step)

/-- The members at the positions of a slice. -/
def take {α : Type} (items : Array α) (start step : Int) (count : Nat) : List α :=
  (List.range count).filterMap fun (i : Nat) => items[(start + step * (i : Int)).toNat]?

/-- A member or a slice of a sequence; `make` makes a sequence of its type and
`pick` a member of it. -/
def sequence {α : Type} (items : Array α) (make : List α → Step Value) (pick : α → Value)
    (outOfRange : String) (wrongType : String → String) (index : Value) : Step Value := do
  match index with
  | .slice start stop step =>
    let (start, step, count) ← sliceOf items.size start stop step
    make (take items start step count)
  | _ => match position? index with
    | some n => do
      requirePosition n
      match (resolve? items.size n).bind fun i => items[i]? with
      | some item => return pick item
      | none => raise .index outOfRange
    | none => raise .type (wrongType (← index.typeName))

/-- The refusal of an index for a type of sequence. -/
def wrongIndex (kind found : String) : String :=
  kind ++ " indices must be integers or slices, not " ++ found

/-- A member or a part of a range. -/
def range (start stop step : Int) (index : Value) : Step Value := do
  let length := rangeLength start stop step
  match index with
  | .slice lower upper jump =>
    let (first, last, stride) ← boundsOf length lower upper jump
    return .range (start + step * first) (start + step * last) (step * stride)
  | _ => match position? index with
    | some n => match resolve? length n with
      | some i => return .int (start + step * (i : Int))
      | none => raise .index "range object index out of range"
    | none => raise .type (wrongIndex "range" (← index.typeName))

/-- Refuse to look for something under an index. -/
def notSubscriptable {α : Type} (value : Value) : Step α := do
  match ← value.class? with
  | some c => raise .type ("type '" ++ c.name ++ "' is not subscriptable")
  | none => raise .type ("'" ++ (← value.typeName) ++ "' object is not subscriptable")

/-- Read what stands under an index. -/
def read (value index : Value) : Step Value := do
  match value with
  | .text s =>
    sequence s.toList.toArray (fun cs => return .text (String.ofList cs))
      (fun c => .text (String.ofList [c])) "string index out of range"
      (fun found => "string indices must be integers, not '" ++ found ++ "'") index
  | .bytes content =>
    sequence content.toArray (fun bytes => return .bytes bytes) (fun b => .int b.toNat)
      "index out of range" (wrongIndex "byte") index
  | .tuple items =>
    sequence items.toArray (fun members => return .tuple members) id "tuple index out of range"
      (wrongIndex "tuple") index
  | .range start stop step => range start stop step index
  | .object address => do
    match ← load address with
    | .list items =>
      sequence items newList id "list index out of range" (wrongIndex "list") index
    | .dictionary entries => do
      index.requireHashable
      match ← entries.get? index with
      | some found => return found
      | none => raiseWith .key [index]
    | _ => notSubscriptable value
  | _ => notSubscriptable value

/-- Replace a slice of consecutive members. -/
def splice (items : Array Value) (start : Nat) (count : Nat) (others : List Value) : Array Value :=
  (items.toList.take start ++ others ++ items.toList.drop (start + count)).toArray

/-- Write members to the positions of a slice. -/
def scatter (items : Array Value) (start step : Int) (others : List Value) : Array Value :=
  (others.zipIdx).foldl (fun items (value, i) =>
    items.setIfInBounds (start + step * (i : Int)).toNat value) items

/-- The list without the members at the positions of a slice. -/
def without (items : Array Value) (start step : Int) (count : Nat) : Array Value :=
  let positions := (List.range count).map fun (i : Nat) => (start + step * (i : Int)).toNat
  ((items.toList.zipIdx).filterMap fun (value, i) =>
    if positions.contains i then none else some value).toArray

/-- Write to a list. -/
def writeList (self : Interpreter) (address : Address) (items : Array Value)
    (index value : Value) : Step Unit := do
  match index with
  | .slice start stop step => do
    let (start, step, count) ← sliceOf items.size start stop step
    if !(← isIterable value) then
      raise .type (if step = 1 then "can only assign an iterable"
        else "must assign iterable to extended slice")
    let others ← collect self value
    if step = 1 then store address (.list (splice items start.toNat count others))
    else if others.length ≠ count then
      raise .value ("attempt to assign sequence of size " ++ others.length.repr ++
        " to extended slice of size " ++ count.repr)
    else store address (.list (scatter items start step others))
  | _ => match position? index with
    | none => raise .type (wrongIndex "list" (← index.typeName))
    | some n => do
      requirePosition n
      match resolve? items.size n with
      | none => raise .index "list assignment index out of range"
      | some i => store address (.list (items.setIfInBounds i value))

/-- Write to a list or a dictionary. -/
def write (self : Interpreter) (target index value : Value) : Step Unit := do
  match target with
  | .object address => do
    match ← load address with
    | .list items => writeList self address items index value
    | .dictionary _ => do
      index.requireHashable
      putEntry address index value
    | _ => raise .type "object does not support item or slice assignment"
  | _ => raise .type "object does not support item or slice assignment"

/-- Delete from a list or a dictionary. -/
def delete (target index : Value) : Step Unit := do
  match target with
  | .object address => do
    match ← load address with
    | .list items => do
      match index with
      | .slice start stop step =>
        let (start, step, count) ← sliceOf items.size start stop step
        store address (.list (without items start step count))
      | _ => match position? index with
        | none => raise .type (wrongIndex "list" (← index.typeName))
        | some n => do
          requirePosition n
          match resolve? items.size n with
          | none => raise .index "list assignment index out of range"
          | some i => store address (.list (items.eraseIdxIfInBounds i))
    | .dictionary _ => do
      index.requireHashable
      if (← takeEntry address index).isNone then raiseWith .key [index]
    | _ => raise .type "object does not support item or slice assignment"
  | _ => raise .type "object does not support item or slice assignment"

end Subscript

/-! ## Membership -/

/-- The bytes that a value stands for where bytes are looked for. -/
def bytesToFind (value : Value) : Step (List UInt8) := do
  match value, Subscript.position? value with
  | .bytes content, _ => return content
  | _, some n =>
    if n < 0 ∨ 256 ≤ n then Step.raise .value "byte must be in range(0, 256)"
    return [UInt8.ofNat n.toNat]
  | _, none =>
    Step.raise .type ("a bytes-like object is required, not '" ++ (← value.typeName) ++ "'")

/-- The bytes occur one after the other. -/
def occurs (piece : List UInt8) : List UInt8 → Bool
  | [] => piece.isEmpty
  | b :: rest => piece.isPrefixOf (b :: rest) || occurs piece rest

/-- An integer is a member of a range. -/
def inRange (start stop step n : Int) : Bool :=
  (if 0 < step then start ≤ n && n < stop else stop < n && n ≤ start) &&
    Int.emod (n - start) step == 0

/-- The whole number that a value equals. -/
def wholeNumber? (value : Value) : Option Int :=
  match value.complexNumber?, value.number? with
  | _, some (.inl n) => some n
  | _, some (.inr x) => Decimal.whole? x
  | some z, none => if z.imaginary == 0.0 then Decimal.whole? z.real else none
  | none, none => none

/-- A value is a member of another one.  A set is looked for in a set like a key
that none of its members is. -/
def isMember (self : Interpreter) (value container : Value) : Step Bool := do
  match container with
  | .text s => match value with
    | .text part => return s.contains part
    | _ => Step.raise .type ("'in <string>' requires string as left operand, not " ++
        (← value.typeName))
  | .bytes content => return occurs (← bytesToFind value) content
  | .range start stop step => match wholeNumber? value with
    | some n => return inRange start stop step n
    | none => return false
  | .object address => do
    match ← Step.load address with
    | .dictionary entries => isKey entries value
    | .view .keys source => isKey (← entriesOf source) value
    | .view .items source => match value with
      | .tuple [key, found] => do
        key.requireHashable
        match ← (← entriesOf source).get? key with
        | some other => Value.matchesMember other found
        | none => return false
      | _ => return false
    | .set members => do
      if ← value.isSet then return false
      value.requireHashable
      members.holds value
    | _ => among
  | _ => among
where
  /-- Look among the keys of a dictionary. -/
  isKey (entries : Dictionary) (key : Value) : Step Bool := do
    key.requireHashable
    return (← entries.slot? key).isSome
  /-- Look among the elements, one after the other. -/
  among : Step Bool := do
    if !(← Step.isIterable container) then
      Step.raise .type ("argument of type '" ++ (← container.typeName) ++ "' is not iterable")
    let iteration ← Step.startIteration container
    search iteration roundLimit
  /-- Look among the elements that are left. -/
  search (iteration : Value) : Nat → Step Bool
    | 0 => Step.halt .exhausted
    | rounds + 1 => do
      match ← Step.advance self iteration with
      | none => return false
      | some element =>
        if ← Value.matchesMember element value then return true
        search iteration rounds

end Script
end PolicyStudio
