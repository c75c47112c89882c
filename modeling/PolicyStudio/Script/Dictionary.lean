import PolicyStudio.Script.Value

/-!
# Dictionaries

The entries of a dictionary stand in slots, in the order in which their keys came.
-/

namespace PolicyStudio
namespace Script

/-- The entries of a dictionary in the order in which their keys came.  An entry
that is removed leaves a gap, so that those who read slot by slot find the others
where they were; the gaps are closed when there is no room for another entry. -/
structure Dictionary where
  slots : Array (Option (Value × Value))
  /-- How many entries can be added before the gaps are closed. -/
  room : Nat

namespace Dictionary

/-- The least power of two that is no less than eight and than a count; the number
of doublings is bounded. -/
def tableSize (count : Nat) : Nat :=
  doubled 64 8
where
  /-- Double until the count is reached. -/
  doubled : Nat → Nat → Nat
    | 0, size => size
    | steps + 1, size => if size < count then doubled steps (2 * size) else size

/-- Two thirds of a table may be filled. -/
def roomIn (size used : Nat) : Nat :=
  2 * size / 3 - used

/-- The dictionary without entries. -/
def empty : Dictionary := ⟨#[], roomIn 8 0⟩

/-- The dictionary with these entries, whose keys are distinct. -/
def ofList (entries : List (Value × Value)) : Dictionary :=
  let count := entries.length
  ⟨(entries.map some).toArray, roomIn (tableSize ((3 * count + 1) / 2)) count⟩

/-- The entries in order. -/
def toList (d : Dictionary) : List (Value × Value) :=
  d.slots.toList.filterMap id

/-- The number of entries. -/
def size (d : Dictionary) : Nat :=
  d.slots.foldl (fun count slot => if slot.isSome then count + 1 else count) 0

/-- There are no entries. -/
def isEmpty (d : Dictionary) : Bool :=
  d.slots.all Option.isNone

/-- The dictionary without gaps, with room for twice as many entries. -/
def closed (d : Dictionary) : Dictionary :=
  let entries := d.slots.filter Option.isSome
  ⟨entries, roomIn (tableSize (3 * entries.size)) entries.size⟩

/-- Add an entry, whose key is new. -/
def push (d : Dictionary) (key value : Value) : Dictionary :=
  let d := if d.room = 0 then d.closed else d
  ⟨d.slots.push (some (key, value)), d.room - 1⟩

/-- Give the entry in a slot another value. -/
def setAt (d : Dictionary) (slot : Nat) (value : Value) : Dictionary :=
  { d with slots := d.slots.modify slot fun entry => entry.map fun (key, _) => (key, value) }

/-- Remove the entry in a slot. -/
def eraseAt (d : Dictionary) (slot : Nat) : Dictionary :=
  { d with slots := d.slots.setIfInBounds slot none }

/-- The slot of the last entry, with the entry; `slot` is where to start. -/
def lastFrom (d : Dictionary) : Nat → Option (Nat × Value × Value)
  | 0 => none
  | slot + 1 => match d.slots[slot]? with
    | some (some entry) => some (slot, entry)
    | _ => lastFrom d slot

/-- The slot of the last entry, with the entry. -/
def last? (d : Dictionary) : Option (Nat × Value × Value) :=
  d.lastFrom d.slots.size

/-- Remove the last entry, which is in a slot, with the gaps after it. -/
def popAt (d : Dictionary) (slot : Nat) : Dictionary :=
  { d with slots := d.slots.take slot }

/-- The first entry from a slot on, with its slot; `steps` bounds the search. -/
def nextFrom (d : Dictionary) : Nat → Nat → Option (Nat × Value × Value)
  | 0, _ => none
  | steps + 1, slot => match d.slots[slot]? with
    | some (some entry) => some (slot, entry)
    | some none => nextFrom d steps (slot + 1)
    | none => none

/-- The first entry from a slot on, with its slot. -/
def next? (d : Dictionary) (slot : Nat) : Option (Nat × Value × Value) :=
  d.nextFrom (d.slots.size + 1 - slot) slot

end Dictionary

end Script
end PolicyStudio
