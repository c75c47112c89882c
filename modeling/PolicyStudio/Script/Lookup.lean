import PolicyStudio.Script.Compare

/-!
# Keys and members looked up

A key is looked for among the entries of a dictionary in their order, and a member
among those of a set.  It is found where one is the same or equal, so an entry keeps
the key that it was first put under.
-/

namespace PolicyStudio
namespace Script

open Step

namespace Dictionary

/-- The slot of the entry of a key, from a slot on; `steps` bounds the search. -/
def slotFrom (d : Dictionary) (key : Value) : Nat → Nat → Step (Option Nat)
  | 0, _ => return none
  | steps + 1, slot => do
    match d.slots[slot]? with
    | some (some (other, _)) =>
      if ← Value.matchesMember key other then return some slot
      slotFrom d key steps (slot + 1)
    | some none => slotFrom d key steps (slot + 1)
    | none => return none

/-- The slot of the entry of a key. -/
def slot? (d : Dictionary) (key : Value) : Step (Option Nat) :=
  match key with
  | .text s => return d.slots.findIdx? fun slot => match slot with
    | some (.text t, _) => s == t
    | _ => false
  | _ => d.slotFrom key (d.slots.size + 1) 0

/-- The value in a slot. -/
def valueAt? (d : Dictionary) (slot : Nat) : Option Value :=
  match d.slots[slot]? with
  | some (some (_, value)) => some value
  | _ => none

/-- The value that stands under a key. -/
def get? (d : Dictionary) (key : Value) : Step (Option Value) := do
  return (← d.slot? key).bind d.valueAt?

/-- Put a value under a key: in the old place of the key, or at the end. -/
def put (d : Dictionary) (key value : Value) : Step Dictionary := do
  match ← d.slot? key with
  | some slot => return d.setAt slot value
  | none => return d.push key value

/-- Put entries one after the other. -/
def putAll (d : Dictionary) (entries : List (Value × Value)) : Step Dictionary :=
  entries.foldlM (fun d entry => d.put entry.1 entry.2) d

/-- Put entries one after the other whose keys may be refused. -/
def putChecked (d : Dictionary) (entries : List (Value × Value)) : Step Dictionary :=
  entries.foldlM (fun d entry => do
    entry.1.requireHashable
    d.put entry.1 entry.2) d

end Dictionary

namespace Members

/-- The place of a member, from a place on; `steps` bounds the search. -/
def placeFrom (members : Members) (value : Value) : Nat → Nat → Step (Option Nat)
  | 0, _ => return none
  | steps + 1, place => do
    match members.places[place]? with
    | some (.taken _ member) =>
      if ← Value.matchesMember value member then return some place
      placeFrom members value steps (place + 1)
    | some _ => placeFrom members value steps (place + 1)
    | none => return none

/-- The place of a member. -/
def place? (members : Members) (value : Value) : Step (Option Nat) :=
  members.placeFrom value (members.places.size + 1) 0

/-- The value is a member. -/
def holds (members : Members) (value : Value) : Step Bool := do
  return (← members.place? value).isSome

/-- Add a value unless it is a member. -/
def put (members : Members) (value : Value) : Step Members := do
  if ← members.holds value then return members else return members.add value

/-- Add values one after the other. -/
def putAll (members : Members) (values : List Value) : Step Members :=
  values.foldlM put members

/-- Add values one after the other that may be refused. -/
def putChecked (members : Members) (values : List Value) : Step Members :=
  values.foldlM (fun members value => do
    value.requireHashable
    members.put value) members

/-- Remove a value if it is a member. -/
def remove (members : Members) (value : Value) : Step Members := do
  match ← members.place? value with
  | some place => return members.eraseAt place
  | none => return members

/-- Add the members of another set. -/
def unite (members others : Members) : Step Members := do
  if others.isEmpty then return members
  let roomy := members.reserve others.size
  if roomy.size + roomy.gone = 0 then return roomy.copyInto others
  roomy.putAll others.toList

/-- The values that are members, as a set. -/
def among (members : Members) (values : List Value) : Step Members := do
  empty.putAll (← values.filterM members.holds)

/-- The members of both sets: those of the smaller one that are in the other. -/
def intersect (members others : Members) : Step Members :=
  if members.size < others.size then others.among members.toList
  else members.among others.toList

/-- Remove the members of another set, and close the places that they leave. -/
def without (members others : Members) : Step Members := do
  return (← others.toList.foldlM remove members).tidied

/-- The members that are not in another set. -/
def subtract (members others : Members) : Step Members := do
  if others.size < members.size / 4 then members.copy.without others
  else empty.putAll (← members.toList.filterM fun member => do return !(← others.holds member))

/-- Take out the values that are members, and add the others. -/
def toggleAll (members : Members) (values : List Value) : Step Members :=
  values.foldlM (fun members value => do
    match ← members.place? value with
    | some place => return members.eraseAt place
    | none => return members.add value) members

end Members

namespace Step

/-- Change the dictionary at an address. -/
def updateEntries (address : Address) (f : Dictionary → Dictionary) : Step Unit :=
  update address fun object => match object with
    | .dictionary entries => .dictionary (f entries)
    | other => other

/-- Put a value under a key in the dictionary at an address. -/
def putEntry (address : Address) (key value : Value) : Step Unit := do
  match ← (← entriesOf address).slot? key with
  | some slot => updateEntries address fun d => d.setAt slot value
  | none => updateEntries address fun d => d.push key value

/-- Take the entry of a key out of the dictionary at an address, if it is there. -/
def takeEntry (address : Address) (key : Value) : Step (Option Value) := do
  let entries ← entriesOf address
  match ← entries.slot? key with
  | none => return none
  | some slot => do
    updateEntries address fun d => d.eraseAt slot
    return entries.valueAt? slot

end Step

end Script
end PolicyStudio
