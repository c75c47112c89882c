import PolicyStudio.Script.Compare
import PolicyStudio.Script.Signature

/-!
# What an interpreter offers

Functions of the library call functions of a program, and walk through
comprehensions of a program, so they are given the interpreter that runs it.
Each member of an `Interpreter` is a computation that has been given a certain
depth of nesting; the interpreter of depth zero has none to give.
-/

namespace PolicyStudio
namespace Script

/-- How a statement ends. -/
inductive Flow where
  | next
  | returned (value : Value)
  | broken
  | continued

instance : Inhabited Flow := ⟨.next⟩

/-- The computations that depend on one another. -/
structure Interpreter where
  evaluate : Scope → Expression → Step Value
  execute : Scope → List Statement → Step Flow
  call : Value → Arguments Value → Step Value
  /-- The next element of a comprehension, and the state after it. -/
  resume : ComprehensionState → Step (Option Value × ComprehensionState)
  /-- All elements that the body of a function yields, given its frame. -/
  yields : Address → Address → Step (List Value)

/-- How often a loop may go round before the computation counts as exhausted. -/
def roundLimit : Nat := 1000000000000

namespace Iteration

/-- The values that a text, a tuple or the like yields, with the type of the
iteration. -/
def ofValue? : Value → Option Iteration
  | .text s =>
    some (.values .textIterator (s.toList.map fun c => .text (String.ofList [c])))
  | .bytes content => some (.values .bytesIterator (content.map fun b => .int b.toNat))
  | .tuple items => some (.values .tupleIterator items)
  | .range start stop step => some (.range start stop step)
  | _ => none

/-- The iteration over an object. -/
def ofObject? (address : Address) : Object → Step (Option Iteration)
  | .list _ => return some (.list address 0)
  | .dictionary entries =>
    return some (.dictionary address .keys 0 (some entries.size) entries.size)
  | .set members => return some (.set address 0 (some members.size))
  | .view part source => do
    let size := (← entriesOf source).size
    return some (.dictionary source part 0 (some size) size)
  | _ => return none

end Iteration

namespace Step

/-- Refuse to go through a value. -/
def notIterable {α : Type} (value : Value) : Step α := do
  raise .type ("'" ++ (← value.typeName) ++ "' object is not iterable")

/-- The value can be gone through. -/
def isIterable (value : Value) : Step Bool := do
  match value with
  | .object address => do
    match ← load address with
    | .iteration _ => return true
    | object => return (← Iteration.ofObject? address object).isSome
  | _ => return (Iteration.ofValue? value).isSome

/-- Start to go through a value.  An iteration is its own start. -/
def startIteration (value : Value) : Step Value := do
  match value with
  | .object address => do
    match ← load address with
    | .iteration _ => return value
    | object => match ← Iteration.ofObject? address object with
      | some state => allocate (.iteration state)
      | none => notIterable value
  | _ => match Iteration.ofValue? value with
    | some state => allocate (.iteration state)
    | none => notIterable value

/-- Set the state of an iteration. -/
def setIteration (address : Address) (state : Iteration) : Step Unit :=
  store address (.iteration state)

/-- The error tells that an iteration has ended. -/
def isEnd : Value → Step Bool
  | .object address => do
    match ← load address with
    | .error kind .. => return kind.isKindOf .stopIteration
    | _ => return false
  | _ => return false

/-- Run; the error that ends an iteration ends it here, without an element. -/
def untilEnd (step : Step (Option Value)) : Step (Option Value) := do
  match ← attempt step with
  | .ok found => return found
  | .error error =>
    if ← isEnd error then return none
    halt (.raised error)

/-- Run the code of a generator, which must not end by the error that ends an
iteration. -/
def withoutEnd {α : Type} (step : Step α) : Step α := do
  match ← attempt step with
  | .ok found => return found
  | .error error =>
    if ← isEnd error then raise .runtime "generator raised StopIteration"
    halt (.raised error)

/-- The next elements of several iterations, if all have one. -/
def advanceAll (advance : Value → Step (Option Value)) : List Value → Step (Option (List Value))
  | [] => return some []
  | source :: rest => do
    match ← advance source with
    | none => return none
    | some value => match ← advanceAll advance rest with
      | none => return none
      | some values => return some (value :: values)

/-- The next element that passes a test. -/
def advanceFiltered (advance : Value → Step (Option Value)) (test : Value → Step Bool)
    (source : Value) : Nat → Step (Option Value)
  | 0 => halt .exhausted
  | rounds + 1 => do
    match ← advance source with
    | none => return none
    | some value =>
      if ← test value then return some value
      advanceFiltered advance test source rounds

/-- One step of an iteration, given how to step those that it draws on. -/
def advanceWith (self : Interpreter) (advance : Value → Step (Option Value)) (address : Address) :
    Iteration → Step (Option Value)
  | .list source position => do
    match ← load source with
    | .list items => match items[position]? with
      | some value => do
        setIteration address (.list source (position + 1))
        return some value
      | none => do
        setIteration address (.spent .listIterator)
        return none
    | _ => return none
  | .values _ [] => return none
  | .values kind (value :: rest) => do
    setIteration address (.values kind rest)
    return some value
  | .range next stop step => do
    if (0 < step ∧ next < stop) ∨ (step < 0 ∧ stop < next) then
      setIteration address (.range (next + step) stop step)
      return some (.int next)
    else return none
  | .dictionary source part position size left => do
    let entries ← entriesOf source
    if some entries.size ≠ size then
      setIteration address (.dictionary source part position none left)
      raise .runtime "dictionary changed size during iteration"
    match entries.next? position, left with
    | some (slot, key, value), left + 1 => do
      setIteration address (.dictionary source part (slot + 1) size left)
      return some (part.ofEntry key value)
    | some _, 0 => do
      setIteration address (.spent part.iteratorType)
      raise .runtime "dictionary keys changed during iteration"
    | none, _ => do
      setIteration address (.spent part.iteratorType)
      return none
  | .set source position size => do
    match ← load source with
    | .set members =>
      if some members.size ≠ size then
        setIteration address (.set source position none)
        raise .runtime "Set changed size during iteration"
      match members.next? position with
      | some (place, member) => do
        setIteration address (.set source (place + 1) size)
        return some member
      | none => do
        setIteration address (.spent .setIterator)
        return none
    | _ => return none
  | .enumerate source count => do
    match ← advance source with
    | none => return none
    | some value => do
      setIteration address (.enumerate source (count + 1))
      return some (.tuple [.int count, value])
  | .map function sources => do
    match ← advanceAll advance sources with
    | none => return none
    | some values =>
      untilEnd (return some (← self.call function { positional := values }))
  | .filter function source => do
    let test := fun value => match function with
      | .none => value.isTrue
      | _ => do (← self.call function { positional := [value] }).isTrue
    untilEnd (advanceFiltered advance test source roundLimit)
  | .generator state => do
    setIteration address (.spent .generator)
    let (value, state) ← withoutEnd (self.resume state)
    if value.isSome then setIteration address (.generator state)
    return value
  | .suspended function frame => do
    setIteration address (.spent .generator)
    match ← withoutEnd (self.yields function frame) with
    | [] => return none
    | value :: rest => do
      setIteration address (.values .generator rest)
      return some value
  | .spent _ => return none

/-- One step of an iteration; iterations may draw on one another to a depth. -/
def advanceFrom (self : Interpreter) : Nat → Value → Step (Option Value)
  | 0, _ => halt .exhausted
  | depth + 1, value => match value with
    | .object address => do
      match ← load address with
      | .iteration state => advanceWith self (advanceFrom self depth) address state
      | _ => return none
    | _ => return none

/-- The next element of an iteration. -/
def advance (self : Interpreter) (iteration : Value) : Step (Option Value) :=
  advanceFrom self Value.nestingLimit iteration

/-- All elements that are left. -/
def drain (self : Interpreter) (iteration : Value) : Nat → List Value → Step (List Value)
  | 0, _ => halt .exhausted
  | rounds + 1, found => do
    match ← advance self iteration with
    | none => return found.reverse
    | some value => drain self iteration rounds (value :: found)

/-- The elements of a value. -/
def collect (self : Interpreter) (value : Value) : Step (List Value) := do
  match value with
  | .tuple items => return items
  | _ => do
    let iteration ← startIteration value
    drain self iteration roundLimit []

end Step

namespace Run

export Step (startIteration)

end Run

end Script
end PolicyStudio
