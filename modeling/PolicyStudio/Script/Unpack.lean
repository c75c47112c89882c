import PolicyStudio.Script.Subscript
import PolicyStudio.Script.Builtins
import PolicyStudio.Script.Variable

/-!
# Targets

Giving values to the targets of an assignment or a loop.  A target with several
members takes its value apart, and there are two ways to do so.  A tuple at the
top is taken apart with all tuples inside it before anything is assigned, each
part becoming a list; a list takes its value apart while assigning.
-/

namespace PolicyStudio
namespace Script

open Step

/-- An expression is marked by a star. -/
def Expression.isStarred : Expression → Bool
  | .starred _ _ => true
  | _ => false

namespace Target

/-- The shape of a tuple target: how many elements it needs, and which of them
are taken apart in turn.  A position after a starred member counts from the end. -/
inductive Shape where
  | mk (least : Nat) (parts : List (Int × Shape))

instance : Inhabited Shape := ⟨.mk 0 []⟩

mutual

/-- The shape of a tuple with these members. -/
def shapeOf (least : Nat) : List Expression → Nat → Int → List (Int × Shape)
  | [], _, _ => []
  | item :: rest, position, offset =>
    match item.isStarred, innerShape item with
    | true, _ => shapeOf least rest (position + 1) (least + 1)
    | false, some shape =>
      ((position : Int) - offset, shape) :: shapeOf least rest (position + 1) offset
    | false, none => shapeOf least rest (position + 1) offset

/-- The shape of a member that is a tuple. -/
def innerShape : Expression → Option Shape
  | .tuple items =>
    let least := (items.filter fun item => !item.isStarred).length
    some (.mk least (shapeOf least items 0 0))
  | _ => none

end

/-- Replace the member at a position. -/
def replaceAt (items : List Value) (position : Int) (value : Value) : List Value :=
  match Subscript.resolve? items.length position with
  | some i => items.set i value
  | none => items

mutual

/-- Take a value apart along a shape. -/
def apart (self : Interpreter) (value : Value) : Shape → Step Value
  | .mk least parts => do
    let items ← collect self value
    if items.length < least then newList items
    else newList (← apartWithin self items parts)

/-- Take members apart along their shapes. -/
def apartWithin (self : Interpreter) (items : List Value) : List (Int × Shape) → Step (List Value)
  | [] => return items
  | (position, shape) :: rest => do
    let member := match Subscript.resolve? items.length position with
      | some i => items[i]?.getD .none
      | none => .none
    let inner ← apart self member shape
    apartWithin self (replaceAt items position inner) rest

end

/-- The elements of an iteration, at most so many. -/
def takeUpTo (self : Interpreter) (iteration : Value) : Nat → Step (List Value)
  | 0 => return []
  | count + 1 => do
    match ← advance self iteration with
    | none => return []
    | some value => return value :: (← takeUpTo self iteration count)

/-- The elements for targets without a starred one. -/
def exactly (self : Interpreter) (iteration : Value) (count : Nat) : Step (List Value) := do
  let found ← takeUpTo self iteration (count + 1)
  if found.length < count then
    raise .value ("not enough values to unpack (expected " ++ count.repr ++ ", got " ++
      found.length.repr ++ ")")
  if count < found.length then
    raise .value ("too many values to unpack (expected " ++ count.repr ++ ")")
  return found

/-- The elements for targets before and after a starred one, which takes what is
left as a list. -/
def around (self : Interpreter) (iteration : Value) (before after : Nat) : Step (List Value) := do
  let found ← takeUpTo self iteration before
  let rest ← if found.length < before then pure [] else drain self iteration roundLimit []
  let found := found ++ rest
  if found.length < before + after then
    raise .value ("not enough values to unpack (expected at least " ++
      (before + after).repr ++ ", got " ++ found.length.repr ++ ")")
  let middle := (found.drop before).take (found.length - before - after)
  return found.take before ++ [← newList middle] ++ found.drop (found.length - after)

/-- The elements for targets. -/
def elementsFor (self : Interpreter) (targets : List Expression) (value : Value) :
    Step (List Value) := do
  if !(← isIterable value) then
    raise .type ("cannot unpack non-iterable " ++ (← value.typeName) ++ " object")
  let iteration ← startIteration value
  match targets.findIdx? Expression.isStarred with
  | none => exactly self iteration targets.length
  | some before => around self iteration before (targets.length - before - 1)

/-- Take brackets or a name: the address of what is written to comes first. -/
def writeItem (self : Interpreter) (scope : Scope) (container index : Expression) (value : Value) :
    Step Unit := do
  let container ← self.evaluate scope container
  let index ← evaluateIndex self scope index
  Subscript.write self container index value
where
  /-- An index, in which slices stand for themselves. -/
  evaluateIndex (self : Interpreter) (scope : Scope) (index : Expression) : Step Value := do
    match index with
    | .slice start stop step =>
      let bound := fun (e : Option Expression) => match e with
        | some e => self.evaluate scope e
        | none => return .none
      return .slice (← bound start) (← bound stop) (← bound step)
    | _ => self.evaluate scope index

/-- The attribute cannot be written or deleted. -/
def refuseMember (self : Interpreter) (scope : Scope) (value : Expression) (name : String) :
    Step Unit := do
  let value ← self.evaluate scope value
  refuseAttribute value name (← attribute? value name).isSome

mutual

/-- Give a value to a target whose tuples have been taken apart already. -/
def assign (self : Interpreter) (scope : Scope) (value : Value) : Expression → Step Unit
  | .name _ name => Variable.write scope name value
  | .attribute _ object name => refuseMember self scope object name
  | .subscript container index => writeItem self scope container index value
  | .tuple items => do assignAll self scope (← elementsFor self items value) items
  | .list items => do assignAll self scope (← elementsFor self items value) items
  | .starred _ inner => assign self scope value inner
  | _ => return ()

/-- Give values to targets from left to right. -/
def assignAll (self : Interpreter) (scope : Scope) : List Value → List Expression → Step Unit
  | value :: values, target :: targets => do
    assign self scope value target
    assignAll self scope values targets
  | _, _ => return ()

end

/-- Give a value to a target. -/
def assignApart (self : Interpreter) (scope : Scope) (value : Value) (target : Expression) :
    Step Unit := do
  match innerShape target with
  | some shape => do assign self scope (← apart self value shape) target
  | none => assign self scope value target

mutual

/-- Delete what a target stands for. -/
def delete (self : Interpreter) (scope : Scope) : Expression → Step Unit
  | .name _ name => Variable.delete scope name
  | .attribute _ object name => refuseMember self scope object name
  | .subscript container index => do
    let container ← self.evaluate scope container
    let index ← writeItem.evaluateIndex self scope index
    Subscript.delete container index
  | .tuple items => deleteAll self scope items
  | .list items => deleteAll self scope items
  | _ => return ()

/-- Delete what targets stand for, from left to right. -/
def deleteAll (self : Interpreter) (scope : Scope) : List Expression → Step Unit
  | [] => return ()
  | target :: rest => do
    delete self scope target
    deleteAll self scope rest

end

end Target

end Script
end PolicyStudio
