import PolicyStudio.Script.Percent

/-!
# Operators

What an operator does depends on both of its operands: numbers are computed with,
texts and sequences joined, repeated and filled in, sets and dictionaries united.
In an update an operator changes a list, a dictionary or a set where it stands.
-/

namespace PolicyStudio
namespace Script

open Step

namespace Arithmetic

/-- An operator between two numbers, if both operands are numbers that it takes. -/
def numeric (operator : BinaryOperator) (left right : Value) : Step (Option Value) := do
  match left, right with
  | .bool x, .bool y => match truths operator x y with
    | some value => return some value
    | none => integers operator (if x then 1 else 0) (if y then 1 else 0)
  | .complex _, _ | _, .complex _ => complexNumbers operator left right
  | _, _ => match left.number?, right.number? with
    | some a, some b => numbers operator a b
    | _, _ => return none

/-- The operator unites or divides sets. -/
def isSetOperator : BinaryOperator → Bool
  | .bitOr | .bitAnd | .bitXor | .subtract => true
  | _ => false

/-- The value is a view that compares like a set. -/
def isSetView : Value → Step Bool
  | .object address => do
    match ← load address with
    | .view .keys _ | .view .items _ => return true
    | _ => return false
  | _ => return false

/-- The members of a value as a set. -/
def setOf (collect : Value → Step (List Value)) (value : Value) : Step Members := do
  let ready ← match value with
    | .object address => do
      match ← load address with
      | .set members => pure (some members.copy)
      | .dictionary entries => pure (some (← reserved entries))
      | _ => pure none
    | _ => pure none
  match ready with
  | some members => return members
  | none => Members.empty.putChecked (← collect value)
where
  /-- The keys of a dictionary, for which room is made at once. -/
  reserved (entries : Dictionary) : Step Members :=
    (Members.empty.reserve entries.size).putAll (entries.toList.map (·.1))

/-- The set that a view shows, or the members of another value as a set. -/
def setOfView (collect : Value → Step (List Value)) (value : Value) : Step Members := do
  match value with
  | .object address => do
    match ← load address with
    | .view .keys source => setOf collect (.object source)
    | _ => setOf collect value
  | _ => setOf collect value

/-- The set that a value is. -/
def set? (value : Value) : Step (Option Members) := do
  match value with
  | .object address => do
    match ← load address with
    | .set members => return some members
    | _ => return none
  | _ => return none

/-- The elements of a view that are in another value, or, if there are fewer of those,
the elements of the other value that are in the view. -/
def commonMembers (collect : Value → Step (List Value)) (left right : Value) : Step Members := do
  let (view, other) := if ← isSetView left then (left, right) else (right, left)
  let first ← collect view
  let second ← collect other
  let isShorter ← match ← set? other, ← isSetView other with
    | some _, _ => pure (decide (first.length ≤ second.length))
    | none, true => pure (decide (first.length < second.length))
    | none, false => pure false
  let (sought, given) := if isShorter then (first, second) else (second, first)
  sought.forM Value.requireHashable
  (← Members.empty.putChecked given).among sought

/-- An operator between a view and any value with members. -/
def views (collect : Value → Step (List Value)) (operator : BinaryOperator) (left right : Value) :
    Step Value := do
  match operator with
  | .bitAnd => do allocate (.set (← commonMembers collect left right))
  | _ => do
    let first ← setOfView collect left
    match operator, ← set? right with
    | .bitOr, some others => do allocate (.set (← first.unite others))
    | .bitOr, none => do allocate (.set (← first.putChecked (← collect right)))
    | .bitXor, some others => do allocate (.set (← first.toggleAll others.toList))
    | .bitXor, none => do
      allocate (.set (← first.toggleAll (← setOf collect right).toList))
    | _, _ => do
      let others ← collect right
      others.forM Value.requireHashable
      allocate (.set (← others.foldlM Members.remove first).tidied)

/-- A value with members that cannot be repeated. -/
def isUnrepeatable (value : Value) : Step Bool := do
  match value with
  | .range .. => return true
  | .object address => do
    match ← load address with
    | .dictionary _ | .set _ | .view .. => return true
    | _ => return false
  | _ => return false

/-- An operator between two values; `collect` gives the members of a value.  In place,
a refusal has another name for it, and what has members is not a number of
repetitions for the other side. -/
def binary (collect : Value → Step (List Value)) (operator : BinaryOperator) (inPlace : Bool)
    (left right : Value) : Step Value := do
  let sign := operator.signIn inPlace
  match ← numeric operator left right with
  | some value => return value
  | none =>
    if isSetOperator operator && ((← isSetView left) || (← isSetView right)) then
      views collect operator left right
    else match operator, left, right with
    | .modulo, .text format, _ => Percent.fillText format right
    | .modulo, .bytes format, _ => Percent.fillBytes format right
    | .add, _, _ => concatenate sign left right
    | .multiply, _, _ =>
      if inPlace && (← isUnrepeatable left) then refused sign left right
      else multiply sign left right
    | _, .object a, .object b => objects operator sign left right (← load a) (← load b)
    | _, _, _ => refused sign left right

/-- An operator before a value. -/
def unary (operator : UnaryOperator) (value : Value) : Step Value := do
  let refuse := fun (sign : String) => do
    raise .type ("bad operand type for unary " ++ sign ++ ": '" ++ (← value.typeName) ++ "'")
  match operator, value, value.number? with
  | .negate, _, _ => return .bool !(← value.isTrue)
  | .plus, .float .., _ | .plus, .complex _, _ => return value
  | .plus, _, some (.inl n) => return .int n
  | .minus, .complex z, _ => return .complex z.negate
  | .minus, _, some (.inl n) => return .int (-n)
  | .minus, _, some (.inr x) => newFloat (-x)
  | .invert, _, some (.inl n) => return .int (-n - 1)
  | .plus, _, _ => refuse "+"
  | .minus, _, _ => refuse "-"
  | .invert, _, _ => refuse "~"

/-- Change a list where it stands: join it with the members of a value, or repeat
it. -/
def updateList (collect : Value → Step (List Value)) (operator : BinaryOperator)
    (address : Address) (items : Array Value) (right : Value) : Step (Option Value) := do
  match operator, count? right with
  | .add, _ => do
    let others ← collect right
    updateItems address fun old => old ++ others.toArray
    return some (.object address)
  | .multiply, some count => do
    checkCount count
    checkRoom items.size count none
    store address (.list (repeated items count.toNat))
    return some (.object address)
  | _, _ => return none

/-- Change a set where it stands by another set. -/
def updateSet (operator : BinaryOperator) (address : Address) (members : Members)
    (right : Value) : Step (Option Value) := do
  match right with
  | .object other => do
    match operator, ← load other with
    | .bitOr, .set others => replace (← members.unite others)
    | .bitAnd, .set others => replace (← members.intersect others)
    | .subtract, .set others => replace (← members.without others)
    | .bitXor, .set others => replace (← members.toggleAll others.toList)
    | _, _ => return none
  | _ => return none
where
  /-- Put another set in the place of the old one. -/
  replace (members : Members) : Step (Option Value) := do
    store address (.set members)
    return some (.object address)

/-- Change a value where it stands, if the operator does that.  `collect` gives the
members of a value, and `addPairs` puts the pairs of a value into a dictionary. -/
def inPlace (collect : Value → Step (List Value)) (addPairs : Address → Value → Step Unit)
    (operator : BinaryOperator) (left right : Value) : Step Value := do
  let changed ← match left with
    | .object address => do
      match operator, ← load address with
      | _, .list items => updateList collect operator address items right
      | .bitOr, .dictionary _ => do
        addPairs address right
        pure (some left)
      | _, .set members => updateSet operator address members right
      | _, _ => pure none
    | _ => pure none
  match changed with
  | some value => return value
  | none => binary collect operator true left right

end Arithmetic

end Script
end PolicyStudio
