import PolicyStudio.Script.Show

/-!
# Comparing values

Truth, identity, equality and order of values.  Numbers of all types compare by
their exact values, sequences of one type member by member, and objects without
content by identity.  What has no order is refused with the names of both types.
-/

namespace PolicyStudio
namespace Script

/-- The number of members of a range. -/
def rangeLength (start stop step : Int) : Nat :=
  if 0 < step then (Int.fdiv (stop - start + step - 1) step).toNat
  else if step < 0 then (Int.fdiv (start - stop - step - 1) (-step)).toNat
  else 0

/-- The members of a range. -/
def rangeMembers (start stop step : Int) : List Int :=
  (List.range (rangeLength start stop step)).map fun (i : Nat) => start + step * (i : Int)

/-- The signs that ask for an order. -/
inductive OrderSign where
  | below
  | atMost
  | above
  | atLeast
deriving Repr, DecidableEq

namespace OrderSign

/-- The sign as it is written. -/
def written : OrderSign → String
  | .below => "<"
  | .atMost => "<="
  | .above => ">"
  | .atLeast => ">="

/-- The sign holds of two values in this order. -/
def holds : OrderSign → Ordering → Bool
  | .below, .lt => true
  | .atMost, .lt => true
  | .atMost, .eq => true
  | .above, .gt => true
  | .atLeast, .gt => true
  | .atLeast, .eq => true
  | _, _ => false

end OrderSign

namespace Value

/-- The value counts as true. -/
def isTrue : Value → Step Bool
  | .none => return false
  | .bool b => return b
  | .int n => return n ≠ 0
  | .float x _ => return x != 0.0
  | .complex z => return !z.isZero
  | .text s => return !s.isEmpty
  | .bytes content => return !content.isEmpty
  | .tuple items => return !items.isEmpty
  | .range start stop step => return rangeLength start stop step ≠ 0
  | .object address => do
    match ← Step.load address with
    | .list items => return !items.isEmpty
    | .dictionary entries => return !entries.isEmpty
    | .set members => return !members.isEmpty
    | .view _ source => return !(← entriesOf source).isEmpty
    | _ => return true
  | _ => return true

/-- A number of any type as an exact value: an integer or a binary number. -/
def number? : Value → Option (Int ⊕ Float)
  | .bool b => some (.inl (if b then 1 else 0))
  | .int n => some (.inl n)
  | .float x _ => some (.inr x)
  | _ => Option.none

/-- The order of two numbers, if there is one. -/
def compareNumbers : Int ⊕ Float → Int ⊕ Float → Option Ordering
  | .inl a, .inl b => some (compare a b)
  | .inl a, .inr y => (Decimal.compareFraction y a 1).map Ordering.swap
  | .inr x, .inl b => Decimal.compareFraction x b 1
  | .inr x, .inr y =>
    if x < y then some .lt
    else if y < x then some .gt
    else if x == y then some .eq
    else Option.none

/-- A number of any type as a complex number; an integer must be one exactly. -/
def complexNumber? : Value → Option Decimal.Complex
  | .complex z => some z
  | value => match value.number? with
    | some (.inr x) => some (.ofFloat x)
    | some (.inl n) =>
      let x := Decimal.ofFraction n 1
      if Decimal.compareFraction x n 1 == some .eq then some (.ofFloat x) else Option.none
    | Option.none => Option.none

/-- Two complex numbers are equal in both parts. -/
def equalComplex (a b : Decimal.Complex) : Bool :=
  a.real == b.real && a.imaginary == b.imaginary

/-- Two ranges have the same members. -/
def equalRanges (start stop step start' stop' step' : Int) : Bool :=
  let length := rangeLength start stop step
  length == rangeLength start' stop' step' &&
    (length == 0 || start == start' && (length == 1 || step == step'))

/-- Two points in time: those without a distance are compared as they are. -/
def compareTimes (a b : Calendar.DateTime) : Option Ordering :=
  match a.distance, b.distance with
  | Option.none, Option.none => some (compare a.moment b.moment)
  | some s, some t => some (compare (a.moment - s) (b.moment - t))
  | _, _ => Option.none

/-- Members of containers match if they are the same or equal. -/
def matching (equal : Value → Value → Step Bool) (left right : Value) : Step Bool := do
  match left, right with
  | .text a, .text b => return a == b
  | .int a, .int b => return a == b
  | _, _ =>
    if isSame nestingLimit left right then return true
    equal left right

/-- Members match one by one. -/
def equalAll (equal : Value → Value → Step Bool) : List Value → List Value → Step Bool
  | [], [] => return true
  | a :: rest, b :: others => do
    if ← matching equal a b then equalAll equal rest others else return false
  | _, _ => return false

/-- Some member matches the value. -/
def anyEqual (equal : Value → Value → Step Bool) (value : Value) : List Value → Step Bool
  | [] => return false
  | member :: rest => do
    if ← matching equal value member then return true
    anyEqual equal value rest

/-- The value that stands under a key. -/
def findEntry (equal : Value → Value → Step Bool) (key : Value) :
    List (Value × Value) → Step (Option Value)
  | [] => return Option.none
  | (other, value) :: rest => do
    if ← matching equal key other then return some value
    findEntry equal key rest

/-- Every key of the first has an equal value in the second. -/
def entriesWithin (equal : Value → Value → Step Bool) (others : List (Value × Value)) :
    List (Value × Value) → Step Bool
  | [] => return true
  | (key, value) :: rest => do
    match ← findEntry equal key others with
    | some other =>
      if ← matching equal value other then entriesWithin equal others rest else return false
    | Option.none => return false

/-- Every member of the first is a member of the second. -/
def membersWithin (equal : Value → Value → Step Bool) (others : List Value) :
    List Value → Step Bool
  | [] => return true
  | member :: rest => do
    if ← anyEqual equal member others then membersWithin equal others rest else return false

/-- The value is a set. -/
def isSet (value : Value) : Step Bool := do
  match value with
  | .object address => do
    match ← Step.load address with
    | .set _ => return true
    | _ => return false
  | _ => return false

/-- The members of an object that compares like a set. -/
def setMembers? : Object → Step (Option (List Value))
  | .set members => return some members.toList
  | .view .values _ => return Option.none
  | .view part source => return some (viewMembers part (← entriesOf source))
  | _ => return Option.none

/-- Equality of two different objects. -/
def equalObjects (equal : Value → Value → Step Bool) (left right : Object) : Step Bool := do
  match left, right with
  | .list a, .list b => if a.size ≠ b.size then return false else equalAll equal a.toList b.toList
  | .dictionary a, .dictionary b =>
    if a.size ≠ b.size then return false else entriesWithin equal b.toList a.toList
  | _, _ =>
    match ← setMembers? left, ← setMembers? right with
    | some a, some b =>
      if a.length ≠ b.length then return false else membersWithin equal b a
    | _, _ => return false

/-- Equality, down to a depth. -/
def equalFrom : Nat → Value → Value → Step Bool
  | 0, _, _ => Step.raise .recursion "maximum recursion depth exceeded in comparison"
  | depth + 1, left, right =>
    match left.number?, right.number? with
    | some a, some b => return compareNumbers a b == some .eq
    | _, _ => match left, right with
      | .complex _, _ | _, .complex _ => match left.complexNumber?, right.complexNumber? with
        | some a, some b => return equalComplex a b
        | _, _ => return false
      | .tuple a, .tuple b =>
        if a.length ≠ b.length then return false else equalAll (equalFrom depth) a b
      | .range a b c, .range d e f => return equalRanges a b c d e f
      | .slice a b c, .slice d e f => equalAll (equalFrom depth) [a, b, c] [d, e, f]
      | .dateTime a, .dateTime b => return compareTimes a b == some .eq
      | .method a name, .method b other =>
        return name == other && isSame nestingLimit a b
      | .object a, .object b => do
        if a = b then return true
        equalObjects (equalFrom depth) (← Step.load a) (← Step.load b)
      | _, _ => return isSame (depth + 1) left right

/-- The values are equal. -/
def equals (left right : Value) : Step Bool :=
  equalFrom nestingLimit left right

/-- Members of containers are the same or equal. -/
def matchesMember (left right : Value) : Step Bool :=
  matching equals left right

/-- Refuse a value that cannot be a key, down to a depth. -/
def requireHashableFrom : Nat → Value → Step Unit
  | 0, _ => Step.raise .recursion "maximum recursion depth exceeded"
  | depth + 1, value => match value with
    | .tuple items => items.forM (requireHashableFrom depth)
    | .slice .. => Step.raise .type "unhashable type: 'slice'"
    | .object address => do
      let object ← Step.load address
      let refused := match object with
        | .list _ | .dictionary _ | .set _ | .view .keys _ | .view .items _ => true
        | _ => false
      if refused then Step.raise .type ("unhashable type: '" ++ object.classOf.name ++ "'")
    | _ => return ()

/-- Refuse a value that cannot be a key. -/
def requireHashable (value : Value) : Step Unit :=
  requireHashableFrom nestingLimit value

/-- The refusal of a comparison. -/
def orderRefused {α : Type} (sign : OrderSign) (left right : Value) : Step α := do
  Step.raise .type ("'" ++ sign.written ++ "' not supported between instances of '" ++ (← left.typeName) ++
    "' and '" ++ (← right.typeName) ++ "'")


/-- The order of two texts is that of their characters. -/
def compareTexts (a b : List Char) : Ordering :=
  match a, b with
  | [], [] => .eq
  | [], _ :: _ => .lt
  | _ :: _, [] => .gt
  | c :: rest, d :: others =>
    if c.toNat < d.toNat then .lt
    else if d.toNat < c.toNat then .gt
    else compareTexts rest others

/-- The order of two byte sequences. -/
def compareBytes (a b : List UInt8) : Ordering :=
  match a, b with
  | [], [] => .eq
  | [], _ :: _ => .lt
  | _ :: _, [] => .gt
  | c :: rest, d :: others =>
    if c < d then .lt else if d < c then .gt else compareBytes rest others

/-- Compare sequences at the first place where they differ. -/
def compareMembers (ordered : Value → Value → Step Bool) (sign : OrderSign) :
    List Value → List Value → Step Bool
  | [], [] => return sign.holds .eq
  | [], _ :: _ => return sign.holds .lt
  | _ :: _, [] => return sign.holds .gt
  | a :: rest, b :: others => do
    if ← matchesMember a b then compareMembers ordered sign rest others else ordered a b

/-- Compare sets by inclusion. -/
def compareSets (sign : OrderSign) (a b : List Value) : Step Bool := do
  match sign with
  | .below => return a.length < b.length && (← membersWithin equals b a)
  | .atMost => return a.length ≤ b.length && (← membersWithin equals b a)
  | .above => return b.length < a.length && (← membersWithin equals a b)
  | .atLeast => return b.length ≤ a.length && (← membersWithin equals a b)

/-- The order of two values, down to a depth. -/
def orderedFrom (sign : OrderSign) : Nat → Value → Value → Step Bool
  | 0, _, _ => Step.raise .recursion "maximum recursion depth exceeded in comparison"
  | depth + 1, left, right =>
    match left.number?, right.number? with
    | some a, some b => return ((compareNumbers a b).map sign.holds).getD false
    | _, _ => match left, right with
      | .text a, .text b => return sign.holds (compareTexts a.toList b.toList)
      | .bytes a, .bytes b => return sign.holds (compareBytes a b)
      | .tuple a, .tuple b => compareMembers (orderedFrom sign depth) sign a b
      | .date a, .date b => return sign.holds (compare a.ordinal b.ordinal)
      | .dateTime a, .dateTime b => match compareTimes a b with
        | some order => return sign.holds order
        | Option.none =>
          Step.raise .type "can't compare offset-naive and offset-aware datetimes"
      | .object a, .object b => do
        let first ← Step.load a
        let second ← Step.load b
        match first, second with
        | .list items, .list others =>
          compareMembers (orderedFrom sign depth) sign items.toList others.toList
        | _, _ =>
          match ← setMembers? first, ← setMembers? second with
          | some items, some others => compareSets sign items others
          | _, _ => orderRefused sign left right
      | _, _ => orderRefused sign left right

/-- The order of two values, by one of the four signs. -/
def ordered (sign : OrderSign) (left right : Value) : Step Bool :=
  orderedFrom sign nestingLimit left right

end Value

end Script
end PolicyStudio
