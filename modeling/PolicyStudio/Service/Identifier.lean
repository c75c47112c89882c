import PolicyStudio.Decimal.Read
import PolicyStudio.Session.Store

/-!
# Public identifiers

Outside, sessions are known by identifiers of thirty-two hexadecimal digits, mostly
in five groups with hyphens between them.  An identifier may stand in braces or
behind a mark for its kind, and its letters may be large.

What is no identifier is refused for the first reason that applies: a character
that no identifier holds, then the number of digits or groups, then the length of
a group.
-/

namespace PolicyStudio
namespace Service

/-- Why a text is no identifier. -/
inductive IdentifierFault where
  /-- A character at a position, counted in bytes. -/
  | character (found : Char) (position : Nat)
  | length (found : Nat)
  | groupCount (found : Nat)
  | groupLength (group expected found : Nat)
deriving Repr, DecidableEq

/-- The wording of a fault. -/
def IdentifierFault.message : IdentifierFault → String
  | .character found position =>
    "invalid character: found \x60" ++ String.singleton found ++ "\x60 at " ++ position.repr
  | .length found => "invalid length: found " ++ found.repr
  | .groupCount found => "invalid group count: expected 5, found " ++ found.repr
  | .groupLength group expected found =>
    "invalid group length in group " ++ group.repr ++ ": expected " ++ expected.repr ++
      ", found " ++ found.repr

namespace Identifier

/-- The mark for the kind of an identifier. -/
def kindMark : List Char := "urn:uuid:".toList

/-- The lengths of the groups. -/
def groupLengths : List Nat := [8, 4, 4, 4, 12]

/-- The value of a hexadecimal digit. -/
def digit? (c : Char) : Option Nat :=
  if c.toNat < 0x80 then Decimal.digitIn? 16 c else none

/-- The number that digits write. -/
def number? (cs : List Char) : Option Nat :=
  cs.foldlM (fun n c => (digit? c).map (16 * n + ·)) 0

/-- What is left of an identifier without braces or mark, how many characters were
taken from its start, and whether there was nothing to take. -/
def core (cs : List Char) : List Char × Nat × Bool :=
  match cs with
  | '\x7b' :: rest =>
    if rest.getLast? = some '\x7d' then (rest.dropLast, 1, false) else (cs, 0, true)
  | _ =>
    if cs.take kindMark.length = kindMark then (cs.drop kindMark.length, kindMark.length, false)
    else (cs, 0, true)

/-- The first character that no identifier holds, with its position. -/
def firstBad? (position : Nat) : List Char → Option (Char × Nat)
  | [] => none
  | c :: rest =>
    if c = '-' ∨ (digit? c).isSome then firstBad? (position + c.utf8Size) rest
    else some (c, position)

/-- The first of the groups but the last that has another length than expected. -/
def badGroup? : Nat → List Nat → List (List Char) → Option IdentifierFault
  | n, expected :: lengths, found :: next :: rest =>
    if found.length = expected then badGroup? (n + 1) lengths (next :: rest)
    else some (.groupLength n expected found.length)
  | _, _, _ => none

/-- How many characters stand before the last group. -/
def lastStart : Nat := 24

/-- The reason why a text is no identifier, in the order in which reasons apply. -/
def faultOf (cs : List Char) : IdentifierFault :=
  let (inner, offset, isPlain) := core cs
  match firstBad? offset inner with
  | some (c, position) => .character c position
  | none =>
    let groups := Text.cutAt '-' inner
    if groups.length = 1 ∧ isPlain then .length cs.length
    else if groups.length ≠ groupLengths.length then .groupCount groups.length
    else match badGroup? 0 groupLengths groups with
      | some fault => fault
      | none => .groupLength 4 12 (cs.length - lastStart)

/-- Read an identifier. -/
def read (s : String) : Except IdentifierFault Nat :=
  let cs := s.toList
  let (inner, _, isPlain) := core cs
  let groups := Text.cutAt '-' inner
  let isWhole := groups.map List.length = groupLengths ∨ (isPlain ∧ inner.length = 32)
  match if isWhole then number? groups.flatten else none with
  | some n => .ok n
  | none => .error (faultOf cs)

/-- The text of an identifier. -/
def text (n : Nat) : String :=
  let digits := Text.hexDigitsFrom 32 n []
  let (groups, _) := groupLengths.foldl (fun (done, rest) length =>
    (done ++ [String.ofList (rest.take length)], rest.drop length)) (([] : List String), digits)
  "-".intercalate groups

/-- The identifier of the first session. -/
def first : Nat := 0x5b1c8ad2f06e4c3794e12d7a00000000

/-- The identifier of a session. -/
def ofSession (id : Session.Id) : Nat := first + id

/-- The session with an identifier, which need not be there. -/
def session? (n : Nat) : Option Session.Id :=
  if first ≤ n then some (n - first) else none

end Identifier

end Service
end PolicyStudio
