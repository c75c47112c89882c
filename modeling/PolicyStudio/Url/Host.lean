import PolicyStudio.Url.Domain
import PolicyStudio.Url.Escape

/-!
# Hosts

The host of a common address is a domain or a number of the network.  Numbers have
one way of writing, whatever way they were written in.  Other addresses take their host as it is.
-/

namespace PolicyStudio
namespace Url

/-- A character that no host holds. -/
def isForbidden (c : Char) : Bool :=
  c ∈ ['\x00', '\t', '\n', '\r', ' ', '#', '/', ':', '<', '>', '?', '@', '[', '\\', ']', '^', '|']

/-- A character that no domain holds. -/
def isForbiddenInDomain (c : Char) : Bool :=
  isForbidden c || isControl c || c == '%'

/-! ## Numbers with four parts -/

/-- The number that digits of a base write; no digits write zero. -/
def numberIn? (base : Nat) (cs : List Char) : Option Nat :=
  cs.foldlM (fun n c => do
    if 0x80 ≤ c.toNat then failure
    return base * n + (← Decimal.digitIn? base c)) 0

/-- A part of a number of the network: decimal, octal or hexadecimal. -/
def part? : List Char → Option Nat
  | [] => none
  | '0' :: 'x' :: rest | '0' :: 'X' :: rest => numberIn? 16 rest
  | '0' :: c :: rest => numberIn? 8 (c :: rest)
  | cs => numberIn? 10 cs

/-- The labels of a domain, without an empty one at the end. -/
def labels (cs : List Char) : List (List Char) :=
  let all := Text.cutAt '.' cs
  match all.getLast? with
  | some [] => if 1 < all.length then all.dropLast else all
  | _ => all

/-- The host is meant as a number. -/
def endsInNumber (cs : List Char) : Bool :=
  match (labels cs).getLast? with
  | none => false
  | some last => (!last.isEmpty && last.all Char.isDigit) || (part? last).isSome

/-- The number that parts write: the last part fills what is left of four bytes. -/
def quad? (parts : List Nat) : Option Nat :=
  match parts.reverse with
  | [] => none
  | last :: before =>
    if 3 < before.length ∨ before.any (255 < ·) ∨ 256 ^ (4 - before.length) ≤ last then none
    else
      let high := before.reverse.foldl (fun n part => 256 * n + part) 0
      some (high * 256 ^ (4 - before.length) + last)

/-- Four bytes with points between them. -/
def quadText (n : Nat) : String :=
  ".".intercalate ([n / 256 ^ 3, n / 256 ^ 2 % 256, n / 256 % 256, n % 256].map Nat.repr)

/-! ## Numbers with eight pieces -/

/-- A piece: one to four hexadecimal digits. -/
def piece? (cs : List Char) : Option Nat :=
  if cs.isEmpty ∨ 4 < cs.length then none else numberIn? 16 cs

/-- A byte in decimal, without superfluous zeros. -/
def byte? (cs : List Char) : Option Nat :=
  match cs, numberIn? 10 cs with
  | _ :: _, some n => if n < 256 ∧ n.repr.length = cs.length then some n else none
  | _, _ => none

/-- Pieces; the last may be written as four bytes. -/
def pieces? (cs : List Char) : Option (List Nat) :=
  if cs.isEmpty then some []
  else
    let parts := Text.cutAt ':' cs
    match parts.getLast? with
    | none => none
    | some last =>
      if last.contains '.' then match (Text.cutAt '.' last).mapM byte? with
        | some [a, b, c, d] => do
          return (← parts.dropLast.mapM piece?) ++ [256 * a + b, 256 * c + d]
        | _ => none
      else parts.mapM piece?

/-- Cut at the first two colons in a row. -/
def cutGap? (seen : List Char) : List Char → Option (List Char × List Char)
  | ':' :: ':' :: rest => some (seen.reverse, rest)
  | c :: rest => cutGap? (c :: seen) rest
  | [] => none

/-- The eight pieces that a text writes; two colons in a row stand for zeros. -/
def eightPieces? (cs : List Char) : Option (List Nat) :=
  match cutGap? [] cs with
  | none => (pieces? cs).filter (·.length = 8)
  | some (before, after) => match pieces? before, pieces? after with
    | some high, some low =>
      if high.length + low.length < 8 then
        some (high ++ List.replicate (8 - high.length - low.length) 0 ++ low)
      else none
    | _, _ => none

/-- How many zeros there are at the start. -/
def leadingZeros (pieces : List Nat) : Nat := (pieces.takeWhile (· = 0)).length

/-- Where the first of the longest runs of zeros is, and how long it is. -/
def longestGap (pieces : List Nat) : Nat × Nat :=
  (List.range pieces.length).foldl (fun best start =>
    let length := leadingZeros (pieces.drop start)
    if best.2 < length then (start, length) else best) (0, 0)

/-- A piece in hexadecimal. -/
def pieceText (n : Nat) : String :=
  String.ofList (Nat.toDigits 16 n)

/-- The text of eight pieces; the first of the longest runs of zeros is left out. -/
def eightText (pieces : List Nat) : String :=
  let joined (pieces : List Nat) : String := ":".intercalate (pieces.map pieceText)
  let (start, length) := longestGap pieces
  if length < 2 then joined pieces
  else joined (pieces.take start) ++ "::" ++ joined (pieces.drop (start + length))

/-! ## Hosts -/

/-- The text between brackets, if there is nothing else. -/
def bracketed? : List Char → Option (List Char)
  | '[' :: rest => if rest.getLast? = some ']' then some rest.dropLast else none
  | _ => none

/-- The host of a common address. -/
def commonHost? (cs : List Char) : Option String :=
  if cs.head? = some '[' then do
    let pieces ← eightPieces? (← bracketed? cs)
    return "[" ++ eightText pieces ++ "]"
  else do
    let domain ← domain? (unescape cs)
    if domain.isEmpty ∨ domain.any isForbiddenInDomain then none
    else if endsInNumber domain then do
      return quadText (← quad? (← (labels domain).mapM part?))
    else return String.ofList domain

/-- The host of an address that is not a common one. -/
def otherHost? (cs : List Char) : Option String :=
  if cs.head? = some '[' then commonHost? cs
  else if cs.any isForbidden then none
  else some (String.ofList (escape escapedAnywhere cs))

end Url
end PolicyStudio
