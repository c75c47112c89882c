import PolicyStudio.Text.CharMap
import PolicyStudio.Text.NormalTable

/-!
# Compatible forms

Texts that look alike may be written in several ways.  The compatible form of a text
takes every character apart, orders the marks that stand on one character, and puts
together again what can be put together.  ASCII is its own form.
-/

namespace PolicyStudio
namespace Text

namespace Normal

/-- What takes single characters apart, except those that are made from two. -/
def parts : CharMap := CharMap.read NormalTable.runs NormalTable.spreads

/-- Read what a character makes with each of some marks. -/
def readPairs (cs : List Char) : List (Nat × Nat × Nat) :=
  match cutAt ':' cs with
  | [first, others] => (cutAt ',' others).filterMap fun other => match cutAt '=' other with
    | [second, made] => some (hexNumber first, hexNumber second, hexNumber made)
    | _ => none
  | _ => []

/-- The characters that are made from two: both of them, and what they make. -/
def pairs : List (Nat × Nat × Nat) :=
  (cutAt ' ' NormalTable.pairs.toList).flatMap readPairs

/-- Read the rank of the marks of a range. -/
def readRank (cs : List Char) : Nat × Nat × Nat :=
  match cutAt '=' cs with
  | [range, rank] => ((CharSet.readRange range).1, (CharSet.readRange range).2, hexNumber rank)
  | _ => (0, 0, 0)

/-- The ranks of marks, by ranges. -/
def ranks : List (Nat × Nat × Nat) :=
  (cutAt ' ' NormalTable.ranks.toList).map readRank

/-- The rank of a mark; it is zero for what is no mark. -/
def rank (c : Char) : Nat :=
  if c.toNat < 0x300 then 0
  else match ranks.find? fun (first, last, _) => first ≤ c.toNat && c.toNat ≤ last with
    | some (_, _, rank) => rank
    | none => 0

/-- The parts of a syllable of Hangul, which are numbered by their leads, vowels and
tails. -/
def syllableParts (n : Nat) : List Char :=
  let index := n - 0xAC00
  let tail := index % 28
  [Char.ofNat (0x1100 + index / 588), Char.ofNat (0x1161 + index % 588 / 28)] ++
    if tail = 0 then [] else [Char.ofNat (0x11A7 + tail)]

/-- Take a character apart; `depth` bounds how often its parts are taken apart. -/
def takeApart : Nat → Char → List Char
  | 0, c => [c]
  | depth + 1, c =>
    if c.toNat < 0x80 then [c]
    else if 0xAC00 ≤ c.toNat ∧ c.toNat ≤ 0xD7A3 then syllableParts c.toNat
    else match pairs.find? fun (_, _, made) => made = c.toNat with
      | some (first, second, _) =>
        takeApart depth (Char.ofNat first) ++ takeApart depth (Char.ofNat second)
      | none => parts.image c

/-- Put a ranked mark behind the marks that do not outrank it. -/
def insertMark (c : Char) (marks : List Char) : List Char :=
  marks.takeWhile (fun other => rank other ≤ rank c) ++
    c :: marks.dropWhile (fun other => rank other ≤ rank c)

/-- Order the marks between characters that are none; `marks` are those that stand in
front, in order. -/
def orderMarks (marks : List Char) : List Char → List Char
  | [] => marks
  | c :: rest =>
    if rank c = 0 then marks ++ c :: orderMarks [] rest
    else orderMarks (insertMark c marks) rest

/-- What two characters make. -/
def make? (first second : Char) : Option Char :=
  let a := first.toNat
  let b := second.toNat
  if 0x1100 ≤ a ∧ a < 0x1113 ∧ 0x1161 ≤ b ∧ b < 0x1176 then
    some (Char.ofNat (0xAC00 + ((a - 0x1100) * 21 + (b - 0x1161)) * 28))
  else if 0xAC00 ≤ a ∧ a ≤ 0xD7A3 ∧ (a - 0xAC00) % 28 = 0 ∧ 0x11A7 < b ∧ b < 0x11C3 then
    some (Char.ofNat (a + (b - 0x11A7)))
  else (pairs.find? fun (first, second, _) => first = a && second = b).map fun (_, _, made) =>
    Char.ofNat made

/-- Put characters together.  `base` is the last character that is no mark, and `marks`
are those that stand on it, in order; a mark that outranks them reaches it. -/
def putTogether (base : Option Char) (marks : List Char) : List Char → List Char
  | [] => base.toList ++ marks
  | c :: rest =>
    let reaches := match marks.getLast? with
      | none => true
      | some last => rank last < rank c
    match base, reaches with
    | some b, true => match make? b c with
      | some made => putTogether (some made) marks rest
      | none => next b c rest
    | some b, false => next b c rest
    | none, _ =>
      if rank c = 0 then putTogether (some c) [] rest
      else c :: putTogether none [] rest
where
  /-- Go on with a character that stays as it is. -/
  next (b c : Char) (rest : List Char) : List Char :=
    if rank c = 0 then b :: marks ++ putTogether (some c) [] rest
    else putTogether (some b) (marks ++ [c]) rest

end Normal

/-- The compatible form of a text. -/
def normal (s : String) : String :=
  let cs := s.toList
  if cs.all fun c => c.toNat < 0x80 then s
  else String.ofList
    (Normal.putTogether none [] (Normal.orderMarks [] (cs.flatMap (Normal.takeApart 8))))

end Text
end PolicyStudio
