import PolicyStudio.Text.CharSet

/-!
# Mappings of characters, as published

A mapping is written as *runs*, which move characters by a distance, and as
*spreads*, which send one character to several.  Characters that neither names
stay as they are.
-/

namespace PolicyStudio
namespace Text

/-- Every `step`-th character from `first` to `last` moves by `shift`. -/
structure CharRun where
  first : Nat
  last : Nat
  step : Nat
  shift : Int

namespace CharRun

/-- Split a written run at its sign, `+` for forward and `~` for back. -/
def readShift (cs : List Char) : List Char × Int :=
  match cutAt '+' cs with
  | [range, shift] => (range, hexNumber shift)
  | _ => match cutAt '~' cs with
    | [range, shift] => (range, - (hexNumber shift : Int))
    | _ => (cs, 0)

/-- Read one run: `B5+2E7`, `E0-F6~20` or `100-12E/2+1`. -/
def read (cs : List Char) : CharRun :=
  let (range, shift) := readShift cs
  let (range, step) := match cutAt '/' range with
    | [range, step] => (range, hexNumber step)
    | _ => (range, 1)
  let (first, last) := CharSet.readRange range
  ⟨first, last, step, shift⟩

/-- The image of a code point of the run. -/
def image? (run : CharRun) (n : Nat) : Option Nat :=
  if run.first ≤ n ∧ n ≤ run.last ∧ (n - run.first) % run.step = 0 then
    some (n + run.shift).toNat
  else none

end CharRun

/-- One direction of the case mapping. -/
structure CharMap where
  runs : Array CharRun
  spreads : List (Nat × List Char)

namespace CharMap

/-- Read one spread, `DF=53,53`. -/
def readSpread (cs : List Char) : Nat × List Char :=
  match cutAt '=' cs with
  | [source, targets] =>
    (hexNumber source, (cutAt ',' targets).map fun target => Char.ofNat (hexNumber target))
  | _ => (0, [])

/-- Read both written tables. -/
def read (runs spreads : String) : CharMap :=
  ⟨((cutAt ' ' runs.toList).map CharRun.read).toArray, (cutAt ' ' spreads.toList).map readSpread⟩

/-- Halve the candidates until the run that could hold `n` is left. -/
def find (m : CharMap) (n : Nat) : Nat → Nat → Nat → Option Nat
  | 0, _, _ => none
  | steps + 1, low, high =>
    if low < high then
      let middle := (low + high) / 2
      match m.runs[middle]? with
      | none => none
      | some run =>
        if n < run.first then find m n steps low middle
        else if run.last < n then find m n steps (middle + 1) high
        else run.image? n
    else none

/-- The characters that stand for one character above ASCII. -/
def image (m : CharMap) (c : Char) : List Char :=
  match m.spreads.lookup c.toNat with
  | some cs => cs
  | none => match m.find c.toNat (m.runs.size.log2 + 2) 0 m.runs.size with
    | some n => [Char.ofNat n]
    | none => [c]

end CharMap

end Text
end PolicyStudio
