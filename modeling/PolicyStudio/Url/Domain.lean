import PolicyStudio.Text.Case
import PolicyStudio.Text.Normal
import PolicyStudio.Url.DomainTable
import PolicyStudio.Url.Punycode

/-!
# Domains

A domain may be written in any script.  Its characters are brought to one form, small
and compatible; characters that count for nothing are left out, and some are refused.
Then every label that is not in the smallest set is written in it, behind a mark.  A
label that has the mark already has to be what some label in one form is written as.

Three rules hold for the labels.  None begins with a mark that stands on a letter.
Signs that join or part letters stand only where they have an effect.  And if any
label has letters from right to left, no label mixes directions.
-/

namespace PolicyStudio
namespace Url

namespace Domain

/-- Characters that no domain holds. -/
def refused : Text.CharSet := .read DomainTable.refused

/-- Characters that count for nothing. -/
def ignored : Text.CharSet := .read DomainTable.ignored

/-- Characters whose form is not the small form of their compatible form. -/
def special : Text.CharMap := .read DomainTable.runs DomainTable.spreads

/-- Marks, with which no label begins. -/
def marks : Text.CharSet := .read DomainTable.marks

/-! ## One form -/

/-- A character without its form in large letters and its compatible forms. -/
def plainForm (c : Char) : List Char :=
  (Text.normal (Text.lower (Text.normal (String.singleton c)))).toList

/-- The form of a character. -/
def form? (c : Char) : Option (List Char) :=
  if c.toNat < 0x80 then some [c.toLower]
  else if refused.contains c then none
  else if ignored.contains c then some []
  else match special.spreads.lookup c.toNat with
    | some cs => some cs
    | none => match special.find c.toNat (special.runs.size.log2 + 2) 0 special.runs.size with
      | some n => some [Char.ofNat n]
      | none => some (plainForm c)

/-- The form of a text. -/
def formOf? (cs : List Char) : Option (List Char) := do
  let pieces ← cs.mapM form?
  return (Text.normal (String.ofList pieces.flatten)).toList

/-! ## Signs that join or part letters -/

/-- Joins letters. -/
def joiner : Char := '\u200d'

/-- Parts letters. -/
def nonJoiner : Char := '\u200c'

/-- The rank of marks that take the vowel of a letter away. -/
def vowelKiller : Nat := 9

/-- Letters that join the letter behind them only. -/
def joinsLeft : Text.CharSet := .read DomainTable.joinsLeft

/-- Letters that join the letter before them only. -/
def joinsRight : Text.CharSet := .read DomainTable.joinsRight

/-- Letters that join both their neighbours. -/
def joinsBoth : Text.CharSet := .read DomainTable.joinsBoth

/-- Characters through which letters join. -/
def joinsThrough : Text.CharSet := .read DomainTable.joinsThrough

/-- Letters that join the letter behind them. -/
def joinsForward (c : Char) : Bool := joinsLeft.contains c || joinsBoth.contains c

/-- Letters that join the letter before them. -/
def joinsBack (c : Char) : Bool := joinsRight.contains c || joinsBoth.contains c

/-- The next character that letters do not join through. -/
def next? (cs : List Char) : Option Char := (cs.dropWhile joinsThrough.contains).head?

/-- The signs that join or part letters have an effect, given what stands before the
rest in reverse. -/
def signsFit (before : List Char) : List Char → Bool
  | [] => true
  | c :: rest =>
    let killed := before.head?.any fun last => Text.Normal.rank last = vowelKiller
    let between := (next? before).any joinsForward && (next? rest).any joinsBack
    (if c = joiner then killed else if c = nonJoiner then killed || between else true) &&
      signsFit (c :: before) rest

/-! ## Directions -/

/-- What a character says about directions. -/
inductive Direction where
  | left
  | right
  /-- A digit among letters from right to left. -/
  | rightDigit
  | digit
  /-- The direction of what it stands on. -/
  | still
  | neutral
deriving Repr, DecidableEq

/-- The sets of characters by direction. -/
def directions : List (Text.CharSet × Direction) :=
  [(.read DomainTable.right, .right), (.read DomainTable.arabicDigits, .rightDigit),
    (.read DomainTable.digits, .digit), (.read DomainTable.still, .still),
    (.read DomainTable.neutral, .neutral)]

/-- What a character says about directions. -/
def direction (c : Char) : Direction :=
  if c.toNat < 0x80 then
    if c.isAlpha then .left else if c.isDigit then .digit else .neutral
  else match directions.find? fun (set, _) => set.contains c with
    | some (_, direction) => direction
    | none => .left

/-- The directions of a label go together. -/
def isStraight (label : List Char) : Bool :=
  let directions := label.map direction
  match directions.head?, (directions.reverse.dropWhile (· = .still)).head? with
  | none, _ => true
  | some .left, some last =>
    (last = .left || last = .digit) &&
      directions.all fun d => d ≠ .right && d ≠ .rightDigit
  | some .right, some last =>
    (last = .right || last = .digit || last = .rightDigit) &&
      (directions.all fun d => d ≠ .left) &&
      !(directions.contains .digit && directions.contains .rightDigit)
  | _, _ => false

/-- Some label has letters from right to left, or digits that go with them. -/
def hasRight (labels : List (List Char)) : Bool :=
  labels.any fun label => label.any fun c => direction c = .right || direction c = .rightDigit

/-! ## Labels -/

/-- The label is in the smallest set. -/
def isPlain (label : List Char) : Bool := label.all fun c => c.toNat < 0x80

/-- The mark of a label that was written in the smallest set. -/
def writtenMark : List Char := "xn--".toList

/-- The label that is meant; one with the mark has to be written as it should be. -/
def meant? (label : List Char) : Option (List Char) :=
  if writtenMark.isPrefixOf label then do
    let inner ← Punycode.decode? (label.drop writtenMark.length)
    if !isPlain inner ∧ formOf? inner = some inner then return inner else failure
  else some label

/-- The label holds what a label may hold. -/
def isFit (label : List Char) : Bool :=
  isPlain label || (!label.head?.any marks.contains && signsFit [] label)

/-- A label in the smallest set. -/
def written (label : List Char) : List Char :=
  if isPlain label then label else writtenMark ++ Punycode.encode label

end Domain

/-- A domain in one form and in the smallest set. -/
def domain? (cs : List Char) : Option (List Char) := do
  let form ← Domain.formOf? cs
  let labels ← (Text.cutAt '.' form).mapM Domain.meant?
  if labels.all Domain.isFit ∧ (Domain.hasRight labels → labels.all Domain.isStraight) then
    return List.intercalate ['.'] (labels.map Domain.written)
  else failure

end Url
end PolicyStudio
