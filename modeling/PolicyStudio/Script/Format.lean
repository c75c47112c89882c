import PolicyStudio.Decimal.Fixed
import PolicyStudio.Script.Arithmetic

/-!
# Formats after a colon

A small language describes how a value is laid out in a formatted text.  A format
comes down to a number or a text, padded to a width.  A format may be refused as a
whole, or for what it asks of a value.
-/

namespace PolicyStudio
namespace Script

open Step

/-- Why a value cannot be laid out. -/
inductive FormatFault where
  | invalid (message : String)
  | tooLarge (message : String)
deriving Repr, DecidableEq

/-- A format after a colon. -/
structure FormatSpec where
  fill : Char := ' '
  /-- One of `<`, `>`, `=` and `^`, if it is given. -/
  align : Option Char := none
  /-- One of `+`, `-` and a blank, if it is given. -/
  sign : Option Char := none
  plainZero : Bool := false
  alternate : Bool := false
  width : Nat := 0
  grouping : Option Char := none
  precision : Option Nat := none
  kind : Option Char := none
deriving Repr

namespace FormatSpec

/-- The outcome of laying out. -/
abbrev Formatted := Except FormatFault

/-- Refuse to lay out a value. -/
def refuse {α : Type} (message : String) : Formatted α :=
  throw (.invalid message)

/-- A character as refusals show it: by its code unless it is printable ASCII. -/
def named (c : Char) : String :=
  if 32 < c.toNat ∧ c.toNat < 128 then String.ofList [c]
  else "\\x" ++ String.ofList (Nat.toDigits 16 c.toNat)

/-- The refusal of a kind for values of a type. -/
def unknownKind {α : Type} (c : Char) (type : String) : Formatted α :=
  refuse ("Unknown format code '" ++ named c ++ "' for object of type '" ++ type ++ "'")

/-- The marks of alignment. -/
def isAlignment (c : Char) : Bool :=
  c = '<' || c = '>' || c = '=' || c = '^'

/-- Read a count at the front, in digits of any script. -/
def takeCount (cs : List Char) : Option Nat × List Char :=
  let digits := cs.takeWhile fun c => (Text.digit? c).isSome
  let count := digits.foldl (fun n c => 10 * n + (Text.digit? c).getD 0) 0
  (if digits.isEmpty then none else some count, cs.drop digits.length)

/-- Read one of some characters at the front. -/
def takeOne (allowed : List Char) (cs : List Char) : Option Char × List Char :=
  match cs with
  | c :: rest => if allowed.contains c then (some c, rest) else (none, cs)
  | [] => (none, [])

/-- Read fill and alignment. -/
def takeAlignment (cs : List Char) : Option Char × Option Char × List Char :=
  match cs with
  | fill :: mark :: rest =>
    if isAlignment mark then (some fill, some mark, rest)
    else if isAlignment fill then (none, some fill, mark :: rest)
    else (none, none, cs)
  | [mark] => if isAlignment mark then (none, some mark, []) else (none, none, cs)
  | [] => (none, none, [])

/-- The refusal of two separators. -/
def separatorsClash : String := "Cannot specify both ',' and '_'."

/-- Read the separator of groups of digits. -/
def takeGrouping (cs : List Char) : Formatted (Option Char × List Char) := do
  let (comma, cs) := takeOne [','] cs
  let (line, cs) := takeOne ['_'] cs
  if comma.isSome ∧ line.isSome then refuse separatorsClash
  if line.isSome ∧ cs.head? = some ',' then refuse separatorsClash
  return (comma <|> line, cs)

/-- Digits can be grouped in this kind of number. -/
def allowsGrouping (mark : Char) (kind : Option Char) : Bool :=
  match kind with
  | none => true
  | some c => "deEfFgG%".toList.contains c || mark = '_' && "boxX".toList.contains c

/-- A count in a format must be a possible size. -/
def checkedCount (n : Option Nat) : Formatted Unit :=
  if n.any fun n => Arithmetic.sizeLimit < n then
    refuse "Too many decimal digits in format string"
  else return ()

/-- Read a format for a value of a type, whose kind is `standard` unless the format
tells another. -/
def read (type : String) (standard : Option Char) (text : String) : Formatted FormatSpec := do
  let (fill, align, cs) := takeAlignment text.toList
  let (sign, cs) := takeOne ['+', '-', ' '] cs
  let (zero, cs) := takeOne ['z'] cs
  let (alternate, cs) := takeOne ['#'] cs
  let (padded, cs) := if fill.isNone then takeOne ['0'] cs else (none, cs)
  let (width, cs) := takeCount cs
  checkedCount width
  let (grouping, cs) ← takeGrouping cs
  let (precision, cs) ← match cs with
    | '.' :: rest => do
      let (precision, rest) := takeCount rest
      checkedCount precision
      if precision.isNone then refuse "Format specifier missing precision"
      pure (precision, rest)
    | _ => pure (none, cs)
  let kind ← match cs with
    | [] => pure standard
    | [c] => pure (some c)
    | _ => refuse ("Invalid format specifier '" ++ text ++ "' for object of type '" ++ type ++ "'")
  match grouping with
  | some mark =>
    if !allowsGrouping mark kind then
      refuse ("Cannot specify '" ++ String.ofList [mark] ++ "' with '" ++
        (kind.map named).getD "" ++ "'.")
  | none => pure ()
  let align := match align with
    | some mark => some mark
    | none => if padded.isSome ∧ type ≠ "str" then some '=' else none
  return { fill := fill.getD (if padded.isSome then '0' else ' '), align, sign,
           plainZero := zero.isSome, alternate := alternate.isSome, width := width.getD 0,
           grouping, precision, kind }

/-! ## Layout -/

/-- Put a separator before every group of digits, from the right. -/
def grouped (mark : Char) (size : Nat) (digits : List Char) : List Char :=
  let step := fun (c : Char) (state : List Char × Nat) =>
    let (done, count) := state
    if count ≠ 0 ∧ count % size = 0 then (c :: mark :: done, count + 1) else (c :: done, count + 1)
  (digits.foldr step ([], 0)).1

/-- Digits with zeros in front, so that the groups fill a width. -/
def zeroGrouped (mark : Char) (size width : Nat) (digits : List Char) : Nat → List Char
  | 0 => grouped mark size digits
  | steps + 1 =>
    let text := grouped mark size digits
    if width ≤ text.length then text
    else zeroGrouped mark size width ('0' :: digits) steps

/-- Pad a text to the width. -/
def pad (spec : FormatSpec) (standard : Char) (lead body : List Char) : List Char :=
  let missing := spec.width - (lead.length + body.length)
  let filler := fun n => List.replicate n spec.fill
  match spec.align.getD standard with
  | '<' => lead ++ body ++ filler missing
  | '^' => filler (missing / 2) ++ lead ++ body ++ filler (missing - missing / 2)
  | '=' => lead ++ filler missing ++ body
  | _ => filler missing ++ lead ++ body

/-- The sign of a number as the format wants it. -/
def signText (spec : FormatSpec) (negative : Bool) : List Char :=
  if negative then ['-']
  else match spec.sign with
    | some '+' => ['+']
    | some ' ' => [' ']
    | _ => []

/-- Group the first `count` characters, which are the digits before the point. -/
def groupWhole (spec : FormatSpec) (size count : Nat) (lead body : List Char) : List Char :=
  match spec.grouping with
  | none => body
  | some mark =>
    let rest := body.drop count
    let width := if spec.fill = '0' ∧ spec.align = some '=' then
      spec.width - lead.length - rest.length else 0
    zeroGrouped mark size width (body.take count) width ++ rest

/-- An integer from its sign, a mark of its base and its digits. -/
def whole (spec : FormatSpec) (negative : Bool) (mark digits : List Char) (size : Nat) : String :=
  let lead := spec.signText negative ++ mark
  String.ofList (spec.pad '>' lead (spec.groupWhole size digits.length lead digits))

/-! ## Texts -/

/-- A text. -/
def formatText (spec : FormatSpec) (s : String) : Formatted String := do
  match spec.kind with
  | none | some 's' => pure ()
  | some c => unknownKind c "str"
  match spec.sign with
  | none => pure ()
  | some ' ' => refuse "Space not allowed in string format specifier"
  | some _ => refuse "Sign not allowed in string format specifier"
  if spec.plainZero then
    refuse "Negative zero coercion (z) not allowed in string format specifier"
  if spec.alternate then refuse "Alternate form (#) not allowed in string format specifier"
  if spec.align = some '=' then refuse "'=' alignment not allowed in string format specifier"
  let cs := match spec.precision with
    | some n => s.toList.take n
    | none => s.toList
  return String.ofList (spec.pad '<' [] cs)

/-! ## Binary numbers -/

/-- The greatest precision of a binary number. -/
def precisionLimit : Nat := 2 ^ 31 - 1

/-- A precision must be small enough. -/
def checkPrecision (spec : FormatSpec) : Formatted Unit :=
  if spec.precision.any fun n => precisionLimit < n then refuse "precision too big"
  else return ()

/-- The kinds of binary numbers. -/
def numberKinds : List Char := "eEfFgGn%".toList

/-- The digits of a nonnegative number; `plain` writes it without a format. -/
def digitsOf (spec : FormatSpec) (plain : Float → List Char) (x : Float) : List Char :=
  match Decimal.fraction? x with
  | none => if x.isNaN then "nan".toList else "inf".toList
  | some (n, d) =>
    let n := n.natAbs
    let places := spec.precision.getD 6
    match spec.kind with
    | some 'f' | some 'F' | some '%' =>
      let text := Decimal.fixed n d places
      if spec.alternate ∧ places = 0 then text ++ ['.'] else text
    | some 'e' | some 'E' =>
      let text := Decimal.fixedScientific n d places
      if spec.alternate ∧ places = 0 then
        text.takeWhile (· != 'e') ++ '.' :: text.dropWhile (· != 'e')
      else text
    | some _ => Decimal.general n d places spec.alternate
    | none => match spec.precision with
      | none => plain x.abs
      | some digits => Decimal.general n d digits spec.alternate

/-- A number without a kind shows that it is none of the integers. -/
def withPoint (spec : FormatSpec) (x : Float) (text : List Char) : List Char :=
  match spec.kind, spec.precision, Decimal.fraction? x with
  | none, some digits, some (n, d) =>
    let digits := max digits 1
    let (_, exponent) := Decimal.scientificDigits n.natAbs d (digits - 1)
    if text.contains 'e' || text.contains '.' then text
    else if exponent = (digits : Int) - 1 then Decimal.fixedScientific n.natAbs d (digits - 1)
    else text ++ ['.', '0']
  | _, _, _ => text

/-- The text shows zero. -/
def isZeroText (text : List Char) : Bool :=
  (text.takeWhile fun c => c != 'e').all fun c => c = '0' || c = '.'

/-- The digits of a number with everything that follows them, and its sign. -/
def numberParts (spec : FormatSpec) (plain : Float → List Char) (x : Float) : Bool × List Char :=
  let x := if spec.kind = some '%' then x * 100.0 else x
  let negative := x.toBits.toNat / 2 ^ 63 = 1 && !x.isNaN
  let text := spec.withPoint x (spec.digitsOf plain x)
  let text := match spec.kind with
    | some 'E' | some 'F' | some 'G' => text.map Char.toUpper
    | some '%' => text ++ ['%']
    | _ => text
  (negative && !(spec.plainZero && isZeroText (text.filter (· != '%'))), text)

/-- A number in the plain way. -/
def plainText (x : Float) : List Char :=
  (Decimal.floatText x).toList

/-- A binary number. -/
def formatFloat (spec : FormatSpec) (x : Float) : Formatted String := do
  match spec.kind with
  | none => pure ()
  | some c => if !numberKinds.contains c then unknownKind c "float"
  spec.checkPrecision
  let (negative, text) := spec.numberParts plainText x
  let lead := spec.signText negative
  let count := (text.takeWhile Char.isDigit).length
  let body := if count = 0 then text else spec.groupWhole 3 count lead text
  return String.ofList (spec.pad '>' lead body)

/-! ## Complex numbers -/

/-- A part of a complex number. -/
def formatPart (spec : FormatSpec) (x : Float) : List Char :=
  let (negative, text) := match spec.kind, spec.precision with
    | none, some _ =>
      ({ spec with kind := some 'g' } : FormatSpec).numberParts plainText x
    | _, _ => spec.numberParts (fun x => (Decimal.Complex.partText x).toList) x
  let lead := spec.signText negative
  let count := (text.takeWhile Char.isDigit).length
  lead ++ (if count = 0 then text else
    ({ spec with align := some '<' } : FormatSpec).groupWhole 3 count lead text)

/-- A complex number. -/
def formatComplex (spec : FormatSpec) (z : Decimal.Complex) : Formatted String := do
  match spec.kind with
  | none => pure ()
  | some c => if c = '%' ∨ !numberKinds.contains c then unknownKind c "complex"
  spec.checkPrecision
  if spec.fill = '0' then refuse "Zero padding is not allowed in complex format specifier"
  if spec.align = some '=' then
    refuse "'=' alignment flag is not allowed in complex format specifier"
  let imaginary := fun (sign : Option Char) =>
    ({ spec with sign } : FormatSpec).formatPart z.imaginary ++ ['j']
  let text :=
    if spec.kind.isNone ∧ z.real.toBits = 0 then imaginary spec.sign
    else
      let text := spec.formatPart z.real ++ imaginary (some '+')
      if spec.kind.isNone then '(' :: text ++ [')'] else text
  return String.ofList (spec.pad '>' [] text)

/-! ## Integers -/

/-- The character with a code. -/
def formatCharacter (spec : FormatSpec) (n : Int) : Formatted String := do
  if spec.sign.isSome then refuse "Sign not allowed with integer format specifier 'c'"
  if spec.alternate then
    refuse "Alternate form (#) not allowed with integer format specifier 'c'"
  if n < -2 ^ 63 ∨ 2 ^ 63 ≤ n then throw (.tooLarge "Python int too large to convert to C long")
  if n < 0 ∨ 0x110000 ≤ n then throw (.tooLarge "%c arg not in range(0x110000)")
  return String.ofList (spec.pad '>' [] [Char.ofNat n.toNat])

/-- An integer of a type. -/
def formatInteger (spec : FormatSpec) (type : String) (n : Int) : Formatted String := do
  let kind := spec.kind.getD 'd'
  if "eEfFgG%".toList.contains kind then
    match Decimal.ofInt? n with
    | some x => return ← spec.formatFloat x
    | none => throw (.tooLarge "int too large to convert to float")
  if !"bcdoxXn".toList.contains kind then unknownKind kind type
  if spec.precision.isSome then refuse "Precision not allowed in integer format specifier"
  if spec.plainZero then
    refuse "Negative zero coercion (z) not allowed in integer format specifier"
  let inBase := fun (base : Nat) (mark : String) (capital : Bool) =>
    let digits := Nat.toDigits base n.natAbs
    let digits := if capital then digits.map Char.toUpper else digits
    spec.whole (n < 0) (if spec.alternate then mark.toList else []) digits 4
  match kind with
  | 'b' => return inBase 2 "0b" false
  | 'o' => return inBase 8 "0o" false
  | 'x' => return inBase 16 "0x" false
  | 'X' => return inBase 16 "0X" true
  | 'c' => spec.formatCharacter n
  | _ =>
    let digits := n.natAbs.repr.toList
    if Policy.integerDigitLimit < digits.length then
      refuse ("Exceeds the limit (4300 digits) for integer string conversion; " ++
        "use sys.set_int_max_str_digits() to increase the limit")
    return spec.whole (n < 0) [] digits 3

end FormatSpec

namespace Format

/-- Go on with what was laid out. -/
def ofFormatted {α : Type} : FormatSpec.Formatted α → Step α
  | .ok result => return result
  | .error (.invalid message) => raise .value message
  | .error (.tooLarge message) => raise .overflow message

/-- A value in a format. -/
def format (value : Value) (spec : String) : Step String := do
  if spec = "" then return ← value.plainText
  match value with
  | .text s => ofFormatted do (← FormatSpec.read "str" (some 's') spec).formatText s
  | .int n => ofFormatted do (← FormatSpec.read "int" (some 'd') spec).formatInteger "int" n
  | .bool b => ofFormatted do
    (← FormatSpec.read "bool" (some 'd') spec).formatInteger "bool" (if b then 1 else 0)
  | .float x _ => ofFormatted do (← FormatSpec.read "float" none spec).formatFloat x
  | .complex z => ofFormatted do (← FormatSpec.read "complex" none spec).formatComplex z
  | _ => raise .type ("unsupported format string passed to " ++ (← value.typeName) ++
      ".__format__")

/-- A text with everything above ASCII written by its code. -/
def ascii (s : String) : String :=
  String.ofList (s.toList.flatMap fun c =>
    if c.toNat < 0x80 then [c] else Text.codeEscape c.toNat)

end Format

end Script
end PolicyStudio
