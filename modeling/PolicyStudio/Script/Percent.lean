import PolicyStudio.Script.Format
import PolicyStudio.Script.Subscript

/-!
# Directives after percent signs

A text with percent signs is filled in with values from left to right, or with the
values under the keys of a dictionary.  Each directive says how its value is
written and how it is laid out.  Bytes are filled in alike, as characters of one
byte each; they differ in which values they take for texts.
-/

namespace PolicyStudio
namespace Script

open Step

namespace Percent

/-- What is being filled in. -/
inductive Target where
  | text
  | bytes
deriving Repr, DecidableEq

/-- The name of what is being filled in. -/
def Target.name : Target → String
  | .text => "string"
  | .bytes => "bytes"

/-- What a percent directive asks for. -/
structure Directive where
  left : Bool := false
  plus : Bool := false
  blank : Bool := false
  alternate : Bool := false
  zero : Bool := false
  width : Nat := 0
  precision : Option Nat := none

/-- The values for the directives: those not used yet, and the value in which keys
are looked up. -/
structure Supply where
  rest : List Value
  mapping : Option Value

/-- Take the next value. -/
def Supply.take (supply : Supply) : Step (Value × Supply) := do
  match supply.rest with
  | value :: rest => return (value, { supply with rest := rest })
  | [] => raise .type "not enough arguments for format string"

/-! ## Reading directives -/

/-- Read flags. -/
def takeFlags (d : Directive) : List Char → Directive × List Char
  | '-' :: rest => takeFlags { d with left := true } rest
  | '+' :: rest => takeFlags { d with plus := true } rest
  | ' ' :: rest => takeFlags { d with blank := true } rest
  | '#' :: rest => takeFlags { d with alternate := true } rest
  | '0' :: rest => takeFlags { d with zero := true } rest
  | cs => (d, cs)

/-- A value that is a width or a precision, below a bound of machine integers. -/
def starValue (supply : Supply) (bound : Int) (type : String) : Step (Int × Supply) := do
  let (value, supply) ← supply.take
  match Subscript.position? value with
  | some n =>
    if n < -bound ∨ bound ≤ n then
      raise .overflow ("Python int too large to convert to C " ++ type)
    return (n, supply)
  | none => raise .type "* wants int"

/-- Read digits of a count, which must stay below a bound. -/
def takeDigits (bound : Nat) (refusal : String) (cs : List Char) : Step (Nat × List Char) := do
  let digits := cs.takeWhile fun c => '0' ≤ c && c ≤ '9'
  let count := digits.foldl (fun n c => 10 * n + (c.toNat - '0'.toNat)) 0
  if bound ≤ count then raise .value refusal
  return (count, cs.drop digits.length)

/-- Read a key in parentheses, which may be nested. -/
def takeKey (depth : Nat) (found : List Char) : List Char → Option (List Char × List Char)
  | [] => none
  | '(' :: rest => takeKey (depth + 1) ('(' :: found) rest
  | ')' :: rest =>
    if depth = 0 then some (found.reverse, rest)
    else takeKey (depth - 1) (')' :: found) rest
  | c :: rest => takeKey depth (c :: found) rest

/-- A value as a key that characters stand for. -/
def keyOf (target : Target) (cs : List Char) : Value :=
  match target with
  | .text => .text (String.ofList cs)
  | .bytes => .bytes (cs.map fun c => UInt8.ofNat c.toNat)

/-- The value under a key becomes the next value. -/
def lookUp (target : Target) (supply : Supply) (key : List Char) : Step Supply := do
  match supply.mapping with
  | some mapping => return { supply with rest := [← Subscript.read mapping (keyOf target key)] }
  | none => raise .type "format requires a mapping"

/-- The parts of a directive that come before its kind. -/
def readDirective (target : Target) (supply : Supply) (cs : List Char) :
    Step (Directive × Supply × List Char) := do
  let (supply, cs) ← match cs with
    | '(' :: rest => do
      if supply.mapping.isNone then raise .type "format requires a mapping"
      match takeKey 0 [] rest with
      | some (key, rest) => pure (← lookUp target supply key, rest)
      | none => raise .value "incomplete format key"
    | _ => pure (supply, cs)
  let (d, cs) := takeFlags {} cs
  let (d, supply, cs) ← match cs with
    | '*' :: rest => do
      let (n, supply) ← starValue supply (2 ^ 63) "ssize_t"
      pure ({ d with width := n.natAbs, left := d.left || n < 0 }, supply, rest)
    | _ => do
      let (n, rest) ← takeDigits (2 ^ 63) "width too big" cs
      pure ({ d with width := n }, supply, rest)
  let (d, supply, cs) ← match cs with
    | '.' :: '*' :: rest => do
      let (n, supply) ← starValue supply (2 ^ 31) "int"
      pure ({ d with precision := some n.toNat }, supply, rest)
    | '.' :: rest => do
      let (n, rest) ← takeDigits (2 ^ 31)
        (if target = .text then "precision too big" else "prec too big") rest
      pure ({ d with precision := some n }, supply, rest)
    | _ => pure (d, supply, cs)
  let cs := match cs with
    | 'h' :: rest | 'l' :: rest | 'L' :: rest => rest
    | other => other
  return (d, supply, cs)

/-! ## Writing values -/

/-- Lay out a text by a directive. -/
def Directive.layout (d : Directive) (cs : List Char) : List Char :=
  let cs := match d.precision with
    | some n => cs.take n
    | none => cs
  let missing := List.replicate (d.width - cs.length) ' '
  if d.left then cs ++ missing else missing ++ cs

/-- The format that lays out a number as a directive wants it. -/
def Directive.spec (d : Directive) (kind : Option Char) : FormatSpec :=
  { fill := if d.zero ∧ !d.left then '0' else ' '
    align := some (if d.left then '<' else if d.zero then '=' else '>')
    sign := if d.plus then some '+' else if d.blank then some ' ' else none
    alternate := d.alternate
    width := d.width
    kind }

/-- An integer by a directive; the precision is a least count of digits. -/
def Directive.integer (d : Directive) (base : Nat) (mark : String) (capital : Bool) (n : Int) :
    List Char :=
  let digits := Nat.toDigits base n.natAbs
  let digits := if capital then digits.map Char.toUpper else digits
  let digits := List.replicate (d.precision.getD 0 - digits.length) '0' ++ digits
  ((d.spec none).whole (n < 0) (if d.alternate then mark.toList else []) digits 3).toList

/-- The integer of a value for a directive. -/
def integerFor (kind : Char) (value : Value) : Step Int := do
  let isWhole := kind != 'x' && kind != 'X' && kind != 'o'
  match Subscript.position? value, value, isWhole with
  | some n, _, _ => return n
  | none, .float x _, true =>
    match Decimal.truncated? x with
    | some n => return n
    | none =>
      if x.isNaN then raise .value "cannot convert float NaN to integer"
      else raise .overflow "cannot convert float infinity to integer"
  | _, _, _ =>
    raise .type ("%" ++ String.ofList [kind] ++ " format: " ++
      (if isWhole then "a real number" else "an integer") ++ " is required, not " ++
      (← value.typeName))

/-- The character of a value for a directive. -/
def characterFor (target : Target) (value : Value) : Step Char := do
  match target, value, Subscript.position? value with
  | .text, .text s, _ => match s.toList with
    | [c] => return c
    | _ => raise .type "%c requires int or char"
  | .text, _, some n =>
    if n < -2 ^ 63 ∨ 2 ^ 63 ≤ n then raise .overflow "Python int too large to convert to C long"
    if n < 0 ∨ 0x110000 ≤ n then raise .overflow "%c arg not in range(0x110000)"
    return Char.ofNat n.toNat
  | .text, _, none => raise .type "%c requires int or char"
  | .bytes, .bytes [b], _ => return Char.ofNat b.toNat
  | .bytes, _, some n =>
    if n < -2 ^ 63 ∨ 2 ^ 63 ≤ n then raise .overflow "Python int too large to convert to C long"
    if n < 0 ∨ 256 ≤ n then raise .overflow "%c arg not in range(256)"
    return Char.ofNat n.toNat
  | .bytes, _, none => raise .type "%c requires an integer in range(256) or a single byte"

/-- The characters of a value in the place of a text. -/
def plainFor (target : Target) (value : Value) : Step (List Char) := do
  match target, value with
  | .text, _ => return (← value.plainText).toList
  | .bytes, .bytes content => return content.map fun b => Char.ofNat b.toNat
  | .bytes, _ =>
    raise .type ("%b requires a bytes-like object, or an object that implements __bytes__, not '" ++
      (← value.typeName) ++ "'")

/-- A value as programs write it. -/
def shownFor (target : Target) (value : Value) : Step (List Char) := do
  let text ← value.shown
  return (if target = .text then text else Format.ascii text).toList

/-- A binary number by a directive. -/
def Directive.number (d : Directive) (kind : Char) (value : Value) : Step (List Char) := do
  let x ← match value.number? with
    | some number => Arithmetic.numberToFloat number
    | none =>
      raise .type ("must be real number, not " ++ (← value.typeName))
  let spec : FormatSpec := { d.spec (some kind) with precision := d.precision }
  return (← Format.ofFormatted (spec.formatFloat x)).toList

/-- One directive applied to a value. -/
def Directive.apply (d : Directive) (target : Target) (kind : Char) (position : Nat)
    (value : Value) : Step (List Char) := do
  match kind with
  | 's' => return d.layout (← plainFor target value)
  | 'r' => return d.layout (← shownFor target value)
  | 'a' => return d.layout (Format.ascii (← value.shown)).toList
  | 'd' | 'i' | 'u' => return d.integer 10 "" false (← integerFor kind value)
  | 'x' => return d.integer 16 "0x" false (← integerFor kind value)
  | 'X' => return d.integer 16 "0X" true (← integerFor kind value)
  | 'o' => return d.integer 8 "0o" false (← integerFor kind value)
  | 'c' => return ({ d with precision := none } : Directive).layout [← characterFor target value]
  | _ =>
    if "eEfFgG".toList.contains kind then d.number kind value
    else if kind = 'b' ∧ target = .bytes then return d.layout (← plainFor target value)
    else
      let shown := if 31 ≤ kind.toNat ∧ kind.toNat < 127 then kind
        else if target = .text then '?' else kind
      raise .value ("unsupported format character '" ++ String.ofList [shown] ++ "' (0x" ++
        String.ofList (Nat.toDigits 16 kind.toNat) ++ ") at index " ++ position.repr)

/-! ## Filling in -/

/-- Apply directives from left to right; each round takes one character or one
directive. -/
def fillFrom (target : Target) (length : Nat) :
    Nat → Supply → List Char → List (List Char) → Step (List Char × Supply)
  | 0, supply, _, found => return (found.reverse.flatten, supply)
  | rounds + 1, supply, cs, found => match cs with
    | [] => return (found.reverse.flatten, supply)
    | '%' :: rest => do
      let (d, supply, rest) ← readDirective target supply rest
      match rest with
      | [] => raise .value "incomplete format"
      | '%' :: rest => fillFrom target length rounds supply rest (['%'] :: found)
      | kind :: rest => do
        let (value, supply) ← supply.take
        let piece ← d.apply target kind (length - rest.length - 1) value
        fillFrom target length rounds supply rest (piece :: found)
    | c :: rest => fillFrom target length rounds supply rest ([c] :: found)

/-- The value can be looked up by keys; bytes can where a text is filled in. -/
def isMapping (target : Target) (value : Value) : Step Bool := do
  match value with
  | .object address => do
    match ← load address with
    | .dictionary _ | .list _ => return true
    | _ => return false
  | .range .. => return true
  | .bytes _ => return target = .text
  | _ => return false

/-- Fill in a text. -/
def fill (target : Target) (format : List Char) (value : Value) : Step (List Char) := do
  let mapping := if ← isMapping target value then some value else none
  let supply : Supply := match value with
    | .tuple items => ⟨items, none⟩
    | _ => ⟨[value], mapping⟩
  let (result, supply) ← fillFrom target format.length (format.length + 1) supply format []
  if !supply.rest.isEmpty && mapping.isNone then
    raise .type ("not all arguments converted during " ++ target.name ++ " formatting")
  return result

/-- A text with percent directives filled in. -/
def fillText (format : String) (value : Value) : Step Value := do
  return .text (String.ofList (← fill .text format.toList value))

/-- Bytes with percent directives filled in. -/
def fillBytes (format : List UInt8) (value : Value) : Step Value := do
  let filled ← fill .bytes (format.map fun b => Char.ofNat b.toNat) value
  return .bytes (filled.map fun c => UInt8.ofNat c.toNat)

end Percent

end Script
end PolicyStudio
