import PolicyStudio.Text.Case
import PolicyStudio.Text.Quoted
import PolicyStudio.Text.Utf8

/-!
# Bytes as characters

Bytes become characters by an encoding, which has several names.  Where bytes do
not fit the encoding, the reader gives up, leaves them out, or puts something in
their place.
-/

namespace PolicyStudio
namespace Text

/-- The encodings that are known. -/
inductive Encoding where
  | utf8
  | ascii
  | latin1
deriving Repr, DecidableEq

/-- The name by which refusals call an encoding. -/
def Encoding.name : Encoding → String
  | .utf8 => "utf-8"
  | .ascii => "ascii"
  | .latin1 => "latin-1"

/-- What happens to bytes that do not fit. -/
inductive Misfit where
  | refuse
  | leaveOut
  | replace
  | escape
deriving Repr, DecidableEq

/-- Bytes that do not fit: where they start and end, and why. -/
structure DecodeFault where
  start : Nat
  stop : Nat
  reason : String
deriving Repr, DecidableEq

namespace Decode

/-- A name of an encoding without case and with one mark between its parts;
`afterMark` tells that the mark has been written already. -/
def normalizedFrom (afterMark : Bool) : List Char → List Char
  | [] => []
  | c :: rest =>
    if c.isAlphanum || c = '.' then c.toLower :: normalizedFrom false rest
    else if afterMark then normalizedFrom true rest
    else '_' :: normalizedFrom true rest

/-- A name of an encoding without case and with one mark between its parts. -/
def normalized (name : String) : String :=
  String.ofList (normalizedFrom false name.toList)

/-- The encoding of a name. -/
def encoding? (name : String) : Option Encoding :=
  match normalized name with
  | "utf_8" | "utf8" | "u8" | "utf" | "utf8_ucs2" | "utf8_ucs4" | "cp65001" => some .utf8
  | "ascii" | "us_ascii" | "646" | "ansi_x3.4_1968" | "ansi_x3_4_1968" | "ansi_x3.4_1986"
  | "cp367" | "csascii" | "ibm367" | "iso646_us" | "iso_646.irv_1991" | "iso_ir_6" | "us" =>
    some .ascii
  | "latin_1" | "latin1" | "latin" | "l1" | "8859" | "cp819" | "csisolatin1" | "ibm819"
  | "iso8859" | "iso8859_1" | "iso_8859_1" | "iso_8859_1_1987" | "iso_ir_100" => some .latin1
  | _ => none

/-- What a name says about bytes that do not fit. -/
def misfit? : String → Option Misfit
  | "strict" => some .refuse
  | "ignore" => some .leaveOut
  | "replace" => some .replace
  | "backslashreplace" => some .escape
  | _ => none

/-- The range of the second byte of a sequence of several bytes, and how many bytes
follow the first. -/
def sequenceOf? (first : UInt8) : Option (UInt8 × UInt8 × Nat) :=
  match (Utf8.start first).2 with
  | some pending => some (pending.low, pending.high, pending.missing)
  | none => none

/-- How many of the bytes that should follow the first do. -/
def fitting (low high : UInt8) : Nat → List UInt8 → Nat
  | 0, _ => 0
  | _ + 1, [] => 0
  | missing + 1, b :: rest =>
    if low ≤ b ∧ b ≤ high then fitting 0x80 0xbf missing rest + 1 else 0

/-- The first piece of bytes: how many there are, and the character or the
reason why they are none. -/
def firstUtf8 (b : UInt8) (rest : List UInt8) : Nat × Except String Char :=
  if b < 0x80 then (1, .ok (Char.ofNat b.toNat))
  else match sequenceOf? b with
    | none => (1, .error "invalid start byte")
    | some (low, high, missing) =>
      let count := fitting low high missing rest
      if count < missing then
        (count + 1, .error (if rest.length = count then "unexpected end of data"
          else "invalid continuation byte"))
      else
        let text := Utf8.decodeFrom none (b :: rest.take missing)
        (missing + 1, .ok (text.head?.getD Utf8.replacement))

/-- The first piece of bytes by an encoding. -/
def firstPiece (encoding : Encoding) (b : UInt8) (rest : List UInt8) : Nat × Except String Char :=
  match encoding with
  | .utf8 => firstUtf8 b rest
  | .ascii =>
    if b < 0x80 then (1, .ok (Char.ofNat b.toNat)) else (1, .error "ordinal not in range(128)")
  | .latin1 => (1, .ok (Char.ofNat b.toNat))

/-- Decode what is left from a position, one piece in each round. -/
def decodeFrom (encoding : Encoding) (misfit : Misfit) (position : Nat) (found : List Char) :
    Nat → List UInt8 → Except DecodeFault (List Char)
  | 0, _ => .ok found.reverse
  | _ + 1, [] => .ok found.reverse
  | rounds + 1, b :: rest =>
    let (count, piece) := firstPiece encoding b rest
    let go := fun (found : List Char) =>
      decodeFrom encoding misfit (position + count) found rounds ((b :: rest).drop count)
    match piece with
    | .ok c => go (c :: found)
    | .error reason => match misfit with
      | .refuse => .error ⟨position, position + count, reason⟩
      | .leaveOut => go found
      | .replace => go (Utf8.replacement :: found)
      | .escape => go (((b :: rest).take count).foldl
          (fun found b => (codeEscape b.toNat).reverse ++ found) found)

/-- Decode bytes. -/
def decode (encoding : Encoding) (misfit : Misfit) (bytes : List UInt8) :
    Except DecodeFault String :=
  (decodeFrom encoding misfit 0 [] bytes.length bytes).map String.ofList

end Decode

end Text
end PolicyStudio
