/-!
# Reading bytes as text

Files hold bytes.  A listing shows bytes that are not well-formed UTF-8 as the
replacement character, one for each longest piece that could have started a
character.  A file read as text must be well-formed, and its line ends, however
they were written, become single line feeds.
-/

namespace PolicyStudio
namespace Text

/-- What the decoder waits for: how many bytes, the code so far, and the range
in which the next byte must lie. -/
structure Utf8Pending where
  missing : Nat
  code : Nat
  low : UInt8
  high : UInt8

namespace Utf8

/-- The replacement character. -/
def replacement : Char := '\ufffd'

/-- Start a character with its first byte. -/
def start (b : UInt8) : List Char × Option Utf8Pending :=
  let n := b.toNat
  if n < 0x80 then ([Char.ofNat n], none)
  else if 0xc2 ≤ n ∧ n ≤ 0xdf then ([], some ⟨1, n - 0xc0, 0x80, 0xbf⟩)
  else if n = 0xe0 then ([], some ⟨2, 0, 0xa0, 0xbf⟩)
  else if n = 0xed then ([], some ⟨2, 0xd, 0x80, 0x9f⟩)
  else if 0xe1 ≤ n ∧ n ≤ 0xef then ([], some ⟨2, n - 0xe0, 0x80, 0xbf⟩)
  else if n = 0xf0 then ([], some ⟨3, 0, 0x90, 0xbf⟩)
  else if n = 0xf4 then ([], some ⟨3, 4, 0x80, 0x8f⟩)
  else if 0xf1 ≤ n ∧ n ≤ 0xf3 then ([], some ⟨3, n - 0xf0, 0x80, 0xbf⟩)
  else ([replacement], none)

/-- Take one byte: the characters that are complete, and what is still open. -/
def step (pending : Option Utf8Pending) (b : UInt8) : List Char × Option Utf8Pending :=
  match pending with
  | none => start b
  | some p =>
    if p.low ≤ b ∧ b ≤ p.high then
      let code := p.code * 64 + (b.toNat - 0x80)
      if p.missing ≤ 1 then ([Char.ofNat code], none)
      else ([], some ⟨p.missing - 1, code, 0x80, 0xbf⟩)
    else
      let (done, next) := start b
      (replacement :: done, next)

/-- Decode what follows an open character. -/
def decodeFrom (pending : Option Utf8Pending) : List UInt8 → List Char
  | [] => match pending with
    | none => []
    | some _ => [replacement]
  | b :: rest =>
    let (done, next) := step pending b
    done ++ decodeFrom next rest

/-- Decode, with a replacement character for every malformed piece. -/
def decodeLoosely (bytes : ByteArray) : String :=
  String.ofList (decodeFrom none bytes.toList)

end Utf8

/-- Single line feeds for all ways of ending a line, behind what was found. -/
def lineFeedsFrom (found : List Char) : List Char → List Char
  | [] => found.reverse
  | '\r' :: '\n' :: rest => lineFeedsFrom ('\n' :: found) rest
  | '\r' :: rest => lineFeedsFrom ('\n' :: found) rest
  | c :: rest => lineFeedsFrom (c :: found) rest

/-- Single line feeds for all ways of ending a line. -/
def lineFeeds (cs : List Char) : List Char :=
  lineFeedsFrom [] cs

end Text
end PolicyStudio
