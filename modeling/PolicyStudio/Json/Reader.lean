import PolicyStudio.Decimal.Read
import PolicyStudio.Json.Basic

/-!
# Reading JSON

A text that is no JSON is refused with the position, in characters, at which
something else was expected.  The names for infinities and for the number that is
none are read, too.  If an object names a member twice, the last value counts, at
the place of the first.

Each function takes what is left of the text with the position of its first
character, and the functions that go through nested values also take a number of
steps, for which the length of the text is enough.
-/

namespace PolicyStudio
namespace Json

/-- What is left of a text. -/
structure Cursor where
  rest : List Char
  position : Nat

namespace Cursor

/-- Leave out characters. -/
def skip (cursor : Cursor) (count : Nat) : Cursor :=
  ⟨cursor.rest.drop count, cursor.position + count⟩

/-- Leave out blanks. -/
def skipBlanks (cursor : Cursor) : Cursor :=
  let blanks := cursor.rest.takeWhile fun c => c = ' ' || c = '\t' || c = '\n' || c = '\r'
  cursor.skip blanks.length

end Cursor

/-- The number that four hexadecimal digits write. -/
def codeUnit? (a b c d : Char) : Option Nat :=
  [a, b, c, d].foldlM (fun n digit => (Decimal.digitIn? 16 digit).map (16 * n + ·)) 0

/-- The character that an escape of one letter stands for. -/
def escape? : Char → Option Char
  | '"' => some '"'
  | '\\' => some '\\'
  | '/' => some '/'
  | 'b' => some '\x08'
  | 'f' => some '\x0c'
  | 'n' => some '\n'
  | 'r' => some '\r'
  | 't' => some '\t'
  | _ => none

/-- The second half of a pair of code units, if a pair starts with `high` and goes
on in the text; what looks like one must be well written. -/
def lowUnit? (high : Nat) (cs : List Char) : Except Unit (Option Nat) :=
  if high < 0xd800 ∨ 0xdc00 ≤ high then .ok none
  else match cs with
    | '\\' :: 'u' :: a :: b :: c :: d :: _ :: _ => match codeUnit? a b c d with
      | none => .error ()
      | some low => .ok (if 0xdc00 ≤ low ∧ low < 0xe000 then some low else none)
    | _ => .ok none

/-- The text up to its closing quote; `start` is the place of the opening one. -/
def readTextFrom (start : Nat) (found : List Char) : List Char → Nat →
    Except Nat (String × Cursor)
  | [], _ => .error start
  | '"' :: rest, position => .ok (String.ofList found.reverse, ⟨rest, position + 1⟩)
  | ['\\'], _ => .error start
  | '\\' :: 'u' :: a :: b :: c :: d :: next :: rest, position =>
    match codeUnit? a b c d with
    | none => .error (position + 1)
    | some n => match lowUnit? n (next :: rest) with
      | .error _ => .error (position + 7)
      | .ok none => readTextFrom start (Char.ofNat n :: found) (next :: rest) (position + 6)
      | .ok (some low) =>
        let c := Char.ofNat (0x10000 + (n - 0xd800) * 0x400 + (low - 0xdc00))
        readTextFrom start (c :: found) ((next :: rest).drop 6) (position + 12)
  | '\\' :: 'u' :: _, position => .error (position + 1)
  | '\\' :: c :: rest, position => match escape? c with
    | some c => readTextFrom start (c :: found) rest (position + 2)
    | none => .error position
  | c :: rest, position =>
    if c.toNat < 0x20 then .error position
    else readTextFrom start (c :: found) rest (position + 1)
termination_by cs => cs.length
decreasing_by all_goals (simp; try omega)

/-- Read a text, its opening quote being the first character. -/
def readText (cursor : Cursor) : Except Nat (String × Cursor) :=
  readTextFrom cursor.position [] (cursor.rest.drop 1) (cursor.position + 1)

/-- The digits at the front. -/
def digitsAt (cs : List Char) : List Char :=
  cs.takeWhile Char.isDigit

/-- The fraction at the front, with its point. -/
def fractionAt : List Char → List Char
  | '.' :: rest => match digitsAt rest with
    | [] => []
    | digits => '.' :: digits
  | _ => []

/-- The exponent at the front, with its letter. -/
def exponentAt : List Char → List Char
  | mark :: rest =>
    if mark = 'e' ∨ mark = 'E' then
      let sign := match rest with
        | '+' :: _ => ['+']
        | '-' :: _ => ['-']
        | _ => []
      match digitsAt (rest.drop sign.length) with
      | [] => []
      | digits => mark :: (sign ++ digits)
    else []
  | [] => []

/-- Read a number. -/
def readNumber (cursor : Cursor) : Except Nat (Json × Cursor) :=
  let sign := match cursor.rest with
    | '-' :: _ => ['-']
    | _ => []
  let afterSign := cursor.rest.drop sign.length
  let whole := match afterSign with
    | '0' :: _ => ['0']
    | _ => digitsAt afterSign
  if whole.isEmpty then .error cursor.position
  else
    let afterWhole := afterSign.drop whole.length
    let fraction := fractionAt afterWhole
    let exponent := exponentAt (afterWhole.drop fraction.length)
    let text := String.ofList (sign ++ whole ++ fraction ++ exponent)
    let rest := cursor.skip (sign.length + whole.length + fraction.length + exponent.length)
    if fraction.isEmpty && exponent.isEmpty then
      .ok (.integer ((Decimal.readInteger? 10 text).getD 0), rest)
    else .ok (.number ((Decimal.readFloat? text).getD 0), rest)

/-- The values that are written as words. -/
def words : List (String × Json) :=
  [("null", .null), ("true", .truth true), ("false", .truth false), ("NaN", .number (0.0 / 0.0)),
    ("Infinity", .number (1.0 / 0.0)), ("-Infinity", .number (-1.0 / 0.0))]

/-- Put a member into an object. -/
def putMember (name : String) (value : Json) : List (String × Json) → List (String × Json)
  | [] => [(name, value)]
  | entry :: rest =>
    if entry.1 = name then (name, value) :: rest else entry :: putMember name value rest

/-- Expect a character. -/
def expect (c : Char) (cursor : Cursor) : Except Nat Cursor :=
  match cursor.rest with
  | found :: _ => if found = c then .ok (cursor.skip 1) else .error cursor.position
  | [] => .error cursor.position

mutual

/-- Read a value. -/
def readValue : Nat → Cursor → Except Nat (Json × Cursor)
  | 0, cursor => .error cursor.position
  | steps + 1, cursor => match cursor.rest with
    | '"' :: _ => do
      let (s, cursor) ← readText cursor
      return (.text s, cursor)
    | '\x7b' :: _ => do
      let inside := (cursor.skip 1).skipBlanks
      match inside.rest with
      | '\x7d' :: _ => return (.object [], inside.skip 1)
      | _ => readMembers steps [] inside
    | '[' :: _ => do
      let inside := (cursor.skip 1).skipBlanks
      match inside.rest with
      | ']' :: _ => return (.list [], inside.skip 1)
      | _ => readItems steps [] inside
    | cs => match words.find? fun entry => entry.1.toList.isPrefixOf cs with
      | some (word, value) => return (value, cursor.skip word.length)
      | none => readNumber cursor

/-- Read the items of a list up to its end. -/
def readItems : Nat → List Json → Cursor → Except Nat (Json × Cursor)
  | 0, _, cursor => .error cursor.position
  | steps + 1, found, cursor => do
    let (value, cursor) ← readValue steps cursor
    let cursor := cursor.skipBlanks
    match cursor.rest with
    | ']' :: _ => return (.list (value :: found).reverse, cursor.skip 1)
    | _ => do
      let cursor ← expect ',' cursor
      readItems steps (value :: found) cursor.skipBlanks

/-- Read the members of an object up to its end. -/
def readMembers : Nat → List (String × Json) → Cursor → Except Nat (Json × Cursor)
  | 0, _, cursor => .error cursor.position
  | steps + 1, found, cursor => do
    let _ ← expect '"' cursor
    let (name, cursor) ← readText cursor
    let cursor ← expect ':' cursor.skipBlanks
    let (value, cursor) ← readValue steps cursor.skipBlanks
    let found := putMember name value found
    let cursor := cursor.skipBlanks
    match cursor.rest with
    | '\x7d' :: _ => return (.object found, cursor.skip 1)
    | _ => do
      let cursor ← expect ',' cursor
      readMembers steps found cursor.skipBlanks

end

/-- Read a whole text, or give the position at which it is no JSON. -/
def read (s : String) : Except Nat Json := do
  let cs := s.toList
  let (value, cursor) ← readValue (cs.length + 1) (Cursor.skipBlanks ⟨cs, 0⟩)
  let cursor := cursor.skipBlanks
  if cursor.rest.isEmpty then return value else throw cursor.position

end Json
end PolicyStudio
