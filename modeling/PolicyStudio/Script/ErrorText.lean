import PolicyStudio.Decimal.Layout
import PolicyStudio.Script.Step
import PolicyStudio.Text.Quoted

/-!
# Texts of errors

Most errors have their only argument as their text, or all of them.  Errors with
details word these instead.
-/

namespace PolicyStudio
namespace Script

open Step

namespace ErrorText

/-- How values are written: plainly, and as programs write them. -/
structure Writer where
  plain : Value → Step String
  shown : Value → Step String

/-- What comes after the last slash. -/
def lastPart (path : String) : String :=
  String.ofList (path.toList.reverse.takeWhile (· != '/')).reverse

/-- The text of any error by its arguments. -/
def general (writer : Writer) (arguments : List Value) : Step String :=
  match arguments with
  | [] => return ""
  | [argument] => writer.plain argument
  | _ => writer.shown (.tuple arguments)

/-- The text of a failure of the machine: its number, its text and the files. -/
def ofFailure (writer : Writer) (arguments : List Value) (details : List (String × Value)) :
    Step String := do
  match details.lookup "errno", details.lookup "strerror" with
  | some number, some text => do
    let head := "[Errno " ++ (← writer.plain number) ++ "] " ++ (← writer.plain text)
    match details.lookup "filename", details.lookup "filename2" with
    | some file, some other =>
      return head ++ ": " ++ (← writer.shown file) ++ " -> " ++ (← writer.shown other)
    | some file, none => return head ++ ": " ++ (← writer.shown file)
    | none, _ => return head
  | _, _ => general writer arguments

/-- A line number; those that no machine word holds are shown as none could be. -/
def lineText (n : Int) : String :=
  if -2 ^ 63 ≤ n ∧ n < 2 ^ 63 then Decimal.intText n else "-1"

/-- The text of the fault of a program: its message and its place. -/
def ofFault (writer : Writer) (details : List (String × Value)) : Step String := do
  let message ← writer.plain ((details.lookup "msg").getD .none)
  match details.lookup "filename", details.lookup "lineno" with
  | some (.text file), some (.int line) =>
    return message ++ " (" ++ lastPart file ++ ", line " ++ lineText line ++ ")"
  | some (.text file), _ => return message ++ " (" ++ lastPart file ++ ")"
  | _, some (.int line) => return message ++ " (line " ++ lineText line ++ ")"
  | _, _ => return message

/-- What could not be coded: one character or byte, or the positions from one to
another. -/
def codedPart (verb one many : String) (unit : Option String) (start stop : Int)
    (reason : String) : String :=
  match unit with
  | some unit => verb ++ " " ++ one ++ " " ++ unit ++ " in position " ++ Decimal.intText start ++
      ": " ++ reason
  | none => verb ++ " " ++ many ++ " in position " ++ Decimal.intText start ++ "-" ++
      Decimal.intText (stop - 1) ++ ": " ++ reason

/-- The member that a part of length one holds. -/
def single? {α : Type} (items : List α) (start stop : Int) : Option α :=
  if stop = start + 1 ∧ 0 ≤ start then items[start.toNat]? else none

/-- The text of a failure to code a text. -/
def ofCoding (kind : ErrorKind) (details : List (String × Value)) : String :=
  let encoding := match details.lookup "encoding" with
    | some (.text name) => "'" ++ name ++ "' codec "
    | _ => ""
  let character := fun (s : String) (start stop : Int) =>
    (single? s.toList start stop).map fun c =>
      "'" ++ String.ofList (Text.codeEscape c.toNat) ++ "'"
  let byte := fun (content : List UInt8) (start stop : Int) =>
    (single? content start stop).map fun b =>
      "0x" ++ String.ofList (Text.hexDigitsFrom 2 b.toNat [])
  match details.lookup "object", details.lookup "start", details.lookup "end",
      details.lookup "reason" with
  | some (.text s), some (.int start), some (.int stop), some (.text reason) =>
    let verb := if kind.isKindOf .unicodeEncode then "can't encode" else "can't translate"
    encoding ++ codedPart verb "character" "characters" (character s start stop) start stop reason
  | some (.bytes content), some (.int start), some (.int stop), some (.text reason) =>
    encoding ++ codedPart "can't decode" "byte" "bytes" (byte content start stop) start stop reason
  | _, _, _, _ => ""

/-- The text of an error. -/
def write (writer : Writer) (kind : ErrorKind) (arguments : List Value)
    (details : List (String × Value)) : Step String := do
  if kind.isKindOf .os then ofFailure writer arguments details
  else if kind.isKindOf .badSyntax then ofFault writer details
  else if kind.isKindOf .unicodeDecode || kind.isKindOf .unicodeEncode ||
      kind.isKindOf .unicodeTranslate then
    return ofCoding kind details
  else match kind.isKindOf .key, arguments with
    | true, [argument] => writer.shown argument
    | _, _ => general writer arguments

end ErrorText

end Script
end PolicyStudio
