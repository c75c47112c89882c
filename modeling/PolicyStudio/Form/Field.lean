import PolicyStudio.Decimal.Read
import PolicyStudio.Form.Given

/-!
# Fields

A field of a form takes values of one kind, and values of other kinds that can be
read as one: a text with a whole number is a whole number, and so is a number
without a fraction.

Filling in a form goes on past a fault, so that all of them are reported, in the
order of the fields.
-/

namespace PolicyStudio
namespace Form

/-- Why a value does not fit a field. -/
inductive FieldFault where
  | missing
  | notObject
  | notText
  | malformedText
  | tooShort (least : Nat)
  | tooLong (most : Nat)
  | notTruth
  | unreadableTruth
  | notInteger
  | unreadableInteger
  | overlongInteger
  | fractionalInteger
  | infiniteInteger
  | notNumber
  | unreadableNumber
  /-- The value is none of those that are allowed. -/
  | unlisted (allowed : List String)
  | notAddress
  | unreadableAddress
  | overlongAddress
  | otherScheme
  /-- A rule of the field refuses the value. -/
  | refused
deriving Repr, DecidableEq

namespace FieldFault

/-- The code of a fault. -/
def code : FieldFault → String
  | .missing => "missing"
  | .notObject => "model_attributes_type"
  | .notText => "string_type"
  | .malformedText => "string_unicode"
  | .tooShort _ => "string_too_short"
  | .tooLong _ => "string_too_long"
  | .notTruth => "bool_type"
  | .unreadableTruth => "bool_parsing"
  | .notInteger => "int_type"
  | .unreadableInteger => "int_parsing"
  | .overlongInteger => "int_parsing_size"
  | .fractionalInteger => "int_from_float"
  | .infiniteInteger => "finite_number"
  | .notNumber => "float_type"
  | .unreadableNumber => "float_parsing"
  | .unlisted _ => "literal_error"
  | .notAddress => "url_type"
  | .unreadableAddress => "url_parsing"
  | .overlongAddress => "url_too_long"
  | .otherScheme => "url_scheme"
  | .refused => "value_error"

/-- A number of characters. -/
def characters (count : Nat) : String :=
  count.repr ++ (if count = 1 then " character" else " characters")

/-- The wording of a fault. -/
def message : FieldFault → String
  | .missing => "Field required"
  | .notObject => "Input should be a valid dictionary or object to extract fields from"
  | .notText => "Input should be a valid string"
  | .malformedText =>
    "Input should be a valid string, unable to parse raw data as a unicode string"
  | .tooShort least => "String should have at least " ++ characters least
  | .tooLong most => "String should have at most " ++ characters most
  | .notTruth => "Input should be a valid boolean"
  | .unreadableTruth => "Input should be a valid boolean, unable to interpret input"
  | .notInteger => "Input should be a valid integer"
  | .unreadableInteger =>
    "Input should be a valid integer, unable to parse string as an integer"
  | .overlongInteger => "Unable to parse input string as an integer, exceeded maximum size"
  | .fractionalInteger => "Input should be a valid integer, got a number with a fractional part"
  | .infiniteInteger => "Input should be a finite number"
  | .notNumber => "Input should be a valid number"
  | .unreadableNumber => "Input should be a valid number, unable to parse string as a number"
  | .unlisted allowed => "Input should be one of " ++ ", ".intercalate allowed
  | .notAddress => "URL input should be a string or URL"
  | .unreadableAddress => "Input should be a valid URL"
  | .overlongAddress => "URL is too long"
  | .otherScheme => "URL scheme should be 'http' or 'https'"
  | .refused => "Value error"

end FieldFault

/-- A way to read a value; one value may have several faults. -/
abbrev Reader (α : Type) := Given → Except (List FieldFault) α

namespace Reader

/-- Refuse a value. -/
def fail {α : Type} (fault : FieldFault) : Except (List FieldFault) α := .error [fault]

/-- The text that bytes are. -/
def decoded (fault : FieldFault) (content : List UInt8) : Except (List FieldFault) String :=
  match String.fromUTF8? ⟨content.toArray⟩ with
  | some text => .ok text
  | none => fail fault

/-- A text. -/
def text : Reader String
  | .text s => .ok s
  | .bytes content => decoded .malformedText content
  | _ => fail .notText

/-- A text of a length within bounds. -/
def textWithin (least : Nat) (most : Option Nat) : Reader String := fun given => do
  let s ← text given
  if s.length < least then fail (.tooShort least)
  else match most with
    | some most => if most < s.length then fail (.tooLong most) else return s
    | none => return s

/-- The truth value that a word stands for. -/
def truthOfWord? (s : String) : Option Bool :=
  let word := String.ofList (s.toList.map Char.toLower)
  if word ∈ ["0", "f", "n", "no", "off", "false"] then some false
  else if word ∈ ["1", "t", "y", "yes", "on", "true"] then some true
  else none

/-- A truth value, or a word or number for one. -/
def truth : Reader Bool
  | .truth value => .ok value
  | .text s => ofWord s
  | .bytes content => decoded .unreadableTruth content >>= ofWord
  | .integer n => ofNumber n
  | .number x => match Decimal.whole? x with
    | some n => ofNumber n
    | none => fail .notTruth
  | _ => fail .notTruth
where
  ofWord (s : String) : Except (List FieldFault) Bool :=
    match truthOfWord? s with
    | some value => .ok value
    | none => fail .unreadableTruth
  ofNumber (n : Int) : Except (List FieldFault) Bool :=
    if n = 0 then .ok false else if n = 1 then .ok true else fail .unreadableTruth

/-- A character of the smallest set. -/
def isPlain (c : Char) : Bool := c.toNat < 0x80

/-- The most characters of a text that is read as a whole number. -/
def longestInteger : Nat := 4300

/-- The whole number that digits write, with single underscores between digits and
perhaps a fraction of zeros, of which there is at least one. -/
def integerOfDigits? (cs : List Char) : Option Nat :=
  match cs.span (· ≠ '.') with
  | (digits, []) => Decimal.readDigits 10 false 0 digits
  | (digits, _ :: zeros) =>
    if zeros ≠ [] ∧ zeros.all (· = '0') then Decimal.readDigits 10 false 0 digits else none

/-- The whole number that a text writes. -/
def integerOfText (s : String) : Except (List FieldFault) Int :=
  let (negative, cs) := Decimal.takeSign (Text.trim s.toList)
  if longestInteger < s.length then fail .overlongInteger
  else match if cs.all isPlain then integerOfDigits? cs else none with
    | some n => .ok (if negative then - (n : Int) else n)
    | none => fail .unreadableInteger

/-- A whole number, or what can be read as one. -/
def integer : Reader Int
  | .integer n => .ok n
  | .truth value => .ok (if value then 1 else 0)
  | .text s => integerOfText s
  | .bytes content => decoded .unreadableInteger content >>= integerOfText
  | .number x => match Decimal.whole? x with
    | some n => if n.natAbs < 2 ^ 63 then .ok n else fail .overlongInteger
    | none => fail (if x.isFinite then .fractionalInteger else .infiniteInteger)
  | _ => fail .notInteger

/-- The number that a text writes. -/
def numberOfText (s : String) : Except (List FieldFault) Float :=
  let plain := (Text.trim s.toList).all isPlain
  match if plain then Decimal.readFloat? s else none with
  | some x => .ok x
  | none => fail .unreadableNumber

/-- A number, or what can be read as one. -/
def number : Reader Float
  | .number x => .ok x
  | .truth value => .ok (if value then 1 else 0)
  | .integer n => match Decimal.ofInt? n with
    | some x => .ok x
    | none => fail .notNumber
  | .text s => numberOfText s
  | .bytes content => decoded .unreadableNumber content >>= numberOfText
  | _ => fail .notNumber

/-- The text of an address. -/
def addressText : Reader String
  | .text s => .ok s
  | .bytes content => decoded .notAddress content
  | _ => fail .notAddress

/-- One of some texts. -/
def oneOf {α : Type} (named : List (String × α)) : Reader α
  | .text s => match named.lookup s with
    | some value => .ok value
    | none => fail (.unlisted (named.map Prod.fst))
  | _ => fail (.unlisted (named.map Prod.fst))

/-- Nothing, or what another reader reads. -/
def optional {α : Type} (read : Reader α) : Reader (Option α)
  | .null => .ok none
  | given => (read given).map some

end Reader

/-! ## Forms -/

/-- Faults by field, in the order of the fields. -/
abbrev Faults := List (String × FieldFault)

/-- A value, or all the faults on the way to it. -/
inductive Checked (α : Type) where
  | ok (value : α)
  | faulty (found : Faults)

namespace Checked

/-- Change the value, if there is one. -/
def map {α β : Type} (f : α → β) : Checked α → Checked β
  | .ok value => .ok (f value)
  | .faulty found => .faulty found

/-- Bring a function and its argument together; the faults of both are kept. -/
def apply {α β : Type} : Checked (α → β) → Checked α → Checked β
  | .ok f, .ok value => .ok (f value)
  | .ok _, .faulty found => .faulty found
  | .faulty found, .ok _ => .faulty found
  | .faulty found, .faulty others => .faulty (found ++ others)

instance : Applicative Checked where
  pure := .ok
  map := map
  seq f value := f.apply (value ())

end Checked

/-- What is filled in, by name. -/
abbrev Entries := List (String × Given)

namespace Entries

/-- Read a value for a field. -/
def readAs {α : Type} (name : String) (read : Reader α) (given : Given) : Checked α :=
  match read given with
  | .ok value => .ok value
  | .error found => .faulty (found.map (name, ·))

/-- A field that has to be filled in. -/
def required {α : Type} (entries : Entries) (name : String) (read : Reader α) : Checked α :=
  match entries.lookup name with
  | some given => readAs name read given
  | none => .faulty [(name, .missing)]

/-- A field that has a value if nothing is filled in. -/
def standing {α : Type} (entries : Entries) (name : String) (value : α) (read : Reader α) :
    Checked α :=
  match entries.lookup name with
  | some given => readAs name read given
  | none => .ok value

end Entries

end Form
end PolicyStudio
