import PolicyStudio.Text.Digit

/-!
# Numerals in programs

Where a numeral ends, and which numerals are malformed.  Digits may be grouped by
single underscores.  A letter may not follow directly, except for the words that
can stand behind a number.
-/

namespace PolicyStudio
namespace Script

/-- A character that can stand in a name, as far as one can tell before the whole
name is known. -/
def isNamePart (c : Char) : Bool :=
  c.isAlphanum || c == '_' || 0x80 ≤ c.toNat

/-- A character with which a name can start, as far as one can tell. -/
def isNameStart (c : Char) : Bool :=
  isNamePart c && !c.isDigit

namespace Numeral

/-- The end of a numeral: what it consists of and what follows, or the refusal. -/
abbrev Scan := Except String (List Char × List Char)

/-- Take characters of a class. -/
def take (isDigit : Char → Bool) (cs : List Char) : List Char × List Char :=
  (cs.takeWhile isDigit, cs.dropWhile isDigit)

/-- The words that may follow a numeral directly. -/
def followers : List String := ["and", "else", "for", "not", "or"]

/-- The short words that may follow a numeral directly, whatever comes after them. -/
def shortFollowers : List String := ["if", "in", "is"]

/-- A word comes next that may follow a numeral. -/
def startsFollower (cs : List Char) : Bool :=
  shortFollowers.any (fun word => word.toList.isPrefixOf cs) ||
    followers.any fun word => word.toList.isPrefixOf cs && match cs.drop word.length with
      | [] => true
      | c :: _ => !isNamePart c

/-- Check that nothing follows that looks like a part of the numeral. -/
def atEnd (kind : String) (taken rest : List Char) : Scan :=
  match rest with
  | [] => .ok (taken, rest)
  | c :: _ =>
    if c.toNat < 0x80 && isNamePart c && !startsFollower rest then
      .error ("invalid " ++ kind ++ " literal")
    else .ok (taken, rest)

/-- Digits in groups, the first group being not empty. -/
def decimalTail : Nat → List Char → Scan
  | 0, cs => .ok ([], cs)
  | groups + 1, cs =>
    let (digits, rest) := take Char.isDigit cs
    match rest with
    | '_' :: after => match after with
      | next :: _ =>
        if next.isDigit then do
          let (more, rest) ← decimalTail groups after
          return (digits ++ '_' :: more, rest)
        else .error "invalid decimal literal"
      | [] => .error "invalid decimal literal"
    | _ => .ok (digits, rest)

/-- The digits of a numeral of another base, in groups that an underscore may
start; `isOther` are the digits that the base does not have. -/
def basedTail (kind : String) (isDigit isOther : Char → Bool) : Nat → List Char → Scan
  | 0, cs => .ok ([], cs)
  | groups + 1, cs => do
    let (mark, cs) := match cs with
      | '_' :: after => (['_'], after)
      | _ => ([], cs)
    let (digits, rest) := take isDigit cs
    if digits.isEmpty then
      match rest with
      | c :: _ =>
        if isOther c then
          throw ("invalid digit '" ++ String.ofList [c] ++ "' in " ++ kind ++ " literal")
        else throw ("invalid " ++ kind ++ " literal")
      | [] => throw ("invalid " ++ kind ++ " literal")
    match rest with
    | '_' :: _ => do
      let (more, rest) ← basedTail kind isDigit isOther groups rest
      return (mark ++ digits ++ more, rest)
    | c :: _ =>
      if isOther c then
        throw ("invalid digit '" ++ String.ofList [c] ++ "' in " ++ kind ++ " literal")
      else return (mark ++ digits, rest)
    | [] => return (mark ++ digits, rest)

/-- A numeral of another base, after its two-letter mark. -/
def based (mark : List Char) (kind : String) (isDigit isOther : Char → Bool) (cs : List Char) :
    Scan := do
  let (digits, rest) ← basedTail kind isDigit isOther (cs.length + 1) cs
  atEnd kind (mark ++ digits) rest

/-- The mark of an imaginary number, or the end. -/
def imaginary (taken rest : List Char) : Scan :=
  match rest with
  | c :: after =>
    if c = 'j' ∨ c = 'J' then atEnd "imaginary" (taken ++ [c]) after
    else atEnd "decimal" taken rest
  | [] => atEnd "decimal" taken rest

/-- An exponent and what may follow it. -/
def exponent (taken rest : List Char) : Scan :=
  match rest with
  | mark :: after =>
    if mark = 'e' ∨ mark = 'E' then
      let (sign, digits) := match after with
        | '+' :: digits => (['+'], digits)
        | '-' :: digits => (['-'], digits)
        | digits => ([], digits)
      let startsDigit := match digits with
        | c :: _ => c.isDigit
        | [] => false
      if startsDigit then do
        let (digits, rest) ← decimalTail (digits.length + 1) digits
        imaginary (taken ++ mark :: sign ++ digits) rest
      else if sign.isEmpty then atEnd "decimal" taken rest
      else .error "invalid decimal literal"
    else imaginary taken rest
  | [] => imaginary taken rest

/-- A fraction after its point. -/
def fraction (taken rest : List Char) : Scan :=
  match rest with
  | c :: _ =>
    if c.isDigit then do
      let (digits, rest) ← decimalTail (rest.length + 1) rest
      exponent (taken ++ digits) rest
    else exponent taken rest
  | [] => exponent taken rest

/-- What follows the digits before the point. -/
def afterWhole (taken rest : List Char) : Scan :=
  match rest with
  | '.' :: after => fraction (taken ++ ['.']) after
  | _ => exponent taken rest

/-- Zeros in groups at the front. -/
def zeros : Nat → List Char → Scan
  | 0, cs => .ok ([], cs)
  | groups + 1, cs =>
    let (found, rest) := take (· == '0') cs
    match rest with
    | '_' :: after => match after with
      | c :: _ =>
        if c = '0' then do
          let (more, rest) ← zeros groups after
          return (found ++ '_' :: more, rest)
        else if c.isDigit then return (found ++ ['_'], after)
        else .error "invalid decimal literal"
      | [] => .error "invalid decimal literal"
    | _ => .ok (found, rest)

/-- The refusal of a whole number with zeros in front. -/
def leadingZeros : String :=
  "leading zeros in decimal integer literals are not permitted; " ++
  "use an 0o prefix for octal integers"

/-- A numeral that starts with a zero and has no mark of a base. -/
def fromZero (cs : List Char) : Scan := do
  let (zeros, rest) ← zeros (cs.length + 1) cs
  match rest with
  | c :: _ =>
    if c.isDigit then
      let (digits, rest) ← decimalTail (rest.length + 1) rest
      match rest with
      | next :: _ =>
        if next = '.' ∨ next = 'e' ∨ next = 'E' ∨ next = 'j' ∨ next = 'J' then
          afterWhole (zeros ++ digits) rest
        else throw leadingZeros
      | [] => throw leadingZeros
    else afterWhole zeros rest
  | [] => afterWhole zeros rest

/-- Any hexadecimal digit. -/
def isHexDigit (c : Char) : Bool :=
  c.isDigit || ('a' ≤ c && c ≤ 'f') || ('A' ≤ c && c ≤ 'F')

/-- Scan a numeral that starts with a digit. -/
def scan (cs : List Char) : Scan :=
  match cs with
  | '0' :: mark :: rest =>
    if mark = 'x' ∨ mark = 'X' then
      based ['0', mark] "hexadecimal" isHexDigit (fun _ => false) rest
    else if mark = 'o' ∨ mark = 'O' then
      based ['0', mark] "octal" (fun c => '0' ≤ c && c < '8') Char.isDigit rest
    else if mark = 'b' ∨ mark = 'B' then
      based ['0', mark] "binary" (fun c => c == '0' || c == '1') Char.isDigit rest
    else fromZero cs
  | '0' :: _ => fromZero cs
  | _ => do
    let (digits, rest) ← decimalTail (cs.length + 1) cs
    afterWhole digits rest

/-- Scan a numeral that starts with a point. -/
def scanFraction (cs : List Char) : Scan :=
  fraction ['.'] cs

end Numeral

end Script
end PolicyStudio
