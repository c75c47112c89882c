import PolicyStudio.Text.Normal

/-!
# Tokens

A program is first cut into tokens.  A token knows where it stands, and how much
of the text had been looked at when it was found, because a refusal shows that
much of the text.  Cutting ends with the token `ending`, or with a token that
tells why it cannot go on.
-/

namespace PolicyStudio
namespace Script

/-- Why a text cannot be cut any further. -/
inductive TokenFault where
  /-- The text at this place is malformed; the line is where it started. -/
  | malformed (line : Nat) (message : String)
  /-- The text ends too early. -/
  | endOfText
  /-- A line is indented less than the one before, and unlike any before that. -/
  | misaligned
  /-- Tabs and blanks are mixed so that the indentation depends on their widths. -/
  | mixedTabs
  /-- There are too many levels of indentation. -/
  | tooDeep
  /-- Something follows the backslash that joins lines. -/
  | strayJoin
deriving Repr, DecidableEq

/-- The kinds of tokens. -/
inductive TokenKind where
  | name
  | number
  | text
  | mark
  | newline
  | indent
  | dedent
  | ending
  | fault (cause : TokenFault)
deriving Repr, DecidableEq

/-- A bracket that is open, with the line on which it stands. -/
structure OpenBracket where
  bracket : Char
  line : Nat
deriving Repr, DecidableEq

/-- The words that are no names. -/
def keywords : List String :=
  ["False", "None", "True", "and", "as", "assert", "async", "await", "break", "class", "continue",
    "def", "del", "elif", "else", "except", "finally", "for", "from", "global", "if", "import",
    "in", "is", "lambda", "nonlocal", "not", "or", "pass", "raise", "return", "try", "while",
    "with", "yield"]

/-- A token. -/
structure Token where
  kind : TokenKind
  text : String
  /-- The line on which it starts. -/
  line : Nat
  /-- The first line that a refusal at this token shows. -/
  shownFrom : Nat
  /-- The last line looked at. -/
  seenTo : Nat
  /-- The brackets open behind it, the innermost first. -/
  brackets : List OpenBracket
deriving Repr, DecidableEq

namespace Token

/-- The end of a text of which nothing is known. -/
def none : Token := ⟨.ending, "", 0, 0, 0, []⟩

/-- The token is a fault. -/
def isFault (token : Token) : Bool :=
  match token.kind with
  | .fault _ => true
  | _ => false

/-- The name that a token writes.  Names that are compatible are one. -/
def name (token : Token) : String :=
  Text.normal token.text

end Token

instance : Inhabited Token := ⟨Token.none⟩

end Script
end PolicyStudio
