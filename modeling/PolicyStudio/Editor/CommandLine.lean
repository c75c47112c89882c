import PolicyStudio.Editor.Language
import PolicyStudio.Editor.Snapshot

/-!
# The command line for snapshots

The command writes a snapshot of the declarations.  Two options take a path, and
one asks for help.  An option may be shortened as long as only one option starts
so, and its value may follow in the same word behind an equals sign.

A failure to write is reported, but it is no failure of the command; only options
that are not understood are.
-/

namespace PolicyStudio
namespace Editor

open Files

namespace CommandLine

/-- The options. -/
inductive Choice where
  | help
  | output
  | bundle
deriving Repr, DecidableEq

/-- The words for an option. -/
def Choice.words : Choice → List String
  | .help => ["-h", "--help"]
  | .output => ["--output"]
  | .bundle => ["--bundle"]

/-- The options by word, in the order of their declaration. -/
def vocabulary : List (String × Choice) :=
  [Choice.help, .output, .bundle].flatMap fun choice => choice.words.map (·, choice)

/-- Why a command is not understood. -/
inductive UsageFault where
  | noValue (choice : Choice)
  /-- A value for an option that takes none. -/
  | surplusValue (choice : Choice) (value : String)
  | unclear (word : String) (candidates : List String)
  | unknown (words : List String)
deriving Repr, DecidableEq

/-- An option in messages. -/
def Choice.shown (choice : Choice) : String := "/".intercalate choice.words

/-- The wording of a fault. -/
def UsageFault.message : UsageFault → String
  | .noValue choice => "argument " ++ choice.shown ++ ": expected one argument"
  | .surplusValue choice value =>
    "argument " ++ choice.shown ++ ": ignored explicit argument " ++ Text.quoted value
  | .unclear word candidates =>
    "ambiguous option: " ++ word ++ " could match " ++ ", ".intercalate candidates
  | .unknown words => "unrecognized arguments: " ++ " ".intercalate words

/-- What a word on the command line is. -/
inductive Word where
  | plain
  /-- The word behind which all words are plain. -/
  | divider
  /-- An option with a value in the same word. -/
  | option (choice : Choice) (value : Option String)
  /-- The short option for help with letters right behind it. -/
  | cluster (letters : List Char)
  | unknownOption
deriving Repr, DecidableEq

/-- Cut at the first equals sign. -/
def cutValue (word : String) : String × Option String :=
  match word.toList.span (· ≠ '=') with
  | (_, []) => (word, none)
  | (name, _ :: value) => (String.ofList name, some (String.ofList value))

/-- The options that a word may stand for, by the words for them. -/
def candidates (word : String) : List (String × Word) :=
  if word.startsWith "--" then
    let (name, value) := cutValue word
    vocabulary.filterMap fun (known, choice) =>
      if known.startsWith name then some (known, .option choice value) else none
  else match word.toList with
    | '-' :: 'h' :: letters => [("-h", .cluster letters)]
    | _ => []

/-- A number above zero, in digits of any script; one line break may follow it. -/
def isNumber (cs : List Char) : Bool :=
  let isDigit (c : Char) : Bool := (Text.digit? c).isSome
  let cs := if cs.getLast? = some '\n' then cs.dropLast else cs
  match cs.span isDigit with
  | (whole, []) => !whole.isEmpty
  | (_, '.' :: parts) => !parts.isEmpty && parts.all isDigit
  | _ => false

/-- The word is a number below zero. -/
def isNegativeNumber (word : String) : Bool :=
  match word.toList with
  | '-' :: rest => isNumber rest
  | _ => false

/-- Tell what a word is. -/
def classify (word : String) : Except UsageFault Word :=
  if !word.startsWith "-" || word = "-" then .ok .plain
  else if word = "--" then .ok .divider
  else match vocabulary.lookup word with
    | some choice => .ok (.option choice none)
    | none =>
      let (name, value) := cutValue word
      match value, vocabulary.lookup name with
      | some value, some choice =>
        .ok (if name = "-h" then .cluster value.toList else .option choice (some value))
      | _, _ => match candidates word with
        | [(_, found)] => .ok found
        | [] =>
          if isNegativeNumber word || word.contains ' ' then .ok .plain else .ok .unknownOption
        | several => .error (.unclear word (several.map Prod.fst))

/-- Tell what all words are. -/
def classifyAll : List String → Except UsageFault (List (String × Word))
  | [] => .ok []
  | word :: rest => do
    let kind ← classify word
    if kind = .divider then return (word, kind) :: rest.map (·, .plain)
    return (word, kind) :: (← classifyAll rest)

/-- What a command asks for. -/
structure Request where
  output : Option String
  bundle : Option String
deriving Repr, DecidableEq

/-- What a command comes to. -/
inductive Reading where
  | request (request : Request)
  | help
  | fault (fault : UsageFault)
deriving Repr, DecidableEq

/-- Give a value to an option. -/
def Request.set (request : Request) (value : String) : Choice → Request
  | .output => { request with output := some value }
  | .bundle => { request with bundle := some value }
  | .help => request

/-- Read the letters behind the short option for help, of which there is at least one.
They may ask for help again; any other letters are a value that is refused. -/
def readCluster : List Char → Reading
  | ['h'] => .help
  | 'h' :: rest => readCluster rest
  | letters => .fault (.surplusValue .help (String.ofList letters))

/-- Act on the words in order; words that belong to no option are gathered. -/
def actOn (request : Request) (extra : List String) : List (String × Word) → Reading
  | [] => if extra.isEmpty then .request request else .fault (.unknown extra.reverse)
  | (_, .cluster letters) :: _ => readCluster letters
  | (_, .option .help none) :: _ => .help
  | (_, .option .help (some value)) :: _ => .fault (.surplusValue .help value)
  | (_, .option choice (some value)) :: rest => actOn (request.set value choice) extra rest
  | (_, .option choice none) :: (value, .plain) :: rest =>
    actOn (request.set value choice) extra rest
  | (_, .option choice none) :: _ => .fault (.noValue choice)
  | (word, _) :: rest => actOn request (word :: extra) rest

/-- Read a command. -/
def read (words : List String) : Reading :=
  match classifyAll words with
  | .ok words => actOn ⟨none, none⟩ [] words
  | .error fault => .fault fault

/-- The name of the command. -/
def commandName : String := "snapshot_types.py"

/-- How the command is used. -/
def usage : String :=
  "usage: " ++ commandName ++ " [-h] [--output OUTPUT] [--bundle BUNDLE]\n"

/-- The text of the help. -/
def helpText : String :=
  usage ++ "\nSnapshot policy DSL type declarations\n\noptions:\n" ++
    "  -h, --help       show this help message and exit\n" ++
    "  --output OUTPUT  Target .pyi file\n" ++
    "  --bundle BUNDLE  Preferred bundled .pyi\n"

/-- What a command leaves: its status, what it printed, and what it reported. -/
structure Outcome where
  status : Nat
  printed : String
  reported : String
deriving Repr, DecidableEq

/-- Write a snapshot, given the declarations if they can be made. -/
def snapshot (made : Option String) (request : Request) (files : Tree) : Outcome × Tree :=
  let target := (request.output.map Path.read).getD Snapshot.standardTarget
  let bundle := (request.bundle.map Path.read).getD Snapshot.standardBundle
  match Snapshot.build made target bundle files with
  | .ok source files =>
    let text := "Type snapshot written to " ++ target.text ++ " (" ++
      (match source with
        | .bundle => "bundle"
        | .synthesized => "synthesized"
        | .fallback => "stub") ++ ")\n"
    (⟨0, text, ""⟩, files)
  | .error fault files => (⟨0, "", "Error writing type snapshot: " ++ fault.message ++ "\n"⟩, files)

/-- Run the command. -/
def run (made : Option String) (words : List String) (files : Tree) : Outcome × Tree :=
  match read words with
  | .help => (⟨0, helpText, ""⟩, files)
  | .fault fault => (⟨2, "", usage ++ commandName ++ ": error: " ++ fault.message ++ "\n"⟩, files)
  | .request request => snapshot made request files

end CommandLine

end Editor
end PolicyStudio
