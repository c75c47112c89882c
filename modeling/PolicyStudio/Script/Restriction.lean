import PolicyStudio.Script.Scoping

/-!
# What programs may not say

A program that can be read may still be refused.  Names that begin with an
underscore belong to the interpreter, some names are reserved, and some forms are
not allowed at all.  All offences of a program are reported together, in the order
in which the program is walked through; a form that is not allowed is not walked
into.
-/

namespace PolicyStudio
namespace Script

/-- What a program must not say. -/
inductive Offence where
  | hiddenName (name : String)
  | rolesName (name : String)
  | reservedName (name : String)
  | hiddenAttribute (name : String)
  | rolesAttribute (name : String)
  | inspection (name : String)
  | starImport
  | metaclass
  /-- Running or evaluating a text, by the name of the function. -/
  | textAsProgram (function : String)
  | attributeUpdate
  | itemUpdate
  | form (name : String)
  /-- A variable with the name of a constant, written in other characters. -/
  | constantName (name : String)
deriving Repr, DecidableEq

/-- The wording of an offence. -/
def Offence.message : Offence → String
  | .hiddenName name =>
    "\"" ++ name ++ "\" is an invalid variable name because it starts with \"_\""
  | .rolesName name =>
    "\"" ++ name ++ "\" is an invalid variable name because it ends with \"__roles__\"."
  | .reservedName name => "\"" ++ name ++ "\" is a reserved name."
  | .hiddenAttribute name =>
    "\"" ++ name ++ "\" is an invalid attribute name because it starts with \"_\"."
  | .rolesAttribute name =>
    "\"" ++ name ++ "\" is an invalid attribute name because it ends with \"__roles__\"."
  | .inspection name =>
    "\"" ++ name ++ "\" is a restricted name, that is forbidden to access in RestrictedPython."
  | .starImport => "\"*\" imports are not allowed."
  | .metaclass => "The keyword argument \"metaclass\" is not allowed."
  | .textAsProgram function => function ++ " calls are not allowed."
  | .attributeUpdate => "Augmented assignment of attributes is not allowed."
  | .itemUpdate => "Augmented assignment of object items and slices is not allowed."
  | .form name => name ++ " statements are not allowed."
  | .constantName name => "identifier field can't represent '" ++ name ++ "' constant"

/-- An offence on a line. -/
structure Refusal where
  line : Nat
  offence : Offence
deriving Repr, DecidableEq

/-- The offence keeps a program from being compiled rather than from being allowed. -/
def Refusal.isConstant (refusal : Refusal) : Bool :=
  match refusal.offence with
  | .constantName _ => true
  | _ => false

/-- The report of a refusal. -/
def Refusal.message (refusal : Refusal) : String :=
  "Line " ++ refusal.line.repr ++ ": " ++ refusal.offence.message

namespace Restriction

/-! ## Names -/

/-- The names that cannot be bound. -/
def reservedNames : List String := ["print", "printed", "builtins", "breakpoint"]

/-- The names that stand for the printing function and for what was printed; they
can be read. -/
def printingNames : List String := ["print", "printed"]

/-- The names with an underscore that functions inside of blocks may have. -/
def methodNames : List String :=
  ["__init__", "__contains__", "__lt__", "__le__", "__eq__", "__ne__", "__gt__", "__ge__"]

/-- The attributes that lead to the state of the interpreter. -/
def inspectionNames : List String :=
  ["tb_frame", "tb_next", "co_code", "f_back", "f_builtins", "f_code", "f_globals", "f_locals",
    "f_trace", "f_generator", "gi_frame", "gi_code", "gi_yieldfrom", "cr_await", "cr_frame",
    "cr_code", "cr_origin", "ag_await", "ag_frame", "ag_code"]

/-- The constants.  Plainly written they are no names. -/
def constantNames : List String := ["None", "True", "False"]

/-- The name begins with an underscore and is more than that. -/
def isHidden (name : String) : Bool :=
  name.startsWith "_" && name != "_"

/-- What is wrong with a name. -/
def ofName (line : Nat) (name : String) : List Refusal :=
  if isHidden name then [⟨line, .hiddenName name⟩]
  else if name.endsWith "__roles__" then [⟨line, .rolesName name⟩]
  else if reservedNames.contains name then [⟨line, .reservedName name⟩]
  else []

/-- What is wrong with the name of a variable; `isBound` tells that it is bound. -/
def ofVariable (isBound : Bool) (line : Nat) (name : String) : List Refusal :=
  if constantNames.contains name then [⟨line, .constantName name⟩]
  else if !isBound && printingNames.contains name then []
  else ofName line name

/-- What is wrong with the name of a function; `isInside` tells that it is defined
inside of a block. -/
def ofFunctionName (line : Nat) (isInside : Bool) (name : String) : List Refusal :=
  if isInside && methodNames.contains name then [] else ofName line name

/-- What is wrong with the name of an attribute. -/
def ofAttribute (line : Nat) (name : String) : List Refusal :=
  (if isHidden name then [⟨line, .hiddenAttribute name⟩] else []) ++
  (if name.endsWith "__roles__" then [⟨line, .rolesAttribute name⟩] else []) ++
  (if inspectionNames.contains name then [⟨line, .inspection name⟩] else [])

/-- What is wrong with the names of parameters. -/
def ofParameterNames (line : Nat) : Parameters → List Refusal
  | .mk positionalOnly positional rest keywordOnly keywordRest _ _ =>
    (positionalOnly ++ positional ++ rest.toList ++ keywordRest.toList ++ keywordOnly).flatMap
      fun parameter => ofName line parameter.name

/-- What is wrong with the names of an import. -/
def ofImport (line : Nat) (names : List Alias) : List Refusal :=
  names.flatMap fun a =>
    (if a.name.contains '*' then [⟨line, .starImport⟩] else []) ++ ofName line a.name ++
      (match a.rename with
        | some name => ofName line name
        | none => [])

/-- What is wrong with the function of a call. -/
def ofFunction (line : Nat) : Expression → List Refusal
  | .name _ "exec" => [⟨line, .textAsProgram "Exec"⟩]
  | .name _ "eval" => [⟨line, .textAsProgram "Eval"⟩]
  | _ => []

/-- What is wrong with the target of an update. -/
def ofUpdated (line : Nat) : Expression → List Refusal
  | .attribute .. => [⟨line, .attributeUpdate⟩]
  | .subscript .. => [⟨line, .itemUpdate⟩]
  | _ => []

/-- A class is given a metaclass. -/
def ofMetaclass (line : Nat) (bases : List Argument) : List Refusal :=
  if bases.any isMetaclass then [⟨line, .metaclass⟩] else []
where
  /-- The argument is the metaclass. -/
  isMetaclass : Argument → Bool
    | .named _ name _ => name == "metaclass"
    | _ => false

end Restriction

open Restriction

/-! ## Expressions -/

mutual

/-- The offences of an expression; `isBound` tells that it is a target. -/
def Expression.refusals (isBound : Bool) : Expression → List Refusal
  | .formatted parts => refusalsOfParts parts
  | .name line name => ofVariable isBound line name
  | .attribute line value name => ofAttribute line name ++ value.refusals false
  | .subscript value index => value.refusals false ++ index.refusals false
  | .slice start stop step =>
    refusalsOfOption start ++ refusalsOfOption stop ++ refusalsOfOption step
  | .call line function arguments =>
    ofFunction line function ++ function.refusals false ++ refusalsOfPositional arguments ++
      refusalsOfNamed arguments
  | .unary _ operand => operand.refusals false
  | .binary _ left right => left.refusals false ++ right.refusals false
  | .conjunction operands => refusalsOfList false operands
  | .disjunction operands => refusalsOfList false operands
  | .comparison left rest => left.refusals false ++ refusalsOfRest rest
  | .conditional test yes no =>
    test.refusals false ++ yes.refusals false ++ no.refusals false
  | .lambda line parameters body =>
    ofParameterNames line parameters ++ parameters.refusals ++ body.refusals false
  | .list items => refusalsOfList isBound items
  | .tuple items => refusalsOfList isBound items
  | .set items => refusalsOfList false items
  | .dictionary entries => refusalsOfKeys entries ++ refusalsOfValues entries
  | .comprehension _ element clauses => element.refusals false ++ refusalsOfClauses clauses
  | .dictionaryComprehension key value clauses =>
    key.refusals false ++ value.refusals false ++ refusalsOfClauses clauses
  | .assignment line name value => ofVariable true line name ++ value.refusals false
  | .starred _ value => value.refusals isBound
  | .yielded _ value => refusalsOfOption value
  | .yieldedFrom _ value => value.refusals false
  | .refused line form => [⟨line, .form form⟩]
  | .nothing | .truth _ | .integer _ | .number _ | .imaginary _ | .text _ | .bytes _
  | .ellipsis => []

/-- The offences of several expressions. -/
def refusalsOfList (isBound : Bool) : List Expression → List Refusal
  | [] => []
  | e :: rest => e.refusals isBound ++ refusalsOfList isBound rest

/-- The offences of an expression that may be absent. -/
def refusalsOfOption : Option Expression → List Refusal
  | none => []
  | some e => e.refusals false

/-- The offences of expressions that may be absent. -/
def refusalsOfOptions : List (Option Expression) → List Refusal
  | [] => []
  | e :: rest => refusalsOfOption e ++ refusalsOfOptions rest

/-- The offences of the pieces of a formatted text. -/
def refusalsOfParts : List FormattedPart → List Refusal
  | [] => []
  | .literal _ :: rest => refusalsOfParts rest
  | .field value _ format :: rest =>
    value.refusals false ++ refusalsOfFormat format ++ refusalsOfParts rest

/-- The offences of a format. -/
def refusalsOfFormat : Option (List FormattedPart) → List Refusal
  | none => []
  | some parts => refusalsOfParts parts

/-- The offences of the arguments that are given by position. -/
def refusalsOfPositional : List Argument → List Refusal
  | [] => []
  | .positional e :: rest => e.refusals false ++ refusalsOfPositional rest
  | .spread e :: rest => e.refusals false ++ refusalsOfPositional rest
  | _ :: rest => refusalsOfPositional rest

/-- The offences of the arguments that are given by name. -/
def refusalsOfNamed : List Argument → List Refusal
  | [] => []
  | .named _ _ e :: rest => e.refusals false ++ refusalsOfNamed rest
  | .spreadNamed e :: rest => e.refusals false ++ refusalsOfNamed rest
  | _ :: rest => refusalsOfNamed rest

/-- The offences of the operands of a comparison. -/
def refusalsOfRest : List (ComparisonOperator × Expression) → List Refusal
  | [] => []
  | (_, e) :: rest => e.refusals false ++ refusalsOfRest rest

/-- The offences of the keys of a dictionary. -/
def refusalsOfKeys : List DictionaryEntry → List Refusal
  | [] => []
  | .mk key _ :: rest => refusalsOfOption key ++ refusalsOfKeys rest

/-- The offences of the values of a dictionary. -/
def refusalsOfValues : List DictionaryEntry → List Refusal
  | [] => []
  | .mk _ value :: rest => value.refusals false ++ refusalsOfValues rest

/-- The offences of the clauses of a comprehension. -/
def refusalsOfClauses : List Clause → List Refusal
  | [] => []
  | .mk target iterable tests _ :: rest =>
    target.refusals true ++ iterable.refusals false ++ refusalsOfList false tests ++
      refusalsOfClauses rest

/-- The offences of hints at parameters. -/
def refusalsOfHints : List Parameter → List Refusal
  | [] => []
  | .mk _ _ hint :: rest => refusalsOfOption hint ++ refusalsOfHints rest

/-- The offences of the hint at a parameter that may be absent. -/
def refusalsOfHint : Option Parameter → List Refusal
  | none => []
  | some (.mk _ _ hint) => refusalsOfOption hint

/-- The offences of hints and default values of parameters. -/
def Parameters.refusals : Parameters → List Refusal
  | .mk positionalOnly positional rest keywordOnly keywordRest defaults keywordDefaults =>
    refusalsOfHints positionalOnly ++ refusalsOfHints positional ++ refusalsOfHint rest ++
      refusalsOfHints keywordOnly ++ refusalsOfOptions keywordDefaults ++
      refusalsOfHint keywordRest ++ refusalsOfList false defaults

end

/-! ## Statements -/

/-- The offences of contexts. -/
def refusalsOfItems (items : List (Expression × Option Expression)) : List Refusal :=
  items.flatMap fun item => item.1.refusals false ++
    (match item.2 with
      | some target => target.refusals true
      | none => [])

mutual

/-- The offences of a statement. -/
def Statement.refusals : Statement → List Refusal
  | .expression value => value.refusals false
  | .assign targets value => refusalsOfList true targets ++ value.refusals false
  | .update line target _ value =>
    target.refusals true ++ value.refusals false ++ ofUpdated line target
  | .delete targets => refusalsOfList true targets
  | .pass | .break _ | .continue _ | .global .. => []
  | .return value => refusalsOfOption value
  | .raise error cause => refusalsOfOption error ++ refusalsOfOption cause
  | .assert _ test message => test.refusals false ++ refusalsOfOption message
  | .branch test body alternative =>
    test.refusals false ++ refusalsOfBody body ++ refusalsOfBody alternative
  | .loop _ test body alternative =>
    test.refusals false ++ refusalsOfBody body ++ refusalsOfBody alternative
  | .iterate _ target iterable body alternative =>
    target.refusals true ++ iterable.refusals false ++ refusalsOfBody body ++
      refusalsOfBody alternative
  | .attempt _ body handlers alternative final =>
    refusalsOfBody body ++ refusalsOfHandlers handlers ++ refusalsOfBody alternative ++
      refusalsOfBody final
  | .function line column name parameters body decorators result =>
    ofFunctionName line (column != 0) name ++ ofParameterNames line parameters ++
      parameters.refusals ++ refusalsOfBody body ++ refusalsOfList false decorators ++
      refusalsOfOption result
  | .classDefinition line name bases body decorators =>
    ofName line name ++ refusalsOfPositional bases ++ refusalsOfNamed bases ++
      refusalsOfBody body ++ refusalsOfList false decorators ++ ofMetaclass line bases
  | .importNames line names => ofImport line names
  | .importFrom line names => ofImport line names
  | .scoped _ items body => refusalsOfItems items ++ refusalsOfBody body
  | .refused line form => [⟨line, .form form⟩]

/-- The offences of statements. -/
def refusalsOfBody : List Statement → List Refusal
  | [] => []
  | s :: rest => s.refusals ++ refusalsOfBody rest

/-- The offences of handlers. -/
def refusalsOfHandlers : List Handler → List Refusal
  | [] => []
  | .mk line error name body :: rest =>
    refusalsOfOption error ++ refusalsOfBody body ++
      (match name with
        | some name => ofName line name
        | none => []) ++ refusalsOfHandlers rest

end

end Script
end PolicyStudio
