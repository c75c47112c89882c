import PolicyStudio.Text.Blank

/-!
# Declarations

What a module offers can be declared without saying how it works: its classes with
their methods and properties, its functions, and its named objects by class.  Only
what belongs to the module and has a public name is declared; of the methods of a
class the one that makes objects is declared as well.
-/

namespace PolicyStudio
namespace Editor

/-- How a parameter takes arguments. -/
inductive Taking where
  | one
  /-- All further arguments by position. -/
  | positional
  /-- One argument, by name only. -/
  | named
  /-- All further arguments by name. -/
  | furtherNamed
deriving Repr, DecidableEq

/-- A parameter: its name, the text of its type and that of its default. -/
structure DeclaredParameter where
  name : String
  type : Option String
  default : Option String
  taking : Taking
deriving Repr, DecidableEq

namespace DeclaredParameter

/-- The text of a parameter. -/
def text (parameter : DeclaredParameter) : String :=
  let mark := match parameter.taking with
    | .positional => "*"
    | .furtherNamed => "**"
    | .one | .named => ""
  let type := match parameter.type with
    | some type => ": " ++ type
    | none => ""
  let default := match parameter.type, parameter.default with
    | _, none => ""
    | some _, some value => " = " ++ value
    | none, some value => "=" ++ value
  mark ++ parameter.name ++ type ++ default

/-- A parameter without a type. -/
def bare (name : String) : DeclaredParameter := ⟨name, none, none, .one⟩

/-- A parameter with a type. -/
def typed (name type : String) : DeclaredParameter := ⟨name, some type, none, .one⟩

/-- A parameter with a type and a default. -/
def standing (name type default : String) : DeclaredParameter :=
  ⟨name, some type, some default, .one⟩

/-- A parameter for all further arguments by position. -/
def many (name type : String) : DeclaredParameter := ⟨name, some type, none, .positional⟩

end DeclaredParameter

/-- Parameters and result, unless nothing is known of them. -/
inductive DeclaredSignature where
  | known (parameters : List DeclaredParameter) (result : Option String)
  | unknown
deriving Repr, DecidableEq

/-- The text of a signature. -/
def DeclaredSignature.text : DeclaredSignature → String
  | .unknown => "(*args: Any, **kwargs: Any) -> Any"
  | .known parameters result =>
    let result := match result with
      | some type => " -> " ++ type
      | none => ""
    "(" ++ ", ".intercalate (parameters.map DeclaredParameter.text) ++ ")" ++ result

/-- A member of a class. -/
inductive DeclaredMember where
  | method (signature : DeclaredSignature)
  | property (signature : DeclaredSignature)
  /-- A function that knows nothing of an object; it is not declared. -/
  | free (parameters : List DeclaredParameter)
  /-- A plain value, which is not declared. -/
  | constant
deriving Repr, DecidableEq

/-- What stands under a name of a module. -/
inductive DeclaredItem where
  | class (bases : List String) (members : List (String × DeclaredMember))
  | function (signature : DeclaredSignature)
  /-- An object of a class of the module. -/
  | instance (kind : String)
  /-- What is not declared, because it belongs elsewhere or is a plain value. -/
  | foreign
deriving Repr, DecidableEq

/-- A module: what stands under its names, in order. -/
structure DeclaredModule where
  name : String
  items : List (String × DeclaredItem)
deriving Repr, DecidableEq

/-- A name for use outside. -/
def isPublic (name : String) : Bool := !name.startsWith "_"

/-- The name of the method that makes objects. -/
def makerName : String := "__init__"

namespace DeclaredMember

/-- The line that declares a method. -/
def line (name : String) (signature : DeclaredSignature) : String :=
  "    def " ++ name ++ signature.text ++ ": ..."

/-- The lines that declare a member. -/
def lines (member : String × DeclaredMember) : List String :=
  if isPublic member.1 || member.1 = makerName then match member.2 with
    | .method signature => [line member.1 signature]
    | .property signature => ["    @property", line member.1 signature]
    | .free _ | .constant => []
  else []

end DeclaredMember

/-- The lines that declare a class. -/
def classLines (name : String) (bases : List String) (members : List (String × DeclaredMember)) :
    List String :=
  let header := if bases.isEmpty then "class " ++ name ++ ":"
    else "class " ++ name ++ "(" ++ ", ".intercalate bases ++ "):"
  match members.flatMap DeclaredMember.lines with
  | [] => [header, "    ..."]
  | lines => header :: lines

namespace DeclaredModule

/-- The names of the classes of a module. -/
def classNames (module : DeclaredModule) : List String :=
  module.items.filterMap fun item => match item.2 with
    | .class .. => some item.1
    | _ => none

/-- The lines that declare an item, given the names of all classes. -/
def itemLines (classes : List String) (item : String × DeclaredItem) : List String :=
  if isPublic item.1 then match item.2 with
    | .class bases members => classLines item.1 bases members ++ [""]
    | .function signature => ["def " ++ item.1 ++ signature.text ++ ": ...", ""]
    | .instance kind => if kind ∈ classes then [item.1 ++ ": " ++ kind, ""] else []
    | .foreign => []
  else []

/-- The lines that declare a module. -/
def lines (classes : List String) (module : DeclaredModule) : List String :=
  ("# " ++ module.name) :: module.items.flatMap (itemLines classes)

end DeclaredModule

/-- What stands before all declarations. -/
def declarationHeader : List String :=
  ["# Auto-generated type declarations for rls_playground.dsl", "from typing import Any", ""]

/-- The text of the declarations of modules. -/
def declarations (modules : List DeclaredModule) : String :=
  let classes := modules.flatMap DeclaredModule.classNames
  let lines := declarationHeader ++ modules.flatMap (DeclaredModule.lines classes)
  String.ofList (Text.trimEnd ("\n".intercalate lines).toList) ++ "\n"

end Editor
end PolicyStudio
