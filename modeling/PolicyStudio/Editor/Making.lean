import PolicyStudio.Editor.Language
import PolicyStudio.Text.Quoted

/-!
# Making modules

A module is made item by item.  A class takes over the members of its bases, which
are classes of the module or of the policy language; the classes that it takes over
from stand in one line, each before its own bases and in the order in which they are
named.  There may be no such line.

An object is made by the maker of its class, which gets nothing but the object.
-/

namespace PolicyStudio
namespace Editor

/-- A class among those that a class takes over from. -/
structure Ancestor where
  name : String
  /-- It belongs to the policy language. -/
  ofLanguage : Bool
  /-- How many items were made before it. -/
  serial : Nat
  members : List (String × DeclaredMember)
deriving Repr, DecidableEq

/-- Why an item cannot be made. -/
inductive MakingFault where
  | repeatedBase (name : String)
  | noLine (names : List String)
  /-- The maker needs more than the object. -/
  | missing (maker : String) (names : List String)
  /-- The maker is no function but a value of a type. -/
  | noFunction (type : String)
deriving Repr, DecidableEq

/-- Names in quotes as a sentence lists them. -/
def listedNames (names : List String) : String :=
  match names.map Text.quoted with
  | [first, second] => first ++ " and " ++ second
  | quoted => match quoted.reverse with
    | last :: (before :: more) =>
      ", ".intercalate (before :: more).reverse ++ ", and " ++ last
    | _ => ", ".intercalate quoted

/-- The wording of a fault. -/
def MakingFault.message : MakingFault → String
  | .repeatedBase name => "duplicate base class " ++ name
  | .noLine names =>
    "Cannot create a consistent method resolution\norder (MRO) for bases " ++
      ", ".intercalate names
  | .missing maker names =>
    maker ++ "() missing " ++ names.length.repr ++ " required positional " ++
      (if names.length = 1 then "argument" else "arguments") ++ ": " ++ listedNames names
  | .noFunction type => "'" ++ type ++ "' object is not callable"

namespace Ancestor

/-- Bring lines together: the next class is the first that heads a line and stands
behind no head.  `count` bounds how many classes there are. -/
def merge : Nat → List (List Ancestor) → Except MakingFault (List Ancestor)
  | 0, _ => .ok []
  | count + 1, lines =>
    let lines := lines.filter (!·.isEmpty)
    let heads := lines.filterMap List.head?
    match heads.find? fun head => lines.all fun line => !line.tail.contains head with
    | some next => do
      let rest ← merge count (lines.map fun line => if line.head? = some next then line.tail else line)
      return next :: rest
    | none =>
      if heads.isEmpty then .ok [] else .error (.noLine (heads.map Ancestor.name).eraseDups)

/-- The line of a class behind itself, given the lines of its bases. -/
def line (bases : List (List Ancestor)) : Except MakingFault (List Ancestor) :=
  let heads := bases.filterMap List.head?
  match bases, heads.find? fun head => 1 < heads.count head with
  | [single], _ => .ok single
  | _, some head => .error (.repeatedBase head.name)
  | _, none =>
    merge (bases.flatten.length + 1) (bases ++ [heads])

/-- The arguments that a function needs and does not get from the object alone. -/
def needed (parameters : List DeclaredParameter) : List String :=
  (parameters.filter fun parameter =>
    parameter.taking = .one ∧ parameter.default.isNone).map DeclaredParameter.name

/-- What is missing when an object is made by a member of a class. -/
def makerFault? (ancestor : Ancestor) (maker : DeclaredMember) : Option MakingFault :=
  let named (names : List String) : Option MakingFault :=
    if names.isEmpty then none
    else
      let label := if ancestor.ofLanguage then ancestor.name ++ "." ++ makerName else makerName
      some (.missing label names)
  match maker with
  | .method (.known (_ :: parameters) _) => named (needed parameters)
  | .method _ => none
  | .free parameters => named (needed parameters)
  | .property _ => some (.noFunction "NoneType")
  | .constant => some (.noFunction "int")

/-- Why no object of a class can be made, given the line of the class. -/
def objectFault? (line : List Ancestor) : Option MakingFault :=
  (line.findSome? fun ancestor =>
    (ancestor.members.lookup makerName).map (ancestor, ·)).bind fun (ancestor, maker) =>
      ancestor.makerFault? maker

end Ancestor

/-- The classes of the policy language with their lines. -/
def languageLines : List (String × List Ancestor) :=
  let items := Language.modules.flatMap DeclaredModule.items
  (items.foldl (fun (serial, found) (name, item) => match item with
    | .class bases members =>
      let taken := (bases.filterMap fun base => found.lookup base).flatten
      (serial + 1, found ++ [(name, ⟨name, true, serial, members⟩ :: taken)])
    | _ => (serial + 1, found)) (0, ([] : List (String × List Ancestor)))).2

/-- The value under a name; one that is there keeps its place. -/
def define {α : Type} (name : String) (value : α) : List (String × α) → List (String × α)
  | [] => [(name, value)]
  | (other, old) :: rest =>
    if other = name then (name, value) :: rest else (other, old) :: define name value rest

/-- How an item is made. -/
inductive Recipe where
  | class (bases : List String) (members : List (String × DeclaredMember))
  | function (member : DeclaredMember)
  | object (kind : String)
  /-- An object of another module. -/
  | foreign
deriving Repr, DecidableEq

/-- A module that is being made: its items and the lines of its classes. -/
structure Workpiece where
  items : List (String × DeclaredItem)
  lines : List (String × List Ancestor)
  serial : Nat

namespace Workpiece

/-- The line of a class, which the module or the policy language knows. -/
def lineOf (piece : Workpiece) (name : String) : List Ancestor :=
  (piece.lines.lookup name <|> languageLines.lookup name).getD []

/-- Make an item. -/
def make (piece : Workpiece) (name : String) : Recipe → Except MakingFault Workpiece
  | .class bases members => do
    let behind ← Ancestor.line (bases.map piece.lineOf)
    let whole := ⟨name, false, piece.serial, members⟩ :: behind
    return ⟨define name (.class bases members) piece.items, define name whole piece.lines,
      piece.serial + 1⟩
  | .function (.method signature) =>
    .ok { piece with items := define name (.function signature) piece.items }
  | .function _ | .foreign => .ok { piece with items := define name .foreign piece.items }
  | .object kind => match Ancestor.objectFault? (piece.lineOf kind) with
    | some fault => .error fault
    | none =>
      let item := if (piece.lines.lookup kind).isSome then .instance kind else .foreign
      .ok { piece with items := define name item piece.items }

end Workpiece

/-- Make a module from the recipes of its items. -/
def DeclaredModule.make (name : String) (recipes : List (String × Recipe)) :
    Except MakingFault DeclaredModule := do
  let piece ← recipes.foldlM (fun piece (name, recipe) => piece.make name recipe)
    (⟨[], [], 0⟩ : Workpiece)
  return ⟨name, piece.items⟩

end Editor
end PolicyStudio
