import PolicyStudio.Script.Compare
import PolicyStudio.Script.Environment
import PolicyStudio.Text.Utf8

/-!
# Variables

A name belongs to the innermost frame whose code binds it.  If no frame does, or
if the code of a frame declares the name global, it belongs to the global frame,
behind which stands the environment.

A name that belongs to a frame but has no value there yet is not looked up any
further: that is an error, worded after how far away the frame is.
-/

namespace PolicyStudio
namespace Script

namespace Variable

open Step

/-- Where a name belongs. -/
inductive Place where
  /-- To a frame; `near` tells that it is the innermost one. -/
  | local (frame : Address) (near : Bool)
  | global
deriving Repr, DecidableEq

/-- The frame at an address. -/
def frameAt (address : Address) : Step Frame := do
  match ← load address with
  | .frame frame => return frame
  | _ => return ⟨.global, [], [], [], "", #[], false⟩

/-- Where a name belongs, seen from frames from the inside out. -/
def place (name : String) (near : Bool) : List Address → Step Place
  | [] => return .global
  | address :: rest => do
    let frame ← frameAt address
    if frame.kind = .global || frame.globals.contains name then return .global
    if frame.locals.contains name then return .local address near
    place name false rest

/-- The outermost frame. -/
def globalFrame (scope : Scope) : Address :=
  scope.frames.getLastD 0

/-- How many bytes of a name are shown where nothing is known about it. -/
def shownBytes : Nat := 200

/-- A name up to a length; a character that is cut through is replaced. -/
def shortened (name : String) : String :=
  Text.Utf8.decodeLoosely (name.toUTF8.extract 0 shownBytes)

/-- The error about a name, which can be read from it. -/
def raiseAbout {α : Type} (name message : String) : Step α :=
  raiseDetailed .unknownName [.text message] [("name", .text name)]

/-- The error for a name that nothing is known about. -/
def unknown {α : Type} (name : String) : Step α :=
  raiseAbout name ("name '" ++ shortened name ++ "' is not defined")

/-- The error for a name that has no value yet. -/
def unassigned {α : Type} (name : String) (near : Bool) : Step α :=
  if near then
    raise .unboundLocal ("cannot access local variable '" ++ name ++
      "' where it is not associated with a value")
  else
    raiseAbout name ("cannot access free variable '" ++ name ++
      "' where it is not associated with a value in enclosing scope")

/-- The value of a name. -/
def read (scope : Scope) (name : String) : Step Value := do
  match ← place name true scope.frames with
  | .local address near => match (← frameAt address).entries.lookup name with
    | some value => return value
    | none => unassigned name near
  | .global => match (← frameAt (globalFrame scope)).entries.lookup name with
    | some value => return value
    | none => match environment.lookup name with
      | some value => return value
      | none => unknown name

/-- The variables after one was given a value. -/
def assigned (name : String) (value : Value) : List (String × Value) → List (String × Value)
  | [] => [(name, value)]
  | entry :: rest =>
    if entry.1 = name then (name, value) :: rest else entry :: assigned name value rest

/-- Change the variables of a frame. -/
def change (address : Address) (f : List (String × Value) → List (String × Value)) : Step Unit :=
  update address fun object => match object with
    | .frame frame => .frame { frame with entries := f frame.entries }
    | other => other

/-- Give a name a value. -/
def write (scope : Scope) (name : String) (value : Value) : Step Unit := do
  match ← place name true scope.frames with
  | .local address _ => change address (assigned name value)
  | .global => change (globalFrame scope) (assigned name value)

/-- The frames without those of comprehensions in front. -/
def outsideComprehensions : List Address → Step (List Address)
  | [] => return []
  | address :: rest => do
    if (← frameAt address).kind = .comprehension then outsideComprehensions rest
    else return address :: rest

/-- Give a name a value in the function around all comprehensions. -/
def writeOutside (scope : Scope) (name : String) (value : Value) : Step Unit := do
  write { scope with frames := ← outsideComprehensions scope.frames } name value

/-- Take its value from a name. -/
def delete (scope : Scope) (name : String) : Step Unit := do
  let without := fun (entries : List (String × Value)) =>
    entries.filter fun entry => entry.1 != name
  match ← place name true scope.frames with
  | .local address near =>
    if ((← frameAt address).entries.lookup name).isNone then unassigned name near
    change address without
  | .global =>
    if ((← frameAt (globalFrame scope)).entries.lookup name).isNone then unknown name
    change (globalFrame scope) without

/-- Take its value from a name, if it has one. -/
def clear (scope : Scope) (name : String) : Step Unit := do
  let _ ← attempt (delete scope name)

/-- The innermost frame with a place for printed text. -/
def printingFrame : List Address → Step Address
  | [] => unknown "_print"
  | address :: rest => do
    if (← frameAt address).prints then return address else printingFrame rest

end Variable

end Script
end PolicyStudio
