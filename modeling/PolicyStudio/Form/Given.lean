import PolicyStudio.Json.Basic

/-!
# Given values

What is filled into a form can be anything; a field takes what it can read.
-/

namespace PolicyStudio
namespace Form

/-- A value that is filled in. -/
inductive Given where
  | null
  | truth (value : Bool)
  | integer (value : Int)
  | number (value : Float)
  | text (value : String)
  | bytes (content : List UInt8)
  | list (items : List Given)
  | object (members : List (String × Given))
  /-- A value that no field takes. -/
  | other

namespace Given

instance : Inhabited Given := ⟨.null⟩

mutual

/-- A JSON value as it is filled in. -/
def ofJson : Json → Given
  | .null => .null
  | .truth value => .truth value
  | .integer n => .integer n
  | .number x => .number x
  | .text s => .text s
  | .list items => .list (ofItems items)
  | .object members => .object (ofMembers members)

/-- The items of a list as they are filled in. -/
def ofItems : List Json → List Given
  | [] => []
  | value :: rest => ofJson value :: ofItems rest

/-- The members of an object as they are filled in. -/
def ofMembers : List (String × Json) → List (String × Given)
  | [] => []
  | (name, value) :: rest => (name, ofJson value) :: ofMembers rest

end

end Given

end Form
end PolicyStudio
