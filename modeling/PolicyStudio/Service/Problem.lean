import PolicyStudio.Json.Basic

/-!
# Problems of a request

A problem has a place, the names on the way to it, and a message.  In the report
problems stand one behind the other, each with its place; the place of the whole
body goes without saying.

A message that is no text can be shown behind a place, but does not stand alone.

Problems may also be told as a JSON value: a list of objects with a place and a
message, which both may be left out.  The steps of a place are the items of a list,
the characters of a text or the names of an object.
-/

namespace PolicyStudio
namespace Service

/-- A message: a text, or another value by its text and its type. -/
inductive Notice where
  | text (content : String)
  | other (shown type : String)
deriving Repr, DecidableEq

/-- The text of a message behind a place. -/
def Notice.shown : Notice → String
  | .text content => content
  | .other shown _ => shown

/-- A problem of a request. -/
structure Problem where
  place : List String
  notice : Notice
deriving Repr, DecidableEq

namespace Problem

/-- The name of the body of a request. -/
def bodyName : String := "body"

/-- What is said if nothing else is. -/
def standardText : String := "Invalid value"

/-- The text of a place, without the body. -/
def placeText (place : List String) : String :=
  ".".intercalate (place.filter (· ≠ bodyName))

/-- The report of a problem; it need not be a text. -/
def report (problem : Problem) : Notice :=
  let place := placeText problem.place
  if place.isEmpty then problem.notice else .text (place ++ ": " ++ problem.notice.shown)

/-- Why problems cannot be reported together. -/
inductive ReportFault where
  /-- A report is no text. -/
  | notText (position : Nat) (type : String)
  /-- What should be a list of problems or steps holds nothing. -/
  | notIterable (type : String)
  /-- A problem is no object. -/
  | notObject (type : String)
deriving Repr, DecidableEq

/-- The wording of a fault. -/
def ReportFault.message : ReportFault → String
  | .notText position type =>
    "sequence item " ++ position.repr ++ ": expected str instance, " ++ type ++ " found"
  | .notIterable type => "'" ++ type ++ "' object is not iterable"
  | .notObject type => "'" ++ type ++ "' object has no attribute 'get'"

/-- The texts of reports, or the first report that is no text. -/
def texts (position : Nat) : List Notice → Except ReportFault (List String)
  | [] => .ok []
  | .text content :: rest => do return content :: (← texts (position + 1) rest)
  | .other _ type :: _ => .error (.notText position type)

/-- The report of problems. -/
def reportAll (problems : List Problem) : Except ReportFault String := do
  return "; ".intercalate (← texts 0 (problems.map report))

/-- The type of a value as messages name it. -/
def typeName : Json → String
  | .null => "NoneType"
  | .truth _ => "bool"
  | .integer _ => "int"
  | .number _ => "float"
  | .text _ => "str"
  | .list _ => "list"
  | .object _ => "dict"

mutual

/-- A value as it is shown inside of another one. -/
def shownInside : Json → String
  | .null => "None"
  | .truth value => if value then "True" else "False"
  | .integer n => Decimal.intText n
  | .number x => Decimal.floatText x
  | .text s => Text.quoted s
  | .list items => "[" ++ ", ".intercalate (shownItems items) ++ "]"
  | .object members => "\x7b" ++ ", ".intercalate (shownMembers members) ++ "\x7d"

/-- The items of a list, shown. -/
def shownItems : List Json → List String
  | [] => []
  | value :: rest => shownInside value :: shownItems rest

/-- The members of an object, shown. -/
def shownMembers : List (String × Json) → List String
  | [] => []
  | (name, value) :: rest =>
    (Text.quoted name ++ ": " ++ shownInside value) :: shownMembers rest

end

/-- A value as it is shown: a text is shown as it is. -/
def shown : Json → String
  | .text s => s
  | value => shownInside value

/-- What a value holds: items, characters or names. -/
def held : Json → Except ReportFault (List Json)
  | .list items => .ok items
  | .text s => .ok (s.toList.map fun c => .text (String.singleton c))
  | .object members => .ok (members.map fun (name, _) => .text name)
  | value => .error (.notIterable (typeName value))

/-- The problem that a value tells. -/
def ofJson : Json → Except ReportFault Problem
  | .object members => do
    let place ← match members.lookup "loc" with
      | some place => held place
      | none => pure []
    let notice := match members.lookup "msg" with
      | some (.text content) => .text content
      | some value => .other (shown value) (typeName value)
      | none => .text standardText
    return ⟨place.map shown, notice⟩
  | value => .error (.notObject (typeName value))

/-- The report of the problems that a value tells. -/
def reportJson (value : Json) : Except ReportFault String := do
  reportAll (← (← held value).mapM ofJson)

/-- A report of problems whose messages are texts. -/
def reportTexts (problems : List (List String × String)) : String :=
  "; ".intercalate (problems.map fun (place, message) =>
    (report ⟨place, .text message⟩).shown)

end Problem

end Service
end PolicyStudio
