import PolicyStudio.Policy.Error

/-!
# Values of the request

A policy compares columns with what is known about the request: the identity of
the authenticated subject, the claims of its token, the settings made for the
session, and the database role.
-/

namespace PolicyStudio
namespace Policy

open Sql

/-- A value of the request, given by its text. -/
structure ContextValue where
  sql : String
deriving Repr, DecidableEq

namespace ContextValue

/-- The value as an operand. -/
def operand (value : ContextValue) : Operand :=
  .context value.sql

/-- The identity of the authenticated subject. -/
def subject : ContextValue := ⟨"auth.uid()"⟩

/-- The role of the authenticated subject. -/
def subjectRole : ContextValue := ⟨"auth.role()"⟩

/-- The whole token. -/
def token : ContextValue := ⟨"auth.jwt()"⟩

/-- One claim of the token, as text. -/
def claim (name : String) : Built ContextValue :=
  if name = "" then .error (.claimEmpty (Text.quoted name))
  else .ok ⟨"(auth.jwt() ->> " ++ literal name ++ ")"⟩

/-- Check the key of a setting: a qualified name of at least two parts. -/
def settingKey (key : String) : Built QualifiedName := do
  let name ← qualifiedName "session key" key
  if name.isNamespaced then return name else throw (.settingNotNamespaced key)

/-- A setting of the session under a checked key, cast unless it is a text. -/
def settingOf (key : QualifiedName) (type : SettingType) : ContextValue :=
  let value := "current_setting(" ++ literal key.text ++ ", true)"
  ⟨match type with
  | .text => value
  | type => value ++ "::" ++ type.name⟩

/-- A setting of the session. -/
def setting (key type : String) : Built ContextValue := do
  let key ← settingKey key
  match SettingType.ofName? type with
  | some type => return settingOf key type
  | none => throw (.settingTypeUnknown (Text.quoted type))

/-- The role of the database that runs the statement. -/
def currentUser : ContextValue := ⟨"current_user"⟩

end ContextValue

end Policy
end PolicyStudio
