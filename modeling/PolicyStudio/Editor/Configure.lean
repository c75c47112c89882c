import PolicyStudio.Editor.Surface
import PolicyStudio.Registry

/-!
# Configuring an editor

An editor is made to know what programs know: it gets the declarations of the
policy language, and a document that declares every name of a registry by the
declaration of the same name.  Diagnostics are turned off for the program,
because it is the body of a function and no file of its own.
-/

namespace PolicyStudio
namespace Editor

/-- The module that declares the policy language. -/
def languageModule : String := "rls_playground.dsl"

/-- The declaration of a name. -/
def globalLine (name : String) : String :=
  name ++ ": Final = RLS." ++ name

/-- What stands before the declarations of names. -/
def globalHeader (module : String) : List String :=
  ["# Names available to playground programs without imports",
    "from typing import Final",
    "",
    "import " ++ module ++ " as RLS",
    ""]

/-- A document that declares names by a module. -/
def globalDeclarations (names : List String) (module : String) : String :=
  "\n".intercalate (globalHeader module ++ names.map globalLine) ++ "\n"

/-- The version of the language in force: an empty one of its own is none. -/
def versionOf (own : Option String) (setting : String) : String :=
  match own with
  | some version => if version.isEmpty then setting else version
  | none => setting

/-- Configure an editor for a registry, given the declarations of the policy
language and the version of the language of programs. -/
def configure {m : Type → Type} [Monad m] [Surface m] (registry : Registry)
    (declarations languageVersion : String) : m Unit := do
  Surface.setDocument typesAddress declarations
  Surface.setDocument globalsAddress (globalDeclarations registry.names languageModule)
  Surface.setDiagnostics (.none snippetAddress)
  Surface.setChecking (.standard languageVersion)

end Editor
end PolicyStudio
