import PolicyStudio.Editor.Document
import PolicyStudio.Form.Field
import PolicyStudio.Json.Basic

/-!
# Options of an editor

An editor can be told which diagnostics to leave out for one document, and how to
check a program.  Editors that work on files read both from one settings file;
what it holds follows from the options alone.
-/

namespace PolicyStudio
namespace Editor

/-- Which diagnostics are left out for a document. -/
structure Diagnostics where
  document : String
  noMeaning : Bool
  noForm : Bool
  noSuggestions : Bool
deriving Repr, DecidableEq

/-- All diagnostics are left out. -/
def Diagnostics.allDisabled (options : Diagnostics) : Bool :=
  options.noMeaning && options.noForm && options.noSuggestions

/-- No diagnostics for a document. -/
def Diagnostics.none (document : String) : Diagnostics :=
  ⟨document, true, true, true⟩

/-- Diagnostics from a form. -/
def Diagnostics.ofEntries (entries : Form.Entries) : Form.Checked Diagnostics :=
  Diagnostics.mk <$> entries.required "document_uri" Form.Reader.text
    <*> entries.standing "no_semantic_validation" false Form.Reader.truth
    <*> entries.standing "no_syntax_validation" false Form.Reader.truth
    <*> entries.standing "no_suggestion_diagnostics" false Form.Reader.truth

/-- Diagnostics as they are handed on. -/
def Diagnostics.json (options : Diagnostics) : Json :=
  .object [("document_uri", .text options.document),
    ("no_semantic_validation", .truth options.noMeaning),
    ("no_syntax_validation", .truth options.noForm),
    ("no_suggestion_diagnostics", .truth options.noSuggestions)]

/-- How programs are checked. -/
structure Checking where
  languageVersion : String
  /-- Where declarations are looked for first. -/
  declarations : String
  readsLibraries : Bool
  writesNothing : Bool
deriving Repr, DecidableEq

/-- How programs are checked for a version of the language, if nothing else is
said. -/
def Checking.standard (languageVersion : String) : Checking :=
  ⟨languageVersion, "typings", true, true⟩

/-- How programs are checked, from a form. -/
def Checking.ofEntries (entries : Form.Entries) : Form.Checked Checking :=
  Checking.mk <$> entries.required "python_version" Form.Reader.text
    <*> entries.standing "stub_path" "typings" Form.Reader.text
    <*> entries.standing "use_library_code_for_types" true Form.Reader.truth
    <*> entries.standing "no_emit" true Form.Reader.truth

/-- How programs are checked, as it is handed on. -/
def Checking.json (options : Checking) : Json :=
  .object [("python_version", .text options.languageVersion),
    ("stub_path", .text options.declarations),
    ("use_library_code_for_types", .truth options.readsLibraries),
    ("no_emit", .truth options.writesNothing)]

/-- The settings for how programs are checked. -/
def Checking.settings (options : Checking) : List (String × Json) :=
  [("pythonVersion", .text options.languageVersion),
    ("stubPath", .text options.declarations),
    ("useLibraryCodeForTypes", .truth options.readsLibraries)]

/-- The settings for which diagnostics are left out.  The document has to have a
place, whether it is named or not. -/
def Diagnostics.settings (options : Diagnostics) :
    Except DocumentFault (List (String × Json)) := do
  let place ← placeOf options.document
  let relaxed := if options.noMeaning then
    [("typeCheckingMode", .text "off"), ("reportUndefinedVariable", .text "none")] else []
  let ignored := if options.allDisabled then
    [("ignore", .list [.text place.text])] else []
  return relaxed ++ ignored

/-- All settings for an editor that works on files. -/
def settingsOf (checking : Option Checking) (diagnostics : Option Diagnostics) :
    Except DocumentFault (List (String × Json)) := do
  let checked := (checking.map Checking.settings).getD []
  match diagnostics with
  | none => return checked
  | some options => return checked ++ (← options.settings)

end Editor
end PolicyStudio
