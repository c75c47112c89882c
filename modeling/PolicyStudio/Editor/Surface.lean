import PolicyStudio.Editor.Options
import PolicyStudio.Files.Tree

/-!
# Surfaces

A surface is what an editor is configured through: documents by address, and
options.  A document or an option that is set replaces the one before.

One surface keeps the configuration for an editor elsewhere.  The other writes it
into a directory; there an option can be taken over and yet fail to be written.
-/

namespace PolicyStudio
namespace Editor

open Files

/-- What an editor can be configured through. -/
class Surface (m : Type → Type) where
  setDocument : (address content : String) → m Unit
  setDiagnostics : Diagnostics → m Unit
  setChecking : Checking → m Unit

/-! ## A configuration that is handed on -/

/-- A configuration: documents in the order in which they were set first, and
options. -/
structure Configuration where
  documents : List (String × String)
  diagnostics : Option Diagnostics
  checking : Option Checking
deriving Repr, DecidableEq

namespace Configuration

/-- The configuration in which nothing is set. -/
def empty : Configuration := ⟨[], none, none⟩

/-- Documents after one was set. -/
def withDocument (address content : String) : List (String × String) → List (String × String)
  | [] => [(address, content)]
  | document :: rest =>
    if document.1 = address then (address, content) :: rest
    else document :: withDocument address content rest

/-- Set a document. -/
def setDocument (configuration : Configuration) (address content : String) : Configuration :=
  { configuration with documents := withDocument address content configuration.documents }

/-- A configuration as it is handed on. -/
def json (configuration : Configuration) : Json :=
  .object [("documents", .list (configuration.documents.map fun (address, content) =>
      .object [("uri", .text address), ("content", .text content)])),
    ("diagnostics", (configuration.diagnostics.map Diagnostics.json).getD .null),
    ("compiler", (configuration.checking.map Checking.json).getD .null)]

instance : Surface (StateM Configuration) where
  setDocument address content := modify (·.setDocument address content)
  setDiagnostics options := modify ({ · with diagnostics := some options })
  setChecking options := modify ({ · with checking := some options })

end Configuration

/-! ## A configuration in a directory -/

/-- A configuration in a directory: what was set last, and the files. -/
structure Workspace where
  root : Path
  diagnostics : Option Diagnostics
  checking : Option Checking
  files : Tree

/-- Why a workspace does not take a configuration. -/
inductive WorkspaceFault where
  | document (fault : DocumentFault)
  | file (fault : FileFault)
deriving Repr, DecidableEq

namespace Workspace

/-- A step on a workspace. -/
abbrev Step := EStateM WorkspaceFault Workspace

/-- A workspace in a directory of some files. -/
def start (root : Path) (files : Tree) : Workspace := ⟨root, none, none, files⟩

/-- The name of the settings file. -/
def settingsName : String := "pyrightconfig.json"

/-- What the settings file holds. -/
def settings (workspace : Workspace) : Except DocumentFault (List (String × Json)) :=
  settingsOf workspace.checking workspace.diagnostics

/-- Act on the files. -/
def act (action : Action Unit) : Step Unit := fun workspace =>
  match action workspace.files with
  | .ok _ files => .ok () { workspace with files }
  | .error fault files => .error (.file fault) { workspace with files }

/-- Go on with a result about documents. -/
def ofDocument {α : Type} : Except DocumentFault α → Step α
  | .ok value => return value
  | .error fault => throw (.document fault)

/-- Write a document into its file. -/
def setDocument (address content : String) : Step Unit := do
  let path := (← get).root.join (← ofDocument (placeOf address))
  act (Action.makeDirectories path.parent)
  act (Action.write path content.toUTF8)

/-- Write the settings file. -/
def writeSettings : Step Unit := do
  let root := (← get).root
  act (Action.makeDirectories root)
  let settings ← ofDocument (← get).settings
  let text := (Json.object settings).indented ++ "\n"
  act (Action.write (root.join (.read settingsName)) text.toUTF8)

/-- Take over which diagnostics are left out, and write the settings. -/
def setDiagnostics (options : Diagnostics) : Step Unit := do
  modify ({ · with diagnostics := some options })
  writeSettings

/-- Take over how programs are checked, and write the settings. -/
def setChecking (options : Checking) : Step Unit := do
  modify ({ · with checking := some options })
  writeSettings

instance : Surface Step where
  setDocument := setDocument
  setDiagnostics := setDiagnostics
  setChecking := setChecking

end Workspace

end Editor
end PolicyStudio
