import PolicyStudio.Editor.CommandLine

/-!
# The command

The command line for snapshots, run on the files of the machine: what its paths
lead to is looked up first, and what changed is written back.
-/

namespace PolicyStudio
namespace Main

open Files Editor

/-- The names in the text of a path. -/
def namesIn (text : String) : Location := (Path.read text).names

/-- The place that each part of a path leads to, as far as names tell. -/
def placesOf (workplace : Location) (path : Path) : List Location :=
  let start := if path.isAbsolute then [] else workplace
  let step (places : List Location × Location) (name : String) : List Location × Location :=
    let place := if name = Path.up then places.2.dropLast else places.2 ++ [name]
    (places.1 ++ [place], place)
  (path.names.foldl step ([], start)).1

/-- The text of a place. -/
def placeText (place : Location) : String := "/" ++ "/".intercalate place

/-- What is at a place on the machine. -/
def entryAt (place : Location) : IO (Option Entry) := do
  let path := (← IO.currentDir) / placeText place
  if ← path.isDir then return some .directory
  if ← path.pathExists then return some (.file (← IO.FS.readBinFile path))
  return none

/-- The files that a request is about. -/
def filesFor (request : CommandLine.Request) : IO Tree := do
  let workplace := namesIn (← IO.currentDir).toString
  let target := (request.output.map Path.read).getD Snapshot.standardTarget
  let bundle := (request.bundle.map Path.read).getD Snapshot.standardBundle
  let start := (Tree.mk [] workplace).plant workplace .directory
  (placesOf workplace target ++ placesOf workplace bundle).foldlM (fun tree place => do
    match ← entryAt place with
    | some entry => return tree.put place entry
    | none => return tree) start

/-- Write back what changed. -/
def writeBack (before after : Tree) : IO Unit :=
  after.entries.forM fun (place, entry) =>
    if before.lookup? place = some entry then pure ()
    else match entry with
      | .directory => IO.FS.createDir (placeText place)
      | .file content => IO.FS.writeBinFile (placeText place) content

end Main
end PolicyStudio

open PolicyStudio Files Editor in
/-- Run the command. -/
def main (words : List String) : IO UInt32 := do
  let before ← match CommandLine.read words with
    | .request request => Main.filesFor request
    | _ => pure ⟨[], []⟩
  let (outcome, after) := CommandLine.run (some languageDeclarations) words before
  Main.writeBack before after
  IO.print outcome.printed
  IO.eprint outcome.reported
  return outcome.status.toUInt32
