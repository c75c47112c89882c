import PolicyStudio.Editor.Surface
import PolicyStudio.Proofs.Files.Below
import PolicyStudio.Proofs.Text.Cutting

/-!
# Where documents are written

The address of a document goes on from the beginning of all file addresses with the text
of a path.  The path has names that do not go up.  If the text does not begin with one
more slash, the path goes on from the directory of the workspace, and then all that
changes is below that directory.

With one more slash the path starts at the top, whatever the directory is.
-/

namespace PolicyStudio
namespace Editor

open Files

/-! ## Addresses -/

/-- The names that are read from a text are names of their own. -/
theorem names_of_read {text name : String} (listed : name ∈ (Path.read text).names) :
    name ≠ "" ∧ name ≠ "." ∧ '/' ∉ name.toList := by
  rcases List.mem_filter.mp listed with ⟨cut, kept⟩
  rcases List.mem_map.mp cut with ⟨piece, pieceCut, rfl⟩
  rw [Bool.and_eq_true, bne_iff_ne, bne_iff_ne] at kept
  rw [String.toList_ofList]
  exact ⟨kept.1, kept.2, Text.not_mem_of_mem_cutAt pieceCut⟩

/-- The path of a text starts at the top exactly if the text begins with a slash. -/
theorem isAbsolute_read {text : String} :
    (Path.read text).isAbsolute = true ↔ ∃ rest, text.toList = '/' :: rest := by
  rw [Path.isAbsolute, Path.read]
  dsimp only
  unfold Path.startOf
  split <;> simp_all

/-- What follows the beginning of all file addresses names the place. -/
theorem placeText?_append (text : String) : placeText? (fileScheme ++ text) = some text := by
  have starts : (fileScheme ++ text).startsWith fileScheme = true := by
    rw [String.startsWith_string_iff, String.toList_append]
    exact List.prefix_append _ _
  rw [placeText?, if_pos starts, String.toList_append, ← String.length_toList, List.drop_left,
    String.ofList_toList]

/-- The place that an address names is read from what follows the beginning of all file
addresses. -/
theorem placeOf_eq_ok {address : String} {path : Path} : placeOf address = .ok path ↔
    ∃ text, address = fileScheme ++ text ∧ path = .read text ∧ isPlace path = true := by
  constructor
  · intro placed
    by_cases starts : address.startsWith fileScheme = true
    · rcases String.startsWith_string_iff.mp starts with ⟨rest, spelled⟩
      have equal : address = fileScheme ++ String.ofList rest := by
        rw [← String.toList_inj, String.toList_append, String.toList_ofList, spelled]
      subst equal
      rw [placeOf, placeText?_append] at placed
      dsimp only at placed
      split at placed
      · next usable =>
        cases placed
        exact ⟨_, rfl, rfl, usable⟩
      · cases placed
    · rw [placeOf, placeText?, if_neg starts] at placed
      cases placed
  · rintro ⟨text, rfl, rfl, usable⟩
    rw [placeOf, placeText?_append]
    exact if_pos usable

/-! ## Workspaces -/

namespace Workspace

/-- The workspace after a document was set, or could not be set. -/
def afterDocument (workspace : Workspace) (address content : String) : Workspace :=
  match setDocument address content workspace with
  | .ok _ after => after
  | .error _ after => after

/-- Acting on files step by step is acting on them at once. -/
theorem act_bind (first second : Action Unit) :
    (act first >>= fun _ => act second) = act (first >>= fun _ => second) := by
  funext workspace
  change EStateM.bind (act first) (fun _ => act second) workspace = _
  rw [EStateM.bind]
  unfold act
  cases done : first workspace.files with
  | ok value files =>
    rw [Action.bind_of_ok _ done]
  | error fault files =>
    rw [Action.bind_of_error _ done]

/-- Acting on files succeeds if the action does, and changes nothing but the files. -/
theorem act_eq_ok {action : Action Unit} {workspace final : Workspace} :
    act action workspace = .ok () final ↔
      ∃ files, action workspace.files = .ok () files ∧ final = { workspace with files } := by
  unfold act
  cases action workspace.files with
  | ok value files =>
    constructor
    · intro done
      cases done
      exact ⟨files, rfl, rfl⟩
    · rintro ⟨files', equal, rfl⟩
      cases equal
      rfl
  | error fault files =>
    constructor
    · intro impossible
      cases impossible
    · rintro ⟨files', impossible, -⟩
      cases impossible

/-- What setting a document does to the files. -/
theorem setDocument_eq {address : String} {path : Path} (placed : placeOf address = .ok path)
    (content : String) (workspace : Workspace) :
    setDocument address content workspace = act (do
      Action.makeDirectories (workspace.root.join path).parent
      Action.write (workspace.root.join path) content.toUTF8) workspace := by
  rw [← act_bind, setDocument, placed]
  rfl

variable {address content : String} {path : Path} {workspace final : Workspace}

/-- A document that is placed by names is written below the root. -/
theorem setDocument_eq_writeUnder (placed : placeOf address = .ok path)
    (relative : path.isAbsolute = false) (content : String) (workspace : Workspace) :
    setDocument address content workspace =
      act (Action.writeUnder workspace.root path.names content.toUTF8) workspace := by
  have joined : workspace.root.join path = workspace.root.under path.names := by
    rw [Path.join, relative]
    rfl
  rw [setDocument_eq placed, joined]
  rfl

theorem afterDocument_eq (placed : placeOf address = .ok path)
    (relative : path.isAbsolute = false) (content : String) (workspace : Workspace) :
    workspace.afterDocument address content = { workspace with files :=
      (Action.writeUnder workspace.root path.names content.toUTF8).after workspace.files } := by
  rw [afterDocument, setDocument_eq_writeUnder placed relative, act, Action.after]
  cases Action.writeUnder workspace.root path.names content.toUTF8 workspace.files with
  | ok value files => rfl
  | error fault files => rfl

theorem files_of_setDocument (placed : placeOf address = .ok path)
    (relative : path.isAbsolute = false)
    (done : setDocument address content workspace = .ok () final) :
    Action.writeUnder workspace.root path.names content.toUTF8 workspace.files =
      .ok () final.files := by
  rw [setDocument_eq_writeUnder placed relative, act] at done
  cases result : Action.writeUnder workspace.root path.names content.toUTF8 workspace.files with
  | ok value files =>
    rw [result] at done
    cases done
    rfl
  | error fault files =>
    rw [result] at done
    cases done

end Workspace

/-- The place of a document has names that do not go up, and it starts at the top only if
the address goes on with one more slash.  If it does not, setting the document changes
nothing in the files but what is below the root of the workspace, and makes the directories
that lead to the root.  If it succeeds, the document is there. -/
theorem documents_stay_below_the_root {address : String} {path : Path}
    (placed : placeOf address = .ok path) :
    (∀ name ∈ path.names, name ≠ ".." ∧ name ≠ "." ∧ name ≠ "" ∧ '/' ∉ name.toList) ∧
    (path.isAbsolute = true ↔ "file:////".toList <+: address.toList) ∧
    (path.isAbsolute = false → path.names ≠ [] ∧
      ∀ (workspace : Workspace) (content : String),
        (workspace.afterDocument address content).root = workspace.root ∧
        Tree.ChangesBelow workspace.root path.names workspace.files
          (workspace.afterDocument address content).files ∧
        (∀ place location, workspace.files.Leads workspace.root place →
          workspace.files.lookup? place = some .directory →
          (workspace.afterDocument address content).files.lookup? location ≠
            workspace.files.lookup? location →
          ∃ below, below ≠ [] ∧ below <+: path.names ∧ location = place ++ below) ∧
        ∀ final, Workspace.setDocument address content workspace = .ok () final →
          ∃ place, final.files.Leads workspace.root place ∧
            final.files.lookup? (place ++ path.names) = some (.file content.toUTF8)) := by
  rcases placeOf_eq_ok.mp placed with ⟨text, spelled, read, usable⟩
  rw [isPlace, Bool.and_eq_true, Bool.or_eq_true, Bool.not_eq_true', Bool.not_eq_true'] at usable
  have level : Path.up ∉ path.names := by simpa using usable.2
  refine ⟨fun name listed => ?_, ?_, fun relative => ?_⟩
  · have proper := names_of_read (read ▸ listed)
    exact ⟨fun up => level (show ".." ∈ path.names from up ▸ listed), proper.2.1, proper.1, proper.2.2⟩
  · rw [read, isAbsolute_read, spelled, String.toList_append]
    have slashes : "file:////".toList = fileScheme.toList ++ ['/'] := by decide
    rw [slashes, List.prefix_append_right_inj]
    exact ⟨fun ⟨rest, equal⟩ => ⟨rest, equal.symm⟩, fun ⟨rest, equal⟩ => ⟨rest, equal.symm⟩⟩
  · have several : path.names ≠ [] := by
      rw [relative] at usable
      simpa using usable.1
    refine ⟨several, fun workspace content => ?_⟩
    have changes := Action.changesBelow_writeUnder workspace.root several level content.toUTF8
      workspace.files
    rw [Workspace.afterDocument_eq placed relative]
    refine ⟨rfl, changes, fun place location led there => changes.of_directory led there,
      fun final done => ?_⟩
    exact Action.lookup?_writeUnder level (Workspace.files_of_setDocument placed relative done)

/-- A workspace in a directory beside another one. -/
def sampleWorkspace : Workspace :=
  .start ⟨.top, ["work"]⟩ ⟨[(["work"], .directory), (["etc"], .directory)], []⟩

/-- A document of the workspace changes nothing outside of its directory. -/
theorem typings_stay_below_the_root :
    placeOf "file:///typings/x.pyi" = .ok ⟨.here, ["typings", "x.pyi"]⟩ ∧
      Tree.ChangesBelow ⟨.top, ["work"]⟩ ["typings", "x.pyi"] sampleWorkspace.files
        (sampleWorkspace.afterDocument "file:///typings/x.pyi" "x: int").files := by
  have placed : placeOf "file:///typings/x.pyi" = .ok ⟨.here, ["typings", "x.pyi"]⟩ :=
    placeOf_eq_ok.mpr ⟨"typings/x.pyi", rfl, rfl, rfl⟩
  have relative := (documents_stay_below_the_root placed).2.2 rfl
  exact ⟨placed, (relative.2 sampleWorkspace "x: int").2.1⟩

/-- With one more slash a document is written outside of the directory. -/
theorem absolute_document_is_written_elsewhere :
    placeOf "file:////etc/x" = .ok ⟨.top, ["etc", "x"]⟩ ∧
      sampleWorkspace.files.lookup? ["etc", "x"] = none ∧
      (sampleWorkspace.afterDocument "file:////etc/x" "y").files.lookup? ["etc", "x"] =
        some (.file "y".toUTF8) := by
  have placed : placeOf "file:////etc/x" = .ok ⟨.top, ["etc", "x"]⟩ :=
    placeOf_eq_ok.mpr ⟨"/etc/x", rfl, rfl, rfl⟩
  have parent : sampleWorkspace.files.locate ⟨.top, ["etc"]⟩ = .ok ["etc"] := by
    rw [Tree.locate, if_neg (by simp [Path.holdsNull, String.contains_char_eq]), if_neg (by decide)]
    rfl
  have whole : sampleWorkspace.files.locate ⟨.top, ["etc", "x"]⟩ = .ok ["etc", "x"] := by
    rw [Tree.locate, if_neg (by simp [Path.holdsNull, String.contains_char_eq]), if_neg (by decide)]
    rfl
  have present : Action.makeDirectory ⟨.top, ["etc"]⟩ sampleWorkspace.files =
      .error (.exists ⟨.top, ["etc"]⟩) sampleWorkspace.files := by
    rw [Action.makeDirectory, Action.ofTree_bind_of_ok _ parent]
    rfl
  have excused : sampleWorkspace.files.isDirectory ⟨.top, ["etc"]⟩ = true := by
    rw [Tree.isDirectory, Tree.find?, parent]
    rfl
  have ensured : Action.makeDirectories ⟨.top, ["etc"]⟩ sampleWorkspace.files =
      .ok () sampleWorkspace.files := by
    change EStateM.bind (Action.attempt (Action.makeDirectory _)) _ _ = _
    rw [EStateM.bind, Action.attempt, present]
    change (if sampleWorkspace.files.isDirectory _ = true then pure () else throw _ : Action Unit) _ = _
    rw [if_pos excused]
    rfl
  have written : Action.write ⟨.top, ["etc", "x"]⟩ "y".toUTF8 sampleWorkspace.files =
      .ok () (sampleWorkspace.files.put ["etc", "x"] (.file "y".toUTF8)) := by
    rw [Action.write, Action.ofTree_bind_of_ok _ whole]
    rfl
  have both : (do
      Action.makeDirectories (sampleWorkspace.root.join ⟨.top, ["etc", "x"]⟩).parent
      Action.write (sampleWorkspace.root.join ⟨.top, ["etc", "x"]⟩) "y".toUTF8 : Action Unit)
        sampleWorkspace.files = .ok () (sampleWorkspace.files.put ["etc", "x"] (.file "y".toUTF8)) :=
    (Action.bind_of_ok _ ensured).trans written
  refine ⟨placed, rfl, ?_⟩
  rw [Workspace.afterDocument, Workspace.setDocument_eq placed, Workspace.act, both]
  exact (Tree.lookup?_put _ _ (by decide) _).trans (if_pos rfl)

end Editor
end PolicyStudio
