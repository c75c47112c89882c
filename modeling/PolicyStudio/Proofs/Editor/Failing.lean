import PolicyStudio.Proofs.Editor.Documents
import PolicyStudio.Proofs.Files.Finding

/-!
# Calls that fail

A workspace is told a document or an option at a time.  Each call comes to one file: the
directories that lead to it are made, the text for it is found, and it is written.  A call can
fail at each of these steps, and before the first one if the address of a document names no
place.

Then no file has changed.  What may be left are directories that were made on the way, and an
option is taken over before the settings are found and written.  If the option is refused, all
that reads the options is refused as well until it is set again.
-/

namespace PolicyStudio
namespace Editor

open Files

namespace Workspace

/-- What a settings file holds. -/
def settingsFile (settings : List (String × Json)) : String :=
  (Json.object settings).indented ++ "\n"

/-- What a workspace can be told. -/
inductive Call where
  | document (address content : String)
  | diagnostics (options : Diagnostics)
  | checking (options : Checking)

namespace Call

/-- Tell it. -/
def apply : Call → Step Unit
  | .document address content => setDocument address content
  | .diagnostics options => setDiagnostics options
  | .checking options => setChecking options

/-- The file of a call, below a root. -/
def target (root : Path) : Call → Except DocumentFault Path
  | .document address _ => (placeOf address).map root.join
  | .diagnostics _ | .checking _ => .ok (root.under [settingsName])

/-- The options that are taken over, before anything else is done. -/
def taken : Call → Workspace → Workspace
  | .document _ _, workspace => workspace
  | .diagnostics options, workspace => { workspace with diagnostics := some options }
  | .checking options, workspace => { workspace with checking := some options }

@[simp] theorem root_taken (call : Call) (workspace : Workspace) :
    (call.taken workspace).root = workspace.root := by
  cases call <;> rfl

@[simp] theorem files_taken (call : Call) (workspace : Workspace) :
    (call.taken workspace).files = workspace.files := by
  cases call <;> rfl

/-- What the file of a call is to hold. -/
def text (workspace : Workspace) : Call → Except DocumentFault String
  | .document _ content => .ok content
  | call => (call.taken workspace).settings.map settingsFile

/-- Both calls set the same option. -/
inductive SetSame : Call → Call → Prop
  | diagnostics (options others : Diagnostics) :
    SetSame (.diagnostics options) (.diagnostics others)
  | checking (options others : Checking) : SetSame (.checking options) (.checking others)

end Call

/-- Write a text into a file, if both are found. -/
def writeText (target : Except DocumentFault Path) (text : Except DocumentFault String) :
    Step Unit := do
  let file ← ofDocument target
  act (Action.makeDirectories file.parent)
  let text ← ofDocument text
  act (Action.write file text.toUTF8)

variable {workspace after : Workspace} {call : Call} {fault : WorkspaceFault}

/-- A text that is found is written into its file at once. -/
theorem writeText_eq_act (file : Path) (held : String) (workspace : Workspace) :
    writeText (.ok file) (.ok held) workspace = act (do
      Action.makeDirectories file.parent
      Action.write file held.toUTF8) workspace := by
  rw [← act_bind]
  rfl

theorem parent_under_settingsName (root : Path) : (root.under [settingsName]).parent = root := by
  rw [Path.parent, Path.under]
  dsimp only
  rw [List.dropLast_concat]

/-- Writing the settings is writing a text. -/
theorem writeSettings_eq_writeText (workspace : Workspace) :
    writeSettings workspace = writeText (.ok (workspace.root.under [settingsName]))
      (workspace.settings.map settingsFile) workspace := by
  change EStateM.bind (act (Action.makeDirectories workspace.root)) _ workspace =
    EStateM.bind (act (Action.makeDirectories (workspace.root.under [settingsName]).parent)) _
      workspace
  rw [parent_under_settingsName, EStateM.bind, EStateM.bind, act]
  cases Action.makeDirectories workspace.root workspace.files with
  | error fault files => rfl
  | ok value files =>
    change (ofDocument workspace.settings >>= fun settings => act _) { workspace with files } =
      (ofDocument (workspace.settings.map settingsFile) >>= fun text => act _)
        { workspace with files }
    cases workspace.settings with
    | error refusal => rfl
    | ok settings => rfl

/-- Every call writes its text into its file. -/
theorem Call.apply_eq (call : Call) (workspace : Workspace) : call.apply workspace =
    writeText (call.target workspace.root) (call.text workspace) (call.taken workspace) := by
  cases call with
  | document address content =>
    rw [apply, target, text, taken]
    cases placed : placeOf address with
    | error refusal =>
      rw [setDocument, placed]
      rfl
    | ok path =>
      rw [setDocument_eq placed]
      exact (writeText_eq_act _ _ _).symm
  | diagnostics options => exact writeSettings_eq_writeText _
  | checking options => exact writeSettings_eq_writeText _

/-! ## What becomes of a call -/

variable {target : Except DocumentFault Path} {text : Except DocumentFault String}

/-- A text is written into a file that is found once the directories are made. -/
theorem writeText_of_target (file : Path) (text : Except DocumentFault String)
    (workspace : Workspace) : writeText (.ok file) text workspace =
      match Action.makeDirectories file.parent workspace.files with
      | .error cause files => .error (.file cause) { workspace with files }
      | .ok _ files => match text with
        | .error refusal => .error (.document refusal) { workspace with files }
        | .ok written => act (Action.write file written.toUTF8) { workspace with files } := by
  change EStateM.bind (act (Action.makeDirectories file.parent)) _ workspace = _
  rw [EStateM.bind, act]
  cases Action.makeDirectories file.parent workspace.files with
  | error cause files => rfl
  | ok value files =>
    cases text with
    | error refusal => rfl
    | ok written => rfl

/-- Directories were made on the way to a file, if there was need of any. -/
structure Prepared (file : Path) (before after : Tree) : Prop where
  grows : Tree.Grows file.parent.OnTheWay before after
  eq_of_there : before.isDirectory file.parent = true → after = before

theorem prepared_makeDirectories (file : Path) (tree : Tree) :
    Prepared file tree (Action.after (Action.makeDirectories file.parent) tree) where
  grows := Action.grows_makeDirectories file.parent tree
  eq_of_there there := by rw [Action.after, Action.makeDirectories_of_isDirectory there]

/-- What becomes of a text that is to be written: its file is not found, or the files do not
allow it, or it is not found itself, or it is written. -/
inductive Course (target : Except DocumentFault Path) (text : Except DocumentFault String)
    (workspace : Workspace) : EStateM.Result WorkspaceFault Workspace Unit → Prop
  | nowhere {refusal : DocumentFault} (notFound : target = .error refusal) :
    Course target text workspace (.error (.document refusal) workspace)
  | unwritten {file : Path} {files : Tree} (cause : FileFault) (found : target = .ok file)
    (prepared : Prepared file workspace.files files) :
    Course target text workspace (.error (.file cause) { workspace with files })
  | refused {file : Path} {files : Tree} {refusal : DocumentFault} (found : target = .ok file)
    (prepared : Prepared file workspace.files files)
    (directory : files.isDirectory file.parent = true) (noText : text = .error refusal) :
    Course target text workspace (.error (.document refusal) { workspace with files })
  | written {file : Path} {files : Tree} {place : Location} {held : String}
    (found : target = .ok file) (prepared : Prepared file workspace.files files)
    (free : files.lookup? place ≠ some .directory) (given : text = .ok held) :
    Course target text workspace
      (.ok () { workspace with files := files.put place (.file held.toUTF8) })

theorem course_writeText (target : Except DocumentFault Path) (text : Except DocumentFault String)
    (workspace : Workspace) : Course target text workspace (writeText target text workspace) := by
  cases target with
  | error refusal => exact .nowhere rfl
  | ok file =>
    rw [writeText_of_target]
    have prepared := prepared_makeDirectories file workspace.files
    rw [Action.after] at prepared
    cases made : Action.makeDirectories file.parent workspace.files with
    | error cause files =>
      rw [made] at prepared
      exact .unwritten cause rfl prepared
    | ok value files =>
      rw [made] at prepared
      cases text with
      | error refusal =>
        exact .refused rfl prepared (Action.isDirectory_of_makeDirectories made) rfl
      | ok held =>
        dsimp only
        rw [act]
        rcases Action.write_cases file held.toUTF8 files with
          ⟨cause, unwritten⟩ | ⟨place, -, free, done⟩
        · rw [unwritten]
          exact .unwritten cause rfl prepared
        · rw [done]
          exact .written rfl prepared free rfl

theorem Call.course (call : Call) (workspace : Workspace) :
    Course (call.target workspace.root) (call.text workspace) (call.taken workspace)
      (call.apply workspace) := by
  rw [apply_eq]
  exact course_writeText _ _ _

/-- If the directory is there and the file can be, a call succeeds that has a text. -/
theorem Call.apply_of_there {file : Path} {place : Location} {held : String}
    (found : call.target workspace.root = .ok file) (given : call.text workspace = .ok held)
    (there : workspace.files.isDirectory file.parent = true)
    (located : workspace.files.locate file = .ok place)
    (free : workspace.files.lookup? place ≠ some .directory) :
    call.apply workspace = .ok () { call.taken workspace with
      files := workspace.files.put place (.file held.toUTF8) } := by
  rw [apply_eq, found, given, writeText_of_target, files_taken,
    Action.makeDirectories_of_isDirectory there]
  exact act_eq_ok.mpr ⟨_, Action.write_of_free located free _, rfl⟩

/-! ## States that are reached -/

/-- A workspace after calls that all succeeded. -/
inductive Reached (root : Path) (files : Tree) : Workspace → Prop
  | start : Reached root files (.start root files)
  | step {workspace next : Workspace} {call : Call} (before : Reached root files workspace)
    (done : call.apply workspace = .ok () next) : Reached root files next

/-- The settings hang on the place of the document whose diagnostics are left out. -/
theorem settings_eq_error {refusal : DocumentFault} : workspace.settings = .error refusal ↔
    ∃ options, workspace.diagnostics = some options ∧ placeOf options.document = .error refusal := by
  rw [settings]
  cases workspace.diagnostics with
  | none =>
    rw [settingsOf]
    constructor
    · intro impossible
      cases impossible
    · rintro ⟨options, impossible, -⟩
      cases impossible
  | some options =>
    rw [settingsOf, Diagnostics.settings]
    cases placed : placeOf options.document with
    | error fault =>
      constructor
      · intro refused
        cases refused
        exact ⟨options, rfl, placed⟩
      · rintro ⟨options', same, refused⟩
        cases same
        cases placed.symm.trans refused
        rfl
    | ok path =>
      constructor
      · intro impossible
        cases impossible
      · rintro ⟨options', same, refused⟩
        cases same
        cases placed.symm.trans refused

/-- In a state that is reached the settings can be found: options that have none are not
accepted. -/
theorem Reached.exists_settings {root : Path} {files : Tree}
    (reached : Reached root files workspace) : ∃ settings, workspace.settings = .ok settings := by
  induction reached with
  | start => exact ⟨[], rfl⟩
  | @step workspace next call before done inductionHypothesis =>
    have course := call.course workspace
    rw [done] at course
    cases course with
    | written found prepared free given =>
      cases call with
      | document address content => exact inductionHypothesis
      | diagnostics options | checking options =>
        rcases Outcome.map_eq_ok.mp given with ⟨settings, settled, -⟩
        exact ⟨settings, settled⟩

/-! ## Later calls -/

/-- The fault of a call, if it fails, and the workspace after it. -/
def Call.outcome (call : Call) (workspace : Workspace) : Option WorkspaceFault × Workspace :=
  match call.apply workspace with
  | .ok _ next => (none, next)
  | .error fault next => (some fault, next)

/-- Besides its option a call changes nothing but files, and all directories are kept. -/
theorem Call.outcome_eq (call : Call) (workspace : Workspace) :
    ∃ files, Tree.Keeps workspace.files files ∧
      (call.outcome workspace).2 = { call.taken workspace with files } := by
  have course := call.course workspace
  have same := call.files_taken workspace
  rw [outcome]
  cases result : call.apply workspace with
  | error fault after =>
    rw [result] at course
    cases course with
    | nowhere notFound => exact ⟨_, same ▸ .refl _, rfl⟩
    | unwritten cause found prepared => exact ⟨_, same ▸ prepared.grows.toKeeps, rfl⟩
    | refused found prepared directory noText => exact ⟨_, same ▸ prepared.grows.toKeeps, rfl⟩
  | ok value after =>
    rw [result] at course
    cases course with
    | written found prepared free given =>
      exact ⟨_, same ▸ prepared.grows.toKeeps.trans (.put _ free), rfl⟩

/-- What becomes of calls, one after the other, and the workspace in the end. -/
def run : List Call → Workspace → List (Option WorkspaceFault) × Workspace
  | [], workspace => ([], workspace)
  | call :: rest, workspace =>
    ((call.outcome workspace).1 :: (run rest (call.outcome workspace).2).1,
      (run rest (call.outcome workspace).2).2)

/-- Acting on files does not look at the options. -/
theorem act_taken (call : Call) (action : Action Unit) (workspace : Workspace) :
    act action (call.taken workspace) = match act action workspace with
      | .ok _ next => .ok () (call.taken next)
      | .error fault next => .error fault (call.taken next) := by
  rw [act, act, Call.files_taken]
  cases action workspace.files with
  | ok value files => cases call <;> rfl
  | error cause files => cases call <;> rfl

/-- Nor does setting a document. -/
theorem outcome_document_taken (call : Call) (address content : String) (workspace : Workspace) :
    (Call.document address content).outcome (call.taken workspace) =
      (((Call.document address content).outcome workspace).1,
        call.taken ((Call.document address content).outcome workspace).2) := by
  rw [Call.outcome, Call.outcome, Call.apply]
  cases placed : placeOf address with
  | error refusal =>
    rw [setDocument, placed]
    rfl
  | ok path =>
    rw [setDocument_eq placed, setDocument_eq placed, Call.root_taken, act_taken]
    cases act _ workspace <;> rfl

/-- What is set again counts, whatever was set before. -/
theorem Call.SetSame.outcome_taken {again : Call} (same : SetSame call again)
    (workspace : Workspace) : again.outcome (call.taken workspace) = again.outcome workspace := by
  cases same with
  | diagnostics options others => rfl
  | checking options others => rfl

/-- An option that is set again is of no importance for later calls, as long as only documents are
set in between. -/
theorem run_taken {again : Call} (same : Call.SetSame call again) (rest : List Call)
    (documents : List (String × String)) (workspace : Workspace) :
    run (documents.map (fun entry => .document entry.1 entry.2) ++ again :: rest)
        (call.taken workspace) =
      run (documents.map (fun entry => .document entry.1 entry.2) ++ again :: rest) workspace := by
  induction documents generalizing workspace with
  | nil => rw [List.map_nil, List.nil_append, run, run, same.outcome_taken]
  | cons document documents inductionHypothesis =>
    rw [List.map_cons, List.cons_append, run, run, outcome_document_taken, inductionHypothesis]

/-! ## Refused options -/

/-- An option is refused if its settings are, once their directory is there. -/
theorem apply_of_settings_eq_error {refusal : DocumentFault}
    (option : call.target workspace.root = .ok (workspace.root.under [settingsName]))
    (refused : call.text workspace = .error refusal)
    (directory : workspace.files.isDirectory workspace.root = true) :
    call.apply workspace = .error (.document refusal) (call.taken workspace) := by
  rw [Call.apply_eq, option, refused, writeText_of_target, parent_under_settingsName,
    Call.files_taken, Action.makeDirectories_of_isDirectory directory, ← call.files_taken]

/-- The settings are refused, and not for want of a directory. -/
structure Refuses (refusal : DocumentFault) (workspace : Workspace) : Prop where
  options : ∃ options, workspace.diagnostics = some options ∧
    placeOf options.document = .error refusal
  directory : workspace.files.isDirectory workspace.root = true

namespace Refuses

variable {refusal : DocumentFault}

theorem outcome_checking (refuses : Refuses refusal workspace) (options : Checking) :
    (Call.checking options).outcome workspace =
      (some (.document refusal), { workspace with checking := some options }) := by
  have refused : ((Call.checking options).taken workspace).settings = .error refusal :=
    settings_eq_error.mpr refuses.options
  have noText : (Call.checking options).text workspace = .error refusal :=
    Outcome.map_eq_error.mpr refused
  rw [Call.outcome, apply_of_settings_eq_error rfl noText refuses.directory]
  rfl

/-- No call helps but one that sets the diagnostics again. -/
theorem outcome (refuses : Refuses refusal workspace)
    (other : ∀ options, call ≠ .diagnostics options) :
    Refuses refusal (call.outcome workspace).2 := by
  rcases call.outcome_eq workspace with ⟨files, keeps, equal⟩
  rw [equal]
  cases call with
  | diagnostics options => exact absurd rfl (other options)
  | document _ _ | checking _ => exact ⟨refuses.options, keeps.isDirectory refuses.directory⟩

/-- So all later calls that set how programs are checked are refused. -/
theorem run_checking (refuses : Refuses refusal workspace) {rest : List Call} {index : Nat}
    {options : Checking} (other : ∀ options, .diagnostics options ∉ rest)
    (there : rest[index]? = some (.checking options)) :
    (run rest workspace).1[index]? = some (some (.document refusal)) := by
  induction rest generalizing workspace index with
  | nil => cases there
  | cons call rest inductionHypothesis =>
    rw [run]
    cases index with
    | zero =>
      cases there
      rw [List.getElem?_cons_zero, refuses.outcome_checking]
    | succ index =>
      have here : ∀ options, call ≠ .diagnostics options := fun options equal =>
        other options (equal ▸ List.mem_cons_self)
      have further : ∀ options, .diagnostics options ∉ rest := fun options member =>
        other options (List.mem_cons_of_mem _ member)
      exact inductionHypothesis (refuses.outcome here) further there

end Refuses

/-! ## What a call leaves that fails -/

/-- Its option, and directories on the way to its file, if that is found. -/
theorem eq_of_apply_eq_error (failed : call.apply workspace = .error fault after) :
    after = { call.taken workspace with files := after.files } ∧
    (after.files = workspace.files ∨
      ∃ file, call.target workspace.root = .ok file ∧ Prepared file workspace.files after.files) := by
  have course := call.course workspace
  have held := call.files_taken workspace
  rw [failed] at course
  cases course with
  | nowhere notFound => exact ⟨rfl, Or.inl held⟩
  | unwritten cause found prepared => exact ⟨rfl, Or.inr ⟨_, found, held ▸ prepared⟩⟩
  | refused found prepared directory noText => exact ⟨rfl, Or.inr ⟨_, found, held ▸ prepared⟩⟩

/-- If its directory is there, nothing is made. -/
theorem eq_taken_of_apply_eq_error (failed : call.apply workspace = .error fault after)
    (there : ∀ file, call.target workspace.root = .ok file →
      workspace.files.isDirectory file.parent = true) : after = call.taken workspace := by
  rcases eq_of_apply_eq_error failed with ⟨rest, same⟩
  have files : after.files = (call.taken workspace).files := by
    rw [Call.files_taken]
    rcases same with same | ⟨file, found, prepared⟩
    · exact same
    · exact prepared.eq_of_there (there file found)
  rw [rest, files]

/-- In a state that is reached only a document without a place is refused. -/
theorem refuses_of_apply_eq_error {root : Path} {files : Tree} {refusal : DocumentFault}
    (reached : Reached root files workspace)
    (failed : call.apply workspace = .error (.document refusal) after) :
    (∃ address content, call = .document address content ∧ placeOf address = .error refusal ∧
      after = workspace) ∨
    ∃ options, call = .diagnostics options ∧ placeOf options.document = .error refusal ∧
      Refuses refusal after := by
  have course := call.course workspace
  rw [failed] at course
  cases course with
  | nowhere notFound =>
    cases call with
    | document address content =>
      exact Or.inl ⟨address, content, rfl, Outcome.map_eq_error.mp notFound, rfl⟩
    | diagnostics options | checking options => cases notFound
  | @refused file files refusal found prepared directory noText =>
    cases call with
    | document address content => cases noText
    | diagnostics options =>
      cases found
      rw [parent_under_settingsName] at directory
      rcases settings_eq_error.mp (Outcome.map_eq_error.mp noText) with ⟨options', same, noPlace⟩
      cases same
      exact Or.inr ⟨options, rfl, noPlace, ⟨options, rfl, noPlace⟩, directory⟩
    | checking options =>
      -- The diagnostics that are set have been accepted with settings of their own.
      rcases reached.exists_settings with ⟨settings, settled⟩
      have noSettings : ((Call.checking options).taken workspace).settings = .error refusal :=
        Outcome.map_eq_error.mp noText
      rcases settings_eq_error.mp noSettings with ⟨earlier, given, noPlace⟩
      cases settled.symm.trans (settings_eq_error.mpr ⟨earlier, given, noPlace⟩)

end Workspace

open Workspace

/-- A call that fails changes no file.

What it takes over is the option it was to set.  Where files have changed, there is a directory
now where nothing was, and it is on the way to the file of the call.  If the directory of this
file was there before, then all that is left is the option, and it is of no importance for later
calls once it is set again.

If the call is refused, its document has no place; or the option that was to be set names a
document that has none, and then all later calls that set how programs are checked are refused
for it, until the diagnostics are set again. -/
theorem failed_calls_change_no_files {root : Path} {files : Tree} {workspace after : Workspace}
    {call : Call} {fault : WorkspaceFault} (reached : Reached root files workspace)
    (failed : call.apply workspace = .error fault after) :
    after = { call.taken workspace with files := after.files } ∧
    (∀ location content, after.files.lookup? location = some (.file content) ↔
      workspace.files.lookup? location = some (.file content)) ∧
    (∀ location, after.files.lookup? location ≠ workspace.files.lookup? location →
      workspace.files.lookup? location = none ∧ after.files.lookup? location = some .directory ∧
      ∃ file path, call.target workspace.root = .ok file ∧ file.parent.OnTheWay path ∧
        after.files.Leads path location) ∧
    ((∀ file, call.target workspace.root = .ok file →
        workspace.files.isDirectory file.parent = true) →
      after = call.taken workspace ∧
      ∀ again, Call.SetSame call again → ∀ (documents : List (String × String)) (rest : List Call),
        run (documents.map (fun entry => .document entry.1 entry.2) ++ again :: rest) after =
          run (documents.map (fun entry => .document entry.1 entry.2) ++ again :: rest) workspace) ∧
    ∀ refusal, fault = .document refusal →
      (∃ address content, call = .document address content ∧ placeOf address = .error refusal ∧
        after = workspace) ∨
      ∃ options, call = .diagnostics options ∧ placeOf options.document = .error refusal ∧
        ∀ rest, (∀ options, .diagnostics options ∉ rest) →
          ∀ (index : Nat) (options : Checking), rest[index]? = some (.checking options) →
            (run rest after).1[index]? = some (some (.document refusal)) := by
  rcases eq_of_apply_eq_error failed with ⟨rest, same⟩
  refine ⟨rest, fun location content => ?_, fun location changed => ?_, fun there => ?_,
    fun refusal refused => ?_⟩
  · rcases same with same | ⟨file, found, prepared⟩
    · rw [same]
    · exact prepared.grows.lookup?_eq_file_iff location content
  · rcases same with same | ⟨file, found, prepared⟩
    · exact absurd (by rw [same]) changed
    · rcases prepared.grows.changed location changed with ⟨absent, made, path, onTheWay, led⟩
      exact ⟨absent, made, file, path, found, onTheWay, led⟩
  · have taken := eq_taken_of_apply_eq_error failed there
    refine ⟨taken, fun again sameOption documents later => ?_⟩
    rw [taken, run_taken sameOption]
  · subst refused
    rcases refuses_of_apply_eq_error reached failed with noPlace | ⟨options, given, noPlace, refuses⟩
    · exact Or.inl noPlace
    · exact Or.inr ⟨options, given, noPlace, fun later other index options there =>
        refuses.run_checking other there⟩

/-- Diagnostics of a document that has no place. -/
def strayDiagnostics : Diagnostics := ⟨"http://x", false, false, false⟩

theorem isDirectory_sampleWorkspace :
    sampleWorkspace.files.isDirectory sampleWorkspace.root = true := by
  refine Tree.isDirectory_iff.mpr ⟨["work"], ?_, rfl⟩
  rw [Tree.locate, if_neg, if_neg (by decide)]
  · rfl
  · simp [sampleWorkspace, start, Path.holdsNull, String.contains_char_eq]

theorem placeOf_strayDiagnostics :
    placeOf strayDiagnostics.document = .error (.foreign "http://x") := by
  rw [placeOf, placeText?, if_neg (by rw [String.startsWith_string_iff]; decide)]
  rfl

theorem apply_strayDiagnostics : (Call.diagnostics strayDiagnostics).apply sampleWorkspace =
    .error (.document (.foreign "http://x"))
      { sampleWorkspace with diagnostics := some strayDiagnostics } := by
  have refused : ((Call.diagnostics strayDiagnostics).taken sampleWorkspace).settings =
      .error (.foreign "http://x") :=
    settings_eq_error.mpr ⟨strayDiagnostics, rfl, placeOf_strayDiagnostics⟩
  exact apply_of_settings_eq_error rfl (Outcome.map_eq_error.mpr refused) isDirectory_sampleWorkspace

/-- Diagnostics of a document that has no place change no file, but they are of importance for
later calls. -/
theorem stray_diagnostics_change_no_files :
    Reached sampleWorkspace.root sampleWorkspace.files sampleWorkspace ∧
    ∃ after, (Call.diagnostics strayDiagnostics).apply sampleWorkspace =
        .error (.document (.foreign "http://x")) after ∧
      ∀ location content, after.files.lookup? location = some (.file content) ↔
        sampleWorkspace.files.lookup? location = some (.file content) := by
  have reached : Reached sampleWorkspace.root sampleWorkspace.files sampleWorkspace := .start
  exact ⟨reached, _, apply_strayDiagnostics,
    (failed_calls_change_no_files reached apply_strayDiagnostics).2.1⟩

/-- Diagnostics that are refused are kept, and a later call is refused for them that would have
succeeded without. -/
theorem refused_diagnostics_are_kept :
    Reached sampleWorkspace.root sampleWorkspace.files sampleWorkspace ∧
    ∃ after, (Call.diagnostics strayDiagnostics).apply sampleWorkspace =
        .error (.document (.foreign "http://x")) after ∧
      after.diagnostics ≠ sampleWorkspace.diagnostics ∧
      (run [.checking (.standard "3.12")] sampleWorkspace).1 = [none] ∧
      (run [.checking (.standard "3.12")] after).1 = [some (.document (.foreign "http://x"))] := by
  refine ⟨.start, _, apply_strayDiagnostics, Option.some_ne_none _, ?_, ?_⟩
  · have place : sampleWorkspace.files.locate ⟨.top, ["work", settingsName]⟩ =
        .ok ["work", settingsName] := by
      rw [Tree.locate, if_neg, if_neg (by decide)]
      · rfl
      · simp [settingsName, Path.holdsNull, String.contains_char_eq]
    have free : sampleWorkspace.files.lookup? ["work", settingsName] ≠ some .directory :=
      (Option.some_ne_none _).symm
    have done : (Call.checking (.standard "3.12")).apply sampleWorkspace = .ok () _ :=
      Call.apply_of_there rfl rfl isDirectory_sampleWorkspace place free
    rw [run, run, Call.outcome, done]
  · have refuses : Refuses (.foreign "http://x")
        { sampleWorkspace with diagnostics := some strayDiagnostics } :=
      ⟨⟨strayDiagnostics, rfl, placeOf_strayDiagnostics⟩, isDirectory_sampleWorkspace⟩
    rw [run, run, refuses.outcome_checking]

end Editor
end PolicyStudio
