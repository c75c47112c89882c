import Mathlib
import PolicyStudio.Editor.Configure
import PolicyStudio.Proofs.Editor.Failing
import PolicyStudio.Proofs.Files.Alike

/-!
# Configuring an editor again

An editor can be configured any number of times.  A surface that hands its configuration on and
one that writes it into a directory keep it differently, and the second one writes its settings
file twice each time, at first with what is left of the configuration before.  In the end nothing
is left: what counts is the last configuration, and all that the earlier ones did besides is
what the last one does itself.

Documents at other addresses and files at other places stay as they are.  Which configurations
came before is of no importance, and neither is what the surface held at the beginning.
-/

namespace PolicyStudio
namespace Editor

open Files

/-- What an editor is configured for.  What a caller leaves open is settled before. -/
structure Setup where
  registry : Registry
  declarations : String
  languageVersion : String

namespace Setup

/-- Configure an editor once. -/
def apply {m : Type → Type} [Monad m] [Surface m] (setup : Setup) : m Unit :=
  configure setup.registry setup.declarations setup.languageVersion

/-- Configure an editor time after time. -/
def applyAll {m : Type → Type} [Monad m] [Surface m] : List Setup → m Unit
  | [] => pure ()
  | setup :: rest => do
    setup.apply
    applyAll rest

/-- The document that declares the names of the registry. -/
def globals (setup : Setup) : String :=
  globalDeclarations setup.registry.names languageModule

end Setup

/-! ## A configuration that is handed on -/

namespace Configuration

variable {address other content : String} {documents : List (String × String)}

theorem lookup_cons_eq (own held other : String) (rest : List (String × String)) :
    ((own, held) :: rest).lookup other = if other = own then some held else rest.lookup other := by
  by_cases same : other = own
  · subst same
    rw [List.lookup_cons_self, if_pos rfl]
  · have unequal : (other == own) = false := beq_false_of_ne same
    rw [List.lookup_cons, unequal, if_neg same]

/-- The document that was set is found, and all others as before. -/
theorem lookup_withDocument (address content other : String) (documents : List (String × String)) :
    (withDocument address content documents).lookup other =
      if other = address then some content else documents.lookup other := by
  induction documents with
  | nil => rw [withDocument, lookup_cons_eq]
  | cons document rest inductionHypothesis =>
    rcases document with ⟨own, held⟩
    by_cases here : own = address
    · subst here
      by_cases same : other = own <;> simp [withDocument, lookup_cons_eq, same]
    · by_cases own' : other = own
      · subst own'
        simp [withDocument, here]
      · simp [withDocument, lookup_cons_eq, here, own', inductionHypothesis]

/-- A document that is set twice has its first place and its last content. -/
theorem withDocument_again (address content held : String) (documents : List (String × String)) :
    withDocument address content (withDocument address held documents) =
      withDocument address content documents := by
  induction documents with
  | nil => simp [withDocument]
  | cons document rest inductionHypothesis =>
    by_cases here : document.1 = address <;> simp [withDocument, here, inductionHypothesis]

/-- Setting a document that is there already can be done before another one is set. -/
theorem withDocument_comm (different : other ≠ address) (held : String)
    (present : address ∈ documents.map Prod.fst) :
    withDocument address content (withDocument other held documents) =
      withDocument other held (withDocument address content documents) := by
  induction documents with
  | nil => cases present
  | cons document rest inductionHypothesis =>
    by_cases here : document.1 = address
    · simp [withDocument, here, different.symm]
    · by_cases there : document.1 = other
      · simp [withDocument, there, different]
      · have further : address ∈ rest.map Prod.fst := by
          rw [List.map_cons, List.mem_cons] at present
          exact present.resolve_left fun equal => here equal.symm
        simp [withDocument, here, there, inductionHypothesis further]

theorem mem_withDocument (address content : String) (documents : List (String × String)) :
    address ∈ (withDocument address content documents).map Prod.fst := by
  induction documents with
  | nil => simp [withDocument]
  | cons document rest inductionHypothesis =>
    by_cases here : document.1 = address
    · simp [withDocument, here]
    · simp [withDocument, here, inductionHypothesis]

/-- The configuration after an editor was configured. -/
def after (start : Configuration) (steps : StateM Configuration Unit) : Configuration :=
  (steps.run start).2

/-- What configuring does to a configuration. -/
theorem after_apply (start : Configuration) (setup : Setup) :
    start.after setup.apply =
      { documents := withDocument globalsAddress setup.globals
          (withDocument typesAddress setup.declarations start.documents)
        diagnostics := some (.none snippetAddress)
        checking := some (.standard setup.languageVersion) } := rfl

theorem after_applyAll_cons (start : Configuration) (setup : Setup) (rest : List Setup) :
    start.after (Setup.applyAll (setup :: rest)) =
      (start.after setup.apply).after (Setup.applyAll rest) := rfl

/-- A second configuration takes the place of the first one. -/
theorem after_apply_again (start : Configuration) (setup last : Setup) :
    (start.after setup.apply).after last.apply = start.after last.apply := by
  have different : globalsAddress ≠ typesAddress := by decide
  rw [after_apply, after_apply, after_apply]
  dsimp only
  rw [withDocument_comm different _ (mem_withDocument _ _ _), withDocument_again,
    withDocument_again]

/-- The last configuration takes the place of all before. -/
theorem after_applyAll (start : Configuration) (earlier : List Setup) (last : Setup) :
    start.after (Setup.applyAll (earlier ++ [last])) = start.after last.apply := by
  induction earlier generalizing start with
  | nil => rfl
  | cons setup rest inductionHypothesis =>
    rw [List.cons_append, after_applyAll_cons, inductionHypothesis, after_apply_again]

end Configuration

/-! ## A configuration in a directory -/

namespace Workspace

variable {workspace final : Workspace}

/-- Take steps on a workspace. -/
def perform (workspace : Workspace) (steps : Step Unit) :
    EStateM.Result WorkspaceFault Workspace Unit :=
  steps workspace

/-- What the settings file holds once the diagnostics of the program are turned off. -/
def settingsText (checking : Option Checking) : String :=
  (Json.object ((checking.map Checking.settings).getD [] ++
    [("typeCheckingMode", .text "off"), ("reportUndefinedVariable", .text "none"),
      ("ignore", .list [.text "snippet.py"])])).indented ++ "\n"

/-- The names of the file of the declarations. -/
def typesNames : List String := ["typings", "rls_playground", "dsl.pyi"]

/-- The names of the file that declares the names of a registry. -/
def globalsNames : List String := ["__builtins__.pyi"]

theorem placeOf_typesAddress : placeOf typesAddress = .ok ⟨.here, typesNames⟩ :=
  placeOf_eq_ok.mpr ⟨"typings/rls_playground/dsl.pyi", rfl, rfl, rfl⟩

theorem placeOf_globalsAddress : placeOf globalsAddress = .ok ⟨.here, globalsNames⟩ :=
  placeOf_eq_ok.mpr ⟨"__builtins__.pyi", rfl, rfl, rfl⟩

theorem placeOf_snippetAddress : placeOf snippetAddress = .ok ⟨.here, ["snippet.py"]⟩ :=
  placeOf_eq_ok.mpr ⟨"snippet.py", rfl, rfl, rfl⟩

/-- Writing the settings fills the directory with one more file. -/
theorem writeSettings_eq (workspace : Workspace)
    (relaxed : workspace.diagnostics = some (.none snippetAddress)) :
    writeSettings workspace = act (Action.writeUnder workspace.root [settingsName]
      (settingsText workspace.checking).toUTF8) workspace := by
  have settled : workspace.settings = .ok ((workspace.checking.map Checking.settings).getD [] ++
      [("typeCheckingMode", .text "off"), ("reportUndefinedVariable", .text "none"),
        ("ignore", .list [.text "snippet.py"])]) := by
    rw [settings, relaxed, settingsOf, Diagnostics.settings]
    change (do
      let more ← (do
        let place ← placeOf snippetAddress
        return _ : Except DocumentFault _)
      return _ : Except DocumentFault _) = _
    rw [placeOf_snippetAddress]
    rfl
  rw [writeSettings_eq_writeText, settled]
  exact writeText_eq_act _ _ workspace

theorem setDocument_eq_ok {address content : String} {path : Path}
    (placed : placeOf address = .ok path) (relative : path.isAbsolute = false) :
    setDocument address content workspace = .ok () final ↔
      ∃ files, Action.writeUnder workspace.root path.names content.toUTF8 workspace.files =
        .ok () files ∧ final = { workspace with files } := by
  rw [setDocument_eq_writeUnder placed relative, act_eq_ok]

theorem setDiagnostics_eq_ok : setDiagnostics (.none snippetAddress) workspace = .ok () final ↔
    ∃ files, Action.writeUnder workspace.root [settingsName]
        (settingsText workspace.checking).toUTF8 workspace.files = .ok () files ∧
      final = { workspace with diagnostics := some (.none snippetAddress), files } := by
  change writeSettings { workspace with diagnostics := some (.none snippetAddress) } =
    .ok () final ↔ _
  rw [writeSettings_eq _ rfl, act_eq_ok]

theorem setChecking_eq_ok (options : Checking)
    (relaxed : workspace.diagnostics = some (.none snippetAddress)) :
    setChecking options workspace = .ok () final ↔
      ∃ files, Action.writeUnder workspace.root [settingsName]
          (settingsText (some options)).toUTF8 workspace.files = .ok () files ∧
        final = { workspace with checking := some options, files } := by
  change writeSettings { workspace with checking := some options } = .ok () final ↔ _
  rw [writeSettings_eq { workspace with checking := some options } relaxed, act_eq_ok]

end Workspace

namespace Setup

variable {setup last : Setup} {workspace final : Workspace}

/-- The files that are written, one after the other.  The settings file is written once with
what was set before, and then once more. -/
def writeAll (setup : Setup) (root : Path) (before : Option Checking) : Action Unit := do
  Action.writeUnder root Workspace.typesNames setup.declarations.toUTF8
  Action.writeUnder root Workspace.globalsNames setup.globals.toUTF8
  Action.writeUnder root [Workspace.settingsName] (Workspace.settingsText before).toUTF8
  Action.writeUnder root [Workspace.settingsName]
    (Workspace.settingsText (some (.standard setup.languageVersion))).toUTF8

/-- The files are written one after the other, each in what the one before left. -/
theorem writeAll_eq_ok {root : Path} {before : Option Checking} {files written : Tree} :
    setup.writeAll root before files = .ok () written ↔ ∃ typed known relaxed,
      Action.writeUnder root Workspace.typesNames setup.declarations.toUTF8 files = .ok () typed ∧
      Action.writeUnder root Workspace.globalsNames setup.globals.toUTF8 typed = .ok () known ∧
      Action.writeUnder root [Workspace.settingsName] (Workspace.settingsText before).toUTF8 known =
        .ok () relaxed ∧
      Action.writeUnder root [Workspace.settingsName]
        (Workspace.settingsText (some (.standard setup.languageVersion))).toUTF8 relaxed =
          .ok () written := by
  constructor
  · intro done
    rcases Outcome.bind_state_eq_ok.mp done with ⟨_, typed, types, done⟩
    rcases Outcome.bind_state_eq_ok.mp done with ⟨_, known, globals, done⟩
    rcases Outcome.bind_state_eq_ok.mp done with ⟨_, relaxed, earlier, later⟩
    exact ⟨typed, known, relaxed, types, globals, earlier, later⟩
  · rintro ⟨typed, known, relaxed, types, globals, earlier, later⟩
    exact Outcome.bind_state_eq_ok.mpr ⟨(), typed, types,
      Outcome.bind_state_eq_ok.mpr ⟨(), known, globals,
        Outcome.bind_state_eq_ok.mpr ⟨(), relaxed, earlier, later⟩⟩⟩

/-- The files that a workspace has been configured to hold. -/
def contents (setup : Setup) : Contents :=
  (Contents.single [Workspace.settingsName]
    (Workspace.settingsText (some (.standard setup.languageVersion))).toUTF8).onto
  ((Contents.single Workspace.globalsNames setup.globals.toUTF8).onto
  (Contents.single Workspace.typesNames setup.declarations.toUTF8))

theorem contents_isSome (setup : Setup) {names : List String} :
    (setup.contents names).isSome = true ↔ names = [Workspace.settingsName] ∨
      names = Workspace.globalsNames ∨ names = Workspace.typesNames := by
  rw [contents, Contents.onto_isSome, Contents.onto_isSome, Contents.single_isSome,
    Contents.single_isSome, Contents.single_isSome]

/-- Configuring a workspace succeeds if all files can be written. -/
theorem apply_eq_ok : workspace.perform setup.apply = .ok () final ↔
    ∃ files, setup.writeAll workspace.root workspace.checking workspace.files = .ok () files ∧
      final = { workspace with
        diagnostics := some (.none snippetAddress)
        checking := some (.standard setup.languageVersion)
        files } := by
  constructor
  · intro done
    rcases Outcome.bind_state_eq_ok.mp done with ⟨_, first, types, done⟩
    rcases Outcome.bind_state_eq_ok.mp done with ⟨_, second, globals, done⟩
    rcases Outcome.bind_state_eq_ok.mp done with ⟨_, third, diagnostics, checking⟩
    rcases (Workspace.setDocument_eq_ok Workspace.placeOf_typesAddress rfl).mp types with
      ⟨typed, writtenTypes, rfl⟩
    rcases (Workspace.setDocument_eq_ok Workspace.placeOf_globalsAddress rfl).mp globals with
      ⟨known, writtenGlobals, rfl⟩
    rcases Workspace.setDiagnostics_eq_ok.mp diagnostics with ⟨relaxed, writtenBefore, rfl⟩
    rcases (Workspace.setChecking_eq_ok _ rfl).mp checking with ⟨files, writtenAfter, rfl⟩
    exact ⟨files, writeAll_eq_ok.mpr ⟨typed, known, relaxed, writtenTypes, writtenGlobals,
      writtenBefore, writtenAfter⟩, rfl⟩
  · rintro ⟨files, written, rfl⟩
    rcases writeAll_eq_ok.mp written with
      ⟨typed, known, relaxed, writtenTypes, writtenGlobals, writtenBefore, writtenAfter⟩
    have types : Workspace.setDocument typesAddress setup.declarations workspace =
        .ok () { workspace with files := typed } :=
      (Workspace.setDocument_eq_ok Workspace.placeOf_typesAddress rfl).mpr ⟨typed, writtenTypes, rfl⟩
    have globals : Workspace.setDocument globalsAddress setup.globals
        { workspace with files := typed } = .ok () { workspace with files := known } :=
      (Workspace.setDocument_eq_ok Workspace.placeOf_globalsAddress rfl).mpr
        ⟨known, writtenGlobals, rfl⟩
    have diagnostics : Workspace.setDiagnostics (.none snippetAddress)
        { workspace with files := known } = .ok ()
          { workspace with diagnostics := some (.none snippetAddress), files := relaxed } :=
      Workspace.setDiagnostics_eq_ok.mpr ⟨relaxed, writtenBefore, rfl⟩
    have checking : Workspace.setChecking (.standard setup.languageVersion)
        { workspace with diagnostics := some (.none snippetAddress), files := relaxed } = .ok ()
          { workspace with
            diagnostics := some (.none snippetAddress)
            checking := some (.standard setup.languageVersion)
            files } :=
      (Workspace.setChecking_eq_ok _ rfl).mpr ⟨files, writtenAfter, rfl⟩
    exact Outcome.bind_state_eq_ok.mpr ⟨(), _, types,
      Outcome.bind_state_eq_ok.mpr ⟨(), _, globals,
        Outcome.bind_state_eq_ok.mpr ⟨(), _, diagnostics, checking⟩⟩⟩

/-- All files are written, and those that were written twice hold the later text. -/
theorem filled_writeAll {root : Path} {before : Option Checking} {files written : Tree}
    (done : setup.writeAll root before files = .ok () written) :
    Tree.Filled root setup.contents files written := by
  rcases writeAll_eq_ok.mp done with
    ⟨typed, known, relaxed, writtenTypes, writtenGlobals, writtenBefore, writtenAfter⟩
  have types := Action.filled_writeUnder (by decide) (by decide) writtenTypes
  have globals := Action.filled_writeUnder (by decide) (by decide) writtenGlobals
  have earlier := Action.filled_writeUnder (by decide) (by decide) writtenBefore
  have later := Action.filled_writeUnder (by decide) (by decide) writtenAfter
  have whole := (types.trans globals).trans (earlier.trans later)
  rwa [Contents.onto_eq_of_isSome fun names isSome =>
    Contents.single_isSome.mpr (Contents.single_isSome.mp isSome)] at whole

/-- Whether the files can be written does not hang on what is to be written. -/
theorem alike_writeAll (setup last : Setup) (root : Path) (before : Option Checking) :
    Action.Alike (setup.writeAll root before) (last.writeAll root before) :=
  (Action.Alike.writeUnder _ _ _ _).bind fun _ =>
    (Action.Alike.writeUnder _ _ _ _).bind fun _ =>
      (Action.Alike.writeUnder _ _ _ _).bind fun _ => Action.Alike.writeUnder _ _ _ _

/-- Where a workspace can be configured at all, it can be configured in any way. -/
theorem exists_apply_eq_ok (done : workspace.perform setup.apply = .ok () final) :
    ∃ alone, workspace.perform last.apply = .ok () alone := by
  rcases apply_eq_ok.mp done with ⟨files, written, -⟩
  rcases (alike_writeAll setup last _ _).exists_of_eq_ok written with ⟨others, done⟩
  exact ⟨_, apply_eq_ok.mpr ⟨others, done, rfl⟩⟩

/-- All files were written, so all of them can be written again. -/
theorem exists_writeAll_again (last : Setup) {root : Path} {before : Option Checking}
    (other : Option Checking) {files written : Tree}
    (done : setup.writeAll root before files = .ok () written) :
    ∃ again, last.writeAll root other written = .ok () again := by
  rcases writeAll_eq_ok.mp done with
    ⟨typed, known, relaxed, writtenTypes, writtenGlobals, writtenBefore, writtenAfter⟩
  have onward := (Action.filled_writeUnder (by decide) (by decide) writtenBefore).trans
    (Action.filled_writeUnder (by decide) (by decide) writtenAfter)
  have globals := (Tree.Ready.of_writeUnder writtenGlobals).filled onward
  have types := ((Tree.Ready.of_writeUnder writtenTypes).filled
    (Action.filled_writeUnder (by decide) (by decide) writtenGlobals)).filled onward
  have settings := Tree.Ready.of_writeUnder writtenAfter
  rcases types.exists_writeUnder last.declarations.toUTF8 with ⟨first, firstDone⟩
  have changed := Action.filled_writeUnder (by decide) (by decide) firstDone
  rcases (globals.filled changed).exists_writeUnder last.globals.toUTF8 with ⟨second, secondDone⟩
  have changed' := changed.trans (Action.filled_writeUnder (by decide) (by decide) secondDone)
  rcases (settings.filled changed').exists_writeUnder (Workspace.settingsText other).toUTF8 with
    ⟨third, thirdDone⟩
  rcases (Tree.Ready.of_writeUnder thirdDone).exists_writeUnder
    (Workspace.settingsText (some (.standard last.languageVersion))).toUTF8 with ⟨again, lastDone⟩
  exact ⟨again, writeAll_eq_ok.mpr ⟨first, second, third, firstDone, secondDone, thirdDone, lastDone⟩⟩

/-- A workspace that was configured can be configured again, in any way. -/
theorem exists_apply_again (last : Setup) {middle : Workspace}
    (done : workspace.perform setup.apply = .ok () middle) :
    ∃ final, middle.perform last.apply = .ok () final := by
  rcases apply_eq_ok.mp done with ⟨files, written, rfl⟩
  rcases exists_writeAll_again last (some (.standard setup.languageVersion)) written with
    ⟨again, rewritten⟩
  exact ⟨_, apply_eq_ok.mpr ⟨again, rewritten, rfl⟩⟩

/-- So it can be configured any number of times. -/
theorem exists_applyAll_eq_ok (setups : List Setup)
    (done : workspace.perform setup.apply = .ok () final) :
    ∃ configured, workspace.perform (applyAll (setup :: setups)) = .ok () configured := by
  induction setups generalizing setup workspace final with
  | nil => exact ⟨final, Outcome.bind_state_eq_ok.mpr ⟨(), final, done, rfl⟩⟩
  | cons next rest inductionHypothesis =>
    rcases exists_apply_again next done with ⟨middle, nextDone⟩
    rcases inductionHypothesis nextDone with ⟨configured, further⟩
    exact ⟨configured, Outcome.bind_state_eq_ok.mpr ⟨(), final, done, further⟩⟩

/-- A workspace that has been configured: what is set is the last configuration, and so is what
the files hold. -/
structure Settled (setup : Setup) (workspace final : Workspace) : Prop where
  root : final.root = workspace.root
  diagnostics : final.diagnostics = some (.none snippetAddress)
  checking : final.checking = some (.standard setup.languageVersion)
  files : Tree.Filled workspace.root setup.contents workspace.files final.files

theorem settled_apply (done : workspace.perform setup.apply = .ok () final) :
    setup.Settled workspace final := by
  rcases apply_eq_ok.mp done with ⟨files, written, rfl⟩
  exact ⟨rfl, rfl, rfl, filled_writeAll written⟩

/-- A later configuration takes the place of an earlier one. -/
theorem Settled.trans {middle : Workspace} (first : setup.Settled workspace middle)
    (second : last.Settled middle final) : last.Settled workspace final where
  root := second.root.trans first.root
  diagnostics := second.diagnostics
  checking := second.checking
  files := by
    have onward := second.files
    rw [first.root] at onward
    have whole := first.files.trans onward
    rwa [Contents.onto_eq_of_isSome fun names isSome =>
      (contents_isSome last).mpr ((contents_isSome setup).mp isSome)] at whole

/-- After any number of configurations the last one counts, and it could have been the only
one. -/
theorem settled_applyAll {earlier : List Setup}
    (done : workspace.perform (applyAll (earlier ++ [last])) = .ok () final) :
    last.Settled workspace final ∧ ∃ alone, workspace.perform last.apply = .ok () alone := by
  induction earlier generalizing workspace with
  | nil =>
    rcases Outcome.bind_state_eq_ok.mp done with ⟨_, middle, applied, rest⟩
    cases rest
    exact ⟨settled_apply applied, final, applied⟩
  | cons setup rest inductionHypothesis =>
    rcases Outcome.bind_state_eq_ok.mp done with ⟨_, middle, applied, further⟩
    exact ⟨(settled_apply applied).trans (inductionHypothesis further).1,
      exists_apply_eq_ok applied⟩

end Setup

/-- What an editor was configured for last is what counts.

A configuration that is handed on is the one that the last call alone would give, whatever it
was at the beginning.  It holds the documents of the last call, and those at other addresses are
as they were.

A workspace that took all configurations would have taken the last one alone.  Then the same
would be set, and there would be the same at every place.  The three files hold what the last
call has for them, and a file at any other place holds what it held. -/
theorem last_configuration_counts (earlier : List Setup) (last : Setup) :
    (∀ start : Configuration,
      start.after (Setup.applyAll (earlier ++ [last])) = start.after last.apply ∧
      (start.after last.apply).documents.lookup typesAddress = some last.declarations ∧
      (start.after last.apply).documents.lookup globalsAddress = some last.globals ∧
      ∀ address, address ≠ typesAddress → address ≠ globalsAddress →
        (start.after last.apply).documents.lookup address = start.documents.lookup address) ∧
    (∀ start final : Workspace, start.perform (Setup.applyAll (earlier ++ [last])) = .ok () final →
      (∃ alone, start.perform last.apply = .ok () alone ∧ final.root = alone.root ∧
        final.diagnostics = alone.diagnostics ∧ final.checking = alone.checking ∧
        final.files.workplace = alone.files.workplace ∧
        ∀ location, final.files.lookup? location = alone.files.lookup? location) ∧
      ∃ place, final.files.Leads start.root place ∧
        (∀ names content, last.contents names = some content →
          final.files.lookup? (place ++ names) = some (.file content)) ∧
        ∀ location content, start.files.lookup? location = some (.file content) →
          location ∉ [place ++ Workspace.typesNames, place ++ Workspace.globalsNames,
            place ++ [Workspace.settingsName]] →
          final.files.lookup? location = some (.file content)) := by
  refine ⟨fun start => ?_, fun start final done => ?_⟩
  · rw [Configuration.after_applyAll, Configuration.after_apply]
    have different : typesAddress ≠ globalsAddress := by decide
    refine ⟨rfl, ?_, ?_, fun address noTypes noGlobals => ?_⟩
    · simp [Configuration.lookup_withDocument, different]
    · simp [Configuration.lookup_withDocument]
    · simp [Configuration.lookup_withDocument, noTypes, noGlobals]
  · rcases Setup.settled_applyAll done with ⟨settled, alone, applied⟩
    have onlyLast := Setup.settled_apply applied
    constructor
    · refine ⟨alone, applied, settled.root.trans onlyLast.root.symm,
        settled.diagnostics.trans onlyLast.diagnostics.symm,
        settled.checking.trans onlyLast.checking.symm,
        settled.files.workplace.trans onlyLast.files.workplace.symm, ?_⟩
      exact settled.files.unique onlyLast.files
    · have written : (last.contents Workspace.typesNames).isSome = true :=
        (Setup.contents_isSome last).mpr (Or.inr (Or.inr rfl))
      rcases Option.isSome_iff_exists.mp written with ⟨text, given⟩
      rcases settled.files.file _ _ given with ⟨place, led, -⟩
      refine ⟨place, led, fun names content => settled.files.lookup?_eq led, ?_⟩
      intro location content held elsewhere
      apply settled.files.lookup?_of_file held
      rintro ⟨names, reached, isSome, leading, rfl⟩
      have same : place = reached := Except.ok.inj (led.symm.trans leading)
      subst same
      rcases (Setup.contents_isSome last).mp isSome with rfl | rfl | rfl <;> simp at elsewhere

/-- A workspace in an empty directory. -/
def emptyWorkspace : Workspace :=
  .start ⟨.here, ["work"]⟩ ⟨[(["work"], .directory)], []⟩

/-- It can be configured, whatever is to be written. -/
theorem exists_apply_emptyWorkspace (setup : Setup) :
    ∃ final, emptyWorkspace.perform setup.apply = .ok () final := by
  have written : ∀ types globals earlier later : ByteArray, (do
      Action.writeUnder ⟨.here, ["work"]⟩ Workspace.typesNames types
      Action.writeUnder ⟨.here, ["work"]⟩ Workspace.globalsNames globals
      Action.writeUnder ⟨.here, ["work"]⟩ [Workspace.settingsName] earlier
      Action.writeUnder ⟨.here, ["work"]⟩ [Workspace.settingsName] later : Action Unit)
        emptyWorkspace.files = .ok () ⟨[(["work"], .directory), (["work", "typings"], .directory),
          (["work", "typings", "rls_playground"], .directory),
          (["work", "typings", "rls_playground", "dsl.pyi"], .file types),
          (["work", "__builtins__.pyi"], .file globals),
          (["work", "pyrightconfig.json"], .file later)], []⟩ := by
    intro types globals earlier later
    cbv
  exact ⟨_, Setup.apply_eq_ok.mpr ⟨_, written _ _ _ _, rfl⟩⟩

def earlySetup : Setup := ⟨.standard, "class Old: ...\n", "3.10"⟩

def lateSetup : Setup := ⟨.empty, "class New: ...\n", "3.12"⟩

/-- Two configurations in an empty directory leave what the second one alone would leave. -/
theorem late_configuration_counts :
    ∃ final alone, emptyWorkspace.perform (Setup.applyAll ([earlySetup] ++ [lateSetup])) = .ok () final ∧
      emptyWorkspace.perform lateSetup.apply = .ok () alone ∧
      ∀ location, final.files.lookup? location = alone.files.lookup? location := by
  rcases exists_apply_emptyWorkspace earlySetup with ⟨middle, first⟩
  rcases Setup.exists_applyAll_eq_ok [lateSetup] first with ⟨final, done⟩
  rcases (last_configuration_counts [earlySetup] lateSetup).2 emptyWorkspace final done with
    ⟨⟨alone, applied, -, -, -, -, same⟩, -⟩
  exact ⟨final, alone, done, applied, same⟩

end Editor
end PolicyStudio
