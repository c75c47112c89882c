import Mathlib
import PolicyStudio.Editor.Language
import PolicyStudio.Editor.Snapshot
import PolicyStudio.Proofs.Editor.Declarations
import PolicyStudio.Proofs.Files.Finding
import PolicyStudio.Proofs.Text.Cutting

/-!
# Where snapshots come from

Loading takes the text of a file, and building takes what the first source has that is there.
Both have something to fall back on, but not in all cases: a file that can be read has to be a
text, and a bundle that is there has to be a file other than the target.  The theorems say for
every tree of files which case it is, and what there is afterwards.

A bundle is looked for after the directories of the target were made.  Making them can bring it
into reach, if its path goes through them, but it never puts one out of reach.

What building writes is what loading takes afterwards, whatever the target held before: the text
of the bundle as it is read, or the text that was made.  Nothing else is changed but that the
directories of the target are there.
-/

namespace PolicyStudio
namespace Files

namespace Tree

variable {tree before after : Tree} {path : Path} {paths : Path → Prop} {place : Location}
  {names : List String} {entry : Entry}

/-- The character that no name holds is a fault of the whole path, and not of one of its names. -/
theorem follow_ne_nullCharacter :
    tree.follow path place names ≠ .error .nullCharacter := by
  induction names generalizing place with
  | nil => simp [follow]
  | cons name rest inductionHypothesis =>
    rw [follow]
    cases tree.lookup? place with
    | none => simp
    | some entry =>
      cases entry with
      | file content => simp
      | directory =>
        dsimp only
        split
        · exact inductionHypothesis
        · split
          · simp
          · exact inductionHypothesis

theorem locate_eq_nullCharacter :
    tree.locate path = .error .nullCharacter ↔ path.holdsNull = true := by
  unfold locate
  by_cases holds : path.holdsNull = true
  · simp [holds]
  · rw [if_neg holds]
    split
    · simp [holds]
    · simp [holds, follow_ne_nullCharacter]

/-- What was there is there, when only directories were made. -/
theorem Grows.find?_eq_ok (grows : Grows paths before after)
    (found : before.find? path = .ok (some entry)) : after.find? path = .ok (some entry) := by
  rcases Tree.find?_eq_ok.mp found with ⟨place, located, there⟩
  refine Tree.find?_eq_ok.mpr ⟨place, grows.toKeeps.locate located, ?_⟩
  by_cases same : after.lookup? place = before.lookup? place
  · exact same.trans there
  · have absent := (grows.changed place same).1
    rw [there] at absent
    cases absent

end Tree

end Files

namespace Editor

open Files

namespace Snapshot

/-! ## Loading -/

/-- Bytes are a text if they are the bytes of one. -/
theorem fromUTF8?_eq_some_iff {content : ByteArray} {text : String} :
    String.fromUTF8? content = some text ↔ content = text.toUTF8 := by
  unfold String.fromUTF8?
  constructor
  · intro decoded
    split at decoded
    · cases decoded
      rfl
    · cases decoded
  · rintro rfl
    exact dif_pos text.isValidUTF8

theorem decode_eq_ok {content : ByteArray} {text : String} : decode content = .ok text ↔
    ∃ written : String, content = written.toUTF8 ∧
      Text.ReadsAs written.toList text.toList := by
  unfold decode
  constructor
  · intro decoded
    split at decoded
    · next written bytes =>
      cases decoded
      refine ⟨written, fromUTF8?_eq_some_iff.mp bytes, ?_⟩
      rw [String.toList_ofList]
      exact Text.readsAs_lineFeeds written.toList
    · cases decoded
  · rintro ⟨written, bytes, readsAs⟩
    rw [fromUTF8?_eq_some_iff.mpr bytes]
    dsimp only
    rw [Text.lineFeeds_eq_iff.mpr readsAs, String.ofList_toList]

theorem decode_eq_error {content : ByteArray} {fault : LoadFault} :
    decode content = .error fault ↔
      fault = .malformed ∧ ∀ written : String, content ≠ written.toUTF8 := by
  unfold decode
  constructor
  · intro failed
    split at failed
    · cases failed
    · next undecoded =>
      cases failed
      refine ⟨rfl, fun written bytes => ?_⟩
      rw [fromUTF8?_eq_some_iff.mpr bytes] at undecoded
      cases undecoded
  · rintro ⟨rfl, noText⟩
    split
    · next written bytes => exact absurd (fromUTF8?_eq_some_iff.mp bytes) (noText written)
    · rfl

/-- Loading hangs on what the path leads to. -/
theorem load_eq (made : Option String) (path : Path) (files : Tree) :
    load made path files = match files.find? path with
      | .ok (some (.file content)) => decode content
      | .error .nullCharacter => .error .nullCharacter
      | _ => .ok (textOf made) := by
  rw [load, Action.read_eq]
  cases files.find? path with
  | error fault => cases fault <;> rfl
  | ok entry =>
    cases entry with
    | none => rfl
    | some entry =>
      cases entry with
      | directory => rfl
      | file content => rfl

/-- Loading gives a text unless the path cannot be told to the system or leads to a file that is
no text.  The text is that of the file, with line feeds at the ends of its lines, and only where
no file can be read it is the one that is made here, or the one to fall back on. -/
theorem snapshot_is_loaded_unless_malformed (made : Option String) (path : Path) (files : Tree) :
    (load made path files = .error .nullCharacter ↔ path.holdsNull = true) ∧
    (load made path files = .error .malformed ↔
      ∃ content, files.find? path = .ok (some (.file content)) ∧
        ∀ written : String, content ≠ written.toUTF8) ∧
    (∀ text, load made path files = .ok text ↔
      (∃ written : String, files.find? path = .ok (some (.file written.toUTF8)) ∧
        Text.ReadsAs written.toList text.toList) ∨
      (path.holdsNull = false ∧ (∀ content, files.find? path ≠ .ok (some (.file content))) ∧
        text = made.getD fallbackText)) := by
  have nulls : files.find? path = .error .nullCharacter ↔ path.holdsNull = true :=
    Tree.find?_eq_error.trans Tree.locate_eq_nullCharacter
  have noNull : ∀ {outcome}, files.find? path = outcome → outcome ≠ .error .nullCharacter →
      path.holdsNull = false := by
    intro outcome found other
    exact Bool.eq_false_iff.mpr fun holds => other (found.symm.trans (nulls.mpr holds))
  rw [load_eq]
  cases found : files.find? path with
  | error fault =>
    cases fault with
    | nullCharacter => simp [nulls.mp found]
    | _ => simp [noNull found nofun, textOf, eq_comm]
  | ok entry =>
    cases entry with
    | none => simp [noNull found nofun, textOf, eq_comm]
    | some entry =>
      cases entry with
      | directory => simp [noNull found nofun, textOf, eq_comm]
      | file content =>
        simp [noNull found nofun, decode_eq_ok, decode_eq_error]

/-- A file with one byte, which is no text. -/
def unreadable : Tree := ⟨[(["x.pyi"], .file ⟨#[0xff]⟩)], []⟩

theorem unreadable_is_not_loaded :
    load (some languageDeclarations) ⟨.here, ["x.pyi"]⟩ unreadable = .error .malformed := by
  generalize some languageDeclarations = made
  cbv

/-! ## Building -/

/-- The target can be written: its directories are made, and it leads where no directory is. -/
structure Writable (target : Path) (files prepared : Tree) (place : Location) : Prop where
  made : Action.makeDirectories target.parent files = .ok () prepared
  located : prepared.locate target = .ok place
  free : prepared.lookup? place ≠ some .directory

/-- Why a bundle is not copied to the target. -/
inductive Broken (target bundle : Path) (files : Tree) : FileFault → Prop
  | nameTooLong {path : Path} (long : files.find? bundle = .error (.nameTooLong path)) :
      Broken target bundle files (.nameTooLong bundle)
  | sameFile (same : files.sameEntry bundle target = true) :
      Broken target bundle files (.sameFile bundle target)
  | isDirectory (found : files.find? bundle = .ok (some .directory)) :
      Broken target bundle files (.isDirectory bundle)

/-- What the first source has that is there. -/
inductive Payload (made : Option String) (bundle : Path) (files : Tree) :
    SnapshotSource → ByteArray → Prop
  | bundle {content : ByteArray} (found : files.find? bundle = .ok (some (.file content))) :
      Payload made bundle files .bundle content
  | synthesized {text : String} (absent : ∀ entry, files.find? bundle ≠ .ok (some entry))
      (given : made = some text) : Payload made bundle files .synthesized text.toUTF8
  | fallback (absent : ∀ entry, files.find? bundle ≠ .ok (some entry)) (missing : made = none) :
      Payload made bundle files .fallback fallbackText.toUTF8

section

variable {made : Option String} {target bundle : Path} {files prepared : Tree} {place : Location}

theorem isThere_eq (path : Path) (tree : Tree) : isThere path tree = match tree.find? path with
    | .ok entry => .ok entry.isSome tree
    | .error (.nameTooLong _) => .error (.nameTooLong path) tree
    | .error _ => .ok false tree := by
  rw [isThere, Action.get_bind]
  cases tree.find? path with
  | ok entry => rfl
  | error fault => cases fault <;> rfl

/-- Looking for something is refused for a path that is too long, and finds it or not. -/
theorem isThere_cases (path : Path) (tree : Tree) :
    (∃ other, tree.find? path = .error (.nameTooLong other) ∧
      isThere path tree = .error (.nameTooLong path) tree) ∨
    (∃ entry, tree.find? path = .ok (some entry) ∧ isThere path tree = .ok true tree) ∨
    (∀ other, tree.find? path ≠ .error (.nameTooLong other)) ∧
      (∀ entry, tree.find? path ≠ .ok (some entry)) ∧ isThere path tree = .ok false tree := by
  rw [isThere_eq]
  cases tree.find? path with
  | ok held =>
    cases held with
    | some entry => exact Or.inr (Or.inl ⟨entry, rfl, rfl⟩)
    | none => exact Or.inr (Or.inr (by simp))
  | error fault =>
    cases fault with
    | nameTooLong other => exact Or.inl ⟨other, rfl, rfl⟩
    | _ => exact Or.inr (Or.inr (by simp))

/-- When the directories are made, building goes on with the bundle. -/
theorem build_eq (writable : Writable target files prepared place) :
    build made target bundle files = (do
      if ← isThere bundle then
        Action.copy bundle target
        return .bundle
      Action.write target (textOf made).toUTF8
      return if made.isSome then .synthesized else .fallback : Action SnapshotSource) prepared :=
  Action.bind_of_ok _ writable.made

/-- Whatever is written to the target is put there. -/
theorem Writable.write (writable : Writable target files prepared place) (content : ByteArray) :
    Action.write target content prepared = .ok () (prepared.put place (.file content)) :=
  Action.write_of_free writable.located writable.free content

/-- Copying what is there to the target: it is put there, or the bundle is broken. -/
theorem Writable.copy_cases (writable : Writable target files prepared place) {entry : Entry}
    (found : prepared.find? bundle = .ok (some entry)) :
    (∃ fault, Broken target bundle prepared fault ∧
      Action.copy bundle target prepared = .error fault prepared) ∨
    (∀ fault, ¬ Broken target bundle prepared fault) ∧ ∃ content, entry = .file content ∧
      Action.copy bundle target prepared = .ok () (prepared.put place (.file content)) := by
  have noNull := (Tree.locate_eq_ok.mp writable.located).1
  have copied : Action.copy bundle target prepared =
      (if prepared.sameEntry bundle target = true then throw (.sameFile bundle target)
        else Action.read bundle >>= fun content => Action.write target content : Action Unit)
        prepared := by
    rw [Action.copy, noNull]
    rfl
  by_cases same : prepared.sameEntry bundle target = true
  · rw [if_pos same] at copied
    exact Or.inl ⟨_, .sameFile same, copied⟩
  · rw [if_neg same] at copied
    have read := Action.read_eq bundle prepared
    rw [found] at read
    cases entry with
    | directory =>
      refine Or.inl ⟨_, .isDirectory found, ?_⟩
      rw [copied]
      exact Action.bind_of_error _ read
    | file content =>
      refine Or.inr ⟨?_, content, rfl, ?_⟩
      · intro fault broken
        cases broken with
        | nameTooLong long => cases found.symm.trans long
        | sameFile equal => exact same equal
        | isDirectory other => cases found.symm.trans other
      · rw [copied, Action.bind_of_ok _ read]
        exact writable.write content

/-- Building, once the directories are made: the target is written, or the bundle is broken. -/
theorem build_cases (made : Option String) (writable : Writable target files prepared place) :
    (∃ fault, Broken target bundle prepared fault ∧
      build made target bundle files = .error fault prepared) ∨
    (∀ fault, ¬ Broken target bundle prepared fault) ∧ ∃ source payload,
      Payload made bundle prepared source payload ∧
      build made target bundle files = .ok source (prepared.put place (.file payload)) := by
  rw [build_eq writable]
  rcases isThere_cases bundle prepared with
    ⟨other, long, there⟩ | ⟨entry, found, there⟩ | ⟨short, absent, there⟩
  · exact Or.inl ⟨_, .nameTooLong long, Action.bind_of_error _ there⟩
  · rw [Action.bind_of_ok _ there]
    rcases writable.copy_cases found with ⟨fault, broken, failed⟩ | ⟨whole, content, rfl, copied⟩
    · exact Or.inl ⟨fault, broken, Action.bind_of_error _ failed⟩
    · exact Or.inr ⟨whole, .bundle, content, .bundle found, Action.bind_of_ok _ copied⟩
  · rw [Action.bind_of_ok _ there]
    have written := Action.bind_of_ok (fun _ => (return if made.isSome then .synthesized else .fallback :
      Action SnapshotSource)) (writable.write (textOf made).toUTF8)
    refine Or.inr ⟨?_, ?_⟩
    · intro fault broken
      cases broken with
      | nameTooLong long => exact short _ long
      | isDirectory found => exact absent _ found
      | sameFile same =>
        rcases Tree.sameEntry_iff.mp same with ⟨shared, entry, located, -, held⟩
        exact absent entry (Tree.find?_eq_ok.mpr ⟨shared, located, held⟩)
    · cases made with
      | some text => exact ⟨.synthesized, _, .synthesized absent rfl, written⟩
      | none => exact ⟨.fallback, _, .fallback absent rfl, written⟩

/-- Only the target is changed by what is put there. -/
theorem Writable.lookup?_put (writable : Writable target files prepared place) (content : ByteArray)
    (location : Location) : (prepared.put place (.file content)).lookup? location =
      if location = place then some (.file content) else prepared.lookup? location :=
  Tree.lookup?_put prepared (.file content) (Tree.ne_nil_of_free writable.free) location

/-- What was put at the target is found there. -/
theorem Writable.find?_put (writable : Writable target files prepared place) (content : ByteArray) :
    (prepared.put place (.file content)).find? target = .ok (some (.file content)) := by
  have keeps := Tree.Keeps.put (.file content) writable.free
  refine Tree.find?_eq_ok.mpr ⟨place, keeps.locate writable.located, ?_⟩
  rw [writable.lookup?_put content, if_pos rfl]

/-- A target that can be written is written unless the bundle is broken, and then it holds what
the first source has that is there.  The bundle counts as it is when the directories of the target
are made, and if it was there before, it is what it was. -/
theorem snapshot_is_built_unless_broken (made : Option String) (target bundle : Path)
    (files prepared : Tree) (place : Location) (writable : Writable target files prepared place) :
    ((∃ source final, build made target bundle files = .ok source final) ↔
      ∀ fault, ¬ Broken target bundle prepared fault) ∧
    (∀ source final, build made target bundle files = .ok source final →
      ∃ payload, Payload made bundle prepared source payload ∧
        final.find? target = .ok (some (.file payload)) ∧
        final = prepared.put place (.file payload)) ∧
    (∀ fault final, build made target bundle files = .error fault final →
      Broken target bundle prepared fault ∧ final = prepared) ∧
    (∀ entry, files.find? bundle = .ok (some entry) →
      prepared.find? bundle = .ok (some entry)) := by
  have grows := (Action.grows_makeDirectories target.parent).of_eq_ok writable.made
  have kept := fun (entry : Entry) (found : files.find? bundle = .ok (some entry)) =>
    grows.find?_eq_ok found
  rcases build_cases made writable with
    ⟨fault, broken, failed⟩ | ⟨whole, source, payload, isPayload, built⟩
  · rw [failed]
    refine ⟨⟨?_, fun whole => absurd broken (whole fault)⟩, nofun, ?_, kept⟩
    · rintro ⟨source, final, impossible⟩
      cases impossible
    · intro other final equal
      cases equal
      exact ⟨broken, rfl⟩
  · rw [built]
    refine ⟨⟨fun _ => whole, fun _ => ⟨source, _, rfl⟩⟩, ?_, nofun, kept⟩
    intro other final equal
    cases equal
    exact ⟨payload, isPayload, writable.find?_put payload, rfl⟩

end

/-- A bundle in the working directory. -/
def shipped : Tree := ⟨[(["bundle.pyi"], .file "# bundled\n".toUTF8)], []⟩

/-- A bundle that is a file is copied, into a directory that is made for it. -/
theorem shipped_bundle_is_built :
    ∃ final, build (some languageDeclarations) ⟨.here, ["out", "dsl.pyi"]⟩ ⟨.here, ["bundle.pyi"]⟩
        shipped = .ok .bundle final ∧
      final.find? ⟨.here, ["out", "dsl.pyi"]⟩ = .ok (some (.file "# bundled\n".toUTF8)) := by
  have writable : Writable ⟨.here, ["out", "dsl.pyi"]⟩ shipped (shipped.put ["out"] .directory)
      ["out", "dsl.pyi"] := ⟨by cbv, by cbv, nofun⟩
  rcases snapshot_is_built_unless_broken (some languageDeclarations) _ ⟨.here, ["bundle.pyi"]⟩ _ _ _
    writable with ⟨success, holds, -, kept⟩
  have found := kept (.file "# bundled\n".toUTF8) (by cbv)
  have apart : (shipped.put ["out"] .directory).sameEntry ⟨.here, ["bundle.pyi"]⟩
      ⟨.here, ["out", "dsl.pyi"]⟩ = false := by cbv
  have whole : ∀ fault, ¬ Broken ⟨.here, ["out", "dsl.pyi"]⟩ ⟨.here, ["bundle.pyi"]⟩
      (shipped.put ["out"] .directory) fault := by
    intro fault broken
    cases broken with
    | nameTooLong long => cases found.symm.trans long
    | sameFile same => cases apart.symm.trans same
    | isDirectory other => cases found.symm.trans other
  rcases success.mpr whole with ⟨source, final, built⟩
  rcases holds source final built with ⟨payload, isPayload, held, -⟩
  cases isPayload with
  | bundle other =>
    cases found.symm.trans other
    exact ⟨final, built, held⟩
  | synthesized absent given => exact absurd found (absent _)
  | fallback absent missing => exact absurd found (absent _)

/-- A bundle that is a directory, and an earlier snapshot. -/
def misplaced : Tree := ⟨[(["bundle.pyi"], .directory), (["dsl.pyi"], .file "# old\n".toUTF8)], []⟩

theorem misplaced_bundle_is_refused :
    Writable ⟨.here, ["dsl.pyi"]⟩ misplaced misplaced ["dsl.pyi"] ∧
    build (some languageDeclarations) ⟨.here, ["dsl.pyi"]⟩ ⟨.here, ["bundle.pyi"]⟩ misplaced =
      .error (.isDirectory ⟨.here, ["bundle.pyi"]⟩) misplaced ∧
    build (some languageDeclarations) ⟨.here, ["dsl.pyi"]⟩ ⟨.here, ["dsl.pyi"]⟩ misplaced =
      .error (.sameFile ⟨.here, ["dsl.pyi"]⟩ ⟨.here, ["dsl.pyi"]⟩) misplaced := by
  generalize some languageDeclarations = made
  exact ⟨⟨by cbv, by cbv, nofun⟩, by cbv, by cbv⟩

/-! ## Reading back what was built -/

section

variable {made : Option String} {target bundle : Path} {files prepared final : Tree}
  {place : Location} {source : SnapshotSource}

/-- A target that was built could be written. -/
theorem exists_writable_of_build (built : build made target bundle files = .ok source final) :
    ∃ place, Writable target files ((Action.makeDirectories target.parent).after files) place := by
  rcases Outcome.bind_state_eq_ok.mp built with ⟨_, prepared, ready, built⟩
  have same : (Action.makeDirectories target.parent).after files = prepared := by
    rw [Action.after, ready]
  have written : ∃ content after, Action.write target content prepared = .ok () after := by
    rcases Outcome.bind_state_eq_ok.mp built with ⟨there, middle, looked, built⟩
    have unchanged : middle = prepared := by
      rcases isThere_cases bundle prepared with ⟨_, -, refused⟩ | ⟨_, -, found⟩ | ⟨-, -, absent⟩
      · cases refused.symm.trans looked
      · cases found.symm.trans looked
        rfl
      · cases absent.symm.trans looked
        rfl
    subst unchanged
    cases there with
    | true =>
      rcases Outcome.bind_state_eq_ok.mp built with ⟨_, copy, copied, -⟩
      rcases Action.exists_write_of_copy copied with ⟨content, written⟩
      exact ⟨content, copy, written⟩
    | false =>
      rcases Outcome.bind_state_eq_ok.mp built with ⟨_, after, written, -⟩
      exact ⟨_, after, written⟩
  rcases written with ⟨content, after, written⟩
  rcases Action.write_eq_ok.mp written with ⟨place, located, free, -⟩
  rw [same]
  exact ⟨place, ready, located, free⟩

/-- What is read back, by source.  The bundle is found when the directories of the target are made,
and holds what it held before. -/
inductive ReadBack (bundle : Path) (files prepared : Tree) : SnapshotSource → String → Prop
  | bundle {location : Location} {written text : String} (led : prepared.Leads bundle location)
      (held : files.lookup? location = some (.file written.toUTF8))
      (readsAs : Text.ReadsAs written.toList text.toList) :
      ReadBack bundle files prepared .bundle text
  | synthesized : ReadBack bundle files prepared .synthesized languageDeclarations
  | fallback : ReadBack bundle files prepared .fallback fallbackText

/-- A text without carriage returns is decoded from its bytes. -/
theorem decode_toUTF8 {text : String} (plain : Plain text) : decode text.toUTF8 = .ok text :=
  decode_eq_ok.mpr ⟨text, rfl, Text.lineFeeds_eq_iff.mp plain.lineFeeds⟩

/-- What a source has is decoded as what is read back of it. -/
theorem Payload.exists_readBack {paths : Path → Prop} (grows : Tree.Grows paths files prepared)
    (own : ∀ text ∈ made, text = languageDeclarations)
    (valid : ∀ content, prepared.find? bundle = .ok (some (.file content)) →
      ∃ written : String, content = written.toUTF8) {content : ByteArray}
    (payload : Payload made bundle prepared source content) :
    ∃ text, ReadBack bundle files prepared source text ∧ decode content = .ok text := by
  cases payload with
  | bundle found =>
    rcases valid content found with ⟨written, rfl⟩
    rcases Tree.find?_eq_ok.mp found with ⟨location, located, there⟩
    have readsAs : Text.ReadsAs written.toList
        (String.ofList (Text.lineFeeds written.toList)).toList := by
      rw [String.toList_ofList]
      exact Text.readsAs_lineFeeds written.toList
    exact ⟨_, .bundle (Tree.leads_of_locate located) (grows.lookup?_of_file there) readsAs,
      decode_eq_ok.mpr ⟨written, rfl, readsAs⟩⟩
  | synthesized absent given =>
    cases own _ given
    exact ⟨languageDeclarations, .synthesized, decode_toUTF8 plain_languageDeclarations⟩
  | fallback absent missing =>
    exact ⟨fallbackText, .fallback, decode_toUTF8 (by decide)⟩

/-- What was built is loaded, if the bundle is a text or no file once the directories of the target
are there.  Besides the target, only directories that lead to it are new. -/
theorem snapshot_is_read_back (made : Option String) (target bundle : Path) (files final : Tree)
    (source : SnapshotSource) (own : ∀ text ∈ made, text = languageDeclarations)
    (valid : ∀ content, ((Action.makeDirectories target.parent).after files).find? bundle =
      .ok (some (.file content)) → ∃ written : String, content = written.toUTF8)
    (built : build made target bundle files = .ok source final) :
    (∃ text, ReadBack bundle files ((Action.makeDirectories target.parent).after files) source text ∧
      ∀ again, load again target final = .ok text) ∧
    ∃ place, final.Leads target place ∧ final.workplace = files.workplace ∧
      ∀ location, location ≠ place → final.lookup? location ≠ files.lookup? location →
        files.lookup? location = none ∧ final.lookup? location = some .directory ∧
          ∃ path, target.parent.OnTheWay path ∧ final.Leads path location := by
  rcases exists_writable_of_build built with ⟨place, writable⟩
  have grows := (Action.grows_makeDirectories target.parent).of_eq_ok writable.made
  rcases build_cases made writable with
    ⟨fault, -, failed⟩ | ⟨-, other, content, payload, done⟩
  · cases built.symm.trans failed
  · cases built.symm.trans done
    have keeps := Tree.Keeps.put (.file content) writable.free
    constructor
    · rcases payload.exists_readBack grows own valid with ⟨text, readBack, decoded⟩
      refine ⟨text, readBack, fun again => ?_⟩
      rw [load_eq, writable.find?_put content]
      exact decoded
    · refine ⟨place, keeps.leads (Tree.leads_of_locate writable.located),
        (grows.toKeeps.trans keeps).workplace, fun location elsewhere different => ?_⟩
      rw [writable.lookup?_put content, if_neg elsewhere] at different ⊢
      rcases grows.changed location different with ⟨absent, directory, path, onTheWay, led⟩
      exact ⟨absent, directory, path, onTheWay, keeps.leads led⟩

/-- A bundle whose lines end in two ways, and an earlier snapshot that is longer. -/
def twoEnds : Tree :=
  ⟨[(["b.pyi"], .file "x\r\ny\r".toUTF8), (["dsl.pyi"], .file "# longer\n".toUTF8)], []⟩

/-- A bundle is read back with line feeds, from a file that held more before. -/
theorem twoEnds_are_read_back :
    ∃ final, build (some languageDeclarations) ⟨.here, ["dsl.pyi"]⟩ ⟨.here, ["b.pyi"]⟩ twoEnds =
        .ok .bundle final ∧
      load (some languageDeclarations) ⟨.here, ["dsl.pyi"]⟩ final = .ok "x\ny\n" := by
  have built : ∀ made, ∃ final, build made ⟨.here, ["dsl.pyi"]⟩ ⟨.here, ["b.pyi"]⟩ twoEnds =
      .ok .bundle final := by
    intro made
    exact ⟨_, by cbv⟩
  have valid : ∀ content, ((Action.makeDirectories ⟨.here, []⟩).after twoEnds).find?
      ⟨.here, ["b.pyi"]⟩ = .ok (some (.file content)) →
      ∃ written : String, content = written.toUTF8 := by
    intro content found
    have there : ((Action.makeDirectories ⟨.here, []⟩).after twoEnds).find? ⟨.here, ["b.pyi"]⟩ =
        .ok (some (.file "x\r\ny\r".toUTF8)) := by cbv
    cases there.symm.trans found
    exact ⟨_, rfl⟩
  rcases built (some languageDeclarations) with ⟨final, built⟩
  rcases (snapshot_is_read_back (some languageDeclarations) ⟨.here, ["dsl.pyi"]⟩ ⟨.here, ["b.pyi"]⟩
    twoEnds final .bundle (fun text own => (Option.mem_some.mp own).symm) valid built).1 with
    ⟨text, readBack, loaded⟩
  refine ⟨final, built, (loaded _).trans (congrArg Except.ok ?_)⟩
  cases readBack with
  | @bundle location written _ led held readsAs =>
    have bundleLed : ((Action.makeDirectories ⟨.here, []⟩).after twoEnds).Leads ⟨.here, ["b.pyi"]⟩
        ["b.pyi"] := by cbv
    cases (bundleLed.symm.trans led)
    have there : twoEnds.lookup? ["b.pyi"] = some (.file "x\r\ny\r".toUTF8) := by cbv
    have bytes : "x\r\ny\r".toUTF8 = written.toUTF8 :=
      Entry.file.inj (Option.some.inj (there.symm.trans held))
    rw [← String.toByteArray_inj.mp bytes] at readsAs
    have lines : Text.ReadsAs "x\r\ny\r".toList "x\ny\n".toList :=
      Text.lineFeeds_eq_iff.mp (by decide)
    exact String.toList_inj.mp (readsAs.unique lines)

/-- A bundle that is no text. -/
def noText : Tree := ⟨[(["b.pyi"], .file ⟨#[0xff]⟩)], []⟩

/-- A path to the bundle may lead nowhere before the directories of the target are made. -/
theorem newly_found_bundle_is_not_loaded :
    noText.find? ⟨.here, ["a", "..", "b.pyi"]⟩ = .error (.notFound ⟨.here, ["a", "..", "b.pyi"]⟩) ∧
    ∃ final, build (some languageDeclarations) ⟨.here, ["a", "x.pyi"]⟩
        ⟨.here, ["a", "..", "b.pyi"]⟩ noText = .ok .bundle final ∧
      load (some languageDeclarations) ⟨.here, ["a", "x.pyi"]⟩ final = .error .malformed := by
  generalize some languageDeclarations = made
  exact ⟨by cbv, _, by cbv, by cbv⟩

end

end Snapshot

end Editor
end PolicyStudio
