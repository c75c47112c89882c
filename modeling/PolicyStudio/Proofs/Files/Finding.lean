import PolicyStudio.Proofs.Files.Filling

/-!
# Finding things again

A path that leads somewhere leads there as long as no directory is taken away, and making
directories and writing files takes none away.  So a directory that was made is found again, and
making it once more changes nothing.  A file that was written is read again, and it can be
written once more, whatever it is to hold then.
-/

namespace PolicyStudio
namespace Files

namespace Tree

variable {tree before after : Tree} {path : Path} {place : Location} {entry : Option Entry}

/-- A path is located if it can be told to the system and leads somewhere. -/
theorem locate_eq_ok : tree.locate path = .ok place ↔ path.holdsNull = false ∧
    path.text.utf8ByteSize ≤ longestPath ∧ tree.Leads path place := by
  constructor
  · intro located
    have led := leads_of_locate located
    unfold locate at located
    split at located
    · cases located
    · next noNull =>
      split at located
      · cases located
      · next short => exact ⟨by simpa using noNull, Nat.le_of_not_lt short, led⟩
  · rintro ⟨noNull, short, led⟩
    unfold locate
    rw [if_neg (by simp [noNull]), if_neg (Nat.not_lt.mpr short)]
    exact led

theorem Keeps.locate (keeps : Keeps before after) (located : before.locate path = .ok place) :
    after.locate path = .ok place := by
  rcases locate_eq_ok.mp located with ⟨noNull, short, led⟩
  exact locate_eq_ok.mpr ⟨noNull, short, keeps.leads led⟩

/-- What a path leads to is what is at its place. -/
theorem find?_eq_ok : tree.find? path = .ok entry ↔
    ∃ place, tree.locate path = .ok place ∧ tree.lookup? place = entry := by
  rw [find?, Outcome.bind_eq_ok]
  constructor
  · rintro ⟨place, located, equal⟩
    exact ⟨place, located, Outcome.eq_of_pure equal⟩
  · rintro ⟨place, located, rfl⟩
    exact ⟨place, located, rfl⟩

theorem find?_eq_error {fault : FileFault} :
    tree.find? path = .error fault ↔ tree.locate path = .error fault := by
  rw [find?]
  cases tree.locate path with
  | error other =>
    constructor
    · intro failed
      cases failed
      rfl
    · intro failed
      cases failed
      rfl
  | ok place =>
    constructor
    · intro impossible
      cases impossible
    · intro impossible
      cases impossible

theorem isDirectory_iff : tree.isDirectory path = true ↔
    ∃ place, tree.locate path = .ok place ∧ tree.lookup? place = some .directory := by
  rw [← find?_eq_ok, isDirectory]
  constructor
  · intro there
    split at there
    · next found => exact found
    · cases there
  · intro found
    rw [found]

theorem Keeps.isDirectory (keeps : Keeps before after) (there : before.isDirectory path = true) :
    after.isDirectory path = true := by
  rcases isDirectory_iff.mp there with ⟨place, located, directory⟩
  exact isDirectory_iff.mpr ⟨place, keeps.locate located, keeps.directory place directory⟩

/-- Two paths with one thing lead to one place, and it is there. -/
theorem sameEntry_iff {other : Path} : tree.sameEntry path other = true ↔
    ∃ place entry, tree.locate path = .ok place ∧ tree.locate other = .ok place ∧
      tree.lookup? place = some entry := by
  rw [sameEntry]
  constructor
  · intro same
    split at same
    · next place otherPlace located otherLocated =>
      simp only [Bool.and_eq_true, beq_iff_eq] at same
      rcases same with ⟨rfl, isSome⟩
      rcases Option.isSome_iff_exists.mp isSome with ⟨entry, there⟩
      exact ⟨place, entry, located, otherLocated, there⟩
    · cases same
  · rintro ⟨place, entry, located, otherLocated, there⟩
    simp [located, otherLocated, there]

end Tree

namespace Action

variable {before after tree : Tree} {path : Path}

/-! ## Directories -/

theorem attempt_bind_of_ok {α β : Type} {action : Action α} {value : α}
    (next : Except FileFault α → Action β) (done : action before = .ok value after) :
    (attempt action >>= next) before = next (.ok value) after :=
  bind_of_ok next (by rw [attempt, done])

theorem attempt_bind_of_error {α β : Type} {action : Action α} {fault : FileFault}
    (next : Except FileFault α → Action β) (failed : action before = .error fault after) :
    (attempt action >>= next) before = next (.error fault) after :=
  bind_of_ok next (by rw [attempt, failed])

/-- A directory excuses a fault. -/
theorem unlessDirectory_eq_ok {fault : FileFault} :
    unlessDirectory path fault before = .ok () after ↔
      before.isDirectory path = true ∧ after = before := by
  change (if before.isDirectory path = true then pure () else throw fault : Action Unit) before =
    .ok () after ↔ _
  by_cases there : before.isDirectory path = true
  · rw [if_pos there]
    constructor
    · intro done
      cases done
      exact ⟨there, rfl⟩
    · rintro ⟨-, rfl⟩
      rfl
  · rw [if_neg there]
    constructor
    · intro impossible
      cases impossible
    · rintro ⟨excused, -⟩
      exact absurd excused there

/-- A directory that was made is there. -/
theorem isDirectory_of_makeDirectory (done : makeDirectory path before = .ok () after) :
    after.isDirectory path = true := by
  rcases makeDirectory_cases path before with ⟨fault, failed⟩ | ⟨place, located, absent, made⟩
  · rw [failed] at done
    cases done
  · rw [made] at done
    cases done
    have free : before.lookup? place ≠ some .directory := absent ▸ nofun
    refine Tree.isDirectory_iff.mpr ⟨place, (Tree.Keeps.put .directory free).locate located, ?_⟩
    rw [Tree.lookup?_put before .directory (Tree.ne_nil_of_free free), if_pos rfl]

theorem isDirectory_of_ensureDirectory (done : ensureDirectory path before = .ok () after) :
    after.isDirectory path = true := by
  unfold ensureDirectory at done
  cases result : makeDirectory path before with
  | ok value middle =>
    rw [attempt_bind_of_ok _ result] at done
    cases done
    exact isDirectory_of_makeDirectory result
  | error fault middle =>
    rw [attempt_bind_of_error _ result] at done
    rcases unlessDirectory_eq_ok.mp done with ⟨there, rfl⟩
    exact there

/-- Whatever had to be made on the way, in the end the directory is there. -/
theorem isDirectory_of_makeDirectories (done : makeDirectories path before = .ok () after) :
    after.isDirectory path = true := by
  unfold makeDirectories at done
  cases count : path.names.length with
  | zero =>
    rw [count] at done
    exact isDirectory_of_ensureDirectory done
  | succ n =>
    rw [count, ensureDirectories] at done
    cases result : makeDirectory path before with
    | ok value middle =>
      rw [attempt_bind_of_ok _ result] at done
      cases done
      exact isDirectory_of_makeDirectory result
    | error fault middle =>
      rw [attempt_bind_of_error _ result] at done
      cases fault with
      | notFound missing =>
        rcases Outcome.bind_state_eq_ok.mp done with ⟨_, further, -, last⟩
        exact isDirectory_of_ensureDirectory last
      | _ =>
        rcases unlessDirectory_eq_ok.mp done with ⟨there, rfl⟩
        exact there

/-- A directory that is there cannot be made. -/
theorem makeDirectory_of_isDirectory (there : tree.isDirectory path = true) :
    makeDirectory path tree = .error (.exists path) tree := by
  rcases Tree.isDirectory_iff.mp there with ⟨place, located, directory⟩
  rw [makeDirectory_eq located, directory]

/-- Making sure of a directory that is there changes nothing. -/
theorem makeDirectories_of_isDirectory (there : tree.isDirectory path = true) :
    makeDirectories path tree = .ok () tree := by
  have failed := makeDirectory_of_isDirectory there
  have excused : unlessDirectory path (.exists path) tree = .ok () tree :=
    unlessDirectory_eq_ok.mpr ⟨there, rfl⟩
  unfold makeDirectories
  cases path.names.length with
  | zero =>
    rw [ensureDirectories, ensureDirectory, attempt_bind_of_error _ failed]
    exact excused
  | succ n =>
    rw [ensureDirectories, attempt_bind_of_error _ failed]
    exact excused

/-! ## Files -/

/-- Reading hangs on what the path leads to. -/
theorem read_eq (path : Path) (tree : Tree) : read path tree = match tree.find? path with
    | .ok (some (.file content)) => .ok content tree
    | .ok (some .directory) => .error (.isDirectory path) tree
    | .ok none => .error (.notFound path) tree
    | .error fault => .error fault tree := by
  rw [read, ofTree]
  cases tree.find? path with
  | error fault => rfl
  | ok entry =>
    cases entry with
    | none => rfl
    | some entry =>
      cases entry with
      | directory => rfl
      | file content => rfl

/-- Reading changes nothing. -/
theorem eq_of_read {content : ByteArray} (done : read path before = .ok content after) :
    after = before := by
  rw [read_eq] at done
  split at done
  · cases done
    rfl
  · cases done
  · cases done
  · cases done

/-- What is copied is written. -/
theorem exists_write_of_copy {source target : Path} (copied : copy source target before = .ok () after) :
    ∃ content, write target content before = .ok () after := by
  rw [copy] at copied
  split at copied
  · cases copied
  · change (if before.sameEntry source target = true then throw (.sameFile source target)
      else read source >>= fun content => write target content : Action Unit) before =
        .ok () after at copied
    split at copied
    · cases copied
    · rcases Outcome.bind_state_eq_ok.mp copied with ⟨content, middle, done, written⟩
      rw [eq_of_read done] at written
      exact ⟨content, written⟩

end Action

/-! ## Writing again -/

namespace Tree

variable {root other : Path} {names : List String} {contents : Contents} {before after tree : Tree}

/-- A file is below a directory where the names lead, and so is the directory that holds it. -/
structure Ready (root : Path) (names : List String) (tree : Tree) : Prop where
  there : tree.isDirectory (root.under names).parent = true
  held : ∃ place content, tree.locate (root.under names) = .ok place ∧
    tree.lookup? place = some (.file content)

namespace Ready

theorem of_writeUnder {content : ByteArray}
    (written : Action.writeUnder root names content before = .ok () after) :
    after.Ready root names := by
  rcases Outcome.bind_state_eq_ok.mp written with ⟨_, middle, made, last⟩
  rcases Action.write_eq_ok.mp last with ⟨place, located, free, rfl⟩
  have keeps := Keeps.put (.file content) free
  refine ⟨keeps.isDirectory (Action.isDirectory_of_makeDirectories made), place, content,
    keeps.locate located, ?_⟩
  rw [lookup?_put middle _ (ne_nil_of_free free), if_pos rfl]

/-- It stays so when directories are filled, this one or others. -/
theorem filled (ready : before.Ready root names) (filled : Filled other contents before after) :
    after.Ready root names where
  there := filled.toKeeps.isDirectory ready.there
  held := by
    rcases ready.held with ⟨place, content, located, file⟩
    rcases filled.exists_file file with ⟨holds, still⟩
    exact ⟨place, holds, filled.toKeeps.locate located, still⟩

/-- Then the file can be written again, whatever it is to hold. -/
theorem exists_writeUnder (ready : tree.Ready root names) (content : ByteArray) :
    ∃ after, Action.writeUnder root names content tree = .ok () after := by
  rcases ready.held with ⟨place, held, located, file⟩
  have free : tree.lookup? place ≠ some .directory := file ▸ nofun
  refine ⟨tree.put place (.file content), Outcome.bind_state_eq_ok.mpr
    ⟨(), tree, Action.makeDirectories_of_isDirectory ready.there, ?_⟩⟩
  exact Action.write_eq_ok.mpr ⟨place, located, free, rfl⟩

end Ready

end Tree

end Files
end PolicyStudio
