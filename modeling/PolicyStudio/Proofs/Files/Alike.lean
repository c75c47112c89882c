import PolicyStudio.Proofs.Files.Finding

/-!
# What files hold does not matter

Whether a directory can be made or a file can be written hangs on where there are files and
directories.  What the files hold has no part in it.  So an action that writes one thing can
always be replaced by one that writes another thing to the same file: it succeeds where the
first one does, fails with the same fault where the first one fails, and leaves files and
directories at the same places.

`Alike` says so of two actions.  It holds of a whole action if it holds of the parts.
-/

namespace PolicyStudio
namespace Files

/-- What something is, apart from what it holds. -/
def Entry.isDirectory : Entry → Bool
  | .directory => true
  | .file _ => false

namespace Tree

variable {tree other : Tree} {place location : Location}

/-- Files and directories are at the same places in both trees. -/
structure SameOutline (tree other : Tree) : Prop where
  workplace : tree.workplace = other.workplace
  outline : ∀ location, (tree.lookup? location).map Entry.isDirectory =
    (other.lookup? location).map Entry.isDirectory

namespace SameOutline

theorem refl (tree : Tree) : SameOutline tree tree := ⟨rfl, fun _ => rfl⟩

/-- At a place there is nothing in both trees, or a directory in both, or a file in both. -/
theorem cases_lookup? (same : SameOutline tree other) (location : Location) :
    (tree.lookup? location = none ∧ other.lookup? location = none) ∨
    (tree.lookup? location = some .directory ∧ other.lookup? location = some .directory) ∨
    ∃ held holds, tree.lookup? location = some (.file held) ∧
      other.lookup? location = some (.file holds) := by
  have equal := same.outline location
  cases first : tree.lookup? location with
  | none =>
    cases second : other.lookup? location with
    | none => exact Or.inl ⟨rfl, rfl⟩
    | some entry => simp [first, second] at equal
  | some entry =>
    cases second : other.lookup? location with
    | none => simp [first, second] at equal
    | some entry' =>
      cases entry with
      | directory =>
        cases entry' with
        | directory => exact Or.inr (Or.inl ⟨rfl, rfl⟩)
        | file content => simp [first, second, Entry.isDirectory] at equal
      | file held =>
        cases entry' with
        | directory => simp [first, second, Entry.isDirectory] at equal
        | file holds => exact Or.inr (Or.inr ⟨held, holds, rfl, rfl⟩)

/-- Things of one kind are put at one place. -/
theorem put (same : SameOutline tree other) (free : tree.lookup? place ≠ some .directory)
    {entry entry' : Entry} (kind : entry.isDirectory = entry'.isDirectory) :
    SameOutline (tree.put place entry) (other.put place entry') where
  workplace := same.workplace
  outline location := by
    have below := ne_nil_of_free free
    rw [lookup?_put tree entry below, lookup?_put other entry' below]
    by_cases here : location = place
    · simp [here, kind]
    · simp [here, same.outline location]

/-- Names lead to the same place, or fail in the same way. -/
theorem follow (same : SameOutline tree other) (path : Path) (place : Location)
    (names : List String) : tree.follow path place names = other.follow path place names := by
  induction names generalizing place with
  | nil => rfl
  | cons name rest inductionHypothesis =>
    rw [Tree.follow, Tree.follow]
    rcases same.cases_lookup? place with
      ⟨first, second⟩ | ⟨first, second⟩ | ⟨held, holds, first, second⟩
    · simp only [first, second]
    · simp only [first, second, inductionHypothesis]
    · simp only [first, second]

theorem locate (same : SameOutline tree other) (path : Path) :
    tree.locate path = other.locate path := by
  unfold Tree.locate
  rw [same.workplace, same.follow]

theorem isDirectory (same : SameOutline tree other) (path : Path) :
    tree.isDirectory path = other.isDirectory path := by
  have directories : ∀ place, tree.lookup? place = some .directory ↔
      other.lookup? place = some .directory := by
    intro place
    rcases same.cases_lookup? place with
      ⟨first, second⟩ | ⟨first, second⟩ | ⟨held, holds, first, second⟩
    · rw [first, second]
    · rw [first, second]
    · simp [first, second]
  rw [Bool.eq_iff_iff, isDirectory_iff, isDirectory_iff, same.locate path]
  simp only [directories]

end SameOutline

end Tree

namespace Action

variable {α β : Type}

/-- Results that differ at most in what files hold. -/
inductive AlikeResults : EStateM.Result FileFault Tree α → EStateM.Result FileFault Tree α → Prop
  | ok (value : α) {tree other : Tree} (same : tree.SameOutline other) :
      AlikeResults (.ok value tree) (.ok value other)
  | error (fault : FileFault) {tree other : Tree} (same : tree.SameOutline other) :
      AlikeResults (.error fault tree) (.error fault other)

/-- Actions that do the same but for what files hold. -/
def Alike (action other : Action α) : Prop :=
  ∀ tree holding, tree.SameOutline holding → AlikeResults (action tree) (other holding)

/-- Where one of two such actions succeeds, so does the other one. -/
theorem Alike.exists_of_eq_ok {action other : Action α} (alike : Alike action other)
    {tree final : Tree} {value : α} (done : action tree = .ok value final) :
    ∃ holding, other tree = .ok value holding := by
  have results := alike tree tree (.refl tree)
  rw [done] at results
  generalize other tree = result at results ⊢
  cases results with
  | ok _ same => exact ⟨_, rfl⟩

namespace Alike

theorem pure (value : α) : Alike (pure value) (pure value) :=
  fun _ _ same => .ok value same

theorem bind {action other : Action α} {next following : α → Action β}
    (first : Alike action other) (further : ∀ value, Alike (next value) (following value)) :
    Alike (action >>= next) (other >>= following) := by
  intro tree holding same
  have results := first tree holding same
  change AlikeResults (EStateM.bind action next tree) (EStateM.bind other following holding)
  unfold EStateM.bind
  generalize action tree = result at results ⊢
  generalize other holding = result' at results ⊢
  cases results with
  | ok value same => exact further value _ _ same
  | error fault same => exact .error fault same

/-- A fault that is turned into a value is the same for both. -/
theorem attempt {action other : Action α} (alike : Alike action other) :
    Alike action.attempt other.attempt := by
  intro tree holding same
  have results := alike tree holding same
  unfold Action.attempt
  generalize action tree = result at results ⊢
  generalize other holding = result' at results ⊢
  cases results with
  | ok value same => exact .ok _ same
  | error fault same => exact .ok _ same

/-- A path leads to the same place in both trees. -/
theorem locate (path : Path) : Alike (ofTree (·.locate path)) (ofTree (·.locate path)) := by
  intro tree other same
  rw [ofTree, ofTree, same.locate path]
  cases other.locate path with
  | ok place => exact .ok place same
  | error fault => exact .error fault same

theorem makeDirectory (path : Path) : Alike (makeDirectory path) (makeDirectory path) := by
  refine (locate path).bind fun place tree other same => ?_
  rw [get_bind, get_bind]
  rcases same.cases_lookup? place with
    ⟨first, second⟩ | ⟨first, second⟩ | ⟨held, holds, first, second⟩
  · have free : tree.lookup? place ≠ some .directory := by simp [first]
    rw [first, second]
    exact .ok () (same.put free rfl)
  · rw [first, second]
    exact .error _ same
  · rw [first, second]
    exact .error _ same

/-- A directory excuses a fault in both trees or in none. -/
theorem unlessDirectory (path : Path) (fault : FileFault) :
    Alike (unlessDirectory path fault) (unlessDirectory path fault) := by
  intro tree other same
  change AlikeResults
    ((if tree.isDirectory path = true then Pure.pure () else MonadExcept.throw fault : Action Unit) tree)
    ((if other.isDirectory path = true then Pure.pure () else MonadExcept.throw fault : Action Unit) other)
  rw [same.isDirectory path]
  split
  · exact .ok () same
  · exact .error fault same

theorem ensureDirectory (path : Path) : Alike (ensureDirectory path) (ensureDirectory path) := by
  unfold Action.ensureDirectory
  refine (makeDirectory path).attempt.bind fun result => ?_
  cases result with
  | ok value => exact pure ()
  | error fault => exact unlessDirectory path fault

/-- Directories are made on the same way, and so are those that lead to them. -/
theorem ensureDirectories (n : Nat) (path : Path) :
    Alike (ensureDirectories n path) (ensureDirectories n path) := by
  induction n generalizing path with
  | zero => exact ensureDirectory path
  | succ n inductionHypothesis =>
    unfold Action.ensureDirectories
    refine (makeDirectory path).attempt.bind fun result => ?_
    cases result with
    | ok value => exact pure ()
    | error fault =>
      cases fault with
      | notFound missing =>
        exact (inductionHypothesis path.parent).bind fun _ => ensureDirectory path
      | _ => exact unlessDirectory path _

/-- A file can be written or not, whatever is to be written. -/
theorem write (path : Path) (content other : ByteArray) :
    Alike (write path content) (write path other) := by
  refine (locate path).bind fun place tree holding same => ?_
  rw [get_bind, get_bind]
  rcases same.cases_lookup? place with
    ⟨first, second⟩ | ⟨first, second⟩ | ⟨held, holds, first, second⟩
  · have free : tree.lookup? place ≠ some .directory := by simp [first]
    rw [first, second]
    exact .ok () (same.put free rfl)
  · rw [first, second]
    exact .error _ same
  · have free : tree.lookup? place ≠ some .directory := by simp [first]
    rw [first, second]
    exact .ok () (same.put free rfl)

theorem writeUnder (root : Path) (names : List String) (content other : ByteArray) :
    Alike (writeUnder root names content) (writeUnder root names other) :=
  (ensureDirectories _ _).bind fun _ => write (root.under names) content other

end Alike

end Action

end Files
end PolicyStudio
