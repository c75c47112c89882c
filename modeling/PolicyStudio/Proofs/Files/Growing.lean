import PolicyStudio.Files.Tree
import PolicyStudio.Proofs.Outcome

/-!
# What actions do to files

Making directories adds directories where nothing was, each at a place to which one of
the given paths leads, and leaves everything else.  `Grows` says so.  It can be composed,
so it holds of a whole action if it holds of the parts, whether or not the action fails
on the way.

Directories are never taken away.  So a path that leads somewhere leads there afterwards.
-/

namespace PolicyStudio
namespace Files

/-! ## Ways -/

namespace Path

/-- The earlier path is the other one, or it stops on the way. -/
def OnTheWay (path earlier : Path) : Prop :=
  earlier.start = path.start ∧ earlier.names <+: path.names

theorem OnTheWay.of_eq {path earlier : Path} (same : earlier = path) : path.OnTheWay earlier := by
  subst same
  exact ⟨rfl, List.prefix_rfl⟩

theorem OnTheWay.of_parent {path earlier : Path} (before : path.parent.OnTheWay earlier) :
    path.OnTheWay earlier :=
  ⟨before.1, before.2.trans (List.dropLast_prefix _)⟩

end Path

namespace Tree

variable {tree before middle after : Tree} {path other : Path} {place location : Location}
  {names more : List String} {name : String}

/-! ## Places -/

/-- What is not at the place is not changed by leaving out the place. -/
theorem lookup_filter_of_ne (entries : List (Location × Entry)) (different : location ≠ place) :
    (entries.filter fun entry => entry.1 != place).lookup location = entries.lookup location := by
  induction entries with
  | nil => rfl
  | cons entry rest inductionHypothesis =>
    rcases entry with ⟨own, held⟩
    by_cases same : own = place
    · subst same
      have unequal : (location == own) = false := beq_false_of_ne different
      rw [List.filter_cons_of_neg (by simp), inductionHypothesis, List.lookup_cons, unequal]
    · have kept : (own != place) = true := bne_iff_ne.mpr same
      rw [List.filter_cons, if_pos kept, List.lookup_cons, List.lookup_cons, inductionHypothesis]

/-- There is a directory at the top, so a place where none is has a name. -/
theorem ne_nil_of_free (free : tree.lookup? place ≠ some .directory) : place ≠ [] := by
  rintro rfl
  exact free rfl

/-- Something that is put at a place is there, and nothing else has changed. -/
theorem lookup?_put (tree : Tree) (entry : Entry) (below : place ≠ []) (location : Location) :
    (tree.put place entry).lookup? location =
      if location = place then some entry else tree.lookup? location := by
  have left : ∀ other : Location, (tree.put place entry).entries.lookup other =
      ((tree.entries.filter fun held => held.1 != place).lookup other).or
        (List.lookup other [(place, entry)]) :=
    fun other => List.lookup_append
  by_cases same : location = place
  · subst same
    have absent : (tree.entries.filter fun held => held.1 != location).lookup location = none := by
      refine List.lookup_eq_none_iff.mpr fun held listed => ?_
      have different := bne_iff_ne.mp (List.mem_filter.mp listed).2
      exact bne_iff_ne.mpr fun equal => different equal.symm
    rw [lookup?, if_neg (by simpa using below), left, absent, if_pos rfl]
    simp
  · have unequal : (location == place) = false := beq_false_of_ne same
    rw [if_neg same, lookup?, lookup?, left, lookup_filter_of_ne _ same, List.lookup_cons, unequal]
    simp

/-- The place at which a path starts. -/
def origin (tree : Tree) (path : Path) : Location :=
  if path.isAbsolute then [] else tree.workplace

/-- The names of a path lead to a place, where something may be or not. -/
def Leads (tree : Tree) (path : Path) (place : Location) : Prop :=
  tree.follow path (tree.origin path) path.names = .ok place

/-- A path that is located leads to its place. -/
theorem leads_of_locate (located : tree.locate path = .ok place) : tree.Leads path place := by
  unfold locate at located
  split at located
  · cases located
  · split at located
    · cases located
    · exact located

/-- The place next to one, by name. -/
def next (place : Location) (name : String) : Location :=
  if name = Path.up then place.dropLast else place ++ [name]

/-- A name leads on from a directory, unless it is too long. -/
theorem follow_cons_eq_ok : tree.follow path place (name :: rest) = .ok location ↔
    tree.lookup? place = some .directory ∧ (name = Path.up ∨ name.utf8ByteSize ≤ longestName) ∧
      tree.follow path (next place name) rest = .ok location := by
  rw [follow, next]
  cases tree.lookup? place with
  | none => simp
  | some entry =>
    cases entry with
    | file content => simp
    | directory =>
      by_cases up : name = Path.up
      · simp [up]
      · by_cases long : longestName < name.utf8ByteSize
        · simp [up, long, Nat.not_le_of_lt long]
        · simp [up, long, Nat.le_of_not_lt long]

/-- Names lead where they led if the directories on the way are still there.  The path itself is
only told in faults. -/
theorem follow_of_directories {before after : Tree} (kept : ∀ location,
      before.lookup? location = some .directory → after.lookup? location = some .directory)
    (followed : before.follow path place names = .ok location) :
    after.follow other place names = .ok location := by
  induction names generalizing place with
  | nil => exact followed
  | cons name rest inductionHypothesis =>
    rcases follow_cons_eq_ok.mp followed with ⟨there, short, further⟩
    exact follow_cons_eq_ok.mpr ⟨kept place there, short, inductionHypothesis further⟩

theorem follow_of_follow (followed : tree.follow path place names = .ok location) :
    tree.follow other place names = .ok location :=
  follow_of_directories (fun _ there => there) followed

/-- More names are followed from where the first ones lead. -/
theorem follow_append : tree.follow path place (names ++ more) = .ok location ↔
    ∃ reached, tree.follow path place names = .ok reached ∧
      tree.follow path reached more = .ok location := by
  induction names generalizing place with
  | nil => simp [follow]
  | cons name rest inductionHypothesis =>
    rw [List.cons_append, follow_cons_eq_ok, inductionHypothesis]
    simp only [follow_cons_eq_ok]
    constructor
    · rintro ⟨there, short, reached, first, second⟩
      exact ⟨reached, ⟨there, short, first⟩, second⟩
    · rintro ⟨reached, ⟨there, short, first⟩, second⟩
      exact ⟨there, short, reached, first, second⟩

/-- Names that never go up lead down, from a directory. -/
theorem eq_append_of_follow (level : Path.up ∉ names)
    (followed : tree.follow path place names = .ok location) : location = place ++ names := by
  induction names generalizing place with
  | nil =>
    cases followed
    rw [List.append_nil]
  | cons name rest inductionHypothesis =>
    have down : name ≠ Path.up := fun equal => level (equal ▸ List.mem_cons_self)
    have further := (follow_cons_eq_ok.mp followed).2.2
    rw [next, if_neg down] at further
    rw [inductionHypothesis (fun member => level (List.mem_cons_of_mem _ member)) further,
      List.append_assoc, List.singleton_append]

/-! ## Growth -/

/-- All directories of a tree are in another one, too. -/
structure Keeps (before after : Tree) : Prop where
  workplace : after.workplace = before.workplace
  directory : ∀ location, before.lookup? location = some .directory →
    after.lookup? location = some .directory

namespace Keeps

theorem refl (tree : Tree) : Keeps tree tree := ⟨rfl, fun _ there => there⟩

theorem trans (first : Keeps before middle) (second : Keeps middle after) : Keeps before after where
  workplace := second.workplace.trans first.workplace
  directory location there := second.directory location (first.directory location there)

/-- What is put where no directory is takes none away. -/
theorem put (entry : Entry) (free : tree.lookup? place ≠ some .directory) :
    Keeps tree (tree.put place entry) where
  workplace := rfl
  directory location there := by
    have different : location ≠ place := by
      rintro rfl
      exact free there
    rwa [lookup?_put tree entry (ne_nil_of_free free), if_neg different]

theorem follow (keeps : Keeps before after)
    (followed : before.follow path place names = .ok location) :
    after.follow path place names = .ok location :=
  follow_of_directories keeps.directory followed

theorem origin (keeps : Keeps before after) (path : Path) : after.origin path = before.origin path := by
  rw [Tree.origin, Tree.origin, keeps.workplace]

/-- A path leads where it led before. -/
theorem leads (keeps : Keeps before after) (led : before.Leads path place) :
    after.Leads path place := by
  rw [Leads, keeps.origin]
  exact keeps.follow led

end Keeps

/-- Some directories were made where nothing was, each where one of the paths leads. -/
structure Grows (paths : Path → Prop) (before after : Tree) : Prop extends Keeps before after where
  changed : ∀ location, after.lookup? location ≠ before.lookup? location →
    before.lookup? location = none ∧ after.lookup? location = some .directory ∧
      ∃ path, paths path ∧ after.Leads path location

namespace Grows

variable {paths wider : Path → Prop}

theorem refl (tree : Tree) : Grows paths tree tree :=
  ⟨.refl tree, fun _ different => absurd rfl different⟩

theorem mono (grows : Grows paths before after) (included : ∀ path, paths path → wider path) :
    Grows wider before after where
  toKeeps := grows.toKeeps
  changed location different := by
    rcases grows.changed location different with ⟨absent, made, path, given, led⟩
    exact ⟨absent, made, path, included path given, led⟩

theorem trans (first : Grows paths before middle) (second : Grows paths middle after) :
    Grows paths before after where
  toKeeps := first.toKeeps.trans second.toKeeps
  changed location different := by
    by_cases same : middle.lookup? location = before.lookup? location
    · rw [← same] at different ⊢
      exact second.changed location different
    · rcases first.changed location same with ⟨absent, made, path, given, led⟩
      exact ⟨absent, second.directory location made, path, given, second.leads led⟩

/-- A directory is made where a path leads and nothing is. -/
theorem put (given : paths path) (led : tree.Leads path place) (absent : tree.lookup? place = none) :
    Grows paths tree (tree.put place .directory) := by
  have free : tree.lookup? place ≠ some .directory := absent ▸ nofun
  refine ⟨.put .directory free, fun location different => ?_⟩
  rw [lookup?_put tree .directory (ne_nil_of_free free)] at different ⊢
  by_cases same : location = place
  · subst same
    exact ⟨absent, if_pos rfl, path, given, (Keeps.put .directory free).leads led⟩
  · rw [if_neg same] at different
    exact absurd rfl different

/-- A file that is there was there. -/
theorem lookup?_of_file (grows : Grows paths before after) {content : ByteArray}
    (held : after.lookup? location = some (.file content)) :
    before.lookup? location = some (.file content) := by
  by_cases same : after.lookup? location = before.lookup? location
  · exact same.symm.trans held
  · rcases grows.changed location same with ⟨-, made, -⟩
    rw [held] at made
    cases made

/-- No file is lost or changed. -/
theorem lookup?_eq_file_iff (grows : Grows paths before after) (location : Location)
    (content : ByteArray) : after.lookup? location = some (.file content) ↔
      before.lookup? location = some (.file content) := by
  refine ⟨grows.lookup?_of_file, fun held => ?_⟩
  by_cases same : after.lookup? location = before.lookup? location
  · exact same.trans held
  · rcases grows.changed location same with ⟨absent, -⟩
    rw [held] at absent
    cases absent

end Grows

end Tree

namespace Action

/-- The files after an action, which may fail. -/
def after {α : Type} (action : Action α) (tree : Tree) : Tree :=
  match action tree with
  | .ok _ tree => tree
  | .error _ tree => tree

/-- Whatever the files are, the action only makes directories where the paths lead. -/
def Grows {α : Type} (paths : Path → Prop) (action : Action α) : Prop :=
  ∀ tree, Tree.Grows paths tree (action.after tree)

theorem after_bind {α β : Type} (action : Action α) (next : α → Action β) (tree : Tree) :
    (action >>= next).after tree = match action tree with
      | .ok value tree => (next value).after tree
      | .error _ tree => tree := by
  change (match EStateM.bind action next tree with
    | .ok _ tree => tree
    | .error _ tree => tree) = _
  unfold EStateM.bind
  cases action tree with
  | ok value tree => rfl
  | error fault tree => rfl

/-- An action goes on where the one before succeeded. -/
theorem bind_of_ok {α β : Type} {action : Action α} {tree middle : Tree} {value : α}
    (next : α → Action β) (done : action tree = .ok value middle) :
    (action >>= next) tree = next value middle := by
  change EStateM.bind action next tree = next value middle
  rw [EStateM.bind, done]

/-- A fault ends the action. -/
theorem bind_of_error {α β : Type} {action : Action α} {tree middle : Tree} {fault : FileFault}
    (next : α → Action β) (failed : action tree = .error fault middle) :
    (action >>= next) tree = .error fault middle := by
  change EStateM.bind action next tree = .error fault middle
  rw [EStateM.bind, failed]

namespace Grows

variable {α β : Type} {paths wider : Path → Prop} {action : Action α}

theorem mono (grows : Grows paths action) (included : ∀ path, paths path → wider path) :
    Grows wider action :=
  fun tree => (grows tree).mono included

/-- What a successful action leaves. -/
theorem of_eq_ok (grows : Grows paths action) {before after : Tree} {value : α}
    (done : action before = .ok value after) : Tree.Grows paths before after := by
  have whole := grows before
  rwa [Action.after, done] at whole

/-- What leaves the files as they are does not make any. -/
theorem still (unchanged : ∀ tree, action.after tree = tree) : Grows paths action := by
  intro tree
  rw [unchanged tree]
  exact .refl tree

theorem bind {next : α → Action β} (grows : Grows paths action)
    (further : ∀ value, Grows paths (next value)) : Grows paths (action >>= next) := by
  intro tree
  have first := grows tree
  rw [after_bind]
  unfold after at first
  cases result : action tree with
  | ok value middle =>
    rw [result] at first
    exact first.trans (further value middle)
  | error fault middle =>
    rw [result] at first
    exact first

/-- A fault that is turned into a value has the same effect. -/
theorem attempt (grows : Grows paths action) : Grows paths action.attempt := by
  intro tree
  have same : action.attempt.after tree = action.after tree := by
    unfold after Action.attempt
    cases action tree with
    | ok value tree => rfl
    | error fault tree => rfl
  rw [same]
  exact grows tree

end Grows

/-- What is looked up is handed on. -/
theorem ofTree_bind_of_ok {α β : Type} {look : Tree → Except FileFault α} {tree : Tree} {value : α}
    (next : α → Action β) (seen : look tree = .ok value) :
    (ofTree look >>= next) tree = next value tree :=
  bind_of_ok next (by rw [ofTree, seen])

/-- What cannot be looked up ends the action. -/
theorem ofTree_bind_of_error {α β : Type} {look : Tree → Except FileFault α} {tree : Tree}
    {fault : FileFault} (next : α → Action β) (failed : look tree = .error fault) :
    (ofTree look >>= next) tree = .error fault tree :=
  bind_of_error next (by rw [ofTree, failed])

/-- The files are looked at as they are. -/
theorem get_bind {α : Type} (next : Tree → Action α) (tree : Tree) :
    (get >>= next : Action α) tree = next tree tree :=
  rfl

/-- Making a directory hangs on what is where the path leads. -/
theorem makeDirectory_eq {path : Path} {tree : Tree} {place : Location}
    (located : tree.locate path = .ok place) : makeDirectory path tree =
      match tree.lookup? place with
      | some _ => .error (.exists path) tree
      | none => .ok () (tree.put place .directory) := by
  rw [makeDirectory, ofTree_bind_of_ok _ located, get_bind]
  cases tree.lookup? place <;> rfl

/-- What making a directory does: it fails, or the directory is new. -/
theorem makeDirectory_cases (path : Path) (tree : Tree) :
    (∃ fault, makeDirectory path tree = .error fault tree) ∨
      ∃ place, tree.locate path = .ok place ∧ tree.lookup? place = none ∧
        makeDirectory path tree = .ok () (tree.put place .directory) := by
  cases located : tree.locate path with
  | error fault => exact Or.inl ⟨fault, ofTree_bind_of_error _ located⟩
  | ok place =>
    rw [makeDirectory_eq located]
    cases found : tree.lookup? place with
    | some entry => exact Or.inl ⟨.exists path, rfl⟩
    | none => exact Or.inr ⟨place, rfl, found, rfl⟩

theorem grows_makeDirectory (path : Path) : Grows (· = path) (makeDirectory path) := by
  intro tree
  rcases makeDirectory_cases path tree with ⟨fault, failed⟩ | ⟨place, located, absent, made⟩
  · rw [after, failed]
    exact .refl tree
  · rw [after, made]
    exact .put rfl (Tree.leads_of_locate located) absent

/-- Fail, unless there is a directory already. -/
def unlessDirectory (path : Path) (fault : FileFault) : Action Unit := do
  if (← get).isDirectory path then return
  throw fault

/-- A fault that a directory excuses changes nothing. -/
theorem grows_unlessDirectory {paths : Path → Prop} (path : Path) (fault : FileFault) :
    Grows paths (unlessDirectory path fault) := by
  refine .still fun tree => ?_
  change (if tree.isDirectory path = true then pure () else throw fault : Action Unit).after tree = tree
  split <;> rfl

theorem grows_ensureDirectory (path : Path) : Grows (· = path) (ensureDirectory path) := by
  unfold ensureDirectory
  refine (grows_makeDirectory path).attempt.bind fun result => ?_
  cases result with
  | ok value => exact .still fun _ => rfl
  | error fault => exact grows_unlessDirectory path fault

/-- All that is made on the way to a directory is on the way to it. -/
theorem grows_ensureDirectories (n : Nat) (path : Path) :
    Grows path.OnTheWay (ensureDirectories n path) := by
  induction n generalizing path with
  | zero => exact (grows_ensureDirectory path).mono fun _ => .of_eq
  | succ n inductionHypothesis =>
    have directory := (grows_makeDirectory path).mono fun _ => Path.OnTheWay.of_eq
    have leading := (inductionHypothesis path.parent).mono fun _ => Path.OnTheWay.of_parent
    have last := (grows_ensureDirectory path).mono fun _ => Path.OnTheWay.of_eq
    unfold ensureDirectories
    refine directory.attempt.bind fun result => ?_
    cases result with
    | ok value => exact .still fun _ => rfl
    | error fault =>
      cases fault with
      | notFound missing => exact leading.bind fun _ => last
      | _ => exact grows_unlessDirectory path _

theorem grows_makeDirectories (path : Path) : Grows path.OnTheWay (makeDirectories path) :=
  grows_ensureDirectories path.names.length path

/-- Writing a file hangs on what is where the path leads. -/
theorem write_eq {path : Path} {tree : Tree} {place : Location}
    (located : tree.locate path = .ok place) (content : ByteArray) : write path content tree =
      match tree.lookup? place with
      | some .directory => .error (.isDirectory path) tree
      | _ => .ok () (tree.put place (.file content)) := by
  rw [write, ofTree_bind_of_ok _ located, get_bind]
  cases tree.lookup? place with
  | none => rfl
  | some entry => cases entry <;> rfl

theorem write_of_free {path : Path} {tree : Tree} {place : Location}
    (located : tree.locate path = .ok place) (free : tree.lookup? place ≠ some .directory)
    (content : ByteArray) : write path content tree = .ok () (tree.put place (.file content)) := by
  rw [write_eq located]
  split
  · next directory => exact absurd directory free
  · rfl

/-- What writing a file does: it fails, or the file is where the path leads, which was no
directory. -/
theorem write_cases (path : Path) (content : ByteArray) (tree : Tree) :
    (∃ fault, write path content tree = .error fault tree) ∨
      ∃ place, tree.locate path = .ok place ∧ tree.lookup? place ≠ some .directory ∧
        write path content tree = .ok () (tree.put place (.file content)) := by
  cases located : tree.locate path with
  | error fault => exact Or.inl ⟨fault, ofTree_bind_of_error _ located⟩
  | ok place =>
    by_cases directory : tree.lookup? place = some .directory
    · refine Or.inl ⟨.isDirectory path, ?_⟩
      rw [write_eq located, directory]
    · exact Or.inr ⟨place, rfl, directory, write_of_free located directory content⟩

/-- Writing succeeds where no directory is, and then the file is there. -/
theorem write_eq_ok {path : Path} {content : ByteArray} {before after : Tree} :
    write path content before = .ok () after ↔
      ∃ place, before.locate path = .ok place ∧ before.lookup? place ≠ some .directory ∧
        after = before.put place (.file content) := by
  constructor
  · intro written
    rcases write_cases path content before with ⟨fault, failed⟩ | ⟨place, located, free, put⟩
    · rw [failed] at written
      cases written
    · rw [put] at written
      cases written
      exact ⟨place, located, free, rfl⟩
  · rintro ⟨place, located, free, rfl⟩
    exact write_of_free located free content

end Action

end Files
end PolicyStudio
