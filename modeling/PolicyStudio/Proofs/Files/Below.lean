import PolicyStudio.Proofs.Files.Growing

/-!
# Changes below a directory

A file is written below a directory by names that do not go up, after all directories on
the way to it were made.  Then whatever changed is below that directory, or it is a new
directory that leads to it.  If the directory was there before, all changes are below it.

The path of the directory itself may go up, and it may go through directories that have
to be made first.
-/

namespace PolicyStudio
namespace Files

/-- The path that goes on by names. -/
def Path.under (path : Path) (names : List String) : Path :=
  { path with names := path.names ++ names }

namespace Tree

variable {tree before middle after : Tree} {root path earlier : Path} {place location : Location}
  {names : List String}

/-- Nothing changed but what is below the place to which a path leads, on the way that the
names go, and new directories on the way to that place. -/
structure ChangesBelow (root : Path) (names : List String) (before after : Tree) : Prop
    extends Keeps before after where
  changed : ∀ location, after.lookup? location ≠ before.lookup? location →
    (∃ place below, after.Leads root place ∧ below ≠ [] ∧ below <+: names ∧
      location = place ++ below) ∨
    (before.lookup? location = none ∧ after.lookup? location = some .directory ∧
      ∃ earlier, root.OnTheWay earlier ∧ after.Leads earlier location)

/-- A path that goes on by names that do not go up leads below the place of its beginning. -/
theorem exists_of_leads (level : Path.up ∉ names)
    (led : tree.Leads (root.under names) location) :
    ∃ place, tree.Leads root place ∧ location = place ++ names := by
  rcases follow_append.mp led with ⟨place, first, second⟩
  exact ⟨place, follow_of_follow first, eq_append_of_follow level second⟩

/-- What is on the way to a place below a directory is on the way to the directory, or
below it. -/
theorem below_or_onTheWay (level : Path.up ∉ names)
    (before : (root.under names).OnTheWay earlier)
    (led : tree.Leads earlier location) :
    (∃ place below, tree.Leads root place ∧ below ≠ [] ∧ below <+: names ∧
      location = place ++ below) ∨ root.OnTheWay earlier := by
  rcases earlier with ⟨start, steps⟩
  rcases before with ⟨rfl, included⟩
  rcases List.prefix_or_prefix_of_prefix included (List.prefix_append root.names names) with
    onTheWay | ⟨below, equal⟩
  · exact Or.inr ⟨rfl, onTheWay⟩
  · dsimp only at equal
    subst equal
    have onward : below <+: names := (List.prefix_append_right_inj root.names).mp included
    by_cases none : below = []
    · subst none
      rw [List.append_nil]
      exact Or.inr ⟨rfl, List.prefix_rfl⟩
    · have down : Path.up ∉ below := fun member => level (onward.subset member)
      have onto : tree.Leads (root.under below) location := led
      rcases exists_of_leads down onto with ⟨place, reached, equal⟩
      exact Or.inl ⟨place, below, reached, none, onward, equal⟩

/-- All places on the way to a directory that is there are directories. -/
theorem lookup?_of_onTheWay (led : tree.Leads root place)
    (there : tree.lookup? place = some .directory) (onTheWay : root.OnTheWay earlier) :
    ∃ reached, tree.Leads earlier reached ∧ tree.lookup? reached = some .directory := by
  rcases root with ⟨start, names⟩
  rcases earlier with ⟨same, steps⟩
  rcases onTheWay with ⟨rfl, further, rfl⟩
  rcases follow_append.mp led with ⟨reached, first, second⟩
  refine ⟨reached, follow_of_follow first, ?_⟩
  cases further with
  | nil =>
    cases second
    exact there
  | cons name rest => exact (follow_cons_eq_ok.mp second).1

namespace ChangesBelow

/-- Directories are made on the way to a place, and nothing else changes. -/
theorem of_grows (level : Path.up ∉ names)
    (grows : Grows (root.under names).OnTheWay before after) :
    ChangesBelow root names before after where
  toKeeps := grows.toKeeps
  changed location different := by
    rcases grows.changed location different with ⟨absent, made, earlier, given, led⟩
    exact (below_or_onTheWay level given led).imp_right fun onTheWay =>
      ⟨absent, made, earlier, onTheWay, led⟩

/-- Then a file is written at that place. -/
theorem put (changes : ChangesBelow root names before middle) (some : names ≠ [])
    (level : Path.up ∉ names)
    (led : middle.Leads (root.under names) place)
    (free : middle.lookup? place ≠ .some .directory) (content : ByteArray) :
    ChangesBelow root names before (middle.put place (.file content)) := by
  have keeps := Keeps.put (.file content) free
  refine ⟨changes.toKeeps.trans keeps, fun location different => ?_⟩
  by_cases same : location = place
  · subst same
    rcases exists_of_leads level (keeps.leads led) with ⟨reached, rooted, equal⟩
    exact Or.inl ⟨reached, names, rooted, some, List.prefix_rfl, equal⟩
  · have unchanged := lookup?_put middle (.file content) (ne_nil_of_free free) location
    rw [if_neg same] at unchanged
    rw [unchanged] at different ⊢
    rcases changes.changed location different with
      ⟨reached, onward, rooted, several, included, equal⟩ | ⟨absent, made, earlier, onTheWay, led⟩
    · exact Or.inl ⟨reached, onward, keeps.leads rooted, several, included, equal⟩
    · exact Or.inr ⟨absent, made, earlier, onTheWay, keeps.leads led⟩

/-- Where the directory is there already, nothing changed but what is below it. -/
theorem of_directory (changes : ChangesBelow root names before after) (led : before.Leads root place)
    (there : before.lookup? place = some .directory)
    (different : after.lookup? location ≠ before.lookup? location) :
    ∃ below, below ≠ [] ∧ below <+: names ∧ location = place ++ below := by
  have afterwards := changes.leads led
  rcases changes.changed location different with
    ⟨reached, below, rooted, several, included, equal⟩ | ⟨absent, -, earlier, onTheWay, leading⟩
  · have same : place = reached := Except.ok.inj (afterwards.symm.trans rooted)
    exact ⟨below, several, included, same ▸ equal⟩
  · rcases lookup?_of_onTheWay led there onTheWay with ⟨passed, first, directory⟩
    have same : passed = location := Except.ok.inj ((changes.leads first).symm.trans leading)
    rw [same, absent] at directory
    cases directory

end ChangesBelow

end Tree

namespace Action

variable {root : Path} {names : List String}

/-- Make the directories that lead to a file, and write it. -/
def writeUnder (root : Path) (names : List String) (content : ByteArray) : Action Unit := do
  makeDirectories (root.under names).parent
  write (root.under names) content

/-- Whether or not it can be written, all that changes is below the directory. -/
theorem changesBelow_writeUnder (root : Path) (some : names ≠ []) (level : Path.up ∉ names)
    (content : ByteArray) (tree : Tree) :
    Tree.ChangesBelow root names tree ((writeUnder root names content).after tree) := by
  have grows : Grows (root.under names).OnTheWay (makeDirectories (root.under names).parent) :=
    (grows_makeDirectories _).mono fun _ => Path.OnTheWay.of_parent
  have made := Tree.ChangesBelow.of_grows level (grows tree)
  rw [writeUnder, after_bind]
  unfold after at made
  cases result : makeDirectories (root.under names).parent tree with
  | error fault middle =>
    rw [result] at made
    exact made
  | ok value middle =>
    rw [result] at made
    dsimp only
    rcases write_cases (root.under names) content middle with
      ⟨fault, failed⟩ | ⟨place, located, free, written⟩
    · rw [after, failed]
      exact made
    · rw [after, written]
      exact made.put some level (Tree.leads_of_locate located) free content

/-- If it can be written, it is where the names lead from the directory. -/
theorem lookup?_writeUnder (level : Path.up ∉ names) {content : ByteArray} {tree final : Tree}
    (written : writeUnder root names content tree = .ok () final) :
    ∃ place, final.Leads root place ∧ final.lookup? (place ++ names) = some (.file content) := by
  rcases Outcome.bind_state_eq_ok.mp written with ⟨value, middle, -, last⟩
  rcases write_eq_ok.mp last with ⟨place, located, free, rfl⟩
  have onward := (Tree.Keeps.put (.file content) free).leads (Tree.leads_of_locate located)
  rcases Tree.exists_of_leads level onward with ⟨reached, rooted, rfl⟩
  refine ⟨reached, rooted, ?_⟩
  rw [Tree.lookup?_put middle _ (Tree.ne_nil_of_free free), if_pos rfl]

end Action

end Files
end PolicyStudio
