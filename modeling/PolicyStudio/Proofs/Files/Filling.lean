import PolicyStudio.Proofs.Files.Below

/-!
# Filling a directory

Files are written below a directory, one after the other, each after the directories that lead
to it were made.  What this comes to is told at once: which files the directory is to hold, by
the names that lead to them.  `Filled` says that they are there, that the directories on their
ways are there, and that nothing else has changed.

So the tree that filling leaves is determined by the tree before it, whichever steps were taken.
In particular a file that is written twice holds what was written last, and filling a directory
twice with files of the same names is filling it once, with those of the second time.
-/

namespace PolicyStudio
namespace Files

/-- What files a directory is to hold: their contents, by the names that lead to them. -/
abbrev Contents := List String → Option ByteArray

namespace Contents

/-- One file. -/
def single (names : List String) (content : ByteArray) : Contents :=
  fun other => if other = names then some content else none

/-- Later files, and earlier ones where no later one takes their place. -/
def onto (later earlier : Contents) : Contents :=
  fun names => (later names).or (earlier names)

variable {later earlier : Contents} {names : List String}

theorem single_isSome {other : List String} {content : ByteArray} :
    (single names content other).isSome = true ↔ other = names := by
  by_cases same : other = names <;> simp [single, same]

theorem onto_isSome : (later.onto earlier names).isSome = true ↔
    (later names).isSome = true ∨ (earlier names).isSome = true := by
  rw [onto, Option.isSome_or, Bool.or_eq_true]

/-- Files for the same names take the place of all earlier ones. -/
theorem onto_eq_of_isSome
    (covered : ∀ names, (earlier names).isSome = true → (later names).isSome = true) :
    later.onto earlier = later := by
  funext names
  rw [onto]
  cases newer : later names with
  | some content => rfl
  | none =>
    cases older : earlier names with
    | none => rfl
    | some content =>
      have found := covered names (older ▸ rfl)
      rw [newer] at found
      cases found

end Contents

namespace Tree

variable {before middle after other : Tree} {root path : Path} {place location reached : Location}
  {contents later earlier : Contents} {names : List String} {content : ByteArray}

/-- Where a path leads is read off its names, if it leads anywhere. -/
theorem eq_foldl_of_follow (followed : before.follow path place names = .ok location) :
    location = names.foldl next place := by
  induction names generalizing place with
  | nil =>
    cases followed
    rfl
  | cons name rest inductionHypothesis =>
    exact inductionHypothesis (follow_cons_eq_ok.mp followed).2.2

/-- A path leads to one place in all trees with one working directory. -/
theorem eq_of_leads (workplace : other.workplace = before.workplace)
    (led : before.Leads path place) (leading : other.Leads path reached) : place = reached := by
  have same : other.origin path = before.origin path := by
    rw [origin, origin, workplace]
  rw [eq_foldl_of_follow led, eq_foldl_of_follow leading, same]

/-- Where a path with a name leads somewhere, what leads to its last name is a directory. -/
theorem exists_directory_of_leads (several : names ≠ [])
    (led : before.Leads (root.under names) location) :
    ∃ place, before.Leads (root.under names).parent place ∧
      before.lookup? place = some .directory := by
  have cut : (root.under names).parent.names ++ [names.getLast several] = root.names ++ names := by
    change (root.names ++ names).dropLast ++ [_] = _
    rw [List.dropLast_append_of_ne_nil several, List.append_assoc, List.dropLast_concat_getLast]
  have whole : before.follow (root.under names) (before.origin (root.under names))
      ((root.under names).parent.names ++ [names.getLast several]) = .ok location := by
    rw [cut]
    exact led
  rcases follow_append.mp whole with ⟨place, first, second⟩
  exact ⟨place, follow_of_follow first, (follow_cons_eq_ok.mp second).1⟩

/-- What leads to a file that the directory is to hold, short of the file. -/
def LeadsOn (root : Path) (contents : Contents) (path : Path) : Prop :=
  ∃ names, (contents names).isSome = true ∧ (root.under names).parent.OnTheWay path

/-- The place of a file that the directory is to hold. -/
def IsPlaceOf (root : Path) (contents : Contents) (tree : Tree) (location : Location) : Prop :=
  ∃ names place, (contents names).isSome = true ∧ tree.Leads root place ∧ location = place ++ names

/-- A directory holds the given files, the directories that lead to them are there, and nothing
else has changed. -/
structure Filled (root : Path) (contents : Contents) (before after : Tree) : Prop
    extends Keeps before after where
  file : ∀ names content, contents names = some content →
    ∃ place, after.Leads root place ∧ after.lookup? (place ++ names) = some (.file content)
  way : ∀ path, LeadsOn root contents path →
    ∃ location, after.Leads path location ∧ after.lookup? location = some .directory
  changed : ∀ location, after.lookup? location ≠ before.lookup? location →
    IsPlaceOf root contents after location ∨
    (before.lookup? location = none ∧ after.lookup? location = some .directory ∧
      ∃ path, LeadsOn root contents path ∧ after.Leads path location)

namespace Filled

/-- A file that is to be there is at the place to which the directory and its names lead. -/
theorem lookup?_eq (filled : Filled root contents before after) (led : after.Leads root place)
    (given : contents names = some content) :
    after.lookup? (place ++ names) = some (.file content) := by
  rcases filled.file names content given with ⟨reached, leading, held⟩
  have same : place = reached := Except.ok.inj (led.symm.trans leading)
  rw [same]
  exact held

/-- A file anywhere else holds what it held. -/
theorem lookup?_of_file (filled : Filled root contents before after)
    (held : before.lookup? location = some (.file content))
    (elsewhere : ¬ IsPlaceOf root contents after location) :
    after.lookup? location = some (.file content) := by
  by_cases same : after.lookup? location = before.lookup? location
  · exact same.trans held
  · rcases filled.changed location same with isPlace | ⟨absent, -⟩
    · exact absurd isPlace elsewhere
    · rw [held] at absent
      cases absent

/-- What was a file is a file, and may be another one. -/
theorem exists_file (filled : Filled root contents before after)
    (held : before.lookup? location = some (.file content)) :
    ∃ holds, after.lookup? location = some (.file holds) := by
  by_cases isPlace : IsPlaceOf root contents after location
  · rcases isPlace with ⟨names, place, isSome, led, rfl⟩
    rcases Option.isSome_iff_exists.mp isSome with ⟨holds, given⟩
    exact ⟨holds, filled.lookup?_eq led given⟩
  · exact ⟨content, filled.lookup?_of_file held isPlace⟩

/-- Filling once more: where files of the same names are written, the later ones count. -/
theorem trans (first : Filled root earlier before middle) (second : Filled root later middle after) :
    Filled root (later.onto earlier) before after where
  toKeeps := first.toKeeps.trans second.toKeeps
  file names content given := by
    cases newer : later names with
    | some written =>
      rw [Contents.onto, newer, Option.some_or] at given
      exact second.file names content (newer.trans given)
    | none =>
      rw [Contents.onto, newer, Option.none_or] at given
      rcases first.file names content given with ⟨place, led, held⟩
      have leading := second.leads led
      refine ⟨place, leading, second.lookup?_of_file held ?_⟩
      rintro ⟨names', place', isSome, led', equal⟩
      have samePlace : place = place' := Except.ok.inj (leading.symm.trans led')
      subst samePlace
      rw [← List.append_cancel_left equal, newer] at isSome
      cases isSome
  way path leadsOn := by
    rcases leadsOn with ⟨names, isSome, onTheWay⟩
    rcases Contents.onto_isSome.mp isSome with newer | older
    · exact second.way path ⟨names, newer, onTheWay⟩
    · rcases first.way path ⟨names, older, onTheWay⟩ with ⟨location, led, there⟩
      exact ⟨location, second.leads led, second.directory location there⟩
  changed location different := by
    have newer : ∀ names, (later names).isSome = true → (later.onto earlier names).isSome = true :=
      fun names isSome => Contents.onto_isSome.mpr (Or.inl isSome)
    have older : ∀ names, (earlier names).isSome = true → (later.onto earlier names).isSome = true :=
      fun names isSome => Contents.onto_isSome.mpr (Or.inr isSome)
    by_cases same : middle.lookup? location = before.lookup? location
    · rw [← same] at different ⊢
      rcases second.changed location different with
        ⟨names, place, isSome, led, equal⟩ | ⟨absent, made, path, ⟨names, isSome, onTheWay⟩, led⟩
      · exact Or.inl ⟨names, place, newer names isSome, led, equal⟩
      · exact Or.inr ⟨absent, made, path, ⟨names, newer names isSome, onTheWay⟩, led⟩
    · rcases first.changed location same with
        ⟨names, place, isSome, led, equal⟩ | ⟨absent, made, path, ⟨names, isSome, onTheWay⟩, led⟩
      · exact Or.inl ⟨names, place, older names isSome, second.leads led, equal⟩
      · exact Or.inr ⟨absent, second.directory location made, path,
          ⟨names, older names isSome, onTheWay⟩, second.leads led⟩

/-- What filling leaves at a place, read off the tree before it, unless it is the place of a
file. -/
theorem eq_or_new (filled : Filled root contents before after)
    (others : Filled root contents before other)
    (elsewhere : ¬ IsPlaceOf root contents after location)
    (different : after.lookup? location ≠ before.lookup? location) :
    after.lookup? location = other.lookup? location := by
  rcases filled.changed location different with isPlace | ⟨-, made, path, leadsOn, led⟩
  · exact absurd isPlace elsewhere
  · rcases others.way path leadsOn with ⟨reached, leading, there⟩
    have workplace := others.workplace.trans filled.workplace.symm
    rw [made, eq_of_leads workplace led leading, there]

/-- All ways of filling a directory with the same files leave the same. -/
theorem unique (filled : Filled root contents before after)
    (others : Filled root contents before other) (location : Location) :
    after.lookup? location = other.lookup? location := by
  have workplace : other.workplace = after.workplace :=
    others.workplace.trans filled.workplace.symm
  have samePlaces : ∀ names place, (contents names).isSome = true → other.Leads root place →
      after.Leads root place := by
    intro names place isSome leading
    rcases Option.isSome_iff_exists.mp isSome with ⟨content, given⟩
    rcases filled.file names content given with ⟨reached, led, -⟩
    rwa [← eq_of_leads workplace led leading]
  by_cases isPlace : IsPlaceOf root contents after location
  · rcases isPlace with ⟨names, place, isSome, led, rfl⟩
    rcases Option.isSome_iff_exists.mp isSome with ⟨content, given⟩
    rcases others.file names content given with ⟨reached, leading, held⟩
    rw [filled.lookup?_eq led given, eq_of_leads workplace led leading, held]
  · have isNoPlace : ¬ IsPlaceOf root contents other location := by
      rintro ⟨names, place, isSome, leading, equal⟩
      exact isPlace ⟨names, place, isSome, samePlaces names place isSome leading, equal⟩
    by_cases changed : after.lookup? location = before.lookup? location
    · by_cases changes : other.lookup? location = before.lookup? location
      · rw [changed, changes]
      · exact (others.eq_or_new filled isNoPlace changes).symm
    · exact filled.eq_or_new others isPlace changed

end Filled

end Tree

namespace Action

variable {root : Path} {names : List String} {content : ByteArray} {before after : Tree}

/-- Writing a file below a directory fills it with that file. -/
theorem filled_writeUnder (several : names ≠ []) (level : Path.up ∉ names)
    (written : writeUnder root names content before = .ok () after) :
    Tree.Filled root (.single names content) before after := by
  rcases Outcome.bind_state_eq_ok.mp written with ⟨value, middle, made, last⟩
  have grows := (grows_makeDirectories (root.under names).parent).of_eq_ok made
  rcases write_eq_ok.mp last with ⟨place, located, free, rfl⟩
  have keeps := Tree.Keeps.put (.file content) free
  have looked := Tree.lookup?_put middle (.file content) (Tree.ne_nil_of_free free)
  have onward := keeps.leads (Tree.leads_of_locate located)
  rcases Tree.exists_of_leads level onward with ⟨start, rooted, equal⟩
  refine ⟨grows.toKeeps.trans keeps, ?_, ?_, ?_⟩
  · intro others written given
    have same := Contents.single_isSome.mp (Option.isSome_iff_exists.mpr ⟨written, given⟩)
    subst same
    rw [Contents.single, if_pos rfl] at given
    cases given
    exact ⟨start, rooted, by rw [← equal, looked, if_pos rfl]⟩
  · rintro path ⟨others, isSome, onTheWay⟩
    rw [Contents.single_isSome.mp isSome] at onTheWay
    rcases Tree.exists_directory_of_leads several onward with ⟨holder, leading, there⟩
    exact Tree.lookup?_of_onTheWay leading there onTheWay
  · intro location different
    by_cases here : location = place
    · exact Or.inl ⟨names, start, Contents.single_isSome.mpr rfl, rooted, here.trans equal⟩
    · rw [looked, if_neg here] at different ⊢
      rcases grows.changed location different with ⟨absent, directory, path, onTheWay, leading⟩
      exact Or.inr ⟨absent, directory, path,
        ⟨names, Contents.single_isSome.mpr rfl, onTheWay⟩, keeps.leads leading⟩

end Action

end Files
end PolicyStudio
