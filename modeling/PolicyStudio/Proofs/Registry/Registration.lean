import Mathlib.Data.List.Nodup
import PolicyStudio.Proofs.Outcome
import PolicyStudio.Registry

/-!
# Which names can be registered

A name can be registered if it is a text that programs can use as a name.  Names with their
values can be registered together if each of them can be registered and no two of them are the
same; then the registry holds what was given, in the order in which it was given.

Otherwise the first name decides that cannot be registered behind those before it.  There are
five grounds to refuse a name, of which no two hold of one name at one place, and the message
shows the name.
-/

namespace PolicyStudio

open Script

/-! ## Names -/

/-- A word that is no keyword and does not begin with an underscore. -/
structure IsBindingName (name : String) : Prop where
  word : Text.isWord name.toList = true
  free : name ∉ keywords
  shows : name.toList.head? ≠ some '_'

namespace OfferedName

/-- A text that can be registered. -/
def IsUsable (offered : OfferedName) : Prop :=
  ∃ name, offered = .text name ∧ IsBindingName name

/-- A name as messages show it. -/
def shown : OfferedName → String
  | .text name => Text.quoted name
  | .other shown => shown

end OfferedName

/-- Why a name is refused that is offered behind others. -/
inductive RefusedBehind (earlier : List OfferedName) : OfferedName → RegistryFault → Prop
  | noText (shown : String) : RefusedBehind earlier (.other shown) (.notIdentifier shown)
  | noWord {name : String} (noWord : Text.isWord name.toList = false) :
    RefusedBehind earlier (.text name) (.notIdentifier (Text.quoted name))
  | keyword {name : String} (word : Text.isWord name.toList = true) (taken : name ∈ keywords) :
    RefusedBehind earlier (.text name) (.keyword name)
  | hidden {name : String} (word : Text.isWord name.toList = true) (free : name ∉ keywords)
    (hides : name.toList.head? = some '_') : RefusedBehind earlier (.text name) (.hidden name)
  | repeated {name : String} (usable : IsBindingName name) (known : .text name ∈ earlier) :
    RefusedBehind earlier (.text name) (.repeated name)

namespace RefusedBehind

variable {earlier : List OfferedName} {offered : OfferedName} {fault other : RegistryFault}

/-- What is refused cannot be used, or it is there already. -/
theorem not_usable_or_known (refused : RefusedBehind earlier offered fault) :
    ¬offered.IsUsable ∨ offered ∈ earlier := by
  cases refused with
  | noText shown =>
    refine Or.inl ?_
    rintro ⟨name, impossible, -⟩
    cases impossible
  | noWord noWord =>
    refine Or.inl ?_
    rintro ⟨name, equal, usable⟩
    cases equal
    exact Bool.false_ne_true (noWord.symm.trans usable.word)
  | keyword _ taken =>
    refine Or.inl ?_
    rintro ⟨name, equal, usable⟩
    cases equal
    exact usable.free taken
  | hidden _ _ hides =>
    refine Or.inl ?_
    rintro ⟨name, equal, usable⟩
    cases equal
    exact usable.shows hides
  | repeated _ known => exact Or.inr known

/-- There is one ground to refuse a name at a place. -/
theorem unique (first : RefusedBehind earlier offered fault)
    (second : RefusedBehind earlier offered other) : fault = other := by
  cases first <;> cases second <;> grind [IsBindingName]

/-- The message shows the name. -/
theorem exists_message (refused : RefusedBehind earlier offered fault) :
    ∃ front behind, fault.message = front ++ offered.shown ++ behind := by
  cases refused with
  | noText shown =>
    exact ⟨"Binding name must be a Python identifier, got ", "", String.append_empty.symm⟩
  | noWord _ =>
    exact ⟨"Binding name must be a Python identifier, got ", "", String.append_empty.symm⟩
  | keyword _ _ => exact ⟨"Binding name ", " is a Python keyword", rfl⟩
  | hidden _ _ _ => exact ⟨"Binding name ", " must not start with '_'", rfl⟩
  | repeated _ _ => exact ⟨"Duplicate binding name ", "", String.append_empty.symm⟩

end RefusedBehind

theorem startsWith_underscore_iff (name : String) :
    name.startsWith "_" = true ↔ name.toList.head? = some '_' := by
  have mark : "_".toList = ['_'] := rfl
  rw [String.startsWith_string_iff, mark]
  cases name.toList with
  | nil => simp
  | cons first rest => simp [List.cons_prefix_cons, eq_comm]

/-- A text is refused for itself unless programs can use it as a name. -/
theorem bindingNameFault?_eq_none_iff {name : String} :
    bindingNameFault? name = none ↔ IsBindingName name := by
  rw [bindingNameFault?]
  constructor
  · intro faultless
    split at faultless
    · cases faultless
    · next word =>
      split at faultless
      · cases faultless
      · next free =>
        split at faultless
        · cases faultless
        · next shows =>
          exact ⟨by simpa using word, by simpa using free,
            fun hides => shows ((startsWith_underscore_iff name).mpr hides)⟩
  · rintro ⟨word, free, shows⟩
    rw [if_neg (by simp [word]), if_neg (by simpa using free),
      if_neg fun hides => shows ((startsWith_underscore_iff name).mp hides)]

/-- The fault of a text for itself is the ground for which it is refused. -/
theorem refusedBehind_of_bindingNameFault? {name : String} {fault : RegistryFault}
    (faulty : bindingNameFault? name = some fault) (earlier : List OfferedName) :
    RefusedBehind earlier (.text name) fault := by
  rw [bindingNameFault?] at faulty
  split at faulty
  · next noWord =>
    cases faulty
    exact .noWord (by simpa using noWord)
  · next word =>
    have isWord : Text.isWord name.toList = true := by simpa using word
    split at faulty
    · next taken =>
      cases faulty
      exact .keyword isWord (List.contains_iff_mem.mp taken)
    · next free =>
      split at faulty
      · next hides =>
        cases faulty
        exact .hidden isWord (by simpa using free) ((startsWith_underscore_iff name).mp hides)
      · cases faulty

/-! ## Registries -/

namespace Registry

variable {registry grown : Registry} {offered : OfferedName} {value : Value} {fault : RegistryFault}
  {given accepted rest : List (OfferedName × Value)} {name : String}

/-- The names with their values, as they are offered. -/
def pairs (registry : Registry) : List (OfferedName × Value) :=
  registry.entries.map fun entry => (.text entry.1, entry.2)

/-- Each name can be registered, and no two are the same. -/
structure IsRegistrable (given : List (OfferedName × Value)) : Prop where
  usable : ∀ pair ∈ given, pair.1.IsUsable
  distinct : (given.map Prod.fst).Nodup

theorem map_fst_pairs (registry : Registry) :
    registry.pairs.map Prod.fst = registry.names.map .text := by
  rw [pairs, names, List.map_map, List.map_map]
  rfl

theorem text_injective : Function.Injective OfferedName.text :=
  fun _ _ equal => OfferedName.text.inj equal

/-- What is in a registry can be registered. -/
theorem isRegistrable_pairs (registry : Registry) : IsRegistrable registry.pairs where
  usable := by
    refine List.forall_mem_map.mpr fun entry listed => ⟨entry.1, rfl, ?_⟩
    exact bindingNameFault?_eq_none_iff.mp (registry.usable entry listed)
  distinct := by
    rw [map_fst_pairs]
    exact registry.distinct.map text_injective

/-- A name is registered behind all others, or it is refused. -/
theorem offer_cases (registry : Registry) (offered : OfferedName) (value : Value) :
    (∃ grown, registry.offer offered value = .ok grown ∧
      grown.pairs = registry.pairs ++ [(offered, value)]) ∨
    ∃ fault, registry.offer offered value = .error fault ∧
      RefusedBehind (registry.pairs.map Prod.fst) offered fault := by
  cases offered with
  | other shown => exact Or.inr ⟨_, rfl, .noText shown⟩
  | text name =>
    rw [offer, register]
    split
    · next fault faulty => exact Or.inr ⟨fault, rfl, refusedBehind_of_bindingNameFault? faulty _⟩
    · next faultless =>
      split
      · next known =>
        refine Or.inr ⟨_, rfl, .repeated (bindingNameFault?_eq_none_iff.mp faultless) ?_⟩
        rw [map_fst_pairs]
        exact List.mem_map_of_mem known
      · refine Or.inl ⟨_, rfl, ?_⟩
        rw [pairs, pairs, List.map_append]
        rfl

/-- Register names with their values, behind those of a registry. -/
def offerAll (registry : Registry) (given : List (OfferedName × Value)) :
    Except RegistryFault Registry :=
  given.foldlM (fun registry pair => registry.offer pair.1 pair.2) registry

theorem offerAll_cons_of_ok (registered : registry.offer offered value = .ok grown) :
    registry.offerAll ((offered, value) :: rest) = grown.offerAll rest := by
  rw [offerAll, List.foldlM_cons, registered]
  rfl

theorem offerAll_cons_of_error (refused : registry.offer offered value = .error fault) :
    registry.offerAll ((offered, value) :: rest) = .error fault := by
  rw [offerAll, List.foldlM_cons, refused]
  rfl

/-- All names are registered in their order, or the first one that is refused behind those
before it decides. -/
theorem offerAll_cases (registry : Registry) (given : List (OfferedName × Value)) :
    (∃ final, registry.offerAll given = .ok final ∧ final.pairs = registry.pairs ++ given) ∨
    ∃ accepted offered value rest fault, given = accepted ++ (offered, value) :: rest ∧
      registry.offerAll given = .error fault ∧ IsRegistrable (registry.pairs ++ accepted) ∧
      RefusedBehind ((registry.pairs ++ accepted).map Prod.fst) offered fault := by
  induction given generalizing registry with
  | nil => exact Or.inl ⟨registry, rfl, (List.append_nil _).symm⟩
  | cons pair rest inductionHypothesis =>
    rcases pair with ⟨offered, value⟩
    rcases registry.offer_cases offered value with
      ⟨grown, registered, pairs⟩ | ⟨fault, failed, refused⟩
    · rw [offerAll_cons_of_ok registered]
      have moved : ∀ more, grown.pairs ++ more = registry.pairs ++ (offered, value) :: more := by
        intro more
        rw [pairs, List.append_assoc, List.singleton_append]
      rcases inductionHypothesis grown with
        ⟨final, done, whole⟩ | ⟨accepted, other, otherValue, further, fault, split, failed, fine, refused⟩
      · exact Or.inl ⟨final, done, whole.trans (moved rest)⟩
      · rw [moved] at fine refused
        refine Or.inr ⟨(offered, value) :: accepted, other, otherValue, further, fault, ?_, failed,
          fine, refused⟩
        rw [split, List.cons_append]
    · refine Or.inr ⟨[], offered, value, rest, fault, rfl, offerAll_cons_of_error failed, ?_, ?_⟩
      · rw [List.append_nil]
        exact registry.isRegistrable_pairs
      · rw [List.append_nil]
        exact refused

/-- Pairs cannot be registered if one name is refused behind those before it. -/
theorem not_isRegistrable_of_refused (refused : RefusedBehind (accepted.map Prod.fst) offered fault)
    (value : Value) (rest : List (OfferedName × Value)) :
    ¬IsRegistrable (accepted ++ (offered, value) :: rest) := by
  intro fine
  rcases refused.not_usable_or_known with unusable | known
  · exact unusable (fine.usable (offered, value) (List.mem_append_right _ List.mem_cons_self))
  · have distinct := fine.distinct
    rw [List.map_append, List.map_cons] at distinct
    exact (List.nodup_append.mp distinct).2.2 offered known offered List.mem_cons_self rfl

/-- A registry that was built holds what was given. -/
theorem pairs_of_ofPairs (built : ofPairs given = .ok registry) : registry.pairs = given := by
  rcases empty.offerAll_cases given with ⟨final, done, pairs⟩ | ⟨_, _, _, _, _, _, failed, _⟩
  · cases built.symm.trans done
    exact pairs
  · cases built.symm.trans failed

/-- A registry is built exactly of names that can be registered together. -/
theorem exists_ofPairs_eq_ok_iff : (∃ registry, ofPairs given = .ok registry) ↔ IsRegistrable given := by
  constructor
  · rintro ⟨registry, built⟩
    exact pairs_of_ofPairs built ▸ registry.isRegistrable_pairs
  · intro fine
    rcases empty.offerAll_cases given with
      ⟨final, done, -⟩ | ⟨accepted, offered, value, rest, fault, rfl, -, -, refused⟩
    · exact ⟨final, done⟩
    · exact absurd fine (not_isRegistrable_of_refused refused value rest)

/-- A name that is refused behind all others is refused for that ground. -/
theorem offer_of_refused (refused : RefusedBehind (registry.pairs.map Prod.fst) offered fault)
    (value : Value) : registry.offer offered value = .error fault := by
  rcases registry.offer_cases offered value with ⟨grown, -, pairs⟩ | ⟨other, failed, others⟩
  · have fine := grown.isRegistrable_pairs
    rw [pairs] at fine
    exact absurd fine (not_isRegistrable_of_refused refused value [])
  · rw [failed, others.unique refused]

/-- Where no registry is built, the fault is that of the first name that is refused behind
those before it. -/
theorem ofPairs_eq_error_iff : ofPairs given = .error fault ↔
    ∃ accepted offered value rest, given = accepted ++ (offered, value) :: rest ∧
      IsRegistrable accepted ∧ RefusedBehind (accepted.map Prod.fst) offered fault := by
  constructor
  · intro failed
    rcases empty.offerAll_cases given with
      ⟨final, done, -⟩ | ⟨accepted, offered, value, rest, other, split, same, fine, refused⟩
    · cases failed.symm.trans done
    · cases failed.symm.trans same
      exact ⟨accepted, offered, value, rest, split, fine, refused⟩
  · rintro ⟨accepted, offered, value, rest, rfl, fine, refused⟩
    rcases exists_ofPairs_eq_ok_iff.mpr fine with ⟨registry, built⟩
    rw [← pairs_of_ofPairs built] at refused
    have further : registry.offerAll ((offered, value) :: rest) = .error fault :=
      offerAll_cons_of_error (offer_of_refused refused value)
    change empty.offerAll accepted = .ok registry at built
    change empty.offerAll (accepted ++ (offered, value) :: rest) = .error fault
    rw [offerAll] at built
    rw [offerAll, List.foldlM_append, built]
    exact further

/-! ## What a registry answers -/

/-- A name has the value with which it is listed, and no other one. -/
theorem get?_eq_some_iff : registry.get? name = some value ↔ (.text name, value) ∈ registry.pairs := by
  have entry : (.text name, value) ∈ registry.pairs ↔ (name, value) ∈ registry.entries := by
    simp [pairs]
  rw [entry, get?]
  constructor
  · intro found
    rcases List.lookup_eq_some_iff.mp found with ⟨front, back, split, -⟩
    rw [split]
    exact List.mem_append_right _ List.mem_cons_self
  · intro listed
    cases found : registry.entries.lookup name with
    | none => exact absurd (List.lookup_eq_none_iff.mp found _ listed) (by simp)
    | some held =>
      rcases List.lookup_eq_some_iff.mp found with ⟨front, back, split, -⟩
      have heldListed : (name, held) ∈ registry.entries := by
        rw [split]
        exact List.mem_append_right _ List.mem_cons_self
      exact congrArg (some ·.2) (List.inj_on_of_nodup_map registry.distinct heldListed listed rfl)

theorem contains_iff : registry.contains name = true ↔ .text name ∈ registry.pairs.map Prod.fst := by
  rw [contains, List.contains_iff_mem, map_fst_pairs, List.mem_map_of_injective text_injective]

theorem size_eq (registry : Registry) : registry.size = registry.pairs.length := by
  rw [size, pairs, List.length_map]

end Registry
end PolicyStudio
