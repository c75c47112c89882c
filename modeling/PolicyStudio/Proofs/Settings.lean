import Mathlib
import PolicyStudio.Proofs.Outcome
import PolicyStudio.Proofs.Text.Cutting
import PolicyStudio.Settings

/-!
# Origins in the settings

All origins are those that are set, one by one and in order, and then the frontend.  Each loses
the slashes at its end and nothing else.  A list sets its items.  A text sets what stands between
its commas, unless it begins with a bracket: then it is no list, and each of its characters is
shown as an origin of its own.

An address has a scheme, which begins with a letter.  So the origin that stands for all origins
is never among those of a list, but it is among the characters of a text with a bracket that
holds it.
-/

namespace PolicyStudio

open Form

/-! ## Fields of a form -/

namespace Form

namespace Checked

variable {α β : Type}

theorem map_eq_ok {f : α → β} {x : Checked α} {b : β} :
    f <$> x = .ok b ↔ ∃ a, x = .ok a ∧ f a = b := by
  change map f x = .ok b ↔ _
  cases x with
  | ok a => simp [map]
  | faulty found => simp [map]

/-- A function and its argument come to a value if both are without faults. -/
theorem seq_eq_ok {f : Checked (α → β)} {x : Checked α} {b : β} :
    f <*> x = .ok b ↔ ∃ g a, f = .ok g ∧ x = .ok a ∧ g a = b := by
  change apply f x = .ok b ↔ _
  cases f <;> cases x <;> simp [apply]

end Checked

/-- A field holds what was filled in for it and could be read, or else its standing value. -/
theorem Entries.standing_eq_ok {α : Type} {entries : Entries} {name : String} {standing value : α}
    {read : Reader α} : entries.standing name standing read = .ok value ↔
      (entries.lookup name = none ∧ value = standing) ∨
        ∃ given, entries.lookup name = some given ∧ read given = .ok value := by
  rw [Entries.standing]
  cases entries.lookup name with
  | none => simp [eq_comm]
  | some given =>
    dsimp only
    rw [readAs]
    cases result : read given <;> simp [result]

end Form

/-! ## Slashes at the end -/

namespace Origins

/-- The entry is the text up to slashes at its end. -/
def IsBare (text entry : String) : Prop :=
  (∃ n, text.toList = entry.toList ++ List.replicate n '/') ∧ entry.toList.getLast? ≠ some '/'

theorem isBare_withoutSlashes (text : String) : IsBare text (withoutSlashes text) := by
  rw [IsBare, withoutSlashes, String.toList_ofList]
  constructor
  · let isSlash : Char → Bool := (· = '/')
    have slashes : (text.toList.reverse.takeWhile isSlash).reverse =
        List.replicate (text.toList.reverse.takeWhile isSlash).length '/' := by
      rw [List.eq_replicate_iff, List.length_reverse]
      refine ⟨rfl, fun c member => ?_⟩
      have slash : isSlash c = true := List.mem_takeWhile_imp (List.mem_reverse.mp member)
      exact of_decide_eq_true slash
    refine ⟨(text.toList.reverse.takeWhile isSlash).length, ?_⟩
    rw [← slashes, ← List.reverse_append, List.takeWhile_append_dropWhile, List.reverse_reverse]
  · rw [List.getLast?_reverse]
    intro slash
    have kept := List.head?_dropWhile_not (fun c : Char => decide (c = '/')) text.toList.reverse
    rw [slash] at kept
    cases kept

/-- One character loses itself if it is a slash. -/
theorem withoutSlashes_singleton (c : Char) :
    withoutSlashes (String.singleton c) = if c = '/' then "" else String.singleton c := by
  by_cases slash : c = '/'
  · subst slash
    rfl
  · simp [withoutSlashes, slash]

/-! ## Lists of addresses -/

/-- What an origin is read as. -/
def ReadAs (item : Given) (text : String) : Prop := address item = .ok text

/-- Read one more address. -/
def addressStep (found : Except (List FieldFault) (List String)) (item : Given) :
    Except (List FieldFault) (List String) :=
  match found, address item with
  | .ok texts, .ok text => .ok (texts ++ [text])
  | .ok _, .error faults => .error faults
  | .error faults, .ok _ => .error faults
  | .error faults, .error others => .error (faults ++ others)

theorem addressList_eq (items : List Given) : addressList items =
    match items.foldl addressStep (.ok []) with
    | .ok texts => .ok (.addresses texts)
    | .error faults => .error (faults ++ [.notText]) := rfl

/-- Faults are not forgotten. -/
theorem exists_foldl_error (items : List Given) (faults : List FieldFault) :
    ∃ all, items.foldl addressStep (.error faults) = .error all := by
  induction items generalizing faults with
  | nil => exact ⟨faults, rfl⟩
  | cons item rest inductionHypothesis =>
    rw [List.foldl_cons]
    unfold addressStep
    cases address item with
    | ok text => exact inductionHypothesis _
    | error others => exact inductionHypothesis _

/-- The addresses that are read are those of the items, one by one. -/
theorem foldl_addressStep_eq_ok {items : List Given} {before texts : List String} :
    items.foldl addressStep (.ok before) = .ok texts ↔
      ∃ others, List.Forall₂ ReadAs items others ∧ texts = before ++ others := by
  induction items generalizing before with
  | nil =>
    constructor
    · intro done
      exact ⟨[], .nil, by rw [List.append_nil, ← Except.ok.inj done]⟩
    · rintro ⟨others, read, rfl⟩
      cases read
      rw [List.append_nil]
      rfl
  | cons item rest inductionHypothesis =>
    rw [List.foldl_cons]
    cases result : address item with
    | error faults =>
      have step : addressStep (.ok before) item = .error faults := by
        unfold addressStep
        rw [result]
      rcases exists_foldl_error rest faults with ⟨all, failed⟩
      rw [step, failed]
      constructor
      · intro impossible
        cases impossible
      · rintro ⟨others, read, -⟩
        cases read with
        | cons first further => cases result.symm.trans first
    | ok text =>
      have step : addressStep (.ok before) item = .ok (before ++ [text]) := by
        unfold addressStep
        rw [result]
      rw [step, inductionHypothesis]
      constructor
      · rintro ⟨others, further, rfl⟩
        exact ⟨text :: others, .cons result further, by rw [List.append_assoc, List.singleton_append]⟩
      · rintro ⟨others, read, rfl⟩
        cases read with
        | @cons _ first _ others first further =>
          cases result.symm.trans first
          exact ⟨others, further, by rw [List.append_assoc, List.singleton_append]⟩

theorem addressList_eq_ok {items : List Given} {origins : Origins} :
    addressList items = .ok origins ↔
      ∃ texts, List.Forall₂ ReadAs items texts ∧ origins = .addresses texts := by
  rw [addressList_eq]
  cases result : items.foldl addressStep (.ok []) with
  | error faults =>
    constructor
    · intro impossible
      cases impossible
    · rintro ⟨texts, read, -⟩
      cases result.symm.trans (foldl_addressStep_eq_ok.mpr ⟨texts, read, rfl⟩)
  | ok texts =>
    rcases foldl_addressStep_eq_ok.mp result with ⟨others, read, equal⟩
    rw [List.nil_append] at equal
    subst equal
    constructor
    · intro done
      exact ⟨texts, read, (Except.ok.inj done).symm⟩
    · rintro ⟨others, readToo, rfl⟩
      have same := (foldl_addressStep_eq_ok.mpr ⟨others, readToo, rfl⟩).symm.trans result
      rw [← Except.ok.inj same, List.nil_append]

/-! ## The letter of an address -/

/-- The first character is a small letter. -/
def BeginsSmall (s : String) : Prop :=
  ∃ first, s.toList.head? = some first ∧ first.isLower = true

theorem beginsSmall_of_takeScheme? {cs rest : List Char} {scheme : String}
    (taken : Url.Address.takeScheme? cs = some (scheme, rest)) : BeginsSmall scheme := by
  unfold Url.Address.takeScheme? at taken
  split at taken
  · next first others tail cut =>
    split at taken
    · next proper =>
      cases taken
      refine ⟨first.toLower, by rw [String.toList_ofList, List.map_cons, List.head?_cons], ?_⟩
      rw [Char.isLower_toLower_eq_isAlpha]
      exact proper.1
    · cases taken
  · cases taken

/-- The scheme comes first in an address. -/
theorem beginsSmall_of_read? {s : String} {address : Url.Address}
    (read : Url.Address.read? s = some address) : BeginsSmall address.text := by
  rcases Option.bind_eq_some_iff.mp read with ⟨⟨scheme, rest⟩, taken, further⟩
  rcases Option.bind_eq_some_iff.mp further with ⟨⟨authority, route⟩, -, made⟩
  rcases beginsSmall_of_takeScheme? taken with ⟨first, letter, small⟩
  have same : address.scheme = scheme := by
    cases made
    rfl
  refine ⟨first, ?_, small⟩
  rw [Url.Address.text, same]
  simp [letter]

/-- An origin is read as an address. -/
theorem beginsSmall_of_readAs {item : Given} {text : String} (read : ReadAs item text) :
    BeginsSmall text := by
  rcases Outcome.bind_eq_ok.mp read with ⟨s, -, done⟩
  cases found : Url.Address.read? s with
  | none =>
    rw [found] at done
    cases done
  | some address =>
    rw [found] at done
    cases done
    exact beginsSmall_of_read? found

/-- An address that is nothing but a star does not exist, with slashes or without. -/
theorem ne_star_of_readAs {item : Given} {text entry : String} (read : ReadAs item text)
    (bare : IsBare text entry) : entry ≠ "*" := by
  rintro rfl
  rcases bare.1 with ⟨n, spelled⟩
  rcases beginsSmall_of_readAs read with ⟨first, letter, small⟩
  rw [spelled] at letter
  cases letter
  cases small

theorem star_not_mem {items : List Given} {texts entries : List String}
    (read : List.Forall₂ ReadAs items texts) (bare : List.Forall₂ IsBare texts entries) :
    "*" ∉ entries := by
  induction read generalizing entries with
  | nil =>
    cases bare
    exact List.not_mem_nil
  | cons first others inductionHypothesis =>
    cases bare with
    | cons firstBare othersBare =>
      rw [List.mem_cons, not_or]
      exact ⟨(ne_star_of_readAs first firstBare).symm, inductionHypothesis othersBare⟩

/-! ## What sets origins -/

/-- A value and the origins that it lists: the items of a list, or what stands between the commas
of a text, without blanks around it. -/
inductive Lists : Given → List Given → Prop
  | items (items : List Given) : Lists (.list items) items
  | text {s : String} {pieces : List (List Char)} (noBracket : s.toList.head? ≠ some '[')
    (some : pieces ≠ []) (unmarked : ∀ piece ∈ pieces, ',' ∉ piece)
    (spelled : s.toList = [','].intercalate pieces) :
    Lists (.text s) (((pieces.map fun piece => Text.strip (String.ofList piece)).filter
      (· ≠ "")).map .text)

theorem split?_eq (s : String) : split? s = if s.toList.head? = some '[' then none else
    some (((Text.cutAt ',' s.toList).map fun piece => Text.strip (String.ofList piece)).filter
      (· ≠ "")) := by
  have bracket : s.startsWith "[" = true ↔ s.toList.head? = some '[' := by
    rw [String.startsWith_string_iff, List.head?_eq_some_iff]
    exact ⟨fun ⟨rest, spelled⟩ => ⟨rest, spelled.symm⟩, fun ⟨rest, spelled⟩ => ⟨rest, spelled.symm⟩⟩
  rw [split?]
  simp only [bracket]

/-- Only lists are read as addresses, and only a text with a bracket is kept as it is. -/
theorem read_eq_ok {given : Given} {origins : Origins} : read given = .ok origins ↔
    (∃ items texts, Lists given items ∧ List.Forall₂ ReadAs items texts ∧
      origins = .addresses texts) ∨
    ∃ s, given = .text s ∧ s.toList.head? = some '[' ∧ origins = .plain s := by
  cases given with
  | list items =>
    rw [read, addressList_eq_ok]
    constructor
    · rintro ⟨texts, each, rfl⟩
      exact Or.inl ⟨items, texts, .items items, each, rfl⟩
    · rintro (⟨others, texts, lists, each, rfl⟩ | ⟨s, impossible, -⟩)
      · cases lists
        exact ⟨texts, each, rfl⟩
      · cases impossible
  | text s =>
    rw [read, split?_eq]
    by_cases bracket : s.toList.head? = some '['
    · rw [if_pos bracket]
      constructor
      · intro done
        exact Or.inr ⟨s, rfl, bracket, (Except.ok.inj done).symm⟩
      · rintro (⟨others, texts, lists, -, -⟩ | ⟨other, same, -, rfl⟩)
        · cases lists with
          | text noBracket => exact absurd bracket noBracket
        · cases same
          rfl
    · rw [if_neg bracket]
      dsimp only
      rw [addressList_eq_ok]
      constructor
      · rintro ⟨texts, each, rfl⟩
        rcases Text.cutAt_eq_iff.mp rfl with ⟨several, unmarked, spelled⟩
        exact Or.inl ⟨_, texts, .text bracket several unmarked spelled, each, rfl⟩
      · rintro (⟨others, texts, lists, each, rfl⟩ | ⟨other, same, held, -⟩)
        · cases lists with
          | text noBracket several unmarked spelled =>
            rw [Text.cutAt_eq_iff.mpr ⟨several, unmarked, spelled⟩]
            exact ⟨texts, each, rfl⟩
        · cases same
          exact absurd held bracket
  | _ =>
    constructor
    · intro impossible
      cases impossible
    · rintro (⟨items, texts, lists, -, -⟩ | ⟨s, impossible, -⟩)
      · cases lists
      · cases impossible

/-- What is set, if anything, and the entries that it leads to. -/
inductive LeadsTo : Option Given → List String → Prop
  | nothing : LeadsTo none []
  | listed {given : Given} {items : List Given} {texts entries : List String}
    (lists : Lists given items) (read : List.Forall₂ ReadAs items texts)
    (bare : List.Forall₂ IsBare texts entries) : LeadsTo (some given) entries
  | characters {s : String} (bracket : s.toList.head? = some '[') :
    LeadsTo (some (.text s)) (s.toList.map fun c => if c = '/' then "" else String.singleton c)

namespace LeadsTo

variable {given : Option Given} {entries : List String}

/-- What is read and shown without slashes is what the value leads to. -/
theorem of_read {value : Given} {origins : Origins} (result : read value = .ok origins) :
    LeadsTo (some value) (origins.each.map withoutSlashes) := by
  rcases read_eq_ok.mp result with ⟨items, texts, lists, read, rfl⟩ | ⟨s, rfl, bracket, rfl⟩
  · refine .listed lists read ?_
    rw [each, List.forall₂_map_right_iff, List.forall₂_same]
    exact fun text _ => isBare_withoutSlashes text
  · have bare : withoutSlashes ∘ String.singleton =
        fun c => if c = '/' then "" else String.singleton c := funext withoutSlashes_singleton
    rw [each, List.map_map, bare]
    exact .characters bracket

/-- The star for all origins comes from a text that is no list. -/
theorem star_mem_iff (leads : LeadsTo given entries) : "*" ∈ entries ↔
    ∃ s, given = some (.text s) ∧ s.toList.head? = some '[' ∧ '*' ∈ s.toList := by
  cases leads with
  | nothing =>
    constructor
    · intro impossible
      cases impossible
    · rintro ⟨s, impossible, -⟩
      cases impossible
  | listed lists read bare =>
    constructor
    · intro member
      exact absurd member (star_not_mem read bare)
    · rintro ⟨s, same, bracket, -⟩
      cases same
      cases lists with
      | text noBracket => exact absurd bracket noBracket
  | @characters s bracket =>
    rw [List.mem_map]
    constructor
    · rintro ⟨c, member, shown⟩
      by_cases slash : c = '/'
      · rw [if_pos slash] at shown
        exact absurd shown (by decide)
      · rw [if_neg slash, ← String.toList_inj, String.toList_singleton] at shown
        cases shown
        exact ⟨s, rfl, bracket, member⟩
    · rintro ⟨other, same, -, member⟩
      cases same
      exact ⟨'*', member, rfl⟩

end LeadsTo

end Origins

/-! ## All origins -/

namespace Settings

/-- What is set for the origins: what the form fills in, or else the surroundings. -/
def givenOrigins (entries : Entries) (texts : List (String × String)) : Option Given :=
  (ofForm entries ++ ofSurroundings texts).lookup "BACKEND_CORS_ORIGINS"

/-- The origins are a field of their own. -/
theorem origins_of_ofEntries {entries : Entries} {settings : Settings}
    (accepted : ofEntries entries = .ok settings) :
    entries.standing "BACKEND_CORS_ORIGINS" (.addresses []) Origins.read = .ok settings.origins := by
  rw [ofEntries] at accepted
  rcases Checked.seq_eq_ok.mp accepted with ⟨_, sessionLimit, accepted, -, _⟩
  rcases Checked.seq_eq_ok.mp accepted with ⟨_, editorVersion, accepted, -, _⟩
  rcases Checked.seq_eq_ok.mp accepted with ⟨_, snapshotPath, accepted, -, _⟩
  rcases Checked.seq_eq_ok.mp accepted with ⟨_, copyMemory, accepted, -, _⟩
  rcases Checked.seq_eq_ok.mp accepted with ⟨_, timeLimit, accepted, -, _⟩
  rcases Checked.seq_eq_ok.mp accepted with ⟨_, reports, accepted, -, _⟩
  rcases Checked.seq_eq_ok.mp accepted with ⟨_, origins, accepted, field, _⟩
  rcases Checked.seq_eq_ok.mp accepted with ⟨_, frontend, accepted, -, _⟩
  rcases Checked.seq_eq_ok.mp accepted with ⟨_, logLevel, accepted, -, _⟩
  rcases Checked.seq_eq_ok.mp accepted with ⟨_, surroundings, accepted, -, _⟩
  rcases Checked.seq_eq_ok.mp accepted with ⟨_, projectName, accepted, -, _⟩
  rcases Checked.map_eq_ok.mp accepted with ⟨apiPath, -, _⟩
  subst_vars
  exact field

/-- All origins are the entries that the setting leads to, and then the frontend.

Nothing leads to no entries.  A list of origins leads to one entry for each of them, in order:
the address that it is read as, up to slashes at its end.  A text that begins with a bracket
leads to one entry for each of its characters.  Only from there comes the star for all
origins. -/
theorem allOrigins_follow_the_setting {entries : Entries} {texts : List (String × String)}
    {settings : Settings} (accepted : read entries texts = .ok settings) :
    ∃ shown, settings.allOrigins = shown ++ [settings.frontend] ∧
      Origins.LeadsTo (givenOrigins entries texts) shown ∧
      ("*" ∈ shown ↔ ∃ s, givenOrigins entries texts = some (.text s) ∧
        s.toList.head? = some '[' ∧ '*' ∈ s.toList) := by
  have leads : Origins.LeadsTo (givenOrigins entries texts)
      (settings.origins.each.map Origins.withoutSlashes) := by
    rcases Entries.standing_eq_ok.mp (origins_of_ofEntries accepted) with
      ⟨nothing, standing⟩ | ⟨given, found, result⟩
    · rw [givenOrigins, nothing, standing]
      exact .nothing
    · rw [givenOrigins, found]
      exact .of_read result
  exact ⟨_, rfl, leads, leads.star_mem_iff⟩

/-- All origins, if the settings are accepted. -/
def allOrigins? (entries : Entries) (texts : List (String × String)) : Option (List String) :=
  match read entries texts with
  | .ok settings => some settings.allOrigins
  | .faulty _ => none

theorem allOrigins?_eq_some {entries : Entries} {texts : List (String × String)}
    {origins : List String} : allOrigins? entries texts = some origins ↔
      ∃ settings, read entries texts = .ok settings ∧ settings.allOrigins = origins := by
  unfold allOrigins?
  cases read entries texts with
  | ok settings => simp only [Checked.ok.injEq, Option.some.injEq, exists_eq_left']
  | faulty found => simp only [reduceCtorEq, false_and, exists_false]

/-- Two origins between commas. -/
def listedEntries : Entries :=
  [("BACKEND_CORS_ORIGINS", .text "http://a.example/, http://b.example")]

/-- Both are shown, without the slash. -/
theorem listed_origins_are_shown : ∃ settings, read listedEntries [] = .ok settings ∧
    settings.allOrigins = ["http://a.example", "http://b.example", "http://localhost:5173"] ∧
    ∃ shown, settings.allOrigins = shown ++ [settings.frontend] ∧
      Origins.LeadsTo (givenOrigins listedEntries []) shown := by
  have result : allOrigins? listedEntries [] =
      some ["http://a.example", "http://b.example", "http://localhost:5173"] := by decide +kernel
  rcases allOrigins?_eq_some.mp result with ⟨settings, accepted, all⟩
  rcases allOrigins_follow_the_setting accepted with ⟨shown, front, leads, -⟩
  exact ⟨settings, accepted, all, shown, front, leads⟩

/-- A text that begins with a bracket. -/
def bracketEntries : Entries := [("BACKEND_CORS_ORIGINS", .text "[*]")]

/-- It is not shown as a whole, and the star for all origins is. -/
theorem star_between_brackets_is_shown :
    givenOrigins bracketEntries [] = some (.text "[*]") ∧
    ∃ settings, read bracketEntries [] = .ok settings ∧
      settings.allOrigins = ["[", "*", "]", "http://localhost:5173"] := by
  have result : allOrigins? bracketEntries [] = some ["[", "*", "]", "http://localhost:5173"] := by
    decide +kernel
  exact ⟨rfl, allOrigins?_eq_some.mp result⟩

end Settings

end PolicyStudio
