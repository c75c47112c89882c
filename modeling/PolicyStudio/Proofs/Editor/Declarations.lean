import PolicyStudio.Editor.Configure
import PolicyStudio.Editor.Language
import PolicyStudio.Proofs.Registry.Registration
import PolicyStudio.Proofs.Text.Cutting

/-!
# Declarations and what is read from them

The text of declarations is made of the texts that the modules give, which are names, types and
defaults, and of marks between them.  It holds no carriage return if none of these texts does,
and then it is read as it was written.

The names of a registry are declared in a document with one line for each of them.  A line that
declares a name can be told from all other lines of the document, because names are words and
the first lines have a blank before any colon.  So the names are read back from the document,
all of them and in their order, without knowing how it begins.  A registry holds what it was
built from, so the document does, too.
-/

namespace PolicyStudio
namespace Editor

/-- A text without carriage returns. -/
def Plain (text : String) : Prop := text.toList.all (· != '\r') = true

instance (text : String) : Decidable (Plain text) := inferInstanceAs (Decidable (_ = true))

namespace Plain

theorem append {text other : String} (plain : Plain text) (also : Plain other) :
    Plain (text ++ other) := by
  rw [Plain, String.toList_append, List.all_append, plain, also]
  rfl

theorem intercalate {mark : String} {texts : List String} (between : Plain mark)
    (each : ∀ text ∈ texts, Plain text) : Plain (mark.intercalate texts) := by
  rw [Plain, String.toList_intercalate]
  exact Text.all_intercalate between (List.forall_mem_map.mpr each)

/-- Removing blanks at the end adds nothing. -/
theorem trimEnd {text : String} (plain : Plain text) :
    Plain (String.ofList (Text.trimEnd text.toList)) := by
  rw [Plain, String.toList_ofList, Text.trimEnd, List.all_reverse]
  refine List.all_eq_true.mpr fun c member => List.all_eq_true.mp plain c ?_
  exact List.mem_reverse.mp ((List.dropWhile_suffix _).subset member)

theorem lineFeeds {text : String} (plain : Plain text) :
    Text.lineFeeds text.toList = text.toList :=
  Text.lineFeeds_eq_self fun member => absurd (List.all_eq_true.mp plain _ member) (by decide)

end Plain

/-! ## The texts of a module -/

/-- What is written of a parameter besides marks. -/
def DeclaredParameter.texts (parameter : DeclaredParameter) : List String :=
  parameter.name :: (parameter.type.toList ++ parameter.default.toList)

def DeclaredSignature.texts : DeclaredSignature → List String
  | .unknown => []
  | .known parameters result => parameters.flatMap DeclaredParameter.texts ++ result.toList

def DeclaredMember.texts (member : String × DeclaredMember) : List String :=
  member.1 :: match member.2 with
    | .method signature | .property signature => signature.texts
    | .free _ | .constant => []

def DeclaredItem.texts (item : String × DeclaredItem) : List String :=
  item.1 :: match item.2 with
    | .class bases members => bases ++ members.flatMap DeclaredMember.texts
    | .function signature => signature.texts
    | .instance kind => [kind]
    | .foreign => []

def DeclaredModule.texts (module : DeclaredModule) : List String :=
  module.name :: module.items.flatMap DeclaredItem.texts

/-! ## From texts to declarations -/

theorem DeclaredParameter.plain_text {parameter : DeclaredParameter}
    (plain : ∀ text ∈ parameter.texts, Plain text) : Plain parameter.text := by
  rcases parameter with ⟨name, type, default, taking⟩
  have plainName := plain name List.mem_cons_self
  have plainType : ∀ type' ∈ type, Plain type' := fun type' given =>
    plain type' (List.mem_cons_of_mem _ (List.mem_append_left _ (Option.mem_toList.mpr given)))
  have plainDefault : ∀ value ∈ default, Plain value := fun value given =>
    plain value (List.mem_cons_of_mem _ (List.mem_append_right _ (Option.mem_toList.mpr given)))
  refine .append (.append (.append ?mark plainName) ?type) ?default
  case mark =>
    cases taking with
    | positional => exact show Plain "*" by decide
    | furtherNamed => exact show Plain "**" by decide
    | one => exact show Plain "" by decide
    | named => exact show Plain "" by decide
  case type =>
    cases type with
    | none => exact show Plain "" by decide
    | some type => exact .append (by decide) (plainType type rfl)
  case default =>
    cases default with
    | none => cases type <;> exact show Plain "" by decide
    | some value => cases type <;> exact .append (by decide) (plainDefault value rfl)

theorem DeclaredSignature.plain_text {signature : DeclaredSignature}
    (plain : ∀ text ∈ signature.texts, Plain text) : Plain signature.text := by
  cases signature with
  | unknown => decide
  | known parameters result =>
    have listed : Plain (", ".intercalate (parameters.map DeclaredParameter.text)) := by
      refine .intercalate (by decide) (List.forall_mem_map.mpr fun parameter member => ?_)
      refine DeclaredParameter.plain_text fun text used => plain text ?_
      exact List.mem_append_left _ (List.mem_flatMap.mpr ⟨parameter, member, used⟩)
    have closed := ((show Plain "(" by decide).append listed).append (show Plain ")" by decide)
    cases result with
    | none => exact closed.append (by decide)
    | some type =>
      have plainType := plain type (List.mem_append_right _ (List.mem_singleton.mpr rfl))
      exact closed.append (.append (by decide) plainType)

theorem DeclaredMember.plain_line {name : String} {signature : DeclaredSignature}
    (plainName : Plain name) (plain : ∀ text ∈ signature.texts, Plain text) :
    Plain (line name signature) :=
  .append (.append (.append (by decide) plainName) (DeclaredSignature.plain_text plain)) (by decide)

theorem DeclaredMember.plain_lines {member : String × DeclaredMember}
    (plain : ∀ text ∈ texts member, Plain text) : ∀ line ∈ lines member, Plain line := by
  rcases member with ⟨name, member⟩
  have plainName := plain name List.mem_cons_self
  unfold lines
  split
  · cases member with
    | method signature =>
      have declared := plain_line plainName fun text used => plain text (List.mem_cons_of_mem _ used)
      exact List.forall_mem_singleton.mpr declared
    | property signature =>
      have declared := plain_line plainName fun text used => plain text (List.mem_cons_of_mem _ used)
      have property : Plain "    @property" := by decide
      exact List.forall_mem_cons.mpr ⟨property, List.forall_mem_singleton.mpr declared⟩
    | free parameters => exact List.forall_mem_nil _
    | constant => exact List.forall_mem_nil _
  · exact List.forall_mem_nil _

theorem plain_classLines {name : String} {bases : List String}
    {members : List (String × DeclaredMember)} (plainName : Plain name)
    (plainBases : ∀ base ∈ bases, Plain base)
    (plainMembers : ∀ text ∈ members.flatMap DeclaredMember.texts, Plain text) :
    ∀ line ∈ classLines name bases members, Plain line := by
  have start := (show Plain "class " by decide).append plainName
  have header : Plain (if bases.isEmpty then "class " ++ name ++ ":"
      else "class " ++ name ++ "(" ++ ", ".intercalate bases ++ "):") := by
    split
    · exact start.append (by decide)
    · exact ((start.append (by decide)).append (.intercalate (by decide) plainBases)).append (by decide)
  have declared : ∀ line ∈ members.flatMap DeclaredMember.lines, Plain line := by
    intro line listed
    rcases List.mem_flatMap.mp listed with ⟨member, belongs, declares⟩
    refine DeclaredMember.plain_lines (fun text used => plainMembers text ?_) line declares
    exact List.mem_flatMap.mpr ⟨member, belongs, used⟩
  unfold classLines
  cases lines : members.flatMap DeclaredMember.lines with
  | nil =>
    have nothing : Plain "    ..." := by decide
    exact List.forall_mem_cons.mpr ⟨header, List.forall_mem_singleton.mpr nothing⟩
  | cons first rest =>
    rw [lines] at declared
    exact List.forall_mem_cons.mpr ⟨header, declared⟩

theorem DeclaredItem.plain_lines (classes : List String) {item : String × DeclaredItem}
    (plain : ∀ text ∈ texts item, Plain text) :
    ∀ line ∈ DeclaredModule.itemLines classes item, Plain line := by
  rcases item with ⟨name, item⟩
  have plainName := plain name List.mem_cons_self
  have further := fun text used => plain text (List.mem_cons_of_mem _ used)
  have empty : Plain "" := by decide
  unfold DeclaredModule.itemLines
  split
  · cases item with
    | «class» bases members =>
      have declared := plain_classLines plainName
        (fun base member => further base (List.mem_append_left _ member))
        (fun text used => further text (List.mem_append_right _ used))
      intro line listed
      rcases List.mem_append.mp listed with listed | last
      · exact declared line listed
      · exact List.mem_singleton.mp last ▸ empty
    | function signature =>
      have declared : Plain ("def " ++ name ++ signature.text ++ ": ...") :=
        .append (.append (.append (by decide) plainName) (DeclaredSignature.plain_text further))
          (by decide)
      exact List.forall_mem_cons.mpr ⟨declared, List.forall_mem_singleton.mpr empty⟩
    | «instance» kind =>
      have declared : Plain (name ++ ": " ++ kind) :=
        .append (.append plainName (by decide)) (further kind (List.mem_singleton.mpr rfl))
      dsimp only
      split
      · exact List.forall_mem_cons.mpr ⟨declared, List.forall_mem_singleton.mpr empty⟩
      · exact List.forall_mem_nil _
    | foreign => exact List.forall_mem_nil _
  · exact List.forall_mem_nil _

/-- Declarations are plain if the texts of their modules are. -/
theorem plain_declarations {modules : List DeclaredModule}
    (plain : ∀ text ∈ modules.flatMap DeclaredModule.texts, Plain text) :
    Plain (declarations modules) := by
  refine .append (.trimEnd (.intercalate (by decide) fun line listed => ?_)) (by decide)
  rcases List.mem_append.mp listed with header | listed
  · exact (show ∀ line ∈ declarationHeader, Plain line by decide) line header
  · rcases List.mem_flatMap.mp listed with ⟨module, given, listed⟩
    have used : ∀ text ∈ module.texts, Plain text :=
      fun text member => plain text (List.mem_flatMap.mpr ⟨module, given, member⟩)
    rcases List.mem_cons.mp listed with rfl | listed
    · exact .append (by decide) (used module.name List.mem_cons_self)
    · rcases List.mem_flatMap.mp listed with ⟨item, belongs, declares⟩
      refine DeclaredItem.plain_lines _ (fun text member => used text ?_) line declares
      exact List.mem_cons_of_mem _ (List.mem_flatMap.mpr ⟨item, belongs, member⟩)

/-- The declarations of the policy language are read as they are written. -/
theorem plain_languageDeclarations : Plain languageDeclarations :=
  plain_declarations (by decide +kernel)

/-! ## Lines that declare a name -/

/-- The name that a line declares. -/
def declaredName? (line : List Char) : Option String :=
  match Text.cutAt ':' line with
  | [name, rest] =>
    if Text.isWord name ∧ rest = " Final = RLS.".toList ++ name then some (String.ofList name) else none
  | _ => none

/-- The names that the lines of a document declare. -/
def declaredNames (document : String) : List String :=
  (Text.cutAt '\n' document.toList).filterMap declaredName?

/-- What cannot stand in a word stands in none. -/
theorem not_mem_of_isWord {c : Char} (starts : Text.isWordStart c = false)
    (part : Text.isWordPart c = false) {cs : List Char} (word : Text.isWord cs = true) : c ∉ cs := by
  intro member
  cases cs with
  | nil => cases member
  | cons first rest =>
    rw [Text.isWord, Bool.and_eq_true, List.all_eq_true] at word
    rcases List.mem_cons.mp member with rfl | member
    · exact Bool.false_ne_true (starts.symm.trans word.1)
    · exact Bool.false_ne_true (part.symm.trans (word.2 c member))

theorem toList_globalLine (name : String) :
    (globalLine name).toList = name.toList ++ (": Final = RLS.".toList ++ name.toList) := by
  rw [globalLine, String.toList_append, String.toList_append, List.append_assoc]

/-- A colon between the two parts makes the line. -/
theorem intercalate_parts (name : List Char) :
    [':'].intercalate [name, " Final = RLS.".toList ++ name] =
      (globalLine (String.ofList name)).toList := by
  have same : (String.ofList name).toList = name := String.toList_ofList
  rw [List.intercalate_cons_cons, List.intercalate_singleton, toList_globalLine, same,
    List.append_assoc]
  rfl

/-- The declaration of a word is cut at its colon. -/
theorem cutAt_globalLine {name : String} (word : Text.isWord name.toList = true) :
    Text.cutAt ':' (globalLine name).toList =
      [name.toList, " Final = RLS.".toList ++ name.toList] := by
  have uncut : ':' ∉ name.toList := not_mem_of_isWord (by decide) (by decide) word
  have behind : ':' ∉ " Final = RLS.".toList ++ name.toList := by
    rw [List.mem_append]
    exact not_or.mpr ⟨by decide, uncut⟩
  refine Text.cutAt_eq_iff.mpr ⟨List.cons_ne_nil _ _, ?_, ?_⟩
  · exact List.forall_mem_cons.mpr ⟨uncut, List.forall_mem_singleton.mpr behind⟩
  · rw [intercalate_parts, String.ofList_toList]

/-- A line declares a name exactly if it is the line for that name. -/
theorem declaredName?_eq_some_iff {line : List Char} {name : String} :
    declaredName? line = some name ↔
      Text.isWord name.toList = true ∧ line = (globalLine name).toList := by
  constructor
  · intro declared
    rw [declaredName?] at declared
    split at declared
    · next front rest cut =>
      split at declared
      · next shape =>
        cases declared
        rcases shape with ⟨word, rfl⟩
        refine ⟨by rwa [String.toList_ofList], ?_⟩
        exact (Text.cutAt_eq_iff.mp cut).2.2.trans (intercalate_parts front)
      · cases declared
    · cases declared
  · rintro ⟨word, rfl⟩
    rw [declaredName?, cutAt_globalLine word]
    dsimp only
    rw [if_pos ⟨word, rfl⟩, String.ofList_toList]

/-- A line that has a blank before any colon declares nothing. -/
theorem declaredName?_eq_none {front rest : List Char} (blank : ' ' ∈ front) (uncut : ':' ∉ front) :
    declaredName? (front ++ rest) = none := by
  cases declared : declaredName? (front ++ rest) with
  | none => rfl
  | some name =>
    rcases declaredName?_eq_some_iff.mp declared with ⟨word, spelled⟩
    have named : name.toList ++ [':'] <+: front ++ rest := by
      rw [spelled, toList_globalLine]
      exact ⟨" Final = RLS.".toList ++ name.toList, List.append_assoc _ _ _⟩
    rcases List.prefix_or_prefix_of_prefix named (List.prefix_append front rest) with inside | beyond
    · exact absurd (inside.subset (List.mem_append_right _ List.mem_cons_self)) uncut
    · rcases List.mem_append.mp (beyond.subset blank) with member | colon
      · exact absurd member (not_mem_of_isWord (by decide) (by decide) word)
      · exact absurd (List.mem_singleton.mp colon) (by decide)

/-! ## Documents that declare names -/

/-- A last line that is empty ends the text with one more separator. -/
theorem intercalate_concat_nil (separator : List Char) {lines : List (List Char)} (given : lines ≠ []) :
    separator.intercalate (lines ++ [[]]) = separator.intercalate lines ++ separator := by
  induction lines with
  | nil => exact absurd rfl given
  | cons line rest inductionHypothesis =>
    cases rest with
    | nil =>
      rw [List.singleton_append, List.intercalate_cons_cons, List.intercalate_singleton,
        List.intercalate_singleton, List.append_nil]
    | cons next rest =>
      rw [List.cons_append, List.intercalate_cons_of_ne_nil (by simp),
        inductionHypothesis (List.cons_ne_nil _ _), List.intercalate_cons_cons, List.append_assoc _ _ separator]

variable {module : String} {names : List String}

/-- The lines of the document: those that do not hang on the names, one for each name, and an
empty one behind the last end of a line. -/
theorem cutAt_globalDeclarations (undivided : '\n' ∉ module.toList)
    (words : ∀ name ∈ names, Text.isWord name.toList = true) :
    Text.cutAt '\n' (globalDeclarations names module).toList =
      (globalHeader module ++ names.map globalLine).map String.toList ++ [[]] := by
  have several : (globalHeader module ++ names.map globalLine).map String.toList ≠ [] := by
    rw [globalHeader, List.cons_append]
    exact List.cons_ne_nil _ _
  refine Text.cutAt_eq_iff.mpr ⟨List.append_ne_nil_of_right_ne_nil _ (List.cons_ne_nil _ _), ?_, ?_⟩
  · intro line listed
    rcases List.mem_append.mp listed with listed | last
    · rcases List.mem_map.mp listed with ⟨text, member, rfl⟩
      rcases List.mem_append.mp member with header | declared
      · have imported : '\n' ∉ ("import " ++ module ++ " as RLS").toList := by
          rw [String.toList_append, String.toList_append, List.mem_append, List.mem_append]
          exact not_or.mpr ⟨not_or.mpr ⟨by decide, undivided⟩, by decide⟩
        simp only [globalHeader, List.mem_cons, List.not_mem_nil, or_false] at header
        rcases header with rfl | rfl | rfl | rfl | rfl
        · decide
        · decide
        · decide
        · exact imported
        · decide
      · rcases List.mem_map.mp declared with ⟨name, given, rfl⟩
        have whole : '\n' ∉ name.toList := not_mem_of_isWord (by decide) (by decide) (words name given)
        rw [toList_globalLine, List.mem_append, List.mem_append]
        exact not_or.mpr ⟨whole, not_or.mpr ⟨by decide, whole⟩⟩
    · exact List.mem_singleton.mp last ▸ List.not_mem_nil
  · rw [intercalate_concat_nil _ several, globalDeclarations, String.toList_append,
      String.toList_intercalate]
    rfl

/-- The names are read back from the document. -/
theorem declaredNames_globalDeclarations (undivided : '\n' ∉ module.toList)
    (words : ∀ name ∈ names, Text.isWord name.toList = true) :
    declaredNames (globalDeclarations names module) = names := by
  have header : ((globalHeader module).map String.toList).filterMap declaredName? = [] := by
    have imported : declaredName? ("import " ++ module ++ " as RLS").toList = none := by
      rw [String.toList_append, String.toList_append, List.append_assoc]
      exact declaredName?_eq_none (by decide) (by decide)
    have comment : declaredName?
        "# Names available to playground programs without imports".toList = none := by decide
    have typing : declaredName? "from typing import Final".toList = none := by decide
    have empty : declaredName? "".toList = none := by decide
    simp only [globalHeader, List.map_cons, List.map_nil, List.filterMap_cons, imported, comment,
      typing, empty, List.filterMap_nil]
  have declared : ((names.map globalLine).map String.toList).filterMap declaredName? = names := by
    rw [List.map_map, List.filterMap_map]
    have each : ∀ name ∈ names, (declaredName? ∘ String.toList ∘ globalLine) name = some name :=
      fun name given => declaredName?_eq_some_iff.mpr ⟨words name given, rfl⟩
    rw [List.filterMap_congr each, List.filterMap_some]
  have last : [[]].filterMap declaredName? = [] := rfl
  rw [declaredNames, cutAt_globalDeclarations undivided words, List.map_append, List.filterMap_append,
    List.filterMap_append, header, declared, last, List.nil_append, List.append_nil]

/-- A registry is built of names with their values exactly if every name is a text that is a
word, no keyword, and does not begin with an underscore, and no name is given twice.  Then the
registry lists what was given in the given order, and answers every name by it; and the document
for an editor has the lines that begin it and then one line for each name, from which the names
are read back.  Otherwise the fault is that of the first name that is refused behind those
before it, and its message shows that name. -/
theorem registry_and_declarations_list_the_names (given : List (OfferedName × Script.Value)) :
    ((∃ registry, Registry.ofPairs given = .ok registry) ↔
      (∀ pair ∈ given, ∃ name, pair.1 = .text name ∧ IsBindingName name) ∧
        (given.map Prod.fst).Nodup) ∧
    (∀ registry, Registry.ofPairs given = .ok registry →
      registry.entries.map (fun entry => (OfferedName.text entry.1, entry.2)) = given ∧
      registry.names.map .text = given.map Prod.fst ∧
      registry.size = given.length ∧
      (∀ name, registry.contains name = true ↔ .text name ∈ given.map Prod.fst) ∧
      (∀ name value, registry.get? name = some value ↔ (.text name, value) ∈ given) ∧
      ∀ module, '\n' ∉ module.toList →
        Text.cutAt '\n' (globalDeclarations registry.names module).toList =
          (globalHeader module ++ registry.names.map globalLine).map String.toList ++ [[]] ∧
        declaredNames (globalDeclarations registry.names module) = registry.names) ∧
    ∀ fault, Registry.ofPairs given = .error fault ↔
      ∃ accepted offered value rest, given = accepted ++ (offered, value) :: rest ∧
        Registry.IsRegistrable accepted ∧ RefusedBehind (accepted.map Prod.fst) offered fault ∧
        ∃ front behind, fault.message = front ++ offered.shown ++ behind := by
  refine ⟨?_, fun registry built => ?_, fun fault => ?_⟩
  · rw [Registry.exists_ofPairs_eq_ok_iff]
    exact ⟨fun fine => ⟨fine.usable, fine.distinct⟩, fun fine => ⟨fine.1, fine.2⟩⟩
  · have same := Registry.pairs_of_ofPairs built
    subst same
    have words : ∀ name ∈ registry.names, Text.isWord name.toList = true :=
      List.forall_mem_map.mpr fun entry listed =>
        (bindingNameFault?_eq_none_iff.mp (registry.usable entry listed)).word
    exact ⟨rfl, registry.map_fst_pairs.symm, registry.size_eq, fun name => Registry.contains_iff,
      fun name value => Registry.get?_eq_some_iff, fun module undivided =>
        ⟨cutAt_globalDeclarations undivided words, declaredNames_globalDeclarations undivided words⟩⟩
  · rw [Registry.ofPairs_eq_error_iff]
    constructor
    · rintro ⟨accepted, offered, value, rest, split, fine, refused⟩
      exact ⟨accepted, offered, value, rest, split, fine, refused, refused.exists_message⟩
    · rintro ⟨accepted, offered, value, rest, split, fine, refused, -⟩
      exact ⟨accepted, offered, value, rest, split, fine, refused⟩

end Editor
end PolicyStudio
