import Mathlib.Logic.Basic
import Mathlib.Tactic.SplitIfs
import PolicyStudio.Execution.Executor
import PolicyStudio.Proofs.Outcome
import PolicyStudio.Proofs.Script.Header

/-!
# Sources that are programs

A source is a program exactly if it passes all four checks.  The names of a registry
always pass the one for parameters, because they are words and no keywords.  What they
are checked for then, and what programs know them by, are their compatible forms, which
can be reserved or coincide although the names themselves are not and do not.
-/

namespace PolicyStudio

open Script

/-! ## Reserved names -/

namespace Script.Restriction

/-- No parameter may have this name. -/
def IsRefused (name : String) : Prop :=
  isHidden name = true ∨ name.endsWith "__roles__" = true ∨ name ∈ reservedNames

instance (name : String) : Decidable (IsRefused name) :=
  inferInstanceAs (Decidable (_ ∨ _ ∨ _))

/-- Nothing is wrong with a name that is not refused. -/
theorem ofName_eq_nil_iff {line : Nat} {name : String} :
    ofName line name = [] ↔ ¬IsRefused name := by
  unfold ofName IsRefused
  split_ifs with hidden roles reserved
  · simp [hidden]
  · simp [roles]
  · simp [List.contains_iff_mem.mp reserved]
  · have free : name ∉ reservedNames := mt List.contains_iff_mem.mpr reserved
    simp [hidden, roles, free]

/-- A variable may be read under a name that is neither refused nor a constant. -/
theorem ofVariable_eq_nil_iff {line : Nat} {name : String} (free : ¬IsRefused name) :
    ofVariable false line name = [] ↔ name ∉ constantNames := by
  unfold ofVariable
  split_ifs with constant
  · simp [List.contains_iff_mem.mp constant]
  · simp [mt List.contains_iff_mem.mpr constant]
  · simp [mt List.contains_iff_mem.mpr constant, ofName_eq_nil_iff.mpr free]

end Script.Restriction

/-- A name that can be registered is a word and no keyword. -/
theorem bindingNameFault?_eq_none {name : String} (usable : bindingNameFault? name = none) :
    Text.isWord name.toList = true ∧ name ∉ keywords := by
  unfold bindingNameFault? at usable
  split_ifs at usable with wordless keyword
  exact ⟨by simpa using wordless, mt List.contains_iff_mem.mpr keyword⟩

namespace Program

variable {source name : String} {names : List String}

/-! ## The four checks -/

/-- A source is a program exactly if it and its parameters are read, nothing in them is
refused and nothing is in the wrong place. -/
theorem compile_eq_ok_iff {program : CompiledProgram} :
    compile source names = .ok program ↔
      readText (source ++ "\npass\n") .malformed = .ok program.body ∧
        readParameters names = .ok program.parameters ∧
        refusals program.parameters program.body = [] ∧
        misplacement? program.parameters program.body = none := by
  constructor
  · intro compiled
    rcases Outcome.bind_eq_ok.mp compiled with ⟨body, read, compiled⟩
    rcases Outcome.bind_eq_ok.mp compiled with ⟨parameters, header, compiled⟩
    rw [List.partition_eq_filter_filter] at compiled
    dsimp only at compiled
    split at compiled
    · next others constants placed =>
      cases compiled
      refine ⟨read, header, List.eq_nil_iff_forall_not_mem.mpr fun refusal member => ?_, placed⟩
      have noOther := List.filter_eq_nil_iff.mp others refusal member
      have noConstant := List.filter_eq_nil_iff.mp constants refusal member
      simp at noOther noConstant
      exact Bool.false_ne_true (noConstant.symm.trans noOther)
    · cases compiled
    · cases compiled
    · cases compiled
  · rintro ⟨read, header, allowed, placed⟩
    refine Outcome.bind_eq_ok.mpr ⟨_, read, Outcome.bind_eq_ok.mpr ⟨_, header, ?_⟩⟩
    rw [allowed, placed]
    rfl

/-! ## Texts that are read -/

/-- A text of names and what stands between them is read as a program. -/
theorem readText_eq {text : String} {program : Script.Program}
    (plain : text.toList.all standsInLine = true) (read : readProgram text = .ok program)
    (fault : SyntaxFault → ProgramFault) : readText text fault = .ok program := by
  have ended : text.toList.contains '\x00' = false :=
    Bool.eq_false_iff.mpr (mt List.contains_iff_mem.mp (not_mem_of_standsInLine plain (by decide)))
  rw [readText, ended, read]
  rfl

/-- Words that are no keywords are read as plain parameters. -/
theorem readParameters_eq (areNames : ∀ name ∈ names, Text.isWord name.toList = true ∧
    name ∉ keywords) : readParameters names = .ok (Reader.plainParameters names) := by
  have isName : Text.isWord programName.toList = true ∧ programName ∉ keywords := by decide
  have plain := Reader.standsInLine_headerText isName.1 fun name member => (areNames name member).1
  have read := Reader.readProgram_headerText isName.1 isName.2 areNames
  exact Outcome.bind_eq_ok.mpr ⟨_, readText_eq plain read _, rfl⟩

/-- The source that returns a name is read as such. -/
theorem readText_return (isWord : Text.isWord name.toList = true) (free : name ∉ keywords) :
    readText ("return " ++ name ++ "\npass\n") .malformed =
      .ok (returnOf 1 (Text.normal name)) :=
  readText_eq (Reader.standsInLine_returnText isWord) (Reader.readProgram_returnText isWord free) _

end Program

/-! ## Registries -/

namespace Registry

/-- The names by which programs know the values of a registry. -/
def visibleNames (registry : Registry) : List String :=
  registry.names.map Text.normal

/-- Programs can be run with the registry: the names that they know are different, and
none of them is refused. -/
structure IsVisible (registry : Registry) : Prop where
  distinct : registry.visibleNames.Nodup
  free : ∀ name ∈ registry.visibleNames, ¬Restriction.IsRefused name

instance (registry : Registry) : Decidable registry.IsVisible :=
  decidable_of_iff (registry.visibleNames.Nodup ∧
      ∀ name ∈ registry.visibleNames, ¬Restriction.IsRefused name)
    ⟨fun ⟨distinct, free⟩ => ⟨distinct, free⟩, fun visible => ⟨visible.distinct, visible.free⟩⟩

variable {registry : Registry} {name source : String}

/-- The names of a registry are words and no keywords. -/
theorem isName_of_mem (registered : name ∈ registry.names) :
    Text.isWord name.toList = true ∧ name ∉ keywords := by
  rcases List.mem_map.mp registered with ⟨entry, member, rfl⟩
  exact bindingNameFault?_eq_none (registry.usable entry member)

/-- The names of a registry are read as plain parameters. -/
theorem readParameters_names (registry : Registry) :
    Program.readParameters registry.names = .ok (Reader.plainParameters registry.names) :=
  Program.readParameters_eq fun _ => isName_of_mem

/-- The names of the parameters are those that programs know. -/
theorem map_name_plainParameters (registry : Registry) :
    (registry.names.map fun name => Parameter.mk 1 (Text.normal name) none).map Parameter.name =
      registry.visibleNames := by
  rw [List.map_map]
  rfl

/-- What is wrong with the parameters is what is wrong with these names. -/
theorem ofParameterNames_eq_nil_iff :
    Restriction.ofParameterNames 1 (Reader.plainParameters registry.names) = [] ↔
      ∀ name ∈ registry.visibleNames, ¬Restriction.IsRefused name := by
  rw [Reader.plainParameters, ofParameterNames_ofPositional, map_name_plainParameters,
    List.flatMap_eq_nil_iff]
  exact forall₂_congr fun name _ => Restriction.ofName_eq_nil_iff

/-- The parameters have no hints. -/
theorem hint_plainParameters (registry : Registry) :
    ∀ parameter ∈ registry.names.map fun name => Parameter.mk 1 (Text.normal name) none,
      parameter.hint = none :=
  List.forall_mem_map.mpr fun _ _ => rfl

/-- Nothing is refused in a program that returns the value of a name exactly if neither
the names of the parameters are nor that of the variable is. -/
theorem refusals_returnOf_eq_nil_iff (registered : name ∈ registry.names) :
    Program.refusals (Reader.plainParameters registry.names) (returnOf 1 (Text.normal name)) = [] ↔
      (∀ other ∈ registry.visibleNames, ¬Restriction.IsRefused other) ∧
        Text.normal name ∉ Restriction.constantNames := by
  have visible : Text.normal name ∈ registry.visibleNames := List.mem_map_of_mem registered
  have bare : (Reader.plainParameters registry.names).refusals = [] :=
    refusals_of_plain registry.hint_plainParameters
  rw [Program.refusals, bare, List.append_nil, List.append_eq_nil_iff, ofParameterNames_eq_nil_iff,
    refusalsOfBody_returnOf]
  exact and_congr_right fun free => Restriction.ofVariable_eq_nil_iff (free _ visible)

/-- Nothing is in the wrong place in such a program exactly if the parameters have
different names. -/
theorem misplacement?_returnOf_eq_none_iff {line : Nat} :
    misplacement? (Reader.plainParameters registry.names) (returnOf line name) = none ↔
      registry.visibleNames.Nodup := by
  rw [← map_name_plainParameters]
  exact ⟨distinct_of_misplacement?_eq_none, fun distinct =>
    misplacement?_of_plain registry.hint_plainParameters distinct line name⟩

/-- There are programs for a registry only if they can be run with it. -/
theorem isVisible_of_compile {program : CompiledProgram}
    (compiled : Program.compile source registry.names = .ok program) : registry.IsVisible := by
  rcases Program.compile_eq_ok_iff.mp compiled with ⟨-, header, allowed, placed⟩
  have same := Except.ok.inj (header.symm.trans registry.readParameters_names)
  rw [same] at allowed placed
  refine ⟨?_, ofParameterNames_eq_nil_iff.mp ?_⟩
  · rw [← map_name_plainParameters]
    exact distinct_of_misplacement?_eq_none placed
  · exact (List.append_eq_nil_iff.mp (List.append_eq_nil_iff.mp allowed).1).1

/-- The source that returns the value of a name is a program exactly if programs can be
run with the registry and the name does not stand for a constant. -/
theorem compile_return_iff (registered : name ∈ registry.names) :
    Program.compile ("return " ++ name) registry.names =
        .ok ⟨Reader.plainParameters registry.names, returnOf 1 (Text.normal name)⟩ ↔
      registry.IsVisible ∧ Text.normal name ∉ Restriction.constantNames := by
  have isName := isName_of_mem registered
  rw [Program.compile_eq_ok_iff, refusals_returnOf_eq_nil_iff registered,
    misplacement?_returnOf_eq_none_iff]
  constructor
  · rintro ⟨-, -, ⟨free, inconstant⟩, distinct⟩
    exact ⟨⟨distinct, free⟩, inconstant⟩
  · rintro ⟨⟨distinct, free⟩, inconstant⟩
    exact ⟨Program.readText_return isName.1 isName.2, registry.readParameters_names,
      ⟨free, inconstant⟩, distinct⟩

/-- There is no other program that the source can be. -/
theorem eq_of_compile_return (registered : name ∈ registry.names) {program : CompiledProgram}
    (compiled : Program.compile ("return " ++ name) registry.names = .ok program) :
    program = ⟨Reader.plainParameters registry.names, returnOf 1 (Text.normal name)⟩ := by
  have isName := isName_of_mem registered
  rcases Program.compile_eq_ok_iff.mp compiled with ⟨read, header, -, -⟩
  have body := Except.ok.inj (read.symm.trans (Program.readText_return isName.1 isName.2))
  have parameters := Except.ok.inj (header.symm.trans registry.readParameters_names)
  rcases program with ⟨_, _⟩
  rw [CompiledProgram.mk.injEq]
  exact ⟨parameters, body⟩

end Registry
end PolicyStudio
