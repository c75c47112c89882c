import PolicyStudio.Proofs.Execution.Calling
import PolicyStudio.Proofs.Execution.Compiling
import PolicyStudio.Proofs.Execution.Outcome

/-!
# Names of bindings

A program finds the values of a registry under their names.  The registry and the check
of programs do not refuse the same names: some that can be registered are reserved for
the interpreter, or become the same for it, and one such name in a registry keeps every
source from being a program.  Without them, a program that returns the value of a name
finds it.
-/

namespace PolicyStudio

open Script

namespace Registry

/-- The values by the names that programs know. -/
def visibleEntries (registry : Registry) : List (String × Value) :=
  registry.entries.map fun entry => (Text.normal entry.1, entry.2)

theorem map_fst_visibleEntries (registry : Registry) :
    registry.visibleEntries.map Prod.fst = registry.visibleNames := by
  rw [visibleEntries, visibleNames, names, List.map_map, List.map_map]
  rfl

theorem map_snd_visibleEntries (registry : Registry) :
    registry.visibleEntries.map Prod.snd = registry.values := by
  rw [visibleEntries, values, List.map_map]
  rfl

end Registry

namespace Execution

variable {registry : Registry} {name : String} {value : Value} {before : Machine}

/-- Programs cannot be run with a registry that holds a name that they cannot know: each
run fails, and nothing is called. -/
theorem run_of_not_isVisible (hidden : ¬registry.IsVisible) (limit : Option Int)
    (source : String) (before : Machine) :
    ∃ result after, (run limit source registry).run before = .ok result after ∧
      IsReported result ∧ after.calls = before.calls := by
  cases compiled : Program.compile source registry.names with
  | ok program => exact absurd (Registry.isVisible_of_compile compiled) hidden
  | error fault =>
    rcases run_of_fault compiled with ⟨after, uncalled, reported⟩
    exact ⟨_, after, reported, isReported_failed (Text.isTrimmed_strip _), uncalled⟩

/-- The program that returns the value of a name comes to it. -/
theorem invoke_of_compile (visible : registry.IsVisible) (bound : (name, value) ∈ registry.entries)
    (compiled : Program.compile ("return " ++ name) registry.names =
      .ok ⟨Reader.plainParameters registry.names, returnOf 1 (Text.normal name)⟩)
    (shallow : before.depth < callLimit) :
    ∃ after, (invoke none ("return " ++ name) registry).run before = .ok value after := by
  let program : CompiledProgram :=
    ⟨Reader.plainParameters registry.names, returnOf 1 (Text.normal name)⟩
  have entries : (Text.normal name, value) ∈ registry.visibleEntries :=
    List.mem_map.mpr ⟨_, bound, rfl⟩
  have listed : Text.normal name ∈ registry.visibleNames := by
    rw [← Registry.map_fst_visibleEntries]
    exact List.mem_map_of_mem entries
  have unprinted : Text.normal name ∉ Restriction.reservedNames := fun member =>
    visible.free _ listed (.inr (.inr member))
  have same : program.parameters = .ofPositional _ := rfl
  rcases load_run same registry.hint_plainParameters before with
    ⟨address, loaded, load, -, there, -, depth⟩
  let unlimited : Machine := { loaded with limit := none }
  have found : unlimited.Holds address (.closure (closureOf program before.heap.size)) := there
  have named := registry.map_name_plainParameters.trans registry.map_fst_visibleEntries.symm
  have distinct := registry.map_fst_visibleEntries ▸ visible.distinct
  rcases call_run 999999997 named distinct entries unprinted found (depth ▸ shallow) with
    ⟨after, called⟩
  rw [registry.map_snd_visibleEntries] at called
  have run : (programInterpreter.call (.object address) { positional := registry.values }).run
      unlimited = .ok value after := called
  refine ⟨after.restore loaded, ?_⟩
  rw [invoke, compiled]
  dsimp only
  rw [Step.run_bind_of_ok load]
  exact Step.run_under_of_ok run

/-- A source that is no program is not called, so it returns no text. -/
theorem exists_compile_of_success {limit : Option Int} {source text : String} {after : Machine}
    (returned : (run limit source registry).run before = .ok (.success text) after) :
    ∃ program, Program.compile source registry.names = .ok program := by
  cases compiled : Program.compile source registry.names with
  | ok program => exact ⟨program, rfl⟩
  | error fault =>
    rcases run_of_fault compiled with ⟨last, -, reported⟩
    have same := (EStateM.Result.ok.inj (returned.symm.trans reported)).1
    have failed := isReported_failed (Text.isTrimmed_strip fault.message)
    exact absurd (same ▸ failed) (not_isReported_success text)

/-- A program that returns the value of a name of its registry returns it exactly if
programs can be run with the registry and the name does not stand for a constant. -/
theorem value_is_found_iff {text : String} (bound : (name, .text text) ∈ registry.entries)
    (shallow : before.depth < callLimit) :
    (∃ after, (run none ("return " ++ name) registry).run before = .ok (.success text) after) ↔
      registry.IsVisible ∧ Text.normal name ∉ Restriction.constantNames := by
  have registered : name ∈ registry.names := List.mem_map.mpr ⟨_, bound, rfl⟩
  constructor
  · rintro ⟨after, returned⟩
    rcases exists_compile_of_success returned with ⟨program, compiled⟩
    cases Registry.eq_of_compile_return registered compiled
    exact (Registry.compile_return_iff registered).mp compiled
  · intro usable
    have compiled := (Registry.compile_return_iff registered).mpr usable
    rcases invoke_of_compile usable.1 bound compiled shallow with ⟨after, returned⟩
    exact ⟨after, run_eq_success_iff.mpr returned⟩

/-! ## A name that can be registered -/

/-- A registry whose one name is reserved for printing. -/
def printOnly : Registry where
  entries := [("print", .text "shown")]
  usable := by decide +kernel
  distinct := by decide +kernel

/-- A registry whose one name is not reserved. -/
def noteOnly : Registry where
  entries := [("note", .text "shown")]
  usable := by decide +kernel
  distinct := by decide +kernel

/-- The value of the name that is not reserved is found. -/
theorem value_of_note_is_found : ∃ after,
    (run none ("return " ++ "note") noteOnly).run Machine.initial = .ok (.success "shown") after :=
  (value_is_found_iff List.mem_cons_self (by decide)).mpr (by decide +kernel)

set_option maxRecDepth 10000 in
/-- The value of the name that is reserved is not. -/
theorem value_of_print_is_refused : ∃ worded after,
    (run none ("return " ++ "print") printOnly).run Machine.initial =
      .ok (.failure "Line 1: \"print\" is a reserved name." worded) after := by
  have refused : comesTo
      (fun result _ => decide (result = .failed "Line 1: \"print\" is a reserved name."))
      ((run none ("return " ++ "print") printOnly).run Machine.initial) = true := by
    decide +kernel
  rcases exists_of_comesTo refused with ⟨result, after, ended, same⟩
  have worded : "Line 1: \"print\" is a reserved name." ≠ "" := by decide
  refine ⟨worded, after, ?_⟩
  rw [ended, of_decide_eq_true same, ExecutionResult.failed, dif_pos worded]

end Execution
end PolicyStudio
