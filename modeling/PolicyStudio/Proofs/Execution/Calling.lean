import Mathlib.Data.List.Basic
import Mathlib.Tactic.SplitIfs
import PolicyStudio.Execution.Executor
import PolicyStudio.Proofs.Script.Plain

/-!
# Calling a program

A program is a function that is made in surroundings of its own and then called.  Here
both are followed step by step for plain parameters and a body that returns the value of
a name: each argument becomes the variable of its parameter, and the call comes to the
value of that name.
-/

namespace PolicyStudio

open Script

namespace Script

/-! ## Arguments -/

/-- With different keys, each entry is found under its key. -/
theorem lookup_of_mem {β : Type} {entries : List (String × β)}
    (distinct : (entries.map Prod.fst).Nodup) {entry : String × β} (member : entry ∈ entries) :
    entries.lookup entry.1 = some entry.2 := by
  induction entries with
  | nil => cases member
  | cons first rest inductionHypothesis =>
    have distinctRest := List.nodup_cons.mp distinct
    rcases List.mem_cons.mp member with rfl | member
    · rw [List.lookup_cons, BEq.rfl]
    · have different : entry.1 ≠ first.1 := fun same =>
        distinctRest.1 (same ▸ List.mem_map_of_mem member)
      rw [List.lookup_cons, beq_false_of_ne different]
      exact inductionHypothesis distinctRest.2 member

/-- One argument for each parameter is bound to it. -/
theorem Signature.bind_of_plain {entries : List (String × Value)}
    (distinct : (entries.map Prod.fst).Nodup) (function : String) :
    Signature.bind { positional := entries.map Prod.fst } function []
        { positional := entries.map Prod.snd } =
      .ok (entries.map fun entry => (entry.1, .one entry.2)) := by
  have paired : (entries.map Prod.fst).zip (entries.map Prod.snd) = entries := by
    rw [List.zip_map', List.map_id']
  have missing : ((entries.map Prod.fst).filter fun name =>
      (!entries.any fun entry => entry.1 == name) &&
        (List.lookup name ([] : List (String × Value))).isNone) = [] := by
    refine List.filter_eq_nil_iff.mpr fun name listed => ?_
    rcases List.mem_map.mp listed with ⟨entry, member, rfl⟩
    have taken : (entries.any fun other => other.1 == entry.1) = true :=
      List.any_eq_true.mpr ⟨entry, member, BEq.rfl⟩
    rw [taken]
    nofun
  have found : ((entries.map Prod.fst).filterMap fun name =>
      ((entries.lookup name <|> List.lookup name []).map fun value => (name, Bound.one value))) =
        entries.map fun entry => (entry.1, .one entry.2) := by
    rw [List.filterMap_map]
    refine List.filterMap_eq_map_iff_forall_eq_some.mpr fun entry member => ?_
    show ((entries.lookup entry.1 <|> _).map _) = _
    rw [lookup_of_mem distinct member]
    rfl
  unfold Signature.bind
  simp only [paired, List.foldlM_nil, pure_bind, List.length_map, Nat.lt_irrefl, and_false,
    if_false, missing, List.filter_nil, List.isEmpty_nil, Bool.not_true, Bool.false_eq_true,
    List.append_nil, found, Option.toList_none, List.map_nil]
  rfl

/-! ## Variables -/

/-- A frame is found at its address. -/
theorem frameAt_run {frame : Frame} {address : Address} {machine : Machine}
    (there : machine.Holds address (.frame frame)) :
    (Variable.frameAt address).run machine = .ok frame machine := by
  rw [Variable.frameAt, Step.run_bind_of_ok (Step.run_load there)]
  rfl

/-- A name can be given a value in the surroundings. -/
theorem write_run {frame : Frame} {address : Address} {before : Machine}
    (path name : String) (value : Value) (there : before.Holds address (.frame frame))
    (outermost : frame.kind = .global) :
    ∃ after, (Variable.write ⟨[address], path⟩ name value).run before = .ok () after ∧
      after.depth = before.depth ∧ after.Holds address
        (.frame { frame with entries := Variable.assigned name value frame.entries }) := by
  have placed : (Variable.place name true [address]).run before = .ok .global before := by
    rw [Variable.place, Step.run_bind_of_ok (frameAt_run there), outermost]
    rfl
  rw [Variable.write, Step.run_bind_of_ok placed]
  refine ⟨_, rfl, rfl, ?_⟩
  show (before.heap.modify address _)[address]? = _
  rw [Array.getElem?_modify, if_pos rfl, show before.heap[address]? = _ from there]
  rfl

/-- A variable of the innermost frame has its value. -/
theorem read_run {frame : Frame} {address : Address} {outer : List Address} {path name : String}
    {value : Value} {machine : Machine} (there : machine.Holds address (.frame frame))
    (inner : frame.kind = .function) (free : name ∉ frame.globals) (own : name ∈ frame.locals)
    (found : frame.entries.lookup name = some value) :
    (Variable.read ⟨address :: outer, path⟩ name).run machine = .ok value machine := by
  have placed : (Variable.place name true (address :: outer)).run machine =
      .ok (.local address true) machine := by
    have kept : (frame.kind = .global || frame.globals.contains name) = false := by
      rw [inner, Bool.eq_false_iff.mpr (mt List.contains_iff_mem.mp free)]
      rfl
    rw [Variable.place, Step.run_bind_of_ok (frameAt_run there), kept,
      if_neg Bool.false_ne_true, if_pos (List.contains_iff_mem.mpr own)]
    rfl
  rw [Variable.read, Step.run_bind_of_ok placed]
  dsimp only
  rw [Step.run_bind_of_ok (frameAt_run there), found]
  rfl

/-- A name that does not stand for printing is read as a variable. -/
theorem nameValue_eq_read {name : String} (plain : name ∉ Restriction.reservedNames)
    (scope : Scope) : Evaluate.nameValue scope name = Variable.read scope name := by
  unfold Evaluate.nameValue
  split
  · exact absurd (by decide) plain
  · exact absurd (by decide) plain
  · rfl

/-- Leaving out repetitions keeps every name. -/
theorem mem_distinctNames {name : String} {names : List String} (member : name ∈ names) :
    name ∈ Parameters.distinctNames names := by
  induction names with
  | nil => cases member
  | cons first rest inductionHypothesis =>
    show name ∈ (if (Parameters.distinctNames rest).contains first then
      Parameters.distinctNames rest else first :: Parameters.distinctNames rest)
    split_ifs with known
    · rcases List.mem_cons.mp member with rfl | member
      · exact List.contains_iff_mem.mp known
      · exact inductionHypothesis member
    · exact List.mem_cons.mpr ((List.mem_cons.mp member).imp_right inductionHypothesis)

/-- Parameters are local names. -/
theorem mem_localNames {name : String} {names : List String} (member : name ∈ names) :
    name ∈ localNames names {} := by
  refine mem_distinctNames (List.mem_filter.mpr ⟨?_, rfl⟩)
  exact List.mem_append_left _ member

end Script

namespace Execution

/-! ## Making the function -/

/-- Default values that are not there take no step. -/
theorem defaultValues_of_plain (self : Interpreter) (scope : Scope) (positional : List Parameter) :
    Evaluate.defaultValues self scope (.ofPositional positional) = pure [] := by
  simp only [Evaluate.defaultValues, List.mapM_nil, pure_bind, alignDefaults,
    List.zip_nil_right, List.flatten_nil, List.append_nil]

/-- Hints that are not there take no step. -/
theorem evaluateHints_of_plain (self : Interpreter) (scope : Scope) {positional : List Parameter}
    (plain : ∀ parameter ∈ positional, parameter.hint = none) :
    Execute.evaluateHints self scope (.ofPositional positional) = pure () := by
  simp only [Execute.evaluateHints, Option.toList_none, List.append_nil]
  induction positional with
  | nil => rfl
  | cons parameter rest inductionHypothesis =>
    rw [List.forIn_cons, plain parameter List.mem_cons_self]
    simp only [pure_bind]
    exact inductionHypothesis fun other member => plain other (List.mem_cons_of_mem _ member)

/-- The function of a plain program. -/
def closureOf (program : CompiledProgram) (surroundings : Address) : Closure where
  name := programName
  path := programName
  signature := Evaluate.signatureOf program.parameters
  defaults := []
  body := .statements program.body
  locals := localNames program.parameters.names (bindingsOf program.body)
  globals := (bindingsOf program.body).globals
  isGenerator := (bindingsOf program.body).yields
  prints := definitionPrints program.parameters program.body [] none
  scope := ⟨[surroundings], ""⟩

/-- The surroundings of a program hold nothing but its function. -/
def surroundingsOf (function : Address) : Frame :=
  ⟨.global, [], [], [(programName, .object function)], "", #[], false⟩

/-- Making the function of a plain program comes to it, in surroundings that are new. -/
theorem load_run {program : CompiledProgram} {positional : List Parameter}
    (same : program.parameters = .ofPositional positional)
    (plain : ∀ parameter ∈ positional, parameter.hint = none) (before : Machine) :
    ∃ address after, (load program).run before = .ok (.object address) after ∧
      before.heap.size < address ∧
      after.Holds address (.closure (closureOf program before.heap.size)) ∧
      after.Holds before.heap.size (.frame (surroundingsOf address)) ∧
      after.depth = before.depth := by
  let frame : Frame := ⟨.global, [], [], [], "", #[], false⟩
  let first : Machine := { before with heap := before.heap.push (.frame frame) }
  let closure : Object := .closure (closureOf program before.heap.size)
  let second : Machine := { first with heap := first.heap.push closure }
  have framed : second.Holds before.heap.size (.frame frame) :=
    Machine.holds_push.mpr (.inl (Machine.holds_push.mpr (.inr ⟨rfl, rfl⟩)))
  have closed : second.Holds first.heap.size closure := Machine.holds_push.mpr (.inr ⟨rfl, rfl⟩)
  have larger : before.heap.size < first.heap.size := by
    show before.heap.size < (before.heap.push _).size
    rw [Array.size_push]
    exact Nat.lt_succ_self _
  let scope : Scope := ⟨[before.heap.size], ""⟩
  rcases write_run "" programName (.object first.heap.size) framed rfl with
    ⟨after, written, depth, surroundings⟩
  -- Only the surroundings change, because functions are fixed.
  have kept : after.Holds first.heap.size closure := by
    have leads := (Variable.write scope programName (.object first.heap.size)).leads second
    rw [Run.stateAfter, written] at leads
    exact leads.fixed _ _ rfl closed
  refine ⟨first.heap.size, after, ?_, larger, kept, surroundings, depth⟩
  have opened : (Step.allocate (.frame frame)).run before =
      .ok (.object before.heap.size) first := rfl
  have made : (Step.allocate closure).run first = .ok (.object first.heap.size) second := rfl
  have defaults := defaultValues_of_plain programInterpreter scope positional
  have hints := evaluateHints_of_plain programInterpreter scope plain
  rw [← same] at defaults hints
  rw [load, Step.run_bind_of_ok opened]
  dsimp only
  rw [defaults, pure_bind, hints, pure_bind]
  exact (Step.run_bind_of_ok made).trans (Step.run_bind_of_ok written)

/-! ## Calling it -/

/-- Arguments that are bound one by one are the variables of a call. -/
theorem mapM_toValue (entries : List (String × Value)) :
    ((entries.map fun entry => (entry.1, Bound.one entry.2)).mapM fun entry =>
      return (entry.1, ← entry.2.toValue) : Step (List (String × Value))) = pure entries := by
  induction entries with
  | nil => rfl
  | cons entry rest inductionHypothesis =>
    rw [List.map_cons, List.mapM_cons, inductionHypothesis]
    rfl

/-- The frame of a call. -/
def frameOf (closure : Closure) (entries : List (String × Value)) : Frame :=
  ⟨.function, closure.locals, closure.globals, entries, "", #[], closure.prints⟩

/-- Opening a call with arguments that are bound one by one. -/
theorem openFrame_run {closure : Closure} {body : List Statement}
    (stated : closure.body = .statements body) {given : Arguments Value}
    {entries : List (String × Value)}
    (bound : closure.signature.bind closure.path closure.defaults given =
      .ok (entries.map fun entry => (entry.1, .one entry.2))) (before : Machine) :
    (openFrame closure given).run before = .ok before.heap.size
      { before with heap := before.heap.push (.frame (frameOf closure entries)) } := by
  rw [openFrame, bound, Step.ofBound, pure_bind, mapM_toValue, pure_bind, stated]
  rfl

/-- A call one level deeper comes to what the code comes to. -/
theorem nested_run {step : Step Value} {value : Value} {before after : Machine}
    (shallow : before.depth < callLimit)
    (returned : step.run { before with depth := before.depth + 1 } = .ok value after) :
    (nested step).run before = .ok value { after with depth := before.depth } := by
  have looked : Step.look.run before = .ok before before := rfl
  have leads := step.leads { before with depth := before.depth + 1 }
  rw [Run.stateAfter, returned] at leads
  have restored : after.restore before = { after with depth := before.depth } := by
    have limit : after.limit = before.limit := leads.limit
    have handling : after.handling = before.handling := leads.handling
    rw [Machine.restore, ← limit, ← handling]
  rw [nested, Step.run_bind_of_ok looked, if_neg (Nat.not_le.mpr shallow), ← restored]
  exact Step.run_under_of_ok returned

/-- A body that returns the value of a variable comes to it. -/
theorem runBody_run {depth line : Nat} {closure : Closure} {name : String}
    {address : Address} {value : Value} {machine : Machine}
    (stated : closure.body = .statements (returnOf line name))
    (read : (Evaluate.nameValue (closure.inside address) name).run machine = .ok value machine) :
    (runBody (interpreter (depth + 2)) closure address).run machine = .ok value machine := by
  have returned : (Execute.statement (interpreter (depth + 1)) (closure.inside address)
      (.return (some (.name line name)))).run machine = .ok (.returned value) machine := by
    show ((Evaluate.nameValue (closure.inside address) name >>= fun value =>
      pure (Flow.returned value)) : Step Flow).run machine = _
    rw [Step.run_bind_of_ok read]
    rfl
  have executed : ((interpreter (depth + 2)).execute (closure.inside address)
      (returnOf line name)).run machine = .ok (.returned value) machine := by
    show (Execute.step (interpreter (depth + 1)) (closure.inside address) (returnOf line name)).run
      machine = _
    rw [returnOf, Execute.step, Step.run_bind_of_ok returned]
    rfl
  rw [runBody, stated]
  dsimp only
  rw [Step.run_bind_of_ok executed]
  rfl

/-- A program that returns the value of one of its parameters comes to the argument for
it. -/
theorem call_run (depth : Nat) {line : Nat} {positional : List Parameter}
    {entries : List (String × Value)} {entry : String × Value} {surroundings address : Address}
    {before : Machine} (named : positional.map Parameter.name = entries.map Prod.fst)
    (distinct : (entries.map Prod.fst).Nodup) (member : entry ∈ entries)
    (plain : entry.1 ∉ Restriction.reservedNames)
    (there : before.Holds address
      (.closure (closureOf ⟨.ofPositional positional, returnOf line entry.1⟩ surroundings)))
    (shallow : before.depth < callLimit) :
    ∃ after, ((interpreter (depth + 3)).call (.object address)
      { positional := entries.map Prod.snd }).run before = .ok entry.2 after := by
  let closure := closureOf ⟨.ofPositional positional, returnOf line entry.1⟩ surroundings
  let given : Arguments Value := { positional := entries.map Prod.snd }
  have bound : closure.signature.bind closure.path closure.defaults given =
      .ok (entries.map fun entry => (entry.1, .one entry.2)) := by
    have signature : closure.signature = { positional := entries.map Prod.fst } := by
      show Evaluate.signatureOf (.ofPositional positional) = _
      rw [← named]
      rfl
    rw [signature]
    exact Signature.bind_of_plain distinct programName
  let frame := frameOf closure entries
  let opened : Machine := { before with heap := before.heap.push (.frame frame) }
  let deeper : Machine := { opened with depth := before.depth + 1 }
  have framed : deeper.Holds before.heap.size (.frame frame) :=
    Machine.holds_push.mpr (.inr ⟨rfl, rfl⟩)
  have own : entry.1 ∈ frame.locals := by
    show entry.1 ∈ localNames (Parameters.ofPositional positional).names {}
    rw [Parameters.names, Parameters.all_ofPositional, named]
    exact mem_localNames (List.mem_map_of_mem member)
  have read : (Evaluate.nameValue (closure.inside before.heap.size) entry.1).run deeper =
      .ok entry.2 deeper := by
    rw [nameValue_eq_read plain]
    exact read_run framed rfl nofun own (lookup_of_mem distinct member)
  have body : (runBody (interpreter (depth + 2)) closure before.heap.size).run deeper =
      .ok entry.2 deeper := runBody_run rfl read
  have returned : (callClosure (interpreter (depth + 2)) address closure given).run before =
      .ok entry.2 { deeper with depth := before.depth } := by
    rw [callClosure, Step.run_bind_of_ok (openFrame_run rfl bound before)]
    exact nested_run shallow body
  refine ⟨{ deeper with depth := before.depth }, ?_⟩
  show ((Step.load address).run >>= callLoaded (interpreter (depth + 2)) address given) before = _
  simp only [Bind.bind, EStateM.bind]
  rw [Step.run_load there]
  exact returned

end Execution
end PolicyStudio
