import PolicyStudio.Proofs.Outcome
import PolicyStudio.Script.Placement
import PolicyStudio.Script.Restriction

/-!
# What a plain function says

The parameters of a program are plain: each is given by position and has no hint and no
default value.  They must have different names.  Where they do, a body that returns the
value of a name has nothing in the wrong place, and what it must not say can only be one
of the names.
-/

namespace PolicyStudio
namespace Script

/-! ## Plain parameters -/

/-- Parameters that are given by position, without default values. -/
abbrev Parameters.ofPositional (positional : List Parameter) : Parameters :=
  .mk [] positional none [] none [] []

namespace Parameters

theorem all_ofPositional (positional : List Parameter) :
    (ofPositional positional).all = positional := by
  simp only [all, List.nil_append, Option.toList_none, List.append_nil]

end Parameters

/-- The body that returns the value of a name. -/
def returnOf (line : Nat) (name : String) : Program :=
  [.return (some (.name line name)), .pass]

/-! ## What must not be said -/

/-- Hints that are not there say nothing. -/
theorem refusalsOfHints_of_plain {positional : List Parameter}
    (plain : ∀ parameter ∈ positional, parameter.hint = none) :
    refusalsOfHints positional = [] := by
  induction positional with
  | nil => rw [refusalsOfHints]
  | cons parameter rest inductionHypothesis =>
    rcases parameter with ⟨line, name, hint⟩
    have bare : hint = none := plain _ List.mem_cons_self
    rw [bare, refusalsOfHints, refusalsOfOption,
      inductionHypothesis fun other member => plain other (List.mem_cons_of_mem _ member)]
    rfl

/-- Hints and default values that are not there say nothing. -/
theorem refusals_of_plain {positional : List Parameter}
    (plain : ∀ parameter ∈ positional, parameter.hint = none) :
    (Parameters.ofPositional positional).refusals = [] := by
  rw [Parameters.refusals, refusalsOfHints_of_plain plain]
  rfl

/-- What is wrong with plain parameters is what is wrong with their names. -/
theorem ofParameterNames_ofPositional (line : Nat) (positional : List Parameter) :
    Restriction.ofParameterNames line (.ofPositional positional) =
      (positional.map Parameter.name).flatMap (Restriction.ofName line) := by
  simp only [Restriction.ofParameterNames, List.nil_append, Option.toList_none, List.append_nil,
    List.flatMap_map]

/-- What is wrong with the body is what is wrong with its name. -/
theorem refusalsOfBody_returnOf (line : Nat) (name : String) :
    refusalsOfBody (returnOf line name) = Restriction.ofVariable false line name := by
  simp only [returnOf, refusalsOfBody, Statement.refusals, refusalsOfOption, Expression.refusals,
    List.append_nil]

/-! ## What stands in the wrong place -/

/-- What has been seen of a name after something was seen of one. -/
theorem NameBlock.use_note {block : NameBlock} (name other : String) (f : NameUse → NameUse) :
    (block.note name f).use other =
      if other = name then f (block.use name) else block.use other := by
  simp only [use, note, List.lookup_cons]
  by_cases same : other = name
  · rw [if_pos same, same, BEq.rfl]
    rfl
  · rw [if_neg same, beq_false_of_ne same]

namespace NameWalk

variable {α β : Type} {block : NameBlock} {outer blocks after : List NameBlock}

/-- A walk that meets nothing in the wrong place goes on with what follows. -/
theorem run_bind_of_ok {walk : NameWalk α} {next : α → NameWalk β} {value : α}
    (first : walk.run blocks = .ok (value, after)) :
    (walk >>= next).run blocks = (next value).run after := by
  rw [StateT.run_bind, first]
  rfl

/-- A parameter whose name is new can be declared. -/
theorem declares_run {parameter : Parameter}
    (new : (block.use parameter.name).isParameter = false) :
    (declares parameter).run (block :: outer) =
      .ok ((), block.note parameter.name (fun use => { use with isParameter := true }) ::
        outer) := by
  have looked : current.run (block :: outer) = .ok (block, block :: outer) := rfl
  rw [declares, run_bind_of_ok looked, new]
  rfl

/-- Parameters with different names can be declared. -/
theorem forM_declares_run {parameters : List Parameter}
    (distinct : (parameters.map Parameter.name).Nodup)
    (new : ∀ parameter ∈ parameters, (block.use parameter.name).isParameter = false) :
    ∃ last, (parameters.forM declares).run (block :: outer) = .ok ((), last :: outer) := by
  induction parameters generalizing block with
  | nil => exact ⟨block, rfl⟩
  | cons parameter rest inductionHypothesis =>
    have distinctRest := List.nodup_cons.mp distinct
    show ∃ last, (declares parameter >>= fun _ => rest.forM declares).run (block :: outer) =
      .ok ((), last :: outer)
    rw [run_bind_of_ok (declares_run (new parameter List.mem_cons_self))]
    refine inductionHypothesis distinctRest.2 fun other member => ?_
    have different : other.name ≠ parameter.name := fun same =>
      distinctRest.1 (same ▸ List.mem_map_of_mem member)
    rw [NameBlock.use_note, if_neg different]
    exact new other (List.mem_cons_of_mem _ member)

/-- Plain parameters with different names can be declared. -/
theorem declaresAll_run (outer : List NameBlock) {positional : List Parameter}
    (distinct : (positional.map Parameter.name).Nodup) :
    ∃ last, (declaresAll (.ofPositional positional)).run ({ kind := .function } :: outer) =
      .ok ((), last :: outer) := by
  rw [declaresAll]
  simp only [List.nil_append, Option.toList_none, List.append_nil]
  exact forM_declares_run distinct fun parameter _ => rfl

/-- A walk that meets nothing in the wrong place comes through both of its parts. -/
theorem exists_of_run_bind {walk : NameWalk α} {next : α → NameWalk β}
    {result : β × List NameBlock} (walked : (walk >>= next).run blocks = .ok result) :
    ∃ value middle, walk.run blocks = .ok (value, middle) ∧
      (next value).run middle = .ok result := by
  rw [StateT.run_bind] at walked
  rcases Outcome.bind_eq_ok.mp walked with ⟨⟨value, middle⟩, first, second⟩
  exact ⟨value, middle, first, second⟩

/-- A parameter that can be declared has a new name. -/
theorem new_of_declares_run {parameter : Parameter} {result : Unit × List NameBlock}
    (declared : (declares parameter).run (block :: outer) = .ok result) :
    (block.use parameter.name).isParameter = false := by
  cases known : (block.use parameter.name).isParameter with
  | false => rfl
  | true =>
    have looked : current.run (block :: outer) = .ok (block, block :: outer) := rfl
    rw [declares, run_bind_of_ok looked, known] at declared
    cases declared

/-- Parameters that can be declared have new and different names. -/
theorem distinct_of_forM_declares_run {parameters : List Parameter}
    {result : Unit × List NameBlock}
    (declared : (parameters.forM declares).run (block :: outer) = .ok result) :
    (parameters.map Parameter.name).Nodup ∧
      ∀ parameter ∈ parameters, (block.use parameter.name).isParameter = false := by
  induction parameters generalizing block with
  | nil => exact ⟨List.nodup_nil, nofun⟩
  | cons parameter rest inductionHypothesis =>
    have walked : (declares parameter >>= fun _ => rest.forM declares).run (block :: outer) =
        .ok result := declared
    rcases exists_of_run_bind walked with ⟨_, _, first, -⟩
    have new := new_of_declares_run first
    rw [run_bind_of_ok (declares_run new)] at walked
    rcases inductionHypothesis walked with ⟨distinct, others⟩
    have apart : ∀ other ∈ rest, other.name ≠ parameter.name := by
      intro other member same
      have unseen := others other member
      rw [NameBlock.use_note, if_pos same] at unseen
      cases unseen
    constructor
    · refine List.nodup_cons.mpr ⟨fun listed => ?_, distinct⟩
      rcases List.mem_map.mp listed with ⟨other, member, same⟩
      exact apart other member same
    · refine List.forall_mem_cons.mpr ⟨new, fun other member => ?_⟩
      have unseen := others other member
      rwa [NameBlock.use_note, if_neg (apart other member)] at unseen

/-- Parameters without hints give nothing to walk through. -/
theorem walkHints_run {parameters : List Parameter}
    (plain : ∀ parameter ∈ parameters, parameter.hint = none) :
    (parameters.forM (Parameter.walkHint (Expression.walkNames false))).run blocks =
      .ok ((), blocks) := by
  induction parameters with
  | nil => rfl
  | cons parameter rest inductionHypothesis =>
    have first : (parameter.walkHint (Expression.walkNames false)).run blocks =
        .ok ((), blocks) := by
      rw [Parameter.walkHint, plain parameter List.mem_cons_self]
      rfl
    show (parameter.walkHint (Expression.walkNames false) >>= fun _ =>
      rest.forM (Parameter.walkHint (Expression.walkNames false))).run blocks = .ok ((), blocks)
    rw [run_bind_of_ok first]
    exact inductionHypothesis fun other member => plain other (List.mem_cons_of_mem _ member)

/-- A name may be read anywhere. -/
theorem walkNamesOfBody_returnOf_run (block : NameBlock) (outer : List NameBlock) (line : Nat)
    (name : String) :
    ∃ last, (walkNamesOfBody (returnOf line name)).run (block :: outer) =
      .ok ((), last :: outer) := by
  show ∃ last, ((Expression.name line name).walkNames false >>= fun _ => pure ()).run
    (block :: outer) = .ok ((), last :: outer)
  rw [Expression.walkNames, if_neg Bool.false_ne_true]
  split
  · exact ⟨block, rfl⟩
  · exact ⟨_, rfl⟩

/-- A walk through a new block leaves the blocks around as they are. -/
theorem within_run {kind : BlockKind} {walk : NameWalk Unit} {last : NameBlock}
    (inside : walk.run ({ kind } :: outer) = .ok ((), last :: outer)) :
    (within kind walk).run outer = .ok ((), outer) := by
  have opened : (modify (fun blocks => { kind } :: blocks) : NameWalk Unit).run outer =
      .ok ((), { kind } :: outer) := rfl
  rw [within, run_bind_of_ok opened, run_bind_of_ok inside]
  rfl

/-- A walk through a new block walks through what is inside of it. -/
theorem exists_of_within_run {kind : BlockKind} {walk : NameWalk Unit}
    {result : Unit × List NameBlock} (walked : (within kind walk).run outer = .ok result) :
    ∃ inside, walk.run ({ kind } :: outer) = .ok inside := by
  have opened : (modify (fun blocks => { kind } :: blocks) : NameWalk Unit).run outer =
      .ok ((), { kind } :: outer) := rfl
  rw [within, run_bind_of_ok opened] at walked
  rcases exists_of_run_bind walked with ⟨_, _, inside, -⟩
  exact ⟨_, inside⟩

end NameWalk

/-- Hints that are not there are where they belong. -/
theorem checkHints_of_plain {parameters : List Parameter}
    (plain : ∀ parameter ∈ parameters, parameter.hint = none) :
    (parameters.forM fun parameter => checkOption parameter.hint) = .ok () := by
  induction parameters with
  | nil => rfl
  | cons parameter rest inductionHypothesis =>
    show (checkOption parameter.hint >>= fun _ =>
      rest.forM fun parameter => checkOption parameter.hint) = .ok ()
    rw [plain parameter List.mem_cons_self, checkOption]
    exact inductionHypothesis fun other member => plain other (List.mem_cons_of_mem _ member)

/-- Plain parameters with different names and the value of a name are where they belong. -/
theorem misplacement?_of_plain {positional : List Parameter}
    (plain : ∀ parameter ∈ positional, parameter.hint = none)
    (distinct : (positional.map Parameter.name).Nodup) (line : Nat) (name : String) :
    misplacement? (.ofPositional positional) (returnOf line name) = none := by
  let parameters := Parameters.ofPositional positional
  have defaults : parameters.walkDefaults.run [] = .ok ((), []) := rfl
  have hints : parameters.walkHints.run [] = .ok ((), []) := by
    rw [Parameters.walkHints]
    simp only [Option.toList_none, List.append_nil]
    exact NameWalk.walkHints_run plain
  rcases NameWalk.declaresAll_run [] distinct with ⟨block, declared⟩
  rcases NameWalk.walkNamesOfBody_returnOf_run block [] line name with ⟨last, named⟩
  have walked : (do
      parameters.walkDefaults
      parameters.walkHints
      NameWalk.within .function do
        NameWalk.declaresAll parameters
        walkNamesOfBody (returnOf line name) : NameWalk Unit).run [] = .ok ((), []) := by
    rw [NameWalk.run_bind_of_ok defaults, NameWalk.run_bind_of_ok hints]
    exact NameWalk.within_run (by rw [NameWalk.run_bind_of_ok declared, named])
  have bare : parameters.checkHints = .ok () := by
    rw [Parameters.checkHints, Parameters.all_ofPositional]
    exact checkHints_of_plain plain
  unfold misplacement?
  dsimp only
  rw [walked, bare]
  rfl

/-- What is no error is a result. -/
theorem exists_eq_ok {ε α : Type} {x : Except ε α} (unmistaken : ∀ e, x = .error e → False) :
    ∃ a, x = .ok a := by
  cases x with
  | error e => exact (unmistaken e rfl).elim
  | ok a => exact ⟨a, rfl⟩

/-- Where nothing is in the wrong place, the parameters have different names. -/
theorem distinct_of_misplacement?_eq_none {positional : List Parameter} {program : Program}
    (placed : misplacement? (.ofPositional positional) program = none) :
    (positional.map Parameter.name).Nodup := by
  unfold misplacement? at placed
  dsimp only at placed
  split at placed
  · cases placed
  · cases placed
  · cases placed
  · cases placed
  · next _ _ _ _ unmistaken _ _ _ =>
    rcases exists_eq_ok unmistaken with ⟨result, walked⟩
    rcases NameWalk.exists_of_run_bind walked with ⟨_, first, -, walked⟩
    rcases NameWalk.exists_of_run_bind walked with ⟨_, second, -, walked⟩
    rcases NameWalk.exists_of_within_run walked with ⟨inside, walked⟩
    rcases NameWalk.exists_of_run_bind walked with ⟨_, third, declared, -⟩
    rw [NameWalk.declaresAll] at declared
    simp only [List.nil_append, Option.toList_none, List.append_nil] at declared
    exact (NameWalk.distinct_of_forM_declares_run declared).1

end Script
end PolicyStudio
