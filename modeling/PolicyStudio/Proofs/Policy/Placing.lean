import PolicyStudio.Proofs.Policy.Building

/-!
# Where conditions go

A policy is given up to three conditions, by calls in any order.  Two of them have a
place of their own in the statement, and the third one, the allowed condition, fills
every place of the command that is left.

So a condition with a place of its own is never lost: it is written there, or the
definition is refused.  The allowed condition is written unless each place of the
command is taken by another one; then the statement does not show it.
-/

namespace PolicyStudio
namespace Policy

open Sql

/-! ## Calls -/

/-- A call that goes on with a policy. -/
inductive BuilderCall where
  | on (table : Identifier)
  | governing (command : Command)
  | grant (roles : List Identifier)
  | requireAll
  | permissive
  | whenVisible (condition : Condition)
  | allow (condition : Condition)
  | checkWritten (condition : Condition)

/-- The conditions that a policy can be given. -/
inductive Supply where
  | visible
  | allowed
  | written
deriving DecidableEq

namespace BuilderCall

/-- The policy that the call returns. -/
def apply (policy : Definition) : BuilderCall → Built Definition
  | .on table => .ok (policy.on table)
  | .governing command => .ok (policy.governing command)
  | .grant roles => policy.grant roles
  | .requireAll => .ok policy.requireAll
  | .permissive => .ok policy.permissive
  | .whenVisible condition => .ok (policy.whenVisible condition)
  | .allow condition => .ok (policy.allow condition)
  | .checkWritten condition => .ok (policy.checkWritten condition)

/-- The condition that the call gives. -/
def supplies : Supply → BuilderCall → Option Condition
  | .visible, .whenVisible condition => some condition
  | .allowed, .allow condition => some condition
  | .written, .checkWritten condition => some condition
  | _, _ => none

end BuilderCall

namespace Definition

/-- The policy that calls return, one after the other. -/
def following (policy : Definition) (calls : List BuilderCall) : Built Definition :=
  calls.foldlM BuilderCall.apply policy

/-- The condition that the policy holds. -/
def supplied (policy : Definition) : Supply → Option Condition
  | .visible => policy.visible
  | .allowed => policy.allowed
  | .written => policy.written

/-- A new policy holds no condition. -/
theorem supplied_create {name : String} {policy : Definition}
    (created : create name = .ok policy) (supply : Supply) : policy.supplied supply = none := by
  rcases create_eq_ok.mp created with ⟨checked, -, rfl⟩
  cases supply <;> rfl

/-- A call replaces the condition that it gives and leaves the others. -/
theorem supplied_apply {policy next : Definition} {call : BuilderCall}
    (applied : call.apply policy = .ok next) (supply : Supply) :
    next.supplied supply = (call.supplies supply <|> policy.supplied supply) := by
  cases call with
  | grant roles =>
    rcases grant_eq_ok.mp applied with ⟨-, rfl⟩
    cases supply <;> rfl
  | _ =>
    cases applied
    cases supply <;> rfl

/-- After calls the policy holds the last condition that one of them gave. -/
theorem supplied_following {policy last : Definition} {calls : List BuilderCall}
    (built : policy.following calls = .ok last) (supply : Supply) :
    last.supplied supply =
      ((calls.filterMap (BuilderCall.supplies supply)).getLast? <|> policy.supplied supply) := by
  induction calls generalizing policy with
  | nil =>
    cases built
    rfl
  | cons call rest inductionHypothesis =>
    rcases Outcome.bind_eq_ok.mp built with ⟨next, applied, built⟩
    rw [inductionHypothesis built, supplied_apply applied supply]
    cases given : call.supplies supply with
    | none => rw [List.filterMap_cons_none given]; rfl
    | some condition =>
      rw [List.filterMap_cons_some given, List.getLast?_cons]
      cases (rest.filterMap (BuilderCall.supplies supply)).getLast? <;> rfl

/-- A policy holds the one condition that a call gave. -/
theorem supplied_of_mem {policy last : Definition} {calls : List BuilderCall} {supply : Supply}
    (built : policy.following calls = .ok last)
    (once : (calls.filterMap (BuilderCall.supplies supply)).length ≤ 1) {call : BuilderCall}
    (member : call ∈ calls) {condition : Condition}
    (given : call.supplies supply = some condition) :
    last.supplied supply = some condition := by
  have listed : condition ∈ calls.filterMap (BuilderCall.supplies supply) :=
    List.mem_filterMap.mpr ⟨call, member, given⟩
  have only : calls.filterMap (BuilderCall.supplies supply) = [condition] := by
    match calls.filterMap (BuilderCall.supplies supply), once, listed with
    | [other], _, listed => rw [List.mem_singleton.mp listed]
  rw [supplied_following built supply, only]
  rfl

/-- A policy holds no condition that no call gave. -/
theorem supplied_of_forall {policy last : Definition} {calls : List BuilderCall} {supply : Supply}
    (built : policy.following calls = .ok last)
    (never : ∀ call ∈ calls, call.supplies supply = none) :
    last.supplied supply = policy.supplied supply := by
  rw [supplied_following built supply, List.filterMap_eq_nil_iff.mpr never]
  rfl

end Definition

/-! ## Places -/

/-- The two places for conditions in a statement. -/
inductive Place where
  | filter
  | check
deriving DecidableEq

/-- The condition that has this place to itself. -/
def Place.own : Place → Supply
  | .filter => .visible
  | .check => .written

/-- The places that a command has. -/
def Command.places : Command → List Place
  | .select | .delete => [.filter]
  | .insert => [.check]
  | .update | .all => [.filter, .check]

/-- The condition in a place. -/
def Placement.at (placement : Placement) : Place → Option Condition
  | .filter => placement.filter
  | .check => placement.check

namespace Definition

variable {policy : Definition} {placement : Placement}

/-- The conditions of a complete policy are where its command has places for them. -/
theorem placed_of_resolve (complete : policy.resolve = .ok placement) :
    policy.command = some placement.command ∧
      policy.placed placement.command = .ok (placement.filter, placement.check) := by
  rcases resolve_eq_ok.mp complete with ⟨-, governed, placed, -⟩
  exact ⟨governed, placed⟩

/-- A place of the command holds its own condition, or else the allowed one.  A condition
whose place the command does not have is refused. -/
theorem at_of_resolve (complete : policy.resolve = .ok placement) (place : Place) :
    placement.at place = (if place ∈ placement.command.places then
        policy.supplied place.own <|> policy.allowed else none) ∧
      (place ∉ placement.command.places → policy.supplied place.own = none) := by
  have chosen := (placed_of_resolve complete).2
  rcases placement with ⟨table, command, filter, check⟩
  unfold placed at chosen
  cases command with
  | select | delete =>
    dsimp only at chosen
    split at chosen
    · cases chosen
    · next free =>
      cases chosen
      cases place with
      | filter => exact ⟨rfl, fun missing => absurd List.mem_cons_self missing⟩
      | check => exact ⟨rfl, fun _ => Option.not_isSome_iff_eq_none.mp free⟩
  | insert =>
    dsimp only at chosen
    split at chosen
    · cases chosen
    · next free =>
      cases chosen
      cases place with
      | filter => exact ⟨rfl, fun _ => Option.not_isSome_iff_eq_none.mp free⟩
      | check => exact ⟨rfl, fun missing => absurd List.mem_cons_self missing⟩
  | update | all =>
    cases chosen
    cases place with
    | filter => exact ⟨rfl, fun missing => absurd List.mem_cons_self missing⟩
    | check =>
      exact ⟨rfl, fun missing => absurd (List.mem_cons_of_mem _ List.mem_cons_self) missing⟩

/-- The text of a statement before its conditions. -/
def opening (policy : Definition) (placement : Placement) : String :=
  "CREATE POLICY " ++ policy.name.render ++ " ON " ++ placement.table.render ++
    "\n  AS " ++ (if policy.restrictive then "RESTRICTIVE" else "PERMISSIVE") ++
    "\n  FOR " ++ placement.command.name ++ rolesClause policy.roles

/-- A statement shows what stands in its places. -/
theorem statement_eq_ok {text : String} (written : policy.statement = .ok text) :
    ∃ placement, policy.resolve = .ok placement ∧ ∃ shown : Place → Option String,
      (∀ place, renderOptional (placement.at place) = .ok (shown place)) ∧
      text = policy.opening placement ++ clause "USING" (shown .filter) ++
        clause "WITH CHECK" (shown .check) ++ ";" := by
  rcases Outcome.bind_eq_ok.mp written with ⟨placement, complete, written⟩
  rcases Outcome.bind_eq_ok.mp written with ⟨filter, filterWritten, written⟩
  rcases Outcome.bind_eq_ok.mp written with ⟨check, checkWritten, equal⟩
  refine ⟨placement, complete, fun | .filter => filter | .check => check, fun place => ?_,
    (Outcome.eq_of_pure equal).symm⟩
  cases place with
  | filter => exact filterWritten
  | check => exact checkWritten

/-- A complete policy has a statement if what stands in its places can be shown. -/
theorem statement_of_shown {filter check : Option String} (complete : policy.resolve = .ok placement)
    (filterShown : renderOptional placement.filter = .ok filter)
    (checkShown : renderOptional placement.check = .ok check) :
    policy.statement = .ok (policy.opening placement ++ clause "USING" filter ++
      clause "WITH CHECK" check ++ ";") :=
  Outcome.bind_eq_ok.mpr ⟨placement, complete, Outcome.bind_eq_ok.mpr ⟨filter, filterShown,
    Outcome.bind_eq_ok.mpr ⟨check, checkShown, rfl⟩⟩⟩

end Definition

/-- A condition in a place is shown by its text. -/
theorem exists_of_renderOptional {condition : Condition} {shown : Option String}
    (written : renderOptional (some condition) = .ok shown) :
    ∃ inner, rendered condition.write = .ok inner ∧ shown = some inner := by
  rcases Outcome.bind_eq_ok.mp written with ⟨inner, innerWritten, equal⟩
  exact ⟨inner, innerWritten, (Outcome.eq_of_pure equal).symm⟩

theorem renderOptional_of_rendered {condition : Condition} {inner : String}
    (written : rendered condition.write = .ok inner) :
    renderOptional (some condition) = .ok (some inner) :=
  Outcome.bind_eq_ok.mpr ⟨inner, written, rfl⟩

/-- Where the conditions of a policy go that is given each of them once at most.  One with
a place of its own is written there.  The allowed condition is written in each place of
the command for which no other condition was given. -/
theorem supplied_conditions_are_placed {name : String} {start policy : Definition}
    {calls : List BuilderCall} {text : String} (created : Definition.create name = .ok start)
    (built : start.following calls = .ok policy)
    (once : ∀ supply, (calls.filterMap (BuilderCall.supplies supply)).length ≤ 1)
    (written : policy.statement = .ok text) :
    ∃ placement, policy.resolve = .ok placement ∧ ∃ shown : Place → Option String,
      text = policy.opening placement ++ clause "USING" (shown .filter) ++
        clause "WITH CHECK" (shown .check) ++ ";" ∧
      ∀ call ∈ calls, ∀ supply condition, call.supplies supply = some condition →
        (∀ place, supply = place.own →
          ∃ inner, rendered condition.write = .ok inner ∧ shown place = some inner) ∧
        (supply = .allowed → ∀ place ∈ placement.command.places,
          (∀ other ∈ calls, other.supplies place.own = none) →
          ∃ inner, rendered condition.write = .ok inner ∧ shown place = some inner) := by
  rcases Definition.statement_eq_ok written with ⟨placement, complete, shown, each, spelled⟩
  refine ⟨placement, complete, shown, spelled, fun call member supply condition given => ?_⟩
  have held := Definition.supplied_of_mem built (once supply) member given
  constructor
  · rintro place rfl
    have there : placement.at place = some condition := by
      rcases Definition.at_of_resolve complete place with ⟨filled, refused⟩
      by_cases has : place ∈ placement.command.places
      · rw [filled, if_pos has, held]
        rfl
      · cases held.symm.trans (refused has)
    exact exists_of_renderOptional (there ▸ each place)
  · rintro rfl place has free
    have empty : start.supplied place.own = none := Definition.supplied_create created place.own
    have there : placement.at place = some condition := by
      rw [(Definition.at_of_resolve complete place).1, if_pos has,
        Definition.supplied_of_forall built free, empty]
      exact held
    exact exists_of_renderOptional (there ▸ each place)

/-! ## Two conditions -/

/-- A condition on a column. -/
def firstCondition : Condition := Column.isNull ⟨⟨"a", rfl, rfl⟩⟩

/-- A condition on another column. -/
def secondCondition : Condition := Column.isNull ⟨⟨"b", rfl, rfl⟩⟩

/-- A policy for a command is given one condition of its own place and an allowed one. -/
def twoConditions (command : Command) : List BuilderCall :=
  [.on ⟨"t", rfl, rfl⟩, .governing command, .whenVisible firstCondition, .allow secondCondition]

/-- The policy after these calls. -/
def twofoldPolicy (command : Command) : Definition where
  name := ⟨"p", rfl⟩
  table := some ⟨"t", rfl, rfl⟩
  command := some command
  visible := some firstCondition
  allowed := some secondCondition

/-- Neither kind of condition is given twice. -/
theorem twoConditions_once (command : Command) (supply : Supply) :
    ((twoConditions command).filterMap (BuilderCall.supplies supply)).length ≤ 1 := by
  cases supply with
  | written => exact Nat.zero_le 1
  | _ => exact Nat.le_refl 1

theorem twoConditions_built (command : Command) :
    Definition.following { name := ⟨"p", rfl⟩ } (twoConditions command) =
      .ok (twofoldPolicy command) :=
  rfl

/-- A test for no value is written out. -/
theorem Column.write_isNull (column : Column) :
    column.isNull.write = .ok (column.render ++ " IS NULL") := by
  have shallow : column.isNull.depth ≤ depthLimit := by
    rw [Column.isNull, Condition.depth]
    decide
  rw [Condition.write, withinDepth, if_neg (Nat.not_lt.mpr shallow), Column.isNull,
    Condition.render]
  rfl

theorem firstCondition_rendered : rendered firstCondition.write = .ok "a IS NULL" :=
  Outcome.mapError_eq_ok.mpr (Column.write_isNull _)

theorem secondCondition_rendered : rendered secondCondition.write = .ok "b IS NULL" :=
  Outcome.mapError_eq_ok.mpr (Column.write_isNull _)

/-- An update has places for both. -/
theorem both_conditions_of_update :
    ∃ placement, (twofoldPolicy .update).resolve = .ok placement ∧
      ∃ shown : Place → Option String,
        "CREATE POLICY \"p\" ON t\n  AS PERMISSIVE\n  FOR UPDATE\n  USING (a IS NULL)\n" ++
            "  WITH CHECK (b IS NULL);" =
          (twofoldPolicy .update).opening placement ++ clause "USING" (shown .filter) ++
            clause "WITH CHECK" (shown .check) ++ ";" ∧
        shown .filter = some "a IS NULL" ∧ shown .check = some "b IS NULL" := by
  have written : (twofoldPolicy .update).statement = .ok ("CREATE POLICY \"p\" ON t\n" ++
    "  AS PERMISSIVE\n  FOR UPDATE\n  USING (a IS NULL)\n  WITH CHECK (b IS NULL);") :=
    Outcome.bind_eq_ok.mpr ⟨⟨_, .update, some firstCondition, some secondCondition⟩, rfl,
      Outcome.bind_eq_ok.mpr ⟨_, renderOptional_of_rendered firstCondition_rendered,
        Outcome.bind_eq_ok.mpr ⟨_, renderOptional_of_rendered secondCondition_rendered, rfl⟩⟩⟩
  have created : Definition.create "p" = .ok { name := ⟨"p", rfl⟩ } := rfl
  rcases supplied_conditions_are_placed created (twoConditions_built .update)
    (twoConditions_once .update) written with ⟨placement, complete, shown, spelled, placed⟩
  refine ⟨placement, complete, shown, spelled, ?_, ?_⟩
  · have first : BuilderCall.whenVisible firstCondition ∈ twoConditions .update := by
      simp only [twoConditions, List.mem_cons, true_or, or_true]
    rcases (placed _ first .visible _ rfl).1 .filter rfl with ⟨inner, worded, there⟩
    cases firstCondition_rendered.symm.trans worded
    exact there
  · have second : BuilderCall.allow secondCondition ∈ twoConditions .update := by
      simp only [twoConditions, List.mem_cons, true_or, or_true]
    have has : Place.check ∈ placement.command.places := by
      rw [← Option.some.inj (Definition.placed_of_resolve complete).1]
      decide
    have free : ∀ other ∈ twoConditions .update, other.supplies Place.check.own = none := by
      simp only [twoConditions, List.forall_mem_cons]
      exact ⟨rfl, rfl, rfl, rfl, List.forall_mem_nil _⟩
    rcases (placed _ second .allowed _ rfl).2 rfl .check has free with ⟨inner, worded, there⟩
    cases secondCondition_rendered.symm.trans worded
    exact there

/-- A selection has one place only, and its statement does not show the second condition. -/
theorem allowed_condition_is_lost :
    (∀ supply, ((twoConditions .select).filterMap (BuilderCall.supplies supply)).length ≤ 1) ∧
    Definition.following { name := ⟨"p", rfl⟩ } (twoConditions .select) =
      .ok (twofoldPolicy .select) ∧
    (twofoldPolicy .select).statement =
      .ok "CREATE POLICY \"p\" ON t\n  AS PERMISSIVE\n  FOR SELECT\n  USING (a IS NULL);" ∧
    rendered secondCondition.write = .ok "b IS NULL" :=
  ⟨twoConditions_once .select, twoConditions_built .select,
    Outcome.bind_eq_ok.mpr ⟨⟨_, .select, some firstCondition, none⟩, rfl,
      Outcome.bind_eq_ok.mpr ⟨_, renderOptional_of_rendered firstCondition_rendered,
        Outcome.bind_eq_ok.mpr ⟨none, rfl, rfl⟩⟩⟩,
    secondCondition_rendered⟩

end Policy
end PolicyStudio
