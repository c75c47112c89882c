import PolicyStudio.Proofs.Policy.Commands

/-!
# Calls that count

A call changes one thing in a policy and leaves all others, so that of several calls
that say something about the same thing only the last one counts.  `Definition.told`
is a policy put together from these last calls, and by induction every sequence of calls
arrives there.  Two sequences that end alike therefore build the same policy, in whatever
order and however often the calls were made.

From the last calls it can also be told whether there is a statement: a table and a
command are named, some condition is given, and none is given that has no place.
-/

namespace PolicyStudio
namespace Policy

open Sql

/-! ## What calls say -/

namespace BuilderCall

/-- The table that the call names. -/
def table? : BuilderCall → Option Identifier
  | .on table => some table
  | _ => none

/-- The command that the call names. -/
def command? : BuilderCall → Option Command
  | .governing command => some command
  | _ => none

/-- The roles that the call lists. -/
def roles? : BuilderCall → Option (List Identifier)
  | .grant roles => some roles
  | _ => none

/-- Whether the policy is to pass together with all others, if the call says so. -/
def restrictive? : BuilderCall → Option Bool
  | .requireAll => some true
  | .permissive => some false
  | _ => none

end BuilderCall

/-- What the last call says among those that say anything of the kind. -/
def lastSaid {α : Type} (said : BuilderCall → Option α) (calls : List BuilderCall) : Option α :=
  (calls.filterMap said).getLast?

theorem lastSaid_cons {α : Type} (said : BuilderCall → Option α) (call : BuilderCall)
    (rest : List BuilderCall) :
    lastSaid said (call :: rest) = (lastSaid said rest).or (said call) := by
  unfold lastSaid
  cases given : said call with
  | none => rw [List.filterMap_cons_none given, Option.or_none]
  | some value =>
    rw [List.filterMap_cons_some given, List.getLast?_cons]
    cases (rest.filterMap said).getLast? <;> rfl

/-- A condition counts exactly if some call gives one. -/
theorem isSome_lastSaid_iff {calls : List BuilderCall} {supply : Supply} :
    (lastSaid (BuilderCall.supplies supply) calls).isSome = true ↔ Called calls supply := by
  rw [lastSaid, List.getLast?_isSome, Ne, List.filterMap_eq_nil_iff, Called]
  simp only [not_forall, exists_prop, Option.isSome_iff_ne_none, ne_eq]

/-- The calls agree on what the last one of each kind says. -/
structure EndAlike (calls others : List BuilderCall) : Prop where
  table : lastSaid BuilderCall.table? calls = lastSaid BuilderCall.table? others
  command : lastSaid BuilderCall.command? calls = lastSaid BuilderCall.command? others
  supplied : ∀ supply, lastSaid (BuilderCall.supplies supply) calls =
    lastSaid (BuilderCall.supplies supply) others
  roles : lastSaid BuilderCall.roles? calls = lastSaid BuilderCall.roles? others
  restrictive : lastSaid BuilderCall.restrictive? calls = lastSaid BuilderCall.restrictive? others

/-! ## The policy of the last calls -/

namespace Definition

/-- The policy with everything replaced that the calls say something about. -/
def told (policy : Definition) (calls : List BuilderCall) : Definition where
  name := policy.name
  table := (lastSaid BuilderCall.table? calls).or policy.table
  command := (lastSaid BuilderCall.command? calls).or policy.command
  visible := (lastSaid (BuilderCall.supplies .visible) calls).or policy.visible
  allowed := (lastSaid (BuilderCall.supplies .allowed) calls).or policy.allowed
  written := (lastSaid (BuilderCall.supplies .written) calls).or policy.written
  roles := (lastSaid BuilderCall.roles? calls).getD policy.roles
  restrictive := (lastSaid BuilderCall.restrictive? calls).getD policy.restrictive

/-- One call is followed by the others. -/
theorem told_cons {policy next : Definition} {call : BuilderCall}
    (applied : call.apply policy = .ok next) (rest : List BuilderCall) :
    policy.told (call :: rest) = next.told rest := by
  cases call with
  | grant roles =>
    rw [BuilderCall.apply, grant] at applied
    split at applied
    · cases applied
    · cases applied
      simp [told, lastSaid_cons, BuilderCall.table?, BuilderCall.command?, BuilderCall.supplies,
        BuilderCall.roles?, BuilderCall.restrictive?]
  | _ =>
    cases applied
    simp [told, lastSaid_cons, BuilderCall.table?, BuilderCall.command?, BuilderCall.supplies,
      BuilderCall.roles?, BuilderCall.restrictive?, on, governing, requireAll, permissive,
      whenVisible, allow, checkWritten]

/-- Calls arrive at the policy that the last ones tell. -/
theorem eq_told_of_following {policy last : Definition} {calls : List BuilderCall}
    (built : policy.following calls = .ok last) : last = policy.told calls := by
  induction calls generalizing policy with
  | nil =>
    cases built
    rfl
  | cons call rest inductionHypothesis =>
    rcases Outcome.bind_eq_ok.mp built with ⟨next, applied, built⟩
    rw [inductionHypothesis built, told_cons applied]

/-- Calls that end alike tell the same policy. -/
theorem told_congr {calls others : List BuilderCall} (alike : EndAlike calls others)
    (policy : Definition) : policy.told calls = policy.told others := by
  simp only [told, alike.table, alike.command, alike.supplied, alike.roles, alike.restrictive]

/-! ## When there is a statement -/

/-- No condition is given that the command has no place for. -/
def HasPlaces (policy : Definition) (command : Command) : Prop :=
  (command = .select ∨ command = .delete → policy.written = none) ∧
    (command = .insert → policy.visible = none)

/-- The conditions have their places, or one is refused. -/
theorem exists_placed_iff {policy : Definition} {command : Command} :
    (∃ places, policy.placed command = .ok places) ↔ policy.HasPlaces command := by
  unfold placed HasPlaces
  cases command with
  | select | delete => cases policy.written <;> simp
  | insert => cases policy.visible <;> simp
  | update | all => simp

/-- Something holds of what is supplied by one of the three calls. -/
theorem exists_supply (policy : Definition) (told : Option Condition → Prop) :
    (∃ supply, told (policy.supplied supply)) ↔
      told policy.visible ∨ told policy.allowed ∨ told policy.written := by
  constructor
  · rintro ⟨supply, found⟩
    cases supply with
    | visible => exact Or.inl found
    | allowed => exact Or.inr (Or.inl found)
    | written => exact Or.inr (Or.inr found)
  · rintro (found | found | found)
    · exact ⟨.visible, found⟩
    · exact ⟨.allowed, found⟩
    · exact ⟨.written, found⟩

/-- Where all conditions have their places, one of them is placed if any is given. -/
theorem isSome_placed_iff {policy : Definition} {command : Command}
    {places : Option Condition × Option Condition} (placed : policy.placed command = .ok places) :
    (places.1.isSome = true ∨ places.2.isSome = true) ↔
      ∃ supply, (policy.supplied supply).isSome = true := by
  have free := exists_placed_iff.mp ⟨places, placed⟩
  rw [policy.exists_supply fun given => given.isSome = true]
  unfold Definition.placed at placed
  unfold HasPlaces at free
  cases command with
  | select | delete =>
    have unchecked : policy.written = none := free.1 (by decide)
    simp only [unchecked, Option.isSome_none, Bool.false_eq_true, if_false] at placed
    rw [← Except.ok.inj placed, unchecked]
    simp
  | insert =>
    have unfiltered : policy.visible = none := free.2 rfl
    simp only [unfiltered, Option.isSome_none, Bool.false_eq_true, if_false] at placed
    rw [← Except.ok.inj placed, unfiltered]
    simp [or_comm]
  | update | all =>
    rw [← Except.ok.inj placed]
    cases policy.visible <;> cases policy.allowed <;> cases policy.written <;> simp

/-- A policy is complete exactly if it has a table, a command and a condition, and none of its
conditions lacks a place. -/
theorem exists_resolve_iff {policy : Definition} :
    (∃ placement, policy.resolve = .ok placement) ↔
      ∃ table command, policy.table = some table ∧ policy.command = some command ∧
        policy.HasPlaces command ∧ ∃ supply, (policy.supplied supply).isSome = true := by
  constructor
  · rintro ⟨placement, complete⟩
    rcases placed_of_resolve complete with ⟨governed, placed⟩
    exact ⟨placement.table, placement.command, table_of_resolve complete, governed,
      exists_placed_iff.mp ⟨_, placed⟩, (isSome_placed_iff placed).mp (isSome_of_resolve complete)⟩
  · rintro ⟨table, command, located, governed, free, given⟩
    rcases exists_placed_iff.mpr free with ⟨places, placed⟩
    exact ⟨⟨table, command, places.1, places.2⟩,
      resolve_eq_ok.mpr ⟨located, governed, placed, (isSome_placed_iff placed).mpr given⟩⟩

/-- A condition that a policy holds is one of its three. -/
theorem exists_supplied_iff {policy : Definition} {condition : Condition} :
    policy.Holds condition ↔ ∃ supply, policy.supplied supply = some condition :=
  (policy.exists_supply fun given => given = some condition).symm

/-- The condition has a text, and its columns can be listed if there are to be indexes. -/
def CanBeShown (includeIndexes : Bool) (condition : Condition) : Prop :=
  (∃ text, condition.write = .ok text) ∧
    (includeIndexes = true → ∃ columns, condition.listColumns = .ok columns)

theorem exists_renderOptional {condition : Option Condition}
    (written : ∀ given ∈ condition, ∃ text, given.write = .ok text) :
    ∃ text, renderOptional condition = .ok text := by
  cases condition with
  | none => exact ⟨none, rfl⟩
  | some condition =>
    rcases written condition rfl with ⟨text, conditionWritten⟩
    exact ⟨some text, renderOptional_of_rendered (Outcome.mapError_eq_ok.mpr conditionWritten)⟩

/-- The columns of a complete policy can be listed if those of its conditions can. -/
theorem exists_indexedColumns {policy : Definition} {placement : Placement}
    (complete : policy.resolve = .ok placement)
    (listed : ∀ condition, policy.Holds condition → ∃ columns, condition.listColumns = .ok columns) :
    ∃ columns, policy.indexedColumns = .ok columns := by
  have each : ∀ condition ∈ placement.filter.toList ++ placement.check.toList,
      ∃ columns, rendered condition.listColumns = .ok columns := by
    intro condition member
    have put : placement.filter = some condition ∨ placement.check = some condition := by
      rcases List.mem_append.mp member with member | member
      · exact Or.inl (Option.mem_toList.mp member)
      · exact Or.inr (Option.mem_toList.mp member)
    rcases listed condition (holds_of_resolve complete put) with ⟨columns, found⟩
    exact ⟨columns, Outcome.mapError_eq_ok.mpr found⟩
  rcases Outcome.exists_mapM_eq_ok_iff.mpr each with ⟨columns, found⟩
  exact ⟨_, indexedColumns_eq_ok.mpr ⟨placement, columns, complete, found, rfl⟩⟩

/-- Where all conditions can be shown there is a statement exactly if the policy is complete. -/
theorem exists_statement_iff {policy : Definition} (includeIndexes : Bool)
    (shown : ∀ condition, policy.Holds condition → CanBeShown includeIndexes condition) :
    (∃ text, (if includeIndexes then policy.statementWithIndexes else policy.statement) = .ok text) ↔
      ∃ placement, policy.resolve = .ok placement := by
  constructor
  · rintro ⟨text, written⟩
    cases includeIndexes with
    | false =>
      rcases statement_eq_ok written with ⟨placement, complete, -⟩
      exact ⟨placement, complete⟩
    | true =>
      rcases statementWithIndexes_eq_ok.mp written with ⟨placement, -, -, complete, -⟩
      exact ⟨placement, complete⟩
  · rintro ⟨placement, complete⟩
    have filtered : ∃ text, renderOptional placement.filter = .ok text :=
      exists_renderOptional fun condition put => (shown condition (holds_of_resolve complete (Or.inl put))).1
    have checked : ∃ text, renderOptional placement.check = .ok text :=
      exists_renderOptional fun condition put => (shown condition (holds_of_resolve complete (Or.inr put))).1
    rcases filtered with ⟨filter, filterWritten⟩
    rcases checked with ⟨check, checkWritten⟩
    have statement : ∃ text, policy.statement = .ok text :=
      ⟨_, Definition.statement_of_shown complete filterWritten checkWritten⟩
    cases includeIndexes with
    | false => exact statement
    | true =>
      rcases statement with ⟨text, written⟩
      rcases exists_indexedColumns complete fun condition held => (shown condition held).2 rfl with
        ⟨columns, indexed⟩
      exact ⟨_, statementWithIndexes_eq_ok.mpr
        ⟨placement, columns, text, complete, indexed, written, rfl⟩⟩

end Definition

/-! ## Calls from the beginning -/

/-- The calls name a table and a command and give a condition, and none that the command has no
place for. -/
def Suffice (calls : List BuilderCall) : Prop :=
  ∃ table command, lastSaid BuilderCall.table? calls = some table ∧
    lastSaid BuilderCall.command? calls = some command ∧ (∃ supply, Called calls supply) ∧
    (command = .select ∨ command = .delete → ¬Called calls .written) ∧
    (command = .insert → ¬Called calls .visible)

theorem not_called_iff {calls : List BuilderCall} {supply : Supply} :
    ¬Called calls supply ↔ lastSaid (BuilderCall.supplies supply) calls = none := by
  rw [← isSome_lastSaid_iff, Option.not_isSome_iff_eq_none]

namespace Definition

/-- A new policy knows only what calls say. -/
theorem told_create {name : String} {start : Definition} (created : create name = .ok start)
    (calls : List BuilderCall) :
    (start.told calls).table = lastSaid BuilderCall.table? calls ∧
      (start.told calls).command = lastSaid BuilderCall.command? calls ∧
      ∀ supply, (start.told calls).supplied supply = lastSaid (BuilderCall.supplies supply) calls := by
  rcases create_eq_ok.mp created with ⟨checked, -, rfl⟩
  refine ⟨Option.or_none, Option.or_none, fun supply => ?_⟩
  cases supply <;> exact Option.or_none

/-- A policy is complete exactly if the calls suffice that built it. -/
theorem exists_resolve_iff_suffice {name : String} {start policy : Definition}
    {calls : List BuilderCall} (created : create name = .ok start)
    (built : start.following calls = .ok policy) :
    (∃ placement, policy.resolve = .ok placement) ↔ Suffice calls := by
  rcases told_create created calls with ⟨table, command, supplied⟩
  rw [← eq_told_of_following built] at table command supplied
  have written : policy.written = lastSaid (BuilderCall.supplies .written) calls := supplied .written
  have visible : policy.visible = lastSaid (BuilderCall.supplies .visible) calls := supplied .visible
  rw [exists_resolve_iff, Suffice]
  simp only [HasPlaces, table, command, supplied, written, visible, isSome_lastSaid_iff, not_called_iff]
  refine exists_congr fun table => exists_congr fun command => and_congr_right fun _ =>
    and_congr_right fun _ => and_comm

end Definition

/-- Of calls of a kind only the last one counts.  Two sequences of calls on a new policy that end
alike come to the same statement, the same statement with indexes and the same columns, or to the
same refusals.  And where the given conditions can be shown, there is a statement exactly if the
calls suffice. -/
theorem last_calls_decide {name : String} {start first second : Definition}
    {calls others : List BuilderCall} (created : Definition.create name = .ok start)
    (built : start.following calls = .ok first) (builtOther : start.following others = .ok second)
    (alike : EndAlike calls others) :
    first.statement = second.statement ∧ first.statementWithIndexes = second.statementWithIndexes ∧
      first.indexedColumns = second.indexedColumns ∧
      ∀ includeIndexes, (∀ supply condition,
          lastSaid (BuilderCall.supplies supply) calls = some condition →
          Definition.CanBeShown includeIndexes condition) →
        ((∃ text, (if includeIndexes then first.statementWithIndexes else first.statement) =
          .ok text) ↔ Suffice calls) := by
  have same : first = second := by
    rw [Definition.eq_told_of_following built, Definition.eq_told_of_following builtOther,
      Definition.told_congr alike]
  refine ⟨same ▸ rfl, same ▸ rfl, same ▸ rfl, fun includeIndexes shown => ?_⟩
  rw [← Definition.exists_resolve_iff_suffice created built]
  refine Definition.exists_statement_iff includeIndexes fun condition held => ?_
  rcases Definition.exists_supplied_iff.mp held with ⟨supply, given⟩
  rw [Definition.eq_told_of_following built, (Definition.told_create created calls).2.2] at given
  exact shown supply condition given

/-! ## Two ways to one policy -/

/-- Every call is made once. -/
def straightCalls : List BuilderCall :=
  [.on ⟨"t", shows_t, complete_t⟩, .governing .update, .grant [⟨"r", rfl, rfl⟩], .permissive,
    .allow firstCondition]

/-- Most calls are made twice, and in another order. -/
def windingCalls : List BuilderCall :=
  [.requireAll, .allow secondCondition, .governing .select, .grant [⟨"t", shows_t, complete_t⟩],
    .allow firstCondition, .on ⟨"u", rfl, rfl⟩, .permissive, .on ⟨"t", shows_t, complete_t⟩,
    .grant [⟨"r", rfl, rfl⟩], .governing .update]

theorem straightCalls_windingCalls : EndAlike straightCalls windingCalls where
  table := rfl
  command := rfl
  supplied supply := by cases supply <;> rfl
  roles := rfl
  restrictive := rfl

theorem firstCondition_canBeShown (includeIndexes : Bool) :
    Definition.CanBeShown includeIndexes firstCondition := by
  have shallow : firstCondition.columnDepth ≤ depthLimit := by decide
  refine ⟨⟨_, Column.write_isNull _⟩, fun _ => ⟨firstCondition.columns, ?_⟩⟩
  rw [Condition.listColumns, withinDepth_of_le shallow]

/-- Both ways come to the same statement, and there is one. -/
theorem straight_and_winding_calls_decide : ∃ start first second : Definition,
    Definition.create "p" = .ok start ∧ start.following straightCalls = .ok first ∧
      start.following windingCalls = .ok second ∧ straightCalls ≠ windingCalls ∧
      first.statement = second.statement ∧
      first.statementWithIndexes = second.statementWithIndexes ∧
      first.indexedColumns = second.indexedColumns ∧
      ∃ text, first.statementWithIndexes = .ok text := by
  have created : Definition.create "p" = .ok { name := ⟨"p", rfl⟩ } := rfl
  have built : Definition.following { name := ⟨"p", rfl⟩ } straightCalls = .ok _ := rfl
  have builtOther : Definition.following { name := ⟨"p", rfl⟩ } windingCalls = .ok _ := rfl
  rcases last_calls_decide created built builtOther straightCalls_windingCalls with
    ⟨statement, withIndexes, indexed, sufficient⟩
  have shown : ∀ supply condition,
      lastSaid (BuilderCall.supplies supply) straightCalls = some condition →
      Definition.CanBeShown true condition := by
    intro supply condition given
    cases supply with
    | allowed => exact Option.some.inj given ▸ firstCondition_canBeShown true
    | visible | written => cases given
  have suffice : Suffice straightCalls := by
    refine ⟨_, .update, rfl, rfl, ⟨.allowed, .allow firstCondition, ?_, rfl⟩, ?_, ?_⟩
    · simp [straightCalls]
    · rintro (impossible | impossible) <;> cases impossible
    · intro impossible
      cases impossible
  have different : straightCalls ≠ windingCalls := by
    intro same
    have counted : straightCalls.length = windingCalls.length := congrArg List.length same
    exact absurd counted (by decide)
  exact ⟨_, _, _, created, built, builtOther, different, statement, withIndexes, indexed,
    (sufficient true shown).mpr suffice⟩

end Policy
end PolicyStudio
