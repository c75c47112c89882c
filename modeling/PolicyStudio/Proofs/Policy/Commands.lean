import PolicyStudio.Proofs.Policy.Clauses

/-!
# Which clauses a command gets

Every policy comes from its name by calls, also the ready-made ones.  The calls decide
which conditions the policy holds, and the command decides where they stand: reading and
deleting have a filter only, inserting has a check only, and the other commands have a
check exactly if one of the calls gives a condition to it.

The same rule applies to the filter of an update: it is there exactly if a call gives a
condition to it.  A policy for updates that is only given a check has no filter.
-/

namespace PolicyStudio
namespace Policy

/-- Some call gives a condition of the kind. -/
def Called (calls : List BuilderCall) (supply : Supply) : Prop :=
  ∃ call ∈ calls, (call.supplies supply).isSome = true

/-! ## Where policies come from -/

namespace Definition

/-- The calls make the policy out of a new one. -/
def BuiltBy (policy : Definition) (calls : List BuilderCall) : Prop :=
  ∃ name start, create name = .ok start ∧ start.following calls = .ok policy

theorem BuiltBy.create {name : String} {policy : Definition} (accepted : create name = .ok policy) :
    policy.BuiltBy [] :=
  ⟨name, policy, accepted, rfl⟩

/-- One more call makes the next policy. -/
theorem BuiltBy.apply {policy next : Definition} {calls : List BuilderCall}
    (built : policy.BuiltBy calls) (call : BuilderCall) (applied : call.apply policy = .ok next) :
    next.BuiltBy (calls ++ [call]) := by
  rcases built with ⟨name, start, created, followed⟩
  refine ⟨name, start, created, ?_⟩
  rw [following, List.foldlM_append]
  refine Outcome.bind_eq_ok.mpr ⟨policy, followed, ?_⟩
  exact Outcome.bind_eq_ok.mpr ⟨next, applied, rfl⟩

/-- A policy that comes from calls does so after one more, too. -/
theorem exists_builtBy_apply {policy next : Definition} (before : ∃ calls, policy.BuiltBy calls)
    (call : BuilderCall) (applied : call.apply policy = .ok next) : ∃ calls, next.BuiltBy calls := by
  rcases before with ⟨calls, built⟩
  exact ⟨calls ++ [call], built.apply call applied⟩

theorem BuiltBy.governed {name table : String} {command : Command} {policy : Definition}
    (accepted : Templates.governed name table command = .ok policy) :
    ∃ calls, policy.BuiltBy calls := by
  rcases Templates.governed_eq_ok.mp accepted with ⟨label, checked, labelled, -, rfl⟩
  have created := create_eq_ok.mpr ⟨label, labelled, rfl⟩
  exact ⟨_, ((BuiltBy.create created).apply (.on checked) rfl).apply (.governing command) rfl⟩

/-- Every policy that programs can build comes from its name by calls. -/
theorem Obtained.exists_builtBy {policy : Definition} (obtained : policy.Obtained) :
    ∃ calls, policy.BuiltBy calls := by
  induction obtained with
  | create accepted => exact ⟨[], .create accepted⟩
  | on _ table inductionHypothesis =>
    exact exists_builtBy_apply inductionHypothesis (.on table) rfl
  | governing _ command inductionHypothesis =>
    exact exists_builtBy_apply inductionHypothesis (.governing command) rfl
  | grant _ accepted inductionHypothesis =>
    exact exists_builtBy_apply inductionHypothesis (.grant _) accepted
  | requireAll _ inductionHypothesis =>
    exact exists_builtBy_apply inductionHypothesis .requireAll rfl
  | permissive _ inductionHypothesis =>
    exact exists_builtBy_apply inductionHypothesis .permissive rfl
  | whenVisible _ _ inductionHypothesis =>
    exact exists_builtBy_apply inductionHypothesis (.whenVisible _) rfl
  | allow _ _ inductionHypothesis =>
    exact exists_builtBy_apply inductionHypothesis (.allow _) rfl
  | checkWritten _ _ inductionHypothesis =>
    exact exists_builtBy_apply inductionHypothesis (.checkWritten _) rfl
  | userOwned accepted member =>
    rcases Templates.exists_owned accepted member with ⟨command, owned⟩
    rcases Templates.owned_eq_ok.mp owned with ⟨start, column, given, governed, -, -, rfl⟩
    exact exists_builtBy_apply (BuiltBy.governed governed) (.allow given) rfl
  | tenantIsolation accepted member =>
    rcases Templates.tenantIsolation_eq_ok.mp accepted with
      ⟨start, column, given, governed, -, -, rfl⟩
    rw [List.mem_singleton.mp member]
    have required := exists_builtBy_apply (BuiltBy.governed governed) .requireAll rfl
    exact exists_builtBy_apply required (.allow given) rfl
  | publicAccess accepted =>
    rcases Templates.publicAccess_eq_ok.mp accepted with ⟨start, given, governed, -, rfl⟩
    exact exists_builtBy_apply (BuiltBy.governed governed) (.whenVisible given) rfl
  | roleAccess accepted member =>
    rcases Templates.exists_granted accepted member with ⟨command, granted⟩
    rcases Templates.granted_eq_ok.mp granted with ⟨start, given, governed, -, rfl⟩
    exact exists_builtBy_apply (BuiltBy.governed governed) (.allow given) rfl

/-- The policy holds a condition exactly if a call gave one. -/
theorem isSome_supplied {policy : Definition} {calls : List BuilderCall}
    (built : policy.BuiltBy calls) (supply : Supply) :
    (policy.supplied supply).isSome = true ↔ Called calls supply := by
  rcases built with ⟨name, start, created, followed⟩
  have held : policy.supplied supply = (calls.filterMap (BuilderCall.supplies supply)).getLast? := by
    rw [supplied_following followed, supplied_create created]
    simp
  rw [held, List.getLast?_isSome, Ne, List.filterMap_eq_nil_iff, Called]
  simp only [not_forall, exists_prop, Option.isSome_iff_ne_none, ne_eq]

/-! ## Clauses of commands -/

/-- A place of the statement is filled exactly if the command has it and a call gave a
condition to it. -/
theorem isSome_at {policy : Definition} {placement : Placement} {calls : List BuilderCall}
    (built : policy.BuiltBy calls) (complete : policy.resolve = .ok placement) (place : Place) :
    (placement.at place).isSome = true ↔ place ∈ placement.command.places ∧
      (Called calls place.own ∨ Called calls .allowed) := by
  rw [(at_of_resolve complete place).1, ← isSome_supplied built, ← isSome_supplied built]
  by_cases has : place ∈ placement.command.places
  · rw [if_pos has]
    simp [has, supplied]
  · rw [if_neg has]
    simp [has]

/-- A complete policy has a condition. -/
theorem isSome_of_resolve {policy : Definition} {placement : Placement}
    (complete : policy.resolve = .ok placement) :
    placement.filter.isSome = true ∨ placement.check.isSome = true :=
  (resolve_eq_ok.mp complete).2.2.2

end Definition

theorem isSome_of_renderOptional {condition : Option Condition} {text : Option String}
    (written : renderOptional condition = .ok text) : text.isSome = condition.isSome := by
  cases condition with
  | none =>
    rw [← Except.ok.inj written]
    rfl
  | some condition =>
    rcases exists_of_renderOptional written with ⟨inner, -, rfl⟩
    rfl

/-- The conditions of the calls stand where the command has them. -/
def Clauses.Follow (clauses : Clauses) (calls : List BuilderCall) : Prop :=
  match clauses.command with
  | .select | .delete => clauses.filter.isSome = true ∧ clauses.check = none
  | .insert => clauses.filter = none ∧ clauses.check.isSome = true
  | .update | .all =>
    (clauses.filter.isSome = true ↔ Called calls .visible ∨ Called calls .allowed) ∧
      (clauses.check.isSome = true ↔ Called calls .allowed ∨ Called calls .written)

/-- What the clauses of a statement show of the places of its policy. -/
theorem Clauses.follow_of_resolve {policy : Definition} {placement : Placement}
    {calls : List BuilderCall} {filter check : Option String} (built : policy.BuiltBy calls)
    (complete : policy.resolve = .ok placement) (filtered : renderOptional placement.filter = .ok filter)
    (checked : renderOptional placement.check = .ok check) :
    (policy.clauses placement filter check).Follow calls := by
  have inFilter := Definition.isSome_at built complete .filter
  have inCheck := Definition.isSome_at built complete .check
  have filled := Definition.isSome_of_resolve complete
  simp only [Placement.at] at inFilter inCheck
  rw [← isSome_of_renderOptional filtered] at inFilter filled
  rw [← isSome_of_renderOptional checked] at inCheck filled
  rw [Clauses.Follow, Definition.clauses]
  cases command : placement.command with
  | select | delete =>
    have unchecked : check = none := by simpa [command, Command.places] using inCheck
    rw [unchecked] at filled
    exact ⟨filled.resolve_right Bool.false_ne_true, unchecked⟩
  | insert =>
    have unfiltered : filter = none := by simpa [command, Command.places] using inFilter
    rw [unfiltered] at filled
    exact ⟨unfiltered, filled.resolve_left Bool.false_ne_true⟩
  | update | all =>
    simp only [command, Command.places, List.mem_cons, true_or, or_true, true_and] at inFilter inCheck
    exact ⟨inFilter, inCheck.trans Or.comm⟩

/-- Every statement has the clauses that its command and the calls ask for: a filter only,
a check only, or each of them exactly if a call gave a condition to it. -/
theorem clauses_follow_the_calls {policy : Definition} (obtained : policy.Obtained)
    (includeIndexes : Bool) {text : String}
    (written : (if includeIndexes then policy.statementWithIndexes else policy.statement) = .ok text) :
    (∃ calls, policy.BuiltBy calls) ∧ ∃ clauses, readClauses text = some clauses ∧
      policy.command = some clauses.command ∧
      ∀ calls, policy.BuiltBy calls → clauses.Follow calls := by
  rcases Definition.readClauses_text obtained includeIndexes written with
    ⟨placement, filter, check, complete, filtered, checked, read⟩
  exact ⟨obtained.exists_builtBy, _, read, (Definition.placed_of_resolve complete).1,
    fun calls built => Clauses.follow_of_resolve built complete filtered checked⟩

/-- The calls of a policy for updates that is allowed one condition. -/
def sharedCalls : List BuilderCall :=
  [.on ⟨"t", shows_t, complete_t⟩, .governing .update, .allow firstCondition]

/-- One allowed condition gives an update both clauses. -/
theorem clauses_of_shared_follow : ∃ clauses, readClauses sharedText = some clauses ∧
    clauses.command = .update ∧ clauses.filter.isSome = true ∧ clauses.check.isSome = true := by
  rcases clauses_follow_the_calls sharedPolicy_obtained false sharedPolicy_statement with
    ⟨-, clauses, read, governed, follow⟩
  have built : sharedPolicy.BuiltBy sharedCalls := ⟨"p", { name := ⟨"p", rfl⟩ }, rfl, rfl⟩
  have command : clauses.command = .update := (Option.some.inj governed).symm
  have allowed : Called sharedCalls .allowed :=
    ⟨.allow firstCondition, by simp [sharedCalls], rfl⟩
  have placed := follow sharedCalls built
  rw [Clauses.Follow, command] at placed
  exact ⟨clauses, read, command, placed.1.mpr (Or.inr allowed), placed.2.mpr (Or.inl allowed)⟩

/-- A policy for updates that is given a check only. -/
def unfilteredPolicy : Definition where
  name := ⟨"p", shows_p⟩
  table := some ⟨"t", shows_t, complete_t⟩
  command := some .update
  written := some firstCondition

/-- Its statement has no filter. -/
theorem update_without_filter : unfilteredPolicy.Obtained ∧
    unfilteredPolicy.BuiltBy [.on ⟨"t", rfl, rfl⟩, .governing .update, .checkWritten firstCondition] ∧
    unfilteredPolicy.statement =
      .ok "CREATE POLICY \"p\" ON t\n  AS PERMISSIVE\n  FOR UPDATE\n  WITH CHECK (a IS NULL);" ∧
    ∃ clauses, clauses.command = .update ∧ clauses.filter = none ∧ readClauses
      "CREATE POLICY \"p\" ON t\n  AS PERMISSIVE\n  FOR UPDATE\n  WITH CHECK (a IS NULL);" =
        some clauses := by
  have created : Definition.create "p" = .ok { name := ⟨"p", rfl⟩ } := rfl
  have obtained : unfilteredPolicy.Obtained :=
    .checkWritten (.governing (.on (.create created) _) .update) (.isNull _)
  have shown := renderOptional_of_rendered firstCondition_rendered
  have written : unfilteredPolicy.statement =
      .ok "CREATE POLICY \"p\" ON t\n  AS PERMISSIVE\n  FOR UPDATE\n  WITH CHECK (a IS NULL);" :=
    Outcome.bind_eq_ok.mpr ⟨⟨_, .update, none, some firstCondition⟩, rfl,
      Outcome.bind_eq_ok.mpr ⟨none, rfl, Outcome.bind_eq_ok.mpr ⟨_, shown, rfl⟩⟩⟩
  rcases Definition.readClauses_text obtained false written with
    ⟨placement, filter, check, complete, filtered, -, read⟩
  cases complete
  cases filtered
  exact ⟨obtained, ⟨"p", _, created, rfl⟩, written, _, rfl, rfl, read⟩

end Policy
end PolicyStudio
