import PolicyStudio.Proofs.Policy.ReadyMade
import PolicyStudio.Proofs.Script.Arguments
import PolicyStudio.Script.Execute

/-!
# Ready-made policies for programs

Programs may give a template whatever they have.  If it returns, the arguments that have to be
texts were texts, and the policies are those that the language makes of these texts, in the
order of the operations.
-/

namespace PolicyStudio
namespace Script

open Policy Step

namespace PolicyCall

variable {before after : Machine} {value : Value}

/-! ## Templates, one policy at a time -/

/-- For one command, make a policy for the owner of rows. -/
def makeOwned (table owner : Value) (command : Command) : Step Value := do
  let policy ← governed [← table.plainText, "_", command.slug, "_own"] table command
  let column ← columnOf owner
  newDefinition (policy.allow (← ofBuilt column.isOwner))

/-- Make a policy that pins rows to their tenant. -/
def makeTenant (table column key : Value) : Step Value := do
  let policy ← governed [← table.plainText, "_tenant_isolation"] table .all
  let column ← columnOf column
  let tenant ← setting key (.text "uuid")
  let condition ← ofBuilt (column.equals tenant.operand)
  newDefinition (policy.requireAll.allow condition)

/-- Make a policy that shows rows under a condition. -/
def makeVisible (table : Value) (condition : Condition) : Step Value := do
  let policy ← governed [← table.plainText, "_public_read"] table .select
  newDefinition (policy.whenVisible condition)

/-- The condition that a column is set, or the one that every row meets. -/
def flagged (flag : Value) : Step Condition :=
  match flag with
  | .none => pure alwaysTrue
  | flag => do
    let column ← columnOf flag
    ofBuilt column.isPublic

/-- For one command, make a policy for the holders of a role. -/
def makeGranted (table role : Value) (command : Command) : Step Value := do
  let name := [← table.plainText, "_", ← role.plainText, "_", command.slug]
  let policy ← governed name table command
  newDefinition (policy.allow (← hasRole role))

variable (self : Interpreter) (bound : List (String × Bound Value))

/-- Make a policy for each of the commands, and list the policies. -/
def makeEach (operations : Value) (make : Command → Step Value) : Step Value := do
  let commands ← commandsOf self operations
  newList (← commands.mapM make)

theorem templatesMethod_userOwned : templatesMethod self .userOwned bound =
    makeEach self (argument bound "operations")
      (makeOwned (argument bound "table") (argument bound "ownerColumn")) :=
  rfl

theorem templatesMethod_tenantIsolation : templatesMethod self .tenantIsolation bound = (do
    newList [← makeTenant (argument bound "table") (argument bound "tenantColumn")
      (argument bound "sessionKey")]) := by
  simp only [makeTenant, bind_assoc]
  rfl

theorem templatesMethod_publicAccess : templatesMethod self .publicAccess bound = (do
    makeVisible (argument bound "table") (← flagged (argument bound "visibilityColumn"))) := by
  show (match argument bound "visibilityColumn" with
    | .none => _
    | flag => _) = _
  cases argument bound "visibilityColumn" <;> simp only [flagged, bind_assoc] <;> rfl

theorem templatesMethod_roleAccess : templatesMethod self .roleAccess bound =
    makeEach self (argument bound "operations")
      (makeGranted (argument bound "table") (argument bound "role")) :=
  rfl

/-! ## Policies that are handed to programs -/

/-- The value is a policy. -/
def StandsFor (machine : Machine) (value : Value) (policy : Definition) : Prop :=
  ∃ address, value = .object address ∧ machine.Holds address (.policy (.definition policy))

theorem StandsFor.later {policy : Definition} (stands : StandsFor before value policy)
    (leads : before.LeadsTo after) : StandsFor after value policy := by
  rcases stands with ⟨address, rfl, there⟩
  exact ⟨address, rfl, leads.fixed address _ rfl there⟩

/-- The value is a list of the items. -/
def Lists (machine : Machine) (value : Value) (items : List Value) : Prop :=
  ∃ address, value = .object address ∧ machine.Holds address (.list items.toArray)

theorem lists_newList {items : List Value}
    (returned : (newList items).run before = .ok value after) : Lists after value items := by
  rcases (allocate_eq_ok (.list items.toArray) rfl).mp returned with ⟨rfl, rfl⟩
  exact ⟨_, rfl, Array.getElem?_push_size⟩

theorem standsFor_newDefinition {policy : Definition}
    (returned : (newDefinition policy).run before = .ok value after) :
    StandsFor after value policy := by
  rcases (allocate_eq_ok (.policy (.definition policy)) rfl).mp returned with ⟨rfl, rfl⟩
  exact ⟨_, rfl, Array.getElem?_push_size⟩

/-- The policies are listed in the order of the operations, each as it was made. -/
theorem forall₂_of_makeEach {self : Interpreter} {operations : Value}
    {make : Command → Step Value} {made : Command → Value → Machine → Prop}
    (each : ∀ command before item after, (make command).run before = .ok item after →
      made command item after)
    (kept : ∀ command item middle after, middle.LeadsTo after → made command item middle →
      made command item after)
    (returned : (makeEach self operations make).run before = .ok value after) :
    ∃ names middle commands items, (namesOf self operations).run before = .ok names middle ∧
      commands.map Command.name = names.map Text.upper ∧ commands ≠ [] ∧
      Lists after value items ∧
      List.Forall₂ (fun command item => made command item after) commands items := by
  rcases Step.bind_eq_ok.mp returned with ⟨commands, middle, commanding, making⟩
  rcases commandsOf_eq_ok commanding with ⟨names, listed, accepted⟩
  rcases Templates.names_of_commands accepted with ⟨nonempty, inOrder⟩
  rcases Step.bind_eq_ok.mp making with ⟨items, last, madeAll, listing⟩
  have all : List.Forall₂ (fun command item => made command item last) commands items :=
    forall₂_of_mapM each kept madeAll
  exact ⟨names, middle, commands, items, listed, inOrder, nonempty, lists_newList listing,
    all.imp fun command item => kept command item last after (leadsTo_of_ok listing)⟩

/-- The value is the policy that a template makes for the table, which was given as a text. -/
def IsMade (table : Value) (origin : Origin) (value : Value) (machine : Machine) : Prop :=
  ∃ t policy, table = .text t ∧ Finished t origin policy ∧ StandsFor machine value policy

theorem IsMade.later {table : Value} {origin : Origin} (made : IsMade table origin value before)
    (leads : before.LeadsTo after) : IsMade table origin value after := by
  rcases made with ⟨t, policy, rfl, finished, stands⟩
  exact ⟨t, policy, rfl, finished, stands.later leads⟩

/-- A policy that has the table in its name is begun on a table that was given as a text. -/
theorem exists_governed {name : String → List String} {table : Value} {command : Command}
    {next : Definition → Step Value}
    (returned : (do next (← governed (name (← table.plainText)) table command)).run before =
      .ok value after) :
    ∃ t start, table = .text t ∧
      Templates.governed (String.join (name t)) t command = .ok start ∧
      (next start).run before = .ok value after := by
  rcases Step.bind_eq_ok.mp returned with ⟨written, middle, writing, returned⟩
  rcases Step.bind_eq_ok.mp returned with ⟨start, second, governing, ending⟩
  rcases governed_eq_ok governing with ⟨t, rfl, governed, rfl⟩
  rcases Step.pure_eq_ok.mp writing with ⟨rfl, rfl⟩
  exact ⟨t, start, rfl, governed, ending⟩

theorem isMade_owned {table owner : Value} {command : Command}
    (returned : (makeOwned table owner command).run before = .ok value after) :
    IsMade table (.owned command) value after := by
  rcases exists_governed returned with ⟨t, start, rfl, governed, afterGoverning⟩
  rcases Step.bind_eq_ok.mp afterGoverning with ⟨column, middle, naming, afterNaming⟩
  rcases columnOf_eq_ok.mp naming with ⟨o, rfl, named, rfl⟩
  rcases Step.bind_eq_ok.mp afterNaming with ⟨condition, last, owning, ending⟩
  rcases ofBuilt_eq_ok.mp owning with ⟨isOwner, rfl⟩
  have made : Templates.owned t o command = .ok (start.allow condition) := by
    simp only [String.join_cons, String.join_nil, String.append_empty, ← String.append_assoc] at governed
    exact Templates.owned_eq_ok.mpr ⟨start, column, condition, governed, named, isOwner, rfl⟩
  exact ⟨t, _, rfl, .of_owned made, standsFor_newDefinition ending⟩

theorem isMade_tenant {table column key : Value}
    (returned : (makeTenant table column key).run before = .ok value after) :
    IsMade table .tenant value after := by
  rcases exists_governed returned with ⟨t, start, rfl, governed, afterGoverning⟩
  rcases Step.bind_eq_ok.mp afterGoverning with ⟨owner, middle, naming, afterNaming⟩
  rcases columnOf_eq_ok.mp naming with ⟨o, rfl, named, rfl⟩
  rcases Step.bind_eq_ok.mp afterNaming with ⟨tenant, second, setting, afterSetting⟩
  rcases setting_eq_ok setting with ⟨k, rfl, set, rfl⟩
  rcases Step.bind_eq_ok.mp afterSetting with ⟨condition, last, comparing, ending⟩
  rcases ofBuilt_eq_ok.mp comparing with ⟨compared, rfl⟩
  have made : Templates.tenantIsolation t o k = .ok [start.requireAll.allow condition] := by
    simp only [String.join_cons, String.join_nil, String.append_empty] at governed
    exact Templates.tenantIsolation_eq_ok.mpr ⟨start, owner, condition, governed, named,
      Outcome.bind_eq_ok.mpr ⟨tenant, set, compared⟩, rfl⟩
  rcases Finished.of_tenantIsolation made with ⟨policy, same, finished⟩
  cases same
  exact ⟨t, _, rfl, finished, standsFor_newDefinition ending⟩

/-- Rows are shown under whatever condition was chosen before. -/
theorem standsFor_visible {table : Value} {condition : Condition}
    (returned : (makeVisible table condition).run before = .ok value after) :
    ∃ t start, table = .text t ∧ Templates.governed (t ++ "_public_read") t .select = .ok start ∧
      StandsFor after value (start.whenVisible condition) := by
  rcases exists_governed returned with ⟨t, start, rfl, governed, ending⟩
  simp only [String.join_cons, String.join_nil, String.append_empty] at governed
  exact ⟨t, start, rfl, governed, standsFor_newDefinition ending⟩

theorem isMade_visible {table flag : Value}
    (returned : (do makeVisible table (← flagged flag)).run before = .ok value after) :
    IsMade table .visible value after := by
  rcases Step.bind_eq_ok.mp returned with ⟨condition, middle, choosing, making⟩
  rcases standsFor_visible making with ⟨t, start, rfl, governed, stands⟩
  unfold flagged at choosing
  split at choosing
  · rcases Step.pure_eq_ok.mp choosing with ⟨rfl, rfl⟩
    have made : Templates.publicAccess t none = .ok (start.whenVisible alwaysTrue) :=
      Templates.publicAccess_eq_ok.mpr ⟨start, alwaysTrue, governed, .inl ⟨rfl, rfl⟩, rfl⟩
    exact ⟨t, _, rfl, .of_publicAccess made, stands⟩
  · rcases Step.bind_eq_ok.mp choosing with ⟨column, second, naming, comparing⟩
    rcases columnOf_eq_ok.mp naming with ⟨name, rfl, named, rfl⟩
    rcases ofBuilt_eq_ok.mp comparing with ⟨isPublic, rfl⟩
    have made : Templates.publicAccess t (some name) = .ok (start.whenVisible condition) :=
      Templates.publicAccess_eq_ok.mpr ⟨start, condition, governed,
        .inr ⟨name, column, rfl, named, isPublic⟩, rfl⟩
    exact ⟨t, _, rfl, .of_publicAccess made, stands⟩

/-- Only a text is a role. -/
theorem isMade_granted {table role : Value} {command : Command}
    (returned : (makeGranted table role command).run before = .ok value after) :
    ∃ r, role = .text r ∧ IsMade table (.granted r command) value after := by
  rcases Step.bind_eq_ok.mp returned with ⟨written, middle, writing, afterWriting⟩
  rcases Step.bind_eq_ok.mp afterWriting with ⟨roleWritten, second, roleWriting, afterBoth⟩
  rcases Step.bind_eq_ok.mp afterBoth with ⟨start, third, governing, afterGoverning⟩
  rcases governed_eq_ok governing with ⟨t, rfl, governed, rfl⟩
  rcases Step.pure_eq_ok.mp writing with ⟨rfl, rfl⟩
  rcases Step.bind_eq_ok.mp afterGoverning with ⟨condition, fourth, holding, ending⟩
  rcases hasRole_eq_ok.mp holding with ⟨r, rfl, held, rfl⟩
  rcases Step.pure_eq_ok.mp roleWriting with ⟨rfl, rfl⟩
  have made : Templates.granted t r command = .ok (start.allow condition) := by
    simp only [String.join_cons, String.join_nil, String.append_empty, ← String.append_assoc] at governed
    exact Templates.granted_eq_ok.mpr ⟨start, condition, governed, held, rfl⟩
  exact ⟨r, rfl, t, _, rfl, .of_granted made, standsFor_newDefinition ending⟩

/-! ## Templates -/

/-- What a template is asked for: the policies on the table, in their order. -/
inductive Asked (self : Interpreter) (before : Machine) (bound : List (String × Bound Value)) :
    PolicyMethod → List Origin → Prop
  | userOwned {names : List String} {middle : Machine} {commands : List Command}
    (listed : (namesOf self (argument bound "operations")).run before = .ok names middle)
    (inOrder : commands.map Command.name = names.map Text.upper) :
    Asked self before bound .userOwned (commands.map .owned)
  | tenantIsolation : Asked self before bound .tenantIsolation [.tenant]
  | publicAccess : Asked self before bound .publicAccess [.visible]
  | roleAccess {names : List String} {middle : Machine} {commands : List Command} {role : String}
    (listed : (namesOf self (argument bound "operations")).run before = .ok names middle)
    (inOrder : commands.map Command.name = names.map Text.upper)
    (held : argument bound "role" = .text role) :
    Asked self before bound .roleAccess (commands.map (.granted role))

/-- The values that a template returns: the members of a list, or a single one. -/
def Returned (method : PolicyMethod) (value : Value) (machine : Machine) (items : List Value) :
    Prop :=
  match method with
  | .publicAccess => items = [value]
  | _ => ∃ address, value = .object address ∧ machine.Holds address (.list items.toArray)

theorem forall₂_isMade {self : Interpreter} {method : PolicyMethod}
    {bound : List (String × Bound Value)}
    (template : method ∈ [.userOwned, .tenantIsolation, .publicAccess, .roleAccess])
    (returned : (templatesMethod self method bound).run before = .ok value after) :
    ∃ origins items, Asked self before bound method origins ∧ origins ≠ [] ∧
      Returned method value after items ∧
      List.Forall₂ (fun origin item => IsMade (argument bound "table") origin item after)
        origins items := by
  simp only [List.mem_cons, List.not_mem_nil, or_false] at template
  rcases template with rfl | rfl | rfl | rfl
  · rw [templatesMethod_userOwned] at returned
    have owned : ∀ command before item after, (makeOwned (argument bound "table")
        (argument bound "ownerColumn") command).run before = .ok item after →
          IsMade (argument bound "table") (.owned command) item after :=
      fun _ _ _ _ => isMade_owned
    rcases forall₂_of_makeEach owned (fun _ _ _ _ leads made => made.later leads) returned with
      ⟨names, middle, commands, items, listed, inOrder, nonempty, handed, made⟩
    exact ⟨_, items, .userOwned listed inOrder, List.map_eq_nil_iff.not.mpr nonempty, handed,
      List.forall₂_map_left_iff.mpr made⟩
  · rw [templatesMethod_tenantIsolation] at returned
    rcases Step.bind_eq_ok.mp returned with ⟨item, last, making, listing⟩
    exact ⟨[.tenant], [item], .tenantIsolation, List.cons_ne_nil _ _, lists_newList listing,
      .cons ((isMade_tenant making).later (leadsTo_of_ok listing)) .nil⟩
  · rw [templatesMethod_publicAccess] at returned
    exact ⟨[.visible], [value], .publicAccess, List.cons_ne_nil _ _, rfl,
      .cons (isMade_visible returned) .nil⟩
  · rw [templatesMethod_roleAccess] at returned
    have granted : ∀ command before item after, (makeGranted (argument bound "table")
        (argument bound "role") command).run before = .ok item after →
          ∃ r, argument bound "role" = .text r ∧
            IsMade (argument bound "table") (.granted r command) item after :=
      fun _ _ _ _ => isMade_granted
    rcases forall₂_of_makeEach granted
        (fun _ _ _ _ leads ⟨r, held, made⟩ => ⟨r, held, made.later leads⟩) returned with
      ⟨names, middle, commands, items, listed, inOrder, nonempty, handed, made⟩
    -- The first policy tells that the role is a text; all of them are for this one role.
    have held : ∃ r, argument bound "role" = .text r := by
      cases made with
      | nil => exact absurd rfl nonempty
      | cons first _ =>
        rcases first with ⟨r, held, -⟩
        exact ⟨r, held⟩
    rcases held with ⟨role, held⟩
    refine ⟨_, items, .roleAccess listed inOrder held, List.map_eq_nil_iff.not.mpr nonempty, handed,
      List.forall₂_map_left_iff.mpr (made.imp ?_)⟩
    rintro command item ⟨r, same, made⟩
    rw [held] at same
    cases same
    exact made

/-! ## Statements -/

/-- The arguments that ask for the statement, or for the statements for indexes besides. -/
def statementArguments (includeIndexes : Bool) : Arguments Value where
  named := if includeIndexes then [("includeIndexes", .bool true)] else []

/-- Asking a policy for its statement comes to the text of the statement. -/
theorem callMethod_statement (self : Interpreter) (receiver : Value) (policy : Definition)
    (includeIndexes : Bool) :
    callMethod self receiver (.definition policy) .statement (statementArguments includeIndexes) =
      (do return .text (← ofBuilt
        (if includeIndexes then policy.statementWithIndexes else policy.statement))) := by
  cases includeIndexes <;> rfl

/-- The value is the policy of that origin on the table: it has its name, and a reader finds in
the statement it comes to, with or without statements for indexes, what the origin tells. -/
def Delivered (table : String) (machine : Machine) (origin : Origin) (item : Value) : Prop :=
  ∃ policy, StandsFor machine item policy ∧ policy.name.text = origin.name table ∧
    ∃ shown, ∀ includeIndexes, ∃ text,
      (∀ self later, (callMethod self item (.definition policy) .statement
        (statementArguments includeIndexes)).run later = .ok (.text text) later) ∧
      readClauses text = some (origin.clauses table shown)

theorem Delivered.of_finished {table : String} {machine : Machine} {origin : Origin} {item : Value}
    {policy : Definition} (finished : Finished table origin policy)
    (stands : StandsFor machine item policy) : Delivered table machine origin item := by
  rcases finished with ⟨named, shown, written⟩
  refine ⟨policy, stands, named, shown, fun includeIndexes => ?_⟩
  rcases written includeIndexes with ⟨text, written, read⟩
  refine ⟨text, fun self later => ?_, read⟩
  rw [callMethod_statement, written]
  rfl

/-- A template that returns gives a policy for each operation that it was asked for, in their
order.  Each can be stated, with the clauses its command has places for, and no two of them have
the same name unless they come from the same template, operation and role. -/
theorem templates_return_finished_policies {self : Interpreter} {receiver : Value}
    {method : PolicyMethod} {given : Arguments Value}
    (template : method ∈ [.userOwned, .tenantIsolation, .publicAccess, .roleAccess])
    (returned : (callMethod self receiver .templates method given).run before = .ok value after) :
    ∃ bound table origins items,
      (bindMethod .templates method
        { given with positional := receiver :: given.positional }).run before = .ok bound before ∧
      argument bound "table" = .text table ∧
      Asked self before bound method origins ∧
      Returned method value after items ∧
      List.Forall₂ (Delivered table after) origins items ∧
      ∀ first second : Origin, first.name table = second.name table ↔ first = second := by
  rcases Step.bind_eq_ok.mp returned with ⟨bound, middle, binding, ran⟩
  have same : middle = before := (ofBound_eq_ok.mp binding).2.symm
  subst same
  rcases forall₂_isMade template ran with ⟨origins, items, asked, nonempty, handed, made⟩
  -- The first policy tells that the table is a text; all of them are on this one table.
  have isText : ∃ table, argument bound "table" = .text table := by
    cases made with
    | nil => exact absurd rfl nonempty
    | cons first _ =>
      rcases first with ⟨table, _, isText, -⟩
      exact ⟨table, isText⟩
  rcases isText with ⟨table, isText⟩
  refine ⟨bound, table, origins, items, binding, isText, asked, handed, made.imp ?_,
    fun first second => Origin.name_eq_iff⟩
  rintro origin item ⟨other, policy, otherText, finished, stands⟩
  cases otherText.symm.trans isText
  exact .of_finished finished stands

/-- The commands are told apart by their names. -/
theorem name_injective : Function.Injective Command.name := by
  intro first second
  cases first <;> cases second <;> decide

/-- Operations are matched in capitals, and roles may have the words of templates in them. -/
theorem roleAccess_returns_finished_policies :
    ∃ value after, (callMethod programInterpreter (.object Machine.templatesAddress) .templates .roleAccess
        { positional := [.text "posts", .text "row_own", .tuple [.text "select", .text "INSERT"]] }).run
          Machine.initial = .ok value after ∧
      ∃ first second, Returned .roleAccess value after [first, second] ∧
        Delivered "posts" after (.granted "row_own" .select) first ∧
        Delivered "posts" after (.granted "row_own" .insert) second := by
  obtain ⟨value, after, returned⟩ : ∃ value after,
      (callMethod programInterpreter (.object Machine.templatesAddress) .templates .roleAccess
        { positional := [.text "posts", .text "row_own", .tuple [.text "select", .text "INSERT"]] }).run
          Machine.initial = .ok value after := ⟨_, _, rfl⟩
  refine ⟨value, after, returned, ?_⟩
  rcases templates_return_finished_policies (by decide) returned with
    ⟨bound, table, origins, items, binding, isText, asked, handed, delivered, -⟩
  cases binding
  cases isText
  cases asked with
  | roleAccess listed inOrder held =>
    cases held
    cases listed
    have capitals : ["INSERT", "select"].reverse.map Text.upper =
        [Command.select, Command.insert].map Command.name := by decide
    cases name_injective.list_map (inOrder.trans capitals)
    rcases delivered with - | ⟨first, - | ⟨second, ⟨⟩⟩⟩
    exact ⟨_, _, handed, first, second⟩

end PolicyCall

end Script
end PolicyStudio
