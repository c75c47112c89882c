import PolicyStudio.Proofs.Script.Looks
import PolicyStudio.Proofs.Script.ReadyMade

/-!
# What calls stop for

Method by method, a call stops for a malformed definition, for one of the looks that are listed
for it, or for an expression that it was to write and that has no text.  A list given for the
type of a setting shows that a look can fail where a refusal was meant.
-/

namespace PolicyStudio
namespace Script

open Policy Step

namespace PolicyCall

variable {self : Interpreter} {start : Machine} {bound : List (String × Bound Value)}
  {grounds : Grounds} {value : Value} {name : String} {object : PolicyObject}

/-! ## Values of the request -/

theorem stopsBy_contextMethod (method : PolicyMethod) :
    (contextMethod method bound).StopsBy start
      (Grounded self start bound (groundsOf object method)) := by
  unfold contextMethod
  split
  · exact stopsBy_newPolicy _
  · exact stopsBy_newPolicy _
  · split
    · exact stopsBy_newPolicy _
    · exact (stopsBy_build (.claim _)).bind fun _ => stopsBy_newPolicy _
    · exact (stopsBy_show (mem_looks (by decide)) .argument).bind fun _ => stopsBy_refuse rfl
  · refine (stopsBy_setting (mem_looks (by decide)) .argument ?_ ?_).bind fun _ =>
      stopsBy_newPolicy _
    · exact stopsBy_key (mem_looks (by decide)) .argument
    · exact stopsBy_show (mem_looks (by decide)) .argument
  · exact stopsBy_pure _

/-! ## Columns -/

/-- An operand that was taken has a text. -/
theorem exists_write_of_taken {operand : Operand} {before after : Machine}
    (taken : (checkedOperandOf value).run before = .ok operand after) :
    ∃ text, operand.write = .ok text := by
  rcases Step.bind_eq_ok.mp taken with ⟨found, middle, -, checked⟩
  rcases ofBuilt_eq_ok.mp checked with ⟨accepted, -⟩
  rcases Outcome.bind_eq_ok.mp accepted with ⟨text, written, same⟩
  cases same
  exact ⟨text, Outcome.mapError_eq_ok.mp written⟩

theorem exists_write_of_mapM_taken {values : List Value} {operands : List Operand}
    {before after : Machine}
    (taken : (values.mapM checkedOperandOf).run before = .ok operands after) :
    ∀ operand ∈ operands, ∃ text, operand.write = .ok text := by
  have told : ∀ (value : Value) (before : Machine) (operand : Operand) (after : Machine),
      (checkedOperandOf value).run before = .ok operand after →
        ∃ text, operand.write = .ok text := fun _ _ _ _ => exists_write_of_taken
  have each : List.Forall₂ (fun _ operand => ∃ text, operand.write = .ok text) values operands :=
    forall₂_of_mapM told (fun _ _ _ _ _ => id) taken
  intro operand listed
  rcases List.mem_iff_getElem.mp listed with ⟨i, inside, rfl⟩
  exact each.get (each.length_eq ▸ inside) inside

/-- A text is an operand at once. -/
theorem checkedOperandOf_text (s : String) : checkedOperandOf (.text s) = pure (.text s) := by
  show ofBuilt (Operand.text s).checked = _
  rw [Operand.checked_of_write (Operand.write_text s)]
  rfl

/-- Compare a column with a value that is neither nothing nor a pattern. -/
def compareTaken (column : Column) (comparator : Comparator) (value : Value) : Step Value := do
  let operand ← checkedOperandOf value
  newCondition (← ofBuilt (column.compare comparator operand))

/-- An operand that was taken is not refused again. -/
theorem stopsBy_compareTaken (column : Column) (comparator : Comparator)
    (taken : (checkedOperandOf value).StopsBy start (Grounded self start bound grounds)) :
    (compareTaken column comparator value).StopsBy start (Grounded self start bound grounds) := by
  refine taken.bind_of_ok fun before operand after leads taken => ?_
  rcases exists_write_of_taken taken with ⟨text, written⟩
  refine (stopsBy_build ?_).bind fun _ => stopsBy_newPolicy _
  rw [Column.compare_of_write written]
  exact .ok _

/-- Anything but a text is refused as a pattern before it is taken as an operand. -/
theorem stopsBy_refusePattern (operation : String) (next : PUnit → Step Value) :
    ((do raiseDefinition (.patternExpected operation (← value.typeName)) : Step PUnit) >>= next).StopsBy
      start (Grounded self start bound grounds) := by
  refine (value.stopsBy_typeName.bind fun type => stopsBy_refuse rfl).bind_of_ok ?_
  intro before _ after leads returned
  rcases Step.bind_eq_ok.mp returned with ⟨type, middle, -, refused⟩
  exact absurd refused (raiseDefinition_ne_ok _ _)

theorem stopsBy_comparePattern (column : Column) {comparator : Comparator}
    (pattern : comparator = .like ∨ comparator = .likeAnyCase) :
    (compare column comparator value).StopsBy start (Grounded self start bound grounds) := by
  have text : ∀ s, (compareTaken column comparator (.text s)).StopsBy start
      (Grounded self start bound grounds) := fun s => stopsBy_compareTaken column comparator
    (checkedOperandOf_text s ▸ stopsBy_pure _)
  rcases pattern with rfl | rfl
  · cases value with
    | text s => exact text s
    | _ => exact stopsBy_refusePattern "like" _
  · cases value with
    | text s => exact text s
    | _ => exact stopsBy_refusePattern "ilike" _

theorem stopsBy_compare (column : Column) {comparator : Comparator}
    (like : comparator ≠ .like) (likeAnyCase : comparator ≠ .likeAnyCase)
    (listed : (name, .operand) ∈ grounds.looks) (given : GivenFor self start bound name value) :
    (compare column comparator value).StopsBy start (Grounded self start bound grounds) := by
  have taken := stopsBy_compareTaken column comparator (stopsBy_take listed given)
  cases comparator with
  | like => exact absurd rfl like
  | likeAnyCase => exact absurd rfl likeAnyCase
  | equal | different => cases value <;> first | exact taken | exact stopsBy_newPolicy _
  | _ => exact taken

theorem stopsBy_isIn (column : Column) (expressed : (name, .expression) ∈ grounds.looks)
    (gone : (name, .members) ∈ grounds.looks) (taken : (name, .operand) ∈ grounds.looks)
    (given : GivenFor self start bound name value) :
    (isIn self column value).StopsBy start (Grounded self start bound grounds) := by
  have looked : (expressionOf? value).StopsBy start (Grounded self start bound grounds) :=
    stopsBy_look_at expressed given fun _ _ _ stopped => stopped
  have collecting : (collect self value).StopsBy start (Grounded self start bound grounds) :=
    stopsBy_look_at gone given fun _ _ _ stopped => stopped
  refine looked.bind fun found => ?_
  split
  · exact stopsBy_newPolicy _
  · have rest : (do
        let members ← collect self value
        if members.isEmpty then raiseDefinition (.membersMissing column.name.text)
        let members ← members.mapM checkedOperandOf
        newCondition (← ofBuilt (column.isAmong members))).StopsBy start
          (Grounded self start bound grounds) := by
      refine collecting.bind_of_ok fun before members after leads listed => ?_
      have each : ∀ member ∈ members, (checkedOperandOf member).StopsBy start
          (Grounded self start bound grounds) := fun member among =>
        stopsBy_take taken (given.member leads (.inr listed) among)
      have taking : (do
          let members ← members.mapM checkedOperandOf
          newCondition (← ofBuilt (column.isAmong members))).StopsBy start
            (Grounded self start bound grounds) :=
        (StopsBy.mapM each).bind_of_ok fun _ operands _ _ takenAll =>
          (stopsBy_build (RefusesMalformed.isAmong column
            (exists_write_of_mapM_taken takenAll))).bind fun _ => stopsBy_newPolicy _
      exact .ite ((stopsBy_refuse rfl).bind fun _ => taking) taking
    refine stopsBy_isIterable.bind fun iterable => ?_
    exact .ite ((stopsBy_refuse rfl).bind fun _ => rest) rest

/-- Comparing a column with a value of the request is not refused. -/
theorem stopsBy_equals_context (column : Column) (context : ContextValue) :
    (do newCondition (← ofBuilt (column.equals context.operand))).StopsBy start
      (Grounded self start bound grounds) := by
  rw [column.equals_context context]
  exact stopsBy_newPolicy _

theorem stopsBy_columnMethod (column : Column) (method : PolicyMethod) :
    (columnMethod self column method bound).StopsBy start
      (Grounded self start bound (groundsOf object method)) := by
  unfold columnMethod
  split
  · exact stopsBy_pure _
  · exact stopsBy_comparePattern column (.inl rfl)
  · exact stopsBy_comparePattern column (.inr rfl)
  · next comparator like likeAnyCase =>
    have listed : looksOf (.compare comparator) = [("value", .operand)] := by
      cases comparator <;> first | rfl | exact absurd rfl like | exact absurd rfl likeAnyCase
    refine stopsBy_compare column ?_ ?_ (mem_looks (listed ▸ List.mem_singleton_self _)) .argument
    · exact fun same => like (same ▸ rfl)
    · exact fun same => likeAnyCase (same ▸ rfl)
  · exact stopsBy_isIn column (mem_looks (by decide)) (mem_looks (by decide))
      (mem_looks (by decide)) .argument
  · exact stopsBy_newPolicy _
  · exact stopsBy_newPolicy _
  · exact stopsBy_equals_context column .subject
  · rw [column.isPublic_eq]
    exact stopsBy_newPolicy _
  · refine (stopsBy_setting (mem_looks (by decide)) .argument (stopsBy_pure _)
      (stopsBy_pure _)).bind fun value => stopsBy_equals_context column value
  · exact (stopsBy_identifierOf (mem_looks (by decide)) .argument).bind fun _ =>
      (stopsBy_identifierOf (mem_looks (by decide)) .argument).bind fun _ =>
        (stopsBy_identifierOf (mem_looks (by decide)) .argument).bind fun _ => stopsBy_newPolicy _
  · exact stopsBy_pure _

/-! ## Conditions and queries -/

/-- Members of a junction that are no conditions are refused. -/
theorem stopsBy_connect (operation : String) (connective : Connective) (first : Condition)
    (others : List Value) : (connect operation connective first others).StopsBy start
      (Grounded self start bound grounds) := by
  have rest : (do
      let others ← others.mapM fun value => conditionOr value (.conditionsExpected operation)
      newCondition (.connect connective (first :: others))).StopsBy start
        (Grounded self start bound grounds) :=
    (StopsBy.mapM fun _ _ => stopsBy_conditionOr fun _ => rfl).bind fun _ => stopsBy_newPolicy _
  exact .ite ((stopsBy_refuse rfl).bind fun _ => rest) rest

theorem stopsBy_conditionMethod (c : Condition) (method : PolicyMethod) :
    (conditionMethod c method bound).StopsBy start
      (Grounded self start bound (groundsOf (.condition c) method)) := by
  unfold conditionMethod
  split
  · exact (stopsBy_rendered fun _ unwritten => unwritten).bind fun _ => stopsBy_pure _
  · exact (stopsBy_rendered fun _ unwritten => unwritten).bind fun _ => stopsBy_pure _
  · exact stopsBy_connect _ _ _ _
  · exact stopsBy_connect _ _ _ _
  · exact stopsBy_newPolicy _
  · exact stopsBy_pure _

/-- Selecting stops for nothing, and what is selected was given for the parameter. -/
theorem stopsBy_selected (columns : List Value) :
    (selected columns).StopsBy start (Grounded self start bound grounds) := by
  unfold selected
  split
  · exact stopsBy_pure _
  · refine (stopsBy_load _).bind fun object => ?_
    split <;> exact stopsBy_pure _
  · exact stopsBy_pure _

/-- What is selected was given for the parameter. -/
theorem givenFor_of_selected {before after : Machine} {columns : List Value}
    (leads : start.LeadsTo before)
    (listed : (selected (arguments bound name)).run before = .ok columns after) :
    ∀ column ∈ columns, GivenFor self start bound name column := by
  intro column among
  cases given : arguments bound name with
  | nil =>
    rw [given] at listed
    cases listed
    cases among
  | cons first others =>
    have gathered : ∀ value ∈ first :: others, GivenFor self start bound name value :=
      fun value among => .gathered (given ▸ among)
    rw [given] at listed
    cases others with
    | nil => exact (gathered first List.mem_cons_self).member leads (.inl listed) among
    | cons second rest =>
      have unchanged : selected (first :: second :: rest) = pure (first :: second :: rest) := by
        cases first <;> rfl
      rw [unchanged] at listed
      cases listed
      exact gathered column among

theorem stopsBy_queryMethod (query : Subquery) (method : PolicyMethod) :
    (queryMethod query method bound).StopsBy start
      (Grounded self start bound (groundsOf (.query query) method)) := by
  unfold queryMethod
  split
  · exact (stopsBy_rendered fun _ unwritten => unwritten).bind fun _ => stopsBy_pure _
  · refine (stopsBy_selected _).bind_of_ok fun before columns after leads listed => ?_
    have rest : (do
        let columns ← columns.mapM identifierOf
        newPolicy (.query (← ofBuilt (query.selectColumns columns)))).StopsBy start
          (Grounded self start bound (groundsOf (.query query) .select)) := by
      refine (StopsBy.mapM fun column among => stopsBy_identifierOf (mem_looks (by decide))
        (givenFor_of_selected leads listed column among)).bind fun checked => ?_
      exact (stopsBy_build (.selectColumns query checked)).bind fun _ => stopsBy_newPolicy _
    exact .ite ((stopsBy_refuse rfl).bind fun _ => rest) rest
  · exact (stopsBy_conditionOr fun _ => rfl).bind fun _ => stopsBy_newPolicy _
  · refine (stopsBy_identifierOf (mem_looks (by decide)) .argument).bind fun table => ?_
    refine (stopsBy_conditionOr fun _ => rfl).bind fun c => ?_
    refine (stopsBy_write (mem_looks (by decide)) .argument).bind fun kind => ?_
    exact (stopsBy_build (.joinKind _)).bind fun _ => stopsBy_newPolicy _
  · exact stopsBy_pure _

/-! ## Policies -/

theorem stopsBy_definitionMethod (policy : Definition) (method : PolicyMethod) :
    (definitionMethod policy method bound).StopsBy start
      (Grounded self start bound (groundsOf (.definition policy) method)) := by
  unfold definitionMethod
  split
  · exact (stopsBy_identifierOf (mem_looks (by decide)) .argument).bind fun _ => stopsBy_newPolicy _
  · exact stopsBy_newPolicy _
  · have rest : (do
        newDefinition (← ofBuilt (policy.grant (← (arguments bound "roles").mapM identifierOf)))).StopsBy
          start (Grounded self start bound (groundsOf (.definition policy) .grant)) :=
      (StopsBy.mapM fun role among => stopsBy_identifierOf (mem_looks (by decide))
        (.gathered among)).bind fun roles => (stopsBy_build (.grant policy roles)).bind fun _ =>
          stopsBy_newPolicy _
    exact .ite ((stopsBy_refuse rfl).bind fun _ => rest) rest
  · exact stopsBy_newPolicy _
  · exact stopsBy_newPolicy _
  · exact (stopsBy_conditionOr fun _ => rfl).bind fun _ => stopsBy_newPolicy _
  · exact (stopsBy_conditionOr fun _ => rfl).bind fun _ => stopsBy_newPolicy _
  · exact (stopsBy_conditionOr fun _ => rfl).bind fun _ => stopsBy_newPolicy _
  · refine (stopsBy_build (.conditions policy)).bind fun found => ?_
    exact (StopsBy.mapM fun _ _ => stopsBy_newPolicy _).bind fun _ => stopsBy_pure _
  · have listed : ∀ c cause, policy.Holds c → c.listColumns = .error cause →
        (groundsOf (.definition policy) .indexedColumns).unwritten cause :=
      fun c _ holds failed => ⟨c, holds, failed⟩
    exact (stopsBy_buildOr (refusedFor_indexedColumns listed)).bind fun _ =>
      stopsBy_allocate _ _
  · have shown : ∀ c cause, policy.Holds c → c.write = .error cause →
        (groundsOf (.definition policy) .statement).unwritten cause :=
      fun c _ holds failed => ⟨c, holds, .inl failed⟩
    refine stopsBy_isTrue.bind fun withIndexes => .ite ?_ ?_
    · refine (stopsBy_buildOr (refusedFor_statementWithIndexes shown ?_)).bind
        fun _ => stopsBy_pure _
      exact fun c _ holds failed => ⟨c, holds, .inr failed⟩
    · exact (stopsBy_buildOr (refusedFor_statement shown)).bind fun _ => stopsBy_pure _
  · exact stopsBy_pure _

/-! ## Templates -/

/-- The handler refuses an error of a wrong type, and raises any other one again. -/
theorem of_handleUnread {error : Value} {before after : Machine} {signal : Signal}
    (shown : (name, .shown) ∈ grounds.looks) (given : GivenFor self start bound name value)
    (leads : start.LeadsTo before)
    (stopped : (handleUnread value error).run before = .error signal after) :
    (signal = .raised error ∧ before = after ∧ ¬IsTypeError signal after) ∨
      Grounded self start bound grounds signal after := by
  unfold handleUnread at stopped
  split at stopped
  · next address =>
    rcases Step.bind_eq_error.mp stopped with impossible | ⟨object, middle, loaded, stopped⟩
    · cases impossible
    cases loaded
    dsimp only at stopped
    split at stopped
    · next kind arguments details found =>
      by_cases wrong : kind.isKindOf .type = true
      · rw [if_pos wrong] at stopped
        refine .inr (StopsBy.bind (stopsBy_show shown given) (fun text => ?_) before signal after
          leads stopped)
        exact (stopsBy_refuse rfl).bind_of_ok fun _ _ _ _ returned =>
          absurd returned (raiseDefinition_ne_ok _ _)
      · rw [if_neg wrong] at stopped
        cases stopped
        refine .inl ⟨rfl, rfl, ?_⟩
        rintro ⟨place, other, arguments, details, same, there, wrong⟩
        cases same
        rw [there] at found
        cases found
        contradiction
    · next other =>
      cases stopped
      refine .inl ⟨rfl, rfl, ?_⟩
      rintro ⟨place, kind, arguments, details, same, there, -⟩
      cases same
      exact other kind arguments details (by rw [there]; rfl)
  · next other =>
    cases stopped
    refine .inl ⟨rfl, rfl, ?_⟩
    rintro ⟨place, kind, arguments, details, same, -⟩
    cases same
    exact other place rfl

/-- What keeps the names of operations from being read is an error of a wrong type, which is
refused, or a ground. -/
theorem stopsBy_commandsOf (read : (name, .names) ∈ grounds.looks)
    (shown : (name, .shown) ∈ grounds.looks) (given : GivenFor self start bound name value) :
    (commandsOf self value).StopsBy start (Grounded self start bound grounds) := by
  rw [commandsOf_eq]
  have attempted : (attempt (namesOf self value)).StopsBy start (Grounded self start bound grounds) := by
    intro before signal after leads stopped
    rw [run_attempt] at stopped
    cases came : (namesOf self value).run before with
    | ok names last =>
      rw [came] at stopped
      cases stopped
    | error cause last =>
      rw [came] at stopped
      cases cause with
      | raised error => cases stopped
      | exhausted =>
        cases stopped
        refine .inr (.inr ⟨name, .names, value, before, read, given, leads, came, ?_⟩)
        rintro ⟨address, kind, arguments, details, impossible, -⟩
        cases impossible
  refine attempted.bind_after fun before outcome middle leads ended signal after stopped => ?_
  cases outcome with
  | ok names =>
    exact stopsBy_buildOr (refusedFor_commands names) middle signal after
      (leads.trans (leadsTo_of_ok ended)) stopped
  | error error =>
    -- The handler starts where the reading stopped, and raises the same error from there.
    rcases of_handleUnread shown given (leads.trans (leadsTo_of_ok ended)) stopped with
      ⟨rfl, rfl, other⟩ | refused
    · exact .inr (.inr ⟨name, .names, value, before, read, given, leads,
        attempt_eq_error.mp ended, other⟩)
    · exact refused

theorem stopsBy_governed {parts : List String} {table : Value} {command : Command}
    (shown : (name, .shown) ∈ grounds.looks) (given : GivenFor self start bound name table) :
    (governed parts table command).StopsBy start (Grounded self start bound grounds) :=
  (stopsBy_build (.create _)).bind fun _ => (stopsBy_identifierOf shown given).bind fun _ =>
    stopsBy_pure _

/-- A policy that has the table in its name is begun unless the table is refused. -/
theorem stopsBy_begun {parts : String → List String} {table : Value} {command : Command}
    {next : Definition → Step Value} (written : (name, .written) ∈ grounds.looks)
    (shown : (name, .shown) ∈ grounds.looks) (given : GivenFor self start bound name table)
    (rest : ∀ policy, (next policy).StopsBy start (Grounded self start bound grounds)) :
    (do next (← governed (parts (← table.plainText)) table command)).StopsBy start
      (Grounded self start bound grounds) :=
  (stopsBy_write written given).bind fun _ => (stopsBy_governed shown given).bind rest

/-- Making a policy for each command stops for what the commands are read for, or one policy. -/
theorem stopsBy_makeEach {operations : Value} {make : Command → Step Value}
    (read : (name, .names) ∈ grounds.looks) (shown : (name, .shown) ∈ grounds.looks)
    (given : GivenFor self start bound name operations)
    (each : ∀ command, (make command).StopsBy start (Grounded self start bound grounds)) :
    (makeEach self operations make).StopsBy start (Grounded self start bound grounds) :=
  (stopsBy_commandsOf read shown given).bind fun _ =>
    (StopsBy.mapM fun command _ => each command).bind fun _ => stopsBy_allocate _ _

theorem stopsBy_userOwned : (templatesMethod self .userOwned bound).StopsBy start
    (Grounded self start bound (groundsOf object .userOwned)) := by
  rw [templatesMethod_userOwned]
  refine stopsBy_makeEach (mem_looks (by decide)) (mem_looks (by decide)) .argument
    fun command => ?_
  refine stopsBy_begun (mem_looks (by decide)) (mem_looks (by decide)) .argument fun policy => ?_
  refine (stopsBy_columnOf (mem_looks (by decide)) .argument).bind fun column => ?_
  rw [column.isOwner_eq]
  exact stopsBy_newPolicy _

theorem stopsBy_tenantIsolation : (templatesMethod self .tenantIsolation bound).StopsBy start
    (Grounded self start bound (groundsOf object .tenantIsolation)) := by
  rw [templatesMethod_tenantIsolation]
  refine StopsBy.bind ?_ fun _ => stopsBy_allocate _ _
  refine stopsBy_begun (mem_looks (by decide)) (mem_looks (by decide)) .argument fun policy => ?_
  refine (stopsBy_columnOf (mem_looks (by decide)) .argument).bind fun column => ?_
  refine (stopsBy_setting (mem_looks (by decide)) .argument (stopsBy_pure _)
    (stopsBy_pure _)).bind fun tenant => ?_
  rw [column.equals_context tenant]
  exact stopsBy_newPolicy _

theorem stopsBy_publicAccess : (templatesMethod self .publicAccess bound).StopsBy start
    (Grounded self start bound (groundsOf object .publicAccess)) := by
  rw [templatesMethod_publicAccess]
  refine StopsBy.bind ?_ fun condition => ?_
  · unfold flagged
    split
    · exact stopsBy_pure _
    · refine (stopsBy_columnOf (mem_looks (by decide)) .argument).bind fun column => ?_
      rw [column.isPublic_eq]
      exact stopsBy_pure _
  · exact stopsBy_begun (mem_looks (by decide)) (mem_looks (by decide)) .argument fun policy =>
      stopsBy_newPolicy _

theorem stopsBy_roleAccess : (templatesMethod self .roleAccess bound).StopsBy start
    (Grounded self start bound (groundsOf object .roleAccess)) := by
  rw [templatesMethod_roleAccess]
  refine stopsBy_makeEach (mem_looks (by decide)) (mem_looks (by decide)) .argument
    fun command => ?_
  refine (stopsBy_write (mem_looks (by decide)) .argument).bind fun written => ?_
  refine (stopsBy_write (mem_looks (by decide)) .argument).bind fun role => ?_
  refine (stopsBy_governed (mem_looks (by decide)) .argument).bind fun policy => ?_
  exact (stopsBy_hasRole (mem_looks (by decide)) .argument).bind fun held => stopsBy_newPolicy _

theorem stopsBy_templatesMethod (method : PolicyMethod) :
    (templatesMethod self method bound).StopsBy start
      (Grounded self start bound (groundsOf object method)) := by
  cases method with
  | userOwned => exact stopsBy_userOwned
  | tenantIsolation => exact stopsBy_tenantIsolation
  | publicAccess => exact stopsBy_publicAccess
  | roleAccess => exact stopsBy_roleAccess
  | _ => exact stopsBy_pure _

/-! ## Calls -/

/-- A method of any object stops for its grounds only. -/
theorem stopsBy_run (object : PolicyObject) (method : PolicyMethod) :
    (run self object method bound).StopsBy start
      (Grounded self start bound (groundsOf object method)) := by
  cases object with
  | auth | session => exact stopsBy_contextMethod method
  | templates => exact stopsBy_templatesMethod method
  | contextValue value | foreignContext value => exact stopsBy_pure _
  | column c => exact stopsBy_columnMethod c method
  | condition c => exact stopsBy_conditionMethod c method
  | query q => exact stopsBy_queryMethod q method
  | definition policy => exact stopsBy_definitionMethod policy method
  | unwritten isQuery =>
    have stops : (raiseDefinition (.render .unwritten) : Step Value).StopsBy start
        (Grounded self start bound (groundsOf (.unwritten isQuery) method)) :=
      (stopsBy_raiseDefinition _).mono fun signal after raised => .inr (.inl ⟨.unwritten, rfl, raised⟩)
    exact stops

/-- A value is written just as it is taken as an operand. -/
theorem stopsBy_renderOperand (taken : (name, .operand) ∈ grounds.looks)
    (given : GivenFor self start bound name value) :
    (do return .text (← ofBuilt (rendered (← operandOf value).write)) : Step Value).StopsBy start
      (Grounded self start bound grounds) := by
  refine stopsBy_look_at taken given fun before signal after stopped => ?_
  refine Step.bind_eq_error.mpr ?_
  rcases Step.bind_eq_error.mp stopped with unread | ⟨operand, middle, read, stopped⟩
  · exact .inl unread
  · refine .inr ⟨operand, middle, read, ?_⟩
    rcases Step.bind_eq_error.mp stopped with stopped | ⟨text, last, -, impossible⟩
    · unfold Operand.checked
      cases written : operand.write with
      | ok text =>
        rw [written] at stopped
        cases stopped
      | error cause =>
        rw [written] at stopped
        exact raiseDefinition_eq_error _ stopped
    · cases impossible

theorem stopsBy_runFunction (function : PolicyFunction) :
    (runFunction function bound).StopsBy start
      (Grounded self start bound (groundsOfFunction function)) := by
  cases function with
  | createPolicy =>
    exact (stopsBy_labelOf (mem_looksOfFunction (by decide)) .argument).bind fun _ =>
      stopsBy_newPolicy _
  | column =>
    exact (stopsBy_columnOf (mem_looksOfFunction (by decide)) .argument).bind fun _ =>
      stopsBy_newPolicy _
  | currentUser | alwaysTrue => exact stopsBy_newPolicy _
  | fromTable =>
    exact (stopsBy_identifierOf (mem_looksOfFunction (by decide)) .argument).bind fun _ =>
      stopsBy_newPolicy _
  | hasRole =>
    exact (stopsBy_hasRole (mem_looksOfFunction (by decide)) .argument).bind fun _ =>
      stopsBy_newPolicy _
  | call =>
    refine (StopsBy.mapM fun value among => ?_).bind fun operands => ?_
    · exact stopsBy_take (mem_looksOfFunction (by decide)) (.gathered among)
    · exact (stopsBy_qualifiedOf (mem_looksOfFunction (by decide)) .argument).bind fun _ =>
        stopsBy_newPolicy _
  | sqlString =>
    unfold runFunction
    dsimp only
    split
    · exact stopsBy_pure _
    · exact (stopsBy_write (mem_looksOfFunction (by decide)) .argument).bind fun _ => stopsBy_pure _
  | sqlTruth =>
    unfold runFunction
    dsimp only
    split
    · exact stopsBy_pure _
    · exact stopsBy_isTrue.bind fun _ => stopsBy_pure _
  | renderValue =>
    refine stopsBy_foreignOf.bind fun found => ?_
    split
    · exact stopsBy_pure _
    · exact stopsBy_renderOperand (mem_looksOfFunction (by decide)) .argument
  | quoteIdentifier =>
    exact (stopsBy_identifierOf (mem_looksOfFunction (by decide)) .argument).bind fun _ =>
      stopsBy_pure _
  | quoteName =>
    exact (stopsBy_labelOf (mem_looksOfFunction (by decide)) .argument).bind fun _ => stopsBy_pure _
  | checkQualifiedName =>
    exact (stopsBy_write (mem_looksOfFunction (by decide)) .argument).bind fun _ =>
      (stopsBy_qualifiedOf (mem_looksOfFunction (by decide)) .argument).bind fun _ => stopsBy_pure _

/-! ## What calls stop for -/

/-- A call whose arguments fit stops for its grounds only. -/
theorem grounded_of_run {call : Call} {given : Arguments Value} {before after : Machine}
    {signal : Signal} (binds : (call.bind given).run before = .ok bound before)
    (stopped : (call.run self given).run before = .error signal after) :
    Grounded self before bound call.grounds signal after := by
  have rest : ∀ {next : List (String × Bound Value) → Step Value},
      (call.bind given >>= next).run before = .error signal after →
        (next bound).run before = .error signal after := by
    intro next stopped
    rcases Step.bind_eq_error.mp stopped with impossible | ⟨found, middle, fits, stopped⟩
    · cases binds.symm.trans impossible
    · cases binds.symm.trans fits
      exact stopped
  cases call with
  | ofFunction function =>
    exact stopsBy_runFunction function before signal after (.refl before) (rest stopped)
  | ofMethod receiver object method =>
    exact stopsBy_run object method before signal after (.refl before) (rest stopped)

/-- A call whose arguments fit stops for a malformed definition, for an expression of its own that
has no text, or because it looked into a value that it was given and the look failed, with an
error that is known for the way of the look. -/
theorem calls_stop_for_their_grounds {call : Call} {given : Arguments Value} {before after : Machine}
    {signal : Signal} (binds : (call.bind given).run before = .ok bound before)
    (stopped : (call.run self given).run before = .error signal after) :
    Malformed signal after ∨
      (∃ cause, call.grounds.unwritten cause ∧ RaisedFor (.render cause) signal after) ∨
      ∃ name look value middle, (name, look) ∈ call.grounds.looks ∧
        GivenFor self before bound name value ∧ before.LeadsTo middle ∧
        look.Fails self value middle signal after ∧ look.Faults signal after := by
  rcases grounded_of_run binds stopped with malformed | unwritten |
    ⟨name, look, value, middle, listed, given, leads, fails⟩
  · exact .inl malformed
  · exact .inr (.inl unwritten)
  · exact .inr (.inr ⟨name, look, value, middle, listed, given, leads, fails,
      look.faults_of_fails fails⟩)

/-- Nothing is no name of a column, and is shown in the refusal. -/
theorem column_of_nothing_is_refused :
    ∃ signal after, (Call.run programInterpreter (.ofFunction .column) { positional := [.none] }).run
      Machine.initial = .error signal after ∧ Malformed signal after := by
  obtain ⟨address, after, stopped, there⟩ : ∃ address after,
      (Call.run programInterpreter (.ofFunction .column) { positional := [.none] }).run
        Machine.initial = .error (.raised (.object address)) after ∧
      after.Holds address (.error .policyDefinition
        [.text "Identifier must be a non-empty string, got None"] []) := ⟨_, _, rfl, rfl⟩
  have binds : ((Call.ofFunction .column).bind { positional := [.none] }).run Machine.initial =
      .ok [("name", .one .none)] Machine.initial := rfl
  refine ⟨_, after, stopped, ?_⟩
  rcases calls_stop_for_their_grounds binds stopped with malformed | ⟨cause, impossible, -⟩ |
    ⟨name, look, value, middle, listed, given, leads, fails, faults⟩
  · exact malformed
  · cases impossible
  · cases List.mem_singleton.mp listed
    rcases faults with ⟨kind, shownFault, arguments, other, same, otherThere⟩
    cases same
    cases Option.some.inj (there.symm.trans otherThere)
    exact absurd shownFault (by decide)

/-- The call that asks the session for a setting. -/
def settingCall : Call :=
  .ofMethod (.object Machine.sessionAddress) .session .setting

/-- A state in which an empty list stands behind the objects that every run has. -/
def withList : Machine :=
  { Machine.initial with heap := Machine.initial.heap.push (.list #[]) }

/-- A key, and that list for the type. -/
def typedByList : Arguments Value where
  positional := [.text "app.x", .object Machine.initial.heap.size]

/-- A list given for the type of a setting is no malformed call but an error of a wrong type: the
type is looked up in a table of types, and a list cannot be. -/
theorem setting_of_list_is_no_malformed_call :
    (∃ bound, (settingCall.bind typedByList).run withList = .ok bound withList) ∧
    ∃ signal after, (settingCall.run programInterpreter typedByList).run withList =
        .error signal after ∧
      Raised .type [.text "unhashable type: 'list'"] signal after ∧ ¬Malformed signal after := by
  refine ⟨⟨_, rfl⟩, _, _, rfl, ⟨_, rfl, rfl⟩, ?_⟩
  rintro ⟨error, malformed, address, same, there⟩
  cases same
  rw [malformed] at there
  cases there

end PolicyCall

end Script
end PolicyStudio
