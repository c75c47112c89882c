import PolicyStudio.Proofs.Policy.QueryCalls

/-!
# Terms

A term is what a program writes down to get a condition: a call, whose object and arguments
are terms again.  Variables and loops are only ways to write the same term in pieces, so the
conditions that can be obtained are those that terms build, no more and no fewer.

A built condition does not show by which calls it came about.  The term does, and statements
about what was written, and in which order, are statements about terms.
-/

namespace PolicyStudio
namespace Policy

open Sql

/-! ## What is written -/

/-- A call that returns a condition and takes no expression of the language. -/
inductive PlainCall where
  | isNull (column : Column)
  | isNotNull (column : Column)
  | like (column : Column) (anyCase : Bool) (pattern : String)
  | isOwner (column : Column)
  | isPublic (column : Column)
  | belongsToTenant (column : Column) (key : String)
  | isMemberOf (column : Column) (table key member : String)
  | hasRole (role : String)
  | alwaysTrue

/-- What the call returns. -/
def PlainCall.build : PlainCall → Built Condition
  | .isNull column => .ok column.isNull
  | .isNotNull column => .ok column.isNotNull
  | .like column anyCase pattern =>
    column.compare (if anyCase then .likeAnyCase else .like) (.text pattern)
  | .isOwner column => column.isOwner
  | .isPublic column => column.isPublic
  | .belongsToTenant column key => column.belongsToTenant key
  | .isMemberOf column table key member => column.isMemberOf table key member
  | .hasRole role => Policy.hasRole role
  | .alwaysTrue => .ok Policy.alwaysTrue

/-- The comparator compares with any operand and not only with a pattern. -/
def Comparator.isGeneral : Comparator → Bool
  | .like | .likeAnyCase => false
  | _ => true

/-- Call the method for a comparator. -/
def Column.comparing (column : Column) : Comparator → Operand → Built Condition
  | .equal, operand => column.equals operand
  | .different, operand => column.differs operand
  | order, operand => column.compare order operand

/-- An operand that is no expression of the language. -/
def Operand.isConstant : Operand → Bool
  | .null | .truth _ | .integer _ | .number _ | .text _ | .date _ | .dateTime _ => true
  | _ => false

mutual

/-- A term for a condition. -/
inductive ConditionTerm where
  /-- A call of the method that connects, with one argument or more. -/
  | connect (connective : Connective) (object argument : ConditionTerm) (more : List ConditionTerm)
  | not (inner : ConditionTerm)
  | compare (column : Column) (comparator : Comparator) (general : comparator.isGeneral = true)
    (operand : OperandTerm)
  | isAmong (column : Column) (members : List OperandTerm)
  | isWithin (column : Column) (range : OperandTerm)
  | functionCall (name : String) (arguments : List OperandTerm)
  | plain (call : PlainCall)

/-- A term for an operand. -/
inductive OperandTerm where
  | constant (operand : Operand) (isConstant : operand.isConstant = true)
  | context (value : ContextValue) (given : value.Obtained)
  | column (column : Column)
  | condition (term : ConditionTerm)
  | query (term : QueryTerm)

/-- A term for a sub-query. -/
inductive QueryTerm where
  | fromTable (table : String)
  | select (object : QueryTerm) (columns : List String)
  | filter (object : QueryTerm) (condition : ConditionTerm)
  | join (object : QueryTerm) (kind : JoinKind) (other : Identifier) (condition : ConditionTerm)

end

mutual

/-- What the term returns.  The object is evaluated first, then the arguments, then the call. -/
def ConditionTerm.build : ConditionTerm → Built Condition
  | .connect connective object argument more => do
    let first ← object.build
    let second ← argument.build
    let rest ← buildConditions more
    return connective.call first (second :: rest)
  | .not inner => do
    let inner ← inner.build
    return inner.not
  | .compare column comparator _ operand => do
    let operand ← operand.build
    column.comparing comparator operand
  | .isAmong column members => do
    let members ← buildOperands members
    column.isAmong members
  | .isWithin column range => do
    let range ← range.build
    if range.isExpression then return column.isWithin range
    else throw (.membersExpected column.name.text)
  | .functionCall name arguments => do
    let arguments ← buildOperands arguments
    Policy.functionCall name arguments
  | .plain call => call.build

/-- What several terms return. -/
def buildConditions : List ConditionTerm → Built (List Condition)
  | [] => .ok []
  | term :: rest => do
    let condition ← term.build
    let conditions ← buildConditions rest
    return condition :: conditions

/-- What a term for an operand returns. -/
def OperandTerm.build : OperandTerm → Built Operand
  | .constant operand _ => .ok operand
  | .context value _ => .ok value.operand
  | .column column => .ok (.column column)
  | .condition term => do
    let condition ← term.build
    return .condition condition
  | .query term => do
    let query ← term.build
    return .query query

/-- What several terms for operands return. -/
def buildOperands : List OperandTerm → Built (List Operand)
  | [] => .ok []
  | term :: rest => do
    let operand ← term.build
    let operands ← buildOperands rest
    return operand :: operands

/-- What a term for a sub-query returns. -/
def QueryTerm.build : QueryTerm → Built Subquery
  | .fromTable table => Subquery.fromTable table
  | .select object columns => do
    let query ← object.build
    query.select columns
  | .filter object condition => do
    let query ← object.build
    let condition ← condition.build
    return query.filter condition
  | .join object kind other condition => do
    let query ← object.build
    let condition ← condition.build
    return query.joinTable kind other condition

end

-- The equations are made here, once for all lemmas that unfold them.
attribute [simp] ConditionTerm.build buildConditions OperandTerm.build buildOperands QueryTerm.build

/-- The term returns the condition. -/
def ConditionTerm.Builds (term : ConditionTerm) (condition : Condition) : Prop :=
  term.build = .ok condition

/-- The term returns the operand. -/
def OperandTerm.Builds (term : OperandTerm) (operand : Operand) : Prop :=
  term.build = .ok operand

/-- The term returns the query. -/
def QueryTerm.Builds (term : QueryTerm) (query : Subquery) : Prop :=
  term.build = .ok query

/-! ## What the calls are made on -/

theorem buildConditions_eq_ok {terms : List ConditionTerm} {conditions : List Condition} :
    buildConditions terms = .ok conditions ↔
      List.Forall₂ ConditionTerm.Builds terms conditions := by
  have inSteps : buildConditions terms = terms.mapM ConditionTerm.build := by
    induction terms with
    | nil => rw [buildConditions, List.mapM_nil]; rfl
    | cons term rest inductionHypothesis =>
      rw [buildConditions, List.mapM_cons, inductionHypothesis]
  rw [inSteps, Outcome.mapM_eq_ok]
  rfl

theorem buildOperands_eq_ok {terms : List OperandTerm} {operands : List Operand} :
    buildOperands terms = .ok operands ↔ List.Forall₂ OperandTerm.Builds terms operands := by
  have inSteps : buildOperands terms = terms.mapM OperandTerm.build := by
    induction terms with
    | nil => rw [buildOperands, List.mapM_nil]; rfl
    | cons term rest inductionHypothesis =>
      rw [buildOperands, List.mapM_cons, inductionHypothesis]
  rw [inSteps, Outcome.mapM_eq_ok]
  rfl

namespace ConditionTerm

variable {condition : Condition}

theorem builds_connect {connective : Connective} {object argument : ConditionTerm}
    {more : List ConditionTerm} : (connect connective object argument more).Builds condition ↔
      ∃ first second rest, object.Builds first ∧ argument.Builds second ∧
        List.Forall₂ Builds more rest ∧ condition = connective.call first (second :: rest) := by
  simp only [Builds, build, Outcome.bind_eq_ok, Outcome.pure_eq_ok, buildConditions_eq_ok,
    exists_and_left]

theorem builds_not {inner : ConditionTerm} :
    inner.not.Builds condition ↔ ∃ denied, inner.Builds denied ∧ condition = denied.not := by
  simp only [Builds, build, Outcome.bind_eq_ok, Outcome.pure_eq_ok]

theorem builds_compare {column : Column} {comparator : Comparator}
    {general : comparator.isGeneral = true} {operand : OperandTerm} :
    (compare column comparator general operand).Builds condition ↔
      ∃ value, operand.Builds value ∧ column.comparing comparator value = .ok condition := by
  simp only [Builds, OperandTerm.Builds, build, Outcome.bind_eq_ok]

theorem builds_isAmong {column : Column} {members : List OperandTerm} :
    (isAmong column members).Builds condition ↔
      ∃ values, List.Forall₂ OperandTerm.Builds members values ∧
        column.isAmong values = .ok condition := by
  simp only [Builds, build, Outcome.bind_eq_ok, buildOperands_eq_ok]

theorem builds_isWithin {column : Column} {range : OperandTerm} :
    (isWithin column range).Builds condition ↔
      ∃ value, range.Builds value ∧ value.isExpression = true ∧
        condition = column.isWithin value := by
  simp only [Builds, OperandTerm.Builds, build, Outcome.bind_eq_ok]
  refine exists_congr fun value => and_congr_right fun _ => ?_
  split_ifs with expression
  · rw [Outcome.pure_eq_ok, and_iff_right expression]
  · exact ⟨fun impossible => (nomatch impossible),
      fun impossible => absurd impossible.1 expression⟩

theorem builds_functionCall {name : String} {arguments : List OperandTerm} :
    (functionCall name arguments).Builds condition ↔
      ∃ values, List.Forall₂ OperandTerm.Builds arguments values ∧
        Policy.functionCall name values = .ok condition := by
  simp only [Builds, build, Outcome.bind_eq_ok, buildOperands_eq_ok]

theorem builds_plain {call : PlainCall} :
    (plain call).Builds condition ↔ call.build = .ok condition := by
  rw [Builds, build]

end ConditionTerm

theorem OperandTerm.builds_constant {value operand : Operand}
    {isConstant : value.isConstant = true} :
    (constant value isConstant).Builds operand ↔ operand = value := by
  rw [Builds, build, Except.ok.injEq, eq_comm]

theorem OperandTerm.builds_context {value : ContextValue} {given : value.Obtained}
    {operand : Operand} :
    (context value given).Builds operand ↔ operand = value.operand := by
  rw [Builds, build, Except.ok.injEq, eq_comm]

theorem OperandTerm.builds_column {value : Column} {operand : Operand} :
    (column value).Builds operand ↔ operand = .column value := by
  rw [Builds, build, Except.ok.injEq, eq_comm]

theorem OperandTerm.builds_condition {term : ConditionTerm} {operand : Operand} :
    (condition term).Builds operand ↔
      ∃ value, term.Builds value ∧ operand = .condition value := by
  simp only [Builds, ConditionTerm.Builds, build, Outcome.bind_eq_ok, Outcome.pure_eq_ok]

theorem OperandTerm.builds_query {term : QueryTerm} {operand : Operand} :
    (query term).Builds operand ↔ ∃ value, term.Builds value ∧ operand = .query value := by
  simp only [Builds, QueryTerm.Builds, build, Outcome.bind_eq_ok, Outcome.pure_eq_ok]

namespace QueryTerm

variable {query : Subquery}

theorem builds_fromTable {table : String} :
    (fromTable table).Builds query ↔ Subquery.fromTable table = .ok query := by
  rw [Builds, build]

theorem builds_select {object : QueryTerm} {columns : List String} :
    (select object columns).Builds query ↔
      ∃ before, object.Builds before ∧ before.select columns = .ok query := by
  simp only [Builds, build, Outcome.bind_eq_ok]

theorem builds_filter {object : QueryTerm} {condition : ConditionTerm} :
    (filter object condition).Builds query ↔ ∃ before value, object.Builds before ∧
      condition.Builds value ∧ query = before.filter value := by
  simp only [Builds, ConditionTerm.Builds, build, Outcome.bind_eq_ok, Outcome.pure_eq_ok,
    exists_and_left]

theorem builds_join {object : QueryTerm} {kind : JoinKind} {other : Identifier}
    {condition : ConditionTerm} :
    (join object kind other condition).Builds query ↔ ∃ before value, object.Builds before ∧
      condition.Builds value ∧ query = before.joinTable kind other value := by
  simp only [Builds, ConditionTerm.Builds, build, Outcome.bind_eq_ok, Outcome.pure_eq_ok,
    exists_and_left]

end QueryTerm

/-! ## Terms build what can be obtained -/

theorem Column.obtained_of_comparing {column : Column} {comparator : Comparator} {operand : Operand}
    {result : Condition} (general : comparator.isGeneral = true) (given : operand.Obtained)
    (accepted : column.comparing comparator operand = .ok result) : result.Obtained := by
  cases comparator with
  | equal => exact .equals given accepted
  | different => exact .differs given accepted
  | greater | atLeast | less | atMost => exact .ordered (by decide) given accepted
  | like | likeAnyCase => cases general

theorem PlainCall.obtained {call : PlainCall} {result : Condition}
    (built : call.build = .ok result) : result.Obtained := by
  cases call with
  | isNull column =>
    cases built
    exact .isNull column
  | isNotNull column =>
    cases built
    exact .isNotNull column
  | like column anyCase pattern =>
    cases anyCase with
    | false => exact .like List.mem_cons_self built
    | true => exact .like (List.mem_cons_of_mem _ List.mem_cons_self) built
  | isOwner => exact .isOwner built
  | isPublic => exact .isPublic built
  | belongsToTenant => exact .belongsToTenant built
  | isMemberOf => exact .isMemberOf built
  | hasRole => exact .hasRole built
  | alwaysTrue =>
    cases built
    exact .alwaysTrue

theorem Operand.obtained_of_isConstant {operand : Operand} (constant : operand.isConstant = true) :
    operand.Obtained := by
  cases operand with
  | null => exact .null
  | truth value => exact .truth value
  | integer value => exact .integer value
  | number value => exact .number value
  | text value => exact .text value
  | date value => exact .date value
  | dateTime value => exact .dateTime value
  | context | foreign | column | condition | query | unwritten => cases constant

mutual

/-- A condition that a term builds can be obtained. -/
theorem ConditionTerm.obtained : ∀ {term : ConditionTerm} {condition : Condition},
    term.Builds condition → condition.Obtained
  | .connect connective object argument more, condition, built => by
    rcases ConditionTerm.builds_connect.mp built with
      ⟨first, second, rest, firstBuilt, secondBuilt, restBuilt, rfl⟩
    refine connective.obtained_call (List.cons_ne_nil _ _) ?_
    rw [List.forall_mem_cons, List.forall_mem_cons]
    exact ⟨ConditionTerm.obtained firstBuilt, ConditionTerm.obtained secondBuilt,
      obtained_of_conditions restBuilt⟩
  | .not inner, condition, built => by
    rcases ConditionTerm.builds_not.mp built with ⟨denied, innerBuilt, rfl⟩
    exact .not (ConditionTerm.obtained innerBuilt)
  | .compare column comparator general operand, condition, built => by
    rcases ConditionTerm.builds_compare.mp built with ⟨value, operandBuilt, accepted⟩
    exact Column.obtained_of_comparing general (OperandTerm.obtained operandBuilt) accepted
  | .isAmong column members, condition, built => by
    rcases ConditionTerm.builds_isAmong.mp built with ⟨values, membersBuilt, accepted⟩
    exact .isAmong (obtained_of_operands membersBuilt) accepted
  | .isWithin column range, condition, built => by
    rcases ConditionTerm.builds_isWithin.mp built with ⟨value, rangeBuilt, expression, rfl⟩
    exact .isWithin expression (OperandTerm.obtained rangeBuilt)
  | .functionCall name arguments, condition, built => by
    rcases ConditionTerm.builds_functionCall.mp built with ⟨values, argumentsBuilt, accepted⟩
    exact .functionCall (obtained_of_operands argumentsBuilt) accepted
  | .plain call, condition, built => PlainCall.obtained (ConditionTerm.builds_plain.mp built)

theorem obtained_of_conditions : ∀ {terms : List ConditionTerm} {conditions : List Condition},
    List.Forall₂ ConditionTerm.Builds terms conditions →
      ∀ condition ∈ conditions, condition.Obtained
  | [], _, .nil => List.forall_mem_nil _
  | _ :: _, _, .cons built restBuilt =>
    List.forall_mem_cons.mpr ⟨ConditionTerm.obtained built, obtained_of_conditions restBuilt⟩

theorem OperandTerm.obtained : ∀ {term : OperandTerm} {operand : Operand},
    term.Builds operand → operand.Obtained
  | .constant value isConstant, operand, built => by
    rw [OperandTerm.builds_constant.mp built]
    exact Operand.obtained_of_isConstant isConstant
  | .context value given, operand, built => by
    rw [OperandTerm.builds_context.mp built]
    exact .context given
  | .column column, operand, built => by
    rw [OperandTerm.builds_column.mp built]
    exact .column column
  | .condition term, operand, built => by
    rcases OperandTerm.builds_condition.mp built with ⟨value, termBuilt, rfl⟩
    exact ConditionTerm.obtained termBuilt
  | .query term, operand, built => by
    rcases OperandTerm.builds_query.mp built with ⟨value, termBuilt, rfl⟩
    exact QueryTerm.obtained termBuilt

theorem obtained_of_operands : ∀ {terms : List OperandTerm} {operands : List Operand},
    List.Forall₂ OperandTerm.Builds terms operands → ∀ operand ∈ operands, operand.Obtained
  | [], _, .nil => List.forall_mem_nil _
  | _ :: _, _, .cons built restBuilt =>
    List.forall_mem_cons.mpr ⟨OperandTerm.obtained built, obtained_of_operands restBuilt⟩

theorem QueryTerm.obtained : ∀ {term : QueryTerm} {query : Subquery},
    term.Builds query → Operand.Obtained (.query query)
  | .fromTable table, query, built => .fromTable (QueryTerm.builds_fromTable.mp built)
  | .select object columns, query, built => by
    rcases QueryTerm.builds_select.mp built with ⟨before, objectBuilt, accepted⟩
    exact .select (QueryTerm.obtained objectBuilt) accepted
  | .filter object condition, query, built => by
    rcases QueryTerm.builds_filter.mp built with
      ⟨before, value, objectBuilt, conditionBuilt, rfl⟩
    exact .filter (QueryTerm.obtained objectBuilt) (ConditionTerm.obtained conditionBuilt)
  | .join object kind other condition, query, built => by
    rcases QueryTerm.builds_join.mp built with ⟨before, value, objectBuilt, conditionBuilt, rfl⟩
    exact .join kind other (QueryTerm.obtained objectBuilt) (ConditionTerm.obtained conditionBuilt)

end

/-! ## Everything that can be obtained is built by a term -/

/-- There is a term for the condition or the query that an operand is. -/
def Operand.InnerBuilt : Operand → Prop
  | .condition c => ∃ term : ConditionTerm, term.Builds c
  | .query q => ∃ term : QueryTerm, term.Builds q
  | _ => True

/-- Conditions and queries can only be built by terms for conditions and for queries. -/
theorem OperandTerm.innerBuilt {term : OperandTerm} {operand : Operand} (built : term.Builds operand) :
    operand.InnerBuilt := by
  cases term with
  | constant value isConstant =>
    cases builds_constant.mp built
    cases operand with
    | condition | query => cases isConstant
    | _ => trivial
  | context =>
    cases builds_context.mp built
    trivial
  | column =>
    cases builds_column.mp built
    trivial
  | condition term =>
    rcases builds_condition.mp built with ⟨value, termBuilt, rfl⟩
    exact ⟨term, termBuilt⟩
  | query term =>
    rcases builds_query.mp built with ⟨value, termBuilt, rfl⟩
    exact ⟨term, termBuilt⟩

theorem OperandTerm.exists_condition {condition : Condition}
    (written : ∃ term : OperandTerm, term.Builds (.condition condition)) :
    ∃ term : ConditionTerm, term.Builds condition := by
  rcases written with ⟨term, built⟩
  exact innerBuilt built

theorem OperandTerm.exists_query {query : Subquery}
    (written : ∃ term : OperandTerm, term.Builds (.query query)) :
    ∃ term : QueryTerm, term.Builds query := by
  rcases written with ⟨term, built⟩
  exact innerBuilt built

theorem exists_forall₂ {α β : Type} {relation : α → β → Prop} {bs : List β}
    (each : ∀ b ∈ bs, ∃ a, relation a b) : ∃ as, List.Forall₂ relation as bs := by
  induction bs with
  | nil => exact ⟨[], .nil⟩
  | cons b rest inductionHypothesis =>
    rw [List.forall_mem_cons] at each
    rcases each.1 with ⟨a, related⟩
    rcases inductionHypothesis each.2 with ⟨as, others⟩
    exact ⟨a :: as, .cons related others⟩

/-- Two or more conditions that terms build are connected by a term. -/
theorem Connective.exists_term_call (connective : Connective) {first : Condition}
    {others : List Condition} (nonempty : others ≠ [])
    (given : ∃ term : OperandTerm, term.Builds (.condition first))
    (more : ∀ other ∈ others, ∃ term : OperandTerm, term.Builds (.condition other)) :
    ∃ term : OperandTerm, term.Builds (.condition (connective.call first others)) := by
  rcases List.exists_cons_of_ne_nil nonempty with ⟨second, rest, rfl⟩
  rw [List.forall_mem_cons] at more
  rcases OperandTerm.exists_condition given with ⟨object, objectBuilt⟩
  rcases OperandTerm.exists_condition more.1 with ⟨argument, argumentBuilt⟩
  rcases exists_forall₂ fun other member => OperandTerm.exists_condition (more.2 other member)
    with ⟨arguments, argumentsBuilt⟩
  have built : (ConditionTerm.connect connective object argument arguments).Builds
      (connective.call first (second :: rest)) :=
    ConditionTerm.builds_connect.mpr
      ⟨first, second, rest, objectBuilt, argumentBuilt, argumentsBuilt, rfl⟩
  exact ⟨.condition _, OperandTerm.builds_condition.mpr ⟨_, built, rfl⟩⟩

theorem OperandTerm.exists_of_plain (call : PlainCall) {condition : Condition}
    (returned : call.build = .ok condition) :
    ∃ term : OperandTerm, term.Builds (.condition condition) :=
  ⟨.condition (.plain call),
    builds_condition.mpr ⟨condition, ConditionTerm.builds_plain.mpr returned, rfl⟩⟩

theorem OperandTerm.exists_of_comparing (column : Column) (comparator : Comparator)
    {operand : Operand} {result : Condition} (general : comparator.isGeneral = true)
    (given : ∃ term : OperandTerm, term.Builds operand)
    (accepted : column.comparing comparator operand = .ok result) :
    ∃ term : OperandTerm, term.Builds (.condition result) := by
  rcases given with ⟨term, built⟩
  exact ⟨.condition (.compare column comparator general term), builds_condition.mpr
    ⟨result, ConditionTerm.builds_compare.mpr ⟨operand, built, accepted⟩, rfl⟩⟩

theorem OperandTerm.exists_of_isConstant {operand : Operand}
    (isConstant : operand.isConstant = true) : ∃ term : OperandTerm, term.Builds operand :=
  ⟨.constant operand isConstant, builds_constant.mpr rfl⟩

/-- Each call of the language has its term. -/
theorem Operand.Obtained.exists_term {operand : Operand} (obtained : operand.Obtained) :
    ∃ term : OperandTerm, term.Builds operand := by
  induction obtained with
  | null | truth | integer | number | text | date | dateTime =>
    exact OperandTerm.exists_of_isConstant rfl
  | context given => exact ⟨.context _ given, OperandTerm.builds_context.mpr rfl⟩
  | column column => exact ⟨.column column, OperandTerm.builds_column.mpr rfl⟩
  | and nonempty _ _ first others => exact Connective.exists_term_call .all nonempty first others
  | or nonempty _ _ first others => exact Connective.exists_term_call .any nonempty first others
  | not _ inner =>
    rcases OperandTerm.exists_condition inner with ⟨term, built⟩
    exact ⟨.condition term.not, OperandTerm.builds_condition.mpr
      ⟨_, ConditionTerm.builds_not.mpr ⟨_, built, rfl⟩, rfl⟩⟩
  | @equals column _ _ _ accepted operand =>
    exact OperandTerm.exists_of_comparing column .equal rfl operand accepted
  | @differs column _ _ _ accepted operand =>
    exact OperandTerm.exists_of_comparing column .different rfl operand accepted
  | @ordered column comparator _ _ order _ accepted operand =>
    cases comparator with
    | greater => exact OperandTerm.exists_of_comparing column .greater rfl operand accepted
    | atLeast => exact OperandTerm.exists_of_comparing column .atLeast rfl operand accepted
    | less => exact OperandTerm.exists_of_comparing column .less rfl operand accepted
    | atMost => exact OperandTerm.exists_of_comparing column .atMost rfl operand accepted
    | equal | different | like | likeAnyCase => exact absurd order (by decide)
  | @like column comparator pattern _ matching accepted =>
    cases comparator with
    | like => exact OperandTerm.exists_of_plain (.like column false pattern) accepted
    | likeAnyCase => exact OperandTerm.exists_of_plain (.like column true pattern) accepted
    | equal | different | greater | atLeast | less | atMost => exact absurd matching (by decide)
  | isNull column => exact OperandTerm.exists_of_plain (.isNull column) rfl
  | isNotNull column => exact OperandTerm.exists_of_plain (.isNotNull column) rfl
  | @isAmong column _ _ _ accepted members =>
    rcases exists_forall₂ members with ⟨terms, built⟩
    exact ⟨.condition (.isAmong column terms), OperandTerm.builds_condition.mpr
      ⟨_, ConditionTerm.builds_isAmong.mpr ⟨_, built, accepted⟩, rfl⟩⟩
  | @isWithin column _ expression _ range =>
    rcases range with ⟨term, built⟩
    exact ⟨.condition (.isWithin column term), OperandTerm.builds_condition.mpr
      ⟨_, ConditionTerm.builds_isWithin.mpr ⟨_, built, expression, rfl⟩, rfl⟩⟩
  | @isOwner column _ accepted => exact OperandTerm.exists_of_plain (.isOwner column) accepted
  | @isPublic column _ accepted => exact OperandTerm.exists_of_plain (.isPublic column) accepted
  | @belongsToTenant column key _ accepted =>
    exact OperandTerm.exists_of_plain (.belongsToTenant column key) accepted
  | @isMemberOf column table key member _ accepted =>
    exact OperandTerm.exists_of_plain (.isMemberOf column table key member) accepted
  | @hasRole role _ accepted => exact OperandTerm.exists_of_plain (.hasRole role) accepted
  | alwaysTrue => exact OperandTerm.exists_of_plain (.alwaysTrue) rfl
  | @functionCall name _ _ _ accepted arguments =>
    rcases exists_forall₂ arguments with ⟨terms, built⟩
    exact ⟨.condition (.functionCall name terms), OperandTerm.builds_condition.mpr
      ⟨_, ConditionTerm.builds_functionCall.mpr ⟨_, built, accepted⟩, rfl⟩⟩
  | @fromTable table _ accepted =>
    exact ⟨.query (.fromTable table), OperandTerm.builds_query.mpr
      ⟨_, QueryTerm.builds_fromTable.mpr accepted, rfl⟩⟩
  | @select _ _ columns _ accepted query =>
    rcases OperandTerm.exists_query query with ⟨term, built⟩
    exact ⟨.query (.select term columns), OperandTerm.builds_query.mpr
      ⟨_, QueryTerm.builds_select.mpr ⟨_, built, accepted⟩, rfl⟩⟩
  | filter _ _ query condition =>
    rcases OperandTerm.exists_query query with ⟨object, objectBuilt⟩
    rcases OperandTerm.exists_condition condition with ⟨term, termBuilt⟩
    exact ⟨.query (.filter object term), OperandTerm.builds_query.mpr
      ⟨_, QueryTerm.builds_filter.mpr ⟨_, _, objectBuilt, termBuilt, rfl⟩, rfl⟩⟩
  | join kind other _ _ query condition =>
    rcases OperandTerm.exists_query query with ⟨object, objectBuilt⟩
    rcases OperandTerm.exists_condition condition with ⟨term, termBuilt⟩
    exact ⟨.query (.join object kind other term), OperandTerm.builds_query.mpr
      ⟨_, QueryTerm.builds_join.mpr ⟨_, _, objectBuilt, termBuilt, rfl⟩, rfl⟩⟩

/-- Terms build what can be obtained, and nothing else. -/
theorem Condition.obtained_iff_exists_term {condition : Condition} :
    condition.Obtained ↔ ∃ term : ConditionTerm, term.Builds condition := by
  constructor
  · intro obtained
    exact OperandTerm.exists_condition obtained.exists_term
  · rintro ⟨term, built⟩
    exact term.obtained built

end Policy
end PolicyStudio
