import PolicyStudio.Proofs.Policy.Building

/-!
# What programs can build

Programs know ten names of the policy language and call them, and the methods of
what they return, as often as they like.  The predicates of this module say which
values of the request, operands, conditions, sub-queries and policies can be had in
this way, with arbitrary texts as arguments.  A condition or a sub-query is an
operand, so one predicate covers all three.

`Genuine` describes the same expressions by their shape.  Texts that stand in a tree
as they are can only be those that the language itself writes, junctions have at
least two parts and none of their own kind below them, and nothing has no text.
-/

namespace PolicyStudio
namespace Policy

open Sql

/-! ## Closed under calls -/

/-- A value of the request that programs can get. -/
inductive ContextValue.Obtained : ContextValue → Prop
  | subject : Obtained .subject
  | subjectRole : Obtained .subjectRole
  | token : Obtained .token
  | claim {name : String} {value : ContextValue} (accepted : ContextValue.claim name = .ok value) :
    Obtained value
  | setting {key type : String} {value : ContextValue}
    (accepted : ContextValue.setting key type = .ok value) : Obtained value
  | currentUser : Obtained .currentUser

/-- An operand that is an expression of the language rather than a constant. -/
def Operand.isExpression : Operand → Bool
  | .context _ | .column _ | .condition _ | .query _ => true
  | _ => false

/-- An operand that programs can give: a constant, or an expression that calls return. -/
inductive Operand.Obtained : Operand → Prop
  | null : Obtained .null
  | truth (value : Bool) : Obtained (.truth value)
  | integer (value : Int) : Obtained (.integer value)
  | number (value : Float) : Obtained (.number value)
  | text (value : String) : Obtained (.text value)
  | date (value : Calendar.Date) : Obtained (.date value)
  | dateTime (value : Calendar.DateTime) : Obtained (.dateTime value)
  | context {value : ContextValue} (given : value.Obtained) : Obtained value.operand
  | column (column : Column) : Obtained (.column column)
  | and {first : Condition} {others : List Condition} (nonempty : others ≠ [])
    (given : Obtained (.condition first)) (more : ∀ other ∈ others, Obtained (.condition other)) :
    Obtained (.condition (first.and others))
  | or {first : Condition} {others : List Condition} (nonempty : others ≠ [])
    (given : Obtained (.condition first)) (more : ∀ other ∈ others, Obtained (.condition other)) :
    Obtained (.condition (first.or others))
  | not {inner : Condition} (given : Obtained (.condition inner)) : Obtained (.condition inner.not)
  | equals {column : Column} {operand : Operand} {result : Condition} (given : Obtained operand)
    (accepted : column.equals operand = .ok result) : Obtained (.condition result)
  | differs {column : Column} {operand : Operand} {result : Condition} (given : Obtained operand)
    (accepted : column.differs operand = .ok result) : Obtained (.condition result)
  | ordered {column : Column} {comparator : Comparator} {operand : Operand} {result : Condition}
    (order : comparator ∈ [Comparator.greater, .atLeast, .less, .atMost]) (given : Obtained operand)
    (accepted : column.compare comparator operand = .ok result) : Obtained (.condition result)
  | like {column : Column} {comparator : Comparator} {pattern : String} {result : Condition}
    (matching : comparator ∈ [Comparator.like, .likeAnyCase])
    (accepted : column.compare comparator (.text pattern) = .ok result) :
    Obtained (.condition result)
  | isNull (column : Column) : Obtained (.condition column.isNull)
  | isNotNull (column : Column) : Obtained (.condition column.isNotNull)
  | isAmong {column : Column} {members : List Operand} {result : Condition}
    (given : ∀ member ∈ members, Obtained member)
    (accepted : column.isAmong members = .ok result) : Obtained (.condition result)
  | isWithin {column : Column} {range : Operand} (expression : range.isExpression = true)
    (given : Obtained range) : Obtained (.condition (column.isWithin range))
  | isOwner {column : Column} {result : Condition} (accepted : column.isOwner = .ok result) :
    Obtained (.condition result)
  | isPublic {column : Column} {result : Condition} (accepted : column.isPublic = .ok result) :
    Obtained (.condition result)
  | belongsToTenant {column : Column} {key : String} {result : Condition}
    (accepted : column.belongsToTenant key = .ok result) : Obtained (.condition result)
  | isMemberOf {column : Column} {table key member : String} {result : Condition}
    (accepted : column.isMemberOf table key member = .ok result) : Obtained (.condition result)
  | hasRole {role : String} {result : Condition} (accepted : hasRole role = .ok result) :
    Obtained (.condition result)
  | alwaysTrue : Obtained (.condition alwaysTrue)
  | functionCall {name : String} {arguments : List Operand} {result : Condition}
    (given : ∀ argument ∈ arguments, Obtained argument)
    (accepted : functionCall name arguments = .ok result) : Obtained (.condition result)
  | fromTable {table : String} {query : Subquery} (accepted : Subquery.fromTable table = .ok query) :
    Obtained (.query query)
  | select {query result : Subquery} {columns : List String} (given : Obtained (.query query))
    (accepted : query.select columns = .ok result) : Obtained (.query result)
  | filter {query : Subquery} {condition : Condition} (given : Obtained (.query query))
    (more : Obtained (.condition condition)) : Obtained (.query (query.filter condition))
  | join {query : Subquery} {condition : Condition} (kind : JoinKind) (other : Identifier)
    (given : Obtained (.query query)) (more : Obtained (.condition condition)) :
    Obtained (.query (query.joinTable kind other condition))

/-- A condition that programs can build. -/
def Condition.Obtained (condition : Condition) : Prop :=
  Operand.Obtained (.condition condition)

/-- A policy that programs can build. -/
inductive Definition.Obtained : Definition → Prop
  | create {name : String} {policy : Definition} (accepted : Definition.create name = .ok policy) :
    Obtained policy
  | on {policy : Definition} (given : Obtained policy) (table : Identifier) : Obtained (policy.on table)
  | governing {policy : Definition} (given : Obtained policy) (command : Command) :
    Obtained (policy.governing command)
  | grant {policy result : Definition} {roles : List Identifier} (given : Obtained policy)
    (accepted : policy.grant roles = .ok result) : Obtained result
  | requireAll {policy : Definition} (given : Obtained policy) : Obtained policy.requireAll
  | permissive {policy : Definition} (given : Obtained policy) : Obtained policy.permissive
  | whenVisible {policy : Definition} {condition : Condition} (given : Obtained policy)
    (more : condition.Obtained) : Obtained (policy.whenVisible condition)
  | allow {policy : Definition} {condition : Condition} (given : Obtained policy)
    (more : condition.Obtained) : Obtained (policy.allow condition)
  | checkWritten {policy : Definition} {condition : Condition} (given : Obtained policy)
    (more : condition.Obtained) : Obtained (policy.checkWritten condition)
  | userOwned {table owner : String} {operations : List String} {policies : List Definition}
    {policy : Definition} (accepted : Templates.userOwned table operations owner = .ok policies)
    (member : policy ∈ policies) : Obtained policy
  | tenantIsolation {table column key : String} {policies : List Definition} {policy : Definition}
    (accepted : Templates.tenantIsolation table column key = .ok policies)
    (member : policy ∈ policies) : Obtained policy
  | publicAccess {table : String} {flag : Option String} {policy : Definition}
    (accepted : Templates.publicAccess table flag = .ok policy) : Obtained policy
  | roleAccess {table role : String} {operations : List String} {policies : List Definition}
    {policy : Definition} (accepted : Templates.roleAccess table role operations = .ok policies)
    (member : policy ∈ policies) : Obtained policy

/-! ## The shape of what is built -/

/-- The text of a predicate is one that the language writes itself. -/
def IsPredicate (sql : String) : Prop :=
  sql = "true" ∨ ∃ role, sql = "(auth.jwt() ->> 'role') = " ++ literal role

/-- The text of a value of the request is one that the language writes itself. -/
def IsContext (sql : String) : Prop :=
  ∃ value : ContextValue, value.Obtained ∧ value.sql = sql

/-- The text of the query behind a membership. -/
def IsMembership (sql : String) : Prop :=
  ∃ table key member : Identifier, (Column.membershipQuery table key member).sql = sql

mutual

/-- A condition of the shape that calls build. -/
def Condition.Genuine : Condition → Prop
  | .junction connective parts =>
    2 ≤ parts.length ∧ (∀ inner, .junction connective inner ∉ parts) ∧ GenuineParts parts
  | .negation inner => inner.Genuine
  | .comparison _ _ operand => operand.Genuine
  | .nullTest .. => True
  | .among _ members => GenuineOperands members
  | .within _ range => range.Genuine ∨ ∃ sql, range = .context sql ∧ IsMembership sql
  | .predicate sql => IsPredicate sql
  | .functionCall _ arguments => GenuineOperands arguments
  | .unwritten => False

/-- All parts are of the shape that calls build. -/
def GenuineParts : List Condition → Prop
  | [] => True
  | part :: rest => part.Genuine ∧ GenuineParts rest

/-- An operand of the shape that calls build. -/
def Operand.Genuine : Operand → Prop
  | .null | .truth _ | .integer _ | .number _ | .text _ | .date _ | .dateTime _ | .column _ => True
  | .context sql => IsContext sql
  | .condition condition => condition.Genuine
  | .query query => query.Genuine
  | .foreign .. | .unwritten _ => False

/-- All operands are of the shape that calls build. -/
def GenuineOperands : List Operand → Prop
  | [] => True
  | operand :: rest => operand.Genuine ∧ GenuineOperands rest

/-- A sub-query of the shape that calls build. -/
def Subquery.Genuine : Subquery → Prop
  | .mk _ _ joins filter => GenuineJoins joins ∧ GenuineFilter filter

/-- All joins are of the shape that calls build. -/
def GenuineJoins : List Join → Prop
  | [] => True
  | join :: rest => join.Genuine ∧ GenuineJoins rest

/-- A join of the shape that calls build. -/
def Join.Genuine : Join → Prop
  | .mk _ _ condition => condition.Genuine

/-- A filter of the shape that calls build. -/
def GenuineFilter : Option Condition → Prop
  | none => True
  | some condition => condition.Genuine

end

theorem genuineParts_iff {parts : List Condition} :
    GenuineParts parts ↔ ∀ part ∈ parts, part.Genuine := by
  induction parts with
  | nil => exact ⟨fun _ _ impossible => (nomatch impossible), fun _ => trivial⟩
  | cons part rest inductionHypothesis =>
    rw [GenuineParts, inductionHypothesis, List.forall_mem_cons]

theorem genuineOperands_iff {operands : List Operand} :
    GenuineOperands operands ↔ ∀ operand ∈ operands, operand.Genuine := by
  induction operands with
  | nil => exact ⟨fun _ _ impossible => (nomatch impossible), fun _ => trivial⟩
  | cons operand rest inductionHypothesis =>
    rw [GenuineOperands, inductionHypothesis, List.forall_mem_cons]

theorem genuineJoins_append {first second : List Join} :
    GenuineJoins (first ++ second) ↔ GenuineJoins first ∧ GenuineJoins second := by
  induction first with
  | nil => exact ⟨fun given => ⟨trivial, given⟩, And.right⟩
  | cons join rest inductionHypothesis =>
    rw [List.cons_append, GenuineJoins, GenuineJoins, inductionHypothesis, and_assoc]

/-! ## Calls keep the shape -/

theorem Column.genuine_of_compare {column : Column} {comparator : Comparator} {operand : Operand}
    {result : Condition} (genuine : operand.Genuine)
    (accepted : column.compare comparator operand = .ok result) : result.Genuine := by
  rw [Column.eq_of_compare accepted, Condition.Genuine]
  exact genuine

theorem Column.genuine_of_equals {column : Column} {operand : Operand} {result : Condition}
    (genuine : operand.Genuine) (accepted : column.equals operand = .ok result) : result.Genuine := by
  rcases Column.equals_cases accepted with ⟨-, rfl⟩ | compared
  · trivial
  · exact Column.genuine_of_compare genuine compared

theorem Column.genuine_of_differs {column : Column} {operand : Operand} {result : Condition}
    (genuine : operand.Genuine) (accepted : column.differs operand = .ok result) : result.Genuine := by
  rcases Column.differs_cases accepted with ⟨-, rfl⟩ | compared
  · trivial
  · exact Column.genuine_of_compare genuine compared

/-- The parts that a genuine condition brings into a junction are genuine, there is at
least one, and none of them is a junction of the same kind. -/
theorem Condition.genuine_partsFor {condition : Condition} (genuine : condition.Genuine)
    (connective : Connective) :
    1 ≤ (condition.partsFor connective).length ∧
      (∀ part ∈ condition.partsFor connective, part.Genuine) ∧
      ∀ inner, .junction connective inner ∉ condition.partsFor connective := by
  cases condition with
  | junction own parts =>
    have brought : (Condition.junction own parts).partsFor connective =
        if own = connective then parts else [.junction own parts] := rfl
    rw [brought]
    split_ifs with same
    · subst same
      rw [Condition.Genuine] at genuine
      exact ⟨Nat.le_of_succ_le genuine.1, genuineParts_iff.mp genuine.2.2, genuine.2.1⟩
    · refine ⟨Nat.le_refl 1, fun part member => ?_, fun inner member => ?_⟩
      · exact List.mem_singleton.mp member ▸ genuine
      · cases List.mem_singleton.mp member
        exact same rfl
  | _ =>
    refine ⟨Nat.le_refl 1, fun part member => ?_, fun inner member => ?_⟩
    · exact List.mem_singleton.mp member ▸ genuine
    · cases List.mem_singleton.mp member

/-- Connecting genuine conditions, at least two, yields a genuine one. -/
theorem Condition.genuine_connect (connective : Connective) {first : Condition}
    {others : List Condition} (nonempty : others ≠ []) (genuine : first.Genuine)
    (more : ∀ other ∈ others, other.Genuine) :
    (Condition.connect connective (first :: others)).Genuine := by
  have all : ∀ condition ∈ first :: others, condition.Genuine := by
    intro condition member
    rcases List.mem_cons.mp member with equal | member
    · exact equal ▸ genuine
    · exact more condition member
  rw [connect, Condition.Genuine]
  refine ⟨?_, ?_, genuineParts_iff.mpr ?_⟩
  · cases others with
    | nil => exact absurd rfl nonempty
    | cons second rest =>
      have firstCount := (Condition.genuine_partsFor genuine connective).1
      have secondCount := (Condition.genuine_partsFor (more second List.mem_cons_self) connective).1
      simp only [List.flatMap_cons, List.length_append]
      omega
  · intro inner member
    rcases List.mem_flatMap.mp member with ⟨condition, listed, inside⟩
    exact (Condition.genuine_partsFor (all condition listed) connective).2.2 inner inside
  · intro part member
    rcases List.mem_flatMap.mp member with ⟨condition, listed, inside⟩
    exact (Condition.genuine_partsFor (all condition listed) connective).2.1 part inside

theorem Subquery.genuine_of_select {query result : Subquery} {columns : List String}
    (genuine : query.Genuine) (accepted : query.select columns = .ok result) : result.Genuine := by
  cases query with
  | mk table selected joins filter =>
    rcases select_eq_ok.mp accepted with ⟨-, checked, -, rfl⟩
    exact genuine

theorem Subquery.genuine_filter {query : Subquery} {condition : Condition} (genuine : query.Genuine)
    (more : condition.Genuine) : (query.filter condition).Genuine := by
  cases query with
  | mk table columns joins filter =>
    cases filter with
    | none => exact ⟨genuine.1, more⟩
    | some earlier =>
      refine ⟨genuine.1, ?_⟩
      refine Condition.genuine_connect .all (List.cons_ne_nil _ _) genuine.2 ?_
      exact fun other member => List.mem_singleton.mp member ▸ more

theorem Subquery.genuine_joinTable {query : Subquery} {condition : Condition} (kind : JoinKind)
    (other : Identifier) (genuine : query.Genuine) (more : condition.Genuine) :
    (query.joinTable kind other condition).Genuine := by
  cases query with
  | mk table columns joins filter =>
    exact ⟨genuineJoins_append.mpr ⟨genuine.1, more, trivial⟩, genuine.2⟩

/-! ## Everything that is obtained is genuine -/

theorem ContextValue.genuine_operand {value : ContextValue} (given : value.Obtained) :
    value.operand.Genuine := by
  rw [operand, Operand.Genuine]
  exact ⟨value, given, rfl⟩

theorem Column.genuine_of_isAmong {column : Column} {members : List Operand} {result : Condition}
    (genuine : ∀ member ∈ members, member.Genuine)
    (accepted : column.isAmong members = .ok result) : result.Genuine := by
  rcases isAmong_eq_ok.mp accepted with ⟨-, -, rfl⟩
  rw [Condition.Genuine]
  exact genuineOperands_iff.mpr genuine

theorem Column.genuine_of_belongsToTenant {column : Column} {key : String} {result : Condition}
    (accepted : column.belongsToTenant key = .ok result) : result.Genuine := by
  rcases belongsToTenant_eq_ok.mp accepted with ⟨value, found, rfl⟩
  rw [Condition.Genuine]
  exact ContextValue.genuine_operand (.setting found)

theorem Column.genuine_of_isMemberOf {column : Column} {table key member : String}
    {result : Condition} (accepted : column.isMemberOf table key member = .ok result) :
    result.Genuine := by
  rcases isMemberOf_eq_ok.mp accepted with ⟨keyName, tableName, memberName, -, -, -, rfl⟩
  exact Or.inr ⟨_, rfl, tableName, keyName, memberName, rfl⟩

theorem genuine_of_hasRole {role : String} {result : Condition}
    (accepted : hasRole role = .ok result) : result.Genuine := by
  rcases hasRole_eq_ok.mp accepted with ⟨-, rfl⟩
  exact Or.inr ⟨role, rfl⟩

theorem genuine_of_functionCall {name : String} {arguments : List Operand} {result : Condition}
    (genuine : ∀ argument ∈ arguments, argument.Genuine)
    (accepted : functionCall name arguments = .ok result) : result.Genuine := by
  rcases functionCall_eq_ok.mp accepted with ⟨path, -, -, rfl⟩
  rw [Condition.Genuine]
  exact genuineOperands_iff.mpr genuine

/-- The shape is kept by every call, so nothing else can be had. -/
theorem Operand.Obtained.genuine {operand : Operand} (obtained : operand.Obtained) :
    operand.Genuine := by
  induction obtained with
  | null | truth | integer | number | text | date | dateTime | column => trivial
  | isNull | isNotNull => trivial
  | context given => exact ContextValue.genuine_operand given
  | and nonempty _ _ first others => exact Condition.genuine_connect .all nonempty first others
  | or nonempty _ _ first others => exact Condition.genuine_connect .any nonempty first others
  | not _ inner => exact inner
  | equals _ accepted genuine => exact Column.genuine_of_equals genuine accepted
  | differs _ accepted genuine => exact Column.genuine_of_differs genuine accepted
  | ordered _ _ accepted genuine => exact Column.genuine_of_compare genuine accepted
  | like _ accepted =>
    refine Column.genuine_of_compare ?_ accepted
    trivial
  | isAmong _ accepted genuine => exact Column.genuine_of_isAmong genuine accepted
  | isWithin _ _ genuine => exact Or.inl genuine
  | isOwner accepted =>
    exact Column.genuine_of_equals (ContextValue.genuine_operand .subject) accepted
  | isPublic accepted =>
    refine Column.genuine_of_equals ?_ accepted
    trivial
  | belongsToTenant accepted => exact Column.genuine_of_belongsToTenant accepted
  | isMemberOf accepted => exact Column.genuine_of_isMemberOf accepted
  | hasRole accepted => exact genuine_of_hasRole accepted
  | alwaysTrue => exact Or.inl rfl
  | functionCall _ accepted genuine => exact genuine_of_functionCall genuine accepted
  | fromTable accepted =>
    rcases Subquery.fromTable_eq_ok.mp accepted with ⟨table, -, rfl⟩
    exact ⟨trivial, trivial⟩
  | select _ accepted genuine => exact Subquery.genuine_of_select genuine accepted
  | filter _ _ genuine more => exact Subquery.genuine_filter genuine more
  | join kind other _ _ genuine more => exact Subquery.genuine_joinTable kind other genuine more

/-! ## The conditions of a policy -/

namespace Definition

/-- The condition was given to the policy for one of its three purposes. -/
def Holds (policy : Definition) (condition : Condition) : Prop :=
  policy.visible = some condition ∨ policy.allowed = some condition ∨
    policy.written = some condition

theorem not_holds_of_governed {name table : String} {command : Command} {policy : Definition}
    (accepted : Templates.governed name table command = .ok policy) (condition : Condition) :
    ¬policy.Holds condition := by
  rcases Templates.governed_eq_ok.mp accepted with ⟨label, checked, -, -, rfl⟩
  rintro (impossible | impossible | impossible) <;> cases impossible

/-- A ready-made policy that is given one condition holds no other. -/
theorem obtained_of_governed {name table : String} {command : Command} {policy : Definition}
    (accepted : Templates.governed name table command = .ok policy) {given condition : Condition}
    (obtained : given.Obtained)
    (holds : (policy.allow given).Holds condition ∨ (policy.whenVisible given).Holds condition ∨
      (policy.requireAll.allow given).Holds condition) : condition.Obtained := by
  have fresh := not_holds_of_governed accepted condition
  rcases holds with (held | held | held) | (held | held | held) | (held | held | held)
  · exact absurd (Or.inl held) fresh
  · exact Option.some.inj held ▸ obtained
  · exact absurd (Or.inr (Or.inr held)) fresh
  · exact Option.some.inj held ▸ obtained
  · exact absurd (Or.inr (Or.inl held)) fresh
  · exact absurd (Or.inr (Or.inr held)) fresh
  · exact absurd (Or.inl held) fresh
  · exact Option.some.inj held ▸ obtained
  · exact absurd (Or.inr (Or.inr held)) fresh

/-- Every condition of a policy was obtained before it was given. -/
theorem Obtained.obtained_of_holds {policy : Definition} (obtained : policy.Obtained)
    {condition : Condition} (holds : policy.Holds condition) : condition.Obtained := by
  induction obtained with
  | create accepted =>
    rcases create_eq_ok.mp accepted with ⟨label, -, rfl⟩
    rcases holds with impossible | impossible | impossible <;> cases impossible
  | on _ _ inductionHypothesis => exact inductionHypothesis holds
  | governing _ _ inductionHypothesis => exact inductionHypothesis holds
  | grant _ accepted inductionHypothesis =>
    rcases grant_eq_ok.mp accepted with ⟨-, rfl⟩
    exact inductionHypothesis holds
  | requireAll _ inductionHypothesis => exact inductionHypothesis holds
  | permissive _ inductionHypothesis => exact inductionHypothesis holds
  | whenVisible _ more inductionHypothesis =>
    rcases holds with held | held | held
    · exact Option.some.inj held ▸ more
    · exact inductionHypothesis (Or.inr (Or.inl held))
    · exact inductionHypothesis (Or.inr (Or.inr held))
  | allow _ more inductionHypothesis =>
    rcases holds with held | held | held
    · exact inductionHypothesis (Or.inl held)
    · exact Option.some.inj held ▸ more
    · exact inductionHypothesis (Or.inr (Or.inr held))
  | checkWritten _ more inductionHypothesis =>
    rcases holds with held | held | held
    · exact inductionHypothesis (Or.inl held)
    · exact inductionHypothesis (Or.inr (Or.inl held))
    · exact Option.some.inj held ▸ more
  | userOwned accepted member =>
    rcases Templates.exists_owned accepted member with ⟨command, owned⟩
    rcases Templates.owned_eq_ok.mp owned with ⟨start, column, given, governed, -, owner, rfl⟩
    exact obtained_of_governed governed (.isOwner owner) (Or.inl holds)
  | tenantIsolation accepted member =>
    rcases Templates.tenantIsolation_eq_ok.mp accepted with
      ⟨start, column, given, governed, -, tenant, rfl⟩
    rw [List.mem_singleton.mp member] at holds
    exact obtained_of_governed governed (.belongsToTenant tenant) (Or.inr (Or.inr holds))
  | publicAccess accepted =>
    rcases Templates.publicAccess_eq_ok.mp accepted with ⟨start, given, governed, flagged, rfl⟩
    rcases flagged with ⟨-, rfl⟩ | ⟨name, column, -, -, isPublic⟩
    · exact obtained_of_governed governed .alwaysTrue (Or.inr (Or.inl holds))
    · exact obtained_of_governed governed (.isPublic isPublic) (Or.inr (Or.inl holds))
  | roleAccess accepted member =>
    rcases Templates.exists_granted accepted member with ⟨command, granted⟩
    rcases Templates.granted_eq_ok.mp granted with ⟨start, given, governed, role, rfl⟩
    exact obtained_of_governed governed (.hasRole role) (Or.inl holds)

end Definition

end Policy
end PolicyStudio
