import PolicyStudio.Proofs.Policy.Sealing

/-!
# Operands that have been written

Operands of comparisons, members of lists and arguments of calls are written while a
condition is built, so whatever has no text is refused there.  Conditions and sub-queries
are never changed, only put together, and what was accepted once keeps its text.  A range
is the exception: it is taken as it is, and `Vetted` goes on into it.
-/

namespace PolicyStudio
namespace Policy

open Sql

/-! ## What was written while it was built -/

mutual

/-- All operands in a condition have a text, apart from ranges. -/
def Condition.Vetted : Condition → Prop
  | .junction _ parts => VettedParts parts
  | .negation inner => inner.Vetted
  | .comparison _ _ operand => ∃ text, operand.render = .ok text
  | .among _ members => ∃ texts, renderList members = .ok texts
  | .within _ range => range.Vetted
  | .functionCall _ arguments => ∃ texts, renderList arguments = .ok texts
  | .nullTest .. | .predicate _ => True
  | .unwritten => False

/-- All operands in the parts of a junction have a text. -/
def VettedParts : List Condition → Prop
  | [] => True
  | part :: rest => part.Vetted ∧ VettedParts rest

/-- The operand is an expression, and all operands in it have a text. -/
def Operand.Vetted : Operand → Prop
  | .context _ | .column _ => True
  | .condition condition => condition.Vetted
  | .query query => query.Vetted
  | _ => False

/-- All operands in the conditions of a query have a text. -/
def Subquery.Vetted : Subquery → Prop
  | .mk _ _ joins filter => VettedJoins joins ∧ VettedFilter filter

/-- All operands in the conditions of joins have a text. -/
def VettedJoins : List Join → Prop
  | [] => True
  | join :: rest => join.Vetted ∧ VettedJoins rest

/-- All operands in the condition of a join have a text. -/
def Join.Vetted : Join → Prop
  | .mk _ _ condition => condition.Vetted

/-- All operands in a filter have a text. -/
def VettedFilter : Option Condition → Prop
  | none => True
  | some condition => condition.Vetted

end

theorem vettedParts_iff {parts : List Condition} :
    VettedParts parts ↔ ∀ part ∈ parts, part.Vetted := by
  induction parts with
  | nil => exact ⟨fun _ _ impossible => (nomatch impossible), fun _ => trivial⟩
  | cons part rest inductionHypothesis =>
    rw [VettedParts, inductionHypothesis, List.forall_mem_cons]

theorem vettedJoins_append {first second : List Join} :
    VettedJoins (first ++ second) ↔ VettedJoins first ∧ VettedJoins second := by
  induction first with
  | nil => exact ⟨fun given => ⟨trivial, given⟩, And.right⟩
  | cons join rest inductionHypothesis =>
    rw [List.cons_append, VettedJoins, VettedJoins, inductionHypothesis, and_assoc]

/-! ## Every call checks its operands -/

theorem exists_renderOperands {operands : List Operand}
    (each : ∀ operand ∈ operands, ∃ text, operand.render = .ok text) :
    ∃ texts, renderOperands operands = .ok texts := by
  induction operands with
  | nil => exact ⟨[], renderOperands_nil_eq_ok.mpr rfl⟩
  | cons operand rest inductionHypothesis =>
    rcases each operand List.mem_cons_self with ⟨text, written⟩
    rcases inductionHypothesis fun other member => each other (List.mem_cons_of_mem _ member) with
      ⟨texts, restWritten⟩
    exact ⟨text :: texts, renderOperands_cons_eq_ok.mpr ⟨text, texts, written, restWritten, rfl⟩⟩

/-- What programs can give is no foreign value. -/
theorem firstForeign?_of_genuine {operands : List Operand} (genuine : GenuineOperands operands)
    (position : Nat) : firstForeign? position operands = none := by
  induction operands generalizing position with
  | nil => rfl
  | cons operand rest inductionHypothesis =>
    rw [GenuineOperands] at genuine
    cases operand with
    | foreign => exact genuine.1.elim
    | _ => exact inductionHypothesis genuine.2 (position + 1)

/-- An accepted list of operands has its texts. -/
theorem exists_renderList {operands : List Operand}
    (genuine : ∀ operand ∈ operands, operand.Genuine)
    (accepted : ∀ operand ∈ operands, ∃ text, operand.write = .ok text) :
    ∃ texts, renderList operands = .ok texts := by
  rcases exists_renderOperands fun operand listed =>
    Operand.exists_render_of_write (accepted operand listed) with ⟨texts, written⟩
  exact ⟨texts, renderList_eq_ok.mpr
    ⟨written, firstForeign?_of_genuine (genuineOperands_iff.mpr genuine) 0⟩⟩

namespace Column

variable {column : Column} {operand : Operand} {result : Condition}

theorem vetted_of_compare {comparator : Comparator}
    (accepted : column.compare comparator operand = .ok result) : result.Vetted := by
  rw [eq_of_compare accepted, Condition.Vetted]
  exact exists_of_compare accepted

theorem vetted_of_equals (accepted : column.equals operand = .ok result) : result.Vetted := by
  rcases equals_cases accepted with ⟨-, rfl⟩ | compared
  · trivial
  · exact vetted_of_compare compared

theorem vetted_of_differs (accepted : column.differs operand = .ok result) : result.Vetted := by
  rcases differs_cases accepted with ⟨-, rfl⟩ | compared
  · trivial
  · exact vetted_of_compare compared

theorem vetted_of_isAmong {members : List Operand} (genuine : ∀ member ∈ members, member.Genuine)
    (accepted : column.isAmong members = .ok result) : result.Vetted := by
  rcases isAmong_eq_ok.mp accepted with ⟨-, written, rfl⟩
  rw [Condition.Vetted]
  exact exists_renderList genuine written

theorem vetted_of_belongsToTenant {key : String} (accepted : column.belongsToTenant key = .ok result) :
    result.Vetted := by
  rcases belongsToTenant_eq_ok.mp accepted with ⟨value, -, rfl⟩
  rw [Condition.Vetted]
  exact ⟨_, value.render_operand⟩

theorem vetted_of_isMemberOf {table key member : String}
    (accepted : column.isMemberOf table key member = .ok result) : result.Vetted := by
  rcases isMemberOf_eq_ok.mp accepted with ⟨keyName, tableName, memberName, -, -, -, rfl⟩
  trivial

end Column

theorem vetted_of_hasRole {role : String} {result : Condition} (accepted : hasRole role = .ok result) :
    result.Vetted := by
  rcases hasRole_eq_ok.mp accepted with ⟨-, rfl⟩
  trivial

theorem vetted_of_functionCall {name : String} {arguments : List Operand} {result : Condition}
    (genuine : ∀ argument ∈ arguments, argument.Genuine)
    (accepted : functionCall name arguments = .ok result) : result.Vetted := by
  rcases functionCall_eq_ok.mp accepted with ⟨path, written, -, rfl⟩
  rw [Condition.Vetted]
  exact exists_renderList genuine written

/-! ## Later calls keep what was checked -/

/-- Connecting conditions looks into junctions and at nothing below them. -/
theorem Condition.vetted_connect (connective : Connective) {conditions : List Condition}
    (each : ∀ condition ∈ conditions, condition.Vetted) :
    (Condition.connect connective conditions).Vetted := by
  rw [connect, Condition.Vetted, vettedParts_iff]
  intro part member
  rcases List.mem_flatMap.mp member with ⟨condition, listed, brought⟩
  have vetted := each condition listed
  cases condition with
  | junction own parts =>
    rw [partsFor] at brought
    split_ifs at brought
    · rw [Condition.Vetted, vettedParts_iff] at vetted
      exact vetted part brought
    · exact List.mem_singleton.mp brought ▸ vetted
  | _ => exact List.mem_singleton.mp brought ▸ vetted

theorem Subquery.vetted_of_select {query result : Subquery} {columns : List String}
    (vetted : query.Vetted) (accepted : query.select columns = .ok result) : result.Vetted := by
  cases query with
  | mk table selected joins filter =>
    rcases select_eq_ok.mp accepted with ⟨-, checked, -, rfl⟩
    exact vetted

theorem Subquery.vetted_filter {query : Subquery} {condition : Condition} (vetted : query.Vetted)
    (more : condition.Vetted) : (query.filter condition).Vetted := by
  cases query with
  | mk table columns joins filter =>
    cases filter with
    | none => exact ⟨vetted.1, more⟩
    | some earlier =>
      refine ⟨vetted.1, Condition.vetted_connect .all ?_⟩
      exact List.forall_mem_cons.mpr ⟨vetted.2, List.forall_mem_singleton.mpr more⟩

theorem Subquery.vetted_joinTable {query : Subquery} {condition : Condition} (kind : JoinKind)
    (other : Identifier) (vetted : query.Vetted) (more : condition.Vetted) :
    (query.joinTable kind other condition).Vetted := by
  cases query with
  | mk table columns joins filter =>
    exact ⟨vettedJoins_append.mpr ⟨vetted.1, more, trivial⟩, vetted.2⟩

/-- Whatever is built, the operands in it have been checked and still have their texts. -/
theorem Operand.Obtained.vetted {operand : Operand} (obtained : operand.Obtained)
    (expression : operand.isExpression = true) : operand.Vetted := by
  -- Constants are excluded here: an integer may be too long to have a text, and is then refused
  -- wherever it is given.
  induction obtained with
  | null | truth | integer | number | text | date | dateTime => cases expression
  | context | column | isNull | isNotNull | alwaysTrue => trivial
  | and _ _ _ first others =>
    refine Condition.vetted_connect .all (List.forall_mem_cons.mpr ⟨first rfl, ?_⟩)
    exact fun other member => others other member rfl
  | or _ _ _ first others =>
    refine Condition.vetted_connect .any (List.forall_mem_cons.mpr ⟨first rfl, ?_⟩)
    exact fun other member => others other member rfl
  | not _ inner => exact inner rfl
  | equals _ accepted => exact Column.vetted_of_equals accepted
  | differs _ accepted => exact Column.vetted_of_differs accepted
  | ordered _ _ accepted => exact Column.vetted_of_compare accepted
  | like _ accepted => exact Column.vetted_of_compare accepted
  | isAmong given accepted =>
    exact Column.vetted_of_isAmong (fun member listed => (given member listed).genuine) accepted
  | isWithin within _ range => exact range within
  | isOwner accepted => exact Column.vetted_of_equals accepted
  | isPublic accepted => exact Column.vetted_of_equals accepted
  | belongsToTenant accepted => exact Column.vetted_of_belongsToTenant accepted
  | isMemberOf accepted => exact Column.vetted_of_isMemberOf accepted
  | hasRole accepted => exact vetted_of_hasRole accepted
  | functionCall given accepted =>
    exact vetted_of_functionCall (fun argument listed => (given argument listed).genuine) accepted
  | fromTable accepted =>
    rcases Subquery.fromTable_eq_ok.mp accepted with ⟨table, -, rfl⟩
    exact ⟨trivial, trivial⟩
  | select _ accepted query => exact Subquery.vetted_of_select (query rfl) accepted
  | filter _ _ query condition => exact Subquery.vetted_filter (query rfl) (condition rfl)
  | join kind other _ _ query condition =>
    exact Subquery.vetted_joinTable kind other (query rfl) (condition rfl)

end Policy
end PolicyStudio
