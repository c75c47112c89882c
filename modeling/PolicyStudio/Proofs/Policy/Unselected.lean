import PolicyStudio.Proofs.Policy.Vetted
import PolicyStudio.Script.Machine

/-!
# Queries that select nothing

A sub-query can be built and handed on before anything is selected, and only its text
cannot be written.  `Condition.unselected` lists the tables of such queries in the order
in which a condition is written, and a condition has a text exactly if the list is empty.
Otherwise the first table of the list is the one that is complained about.

This rests on what is checked while conditions are built.  An operand that was accepted
has a text, so no unselected query is in it, and those of a condition are met on the way
through its ranges alone.
-/

namespace PolicyStudio
namespace Policy

open Sql

/-! ## The tables of unselected queries -/

mutual

/-- The tables of the queries without columns that are met when a condition is written, from
left to right.  Operands that were written already are searched only if it is asked for. -/
def Condition.unselected (everywhere : Bool) : Condition → List Identifier
  | .junction _ parts => unselectedOfParts everywhere parts
  | .negation inner => inner.unselected everywhere
  | .comparison _ _ operand => if everywhere then operand.unselected everywhere else []
  | .among _ members => if everywhere then unselectedOfOperands everywhere members else []
  | .within _ range => range.unselected everywhere
  | .functionCall _ arguments => if everywhere then unselectedOfOperands everywhere arguments else []
  | .nullTest .. | .predicate _ | .unwritten => []

/-- The tables met in the parts of a junction. -/
def unselectedOfParts (everywhere : Bool) : List Condition → List Identifier
  | [] => []
  | part :: rest => part.unselected everywhere ++ unselectedOfParts everywhere rest

/-- The tables met in an operand. -/
def Operand.unselected (everywhere : Bool) : Operand → List Identifier
  | .condition condition => condition.unselected everywhere
  | .query query => query.unselected everywhere
  | _ => []

/-- The tables met in several operands. -/
def unselectedOfOperands (everywhere : Bool) : List Operand → List Identifier
  | [] => []
  | operand :: rest => operand.unselected everywhere ++ unselectedOfOperands everywhere rest

/-- The tables met in a query: first its own one. -/
def Subquery.unselected (everywhere : Bool) : Subquery → List Identifier
  | .mk table columns joins filter =>
    (if columns.isEmpty then [table] else []) ++
      (unselectedOfJoins everywhere joins ++ unselectedOfFilter everywhere filter)

/-- The tables met in the conditions of joins. -/
def unselectedOfJoins (everywhere : Bool) : List Join → List Identifier
  | [] => []
  | join :: rest => join.unselected everywhere ++ unselectedOfJoins everywhere rest

/-- The tables met in the condition of a join. -/
def Join.unselected (everywhere : Bool) : Join → List Identifier
  | .mk _ _ condition => condition.unselected everywhere

/-- The tables met in a filter. -/
def unselectedOfFilter (everywhere : Bool) : Option Condition → List Identifier
  | none => []
  | some condition => condition.unselected everywhere

end

/-! ## The first unselected query decides -/

/-- Something is written unless there are unselected queries, and otherwise the first of
them is complained about. -/
inductive StopsAtFirst {α : Type} : List Identifier → Except RenderError α → Prop
  | written (result : α) : StopsAtFirst [] (.ok result)
  | stopped (table : Identifier) (others : List Identifier) :
    StopsAtFirst (table :: others) (.error (.selectMissing table.text))

namespace StopsAtFirst

variable {α β : Type} {tables others : List Identifier} {x : Except RenderError α}
  {f : α → Except RenderError β}

/-- What is written later is only looked at if nothing is missing earlier. -/
theorem bind (first : StopsAtFirst tables x) (second : ∀ a, StopsAtFirst others (f a)) :
    StopsAtFirst (tables ++ others) (x >>= f) := by
  cases first with
  | written result => exact second result
  | stopped table rest => exact .stopped table (rest ++ others)

/-- Something is made of what is written. -/
theorem map (first : StopsAtFirst tables x) (make : α → β) :
    StopsAtFirst tables (x >>= fun a => pure (make a)) := by
  have made := first.bind fun a => .written (make a)
  rwa [List.append_nil] at made

theorem of_exists (written : ∃ a, x = .ok a) : StopsAtFirst [] x := by
  rcases written with ⟨a, rfl⟩
  exact .written a

theorem exists_eq_ok_iff (stops : StopsAtFirst tables x) : (∃ a, x = .ok a) ↔ tables = [] := by
  cases stops with
  | written result => exact ⟨fun _ => rfl, fun _ => ⟨result, rfl⟩⟩
  | stopped table rest => exact ⟨fun ⟨_, impossible⟩ => (nomatch impossible), fun impossible => (nomatch impossible)⟩

theorem eq_error_iff (stops : StopsAtFirst tables x) {error : RenderError} :
    x = .error error ↔ ∃ table, tables.head? = some table ∧ error = .selectMissing table.text := by
  cases stops with
  | written result =>
    exact ⟨fun impossible => (nomatch impossible), fun ⟨_, impossible, _⟩ => (nomatch impossible)⟩
  | stopped table rest =>
    constructor
    · intro equal
      exact ⟨table, rfl, (Except.error.inj equal).symm⟩
    · rintro ⟨_, first, equal⟩
      rw [equal, Option.some.inj first]

end StopsAtFirst

/-- The text of a range is the text between the parentheses. -/
theorem Condition.stopsAtFirst_within (column : Column) {range : Operand}
    (stops : StopsAtFirst (range.unselected false) range.render)
    (direct : ∀ query, range = .query query → StopsAtFirst (query.unselected false) query.render) :
    StopsAtFirst (range.unselected false) (Condition.within column range).render := by
  -- A query is written between the parentheses of the range and not between its own.
  by_cases isQuery : ∃ query, range = .query query
  · rcases isQuery with ⟨query, rfl⟩
    rw [Condition.render, Operand.unselected]
    exact (direct query rfl).map _
  · rw [Condition.render]
    · exact stops.map _
    · exact fun query equal => isQuery ⟨query, equal⟩

mutual

/-- A condition has a text unless there is an unselected query, the first of which is named. -/
theorem Condition.stopsAtFirst : ∀ {condition : Condition}, condition.Vetted →
    StopsAtFirst (condition.unselected false) condition.render
  | .junction connective parts, vetted => by
    rw [Condition.Vetted] at vetted
    rw [Condition.render, Condition.unselected]
    exact (stopsAtFirst_renderParts vetted).map _
  | .negation inner, vetted => by
    rw [Condition.Vetted] at vetted
    rw [Condition.render, Condition.unselected]
    exact (Condition.stopsAtFirst vetted).map _
  | .comparison column comparator operand, vetted => by
    rw [Condition.Vetted] at vetted
    rw [Condition.render, Condition.unselected, if_neg Bool.false_ne_true]
    exact (StopsAtFirst.of_exists vetted).map _
  | .nullTest column negated, _ => by
    rw [Condition.render, Condition.unselected]
    exact .written _
  | .among column members, vetted => by
    rw [Condition.Vetted] at vetted
    rw [Condition.render, Condition.unselected, if_neg Bool.false_ne_true]
    exact (StopsAtFirst.of_exists vetted).map _
  | .within column range, vetted => by
    rw [Condition.Vetted] at vetted
    rw [Condition.unselected]
    exact Condition.stopsAtFirst_within column (Operand.stopsAtFirst vetted)
      fun query isQuery => Operand.stopsAtFirst_query vetted isQuery
  | .predicate sql, _ => by
    rw [Condition.render, Condition.unselected]
    exact .written _
  | .functionCall name arguments, vetted => by
    rw [Condition.Vetted] at vetted
    rw [Condition.render, Condition.unselected, if_neg Bool.false_ne_true]
    exact (StopsAtFirst.of_exists vetted).map _
  | .unwritten, vetted => vetted.elim

theorem stopsAtFirst_renderParts : ∀ {parts : List Condition}, VettedParts parts →
    StopsAtFirst (unselectedOfParts false parts) (renderParts parts)
  | [], _ => by
    rw [renderParts, unselectedOfParts]
    exact .written _
  | part :: rest, vetted => by
    rw [VettedParts] at vetted
    rw [renderParts, unselectedOfParts]
    exact (Condition.stopsAtFirst vetted.1).bind fun _ => (stopsAtFirst_renderParts vetted.2).map _

theorem Operand.stopsAtFirst {operand : Operand} (vetted : operand.Vetted) :
    StopsAtFirst (operand.unselected false) operand.render := by
  cases operand with
  | condition condition =>
    unfold Operand.render
    exact Condition.stopsAtFirst vetted
  | query query =>
    unfold Operand.render
    exact (Subquery.stopsAtFirst vetted).map _
  | context | column =>
    unfold Operand.render
    exact .written _
  | _ => exact vetted.elim

/-- A query that is a range is written without its own parentheses. -/
theorem Operand.stopsAtFirst_query {operand : Operand} {query : Subquery} (vetted : operand.Vetted)
    (isQuery : operand = .query query) : StopsAtFirst (query.unselected false) query.render := by
  cases operand with
  | query inner =>
    cases isQuery
    exact Subquery.stopsAtFirst vetted
  | _ => cases isQuery

/-- A query complains about itself before it comes to its joins and its filter. -/
theorem Subquery.stopsAtFirst : ∀ {query : Subquery}, query.Vetted →
    StopsAtFirst (query.unselected false) query.render
  | .mk table columns joins filter, vetted => by
    rw [Subquery.Vetted] at vetted
    rw [Subquery.render, Subquery.unselected]
    split_ifs
    -- Whatever is unselected in its clauses comes later in the list.
    · exact .stopped table _
    · have joinsStop := stopsAtFirst_renderJoins vetted.1
      exact joinsStop.bind fun _ => (stopsAtFirst_renderFilter vetted.2).map _

theorem stopsAtFirst_renderJoins : ∀ {joins : List Join}, VettedJoins joins →
    StopsAtFirst (unselectedOfJoins false joins) (renderJoins joins)
  | [], _ => by
    rw [renderJoins, unselectedOfJoins]
    exact .written _
  | join :: rest, vetted => by
    rw [VettedJoins] at vetted
    rw [renderJoins, unselectedOfJoins]
    exact (Join.stopsAtFirst vetted.1).bind fun _ => (stopsAtFirst_renderJoins vetted.2).map _

theorem Join.stopsAtFirst : ∀ {join : Join}, join.Vetted →
    StopsAtFirst (join.unselected false) join.render
  | .mk kind table condition, vetted => by
    rw [Join.Vetted] at vetted
    rw [Join.render, Join.unselected]
    exact (Condition.stopsAtFirst vetted).map _

theorem stopsAtFirst_renderFilter : ∀ {filter : Option Condition}, VettedFilter filter →
    StopsAtFirst (unselectedOfFilter false filter) (renderFilter filter)
  | none, _ => by
    rw [renderFilter, unselectedOfFilter]
    exact .written _
  | some condition, vetted => by
    rw [VettedFilter] at vetted
    rw [renderFilter, unselectedOfFilter]
    exact (Condition.stopsAtFirst vetted).map _

end

/-! ## Nothing is unselected in what has a text -/

section

variable {everywhere : Bool}

mutual

/-- In a condition that has a text no query is unselected, wherever one looks. -/
theorem Condition.unselected_eq_nil : ∀ {condition : Condition} {text : String},
    condition.render = .ok text → condition.unselected everywhere = []
  | .junction connective parts, text, written => by
    rcases Condition.render_junction_eq_ok.mp written with ⟨texts, partsWritten, -⟩
    rw [Condition.unselected]
    exact unselectedOfParts_eq_nil partsWritten
  | .negation inner, text, written => by
    rcases Condition.render_negation_eq_ok.mp written with ⟨innerText, innerWritten, -⟩
    rw [Condition.unselected]
    exact Condition.unselected_eq_nil innerWritten
  | .comparison column comparator operand, text, written => by
    rcases Condition.render_comparison_eq_ok.mp written with ⟨value, valueWritten, -⟩
    rw [Condition.unselected, Operand.unselected_eq_nil valueWritten, ite_self]
  | .nullTest column negated, text, _ => by rw [Condition.unselected]
  | .among column members, text, written => by
    rcases Condition.render_among_eq_ok.mp written with ⟨texts, membersWritten, -⟩
    rw [Condition.unselected, unselectedOfOperands_eq_nil_of_renderList membersWritten, ite_self]
  | .within column range, text, written => by
    rw [Condition.unselected]
    rcases Condition.exists_of_render_within written with
      ⟨inner, rangeWritten | ⟨query, isQuery, queryWritten⟩, -⟩
    · exact Operand.unselected_eq_nil rangeWritten
    · exact Operand.unselected_eq_nil_of_query isQuery queryWritten
  | .predicate sql, text, _ => by rw [Condition.unselected]
  | .functionCall name arguments, text, written => by
    rcases Condition.render_functionCall_eq_ok.mp written with ⟨texts, argumentsWritten, -⟩
    rw [Condition.unselected, unselectedOfOperands_eq_nil_of_renderList argumentsWritten, ite_self]
  | .unwritten, text, _ => by rw [Condition.unselected]

theorem unselectedOfParts_eq_nil : ∀ {parts : List Condition} {texts : List String},
    renderParts parts = .ok texts → unselectedOfParts everywhere parts = []
  | [], texts, _ => by rw [unselectedOfParts]
  | part :: rest, texts, written => by
    rcases renderParts_cons_eq_ok.mp written with ⟨text, others, partWritten, restWritten, -⟩
    rw [unselectedOfParts, Condition.unselected_eq_nil partWritten, unselectedOfParts_eq_nil restWritten,
      List.append_nil]

theorem Operand.unselected_eq_nil {operand : Operand} {text : String}
    (written : operand.render = .ok text) : operand.unselected everywhere = [] := by
  cases operand with
  | condition condition =>
    unfold Operand.render at written
    rw [Operand.unselected]
    exact Condition.unselected_eq_nil written
  | query query =>
    rcases Operand.render_query_eq_ok.mp written with ⟨inner, queryWritten, -⟩
    rw [Operand.unselected]
    exact Subquery.unselected_eq_nil queryWritten
  | _ => rfl

theorem Operand.unselected_eq_nil_of_query {operand : Operand} {query : Subquery} {text : String}
    (isQuery : operand = .query query) (written : query.render = .ok text) :
    operand.unselected everywhere = [] := by
  cases operand with
  | query inner =>
    cases isQuery
    exact Subquery.unselected_eq_nil written
  | _ => cases isQuery

theorem unselectedOfOperands_eq_nil_of_renderList : ∀ {operands : List Operand} {texts : List String},
    renderList operands = .ok texts → unselectedOfOperands everywhere operands = []
  | operands, texts, written => unselectedOfOperands_eq_nil (renderList_eq_ok.mp written).1

theorem unselectedOfOperands_eq_nil : ∀ {operands : List Operand} {texts : List String},
    renderOperands operands = .ok texts → unselectedOfOperands everywhere operands = []
  | [], texts, _ => by rw [unselectedOfOperands]
  | operand :: rest, texts, written => by
    rcases renderOperands_cons_eq_ok.mp written with ⟨text, others, operandWritten, restWritten, -⟩
    rw [unselectedOfOperands, Operand.unselected_eq_nil operandWritten,
      unselectedOfOperands_eq_nil restWritten, List.append_nil]

theorem Subquery.unselected_eq_nil : ∀ {query : Subquery} {text : String},
    query.render = .ok text → query.unselected everywhere = []
  | .mk table columns joins filter, text, written => by
    rcases Subquery.render_eq_ok.mp written with
      ⟨selected, clauses, condition, joinsWritten, filterWritten, -⟩
    rw [Subquery.unselected, if_neg (mt List.isEmpty_iff.mp selected), unselectedOfJoins_eq_nil joinsWritten,
      unselectedOfFilter_eq_nil filterWritten]
    rfl

theorem unselectedOfJoins_eq_nil : ∀ {joins : List Join} {clauses : String},
    renderJoins joins = .ok clauses → unselectedOfJoins everywhere joins = []
  | [], clauses, _ => by rw [unselectedOfJoins]
  | join :: rest, clauses, written => by
    rcases renderJoins_cons_eq_ok.mp written with ⟨clause, others, joinWritten, restWritten, -⟩
    rw [unselectedOfJoins, Join.unselected_eq_nil joinWritten, unselectedOfJoins_eq_nil restWritten,
      List.append_nil]

theorem Join.unselected_eq_nil : ∀ {join : Join} {text : String},
    join.render = .ok text → join.unselected everywhere = []
  | .mk kind table condition, text, written => by
    rcases Join.render_eq_ok.mp written with ⟨inner, conditionWritten, -⟩
    rw [Join.unselected]
    exact Condition.unselected_eq_nil conditionWritten

theorem unselectedOfFilter_eq_nil : ∀ {filter : Option Condition} {clause : String},
    renderFilter filter = .ok clause → unselectedOfFilter everywhere filter = []
  | none, clause, _ => by rw [unselectedOfFilter]
  | some condition, clause, written => by
    rcases renderFilter_some_eq_ok.mp written with ⟨inner, conditionWritten, -⟩
    rw [unselectedOfFilter]
    exact Condition.unselected_eq_nil conditionWritten

end

end

/-! ## Unselected queries are in ranges -/

mutual

/-- Looking into operands, members and arguments as well finds no further query. -/
theorem Condition.unselected_everywhere : ∀ {condition : Condition}, condition.Vetted →
    condition.unselected true = condition.unselected false
  | .junction connective parts, vetted => by
    rw [Condition.Vetted] at vetted
    rw [Condition.unselected, Condition.unselected]
    exact unselectedOfParts_everywhere vetted
  | .negation inner, vetted => by
    rw [Condition.Vetted] at vetted
    rw [Condition.unselected, Condition.unselected]
    exact Condition.unselected_everywhere vetted
  | .comparison column comparator operand, vetted => by
    rw [Condition.Vetted] at vetted
    rcases vetted with ⟨text, written⟩
    rw [Condition.unselected, Condition.unselected, Operand.unselected_eq_nil written]
    rfl
  | .nullTest column negated, _ => by rw [Condition.unselected, Condition.unselected]
  | .among column members, vetted => by
    rw [Condition.Vetted] at vetted
    rcases vetted with ⟨texts, written⟩
    rw [Condition.unselected, Condition.unselected, unselectedOfOperands_eq_nil_of_renderList written]
    rfl
  | .within column range, vetted => by
    rw [Condition.Vetted] at vetted
    rw [Condition.unselected, Condition.unselected]
    exact Operand.unselected_everywhere vetted
  | .predicate sql, _ => by rw [Condition.unselected, Condition.unselected]
  | .functionCall name arguments, vetted => by
    rw [Condition.Vetted] at vetted
    rcases vetted with ⟨texts, written⟩
    rw [Condition.unselected, Condition.unselected, unselectedOfOperands_eq_nil_of_renderList written]
    rfl
  | .unwritten, vetted => vetted.elim

theorem unselectedOfParts_everywhere : ∀ {parts : List Condition}, VettedParts parts →
    unselectedOfParts true parts = unselectedOfParts false parts
  | [], _ => by rw [unselectedOfParts, unselectedOfParts]
  | part :: rest, vetted => by
    rw [VettedParts] at vetted
    rw [unselectedOfParts, unselectedOfParts, Condition.unselected_everywhere vetted.1,
      unselectedOfParts_everywhere vetted.2]

theorem Operand.unselected_everywhere : ∀ {operand : Operand}, operand.Vetted →
    operand.unselected true = operand.unselected false
  | .condition condition, vetted => by
    rw [Operand.Vetted] at vetted
    rw [Operand.unselected, Operand.unselected]
    exact Condition.unselected_everywhere vetted
  | .query query, vetted => by
    rw [Operand.Vetted] at vetted
    rw [Operand.unselected, Operand.unselected]
    exact Subquery.unselected_everywhere vetted
  | .null, _ | .truth _, _ | .integer _, _ | .number _, _ | .text _, _ | .date _, _ | .dateTime _, _
  | .context _, _ | .column _, _ | .foreign .., _ | .unwritten _, _ => rfl

theorem Subquery.unselected_everywhere : ∀ {query : Subquery}, query.Vetted →
    query.unselected true = query.unselected false
  | .mk table columns joins filter, vetted => by
    rw [Subquery.Vetted] at vetted
    rw [Subquery.unselected, Subquery.unselected, unselectedOfJoins_everywhere vetted.1,
      unselectedOfFilter_everywhere vetted.2]

theorem unselectedOfJoins_everywhere : ∀ {joins : List Join}, VettedJoins joins →
    unselectedOfJoins true joins = unselectedOfJoins false joins
  | [], _ => by rw [unselectedOfJoins, unselectedOfJoins]
  | join :: rest, vetted => by
    rw [VettedJoins] at vetted
    rw [unselectedOfJoins, unselectedOfJoins, Join.unselected_everywhere vetted.1,
      unselectedOfJoins_everywhere vetted.2]

theorem Join.unselected_everywhere : ∀ {join : Join}, join.Vetted →
    join.unselected true = join.unselected false
  | .mk kind table condition, vetted => by
    rw [Join.Vetted] at vetted
    rw [Join.unselected, Join.unselected]
    exact Condition.unselected_everywhere vetted

theorem unselectedOfFilter_everywhere : ∀ {filter : Option Condition}, VettedFilter filter →
    unselectedOfFilter true filter = unselectedOfFilter false filter
  | none, _ => by rw [unselectedOfFilter, unselectedOfFilter]
  | some condition, vetted => by
    rw [VettedFilter] at vetted
    rw [unselectedOfFilter, unselectedOfFilter]
    exact Condition.unselected_everywhere vetted

end

/-! ## What is refused at once -/

/-- The operand is refused wherever operands are written while a condition is built. -/
structure Operand.RefusedAtOnce (operand : Operand) : Prop where
  equals : ∀ (column : Column) (result : Condition), column.equals operand ≠ .ok result
  differs : ∀ (column : Column) (result : Condition), column.differs operand ≠ .ok result
  compare : ∀ (column : Column) (comparator : Comparator) (result : Condition),
    column.compare comparator operand ≠ .ok result
  member : ∀ (column : Column) (members : List Operand), operand ∈ members →
    ∀ result, column.isAmong members ≠ .ok result
  argument : ∀ (name : String) (arguments : List Operand), operand ∈ arguments →
    ∀ result, functionCall name arguments ≠ .ok result

/-- Queries that select nothing do not get into operands. -/
theorem Operand.refusedAtOnce {operand : Operand} (missing : operand.unselected true ≠ []) :
    operand.RefusedAtOnce := by
  have textless : ¬∃ text, operand.render = .ok text := by
    rintro ⟨text, written⟩
    exact missing (unselected_eq_nil written)
  have compare : ∀ (column : Column) (comparator : Comparator) (result : Condition),
      column.compare comparator operand ≠ .ok result :=
    fun _ _ _ accepted => textless (Column.exists_of_compare accepted)
  refine ⟨?_, ?_, compare, ?_, ?_⟩
  · intro column result accepted
    rcases Column.equals_cases accepted with ⟨rfl, -⟩ | compared
    · exact missing rfl
    · exact compare column .equal result compared
  · intro column result accepted
    rcases Column.differs_cases accepted with ⟨rfl, -⟩ | compared
    · exact missing rfl
    · exact compare column .different result compared
  · intro column members listed result accepted
    rcases Column.isAmong_eq_ok.mp accepted with ⟨-, written, -⟩
    exact textless (exists_render_of_write (written operand listed))
  · intro name arguments listed result accepted
    rcases functionCall_eq_ok.mp accepted with ⟨path, written, -, -⟩
    exact textless (exists_render_of_write (written operand listed))

theorem Condition.stopsAtFirst_write {condition : Condition} (obtained : condition.Obtained)
    (shallow : condition.depth ≤ depthLimit) :
    StopsAtFirst (condition.unselected false) condition.write := by
  rw [write, withinDepth_of_le shallow]
  exact stopsAtFirst (Operand.Obtained.vetted obtained rfl)

/-- A comparison complains about the operand in the words in which it would be complained
about later. -/
theorem Column.compare_eq_error {operand : Operand} (obtained : operand.Obtained)
    (shallow : operand.depth ≤ depthLimit) {table : Identifier}
    (first : (operand.unselected true).head? = some table) (column : Column) (comparator : Comparator) :
    column.compare comparator operand = .error (.render (.selectMissing table.text)) := by
  have expression : operand.isExpression = true := by
    cases operand with
    | context | column | condition | query => rfl
    | _ => cases first
  have vetted := obtained.vetted expression
  rw [Operand.unselected_everywhere vetted] at first
  have stopped := (Operand.stopsAtFirst vetted).eq_error_iff.mpr ⟨table, first, rfl⟩
  rw [compare, Operand.checked, Operand.write, withinDepth_of_le shallow, stopped]
  rfl

/-- Whether a condition can be written is decided by the queries in it that select nothing:
it has a text exactly if there are none, and otherwise the first one in the order of the text
is named in a complaint about the definition.  All of them came in through ranges, because
everywhere else such a query is refused before there is a condition. -/
theorem unselected_queries_decide {condition : Condition} (obtained : condition.Obtained)
    (shallow : condition.depth ≤ depthLimit) :
    ((∃ text, rendered condition.write = .ok text) ↔ condition.unselected false = []) ∧
      (∀ error, rendered condition.write = .error error ↔
        ∃ table, (condition.unselected false).head? = some table ∧
          error = .render (.selectMissing table.text)) ∧
      (∀ error, rendered condition.write = .error error →
        Script.errorKind error = .policyDefinition) ∧
      condition.unselected true = condition.unselected false ∧
      (∀ operand : Operand, operand.unselected true ≠ [] → operand.RefusedAtOnce) ∧
      ∀ operand : Operand, operand.Obtained → operand.depth ≤ depthLimit →
        ∀ table, (operand.unselected true).head? = some table →
          ∀ (column : Column) (comparator : Comparator),
            column.compare comparator operand = .error (.render (.selectMissing table.text)) := by
  have stops := Condition.stopsAtFirst_write obtained shallow
  have refused : ∀ error, rendered condition.write = .error error ↔
      ∃ table, (condition.unselected false).head? = some table ∧
        error = .render (.selectMissing table.text) := by
    intro error
    constructor
    · intro complaint
      cases written : condition.write with
      | ok text =>
        rw [written] at complaint
        cases complaint
      | error cause =>
        rw [written] at complaint
        cases complaint
        rcases stops.eq_error_iff.mp written with ⟨table, first, rfl⟩
        exact ⟨table, first, rfl⟩
    · rintro ⟨table, first, rfl⟩
      rw [stops.eq_error_iff.mpr ⟨table, first, rfl⟩]
      rfl
  refine ⟨?_, refused, ?_, ?_, ?_, ?_⟩
  · rw [← stops.exists_eq_ok_iff]
    exact exists_congr fun text => Outcome.mapError_eq_ok
  · intro error complaint
    rcases (refused error).mp complaint with ⟨table, -, rfl⟩
    rfl
  · exact Condition.unselected_everywhere (Operand.Obtained.vetted obtained rfl)
  · exact fun operand missing => Operand.refusedAtOnce missing
  · intro operand given shallow table first column comparator
    exact Column.compare_eq_error given shallow first column comparator

/-- The teams that somebody on a list is a member of, where nothing is selected from the list. -/
def unfinishedMembership : Condition :=
  .negation (.within ⟨⟨"team", rfl, rfl⟩⟩ (.query (.mk ⟨"members", rfl, rfl⟩ [⟨"team", rfl, rfl⟩] []
    (some (.within ⟨⟨"member", rfl, rfl⟩⟩ (.query (.on ⟨"list", rfl, rfl⟩)))))))

theorem unfinishedMembership_obtained : unfinishedMembership.Obtained := by
  have list : Operand.Obtained (.query (.on ⟨"list", rfl, rfl⟩)) :=
    .fromTable (show Subquery.fromTable "list" = .ok _ from rfl)
  have members : Operand.Obtained (.query (.on ⟨"members", rfl, rfl⟩)) :=
    .fromTable (show Subquery.fromTable "members" = .ok _ from rfl)
  have selected := members.select
    (show (Subquery.on ⟨"members", rfl, rfl⟩).select ["team"] = .ok _ from rfl)
  exact .not (.isWithin rfl (selected.filter (.isWithin rfl list)))

theorem list_of_members_decides :
    unfinishedMembership.Obtained ∧ unfinishedMembership.depth ≤ depthLimit ∧
      rendered unfinishedMembership.write = .error (.render (.selectMissing "list")) ∧
      (Operand.condition unfinishedMembership).RefusedAtOnce := by
  have shallow : unfinishedMembership.depth ≤ depthLimit := by decide
  have decided := unselected_queries_decide unfinishedMembership_obtained shallow
  refine ⟨unfinishedMembership_obtained, shallow, ?_, ?_⟩
  · exact (decided.2.1 _).mpr ⟨⟨"list", rfl, rfl⟩, rfl, rfl⟩
  · exact decided.2.2.2.2.1 _ (List.cons_ne_nil _ _)

/-! ## Conditions that are too deep -/

/-- What every row meets, denied so many times. -/
def denied : Nat → Condition
  | 0 => alwaysTrue
  | count + 1 => (denied count).not

theorem denied_obtained (count : Nat) : (denied count).Obtained := by
  induction count with
  | zero => exact .alwaysTrue
  | succ count inductionHypothesis => exact .not inductionHypothesis

theorem unselected_denied (everywhere : Bool) (count : Nat) :
    (denied count).unselected everywhere = [] := by
  induction count with
  | zero => rfl
  | succ count inductionHypothesis =>
    rw [denied, Condition.not, Condition.unselected]
    exact inductionHypothesis

theorem depth_denied (count : Nat) : (denied count).depth = count + 1 := by
  induction count with
  | zero => rfl
  | succ count inductionHypothesis =>
    rw [denied, Condition.not, Condition.depth, inductionHypothesis, Nat.add_comm]

/-- Nothing is unselected in a condition that is denied too often, but it is not written, and
this is no complaint about the definition. -/
theorem too_often_denied :
    (denied 5000).Obtained ∧ (denied 5000).unselected true = [] ∧
      rendered (denied 5000).write = .error (.render .tooDeep) ∧
      (¬∃ text, rendered (denied 5000).write = .ok text) ∧
      ¬∃ error, rendered (denied 5000).write = .error error ∧
        Script.errorKind error = .policyDefinition := by
  have deep : depthLimit < (denied 5000).depth := by
    rw [depth_denied]
    decide
  have refused : rendered (denied 5000).write = .error (.render .tooDeep) := by
    rw [Condition.write, withinDepth, if_pos deep]
    rfl
  refine ⟨denied_obtained 5000, unselected_denied true 5000, refused, ?_, ?_⟩
  · rintro ⟨text, written⟩
    rw [refused] at written
    cases written
  · rintro ⟨error, complaint, kind⟩
    rw [refused] at complaint
    cases complaint
    cases kind

end Policy
end PolicyStudio
