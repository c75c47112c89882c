import PolicyStudio.Text.Case
import PolicyStudio.Proofs.Policy.Bracketings

/-!
# Calls on a sub-query

Calls on a sub-query come in three kinds, in any order.  Selecting replaces what was selected
before, joining adds a join behind the others, and filtering adds a condition that must also
hold.  The three do not touch each other, so a query only keeps, of all calls, the last
selection and the joins and conditions in the order of their calls.

A condition is added by a call of its own, to whatever was connected before.  By the law of
brackets this is the same as one call for all of them.
-/

namespace PolicyStudio
namespace Policy

open Sql

/-! ## Calls -/

/-- What a call asks for that joins a table. -/
structure JoinRequest where
  table : String
  condition : Condition
  kind : String

/-- Check the names in a request. -/
def JoinRequest.checked (request : JoinRequest) : Built Join := do
  let table ← identifier request.table
  let kind ← Subquery.joinKind (Text.upper request.kind)
  return .mk kind table request.condition

/-- A call that goes on with a sub-query. -/
inductive QueryCall where
  | select (columns : List String)
  | filter (condition : Condition)
  | join (request : JoinRequest)

namespace QueryCall

/-- The query that the call returns. -/
def apply (query : Subquery) : QueryCall → Built Subquery
  | .select columns => query.select columns
  | .filter condition => .ok (query.filter condition)
  | .join request => do
    let .mk kind table condition ← request.checked
    return query.joinTable kind table condition

/-- The columns that the call selects. -/
def columns? : QueryCall → Option (List String)
  | .select columns => some columns
  | _ => none

/-- The condition that the call adds. -/
def condition? : QueryCall → Option Condition
  | .filter condition => some condition
  | _ => none

/-- The join that the call asks for. -/
def request? : QueryCall → Option JoinRequest
  | .join request => some request
  | _ => none

/-- The calls are of the same kind. -/
def SameKind : QueryCall → QueryCall → Prop
  | .select _, .select _ | .filter _, .filter _ | .join _, .join _ => True
  | _, _ => False

/-- Of two calls of different kinds at most one says anything of the kind. -/
theorem silent_of_not_sameKind {first second : QueryCall} (different : ¬first.SameKind second) :
    (first.columns? = none ∨ second.columns? = none) ∧
      (first.request? = none ∨ second.request? = none) ∧
      (first.condition? = none ∨ second.condition? = none) := by
  cases first <;> cases second <;> simp_all [SameKind, columns?, request?, condition?]

end QueryCall

/-- The query that calls return, one after the other. -/
def Subquery.following (query : Subquery) (calls : List QueryCall) : Built Subquery :=
  calls.foldlM QueryCall.apply query

/-- The calls agree on the last selection and on the joins and conditions in their order. -/
structure AskAlike (calls others : List QueryCall) : Prop where
  columns : (calls.filterMap QueryCall.columns?).getLast? =
    (others.filterMap QueryCall.columns?).getLast?
  requests : calls.filterMap QueryCall.request? = others.filterMap QueryCall.request?
  conditions : calls.filterMap QueryCall.condition? = others.filterMap QueryCall.condition?

/-! ## What a query keeps -/

/-- One condition for several: the only one, or what one call makes of all of them. -/
def conjunction? : List Condition → Option Condition
  | [] => none
  | [condition] => some condition
  | first :: second :: rest => some (first.and (second :: rest))

/-- The filter of a query after one more condition. -/
def narrowed (filter : Option Condition) (condition : Condition) : Option Condition :=
  some (filter.elim condition fun earlier => earlier.and [condition])

/-- Conditions that are added one by one are connected as by a single call. -/
theorem conjunction?_concat (conditions : List Condition) (condition : Condition) :
    conjunction? (conditions ++ [condition]) = narrowed (conjunction? conditions) condition := by
  match conditions with
  | [] => rfl
  | [first] => rfl
  | first :: second :: rest =>
    have merged := Condition.connect_connect .all (first :: second :: rest) [condition]
    exact congrArg some merged.symm

theorem foldl_narrowed (conditions : List Condition) :
    conditions.foldl narrowed none = conjunction? conditions := by
  induction conditions using List.reverseRecOn with
  | nil => rfl
  | append_singleton conditions condition inductionHypothesis =>
    rw [List.foldl_concat, inductionHypothesis, conjunction?_concat]

namespace Subquery

variable {table : Identifier} {columns : List Identifier} {joins : List Join}
  {filter : Option Condition} {calls : List QueryCall} {result : Subquery}

theorem following_select {names : List String} :
    (mk table columns joins filter).following (.select names :: calls) = .ok result ↔
      names ≠ [] ∧ ∃ checked, names.mapM identifier = .ok checked ∧
        (mk table checked joins filter).following calls = .ok result := by
  rw [following, List.foldlM_cons, Outcome.bind_eq_ok]
  constructor
  · rintro ⟨next, accepted, built⟩
    rcases select_eq_ok.mp accepted with ⟨several, checked, named, rfl⟩
    exact ⟨several, checked, named, built⟩
  · rintro ⟨several, checked, named, built⟩
    exact ⟨_, select_eq_ok.mpr ⟨several, checked, named, rfl⟩, built⟩

theorem following_filter {condition : Condition} :
    (mk table columns joins filter).following (.filter condition :: calls) =
      (mk table columns joins (narrowed filter condition)).following calls := by
  cases filter <;> rfl

theorem following_join {request : JoinRequest} :
    (mk table columns joins filter).following (.join request :: calls) = .ok result ↔
      ∃ join, request.checked = .ok join ∧
        (mk table columns (joins ++ [join]) filter).following calls = .ok result := by
  rw [following, List.foldlM_cons, Outcome.bind_eq_ok]
  constructor
  · rintro ⟨next, accepted, built⟩
    rcases Outcome.bind_eq_ok.mp accepted with ⟨⟨kind, other, condition⟩, checked, equal⟩
    cases equal
    exact ⟨_, checked, built⟩
  · rintro ⟨⟨kind, other, condition⟩, checked, built⟩
    exact ⟨_, Outcome.bind_eq_ok.mpr ⟨_, checked, rfl⟩, built⟩

/-- The selection that counts after calls: the last one, or else the one before. -/
def lastSelected (columns : List Identifier) (calls : List QueryCall) : Built (List Identifier) :=
  (calls.filterMap QueryCall.columns?).getLast?.elim (.ok columns) (List.mapM identifier)

/-- All names of columns in the calls are accepted. -/
def AllSelect (calls : List QueryCall) : Prop :=
  ∀ names ∈ calls.filterMap QueryCall.columns?,
    names ≠ [] ∧ ∃ checked, names.mapM identifier = .ok checked

/-- A later selection replaces an earlier one. -/
theorem lastSelected_cons {names : List String} {checked : List Identifier}
    (accepted : names.mapM identifier = .ok checked) (columns : List Identifier) :
    lastSelected columns (.select names :: calls) = lastSelected checked calls := by
  have said : QueryCall.columns? (.select names) = some names := rfl
  rw [lastSelected, lastSelected, List.filterMap_cons_some said, List.getLast?_cons]
  cases (calls.filterMap QueryCall.columns?).getLast? with
  | none => exact accepted
  | some later => rfl

/-- Calls are accepted if their names are, and they leave the last selection, all joins and all
conditions in the query. -/
theorem following_eq_ok :
    (mk table columns joins filter).following calls = .ok result ↔
      AllSelect calls ∧ ∃ selected more, lastSelected columns calls = .ok selected ∧
        (calls.filterMap QueryCall.request?).mapM JoinRequest.checked = .ok more ∧
        result = .mk table selected (joins ++ more)
          ((calls.filterMap QueryCall.condition?).foldl narrowed filter) := by
  induction calls generalizing columns joins filter with
  | nil =>
    have unchanged : (mk table columns joins filter).following [] = .ok (mk table columns joins filter) := rfl
    rw [unchanged]
    constructor
    · intro built
      refine ⟨List.forall_mem_nil _, columns, [], rfl, rfl, ?_⟩
      rw [List.append_nil]
      exact (Except.ok.inj built).symm
    · rintro ⟨-, selected, more, same, empty, equal⟩
      cases same
      cases empty
      rw [equal]
      exact congrArg (fun all => Except.ok (mk table columns all filter)) (List.append_nil joins).symm
  | cons call rest inductionHypothesis =>
    cases call with
    | select names =>
      rw [following_select]
      constructor
      · rintro ⟨several, checked, named, built⟩
        rcases inductionHypothesis.mp built with ⟨others, selected, more, last, kept⟩
        rw [← lastSelected_cons named columns] at last
        exact ⟨List.forall_mem_cons.mpr ⟨⟨several, checked, named⟩, others⟩, selected, more, last, kept⟩
      · rintro ⟨all, selected, more, last, kept⟩
        rcases List.forall_mem_cons.mp all with ⟨⟨several, checked, named⟩, others⟩
        rw [lastSelected_cons named] at last
        exact ⟨several, checked, named, inductionHypothesis.mpr ⟨others, selected, more, last, kept⟩⟩
    | filter condition =>
      rw [following_filter, inductionHypothesis]
      rfl
    | join request =>
      rw [following_join]
      constructor
      · rintro ⟨join, checked, built⟩
        rcases inductionHypothesis.mp built with ⟨all, selected, more, last, requested, equal⟩
        rw [List.append_assoc] at equal
        exact ⟨all, selected, join :: more, last,
          Outcome.mapM_cons_eq_ok.mpr ⟨join, more, checked, requested, rfl⟩, equal⟩
      · rintro ⟨all, selected, more, last, requested, equal⟩
        rcases Outcome.mapM_cons_eq_ok.mp requested with ⟨join, others, checked, othersRequested, rfl⟩
        refine ⟨join, checked, inductionHypothesis.mpr ⟨all, selected, others, last, othersRequested, ?_⟩⟩
        rw [List.append_assoc]
        exact equal

/-- Accepted calls that ask alike leave the same query. -/
theorem eq_of_askAlike {others : List QueryCall} {other : Subquery}
    (built : (mk table columns joins filter).following calls = .ok result)
    (builtOther : (mk table columns joins filter).following others = .ok other)
    (alike : AskAlike calls others) : other = result := by
  rcases following_eq_ok.mp built with ⟨-, selected, more, last, requested, rfl⟩
  rcases following_eq_ok.mp builtOther with ⟨-, otherSelected, otherMore, otherLast, otherRequested, rfl⟩
  rw [lastSelected, ← alike.columns] at otherLast
  rw [← alike.requests] at otherRequested
  cases last.symm.trans otherLast
  cases requested.symm.trans otherRequested
  rw [alike.conditions]

/-- Calls of different kinds do not notice each other, wherever they stand side by side. -/
theorem following_swap {first second : QueryCall} (different : ¬first.SameKind second)
    (before after : List QueryCall) :
    (mk table columns joins filter).following (before ++ first :: second :: after) = .ok result ↔
      (mk table columns joins filter).following (before ++ second :: first :: after) = .ok result := by
  have apart : ∀ {α : Type} {said : QueryCall → Option α}, said first = none ∨ said second = none →
      (before ++ first :: second :: after).filterMap said =
        (before ++ second :: first :: after).filterMap said := by
    intro α said silent
    simp only [List.filterMap_append, List.filterMap_cons]
    rcases silent with silent | silent <;> rw [silent]
  rcases QueryCall.silent_of_not_sameKind different with ⟨columns, requests, conditions⟩
  rw [following_eq_ok, following_eq_ok, AllSelect, AllSelect, lastSelected, lastSelected,
    apart columns, apart requests, apart conditions]

end Subquery

/-! ## The text -/

/-- The clause for a filter; without one there is none. -/
def filterClauses : Option Condition → Except RenderError (List String)
  | none => .ok []
  | some condition => return ["WHERE " ++ (← condition.render)]

/-- The clauses of a query: what it selects and from where, one clause for each join, and one for
the conditions if there are any. -/
def clausesOf (table : Identifier) (columns : List Identifier) (joins : List Join)
    (conditions : List Condition) : Except RenderError (List String) := do
  let joinClauses ← joins.mapM Join.render
  let filters ← filterClauses (conjunction? conditions)
  return ("SELECT " ++ joined ", " (columns.map Identifier.render)) :: ("FROM " ++ table.render) ::
    (joinClauses ++ filters)

theorem joined_cons (separator first : String) (rest : List String) :
    joined separator (first :: rest) = first ++ String.join (rest.map (separator ++ ·)) := by
  induction rest generalizing first with
  | nil => exact String.append_empty.symm
  | cons next others inductionHypothesis =>
    rw [List.map_cons, String.join_cons, String.append_assoc, ← inductionHypothesis]
    exact String.append_assoc ..

/-- The joins of a query are written one after the other. -/
theorem renderJoins_eq (joins : List Join) : renderJoins joins =
    (joins.mapM Join.render).map fun clauses => String.join (clauses.map (" " ++ ·)) := by
  induction joins with
  | nil =>
    rw [renderJoins]
    rfl
  | cons join rest inductionHypothesis =>
    rw [renderJoins, inductionHypothesis, List.mapM_cons]
    cases join.render with
    | error cause => rfl
    | ok clause =>
      cases rest.mapM Join.render with
      | error cause => rfl
      | ok clauses =>
        change Except.ok (" " ++ clause ++ String.join (clauses.map (" " ++ ·))) =
          Except.ok (String.join ((" " ++ clause) :: clauses.map (" " ++ ·)))
        rw [String.join_cons]

theorem renderFilter_eq (filter : Option Condition) : renderFilter filter =
    (filterClauses filter).map fun clauses => String.join (clauses.map (" " ++ ·)) := by
  cases filter with
  | none =>
    rw [renderFilter]
    rfl
  | some condition =>
    rw [renderFilter]
    cases written : condition.render with
    | error cause =>
      rw [filterClauses, written]
      rfl
    | ok text =>
      have spaced : " WHERE " ++ text = String.join ([" " ++ ("WHERE " ++ text)]) := by
        rw [String.join_cons, String.join_nil, String.append_empty, ← String.append_assoc]
        rfl
      rw [filterClauses, written]
      exact congrArg Except.ok spaced

/-- A query that selects something is written clause by clause. -/
theorem Subquery.render_eq {columns : List Identifier} (several : columns ≠ []) (table : Identifier)
    (joins : List Join) (conditions : List Condition) :
    (Subquery.mk table columns joins (conjunction? conditions)).render =
      (clausesOf table columns joins conditions).map (joined " ") := by
  rw [Subquery.render, if_neg (mt List.isEmpty_iff.mp several), renderJoins_eq, renderFilter_eq, clausesOf]
  cases joins.mapM Join.render with
  | error cause => rfl
  | ok clauses =>
    cases filterClauses (conjunction? conditions) with
    | error cause => rfl
    | ok filters =>
      refine congrArg Except.ok ?_
      rw [joined_cons, List.map_cons, String.join_cons, List.map_append, String.join_append]
      simp only [String.append_assoc]
      rfl

/-- The text of a query after accepted calls on a table is made of the columns that were selected
last, the joins in the order of their calls and the conditions in the order of theirs, as if one
call had connected them; without a selection there is none.  It is written unless its conditions
are nested too deep.  Other calls that agree on these leave the same query, and neighbouring
calls of different kinds can be exchanged. -/
theorem queries_follow_their_calls {name : String} {start query : Subquery} {calls : List QueryCall}
    (opened : Subquery.fromTable name = .ok start) (built : start.following calls = .ok query) :
    (∃ table joins, identifier name = .ok table ∧
      (calls.filterMap QueryCall.request?).mapM JoinRequest.checked = .ok joins ∧
      (calls.filterMap QueryCall.columns? = [] → query.render = .error (.selectMissing table.text)) ∧
      (∀ names, (calls.filterMap QueryCall.columns?).getLast? = some names →
        ∃ columns, names.mapM identifier = .ok columns ∧
          query.render = (clausesOf table columns joins
            (calls.filterMap QueryCall.condition?)).map (joined " ")) ∧
      query.write = withinDepth (1 + max (depthOfJoins joins)
        (depthOfFilter (conjunction? (calls.filterMap QueryCall.condition?)))) query.render) ∧
    (∀ others other, start.following others = .ok other → AskAlike calls others → other = query) ∧
    ∀ before after first second, ¬QueryCall.SameKind first second → ∀ result,
      start.following (before ++ first :: second :: after) = .ok result ↔
        start.following (before ++ second :: first :: after) = .ok result := by
  rcases Outcome.bind_eq_ok.mp opened with ⟨table, named, equal⟩
  cases equal
  refine ⟨?_, fun others other builtOther => Subquery.eq_of_askAlike built builtOther,
    fun before after first second different result => Subquery.following_swap different before after⟩
  rcases Subquery.following_eq_ok.mp built with ⟨all, selected, joins, last, requested, rfl⟩
  rw [List.nil_append, foldl_narrowed]
  refine ⟨table, joins, named, requested, fun unselected => ?_, fun names final => ?_, ?_⟩
  · rw [Subquery.lastSelected, unselected] at last
    cases last
    rw [Subquery.render, if_pos List.isEmpty_nil]
  · rw [Subquery.lastSelected, final] at last
    have several : selected ≠ [] := by
      rintro rfl
      have counted := Outcome.length_of_mapM last
      exact (all names (List.mem_of_getLast? final)).1 (List.length_eq_zero_iff.mp counted.symm)
    exact ⟨selected, last, Subquery.render_eq several table joins _⟩
  · rw [Subquery.write, Subquery.depth]

/-- Calls of all kinds, in no order: two selections, a join and two filters, one of them with an
alternative. -/
def mixedCalls : List QueryCall :=
  [.filter (firstCondition.or [secondCondition]), .select ["x"],
    .join ⟨"u", secondCondition, "left"⟩, .filter firstCondition, .select ["k", "User"]]

/-- The last selection counts, and the alternative does not swallow the second filter. -/
theorem mixed_calls_are_followed : ∃ start query, Subquery.fromTable "t" = .ok start ∧
    start.following mixedCalls = .ok query ∧ query.render =
      .ok ("SELECT k, \"User\" FROM t LEFT JOIN u ON b IS NULL " ++
        "WHERE (a IS NULL OR b IS NULL) AND a IS NULL") := by
  have opened : Subquery.fromTable "t" = .ok (.on ⟨"t", rfl, rfl⟩) := rfl
  have built : (Subquery.on ⟨"t", rfl, rfl⟩).following mixedCalls = .ok _ := rfl
  rcases (queries_follow_their_calls opened built).1 with ⟨table, joins, named, requested, -, selected, -⟩
  cases named
  cases requested
  rcases selected ["k", "User"] rfl with ⟨columns, checked, text⟩
  cases checked
  have join : (Join.mk .left ⟨"u", rfl, rfl⟩ secondCondition).render =
      .ok "LEFT JOIN u ON b IS NULL" := by
    rw [Join.render, secondCondition_render]
    rfl
  have filter : (Condition.junction .all [.junction .any [firstCondition, secondCondition],
      firstCondition]).render = .ok "(a IS NULL OR b IS NULL) AND a IS NULL" := by
    simp only [Condition.render, renderParts, firstCondition_render, secondCondition_render]
    rfl
  have clauses := Outcome.mapM_cons_eq_ok.mpr ⟨_, [], join, List.mapM_nil, rfl⟩
  have filters : filterClauses (some _) = .ok _ := Outcome.bind_eq_ok.mpr ⟨_, filter, rfl⟩
  have all : clausesOf ⟨"t", rfl, rfl⟩ [⟨"k", rfl, rfl⟩, ⟨"User", rfl, rfl⟩]
      [.mk .left ⟨"u", rfl, rfl⟩ secondCondition]
      [firstCondition.or [secondCondition], firstCondition] = .ok _ :=
    Outcome.bind_eq_ok.mpr ⟨_, clauses, Outcome.bind_eq_ok.mpr ⟨_, filters, rfl⟩⟩
  exact ⟨_, _, opened, built, text.trans (congrArg (Except.map (joined " ")) all)⟩

end Policy
end PolicyStudio
