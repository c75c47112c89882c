import PolicyStudio.Proofs.Policy.Connections

/-!
# Junctions

The junctions in a condition are the connections in its term, one for one, wherever they stand:
below negations, in operands, in members and arguments, and in the joins and filters of queries.
Each is flat, and made of what its connection connects.

This goes by induction over the term.  What has to be kept apart is what a connection around a
condition makes of it: a junction of the same kind is lost there, but not the junctions in it.
-/

namespace PolicyStudio
namespace Policy

open Sql

/-! ## Junctions below a connection -/

theorem junctionsOfParts_eq (parts : List Condition) :
    junctionsOfParts parts = parts.flatMap Condition.junctions := by
  induction parts with
  | nil => rfl
  | cons part rest inductionHypothesis =>
    rw [junctionsOfParts, inductionHypothesis, List.flatMap_cons]

theorem junctionsOfJoins_eq (joins : List Join) :
    junctionsOfJoins joins = joins.flatMap Join.junctions := by
  induction joins with
  | nil => rfl
  | cons join rest inductionHypothesis =>
    rw [junctionsOfJoins, inductionHypothesis, List.flatMap_cons]

/-- The junctions that a condition brings along where it is connected: a junction of the same
kind is lost in the one around it, and only those in its parts are left. -/
def Condition.junctionsWithin (around : Option Connective) (condition : Condition) : List Junction :=
  (around.elim [condition] condition.partsFor).flatMap junctions

theorem Condition.junctionsWithin_none (condition : Condition) :
    condition.junctionsWithin none = condition.junctions :=
  List.flatMap_singleton _ _

theorem Condition.junctionsWithin_of_not_junction {condition : Condition}
    (single : condition.isJunction = false) (around : Option Connective) :
    condition.junctionsWithin around = condition.junctions := by
  cases around with
  | none => exact condition.junctionsWithin_none
  | some connective =>
    cases condition with
    | junction => cases single
    | _ => exact List.flatMap_singleton _ _

theorem ConditionTerm.junctionsWithin_of_builds {term : ConditionTerm} {condition : Condition}
    (built : term.Builds condition) (single : term.connects = false) (around : Option Connective) :
    condition.junctionsWithin around = condition.junctions :=
  Condition.junctionsWithin_of_not_junction (isJunction_of_builds built single) around

/-- A connection is a junction of its own unless it is lost in the one around it. -/
theorem Condition.junctionsWithin_connect (around : Option Connective) (connective : Connective)
    (conditions : List Condition) : (connect connective conditions).junctionsWithin around =
      (if around = some connective then []
        else [⟨connective, conditions.flatMap (partsFor connective)⟩]) ++
        conditions.flatMap (junctionsWithin (some connective)) := by
  have inside : conditions.flatMap (junctionsWithin (some connective)) =
      (conditions.flatMap (partsFor connective)).flatMap junctions := List.flatMap_assoc.symm
  have whole : (connect connective conditions).junctions =
      [⟨connective, conditions.flatMap (partsFor connective)⟩] ++
        conditions.flatMap (junctionsWithin (some connective)) := by
    rw [connect, junctions, junctionsOfParts_eq, inside]
    rfl
  cases around with
  | none => exact (junctionsWithin_none _).trans whole
  | some own =>
    by_cases same : own = connective
    · subst same
      rw [if_pos rfl, List.nil_append, inside, junctionsWithin, Option.elim_some, connect, partsFor,
        if_pos rfl]
    · rw [if_neg (mt Option.some.inj same), ← whole, junctionsWithin, Option.elim_some, connect,
        partsFor, if_neg (Ne.symm same), List.flatMap_singleton]

/-- Several filters make one junction, and one filter is kept as it is. -/
theorem QueryTerm.makes_filter {term : QueryTerm} {conditions : List Condition}
    (built : List.Forall₂ ConditionTerm.Builds term.filters conditions)
    (inside : ∀ around, List.Forall₂ Connection.Makes (term.filterConnections around)
      (conditions.flatMap (Condition.junctionsWithin around))) :
    List.Forall₂ Connection.Makes
      (term.connection?.toList ++
        term.filterConnections (term.connection?.map Connection.connective))
      (junctionsOfFilter (conjunction? conditions)) := by
  rw [connection?]
  generalize term.filters = filters at built ⊢
  cases built with
  | nil => exact inside none
  | @cons first condition terms others firstBuilt othersBuilt =>
    cases othersBuilt with
    | nil =>
      have alone := inside none
      rwa [List.flatMap_singleton, Condition.junctionsWithin_none] at alone
    | @cons second another terms others secondBuilt restBuilt =>
      have junctions : junctionsOfFilter (conjunction? (condition :: another :: others)) =
          (Condition.connect .all (condition :: another :: others)).junctionsWithin none := by
        rw [conjunction?, junctionsOfFilter, Condition.junctionsWithin_none]
        rfl
      rw [junctions, Condition.junctionsWithin_connect]
      exact .cons (Connection.makes_connect .all firstBuilt secondBuilt restBuilt)
        (inside (some .all))

/-! ## Each junction is made of a connection -/

mutual

/-- The junctions in a condition are made of the connections in its term, one by one. -/
theorem ConditionTerm.makes_junctions (around : Option Connective) :
    ∀ {term : ConditionTerm} {condition : Condition}, term.Builds condition →
      List.Forall₂ Connection.Makes (term.connections around) (condition.junctionsWithin around)
  | .connect connective object argument more, condition, built => by
    rcases ConditionTerm.builds_connect.mp built with
      ⟨first, second, rest, objectBuilt, argumentBuilt, moreBuilt, rfl⟩
    rw [connective.call_eq, Condition.junctionsWithin_connect, ConditionTerm.connections]
    have inside := List.rel_append (ConditionTerm.makes_junctions (some connective) objectBuilt)
      (List.rel_append (ConditionTerm.makes_junctions (some connective) argumentBuilt)
        (makes_junctionsOfTerms (some connective) moreBuilt))
    refine List.rel_append ?_ inside
    -- A call of the kind of the connection around it belongs to that one, and so does its junction.
    split_ifs
    · exact .nil
    · exact .cons (Connection.makes_connect connective objectBuilt argumentBuilt moreBuilt) .nil
  | .not inner, condition, built => by
    rw [ConditionTerm.junctionsWithin_of_builds built rfl]
    rcases ConditionTerm.builds_not.mp built with ⟨denied, innerBuilt, rfl⟩
    rw [ConditionTerm.connections, Condition.not, Condition.junctions]
    exact denied.junctionsWithin_none ▸ ConditionTerm.makes_junctions none innerBuilt
  | .compare column comparator general operand, condition, built => by
    rw [ConditionTerm.junctionsWithin_of_builds built rfl]
    rcases ConditionTerm.builds_compare.mp built with ⟨value, operandBuilt, accepted⟩
    rw [ConditionTerm.connections, (column.junctions_of_comparing comparator accepted).2]
    exact OperandTerm.makes_junctions operandBuilt
  | .isAmong column members, condition, built => by
    rw [ConditionTerm.junctionsWithin_of_builds built rfl]
    rcases ConditionTerm.builds_isAmong.mp built with ⟨values, membersBuilt, accepted⟩
    rcases Column.isAmong_eq_ok.mp accepted with ⟨-, -, rfl⟩
    rw [ConditionTerm.connections, Condition.junctions]
    exact makes_junctionsOfOperands membersBuilt
  | .isWithin column range, condition, built => by
    rw [ConditionTerm.junctionsWithin_of_builds built rfl]
    rcases ConditionTerm.builds_isWithin.mp built with ⟨value, rangeBuilt, -, rfl⟩
    rw [ConditionTerm.connections, Column.isWithin, Condition.junctions]
    exact OperandTerm.makes_junctions rangeBuilt
  | .functionCall name arguments, condition, built => by
    rw [ConditionTerm.junctionsWithin_of_builds built rfl]
    rcases ConditionTerm.builds_functionCall.mp built with ⟨values, argumentsBuilt, accepted⟩
    rcases functionCall_eq_ok.mp accepted with ⟨path, -, -, rfl⟩
    rw [ConditionTerm.connections, Condition.junctions]
    exact makes_junctionsOfOperands argumentsBuilt
  | .plain call, condition, built => by
    rw [ConditionTerm.junctionsWithin_of_builds built rfl, ConditionTerm.connections,
      (PlainCall.junctions_of_build (ConditionTerm.builds_plain.mp built)).2]
    exact .nil

theorem makes_junctionsOfTerms (around : Option Connective) :
    ∀ {terms : List ConditionTerm} {conditions : List Condition},
      List.Forall₂ ConditionTerm.Builds terms conditions →
        List.Forall₂ Connection.Makes (connectionsOfTerms around terms)
          (conditions.flatMap (Condition.junctionsWithin around))
  | [], _, .nil => by
    rw [connectionsOfTerms]
    exact .nil
  | _ :: _, _, .cons built restBuilt => by
    rw [connectionsOfTerms, List.flatMap_cons]
    exact List.rel_append (ConditionTerm.makes_junctions around built)
      (makes_junctionsOfTerms around restBuilt)

theorem OperandTerm.makes_junctions : ∀ {term : OperandTerm} {operand : Operand},
    term.Builds operand → List.Forall₂ Connection.Makes term.connections operand.junctions
  | .constant value isConstant, operand, built => by
    rw [OperandTerm.builds_constant.mp built, OperandTerm.connections]
    cases value with
    | context | foreign | column | condition | query | unwritten => cases isConstant
    | _ => exact .nil
  | .context value given, operand, built => by
    rw [OperandTerm.builds_context.mp built, OperandTerm.connections]
    exact .nil
  | .column value, operand, built => by
    rw [OperandTerm.builds_column.mp built, OperandTerm.connections]
    exact .nil
  | .condition term, operand, built => by
    rcases OperandTerm.builds_condition.mp built with ⟨value, termBuilt, rfl⟩
    rw [OperandTerm.connections, Operand.junctions]
    exact value.junctionsWithin_none ▸ ConditionTerm.makes_junctions none termBuilt
  | .query term, operand, built => by
    rcases OperandTerm.builds_query.mp built with
      ⟨⟨table, columns, joins, filter⟩, termBuilt, rfl⟩
    rcases QueryTerm.makes_junctions termBuilt with
      ⟨joinsMade, conditions, filtersBuilt, rfl, inside⟩
    rw [OperandTerm.connections, Operand.junctions, Subquery.junctions]
    exact List.rel_append joinsMade (QueryTerm.makes_filter filtersBuilt inside)

theorem makes_junctionsOfOperands : ∀ {terms : List OperandTerm} {operands : List Operand},
    List.Forall₂ OperandTerm.Builds terms operands →
      List.Forall₂ Connection.Makes (connectionsOfOperands terms) (junctionsOfOperands operands)
  | [], _, .nil => by
    rw [connectionsOfOperands, junctionsOfOperands]
    exact .nil
  | _ :: _, _, .cons built restBuilt => by
    rw [connectionsOfOperands, junctionsOfOperands]
    exact List.rel_append (OperandTerm.makes_junctions built) (makes_junctionsOfOperands restBuilt)

/-- A query keeps its joins and the conditions it is filtered by in the order of the calls. -/
theorem QueryTerm.makes_junctions : ∀ {term : QueryTerm} {table : Identifier}
    {columns : List Identifier} {joins : List Join} {filter : Option Condition},
    term.Builds (.mk table columns joins filter) →
      List.Forall₂ Connection.Makes term.joinConnections (junctionsOfJoins joins) ∧
        ∃ conditions, List.Forall₂ ConditionTerm.Builds term.filters conditions ∧
          filter = conjunction? conditions ∧
          ∀ around, List.Forall₂ Connection.Makes (term.filterConnections around)
            (conditions.flatMap (Condition.junctionsWithin around))
  | .fromTable name, table, columns, joins, filter, built => by
    rcases Subquery.fromTable_eq_ok.mp (QueryTerm.builds_fromTable.mp built) with ⟨named, -, equal⟩
    cases equal
    rw [QueryTerm.joinConnections, junctionsOfJoins, QueryTerm.filters]
    refine ⟨.nil, [], .nil, rfl, fun around => ?_⟩
    rw [QueryTerm.filterConnections]
    exact .nil
  | .select object names, table, columns, joins, filter, built => by
    rcases QueryTerm.builds_select.mp built with ⟨⟨other, before, _, _⟩, objectBuilt, accepted⟩
    rcases Subquery.select_eq_ok.mp accepted with ⟨-, checked, -, equal⟩
    cases equal
    rcases QueryTerm.makes_junctions objectBuilt with
      ⟨joinsMade, conditions, filtersBuilt, filtered, inside⟩
    rw [QueryTerm.joinConnections, QueryTerm.filters]
    refine ⟨joinsMade, conditions, filtersBuilt, filtered, fun around => ?_⟩
    rw [QueryTerm.filterConnections]
    exact inside around
  | .filter object condition, table, columns, joins, filter, built => by
    rcases QueryTerm.builds_filter.mp built with
      ⟨⟨other, before, joined, earlier⟩, value, objectBuilt, conditionBuilt, equal⟩
    have narrows : Subquery.mk table columns joins filter =
        .mk other before joined (narrowed earlier value) := by
      rw [equal]
      cases earlier <;> rfl
    cases narrows
    rcases QueryTerm.makes_junctions objectBuilt with
      ⟨joinsMade, conditions, filtersBuilt, rfl, inside⟩
    rw [QueryTerm.joinConnections, QueryTerm.filters]
    have built := List.rel_append filtersBuilt (.cons conditionBuilt .nil)
    refine ⟨joinsMade, conditions ++ [value], built,
      (conjunction?_concat conditions value).symm, fun around => ?_⟩
    rw [QueryTerm.filterConnections, List.flatMap_append, List.flatMap_singleton]
    exact List.rel_append (inside around) (ConditionTerm.makes_junctions around conditionBuilt)
  | .join object kind other condition, table, columns, joins, filter, built => by
    rcases QueryTerm.builds_join.mp built with
      ⟨⟨_, before, joined, _⟩, value, objectBuilt, conditionBuilt, equal⟩
    cases equal
    rcases QueryTerm.makes_junctions objectBuilt with
      ⟨joinsMade, conditions, filtersBuilt, filtered, inside⟩
    rw [junctionsOfJoins_eq] at joinsMade
    rw [QueryTerm.joinConnections, QueryTerm.filters, junctionsOfJoins_eq, List.flatMap_append,
      List.flatMap_singleton, Join.junctions, ← value.junctionsWithin_none]
    have built := List.rel_append joinsMade (ConditionTerm.makes_junctions none conditionBuilt)
    refine ⟨built, conditions, filtersBuilt, filtered, fun around => ?_⟩
    rw [QueryTerm.filterConnections]
    exact inside around

end

/-- Every junction in a condition that programs can build has two parts or more, and none of its
own kind among them.  However a program wrote the condition, its junctions are the connections
that it wrote: the parts are the operands of each in their order, and so is what is left when the
junctions inside of them are taken apart as well. -/
theorem junctions_keep_their_operands {condition : Condition} (obtained : condition.Obtained) :
    (∀ junction ∈ condition.junctions, junction.IsFlat) ∧
      (∃ term : ConditionTerm, term.Builds condition) ∧
      ∀ term : ConditionTerm, term.Builds condition →
        List.Forall₂ Connection.Makes (term.connections none) condition.junctions := by
  rcases Condition.obtained_iff_exists_term.mp obtained with ⟨term, built⟩
  have makes : ∀ term : ConditionTerm, term.Builds condition →
      List.Forall₂ Connection.Makes (term.connections none) condition.junctions := by
    intro term built
    exact condition.junctionsWithin_none ▸ ConditionTerm.makes_junctions none built
  refine ⟨?_, ⟨term, built⟩, makes⟩
  have flat : List.Forall₂ (fun junction connection => junction.IsFlat ∧ connection.Makes junction)
      condition.junctions (term.connections none) :=
    (makes term built).flip.imp fun _ _ made => ⟨made.flat, made⟩
  exact ((List.forall₂_and_left _ _).mp flat).1

/-- Nobody signed, or nobody sealed. -/
def unsigned : Condition :=
  .junction .any [.nullTest ⟨⟨"signer", rfl, rfl⟩⟩ false, .nullTest ⟨⟨"seal", rfl, rfl⟩⟩ false]

def unsignedTerm : ConditionTerm :=
  .connect .any (.plain (.isNull ⟨⟨"signer", rfl, rfl⟩⟩))
    (.plain (.isNull ⟨⟨"seal", rfl, rfl⟩⟩)) []

/-- A comparison with a connection. -/
def draftTerm : ConditionTerm :=
  .compare ⟨⟨"draft", rfl, rfl⟩⟩ .equal rfl (.condition unsignedTerm)

/-- A query with two filters, and connections in both of them. -/
def unitTerm : ConditionTerm :=
  .isWithin ⟨⟨"unit", rfl, rfl⟩⟩ (.query
    (.filter (.filter (.select (.fromTable "staff") ["unit"]) unsignedTerm)
      (.connect .all (.plain .alwaysTrue) unsignedTerm [])))

/-- Connections in all these places and in each other. -/
def wovenTerm : ConditionTerm :=
  .not (.connect .all (.connect .all (.plain .alwaysTrue) draftTerm []) unitTerm [])

/-- What is built from it. -/
def wovenCondition : Condition :=
  .negation (.junction .all [alwaysTrue,
    .comparison ⟨⟨"draft", rfl, rfl⟩⟩ .equal (.condition unsigned),
    .within ⟨⟨"unit", rfl, rfl⟩⟩ (.query (.mk ⟨"staff", rfl, rfl⟩ [⟨"unit", rfl, rfl⟩] []
      (some (.junction .all [unsigned, alwaysTrue, unsigned]))))])

theorem unsigned_render : unsigned.render = .ok "signer IS NULL OR seal IS NULL" := by
  rw [unsigned, Condition.render, renderParts, renderParts, renderParts, Condition.render,
    Condition.render]
  rfl

theorem unsigned_write :
    (Operand.condition unsigned).write = .ok "signer IS NULL OR seal IS NULL" := by
  have shallow : (Operand.condition unsigned).depth ≤ depthLimit := by decide
  rw [Operand.write, withinDepth_of_le shallow]
  unfold Operand.render
  exact unsigned_render

theorem wovenTerm_builds : wovenTerm.Builds wovenCondition := by
  have always : (ConditionTerm.plain .alwaysTrue).Builds alwaysTrue := rfl
  have accepted : Column.comparing ⟨⟨"draft", rfl, rfl⟩⟩ .equal (.condition unsigned) =
      .ok (.comparison ⟨⟨"draft", rfl, rfl⟩⟩ .equal (.condition unsigned)) :=
    Column.compare_of_write unsigned_write _ _
  have draft : draftTerm.Builds _ := ConditionTerm.builds_compare.mpr ⟨_, rfl, accepted⟩
  have unit : unitTerm.Builds _ := rfl
  have first : (ConditionTerm.connect .all (.plain .alwaysTrue) draftTerm []).Builds _ :=
    ConditionTerm.builds_connect.mpr ⟨_, _, [], always, draft, .nil, rfl⟩
  have both : (ConditionTerm.connect .all _ unitTerm []).Builds _ :=
    ConditionTerm.builds_connect.mpr ⟨_, _, [], first, unit, .nil, rfl⟩
  exact ConditionTerm.builds_not.mpr ⟨_, both, rfl⟩

/-- The two calls for all in each other are one junction, and so are the two filters. -/
theorem junctions_of_woven_keep_their_operands :
    wovenCondition.Obtained ∧ wovenTerm.Builds wovenCondition ∧
      (wovenCondition.junctions.map fun junction => (junction.connective, junction.parts.length)) =
        [(.all, 3), (.any, 2), (.all, 3), (.any, 2), (.any, 2)] ∧
      ((wovenTerm.connections none).map fun connection => (connection.operands none).length) =
        [3, 2, 5, 2, 2] ∧
      (∀ junction ∈ wovenCondition.junctions, junction.IsFlat) ∧
      List.Forall₂ Connection.Makes (wovenTerm.connections none) wovenCondition.junctions := by
  have obtained := ConditionTerm.obtained wovenTerm_builds
  have kept := junctions_keep_their_operands obtained
  exact ⟨obtained, wovenTerm_builds, by rfl, by rfl, kept.1, kept.2.2 wovenTerm wovenTerm_builds⟩

end Policy
end PolicyStudio
