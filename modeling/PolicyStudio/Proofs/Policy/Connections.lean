import PolicyStudio.Proofs.Policy.Terms
import PolicyStudio.Proofs.Policy.Vetted

/-!
# Connections

A connection is what a program writes to get a junction: a call that connects, with its object
and its arguments, or two filters of a query or more.  A call inside of a call of the same kind
has no junction of its own, so both are one connection.

The call takes the parts of an operand that is connected in the same way, and only one level of
them.  That is enough to keep the junction flat: it has two parts or more, and none of its own
kind.  And since the parts stay where they were, it does not matter whether the junction is taken
apart or what was written: the same operands are left, in the same order.
-/

namespace PolicyStudio
namespace Policy

open Sql

/-! ## Junctions in a condition -/

/-- A junction: how it connects, and what. -/
structure Junction where
  connective : Connective
  parts : List Condition

/-- The junction has two parts or more, and no junction of its own kind is among them. -/
def Junction.IsFlat (junction : Junction) : Prop :=
  2 ≤ junction.parts.length ∧ ∀ inner, .junction junction.connective inner ∉ junction.parts

mutual

/-- The junctions that occur anywhere in a condition, from left to right, each one before those
that are inside of it. -/
def Condition.junctions : Condition → List Junction
  | .junction connective parts => ⟨connective, parts⟩ :: junctionsOfParts parts
  | .negation inner => inner.junctions
  | .comparison _ _ operand => operand.junctions
  | .among _ members => junctionsOfOperands members
  | .within _ range => range.junctions
  | .functionCall _ arguments => junctionsOfOperands arguments
  | .nullTest .. | .predicate _ | .unwritten => []

/-- The junctions in the parts of a junction. -/
def junctionsOfParts : List Condition → List Junction
  | [] => []
  | part :: rest => part.junctions ++ junctionsOfParts rest

/-- The junctions in an operand. -/
def Operand.junctions : Operand → List Junction
  | .condition condition => condition.junctions
  | .query query => query.junctions
  | _ => []

/-- The junctions in several operands. -/
def junctionsOfOperands : List Operand → List Junction
  | [] => []
  | operand :: rest => operand.junctions ++ junctionsOfOperands rest

/-- The junctions in a query: first those of its joins. -/
def Subquery.junctions : Subquery → List Junction
  | .mk _ _ joins filter => junctionsOfJoins joins ++ junctionsOfFilter filter

/-- The junctions in the conditions of joins. -/
def junctionsOfJoins : List Join → List Junction
  | [] => []
  | join :: rest => join.junctions ++ junctionsOfJoins rest

/-- The junctions in the condition of a join. -/
def Join.junctions : Join → List Junction
  | .mk _ _ condition => condition.junctions

/-- The junctions in a filter. -/
def junctionsOfFilter : Option Condition → List Junction
  | none => []
  | some condition => condition.junctions

end

/-! ## Connections in a term -/

/-- What is connected: by a call, or by the filters of a query, which must all hold. -/
structure Connection where
  connective : Connective
  first : ConditionTerm
  second : ConditionTerm
  rest : List ConditionTerm

/-- The conditions that a query is filtered by, in the order of the calls. -/
def QueryTerm.filters : QueryTerm → List ConditionTerm
  | .fromTable _ => []
  | .select object _ => object.filters
  | .filter object condition => object.filters ++ [condition]
  | .join object _ _ _ => object.filters

/-- The connection between the filters of a query, if there are several. -/
def QueryTerm.connection? (term : QueryTerm) : Option Connection :=
  match term.filters with
  | first :: second :: rest => some ⟨.all, first, second, rest⟩
  | _ => none

mutual

/-- The connections in a term, from left to right, each one before those that are inside of it.
A call that connects as the connection around it does belongs to that one. -/
def ConditionTerm.connections (around : Option Connective) : ConditionTerm → List Connection
  | .connect connective object argument more =>
    (if around = some connective then [] else [⟨connective, object, argument, more⟩]) ++
      (object.connections (some connective) ++ (argument.connections (some connective) ++
        connectionsOfTerms (some connective) more))
  | .not inner => inner.connections none
  | .compare _ _ _ operand => operand.connections
  | .isAmong _ members => connectionsOfOperands members
  | .isWithin _ range => range.connections
  | .functionCall _ arguments => connectionsOfOperands arguments
  | .plain _ => []

/-- The connections in several terms. -/
def connectionsOfTerms (around : Option Connective) : List ConditionTerm → List Connection
  | [] => []
  | term :: rest => term.connections around ++ connectionsOfTerms around rest

/-- The connections in a term for an operand; in one for a query first those of the joins. -/
def OperandTerm.connections : OperandTerm → List Connection
  | .condition term => term.connections none
  | .query term =>
    term.joinConnections ++ (term.connection?.toList ++
      term.filterConnections (term.connection?.map Connection.connective))
  | .constant .. | .context .. | .column _ => []

/-- The connections in several terms for operands. -/
def connectionsOfOperands : List OperandTerm → List Connection
  | [] => []
  | term :: rest => term.connections ++ connectionsOfOperands rest

/-- The connections in the conditions of joins, in the order of the calls. -/
def QueryTerm.joinConnections : QueryTerm → List Connection
  | .fromTable _ => []
  | .select object _ => object.joinConnections
  | .filter object _ => object.joinConnections
  | .join object _ _ condition => object.joinConnections ++ condition.connections none

/-- The connections in the filters of a query, in the order of the calls. -/
def QueryTerm.filterConnections (around : Option Connective) : QueryTerm → List Connection
  | .fromTable _ => []
  | .select object _ => object.filterConnections around
  | .filter object condition => object.filterConnections around ++ condition.connections around
  | .join object _ _ _ => object.filterConnections around

end

/-! ## Taking apart -/

mutual

/-- The conditions that are left when junctions are taken apart, all of them or only those of
one kind, from left to right. -/
def Condition.takenApart (only : Option Connective) : Condition → List Condition
  | .junction connective parts =>
    if only.getD connective = connective then partsTakenApart only parts
    else [.junction connective parts]
  | condition => [condition]

/-- What is left of several conditions. -/
def partsTakenApart (only : Option Connective) : List Condition → List Condition
  | [] => []
  | part :: rest => part.takenApart only ++ partsTakenApart only rest

end

mutual

/-- The terms that are left when calls that connect are taken apart, all of them or only those
of one kind, from left to right. -/
def ConditionTerm.takenApart (only : Option Connective) : ConditionTerm → List ConditionTerm
  | .connect connective object argument more =>
    if only.getD connective = connective then
      object.takenApart only ++ (argument.takenApart only ++ termsTakenApart only more)
    else [.connect connective object argument more]
  | term => [term]

/-- What is left of several terms. -/
def termsTakenApart (only : Option Connective) : List ConditionTerm → List ConditionTerm
  | [] => []
  | term :: rest => term.takenApart only ++ termsTakenApart only rest

end

/-- The operands of a connection as they were written: in the calls of its own kind, or in all
calls that connect. -/
def Connection.operands (connection : Connection) (only : Option Connective) : List ConditionTerm :=
  termsTakenApart only (connection.first :: connection.second :: connection.rest)

/-- The junction is made of what is connected. -/
structure Connection.Makes (connection : Connection) (junction : Junction) : Prop where
  connective : junction.connective = connection.connective
  flat : junction.IsFlat
  parts : List.Forall₂ ConditionTerm.Builds (connection.operands (some connection.connective))
    junction.parts
  operands : List.Forall₂ ConditionTerm.Builds (connection.operands none)
    (partsTakenApart none junction.parts)

/-! ## What is left -/

theorem partsTakenApart_eq (only : Option Connective) (parts : List Condition) :
    partsTakenApart only parts = parts.flatMap (Condition.takenApart only) := by
  induction parts with
  | nil => rfl
  | cons part rest inductionHypothesis =>
    rw [partsTakenApart, inductionHypothesis, List.flatMap_cons]

/-- A condition that is no junction is left as it is. -/
theorem Condition.takenApart_of_not_junction {condition : Condition}
    (single : condition.isJunction = false) (only : Option Connective) :
    condition.takenApart only = [condition] := by
  cases condition with
  | junction => cases single
  | _ => rw [takenApart]; exact nofun

/-- It does not matter for what is left that a connection took the parts of an operand. -/
theorem Condition.takenApart_partsFor {only : Option Connective} {connective : Connective}
    (opens : only.getD connective = connective) (condition : Condition) :
    (condition.partsFor connective).flatMap (takenApart only) = condition.takenApart only := by
  cases condition with
  | junction own parts =>
    rw [partsFor]
    split_ifs with same
    · rw [takenApart, same, if_pos opens, partsTakenApart_eq]
    · exact List.flatMap_singleton _ _
  | _ => exact List.flatMap_singleton _ _

theorem partsTakenApart_flatMap {only : Option Connective} {connective : Connective}
    (opens : only.getD connective = connective) (conditions : List Condition) :
    partsTakenApart only (conditions.flatMap (Condition.partsFor connective)) =
      partsTakenApart only conditions := by
  rw [partsTakenApart_eq, partsTakenApart_eq, List.flatMap_assoc]
  exact List.flatMap_congr fun condition _ => condition.takenApart_partsFor opens

/-- Parts of other kinds are left when one kind is taken apart. -/
theorem partsTakenApart_eq_self {connective : Connective} {parts : List Condition}
    (unlike : ∀ inner, .junction connective inner ∉ parts) :
    partsTakenApart (some connective) parts = parts := by
  have kept : ∀ part ∈ parts, part.takenApart (some connective) = [part] := by
    intro part listed
    cases part with
    | junction own inner =>
      have different : ¬(some connective).getD own = own := by
        intro same
        have equal : connective = own := same
        exact unlike inner (equal ▸ listed)
      rw [Condition.takenApart, if_neg different]
    | _ => exact Condition.takenApart_of_not_junction rfl _
  rw [partsTakenApart_eq, List.flatMap_congr kept, List.flatMap_singleton']

/-- The term is a call that connects. -/
def ConditionTerm.connects : ConditionTerm → Bool
  | .connect .. => true
  | _ => false

theorem ConditionTerm.takenApart_of_not_connects {term : ConditionTerm}
    (single : term.connects = false) (only : Option Connective) : term.takenApart only = [term] := by
  cases term with
  | connect => cases single
  | _ => rw [takenApart]; exact nofun

/-! ## Calls that do not connect -/

/-- A comparison holds its operand, or else it is a test for nothing. -/
theorem Column.eq_of_comparing {column : Column} {comparator : Comparator} {operand : Operand}
    {result : Condition} (accepted : column.comparing comparator operand = .ok result) :
    result = .comparison column comparator operand ∨
      operand = .null ∧ ∃ negated, result = .nullTest column negated := by
  cases comparator with
  | equal =>
    rcases equals_cases accepted with ⟨rfl, rfl⟩ | compared
    · exact Or.inr ⟨rfl, false, rfl⟩
    · exact Or.inl (eq_of_compare compared)
  | different =>
    rcases differs_cases accepted with ⟨rfl, rfl⟩ | compared
    · exact Or.inr ⟨rfl, true, rfl⟩
    · exact Or.inl (eq_of_compare compared)
  | greater | atLeast | less | atMost | like | likeAnyCase => exact Or.inl (eq_of_compare accepted)

/-- A comparison is no junction, and the junctions in it are those in its operand. -/
theorem Column.junctions_of_comparing (column : Column) (comparator : Comparator)
    {operand : Operand} {result : Condition}
    (accepted : column.comparing comparator operand = .ok result) :
    result.isJunction = false ∧ result.junctions = operand.junctions := by
  rcases eq_of_comparing accepted with rfl | ⟨rfl, negated, rfl⟩
  · exact ⟨rfl, by rw [Condition.junctions]⟩
  · exact ⟨rfl, by rw [Condition.junctions]; rfl⟩

/-- There is no junction in what a call returns that takes no expression. -/
theorem PlainCall.junctions_of_build {call : PlainCall} {result : Condition}
    (built : call.build = .ok result) : result.isJunction = false ∧ result.junctions = [] := by
  cases call with
  | isNull column | isNotNull column | alwaysTrue =>
    cases built
    exact ⟨rfl, by rfl⟩
  | like column anyCase pattern =>
    rw [Column.eq_of_compare built]
    exact ⟨rfl, by rfl⟩
  | isOwner column => exact column.junctions_of_comparing .equal built
  | isPublic column => exact column.junctions_of_comparing .equal built
  | belongsToTenant column key =>
    rcases Column.belongsToTenant_eq_ok.mp built with ⟨value, -, rfl⟩
    exact ⟨rfl, by rfl⟩
  | isMemberOf column table key member =>
    rcases Column.isMemberOf_eq_ok.mp built with ⟨keyName, tableName, memberName, -, -, -, rfl⟩
    exact ⟨rfl, by rfl⟩
  | hasRole role =>
    rcases hasRole_eq_ok.mp built with ⟨-, rfl⟩
    exact ⟨rfl, by rfl⟩

/-- Only calls that connect return junctions. -/
theorem ConditionTerm.isJunction_of_builds {term : ConditionTerm} {condition : Condition}
    (built : term.Builds condition) (single : term.connects = false) :
    condition.isJunction = false := by
  cases term with
  | connect => cases single
  | not =>
    rcases builds_not.mp built with ⟨denied, -, rfl⟩
    rfl
  | compare column comparator =>
    rcases builds_compare.mp built with ⟨value, -, accepted⟩
    exact (column.junctions_of_comparing comparator accepted).1
  | isAmong =>
    rcases builds_isAmong.mp built with ⟨values, -, accepted⟩
    rcases Column.isAmong_eq_ok.mp accepted with ⟨-, -, rfl⟩
    rfl
  | isWithin =>
    rcases builds_isWithin.mp built with ⟨value, -, -, rfl⟩
    rfl
  | functionCall =>
    rcases builds_functionCall.mp built with ⟨values, -, accepted⟩
    rcases functionCall_eq_ok.mp accepted with ⟨path, -, -, rfl⟩
    rfl
  | plain => exact (PlainCall.junctions_of_build (builds_plain.mp built)).1

/-! ## Operands are kept in order -/

theorem ConditionTerm.builds_alone {term : ConditionTerm} {condition : Condition}
    (built : term.Builds condition) (single : term.connects = false) (only : Option Connective) :
    List.Forall₂ Builds (term.takenApart only) (condition.takenApart only) := by
  rw [takenApart_of_not_connects single, Condition.takenApart_of_not_junction
    (isJunction_of_builds built single)]
  exact .cons built .nil

mutual

/-- What is left of a condition is built by what is left of its term, one by one. -/
theorem ConditionTerm.builds_takenApart (only : Option Connective) :
    ∀ {term : ConditionTerm} {condition : Condition}, term.Builds condition →
      List.Forall₂ ConditionTerm.Builds (term.takenApart only) (condition.takenApart only)
  | .connect connective object argument more, condition, built => by
    rcases ConditionTerm.builds_connect.mp built with
      ⟨first, second, rest, objectBuilt, argumentBuilt, moreBuilt, equal⟩
    rw [connective.call_eq, Condition.connect] at equal
    by_cases opens : only.getD connective = connective
    · rw [equal, ConditionTerm.takenApart, Condition.takenApart, if_pos opens, if_pos opens,
        partsTakenApart_flatMap opens, partsTakenApart, partsTakenApart]
      exact List.rel_append (ConditionTerm.builds_takenApart only objectBuilt)
        (List.rel_append (ConditionTerm.builds_takenApart only argumentBuilt)
          (builds_termsTakenApart only moreBuilt))
    · rw [equal] at built
      rw [equal, ConditionTerm.takenApart, Condition.takenApart, if_neg opens, if_neg opens]
      exact .cons built .nil
  | .not _, _, built | .compare .., _, built | .isAmong .., _, built | .isWithin .., _, built
  | .functionCall .., _, built | .plain _, _, built => ConditionTerm.builds_alone built rfl only

theorem builds_termsTakenApart (only : Option Connective) :
    ∀ {terms : List ConditionTerm} {conditions : List Condition},
      List.Forall₂ ConditionTerm.Builds terms conditions →
        List.Forall₂ ConditionTerm.Builds (termsTakenApart only terms)
          (partsTakenApart only conditions)
  | [], _, .nil => by
    rw [termsTakenApart, partsTakenApart]
    exact .nil
  | _ :: _, _, .cons built restBuilt => by
    rw [termsTakenApart, partsTakenApart]
    exact List.rel_append (ConditionTerm.builds_takenApart only built)
      (builds_termsTakenApart only restBuilt)

end

/-- A call that connects, or several filters, make the junction of their conditions. -/
theorem Connection.makes_connect (connective : Connective) {object argument : ConditionTerm}
    {more : List ConditionTerm} {first second : Condition} {rest : List Condition}
    (objectBuilt : object.Builds first) (argumentBuilt : argument.Builds second)
    (moreBuilt : List.Forall₂ ConditionTerm.Builds more rest) :
    Makes ⟨connective, object, argument, more⟩
      ⟨connective, (first :: second :: rest).flatMap (Condition.partsFor connective)⟩ := by
  have built : (ConditionTerm.connect connective object argument more).Builds
      (.connect connective (first :: second :: rest)) :=
    ConditionTerm.builds_connect.mpr
      ⟨first, second, rest, objectBuilt, argumentBuilt, moreBuilt, (connective.call_eq _ _).symm⟩
  have genuine := (ConditionTerm.obtained built).genuine
  rw [Operand.Genuine, Condition.connect, Condition.Genuine] at genuine
  have flat : Junction.IsFlat
      ⟨connective, (first :: second :: rest).flatMap (Condition.partsFor connective)⟩ :=
    ⟨genuine.1, genuine.2.1⟩
  have each : ∀ only : Option Connective, only.getD connective = connective →
      List.Forall₂ ConditionTerm.Builds (operands ⟨connective, object, argument, more⟩ only)
        (partsTakenApart only
          ((first :: second :: rest).flatMap (Condition.partsFor connective))) := by
    intro only opens
    rw [partsTakenApart_flatMap opens]
    exact builds_termsTakenApart only (.cons objectBuilt (.cons argumentBuilt moreBuilt))
  refine ⟨rfl, flat, ?_, each none rfl⟩
  have parts := each (some connective) rfl
  rwa [partsTakenApart_eq_self flat.2] at parts

end Policy
end PolicyStudio
