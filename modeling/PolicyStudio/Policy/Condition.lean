import PolicyStudio.Calendar.Date
import PolicyStudio.Decimal.Shortest
import PolicyStudio.Sql.Identifier

/-!
# Conditions on rows

A condition is a tree: comparisons, null tests, memberships, function calls and
predicates given as text at the leaves, negations and junctions above them.  The
operands of a comparison are constants or expressions, and an expression may be
a condition or a sub-query in its turn, so the four types are defined together.

Two shapes, `unwritten`, stand for expressions that have no text at all.
-/

namespace PolicyStudio
namespace Policy

open Sql

/-- How the parts of a junction are connected. -/
inductive Connective where
  | all
  | any
deriving Repr, DecidableEq

/-- The word between the parts. -/
def Connective.word : Connective → String
  | .all => "AND"
  | .any => "OR"

/-- The operators that compare a column with one operand. -/
inductive Comparator where
  | equal
  | different
  | greater
  | atLeast
  | less
  | atMost
  | like
  | likeAnyCase
deriving Repr, DecidableEq

/-- The sign of a comparison. -/
def Comparator.sign : Comparator → String
  | .equal => "="
  | .different => "<>"
  | .greater => ">"
  | .atLeast => ">="
  | .less => "<"
  | .atMost => "<="
  | .like => "LIKE"
  | .likeAnyCase => "ILIKE"

/-- The ways of joining a table. -/
inductive JoinKind where
  | inner
  | left
  | right
  | full
deriving Repr, DecidableEq

namespace JoinKind

/-- The name of the kind. -/
def name : JoinKind → String
  | .inner => "INNER"
  | .left => "LEFT"
  | .right => "RIGHT"
  | .full => "FULL"

/-- The words that open the clause; the inner join needs no name. -/
def keyword : JoinKind → String
  | .inner => "JOIN"
  | kind => kind.name ++ " JOIN"

/-- The kind of a name in upper case. -/
def ofName? (name : String) : Option JoinKind :=
  [JoinKind.full, .inner, .left, .right].find? fun kind => kind.name == name

end JoinKind

/-- A column of the table a policy is on. -/
structure Column where
  name : Identifier
deriving DecidableEq

/-- The column as it stands in a statement. -/
def Column.render (column : Column) : String :=
  column.name.render

mutual

/-- A predicate on rows. -/
inductive Condition where
  | junction (connective : Connective) (parts : List Condition)
  | negation (inner : Condition)
  | comparison (column : Column) (comparator : Comparator) (operand : Operand)
  | nullTest (column : Column) (negated : Bool)
  | among (column : Column) (members : List Operand)
  /-- Membership in what an expression yields. -/
  | within (column : Column) (range : Operand)
  /-- A predicate written out as it is. -/
  | predicate (sql : String)
  | functionCall (name : QualifiedName) (arguments : List Operand)
  | unwritten

/-- The right-hand side of a comparison. -/
inductive Operand where
  | null
  | truth (value : Bool)
  | integer (value : Int)
  | number (value : Float)
  | text (value : String)
  | date (value : Calendar.Date)
  | dateTime (value : Calendar.DateTime)
  /-- A value of the request, given by its text. -/
  | context (sql : String)
  /-- A value of the request that was given something else than its text: how that is
  written among other text, and the name of its type. -/
  | foreign (shown type : String)
  | column (column : Column)
  | condition (condition : Condition)
  | query (query : Subquery)
  | unwritten (isQuery : Bool)

/-- A query used as a value.  Without columns it is not complete. -/
inductive Subquery where
  | mk (table : Identifier) (columns : List Identifier) (joins : List Join)
    (filter : Option Condition)

/-- A table joined to a query. -/
inductive Join where
  | mk (kind : JoinKind) (table : Identifier) (condition : Condition)

end

/-- Why an expression has no text. -/
inductive RenderError where
  /-- A sub-query selects nothing. -/
  | selectMissing (table : String)
  /-- An integer has more digits than may be written. -/
  | integerTooLong
  /-- Something in a list of texts is no text: its position, and its type. -/
  | textExpected (position : Nat) (type : String)
  /-- Expressions are nested too deep to be written. -/
  | tooDeep
  | unwritten
deriving Repr, DecidableEq

/-- Integers are written with at most so many digits. -/
def integerDigitLimit : Nat := 4300

/-- The text of an integer. -/
def integerText (n : Int) : Except RenderError String :=
  if n.natAbs < 10 ^ integerDigitLimit then
    .ok (if n < 0 then "-" ++ n.natAbs.repr else n.natAbs.repr)
  else .error .integerTooLong

end Policy
end PolicyStudio
