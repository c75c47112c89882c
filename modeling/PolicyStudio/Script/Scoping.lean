import PolicyStudio.Script.Tree

/-!
# Which names a function binds

A name that is bound anywhere in the body of a function is local to the whole
function, unless the body declares it global.  Here the bound names are gathered:
from the targets of statements, and from assignments inside expressions, which
reach out of comprehensions but not out of inner functions.
-/

namespace PolicyStudio
namespace Script

/-- What an expression does to the function around it. -/
inductive Mark where
  | binds (name : String)
  | yields
deriving Repr, DecidableEq

/-- The parts of parameters that are evaluated outside of the function. -/
def Parameters.outside : Parameters → List Expression × List (Option Expression)
  | .mk _ _ _ _ _ defaults keywordDefaults => (defaults, keywordDefaults)

mutual

/-- The marks of an expression. -/
def Expression.marks : Expression → List Mark
  | .formatted parts => marksOfParts parts
  | .attribute _ value _ => value.marks
  | .subscript value index => value.marks ++ index.marks
  | .slice start stop step => marksOfOption start ++ marksOfOption stop ++ marksOfOption step
  | .call _ function arguments => function.marks ++ marksOfArguments arguments
  | .unary _ operand => operand.marks
  | .binary _ left right => left.marks ++ right.marks
  | .conjunction operands => marksOfList operands
  | .disjunction operands => marksOfList operands
  | .comparison left rest => left.marks ++ marksOfRest rest
  | .conditional test yes no => test.marks ++ yes.marks ++ no.marks
  | .lambda _ parameters _ => parameters.marks
  | .list items => marksOfList items
  | .tuple items => marksOfList items
  | .set items => marksOfList items
  | .dictionary entries => marksOfEntries entries
  | .comprehension _ element clauses => element.marks ++ marksOfClauses clauses
  | .dictionaryComprehension key value clauses => key.marks ++ value.marks ++ marksOfClauses clauses
  | .assignment _ name value => .binds name :: value.marks
  | .starred _ value => value.marks
  | .yielded _ value => .yields :: marksOfOption value
  | .yieldedFrom _ value => .yields :: value.marks
  | _ => []

/-- The marks of several expressions. -/
def marksOfList : List Expression → List Mark
  | [] => []
  | e :: rest => e.marks ++ marksOfList rest

/-- The marks of an expression that may be absent. -/
def marksOfOption : Option Expression → List Mark
  | none => []
  | some e => e.marks

/-- The marks of expressions that may be absent. -/
def marksOfOptions : List (Option Expression) → List Mark
  | [] => []
  | e :: rest => marksOfOption e ++ marksOfOptions rest

/-- The marks of the pieces of a formatted text. -/
def marksOfParts : List FormattedPart → List Mark
  | [] => []
  | .literal _ :: rest => marksOfParts rest
  | .field value _ format :: rest =>
    value.marks ++ marksOfFormat format ++ marksOfParts rest

/-- The marks of a format. -/
def marksOfFormat : Option (List FormattedPart) → List Mark
  | none => []
  | some parts => marksOfParts parts

/-- The marks of arguments. -/
def marksOfArguments : List Argument → List Mark
  | [] => []
  | .positional e :: rest => e.marks ++ marksOfArguments rest
  | .spread e :: rest => e.marks ++ marksOfArguments rest
  | .named _ _ e :: rest => e.marks ++ marksOfArguments rest
  | .spreadNamed e :: rest => e.marks ++ marksOfArguments rest

/-- The marks of the operands of a comparison. -/
def marksOfRest : List (ComparisonOperator × Expression) → List Mark
  | [] => []
  | (_, e) :: rest => e.marks ++ marksOfRest rest

/-- The marks of the entries of a dictionary. -/
def marksOfEntries : List DictionaryEntry → List Mark
  | [] => []
  | .mk key value :: rest => marksOfOption key ++ value.marks ++ marksOfEntries rest

/-- The marks of the clauses of a comprehension. -/
def marksOfClauses : List Clause → List Mark
  | [] => []
  | .mk target iterable tests _ :: rest =>
    target.marks ++ iterable.marks ++ marksOfList tests ++ marksOfClauses rest

/-- The marks of the default values of parameters. -/
def Parameters.marks : Parameters → List Mark
  | .mk _ _ _ _ _ defaults keywordDefaults => marksOfList defaults ++ marksOfOptions keywordDefaults

end

mutual

/-- The names that a target binds. -/
def Expression.targetNames : Expression → List String
  | .name _ name => [name]
  | .tuple items => targetNamesOfList items
  | .list items => targetNamesOfList items
  | .starred _ value => value.targetNames
  | _ => []

/-- The names that several targets bind. -/
def targetNamesOfList : List Expression → List String
  | [] => []
  | e :: rest => e.targetNames ++ targetNamesOfList rest

end

/-- The names that are bound by marks. -/
def boundBy (marks : List Mark) : List String :=
  marks.filterMap fun mark => match mark with
    | .binds name => some name
    | .yields => none

/-- The name under which an import is bound: its own, up to the first dot. -/
def Alias.boundName (a : Alias) : String :=
  match a.rename with
  | some name => name
  | none => String.ofList (a.name.toList.takeWhile (· != '.'))

/-- What a body says about the names of its function. -/
structure Bindings where
  bound : List String := []
  globals : List String := []
  yields : Bool := false

namespace Bindings

/-- Both together. -/
def append (a b : Bindings) : Bindings :=
  ⟨a.bound ++ b.bound, a.globals ++ b.globals, a.yields || b.yields⟩

instance : Append Bindings := ⟨append⟩

/-- What marks say. -/
def ofMarks (marks : List Mark) : Bindings :=
  ⟨boundBy marks, [], marks.contains .yields⟩

/-- What an expression says. -/
def ofExpression (e : Expression) : Bindings :=
  ofMarks e.marks

/-- What a target says. -/
def ofTarget (e : Expression) : Bindings :=
  ⟨e.targetNames, [], false⟩ ++ ofMarks e.marks

/-- What several things say. -/
def ofAll {α : Type} (f : α → Bindings) (items : List α) : Bindings :=
  items.foldl (fun sum item => sum ++ f item) {}

/-- What an expression that may be absent says. -/
def ofOption (e : Option Expression) : Bindings :=
  ofMarks (marksOfOption e)

end Bindings

mutual

/-- What a statement says about the names of the function around it. -/
def Statement.bindings : Statement → Bindings
  | .expression value => .ofExpression value
  | .assign targets value => .ofAll .ofTarget targets ++ .ofExpression value
  | .update _ target _ value => .ofTarget target ++ .ofExpression value
  | .delete targets => .ofAll .ofTarget targets
  | .pass | .break _ | .continue _ | .refused _ _ => {}
  | .return value => .ofOption value
  | .raise error cause => .ofOption error ++ .ofOption cause
  | .assert _ test message => .ofExpression test ++ .ofOption message
  | .branch test body alternative =>
    .ofExpression test ++ bindingsOf body ++ bindingsOf alternative
  | .loop _ test body alternative =>
    .ofExpression test ++ bindingsOf body ++ bindingsOf alternative
  | .iterate _ target iterable body alternative =>
    .ofTarget target ++ .ofExpression iterable ++ bindingsOf body ++ bindingsOf alternative
  | .attempt _ body handlers alternative final =>
    bindingsOf body ++ bindingsOfHandlers handlers ++ bindingsOf alternative ++ bindingsOf final
  | .function _ _ name parameters _ decorators _ =>
    { bound := [name] } ++ .ofMarks parameters.marks ++ .ofAll .ofExpression decorators
  | .classDefinition _ name bases _ decorators =>
    { bound := [name] } ++ .ofMarks (marksOfArguments bases) ++ .ofAll .ofExpression decorators
  | .importNames _ names => { bound := names.map Alias.boundName }
  | .importFrom _ names => { bound := names.map Alias.boundName }
  | .global _ names => { globals := names }
  | .scoped _ items body =>
    .ofAll (fun item => .ofExpression item.1 ++
      (match item.2 with
        | some target => .ofTarget target
        | none => {})) items ++ bindingsOf body

/-- What statements say. -/
def bindingsOf : List Statement → Bindings
  | [] => {}
  | s :: rest => s.bindings ++ bindingsOf rest

/-- What handlers say. -/
def bindingsOfHandlers : List Handler → Bindings
  | [] => {}
  | .mk _ error name body :: rest =>
    .ofOption error ++ { bound := name.toList } ++ bindingsOf body ++ bindingsOfHandlers rest

end

namespace Parameter

/-- The name of a parameter. -/
def name : Parameter → String
  | .mk _ name _ => name

/-- The line of a parameter. -/
def line : Parameter → Nat
  | .mk line _ _ => line

/-- The hint that stands at a parameter. -/
def hint : Parameter → Option Expression
  | .mk _ _ hint => hint

end Parameter

namespace Parameters

/-- All parameters, in the order in which they are checked. -/
def all : Parameters → List Parameter
  | .mk positionalOnly positional rest keywordOnly keywordRest _ _ =>
    positionalOnly ++ positional ++ rest.toList ++ keywordOnly ++ keywordRest.toList

/-- The names that the parameters bind. -/
def names (p : Parameters) : List String :=
  p.all.map Parameter.name

/-- The parameters of one name only, each once. -/
def distinctNames (names : List String) : List String :=
  names.foldr (fun name rest => if rest.contains name then rest else name :: rest) []

end Parameters

/-- The local names of a function: its parameters and what its body binds, less
what the body declares global. -/
def localNames (parameters : List String) (body : Bindings) : List String :=
  Parameters.distinctNames
    ((parameters ++ body.bound).filter fun name => !body.globals.contains name)

end Script
end PolicyStudio
