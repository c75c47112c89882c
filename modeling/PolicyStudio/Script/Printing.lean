import PolicyStudio.Script.Scoping

/-!
# Which functions print

Two names stand for printing: one for the function that prints, one for the text
that was printed.  A function has a place for printed text of its own if one of
the two names occurs in its definition, in its body as well as in its default
values, its hints and what decorates it.  Functions without a name use the place
of the function around them.
-/

namespace PolicyStudio
namespace Script

/-- The name stands for printing or for what was printed. -/
def isPrintingName (name : String) : Bool :=
  name == "print" || name == "printed"

mutual

/-- A printing name occurs in an expression. -/
def Expression.prints : Expression → Bool
  | .formatted parts => partsPrint parts
  | .name _ name => isPrintingName name
  | .attribute _ value _ => value.prints
  | .subscript value index => value.prints || index.prints
  | .slice start stop step => optionPrints start || optionPrints stop || optionPrints step
  | .call _ function arguments => function.prints || argumentsPrint arguments
  | .unary _ operand => operand.prints
  | .binary _ left right => left.prints || right.prints
  | .conjunction operands => listPrints operands
  | .disjunction operands => listPrints operands
  | .comparison left rest => left.prints || restPrints rest
  | .conditional test yes no => test.prints || yes.prints || no.prints
  | .lambda _ parameters body => parameters.print || body.prints
  | .list items => listPrints items
  | .tuple items => listPrints items
  | .set items => listPrints items
  | .dictionary entries => entriesPrint entries
  | .comprehension _ element clauses => element.prints || clausesPrint clauses
  | .dictionaryComprehension key value clauses =>
    key.prints || value.prints || clausesPrint clauses
  | .assignment _ _ value => value.prints
  | .starred _ value => value.prints
  | .yielded _ value => optionPrints value
  | .yieldedFrom _ value => value.prints
  | .nothing | .truth _ | .integer _ | .number _ | .imaginary _ | .text _ | .bytes _ | .ellipsis
  | .refused .. => false

/-- A printing name occurs in one of several expressions. -/
def listPrints : List Expression → Bool
  | [] => false
  | e :: rest => e.prints || listPrints rest

/-- A printing name occurs in an expression that may be absent. -/
def optionPrints : Option Expression → Bool
  | none => false
  | some e => e.prints

/-- A printing name occurs in one of several expressions that may be absent. -/
def optionsPrint : List (Option Expression) → Bool
  | [] => false
  | e :: rest => optionPrints e || optionsPrint rest

/-- A printing name occurs in the pieces of a formatted text. -/
def partsPrint : List FormattedPart → Bool
  | [] => false
  | .literal _ :: rest => partsPrint rest
  | .field value _ format :: rest => value.prints || formatPrints format || partsPrint rest

/-- A printing name occurs in a format. -/
def formatPrints : Option (List FormattedPart) → Bool
  | none => false
  | some parts => partsPrint parts

/-- A printing name occurs in arguments. -/
def argumentsPrint : List Argument → Bool
  | [] => false
  | .positional e :: rest | .spread e :: rest | .named _ _ e :: rest | .spreadNamed e :: rest =>
    e.prints || argumentsPrint rest

/-- A printing name occurs in the operands of a comparison. -/
def restPrints : List (ComparisonOperator × Expression) → Bool
  | [] => false
  | (_, e) :: rest => e.prints || restPrints rest

/-- A printing name occurs in the entries of a dictionary. -/
def entriesPrint : List DictionaryEntry → Bool
  | [] => false
  | .mk key value :: rest => optionPrints key || value.prints || entriesPrint rest

/-- A printing name occurs in the clauses of a comprehension. -/
def clausesPrint : List Clause → Bool
  | [] => false
  | .mk target iterable tests _ :: rest =>
    target.prints || iterable.prints || listPrints tests || clausesPrint rest

/-- A printing name occurs in the hint of a parameter. -/
def Parameter.prints : Parameter → Bool
  | .mk _ _ hint => optionPrints hint

/-- A printing name occurs in the hint of one of several parameters. -/
def parametersPrint : List Parameter → Bool
  | [] => false
  | parameter :: rest => parameter.prints || parametersPrint rest

/-- A printing name occurs in the hint of a parameter that may be absent. -/
def parameterPrints : Option Parameter → Bool
  | none => false
  | some parameter => parameter.prints

/-- A printing name occurs in hints or default values. -/
def Parameters.print : Parameters → Bool
  | .mk positionalOnly positional rest keywordOnly keywordRest defaults keywordDefaults =>
    parametersPrint positionalOnly || parametersPrint positional || parameterPrints rest ||
      parametersPrint keywordOnly || parameterPrints keywordRest || listPrints defaults ||
      optionsPrint keywordDefaults

end

/-- A printing name occurs in contexts. -/
def contextsPrint (items : List (Expression × Option Expression)) : Bool :=
  items.any fun item => item.1.prints || optionPrints item.2

mutual

/-- A printing name occurs in a statement, but not in a definition of a function,
which has a place of its own. -/
def Statement.prints : Statement → Bool
  | .expression value => value.prints
  | .assign targets value => listPrints targets || value.prints
  | .update _ target _ value => target.prints || value.prints
  | .delete targets => listPrints targets
  | .return value => optionPrints value
  | .raise error cause => optionPrints error || optionPrints cause
  | .assert _ test message => test.prints || optionPrints message
  | .branch test body alternative => test.prints || bodyPrints body || bodyPrints alternative
  | .loop _ test body alternative => test.prints || bodyPrints body || bodyPrints alternative
  | .iterate _ target iterable body alternative =>
    target.prints || iterable.prints || bodyPrints body || bodyPrints alternative
  | .attempt _ body handlers alternative final =>
    bodyPrints body || handlersPrint handlers || bodyPrints alternative || bodyPrints final
  | .classDefinition _ _ bases body decorators =>
    argumentsPrint bases || bodyPrints body || listPrints decorators
  | .scoped _ items body => contextsPrint items || bodyPrints body
  | .pass | .break _ | .continue _ | .global .. | .importNames .. | .importFrom .. | .refused ..
  | .function .. => false

/-- A printing name occurs in statements. -/
def bodyPrints : List Statement → Bool
  | [] => false
  | s :: rest => s.prints || bodyPrints rest

/-- A printing name occurs in handlers. -/
def handlersPrint : List Handler → Bool
  | [] => false
  | .mk _ error _ body :: rest => optionPrints error || bodyPrints body || handlersPrint rest

end

/-- A function with this definition has a place for printed text. -/
def definitionPrints (parameters : Parameters) (body : List Statement)
    (decorators : List Expression) (result : Option Expression) : Bool :=
  parameters.print || bodyPrints body || listPrints decorators || optionPrints result

end Script
end PolicyStudio
