import PolicyStudio.Policy.Templates
import PolicyStudio.Script.Dictionary
import PolicyStudio.Script.Members
import PolicyStudio.Script.Signature
import PolicyStudio.Script.Tree

/-!
# Objects

What can change, or is told apart from its equals, is kept on a heap: containers,
the state of iterations, functions and their frames, errors, and the parts of the
policy language.
-/

namespace PolicyStudio
namespace Script

open Policy

/-- Which part of a dictionary a view or an iteration shows. -/
inductive DictionaryPart where
  | keys
  | values
  | items
deriving Repr, DecidableEq

/-- Where names are looked up: frames from the inside out, and the path to the
code, which names the functions defined there. -/
structure Scope where
  frames : List Address
  path : String
deriving Repr, DecidableEq

/-- What is built from the elements that a comprehension meets. -/
inductive Element where
  | one (element : Expression)
  | entry (key value : Expression)

/-- A comprehension under way: the iterations that are open, innermost first,
each with the clause that it belongs to and the clauses after it. -/
structure ComprehensionState where
  scope : Scope
  element : Element
  running : List (Value × Clause × List Clause)

/-- The state of an iteration. -/
inductive Iteration where
  /-- A list is read by position, so it may grow meanwhile. -/
  | list (source : Address) (position : Nat)
  | values (kind : BasicType) (rest : List Value)
  | range (next stop step : Int)
  /-- A dictionary is read slot by slot.  It must keep its size, which is forgotten
  once it has not, and only as many elements are to come as it had at first. -/
  | dictionary (source : Address) (part : DictionaryPart) (position : Nat) (size : Option Nat)
    (left : Nat)
  /-- A set is read place by place.  It must keep its size, too. -/
  | set (source : Address) (position : Nat) (size : Option Nat)
  | enumerate (source : Value) (count : Int)
  | map (function : Value) (sources : List Value)
  | filter (function : Value) (source : Value)
  | generator (state : ComprehensionState)
  /-- A call that has not started and yields elements. -/
  | suspended (function : Address) (frame : Address)
  | spent (kind : BasicType)

/-- What a call of a binding of the host does, once it is recorded. -/
inductive HostAction where
  | answer (value : Value)
  /-- Answer with the number of calls made so far. -/
  | count
  | raise (kind : ErrorKind) (arguments : List Value)
  /-- The time limit runs out. -/
  | expire

/-- The body of a function. -/
inductive Body where
  | statements (body : List Statement)
  | expression (body : Expression)

/-- A function of a program. -/
structure Closure where
  name : String
  path : String
  signature : Signature
  defaults : List (String × Value)
  body : Body
  locals : List String
  globals : List String
  isGenerator : Bool
  /-- Calls of the function have a place for printed text. -/
  prints : Bool
  scope : Scope

/-- What a frame belongs to.  The global frame is the outermost one of a run. -/
inductive FrameKind where
  | global
  | function
  | lambda
  | comprehension
deriving Repr, DecidableEq

/-- The variables of one call.  Names among `globals` belong to the global frame
although the code of the call binds them. -/
structure Frame where
  kind : FrameKind
  locals : List String
  globals : List String
  entries : List (String × Value)
  /-- What was printed during the call. -/
  printed : String
  /-- What the call has yielded. -/
  yielded : Array Value
  /-- There is a place for printed text. -/
  prints : Bool

/-- A part of the policy language as an object. -/
inductive PolicyObject where
  | auth
  | session
  | templates
  | contextValue (value : ContextValue)
  /-- A value of the request that was given something else than its text. -/
  | foreignContext (value : Value)
  | column (column : Column)
  | condition (condition : Condition)
  | query (query : Subquery)
  | definition (policy : Definition)
  /-- An expression that has no text. -/
  | unwritten (isQuery : Bool)

/-- What is kept on the heap. -/
inductive Object where
  | plain
  | list (items : Array Value)
  | dictionary (entries : Dictionary)
  | set (members : Members)
  | view (part : DictionaryPart) (source : Address)
  | iteration (state : Iteration)
  | closure (closure : Closure)
  | host (name : String) (action : HostAction)
  /-- The class of the errors that are meant for the host.  Programs have no name for it. -/
  | interruptClass
  /-- An error with its arguments, and what its kind makes of them, by name. -/
  | error (kind : ErrorKind) (arguments : List Value) (details : List (String × Value))
  | policy (object : PolicyObject)
  | frame (frame : Frame)

instance : Inhabited Object := ⟨.plain⟩

end Script
end PolicyStudio
