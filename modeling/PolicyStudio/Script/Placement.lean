import PolicyStudio.Script.Scoping

/-!
# What stands in the wrong place

A program may be well formed and still not make sense: a loop is left where there
is none, a parameter is declared twice, a name is declared global after it was
used.  Two walks find such faults, and the first fault that is met is reported:
one walk over the names, and then one over everything else.
-/

namespace PolicyStudio
namespace Script

/-- What stands in the wrong place. -/
inductive Misplacement where
  | repeatedParameter (name : String)
  | globalParameter (name : String)
  | globalAfterUse (name : String)
  | globalAfterAssignment (name : String)
  /-- A clause of a comprehension has the name already. -/
  | reassignedByClause (name : String)
  /-- A clause of a comprehension takes a name that was assigned inside. -/
  | takenByClause (name : String)
  | assignmentInIterable
  | assignmentInClass
  /-- A `yield` in a comprehension, by the name of what it builds. -/
  | yieldInside (comprehension : String)
  | breakOutside
  | continueOutside
  | handlerForAllFirst
  | repeatedArgument (name : String)
  | strayStar
  | loneStarredTarget
  | severalStarredTargets
  | tooManyBlocks
deriving Repr, DecidableEq

/-- The wording of a misplacement. -/
def Misplacement.message : Misplacement → String
  | .repeatedParameter name => "duplicate argument '" ++ name ++ "' in function definition"
  | .globalParameter name => "name '" ++ name ++ "' is parameter and global"
  | .globalAfterUse name => "name '" ++ name ++ "' is used prior to global declaration"
  | .globalAfterAssignment name =>
    "name '" ++ name ++ "' is assigned to before global declaration"
  | .reassignedByClause name =>
    "assignment expression cannot rebind comprehension iteration variable '" ++ name ++ "'"
  | .takenByClause name =>
    "comprehension inner loop cannot rebind assignment expression target '" ++ name ++ "'"
  | .assignmentInIterable =>
    "assignment expression cannot be used in a comprehension iterable expression"
  | .assignmentInClass =>
    "assignment expression within a comprehension cannot be used in a class body"
  | .yieldInside comprehension => "'yield' inside " ++ comprehension
  | .breakOutside => "'break' outside loop"
  | .continueOutside => "'continue' not properly in loop"
  | .handlerForAllFirst => "default 'except:' must be last"
  | .repeatedArgument name => "keyword argument repeated: " ++ name
  | .strayStar => "can't use starred expression here"
  | .loneStarredTarget => "starred assignment target must be in a list or tuple"
  | .severalStarredTargets => "multiple starred expressions in assignment"
  | .tooManyBlocks => "too many statically nested blocks"

/-- A misplacement on a line. -/
structure Misplaced where
  line : Nat
  cause : Misplacement
deriving Repr, DecidableEq

/-! ## Names -/

/-- What has been seen of a name in a block. -/
structure NameUse where
  isParameter : Bool := false
  isBound : Bool := false
  isRead : Bool := false
  isGlobal : Bool := false
  /-- It belongs to the function around. -/
  reachesOut : Bool := false
  /-- A clause of a comprehension binds it. -/
  isIterated : Bool := false

/-- What a block of names belongs to. -/
inductive BlockKind where
  | function
  | classBody
  | comprehension (built : String)
deriving Repr, DecidableEq

/-- A block of names. -/
structure NameBlock where
  kind : BlockKind
  uses : List (String × NameUse) := []
  /-- How many iterables of comprehensions are open. -/
  iterables : Nat := 0
  /-- The target of a clause is being walked through. -/
  inTarget : Bool := false

namespace NameBlock

/-- What has been seen of a name. -/
def use (block : NameBlock) (name : String) : NameUse :=
  (block.uses.lookup name).getD {}

/-- The block after something was seen of a name. -/
def note (block : NameBlock) (name : String) (f : NameUse → NameUse) : NameBlock :=
  { block with uses := (name, f (block.use name)) :: block.uses }

end NameBlock

/-- A walk over names; the blocks that are open, the innermost first. -/
abbrev NameWalk := StateT (List NameBlock) (Except Misplaced)

namespace NameWalk

/-- Report a misplacement. -/
def misplaced {α : Type} (line : Nat) (cause : Misplacement) : NameWalk α :=
  throw ⟨line, cause⟩

/-- The innermost block. -/
def current : NameWalk NameBlock :=
  return (← get).head?.getD ⟨.function, [], 0, false⟩

/-- Change the innermost block. -/
def change (f : NameBlock → NameBlock) : NameWalk Unit :=
  modify fun blocks => match blocks with
    | [] => []
    | block :: rest => f block :: rest

/-- Walk within a new block. -/
def within (kind : BlockKind) (walk : NameWalk Unit) : NameWalk Unit := do
  modify fun blocks => { kind } :: blocks
  walk
  modify List.tail

/-- A name is read. -/
def reads (name : String) : NameWalk Unit :=
  change fun block => block.note name fun use => { use with isRead := true }

/-- A name is bound on a line. -/
def binds (line : Nat) (name : String) : NameWalk Unit := do
  let block ← current
  let use := block.use name
  if block.inTarget && (use.isGlobal || use.reachesOut) then
    misplaced line (.takenByClause name)
  change fun block => block.note name fun use =>
    { use with isBound := true, isIterated := use.isIterated || block.inTarget }

/-- A parameter is declared. -/
def declares (parameter : Parameter) : NameWalk Unit := do
  let name := parameter.name
  if ((← current).use name).isParameter then
    misplaced parameter.line (.repeatedParameter name)
  change fun block => block.note name fun use => { use with isParameter := true }

/-- Parameters are declared. -/
def declaresAll : Parameters → NameWalk Unit
  | .mk positionalOnly positional rest keywordOnly keywordRest _ _ =>
    (positionalOnly ++ positional ++ keywordOnly ++ rest.toList ++ keywordRest.toList).forM
      declares

/-- A name is declared global. -/
def declaresGlobal (line : Nat) (name : String) : NameWalk Unit := do
  let use := (← current).use name
  if use.isParameter then misplaced line (.globalParameter name)
  if use.isRead then misplaced line (.globalAfterUse name)
  if use.isBound then misplaced line (.globalAfterAssignment name)
  change fun block => block.note name fun use => { use with isGlobal := true }

/-- The blocks after a name was assigned inside of a comprehension: it belongs to
the function around all comprehensions. -/
def assignedInside (line : Nat) (name : String) :
    List NameBlock → Except Misplaced (List NameBlock × Bool)
  | [] => .ok ([], false)
  | block :: rest => match block.kind with
    | .comprehension _ => do
      if (block.use name).isIterated then throw ⟨line, .reassignedByClause name⟩
      let (rest, isGlobal) ← assignedInside line name rest
      return (block :: rest, isGlobal)
    | .function =>
      .ok (block.note name (fun use => { use with isBound := true }) :: rest,
        (block.use name).isGlobal)
    | .classBody => throw ⟨line, .assignmentInClass⟩

/-- A name is assigned inside of an expression. -/
def assigns (line : Nat) (name : String) : NameWalk Unit := do
  let block ← current
  if block.iterables ≠ 0 then misplaced line .assignmentInIterable
  match block.kind with
  | .comprehension _ => do
    let (blocks, isGlobal) ← assignedInside line name (← get)
    set blocks
    change fun block => block.note name fun use =>
      if isGlobal then { use with isGlobal := true } else { use with reachesOut := true }
  | _ => return ()

/-- Walk through an iterable of a comprehension. -/
def asIterable (walk : NameWalk Unit) : NameWalk Unit := do
  change fun block => { block with iterables := block.iterables + 1 }
  walk
  change fun block => { block with iterables := block.iterables - 1 }

/-- Walk through the target of a clause. -/
def asTarget (walk : NameWalk Unit) : NameWalk Unit := do
  change fun block => { block with inTarget := true }
  walk
  change fun block => { block with inTarget := false }

/-- There is a `yield` on a line. -/
def yields (line : Nat) : NameWalk Unit := do
  match (← current).kind with
  | .comprehension built => misplaced line (.yieldInside built)
  | _ => return ()

end NameWalk

open NameWalk

/-- What a comprehension builds, in words. -/
def ComprehensionKind.words : ComprehensionKind → String
  | .list => "list comprehension"
  | .set => "set comprehension"
  | .generator => "generator expression"

/-- Walk through a hint. -/
def Parameter.walkHint (walk : Expression → NameWalk Unit) (parameter : Parameter) :
    NameWalk Unit :=
  match parameter.hint with
  | some e => walk e
  | none => return ()

mutual

/-- Walk over the names of an expression; `isBound` tells that it is a target. -/
def Expression.walkNames (isBound : Bool) : Expression → NameWalk Unit
  | .formatted parts => walkNamesOfParts parts
  | .name line name =>
    if isBound then binds line name
    else if name == "print" || name == "printed" then return ()
    else reads name
  | .attribute _ value _ => value.walkNames false
  | .subscript value index => do
    value.walkNames false
    index.walkNames false
  | .slice start stop step => do
    walkNamesOfOption start
    walkNamesOfOption stop
    walkNamesOfOption step
  | .call _ function arguments => do
    function.walkNames false
    walkNamesOfPositional arguments
    walkNamesOfNamed arguments
  | .unary _ operand => operand.walkNames false
  | .binary _ left right => do
    left.walkNames false
    right.walkNames false
  | .conjunction operands => walkNamesOfList false operands
  | .disjunction operands => walkNamesOfList false operands
  | .comparison left rest => do
    left.walkNames false
    walkNamesOfRest rest
  | .conditional test yes no => do
    test.walkNames false
    yes.walkNames false
    no.walkNames false
  | .lambda _ parameters body => do
    parameters.walkDefaults
    within .function do
      declaresAll parameters
      body.walkNames false
  | .list items => walkNamesOfList isBound items
  | .tuple items => walkNamesOfList isBound items
  | .set items => walkNamesOfList false items
  | .dictionary entries => do
    walkNamesOfKeys entries
    walkNamesOfValues entries
  | .comprehension kind element clauses =>
    walkNamesOfClauses kind.words (element.walkNames false) true clauses
  | .dictionaryComprehension key value clauses =>
    walkNamesOfClauses "dict comprehension"
      (do value.walkNames false; key.walkNames false) true clauses
  | .assignment line name value => do
    assigns line name
    value.walkNames false
    binds line name
  | .starred _ value => value.walkNames isBound
  | .yielded line value => do
    walkNamesOfOption value
    yields line
  | .yieldedFrom line value => do
    value.walkNames false
    yields line
  | .nothing | .truth _ | .integer _ | .number _ | .imaginary _ | .text _ | .bytes _
  | .ellipsis | .refused .. => return ()

/-- Walk over the names of several expressions. -/
def walkNamesOfList (isBound : Bool) : List Expression → NameWalk Unit
  | [] => return ()
  | e :: rest => do
    e.walkNames isBound
    walkNamesOfList isBound rest

/-- Walk over the names of an expression that may be absent. -/
def walkNamesOfOption : Option Expression → NameWalk Unit
  | none => return ()
  | some e => e.walkNames false

/-- Walk over the names of expressions that may be absent. -/
def walkNamesOfOptions : List (Option Expression) → NameWalk Unit
  | [] => return ()
  | e :: rest => do
    walkNamesOfOption e
    walkNamesOfOptions rest

/-- Walk over the names of the pieces of a formatted text. -/
def walkNamesOfParts : List FormattedPart → NameWalk Unit
  | [] => return ()
  | .literal _ :: rest => walkNamesOfParts rest
  | .field value _ format :: rest => do
    value.walkNames false
    walkNamesOfFormat format
    walkNamesOfParts rest

/-- Walk over the names of a format. -/
def walkNamesOfFormat : Option (List FormattedPart) → NameWalk Unit
  | none => return ()
  | some parts => walkNamesOfParts parts

/-- Walk over the names of the arguments that are given by position. -/
def walkNamesOfPositional : List Argument → NameWalk Unit
  | [] => return ()
  | .positional e :: rest => do
    e.walkNames false
    walkNamesOfPositional rest
  | .spread e :: rest => do
    e.walkNames false
    walkNamesOfPositional rest
  | _ :: rest => walkNamesOfPositional rest

/-- Walk over the names of the arguments that are given by name. -/
def walkNamesOfNamed : List Argument → NameWalk Unit
  | [] => return ()
  | .named _ _ e :: rest => do
    e.walkNames false
    walkNamesOfNamed rest
  | .spreadNamed e :: rest => do
    e.walkNames false
    walkNamesOfNamed rest
  | _ :: rest => walkNamesOfNamed rest

/-- Walk over the names of the operands of a comparison. -/
def walkNamesOfRest : List (ComparisonOperator × Expression) → NameWalk Unit
  | [] => return ()
  | (_, e) :: rest => do
    e.walkNames false
    walkNamesOfRest rest

/-- Walk over the names of the keys of a dictionary. -/
def walkNamesOfKeys : List DictionaryEntry → NameWalk Unit
  | [] => return ()
  | .mk key _ :: rest => do
    walkNamesOfOption key
    walkNamesOfKeys rest

/-- Walk over the names of the values of a dictionary. -/
def walkNamesOfValues : List DictionaryEntry → NameWalk Unit
  | [] => return ()
  | .mk _ value :: rest => do
    value.walkNames false
    walkNamesOfValues rest

/-- Walk over the names of the clauses of a comprehension and of what it builds.
The iterable of the first clause belongs to the block around. -/
def walkNamesOfClauses (built : String) (element : NameWalk Unit) (isFirst : Bool) :
    List Clause → NameWalk Unit
  | [] => element
  | .mk target iterable tests _ :: rest => do
    let inside : NameWalk Unit := do
      asTarget (target.walkNames true)
      if !isFirst then asIterable (iterable.walkNames false)
      walkNamesOfList false tests
      walkNamesOfClauses built element false rest
    if isFirst then
      asIterable (iterable.walkNames false)
      within (.comprehension built) inside
    else inside

/-- Walk over the names of default values. -/
def Parameters.walkDefaults : Parameters → NameWalk Unit
  | .mk _ _ _ _ _ defaults keywordDefaults => do
    walkNamesOfList false defaults
    walkNamesOfOptions keywordDefaults

end

/-- Walk over the names of the hints at parameters. -/
def Parameters.walkHints : Parameters → NameWalk Unit
  | .mk positionalOnly positional rest keywordOnly keywordRest _ _ =>
    (positional ++ positionalOnly ++ rest.toList ++ keywordOnly ++ keywordRest.toList).forM
      (Parameter.walkHint (Expression.walkNames false))

mutual

/-- Walk over the names of a statement. -/
def Statement.walkNames : Statement → NameWalk Unit
  | .expression value => value.walkNames false
  | .assign targets value => do
    walkNamesOfList true targets
    value.walkNames false
  | .update _ target _ value => do
    target.walkNames true
    target.walkNames false
    value.walkNames false
  | .delete targets => walkNamesOfList true targets
  | .pass | .break _ | .continue _ | .refused .. => return ()
  | .return value => walkNamesOfOption value
  | .raise error cause => do
    walkNamesOfOption error
    walkNamesOfOption cause
  | .assert _ test message => do
    test.walkNames false
    walkNamesOfOption message
  | .branch test body alternative => do
    test.walkNames false
    walkNamesOfBody body
    walkNamesOfBody alternative
  | .loop _ test body alternative => do
    test.walkNames false
    walkNamesOfBody body
    walkNamesOfBody alternative
  | .iterate _ target iterable body alternative => do
    target.walkNames true
    iterable.walkNames false
    walkNamesOfBody body
    walkNamesOfBody alternative
  | .attempt _ body handlers alternative final => do
    walkNamesOfBody body
    walkNamesOfBody alternative
    walkNamesOfHandlers handlers
    walkNamesOfBody final
  | .function line _ name parameters body decorators result => do
    binds line name
    parameters.walkDefaults
    parameters.walkHints
    walkNamesOfOption result
    walkNamesOfList false decorators
    within .function do
      declaresAll parameters
      walkNamesOfBody body
  | .classDefinition line name bases body decorators => do
    binds line name
    walkNamesOfPositional bases
    walkNamesOfList false decorators
    within .classBody (walkNamesOfBody body)
  | .importNames _ _ | .importFrom _ _ => return ()
  | .global line names => names.forM (declaresGlobal line)
  | .scoped _ items body => do
    items.forM fun item => do
      item.1.walkNames false
      match item.2 with
      | some target => target.walkNames true
      | none => return ()
    walkNamesOfBody body

/-- Walk over the names of statements. -/
def walkNamesOfBody : List Statement → NameWalk Unit
  | [] => return ()
  | s :: rest => do
    s.walkNames
    walkNamesOfBody rest

/-- Walk over the names of handlers. -/
def walkNamesOfHandlers : List Handler → NameWalk Unit
  | [] => return ()
  | .mk line error name body :: rest => do
    walkNamesOfOption error
    match name with
    | some name => binds line name
    | none => pure ()
    walkNamesOfBody body
    walkNamesOfHandlers rest

end

/-! ## Everything else -/

/-- The outcome of the walk over everything else. -/
abbrev Placed := Except Misplaced Unit

/-- Named arguments without the first one that repeats another. -/
def checkRepeated : List Argument → Placed
  | [] => .ok ()
  | .named _ name _ :: rest => do
    let again := rest.findSome? fun argument => match argument with
      | .named line other _ => if other = name then some line else none
      | _ => none
    match again with
    | some line => throw ⟨line, .repeatedArgument name⟩
    | none => checkRepeated rest
  | _ :: rest => checkRepeated rest

/-- At most one of several targets is starred. -/
def checkStars (items : List Expression) : Placed :=
  let stars := items.filterMap fun e => match e with
    | .starred line _ => some line
    | _ => none
  match stars with
  | _ :: line :: _ => throw ⟨line, .severalStarredTargets⟩
  | _ => .ok ()

mutual

/-- Check an expression whose value is used. -/
def Expression.checkPlaces : Expression → Placed
  | .formatted parts => checkParts parts
  | .attribute _ value _ => value.checkPlaces
  | .subscript value index => do
    value.checkPlaces
    index.checkPlaces
  | .slice start stop step => do
    checkOption start
    checkOption stop
    checkOption step
  | .call _ function arguments => do
    checkRepeated arguments
    function.checkPlaces
    checkArguments arguments
  | .unary _ operand => operand.checkPlaces
  | .binary _ left right => do
    left.checkPlaces
    right.checkPlaces
  | .conjunction operands => checkList operands
  | .disjunction operands => checkList operands
  | .comparison left rest => do
    left.checkPlaces
    checkRest rest
  | .conditional test yes no => do
    test.checkPlaces
    yes.checkPlaces
    no.checkPlaces
  | .lambda _ parameters body => do
    parameters.checkDefaults
    body.checkPlaces
  | .list items => checkItems items
  | .tuple items => checkItems items
  | .set items => checkItems items
  | .dictionary entries => checkEntries entries
  | .comprehension _ element clauses => do
    checkClauses clauses
    element.checkPlaces
  | .dictionaryComprehension key value clauses => do
    checkClauses clauses
    key.checkPlaces
    value.checkPlaces
  | .assignment _ _ value => value.checkPlaces
  | .starred line _ => throw ⟨line, .strayStar⟩
  | .yielded _ value => checkOption value
  | .yieldedFrom _ value => value.checkPlaces
  | .nothing | .truth _ | .integer _ | .number _ | .imaginary _ | .text _ | .bytes _
  | .ellipsis | .name .. | .refused .. => .ok ()

/-- Check the items of a list or the like, which may be starred. -/
def checkItems : List Expression → Placed
  | [] => .ok ()
  | .starred _ value :: rest => do
    value.checkPlaces
    checkItems rest
  | e :: rest => do
    e.checkPlaces
    checkItems rest

/-- Check several expressions. -/
def checkList : List Expression → Placed
  | [] => .ok ()
  | e :: rest => do
    e.checkPlaces
    checkList rest

/-- Check an expression that may be absent. -/
def checkOption : Option Expression → Placed
  | none => .ok ()
  | some e => e.checkPlaces

/-- Check expressions that may be absent. -/
def checkOptions : List (Option Expression) → Placed
  | [] => .ok ()
  | e :: rest => do
    checkOption e
    checkOptions rest

/-- Check the pieces of a formatted text. -/
def checkParts : List FormattedPart → Placed
  | [] => .ok ()
  | .literal _ :: rest => checkParts rest
  | .field value _ format :: rest => do
    value.checkPlaces
    checkFormat format
    checkParts rest

/-- Check a format. -/
def checkFormat : Option (List FormattedPart) → Placed
  | none => .ok ()
  | some parts => checkParts parts

/-- Check arguments. -/
def checkArguments : List Argument → Placed
  | [] => .ok ()
  | .positional e :: rest | .spread e :: rest | .named _ _ e :: rest | .spreadNamed e :: rest => do
    e.checkPlaces
    checkArguments rest

/-- Check the operands of a comparison. -/
def checkRest : List (ComparisonOperator × Expression) → Placed
  | [] => .ok ()
  | (_, e) :: rest => do
    e.checkPlaces
    checkRest rest

/-- Check the entries of a dictionary. -/
def checkEntries : List DictionaryEntry → Placed
  | [] => .ok ()
  | .mk key value :: rest => do
    checkOption key
    value.checkPlaces
    checkEntries rest

/-- Check the clauses of a comprehension. -/
def checkClauses : List Clause → Placed
  | [] => .ok ()
  | .mk target iterable tests _ :: rest => do
    iterable.checkPlaces
    target.checkTarget
    checkList tests
    checkClauses rest

/-- Check default values. -/
def Parameters.checkDefaults : Parameters → Placed
  | .mk _ _ _ _ _ defaults keywordDefaults => do
    checkList defaults
    checkOptions keywordDefaults

/-- Check a target. -/
def Expression.checkTarget : Expression → Placed
  | .attribute _ value _ => value.checkPlaces
  | .subscript value index => do
    value.checkPlaces
    index.checkPlaces
  | .list items => do
    checkStars items
    checkTargets items
  | .tuple items => do
    checkStars items
    checkTargets items
  | .starred line _ => throw ⟨line, .loneStarredTarget⟩
  | _ => .ok ()

/-- Check the targets in a list or the like, one of which may be starred. -/
def checkTargets : List Expression → Placed
  | [] => .ok ()
  | .starred _ value :: rest => do
    value.checkTarget
    checkTargets rest
  | e :: rest => do
    e.checkTarget
    checkTargets rest

end

/-- Check hints at parameters. -/
def Parameters.checkHints (parameters : Parameters) : Placed :=
  parameters.all.forM fun parameter => checkOption parameter.hint

/-- Check contexts. -/
def checkContexts (items : List (Expression × Option Expression)) : Placed :=
  items.forM fun item => do
    item.1.checkPlaces
    match item.2 with
    | some target => target.checkTarget
    | none => .ok ()

/-- How many loops, attempts and contexts of one function may stand within one
another. -/
def blockLimit : Nat := 20

/-- Where a statement stands in its function. -/
structure Surroundings where
  /-- There is a loop around. -/
  inLoop : Bool := false
  /-- How many blocks are open, counting some more than once. -/
  depth : Nat := 0

namespace Surroundings

/-- The surroundings within one more block, which is opened on a line. -/
def opened (around : Surroundings) (line : Nat) : Except Misplaced Surroundings :=
  if around.depth < blockLimit then .ok { around with depth := around.depth + 1 }
  else throw ⟨line, .tooManyBlocks⟩

/-- The surroundings within a loop. -/
def withinLoop (around : Surroundings) (line : Nat) : Except Misplaced Surroundings := do
  return { ← around.opened line with inLoop := true }

/-- The surroundings within as many blocks as there are contexts. -/
def withinContexts (around : Surroundings) (line : Nat) :
    List (Expression × Option Expression) → Except Misplaced Surroundings
  | [] => .ok around
  | _ :: rest => do (← around.opened line).withinContexts line rest

end Surroundings

/-- Taking a context apart counts as a block of its own. -/
def checkContextBlocks (around : Surroundings) (line : Nat)
    (items : List (Expression × Option Expression)) : Placed :=
  items.forM fun item => match item.2 with
    | some (.tuple _) => do
      let _ ← around.opened line
    | _ => .ok ()

mutual

/-- Check a statement.  A final block is part of two paths, on one of which it
stands one block deeper. -/
def Statement.checkPlaces (around : Surroundings) : Statement → Placed
  | .expression value => value.checkPlaces
  | .assign targets value => do
    value.checkPlaces
    targets.forM Expression.checkTarget
  | .update _ target _ value => do
    target.checkTarget
    value.checkPlaces
  | .delete targets => targets.forM Expression.checkTarget
  | .pass | .global .. | .importNames .. | .importFrom .. | .refused .. => .ok ()
  | .break line => if around.inLoop then .ok () else throw ⟨line, .breakOutside⟩
  | .continue line => if around.inLoop then .ok () else throw ⟨line, .continueOutside⟩
  | .return value => checkOption value
  | .raise error cause => do
    checkOption error
    checkOption cause
  | .assert _ test message => do
    test.checkPlaces
    checkOption message
  | .branch test body alternative => do
    test.checkPlaces
    checkBody around body
    checkBody around alternative
  | .loop line test body alternative => do
    let inside ← around.withinLoop line
    test.checkPlaces
    checkBody inside body
    checkBody around alternative
  | .iterate line target iterable body alternative => do
    let inside ← around.withinLoop line
    iterable.checkPlaces
    target.checkTarget
    checkBody inside body
    checkBody around alternative
  | .attempt line body handlers alternative final => do
    let within ← if final.isEmpty then pure around else around.opened line
    if handlers.isEmpty then checkBody within body
    else
      checkBody (← within.opened line) body
      checkBody within alternative
      checkHandlers (← within.opened line) handlers
    if !final.isEmpty then
      checkBody around final
      checkBody (← around.opened line) final
  | .function _ _ _ parameters body decorators result => do
    checkList decorators
    parameters.checkDefaults
    parameters.checkHints
    checkOption result
    checkBody {} body
  | .classDefinition _ _ bases body decorators => do
    checkList decorators
    checkBody {} body
    checkArguments (bases.filter fun base => match base with
      | .positional _ | .spread _ => true
      | _ => false)
  | .scoped line items body => do
    let inside ← around.withinContexts line items
    checkContexts items
    checkContextBlocks inside line items
    checkBody inside body

/-- Check statements. -/
def checkBody (around : Surroundings) : List Statement → Placed
  | [] => .ok ()
  | s :: rest => do
    s.checkPlaces around
    checkBody around rest

/-- Check handlers. -/
def checkHandlers (around : Surroundings) : List Handler → Placed
  | [] => .ok ()
  | .mk line error _ body :: rest => do
    if error.isNone && !rest.isEmpty then throw ⟨line, .handlerForAllFirst⟩
    checkOption error
    checkBody (← around.opened line) body
    checkHandlers around rest

end

/-- The first thing in the wrong place in a program with these parameters. -/
def misplacement? (parameters : Parameters) (program : Program) : Option Misplaced :=
  let names : NameWalk Unit := do
    parameters.walkDefaults
    parameters.walkHints
    within .function do
      declaresAll parameters
      walkNamesOfBody program
  match names.run [], parameters.checkDefaults, parameters.checkHints, checkBody {} program with
  | .error found, _, _, _ => some found
  | _, .error found, _, _ => some found
  | _, _, .error found, _ => some found
  | _, _, _, .error found => some found
  | _, _, _, _ => none

end Script
end PolicyStudio
