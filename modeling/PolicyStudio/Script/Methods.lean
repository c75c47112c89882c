import PolicyStudio.Text.Search
import PolicyStudio.Text.Word
import PolicyStudio.Script.Sorting
import PolicyStudio.Script.Subscript

/-!
# Methods of texts and containers

The functions that texts, lists, dictionaries and sets carry with them.  Each
group lists the names it knows, so that reading an attribute can tell a method
from nothing.
-/

namespace PolicyStudio
namespace Script

open Step

/-! ## Arguments by position -/

/-- Arguments of a function that takes none by name. -/
def positionalOnly (function : String) (given : Arguments Value) : Step (List Value) := do
  if !given.named.isEmpty then raise .type (function ++ "() takes no keyword arguments")
  return given.positional

/-- No arguments at all. -/
def noArguments (function : String) (given : Arguments Value) : Step Unit := do
  let values ← positionalOnly function given
  if !values.isEmpty then
    raise .type (function ++ "() takes no arguments (" ++ values.length.repr ++ " given)")

/-- A single argument. -/
def oneArgument (function : String) (given : Arguments Value) : Step Value := do
  match ← positionalOnly function given with
  | [value] => return value
  | values => raise .type (function ++ "() takes exactly one argument (" ++ values.length.repr ++
      " given)")

/-- Between `least` and `most` arguments; `short` names the function in the
refusal of a wrong count. -/
def countedArguments (function short : String) (least most : Nat) (given : Arguments Value) :
    Step (List Value) := do
  let values ← positionalOnly function given
  let refuse := fun (bound : String) (count : Nat) =>
    raise .type (short ++ " expected " ++ bound ++ count.repr ++ " argument" ++
      Signature.plural count ++ ", got " ++ values.length.repr)
  if values.length < least then refuse (if least = most then "" else "at least ") least
  else if most < values.length then refuse (if least = most then "" else "at most ") most
  else return values

/-- An integer where one is needed. -/
def indexOf (value : Value) : Step Int := do
  match Subscript.position? value with
  | some n => return n
  | none => raise .type ("'" ++ (← value.typeName) ++ "' object cannot be interpreted as an integer")

/-- An integer where a size or a position is needed. -/
def sizeOf (value : Value) : Step Int := do
  let n ← indexOf value
  if n < -2 ^ 63 ∨ 2 ^ 63 ≤ n then
    raise .overflow "Python int too large to convert to C ssize_t"
  return n

/-! ## Texts -/

/-- The text of an argument that must be one. -/
def textArgument (function : String) (position : Nat) (value : Value) : Step String := do
  match value with
  | .text s => return s
  | _ => raise .type (function ++ "() argument " ++ position.repr ++ " must be str, not " ++
      (← value.typeName))

/-- The elements of an argument of `join`, which must be texts. -/
def joinTexts (separator : String) : Nat → List Value → Step (List String)
  | _, [] => return []
  | position, .text s :: rest => do
    let texts ← joinTexts separator (position + 1) rest
    return s :: texts
  | position, value :: _ => do
    raise .type ("sequence item " ++ position.repr ++ ": expected str instance, " ++
      (← value.typeName) ++ " found")

/-- Join the elements of a value. -/
def joinMethod (self : Interpreter) (s : String) (given : Arguments Value) : Step Value := do
  let value ← oneArgument "str.join" given
  if !(← isIterable value) then raise .type "can only join an iterable"
  let items ← collect self value
  return .text (s.intercalate (← joinTexts s 0 items))

/-- Remove blanks, or the characters of the argument, at the chosen ends. -/
def stripMethod (name : String) (left right : Bool) (s : String) (given : Arguments Value) :
    Step Value := do
  let values ← countedArguments ("str." ++ name) name 0 1 given
  let dropped : Char → Bool ← match values with
    | [.text chars] => pure fun c => chars.toList.contains c
    | [] | [.none] => pure Text.isBlank
    | _ => raise .type (name ++ " arg must be None or str")
  let cs := s.toList
  let cs := if left then cs.dropWhile dropped else cs
  let cs := if right then (cs.reverse.dropWhile dropped).reverse else cs
  return .text (String.ofList cs)

/-- A greatest count; a negative one sets no bound. -/
def countBound (length : Nat) (n : Int) : Nat :=
  if n < 0 then length + 1 else n.toNat

/-- Replace the occurrences of a text. -/
def replaceMethod (s : String) (given : Arguments Value) : Step Value := do
  let values ← countedArguments "str.replace" "replace" 2 3 given
  match values with
  | piece :: other :: rest =>
    let piece ← textArgument "replace" 1 piece
    let other ← textArgument "replace" 2 other
    let count ← match rest with
      | [n] => sizeOf n
      | _ => pure (-1)
    let count := countBound s.length count
    let cs := s.toList
    if piece.isEmpty then return .text (String.ofList (Text.interleave other.toList count cs))
    return .text (String.ofList (Text.replaceAll piece.toList other.toList count cs))
  | _ => return .none

/-- The arguments of `split`: a separator and a greatest count of cuts. -/
def splitArguments (given : Arguments Value) : Step (Value × Int) := do
  let unknown := given.named.find? fun entry => entry.1 != "sep" && entry.1 != "maxsplit"
  if given.positional.length + given.named.length > 2 then
    raise .type ("split() takes at most 2 arguments (" ++
      (given.positional.length + given.named.length).repr ++ " given)")
  if let some (name, _) := unknown then
    raise .type ("'" ++ name ++ "' is an invalid keyword argument for split()")
  let separator := given.positional[0]? <|> given.named.lookup "sep"
  let count := given.positional[1]? <|> given.named.lookup "maxsplit"
  let count ← match count with
    | some n => sizeOf n
    | none => pure (-1)
  return (separator.getD .none, count)

/-- Cut a text. -/
def splitMethod (s : String) (given : Arguments Value) : Step Value := do
  let (separator, count) ← splitArguments given
  let count := countBound s.length count
  let parts ← match separator with
    | .none => pure (Text.splitBlanks count s.toList)
    | .text piece =>
      if piece.isEmpty then raise .value "empty separator"
      else pure (Text.splitAt piece.toList count s.toList)
    | other => raise .type ("must be str or None, not " ++ (← other.typeName))
  newList (parts.map fun part => .text (String.ofList part))

/-- A text starts or ends with another one, or with one of several. -/
def edgeMethod (name : String) (test : List Char → List Char → Bool) (s : String)
    (given : Arguments Value) : Step Value := do
  match ← positionalOnly ("str." ++ name) given with
  | [.text piece] => return .bool (test piece.toList s.toList)
  | [.tuple pieces] => do
    let texts ← pieces.mapM fun piece => do
      match piece with
      | .text t => return t.toList
      | _ => raise .type ("tuple for " ++ name ++ " must only contain str, not " ++
          (← piece.typeName))
    return .bool (texts.any fun piece => test piece s.toList)
  | [] => raise .type (name ++ "() takes at least 1 argument (0 given)")
  | value :: _ => raise .type (name ++ " first arg must be str or a tuple of str, not " ++
      (← value.typeName))

/-- The methods of a text. -/
def textMethods : List String :=
  ["join", "upper", "lower", "strip", "lstrip", "rstrip", "replace", "split", "splitlines",
   "startswith", "endswith", "find", "count", "isdigit", "isidentifier", "format", "format_map"]

/-- The lines of a text, without their ends. -/
def linesOf (word : List Char) : List Char → List (List Char)
  | [] => if word.isEmpty then [] else [word.reverse]
  | '\r' :: '\n' :: rest => word.reverse :: linesOf [] rest
  | c :: rest =>
    let n := c.toNat
    if (0x0a ≤ n ∧ n ≤ 0x0d) ∨ (0x1c ≤ n ∧ n ≤ 0x1e) ∨ n = 0x85 ∨ n = 0x2028 ∨ n = 0x2029 then
      word.reverse :: linesOf [] rest
    else linesOf (c :: word) rest

/-- Call a method of a text. -/
def textMethod (self : Interpreter) (s : String) (name : String) (given : Arguments Value) :
    Step Value := do
  match name with
  | "join" => joinMethod self s given
  | "upper" => do
    noArguments "str.upper" given
    return .text (Text.upper s)
  | "lower" => do
    noArguments "str.lower" given
    return .text (Text.lower s)
  | "strip" => stripMethod name true true s given
  | "lstrip" => stripMethod name true false s given
  | "rstrip" => stripMethod name false true s given
  | "replace" => replaceMethod s given
  | "split" => splitMethod s given
  | "splitlines" => newList ((linesOf [] s.toList).map fun line => .text (String.ofList line))
  | "startswith" => edgeMethod name (fun piece cs => piece.isPrefixOf cs) s given
  | "endswith" => edgeMethod name (fun piece cs => piece.isSuffixOf cs) s given
  | "find" => match ← positionalOnly "str.find" given with
    | [.text piece] => return match Text.position? piece.toList s.toList with
      | some n => .int n
      | none => .int (-1)
    | [] => raise .type "find() takes at least 1 argument (0 given)"
    | value :: _ => raise .type ("must be str, not " ++ (← value.typeName))
  | "count" => match ← positionalOnly "str.count" given with
    | [.text piece] => return .int (Text.occurrences piece.toList s.toList)
    | [] => raise .type "count() takes at least 1 argument (0 given)"
    | value :: _ => raise .type ("must be str, not " ++ (← value.typeName))
  | "isdigit" => do
    noArguments "str.isdigit" given
    return .bool (!s.isEmpty && s.toList.all fun c => (Text.digit? c).isSome)
  | "isidentifier" => do
    noArguments "str.isidentifier" given
    return .bool (Text.isWord s.toList)
  | _ => return .none

/-! ## Lists -/

/-- The methods of a list. -/
def listMethods : List String :=
  ["append", "extend", "insert", "pop", "remove", "index", "count", "reverse", "sort", "clear",
   "copy"]

/-- Insert a value at a position. -/
def insertAt {α : Type} (items : Array α) (position : Nat) (value : α) : Array α :=
  (items.toList.take position ++ value :: items.toList.drop position).toArray

/-- The keys of values, next to the values. -/
def keyed (self : Interpreter) (key : Value) (items : Array Value) :
    Step (Array (Value × Value)) :=
  items.mapM fun item => do
    match key with
    | .none => return (item, item)
    | _ => return (← self.call key { positional := [item] }, item)

/-- Sort a list where it stands.  Meanwhile the list is empty, and it must not be
changed.  A falling order is a rising one of the list turned round. -/
def sortMethod (self : Interpreter) (address : Address) (items : Array Value)
    (given : Arguments Value) : Step Value := do
  if !given.positional.isEmpty then raise .type "sort() takes no positional arguments"
  if let some (name, _) := given.named.find? fun entry =>
      entry.1 != "key" && entry.1 != "reverse" then
    raise .type ("'" ++ name ++ "' is an invalid keyword argument for sort()")
  let backwards := (← indexOf ((given.named.lookup "reverse").getD (.bool false))) ≠ 0
  let key := (given.named.lookup "key").getD .none
  store address (.list #[])
  let keyed ← attempt (keyed self key items)
  match keyed with
  | .error error => do
    store address (.list items)
    halt (.raised error)
  | .ok entries => do
    let below : Sorting.Below (Value × Value) := fun a b => attempt (a.1.ordered .below b.1)
    let outcome ← Sorting.sort below (if backwards then entries.reverse else entries)
    let sorted := outcome.row.map (·.2)
    let isUntouched := match ← load address with
      | .list now => now.isEmpty
      | _ => true
    store address (.list (if backwards then sorted.reverse else sorted))
    match outcome.error with
    | some error => halt (.raised error)
    | none =>
      if !isUntouched then raise .value "list modified during sort"
      return .none

/-- Remove and return a member of a list. -/
def popMethod (address : Address) (items : Array Value) (given : Arguments Value) :
    Step Value := do
  let values ← countedArguments "list.pop" "pop" 0 1 given
  let n ← match values with
    | [n] => sizeOf n
    | _ => pure (-1)
  if items.isEmpty then raise .index "pop from empty list"
  match Subscript.resolve? items.size n with
  | none => raise .index "pop index out of range"
  | some i => do
    store address (.list (items.eraseIdxIfInBounds i))
    return items[i]?.getD .none

/-- The position of the first equal member. -/
def findMember (value : Value) : Nat → List Value → Step (Option Nat)
  | _, [] => return none
  | position, member :: rest => do
    if ← Value.matchesMember member value then return some position
    findMember value (position + 1) rest

/-- Call a method of a list. -/
def listMethod (self : Interpreter) (address : Address) (items : Array Value) (name : String)
    (given : Arguments Value) : Step Value := do
  match name with
  | "append" => do
    let value ← oneArgument "list.append" given
    updateItems address fun old => old.push value
    return .none
  | "extend" => do
    let value ← oneArgument "list.extend" given
    let others ← collect self value
    updateItems address fun old => old ++ others.toArray
    return .none
  | "insert" => do
    match ← countedArguments "list.insert" "insert" 2 2 given with
    | [position, value] => do
      let n ← sizeOf position
      let n := if n < 0 then max 0 (n + items.size) else n
      store address (.list (insertAt items (min n.toNat items.size) value))
      return .none
    | _ => return .none
  | "pop" => popMethod address items given
  | "remove" => do
    let value ← oneArgument "list.remove" given
    match ← findMember value 0 items.toList with
    | some i => do
      store address (.list (items.eraseIdxIfInBounds i))
      return .none
    | none => raise .value "list.remove(x): x not in list"
  | "index" => do
    match ← countedArguments "list.index" "index" 1 3 given with
    | value :: _ => match ← findMember value 0 items.toList with
      | some i => return .int i
      | none => raise .value ((← value.shown) ++ " is not in list")
    | [] => return .none
  | "count" => do
    let value ← oneArgument "list.count" given
    let found ← items.toList.filterM fun member => Value.matchesMember member value
    return .int found.length
  | "reverse" => do
    noArguments "list.reverse" given
    store address (.list items.reverse)
    return .none
  | "sort" => sortMethod self address items given
  | "clear" => do
    noArguments "list.clear" given
    store address (.list #[])
    return .none
  | "copy" => do
    noArguments "list.copy" given
    allocate (.list items)
  | _ => return .none

/-! ## Dictionaries -/

/-- The methods of a dictionary. -/
def dictionaryMethods : List String :=
  ["get", "keys", "values", "items", "update", "pop", "popitem", "setdefault", "clear", "copy"]

/-- The key and the value of an element of a sequence of pairs. -/
def pairOf (self : Interpreter) (position : Nat) (element : Value) : Step (Value × Value) := do
  if !(← isIterable element) then
    raise .type ("cannot convert dictionary update sequence element #" ++ position.repr ++
      " to a sequence")
  match ← collect self element with
  | [key, value] => return (key, value)
  | members => raise .value ("dictionary update sequence element #" ++ position.repr ++
      " has length " ++ members.length.repr ++ "; 2 is required")

/-- Add pairs to the dictionary at an address. -/
def addPairs (self : Interpreter) (address : Address) : Nat → List Value → Step Unit
  | _, [] => return ()
  | position, element :: rest => do
    let (key, value) ← pairOf self position element
    key.requireHashable
    putEntry address key value
    addPairs self address (position + 1) rest

/-- Add what a value and named arguments give to the dictionary at an address. -/
def updateDictionary (self : Interpreter) (address : Address) (values : List Value)
    (named : List (String × Value)) : Step Unit := do
  let merge := fun (others : List (Value × Value)) =>
    others.forM fun (key, value) => putEntry address key value
  match values with
  | [.object other] => do
    match ← load other with
    | .dictionary entries => merge entries.toList
    | _ => addPairs self address 0 (← collect self (.object other))
  | [value] => addPairs self address 0 (← collect self value)
  | _ => pure ()
  merge (named.map fun (name, value) => (.text name, value))

/-- Call a method of a dictionary. -/
def dictionaryMethod (self : Interpreter) (address : Address) (entries : Dictionary)
    (name : String) (given : Arguments Value) : Step Value := do
  let find := fun (key : Value) => do
    key.requireHashable
    entries.get? key
  match name with
  | "get" => do
    match ← countedArguments "dict.get" "get" 1 2 given with
    | key :: rest => return (← find key).getD (rest.head?.getD .none)
    | [] => return .none
  | "keys" => do
    noArguments "dict.keys" given
    allocate (.view .keys address)
  | "values" => do
    noArguments "dict.values" given
    allocate (.view .values address)
  | "items" => do
    noArguments "dict.items" given
    allocate (.view .items address)
  | "update" => do
    let values ← countedArguments "dict.update" "update" 0 1 { given with named := [] }
    updateDictionary self address values given.named
    return .none
  | "pop" => do
    match ← countedArguments "dict.pop" "pop" 1 2 given with
    | key :: rest => do
      key.requireHashable
      match ← takeEntry address key with
      | some value => return value
      | none => match rest with
        | standard :: _ => return standard
        | [] => raiseWith .key [key]
    | [] => return .none
  | "popitem" => do
    noArguments "dict.popitem" given
    match entries.last? with
    | some (slot, key, value) => do
      updateEntries address fun d => d.popAt slot
      return .tuple [key, value]
    | none => raise .key "popitem(): dictionary is empty"
  | "setdefault" => do
    match ← countedArguments "dict.setdefault" "setdefault" 1 2 given with
    | key :: rest => match ← find key with
      | some value => return value
      | none => do
        let value := rest.head?.getD .none
        updateEntries address fun d => d.push key value
        return value
    | [] => return .none
  | "clear" => do
    noArguments "dict.clear" given
    store address (.dictionary .empty)
    return .none
  | "copy" => do
    noArguments "dict.copy" given
    allocate (.dictionary entries)
  | _ => return .none

/-! ## Sets and tuples -/

/-- The methods of a set. -/
def setMethods : List String :=
  ["add", "discard", "remove", "clear", "copy"]

/-- Call a method of a set. -/
def setMethod (address : Address) (members : Members) (name : String)
    (given : Arguments Value) : Step Value := do
  match name with
  | "add" => do
    let value ← oneArgument "set.add" given
    value.requireHashable
    store address (.set (← members.put value))
    return .none
  | "discard" | "remove" => do
    let value ← oneArgument ("set." ++ name) given
    value.requireHashable
    match ← members.place? value with
    | some place => do
      store address (.set (members.eraseAt place))
      return .none
    | none => if name = "remove" then raiseWith .key [value] else return .none
  | "clear" => do
    noArguments "set.clear" given
    store address (.set .empty)
    return .none
  | "copy" => do
    noArguments "set.copy" given
    allocate (.set members.copy)
  | _ => return .none

/-- The methods of a tuple. -/
def tupleMethods : List String :=
  ["count", "index"]

/-- Call a method of a tuple. -/
def tupleMethod (items : List Value) (name : String) (given : Arguments Value) : Step Value := do
  match name with
  | "count" => do
    let value ← oneArgument "tuple.count" given
    let found ← items.filterM fun member => Value.matchesMember member value
    return .int found.length
  | _ => do
    match ← countedArguments "tuple.index" "index" 1 3 given with
    | value :: _ => match ← findMember value 0 items with
      | some i => return .int i
      | none => raise .value "tuple.index(x): x not in tuple"
    | [] => return .none

end Script
end PolicyStudio
