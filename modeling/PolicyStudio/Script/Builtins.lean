import PolicyStudio.Decimal.Read
import PolicyStudio.Text.Utf8
import PolicyStudio.Text.Decode
import PolicyStudio.Script.Failure
import PolicyStudio.Script.Operators
import PolicyStudio.Script.PolicyCall

/-!
# Functions of every program

The functions and classes that a program finds without having defined them, and
the attributes of built-in values.
-/

namespace PolicyStudio
namespace Script

open Step

/-! ## Classes -/

namespace ClassValue

/-- A built-in type counts as another one. -/
def basicIsKindOf (kind above : BasicType) : Bool :=
  kind == above || (kind == .bool && above == .int) || (kind == .dateTime && above == .date) ||
    above == .object

/-- The first class is the second one or stands below it. -/
def isKindOf (c above : ClassValue) : Bool :=
  match c, above with
  | .basic kind, .basic other => basicIsKindOf kind other
  | .error kind, .error other => kind.isKindOf other
  | .policy kind, .policy other => kind.isKindOf other
  | _, .basic .object => true
  | _, _ => false

end ClassValue

/-- Look for a class among the members of a tuple, one after the other, so that
a wrong member after a match is not seen. -/
def matchesClass (refusal : String) (c : ClassValue) : Nat → Value → Step Bool
  | 0, _ => raise .recursion "maximum recursion depth exceeded"
  | depth + 1, value => match value with
    | .tuple items => items.anyM (matchesClass refusal c depth)
    | _ => do
      match ← value.class? with
      | some other => return c.isKindOf other
      | none => raise .type refusal

/-! ## Making values of a class -/

/-- The integer nearest to zero. -/
def truncate (x : Float) : Step Value := do
  match Decimal.truncated? x with
  | some n => return .int n
  | none =>
    if x.isNaN then raise .value "cannot convert float NaN to integer"
    else raise .overflow "cannot convert float infinity to integer"

/-- A shown text that is cut to the length that refusals have room for. -/
def shortShown (shown : String) : String :=
  String.ofList (shown.toList.take 200)

/-- Read an integer from a text, which refusals show in a form of its own.  Only in
bases whose digits are no binary digits is the count of digits limited. -/
def readInteger (base : Nat) (shown s : String) : Step Value := do
  let digits := (s.toList.filter fun c => (Decimal.digitIn? (max base 10) c).isSome).length
  let limited := base ∉ [0, 2, 4, 8, 16, 32] && Policy.integerDigitLimit < digits
  if limited ∧ (Decimal.readInteger? base s).isSome then
    raise .value ("Exceeds the limit (4300 digits) for integer string conversion: value has " ++
      digits.repr ++ " digits; use sys.set_int_max_str_digits() to increase the limit")
  match Decimal.readInteger? base s with
  | some n => return .int n
  | none => raise .value ("invalid literal for int() with base " ++ base.repr ++ ": " ++
      shortShown shown)

/-- Make an integer from a text or bytes, if the value is one. -/
def integerOfText? (base : Nat) (value : Value) : Step (Option Value) := do
  match value with
  | .text s => return some (← readInteger base (Text.quoted s) s)
  | .bytes content =>
    return some (← readInteger base (Text.quotedBytes content)
      (Text.Utf8.decodeLoosely ⟨content.toArray⟩))
  | _ => return none

/-- Make an integer. -/
def makeInteger (given : Arguments Value) : Step Value := do
  let count := given.positional.length + given.named.length
  if 2 < count then
    raise .type ("int() takes at most 2 arguments (" ++ count.repr ++ " given)")
  if let some (name, _) := given.named.find? fun entry => entry.1 != "base" then
    raise .type ("'" ++ name ++ "' is an invalid keyword argument for int()")
  let base := given.positional[1]? <|> given.named.lookup "base"
  match given.positional, base with
  | [], none => return .int 0
  | [], some _ => raise .type "int() missing string argument"
  | value :: _, some base => do
    let base ← indexOf base
    if base ≠ 0 ∧ (base < 2 ∨ 36 < base) then
      raise .value "int() base must be >= 2 and <= 36, or 0"
    match ← integerOfText? base.toNat value with
    | some n => return n
    | none => raise .type "int() can't convert non-string with explicit base"
  | value :: _, none => match value with
    | .float x _ => truncate x
    | .int n => return .int n
    | .bool b => return .int (if b then 1 else 0)
    | _ => match ← integerOfText? 10 value with
      | some n => return n
      | none =>
        raise .type ("int() argument must be a string, a bytes-like object or a real number, " ++
          "not '" ++ (← value.typeName) ++ "'")

/-- Read a binary number from a text, which refusals show in a form of its own. -/
def readFloat (shown s : String) : Step Value := do
  match Decimal.readFloat? s with
  | some x => newFloat x
  | none => raise .value ("could not convert string to float: " ++ shown)

/-- Make a binary number. -/
def makeFloat (given : Arguments Value) : Step Value := do
  match ← countedArguments "float" "float" 0 1 given with
  | [] => return .number 0.0
  | value :: _ => match value, value.number? with
    | .float .., _ => return value
    | _, some number => newFloat (← Arithmetic.numberToFloat number)
    | .text s, _ => readFloat (Text.quoted s) s
    | .bytes content, _ =>
      readFloat (Text.quotedBytes content) (Text.Utf8.decodeLoosely ⟨content.toArray⟩)
    | _, _ => raise .type ("float() argument must be a string or a real number, not '" ++
        (← value.typeName) ++ "'")

/-- A part of a complex number. -/
def complexPart (position : String) (value : Value) : Step Decimal.Complex := do
  match ← Arithmetic.toComplex value with
  | some z => return z
  | none =>
    let article := if position = "first" then "must be a string or a number" else "must be a number"
    raise .type ("complex() " ++ position ++ " argument " ++ article ++ ", not '" ++
      (← value.typeName) ++ "'")

/-- Make a complex number.  An imaginary part that is complex turns the real part. -/
def makeComplex (given : Arguments Value) : Step Value := do
  let count := given.positional.length + given.named.length
  if 2 < count then
    raise .type ("complex() takes at most 2 arguments (" ++ count.repr ++ " given)")
  if let some (name, _) := given.named.find? fun entry =>
      entry.1 != "real" && entry.1 != "imag" then
    raise .type ("'" ++ name ++ "' is an invalid keyword argument for complex()")
  let real := given.positional[0]? <|> given.named.lookup "real"
  let imaginary := given.positional[1]? <|> given.named.lookup "imag"
  match real, imaginary with
  | some (.text _), some _ =>
    raise .type "complex() can't take second arg if first is a string"
  | _, some (.text _) => raise .type "complex() second arg can't be a string"
  | some (.text s), none => match Decimal.Complex.read? s with
    | some z => return .complex z
    | none => raise .value "complex() arg is a malformed string"
  | _, _ =>
    let x ← complexPart "first" (real.getD (.int 0))
    match imaginary with
    | none => return .complex x
    | some imaginary =>
      let y ← complexPart "second" imaginary
      let isComplex (value : Option Value) : Bool := value matches some (.complex _)
      return .complex ⟨if isComplex (some imaginary) then x.real - y.imaginary else x.real,
        if isComplex real then x.imaginary + y.real else y.real⟩

/-- An argument of `str` that must be a text. -/
def namedText (name : String) (value : Value) : Step String := do
  match value with
  | .text s =>
    if s.contains '\x00' then raise .value "embedded null character"
    return s
  | .none => raise .type ("str() argument '" ++ name ++ "' must be str, not None")
  | _ => raise .type ("str() argument '" ++ name ++ "' must be str, not " ++ (← value.typeName))

/-- The text that bytes stand for. -/
def decodedText (encodingName misfitName : String) (bytes : List UInt8) : Step Value := do
  if bytes.isEmpty then return .text ""
  let some encoding := Text.Decode.encoding? encodingName
    | raise .lookup ("unknown encoding: " ++ encodingName)
  let misfit := (Text.Decode.misfit? misfitName).getD .refuse
  match Text.Decode.decode encoding misfit bytes with
  | .ok s => return .text s
  | .error fault => do
    if (Text.Decode.misfit? misfitName).isNone then
      raise .lookup ("unknown error handler name '" ++ misfitName ++ "'")
    let arguments : List Value := [.text encoding.name, .bytes bytes, .int fault.start,
      .int fault.stop, .text fault.reason]
    let draft ← Failure.draftUnicode .unicodeDecode (Eq.refl true) arguments
    raiseDetailed draft.kind draft.arguments draft.details draft.own

/-- Make a text. -/
def makeText (given : Arguments Value) : Step Value := do
  let known := ["object", "encoding", "errors"]
  let count := given.positional.length + given.named.length
  if 3 < count then raise .type ("str() takes at most 3 arguments (" ++ count.repr ++ " given)")
  let twice := (known.zipIdx.take given.positional.length).find? fun entry =>
    (given.named.lookup entry.1).isSome
  if let some (name, position) := twice then
    raise .type ("argument for str() given by name ('" ++ name ++ "') and position (" ++
      (position + 1).repr ++ ")")
  if let some (name, _) := given.named.find? fun entry => !known.contains entry.1 then
    raise .type ("'" ++ name ++ "' is an invalid keyword argument for str()")
  let value := given.positional[0]? <|> given.named.lookup "object"
  let encoding ← (given.positional[1]? <|> given.named.lookup "encoding").mapM
    (namedText "encoding")
  let misfit ← (given.positional[2]? <|> given.named.lookup "errors").mapM (namedText "errors")
  match value with
  | none => return .text ""
  | some value =>
    if encoding.isNone ∧ misfit.isNone then return .text (← value.plainText)
    match value with
    | .bytes content => decodedText (encoding.getD "utf-8") (misfit.getD "strict") content
    | .text _ => raise .type "decoding str is not supported"
    | _ =>
      raise .type ("decoding to str: need a bytes-like object, " ++ (← value.typeName) ++
        " found")

/-- Make a list. -/
def makeList (self : Interpreter) (given : Arguments Value) : Step Value := do
  match ← countedArguments "list" "list" 0 1 given with
  | value :: _ => newList (← collect self value)
  | [] => newList []

/-- Make a set. -/
def makeSet (self : Interpreter) (given : Arguments Value) : Step Value := do
  match ← countedArguments "set" "set" 0 1 given with
  | value :: _ => do
    allocate (.set (← Arithmetic.setOf (collect self) value))
  | [] => allocate (.set .empty)

/-- Make a dictionary. -/
def makeDictionary (self : Interpreter) (given : Arguments Value) : Step Value := do
  let values ← countedArguments "dict" "dict" 0 1 { given with named := [] }
  let result ← allocate (.dictionary .empty)
  match result with
  | .object address => updateDictionary self address values given.named
  | _ => pure ()
  return result

/-- Make a range. -/
def makeRange (given : Arguments Value) : Step Value := do
  let values ← countedArguments "range" "range" 1 3 given
  match ← values.mapM indexOf with
  | [stop] => return .range 0 stop 1
  | [start, stop] => return .range start stop 1
  | [start, stop, step] =>
    if step = 0 then raise .value "range() arg 3 must not be zero"
    return .range start stop step
  | _ => return .none

/-- Make a slice. -/
def makeSlice (given : Arguments Value) : Step Value := do
  match ← countedArguments "slice" "slice" 1 3 given with
  | [stop] => return .slice .none stop .none
  | [start, stop] => return .slice start stop .none
  | [start, stop, step] => return .slice start stop step
  | _ => return .none

/-- Count along an iteration. -/
def makeEnumeration (given : Arguments Value) : Step Value := do
  let count := given.positional.length + given.named.length
  if 2 < count then
    raise .type ("enumerate() takes at most 2 arguments (" ++ count.repr ++ " given)")
  if let some (name, _) := given.named.find? fun entry =>
      entry.1 != "iterable" && entry.1 != "start" then
    raise .type ("'" ++ name ++ "' is an invalid keyword argument for enumerate()")
  match given.positional[0]? <|> given.named.lookup "iterable" with
  | none => raise .type "enumerate() missing required argument 'iterable'"
  | some value =>
    let start ← match given.positional[1]? <|> given.named.lookup "start" with
      | some start => indexOf start
      | none => pure 0
    allocate (.iteration (.enumerate (← startIteration value) start))

/-- Apply a function along iterations. -/
def makeMap (given : Arguments Value) : Step Value := do
  match ← positionalOnly "map" given with
  | function :: first :: rest => do
    let sources ← (first :: rest).mapM startIteration
    allocate (.iteration (.map function sources))
  | _ => raise .type "map() must have at least two arguments."

/-- Keep the elements that pass a test. -/
def makeFilter (given : Arguments Value) : Step Value := do
  match ← countedArguments "filter" "filter" 2 2 given with
  | [function, source] => allocate (.iteration (.filter function (← startIteration source)))
  | _ => return .none

/-- Make a value of a class. -/
def construct (self : Interpreter) (c : ClassValue) (named : c.isNamed = true)
    (given : Arguments Value) : Step Value := do
  match c, named with
  | .error kind, named => Failure.makeOwn self kind named given
  | .policy c, _ => PolicyCall.construct c given
  | .basic kind, _ => match kind with
    | .bool => match ← countedArguments "bool" "bool" 0 1 given with
      | value :: _ => return .bool (← value.isTrue)
      | [] => return .bool false
    | .int => makeInteger given
    | .float => makeFloat given
    | .complex => makeComplex given
    | .text => makeText given
    | .list => makeList self given
    | .set => makeSet self given
    | .dict => makeDictionary self given
    | .range => makeRange given
    | .slice => makeSlice given
    | .enumerate => makeEnumeration given
    | .map => makeMap given
    | .filter => makeFilter given
    | other => raise .type ("cannot create '" ++ other.name ++ "' instances")

/-! ## Functions -/

/-- The function can be called. -/
def isCallable (value : Value) : Step Bool := do
  match value with
  | .classValue .. | .builtin _ | .policyFunction _ | .method .. | .printer _ => return true
  | .object address => do
    match ← load address with
    | .closure _ | .host .. | .interruptClass => return true
    | _ => return false
  | _ => return false

/-- The arguments of `min` and `max`: the candidates, the key and the value for
no candidates. -/
def extremeArguments (self : Interpreter) (name : String) (given : Arguments Value) :
    Step (List Value × Value × Option Value) := do
  if given.positional.isEmpty then
    raise .type (name ++ " expected at least 1 argument, got 0")
  if let some (other, _) := given.named.find? fun entry =>
      entry.1 != "key" && entry.1 != "default" then
    raise .type ("'" ++ other ++ "' is an invalid keyword argument for " ++ name ++ "()")
  let key := (given.named.lookup "key").getD .none
  let standard := given.named.lookup "default"
  match given.positional with
  | [value] => return (← collect self value, key, standard)
  | values =>
    if standard.isSome then
      raise .type ("Cannot specify a default for " ++ name ++
        "() with multiple positional arguments")
    return (values, key, none)

/-- The first value that no other one surpasses. -/
def extreme (self : Interpreter) (name : String) (sign : OrderSign) (given : Arguments Value) :
    Step Value := do
  let (values, key, standard) ← extremeArguments self name given
  let keyed := fun (value : Value) => do
    match key with
    | .none => return (value, value)
    | _ => return (← self.call key { positional := [value] }, value)
  match values with
  | [] => match standard with
    | some value => return value
    | none => raise .value (name ++ "() arg is an empty sequence")
  | first :: rest =>
    let best ← rest.foldlM (fun (best : Value × Value) value => do
      let candidate ← keyed value
      if ← candidate.1.ordered sign best.1 then return candidate else return best)
      (← keyed first)
    return best.2

/-- Add up the elements of a value. -/
def sum (self : Interpreter) (given : Arguments Value) : Step Value := do
  let count := given.positional.length + given.named.length
  if given.positional.isEmpty then raise .type "sum() takes at least 1 positional argument (0 given)"
  if 2 < count then raise .type ("sum() takes at most 2 arguments (" ++ count.repr ++ " given)")
  if let some (name, _) := given.named.find? fun entry => entry.1 != "start" then
    raise .type ("'" ++ name ++ "' is an invalid keyword argument for sum()")
  let start := (given.positional[1]? <|> given.named.lookup "start").getD (.int 0)
  let items := given.positional[0]?.getD .none
  if !(← isIterable items) then notIterable items
  match start with
  | .text _ => raise .type "sum() can't sum strings [use ''.join(seq) instead]"
  | .bytes _ => raise .type "sum() can't sum bytes [use b''.join(seq) instead]"
  | _ => pure ()
  (← collect self items).foldlM (fun total item => Arithmetic.binary (collect self) .add false total item) start

/-- Go through elements until one decides. -/
def settle (self : Interpreter) (deciding : Bool) (iteration : Value) : Nat → Step Bool
  | 0 => halt .exhausted
  | rounds + 1 => do
    match ← advance self iteration with
    | none => return !deciding
    | some value =>
      if (← value.isTrue) = deciding then return deciding
      settle self deciding iteration rounds

/-- The number of members. -/
def lengthOf (value : Value) : Step Value := do
  match value with
  | .text s => return .int s.length
  | .bytes content => return .int content.length
  | .tuple items => return .int items.length
  | .range start stop step => return .int (rangeLength start stop step)
  | .object address => do
    match ← load address with
    | .list items => return .int items.size
    | .dictionary entries => return .int entries.size
    | .set members => return .int members.size
    | .view _ source => return .int (← entriesOf source).size
    | object => raise .type ("object of type '" ++ object.classOf.name ++ "' has no len()")
  | _ => raise .type ("object of type '" ++ (← value.typeName) ++ "' has no len()")

/-- The magnitude of a number. -/
def magnitude (value : Value) : Step Value := do
  match value, value.number? with
  | .complex z, _ =>
    let size := z.magnitude
    if size.isInf && !z.real.isInf && !z.imaginary.isInf then
      raise .overflow "absolute value too large"
    newFloat size
  | _, some (.inl n) => return .int n.natAbs
  | _, some (.inr x) => newFloat x.abs
  | _, none => raise .type ("bad operand type for abs(): '" ++ (← value.typeName) ++ "'")

/-- An integer in a base, after its mark. -/
def inBase (base : Nat) (mark : String) (n : Int) : String :=
  (if n < 0 then "-" else "") ++ mark ++ String.ofList (Nat.toDigits base n.natAbs)

/-- Round a number to places before or after the point. -/
def roundTo (value : Value) (places : Option Value) : Step Value := do
  match value, places with
  | .float x _, none | .float x _, some .none =>
    match Decimal.fraction? x with
    | some (n, d) =>
      let size := Decimal.roundDiv n.natAbs d
      return .int (if n < 0 then -(size : Int) else size)
    | none => truncate x
  | .float x _, some places => do
    let places ← indexOf places
    if places < -308 then return .number (if x.isFinite then 0.0 * x else x)
    match if places ≤ 323 then Decimal.fraction? x else none with
    | none => return value
    | some (n, d) =>
      let up := 10 ^ places.toNat
      let down := 10 ^ (-places).toNat
      let size := Decimal.roundDiv (n.natAbs * up) (d * down)
      let result := Decimal.ofFraction (size * down : Nat) up
      return .number (if x.toBits.toNat / 2 ^ 63 = 1 then -result else result)
  | _, _ => match value.number? with
    | some (.inl n) => match places with
      | none | some .none => return .int n
      | some places => do
        let places ← indexOf places
        if places < -(n.natAbs.log2 : Int) then return .int 0
        let unit := 10 ^ (-places).toNat
        let size := Decimal.roundDiv n.natAbs unit * unit
        return .int (if n < 0 then -(size : Int) else size)
    | _ => raise .type ("type " ++ (← value.typeName) ++ " doesn't define __round__ method")

/-- A power modulo a number. -/
def powerModulo (base exponent modulus : Int) : Step Value := do
  if modulus = 0 then raise .value "pow() 3rd argument cannot be 0"
  if exponent < 0 then raise .value "base is not invertible for the given modulus"
  let size := modulus.natAbs
  let step := fun (state : Nat × Nat) (bit : Bool) =>
    let (result, square) := state
    (if bit then result * square % size else result, square * square % size)
  let bits := (List.range (exponent.toNat.log2 + 1)).map fun i => exponent.toNat.testBit i
  let (result, _) := bits.foldl step (1 % size, (Int.emod base size).toNat)
  return .int (Int.fmod result modulus)

/-- Refuse to write an attribute of a value. -/
def refuseAttribute {α : Type} (value : Value) (name : String) (known : Bool) : Step α := do
  match value with
  | .object address => do
    match ← load address with
    | .list _ | .dictionary _ =>
      let kind ← value.typeName
      if known then
        raise .attribute ("'" ++ kind ++ "' object attribute '" ++ name ++ "' is read-only")
      else raise .attribute ("'" ++ kind ++ "' object has no attribute '" ++ name ++ "'")
    | _ => raise .type "attribute-less object (assign or del)"
  | _ => raise .type "attribute-less object (assign or del)"

/-! ## Attributes -/

/-- The methods of the values of a type. -/
def methodsOf : BasicType → List String
  | .text => textMethods
  | .list => listMethods
  | .dict => dictionaryMethods
  | .set => setMethods
  | .tuple => tupleMethods
  | _ => []

/-- What stands under a name in a value, if anything does. -/
def attribute? (value : Value) (name : String) : Step (Option Value) := do
  let own := fun (kind : BasicType) =>
    if (methodsOf kind).contains name then some (Value.method value name) else none
  match value with
  | .text _ => return own .text
  | .tuple _ => return own .tuple
  | .classValue (.basic kind) _ => return own kind
  | .classValue (.policy c) _ =>
    return if (PolicyMethod.of? c name).isSome then some (.method value name) else none
  | .int n => return match name with
    | "real" | "numerator" => some (.int n)
    | "imag" => some (.int 0)
    | "denominator" => some (.int 1)
    | _ => none
  | .bool b => return match name with
    | "real" | "numerator" => some (.int (if b then 1 else 0))
    | "imag" => some (.int 0)
    | "denominator" => some (.int 1)
    | _ => none
  | .float .. => return match name with
    | "real" => some value
    | "imag" => some (.number 0.0)
    | _ => none
  | .complex z => return match name with
    | "real" => some (.number z.real)
    | "imag" => some (.number z.imaginary)
    | _ => none
  | .range start stop step => return match name with
    | "start" => some (.int start)
    | "stop" => some (.int stop)
    | "step" => some (.int step)
    | _ => none
  | .slice start stop step => return match name with
    | "start" => some start
    | "stop" => some stop
    | "step" => some step
    | _ => none
  | .date d => return match name with
    | "year" => some (.int d.year)
    | "month" => some (.int d.month)
    | "day" => some (.int d.day)
    | "isoformat" => some (.method value name)
    | _ => none
  | .dateTime t => return match name with
    | "year" => some (.int t.date.year)
    | "month" => some (.int t.date.month)
    | "day" => some (.int t.date.day)
    | "hour" => some (.int t.hour)
    | "minute" => some (.int t.minute)
    | "second" => some (.int t.second)
    | "microsecond" => some (.int t.microsecond)
    | "isoformat" => some (.method value name)
    | _ => none
  | .object address => do
    match ← load address with
    | .list _ => return own .list
    | .dictionary _ => return own .dict
    | .set _ => return own .set
    | .error kind arguments details => return Failure.attribute? kind arguments details name
    | .policy object => PolicyCall.attribute? value object name
    | _ => return none
  | _ => return none

/-- The refusal of an attribute that a value does not have. -/
def missingAttribute {α : Type} (value : Value) (name : String) : Step α := do
  match ← value.class? with
  | some c =>
    raise .attribute ("type object '" ++ c.name ++ "' has no attribute '" ++ name ++ "'")
  | none => raise .attribute ("'" ++ (← value.typeName) ++ "' object has no attribute '" ++ name ++
      "'")

/-- Read an attribute that must be there. -/
def readAttribute (value : Value) (name : String) : Step Value := do
  match ← attribute? value name with
  | some found => return found
  | none => missingAttribute value name

/-- The value is a text or the type of texts. -/
def isTextual : Value → Bool
  | .text _ | .classValue (.basic .text) _ => true
  | _ => false

/-- Read an attribute as programs may: what is missing is nothing, and the
formatting methods of texts are refused. -/
def guardedAttribute (value : Value) (name : String) : Step Value := do
  if isTextual value ∧ (name = "format" ∨ name = "format_map") then
    raise .notImplemented "Using the format*() methods of `str` is not safe"
  if name.startsWith "_" then
    raise .attribute ("\"" ++ name ++ "\" is an invalid attribute name because it starts with \"_\"")
  return (← attribute? value name).getD .none

/-! ## Calls -/

/-- The arguments of a function that is written for programs. -/
def guardArguments (function : String) (names : List String) (given : Arguments Value) :
    Step (List (String × Bound Value)) :=
  ofBound (({ positional := names } : Signature).bind function [] given)

/-- Refuse to write an attribute, called as a function. -/
def writeAttribute (names : List String) (function : String) (given : Arguments Value) :
    Step Value := do
  let bound ← guardArguments function names given
  let value := PolicyCall.argument bound "object"
  match PolicyCall.argument bound "name" with
  | .text name => refuseAttribute value name (← attribute? value name).isSome
  | other => do
    match value with
    | .object address => do
      match ← load address with
      | .list _ | .dictionary _ =>
        raise .type ("attribute name must be string, not '" ++ (← other.typeName) ++ "'")
      | _ => raise .type "attribute-less object (assign or del)"
    | _ => raise .type "attribute-less object (assign or del)"

/-- Call a function that every program has. -/
def callBuiltin (self : Interpreter) (function : BuiltinFunction) (given : Arguments Value) :
    Step Value := do
  let name := function.name
  match function with
  | .abs => magnitude (← oneArgument name given)
  | .all => do
    let iteration ← startIteration (← oneArgument name given)
    return .bool (← settle self false iteration roundLimit)
  | .any => do
    let iteration ← startIteration (← oneArgument name given)
    return .bool (← settle self true iteration roundLimit)
  | .buildClass => raise .type "__build_class__: func must be a function"
  | .callable => return .bool (← isCallable (← oneArgument name given))
  | .chr => do
    let n ← indexOf (← oneArgument name given)
    if 2 ^ 31 ≤ n ∨ n < -(2 ^ 31) then
      raise .overflow "Python int too large to convert to C int"
    if n < 0 ∨ 0x110000 ≤ n then raise .value "chr() arg not in range(0x110000)"
    return .text (String.ofList [Char.ofNat n.toNat])
  | .delattr => writeAttribute ["object", "name"] name given
  | .divmod => do
    match ← countedArguments name name 2 2 given with
    | [a, b] => match a.number?, b.number? with
      | some x, some y => do
        match x, y with
        | .inl _, .inl _ => pure ()
        | _, _ =>
          let _ ← Arithmetic.numberToFloat x
          if (← Arithmetic.numberToFloat y) == 0.0 then raise .zeroDivision "float divmod()"
        let quotient ← Arithmetic.binary (collect self) .floorDivide false a b
        return .tuple [quotient, ← Arithmetic.binary (collect self) .modulo false a b]
      | _, _ => Arithmetic.refused "divmod()" a b
    | _ => return .none
  | .getattr => do
    match given.positional with
    | [value, .text member] => guardedAttribute value member
    | _ => return .none
  | .hash => do
    let value ← oneArgument name given
    value.requireHashable
    return .int (value.residue?.getD 0)
  | .hex => return .text (inBase 16 "0x" (← indexOf (← oneArgument name given)))
  | .id => do
    match ← oneArgument name given with
    | .object address => return .int address
    | _ => return .int 0
  | .isinstance => do
    match ← countedArguments name name 2 2 given with
    | [value, classes] => do
      return .bool (← matchesClass "isinstance() arg 2 must be a type, a tuple of types, or a union"
        (← value.classOf) Value.nestingLimit classes)
    | _ => return .none
  | .issubclass => do
    match ← countedArguments name name 2 2 given with
    | [_, .tuple []] => return .bool false
    | [value, classes] => do
      match ← value.class? with
      | some c => return .bool (← matchesClass
          "issubclass() arg 2 must be a class, a tuple of classes, or a union" c
          Value.nestingLimit classes)
      | none => raise .type "issubclass() arg 1 must be a class"
    | _ => raise .type "issubclass() arg 1 must be a class"
  | .len => lengthOf (← oneArgument name given)
  | .max => extreme self name .above given
  | .min => extreme self name .below given
  | .oct => return .text (inBase 8 "0o" (← indexOf (← oneArgument name given)))
  | .ord => do
    match ← oneArgument name given with
    | .text s => match s.toList with
      | [c] => return .int c.toNat
      | cs => raise .type ("ord() expected a character, but string of length " ++
          cs.length.repr ++ " found")
    | .bytes [b] => return .int b.toNat
    | .bytes content => raise .type ("ord() expected a character, but string of length " ++
        content.length.repr ++ " found")
    | value => raise .type ("ord() expected string of length 1, but " ++ (← value.typeName) ++
        " found")
  | .pow => do
    match ← positionalOnly name given with
    | [a, b] => Arithmetic.binary (collect self) .power false a b
    | [.int a, .int b, .int m] => powerModulo a b m
    | [a, b, _] => Arithmetic.refused "** or pow()" a b
    | [_] => raise .type "pow() missing required argument 'exp' (pos 2)"
    | [] => raise .type "pow() missing required argument 'base' (pos 1)"
    | values => raise .type ("pow() takes at most 3 arguments (" ++ values.length.repr ++ " given)")
  | .repr => return .text (← (← oneArgument name given).shown)
  | .round => do
    match ← positionalOnly name given with
    | [value] => roundTo value none
    | [value, places] => roundTo value (some places)
    | [] => raise .type "round() missing required argument 'number' (pos 1)"
    | values => raise .type ("round() takes at most 2 arguments (" ++ values.length.repr ++
        " given)")
  | .setattr => writeAttribute ["object", "name", "value"] name given
  | .sum => sum self given

/-- Call a method of a value that is not an object. -/
def callValueMethod (self : Interpreter) (receiver : Value) (name : String)
    (given : Arguments Value) : Step Value := do
  match receiver with
  | .text s => textMethod self s name given
  | .tuple items => tupleMethod items name given
  | .date d => return .text d.write
  | .dateTime t => return .text t.write
  | _ => return .none

/-- Call a method of an object. -/
def callObjectMethod (self : Interpreter) (receiver : Value) (address : Address) (name : String)
    (given : Arguments Value) : Step Value := do
  match ← load address with
  | .list items => listMethod self address items name given
  | .dictionary entries => dictionaryMethod self address entries name given
  | .set members => setMethod address members name given
  | .policy object => match PolicyMethod.of? object.policyClass name with
    | some method => PolicyCall.callMethod self receiver object method given
    | none => return .none
  | _ => return .none

/-- Call a method; a method of a class takes the value as its first argument. -/
def callMethod (self : Interpreter) (receiver : Value) (name : String) (given : Arguments Value) :
    Step Value := do
  match receiver with
  | .classValue (.policy c) _ => match PolicyMethod.of? c name with
    | some method => PolicyCall.callClassMethod self c method given
    | none => return .none
  | .classValue c _ => do
    match given.positional with
    | [] => raise .type ("unbound method " ++ c.name ++ "." ++ name ++ "() needs an argument")
    | value :: rest => do
      if !((← value.classOf).isKindOf c) then
        raise .type ("descriptor '" ++ name ++ "' for '" ++ c.name ++
          "' objects doesn't apply to a '" ++ (← value.typeName) ++ "' object")
      let given := { given with positional := rest }
      match value with
      | .object address => callObjectMethod self value address name given
      | _ => callValueMethod self value name given
  | .object address => callObjectMethod self receiver address name given
  | _ => callValueMethod self receiver name given

end Script
end PolicyStudio
