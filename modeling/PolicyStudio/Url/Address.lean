import PolicyStudio.Url.Host
import PolicyStudio.Url.Route

/-!
# Addresses

An address has a scheme.  The common schemes name a host, in front of it perhaps a
user and behind it a port and a path; other schemes may name a host, or go on with
any text.  Files have a host, too, but it is mostly left out.

Reading is generous: blanks at the ends, line breaks, missing slashes and large
letters are put right, so that each address has one text.
-/

namespace PolicyStudio
namespace Url

/-- Who is asked for an address, and where. -/
structure Authority where
  user : String
  host : String
  port : Option Nat
deriving Repr, DecidableEq

/-- The text of an authority. -/
def Authority.text (authority : Authority) : String :=
  let port := match authority.port with
    | some n => ":" ++ n.repr
    | none => ""
  "//" ++ authority.user ++ authority.host ++ port

/-- An address. -/
structure Address where
  scheme : String
  authority : Option Authority
  route : Route
  query : Option String
  fragment : Option String
deriving Repr, DecidableEq

namespace Address

/-- The text of what stands before the path.  Without an authority, a path that looks
like one is kept apart from the scheme. -/
def start (address : Address) : String :=
  match address.authority with
  | some authority => authority.text
  | none => if address.route.looksLikeHost then "/." else ""

/-- The text of an address. -/
def text (address : Address) : String :=
  let query := match address.query with
    | some query => "?" ++ query
    | none => ""
  let fragment := match address.fragment with
    | some fragment => "#" ++ fragment
    | none => ""
  address.scheme ++ ":" ++ address.start ++ address.route.text ++ query ++ fragment

/-- The ports of the common schemes. -/
def commonPorts : List (String × Nat) :=
  [("http", 80), ("https", 443), ("ws", 80), ("wss", 443), ("ftp", 21)]

/-- The scheme is common: it names a host. -/
def isCommon (scheme : String) : Bool :=
  (commonPorts.lookup scheme).isSome

/-- The scheme of files. -/
def fileScheme : String := "file"

/-- Backslashes count as slashes. -/
def isLenient (scheme : String) : Bool :=
  isCommon scheme || scheme == fileScheme

/-- Leave out what is around and inside of an address without a meaning. -/
def tidy (s : String) : List Char :=
  let isOuter (c : Char) : Bool := c.toNat ≤ 0x20
  let inner := ((s.toList.dropWhile isOuter).reverse.dropWhile isOuter).reverse
  inner.filter fun c => c ∉ ['\t', '\n', '\r']

/-- Split off the scheme. -/
def takeScheme? (cs : List Char) : Option (String × List Char) :=
  match cs.span (· ≠ ':') with
  | (first :: rest, ':' :: tail) =>
    if first.isAlpha ∧ rest.all (fun c => c.isAlphanum || c ∈ ['+', '-', '.']) then
      some (String.ofList ((first :: rest).map Char.toLower), tail)
    else none
  | _ => none

/-- Split off the part behind a character. -/
def takeBehind (mark : Char) (cs : List Char) : List Char × Option (List Char) :=
  match cs.span (· ≠ mark) with
  | (front, _ :: behind) => (front, some behind)
  | (front, []) => (front, none)

/-- The user in front of a host: a name, and perhaps a password. -/
def userText (cs : List Char) : String :=
  let (name, password) := takeBehind ':' cs
  let part (cs : List Char) : String := String.ofList (escape escapedInUser cs)
  match password with
  | some (c :: rest) => part name ++ ":" ++ part (c :: rest) ++ "@"
  | _ => if name.isEmpty then "" else part name ++ "@"

/-- Split off the user at the last sign for it. -/
def takeUser (cs : List Char) : String × List Char :=
  match cs.reverse.span (· ≠ '@') with
  | (host, _ :: user) => (userText user.reverse, host.reverse)
  | (_, []) => ("", cs)

/-- Split a host from its port at the first colon outside of brackets. -/
def takePort (inside : Bool) (seen : List Char) : List Char → List Char × Option (List Char)
  | [] => (seen.reverse, none)
  | ':' :: rest => if inside then takePort inside (':' :: seen) rest else (seen.reverse, some rest)
  | c :: rest =>
    takePort (if c = '[' then true else if c = ']' then false else inside) (c :: seen) rest

/-- A port in digits; no digits are no port.  Behind the digits only a path may follow,
which begins with a backslash where that is no slash. -/
def port? (scheme : String) (cs : List Char) : Option (Option Nat × List Char) :=
  let (digits, rest) := cs.span Char.isDigit
  let n := digits.foldl (fun n c => 10 * n + (c.toNat - 0x30)) 0
  if 65535 < n ∨ (rest ≠ [] ∧ rest.head? ≠ some '\\') then none
  else if digits.isEmpty ∨ commonPorts.lookup scheme = some n then some (none, rest)
  else some (some n, rest)

/-- Read an authority; what may be left of it belongs to the path. -/
def authority? (scheme : String) (cs : List Char) : Option (Authority × List Char) := do
  let (user, rest) := takeUser cs
  let (host, port) := takePort false [] rest
  if host.isEmpty then
    if isCommon scheme || !user.isEmpty || port.isSome then failure
    return (⟨user, "", none⟩, [])
  let host ← if isCommon scheme then commonHost? host else otherHost? host
  let (port, rest) ← port? scheme (port.getD [])
  return (⟨user, host, port⟩, rest)

/-- Read what is behind two slashes: an authority and a path.  A sign for a user alone
is an authority only at the end of an address. -/
def readBehindSlashes (scheme : String) (cs : List Char) (atEnd : Bool) :
    Option (Option Authority × Route) := do
  let lenient := isLenient scheme
  let isEnd (c : Char) : Bool := c = '/' || (lenient && c = '\\')
  let (front, path) := cs.span (!isEnd ·)
  if front = ['@'] ∧ !(atEnd && path.isEmpty) then failure
  let (authority, rest) ← authority? scheme front
  return (some authority, Route.behindHost lenient (rest ++ path))

/-- A slash in the address of a file. -/
def isSlash (c : Char) : Bool := c = '/' || c = '\\'

/-- Nobody is asked for a file. -/
def nobody : Authority := ⟨"", "", none⟩

/-- Read what is behind the two slashes of a file: a host and a path.  A drive is no
host, and a file on a drive has none. -/
def readFileBehindSlashes (cs : List Char) : Option (Option Authority × Route) := do
  let (front, path) := cs.span (!isSlash ·)
  if Route.isDrive front then return (some nobody, (Route.ofFile cs).1)
  let host ← if front.isEmpty then some "" else commonHost? front
  if host = "" ∨ host = "localhost" then return (some nobody, (Route.ofFile path).1)
  let (route, onDrive) := Route.ofFile (path.drop 1)
  return (some (if onDrive then nobody else ⟨"", host, none⟩), route)

/-- Read what is behind the scheme of files. -/
def readFile : List Char → Option (Option Authority × Route)
  | a :: b :: rest =>
    if isSlash a ∧ isSlash b then readFileBehindSlashes rest
    else some (some nobody, (Route.ofFile (if isSlash a then b :: rest else a :: b :: rest)).1)
  | [a] => some (some nobody, (Route.ofFile (if isSlash a then [] else [a])).1)
  | [] => some (some nobody, (Route.ofFile []).1)

/-- Read what is behind a scheme, up to the query. -/
def readBody (scheme : String) (cs : List Char) (atEnd : Bool) :
    Option (Option Authority × Route) :=
  if isCommon scheme then
    readBehindSlashes scheme (cs.dropWhile isSlash) atEnd
  else if scheme = fileScheme then readFile cs
  else match cs with
    | '/' :: '/' :: rest => readBehindSlashes scheme rest atEnd
    | '/' :: rest => some (none, Route.behindHost false ('/' :: rest))
    | rest => some (none, .plain (String.ofList (escape escapedAnywhere rest)))

/-- Read an address. -/
def read? (s : String) : Option Address := do
  let (scheme, rest) ← takeScheme? (tidy s)
  let (rest, fragment) := takeBehind '#' rest
  let (body, query) := takeBehind '?' rest
  let (authority, route) ← readBody scheme body (fragment.isNone && query.isNone)
  let escapedInThis := if isLenient scheme then escapedInCommonQuery else escapedInQuery
  return {
    scheme
    authority
    route
    query := query.map fun cs => String.ofList (escape escapedInThis cs)
    fragment := fragment.map fun cs => String.ofList (escape escapedInFragment cs) }

end Address

end Url
end PolicyStudio
