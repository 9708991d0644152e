import NodeSupply.Rest.Host

/-!
# Web addresses

Addresses of the schemes `http` and `https` as web browsers read them.  White space and controls at
the two ends are cut off, tabs and line ends are dropped, a backslash counts as a slash, slashes in
front of the server may be too few or too many, `.` and `..` are resolved, and what may not stand in
an address is percent-encoded.

## Main definitions

* `Url.parse?` : the address that text stands for.
* `Url.withoutCredentials` : an address without what it says about the user.
* `Url.addQuery` : an address with more query parameters.
* `Url.text`, `Url.target` : an address in full, and what of it is sent to the server.
-/

namespace NodeSupply

/-- How a server is spoken to. -/
inductive Scheme where
  /-- In the open. -/
  | http
  /-- Under encryption. -/
  | https
deriving Repr, DecidableEq

namespace Scheme

/-- The name of a scheme. -/
def name : Scheme → String
  | http => "http"
  | https => "https"

/-- The port that a server is spoken to at where an address names none. -/
def port : Scheme → Nat
  | http => 80
  | https => 443

end Scheme

/-- A web address. -/
structure Url where
  /-- How the server is spoken to. -/
  scheme : Scheme
  /-- The name of the user, percent-encoded. -/
  user : String
  /-- The password of the user, percent-encoded. -/
  password : Option String
  /-- The server. -/
  host : Host
  /-- The port, if it is not that of the scheme. -/
  port : Option Nat
  /-- The segments of the path, percent-encoded. -/
  path : List String
  /-- The query, percent-encoded. -/
  query : Option String
  /-- The fragment, percent-encoded. -/
  fragment : Option String
deriving Repr, DecidableEq

namespace Url

/-! ### Percent-encoding -/

/-- A byte as a percent sign and two hexadecimal digits. -/
def percentByte (b : UInt8) : List Char :=
  ['%', (Nat.digitChar (b.toNat / 16)).toUpper, (Nat.digitChar (b.toNat % 16)).toUpper]

/-- Characters with those that must not stand by themselves percent-encoded. -/
def percentEncode (mustEncode : Char → Bool) (cs : List Char) : List Char :=
  cs.flatMap fun c =>
    if mustEncode c then (Utf8.encode c.toString).flatMap percentByte else [c]

/-- Whether a character is a control or not an ASCII one. -/
def isControl (c : Char) : Bool := c.toNat < 0x20 || 0x7e < c.toNat

/-- Whether a character must be encoded in a fragment. -/
def encodedInFragment (c : Char) : Bool := isControl c || [' ', '"', '<', '>', '`'].contains c

/-- Whether a character must be encoded in a path. -/
def encodedInPath (c : Char) : Bool :=
  encodedInFragment c || ['#', '?', '\x7b', '\x7d'].contains c

/-- Whether a character must be encoded in the name or the password of a user. -/
def encodedInUser (c : Char) : Bool :=
  encodedInPath c || ['/', ':', ';', '=', '@', '[', '\\', ']', '^', '|'].contains c

/-- Whether a character must be encoded in a query. -/
def encodedInQuery (c : Char) : Bool :=
  isControl c || [' ', '"', '#', '<', '>', '\''].contains c

/-- Text as a key or value of a query parameter. -/
def formEncode (s : String) : List Char :=
  s.toList.flatMap fun c =>
    if c = ' ' then ['+']
    else if c.isAlphanum || ['*', '-', '.', '_'].contains c then [c]
    else (Utf8.encode c.toString).flatMap percentByte

/-! ### Paths -/

/-- A dot in a segment, as it stands or percent-encoded. -/
def dotForms : List String := [".", "%2e", "%2E"]

/-- Whether a segment stands for its own place. -/
def isSingleDot (segment : String) : Bool := dotForms.contains segment

/-- Whether a segment stands for the place above. -/
def isDoubleDot (segment : String) : Bool :=
  (dotForms.flatMap fun a => dotForms.map fun b => a ++ b).contains segment

/-- Whether a segment is a letter and a colon or bar, which the place above does not lead out of. -/
def isDrive (segment : String) : Bool :=
  match segment.toList with
  | [letter, mark] => letter.isAlpha && (mark == ':' || mark == '|')
  | _ => false

/-- Segments without the last one. -/
def goUp (segments : List String) : List String :=
  if segments.getLast?.any isDrive then segments else segments.dropLast

/-- The segments of a path after those in `above`, dots resolved. -/
def resolveDots (above : List String) : List String → List String
  | [] => above
  | [last] =>
    if isDoubleDot last then goUp above ++ [""]
    else if isSingleDot last then above ++ [""]
    else above ++ [last]
  | segment :: rest =>
    if isDoubleDot segment then resolveDots (goUp above) rest
    else if isSingleDot segment then resolveDots above rest
    else resolveDots (above ++ [segment]) rest

/-- The segments of a path that is written without its first slash. -/
def pathOf (cs : List Char) : List String :=
  let slashes := cs.map fun c => if c = '\\' then '/' else c
  resolveDots [] ((Text.fields '/' slashes).map fun segment =>
    String.ofList (percentEncode encodedInPath segment))

/-! ### Addresses -/

/-- Text in front of a character and text after it, if it occurs. -/
def cut (mark : Char) (cs : List Char) : List Char × Option (List Char) :=
  (cs.takeWhile (· != mark),
    match cs.dropWhile (· != mark) with
    | [] => none
    | _ :: rest => some rest)

/-- Whether a character is a slash or counts as one. -/
def isSlash (c : Char) : Bool := c == '/' || c == '\\'

/-- Text without the white space and controls at its ends, and without tabs and line ends. -/
def tidy (cs : List Char) : List Char :=
  let atEnd (c : Char) : Bool := c.toNat ≤ 0x20
  ((cs.dropWhile atEnd).reverse.dropWhile atEnd).reverse.filter fun c =>
    c != '\t' && c != '\n' && c != '\r'

/-- The scheme that text begins with, and what follows its colon. -/
def cutScheme? (cs : List Char) : Option (Scheme × List Char) :=
  match cut ':' cs with
  | (_, none) => none
  | (name, some rest) =>
    [Scheme.http, Scheme.https].findSome? fun scheme =>
      if name.map Char.toLower = scheme.name.toList then some (scheme, rest) else none

/-- The last part of text behind a character, and what is in front of that if it occurs. -/
def cutLast (mark : Char) (cs : List Char) : Option (List Char) × List Char :=
  match cut mark cs.reverse with
  | (last, none) => (none, last.reverse)
  | (last, some front) => (some front.reverse, last.reverse)

/-- Text in front of the first colon that is not between square brackets, and text after it. -/
def cutPort (inside : Bool) : List Char → List Char × Option (List Char)
  | [] => ([], none)
  | c :: cs =>
    if c = ':' && !inside then ([], some cs)
    else
      let (host, port) := cutPort (c == '[' || (inside && c != ']')) cs
      (c :: host, port)

/-- The port that text names, if it is not that of the scheme; no text names none. -/
def port? (scheme : Scheme) (cs : List Char) : Option (Option Nat) :=
  if cs.isEmpty then some none
  else (Numeral.readBelow? UInt16.size cs).map fun n => if n = scheme.port then none else some n

/-- The name and the password of a user. -/
def credentials (cs : List Char) : String × Option String :=
  let encode (cs : List Char) := String.ofList (percentEncode encodedInUser cs)
  let (user, password) := cut ':' cs
  (encode user, (password.filter (!·.isEmpty)).map encode)

/-- The address that text stands for. -/
def parse? (s : String) : Option Url := do
  let (scheme, rest) ← cutScheme? (tidy s.toList)
  let rest := rest.dropWhile isSlash
  let inServer (c : Char) : Bool := !isSlash c && c != '?' && c != '#'
  let (user, server) := cutLast '@' (rest.takeWhile inServer)
  let (host, port) := cutPort false server
  let (address, fragment) := cut '#' (rest.dropWhile inServer)
  let (address, query) := cut '?' address
  let (user, password) := credentials (user.getD [])
  return {
    scheme
    user
    password
    host := ← Host.parse? host
    port := ← port? scheme (port.getD [])
    path := pathOf (address.drop 1)
    query := query.map fun q => String.ofList (percentEncode encodedInQuery q)
    fragment := fragment.map fun f => String.ofList (percentEncode encodedInFragment f) }

/-- Whether percent-encoded text stands for text. -/
def isText (s : String) : Bool := (Utf8.decode? (Host.percentDecode (Utf8.encode s))).isSome

/-- An address without what it says about the user.  If the name, or the only password, is no text,
it cannot be told to the server in another way, and stays. -/
def withoutCredentials (u : Url) : Url :=
  if isText u.user && (u.user != "" || u.password.all isText) then
    { u with user := "", password := none }
  else u

/-- Query parameters as text. -/
def formText (parameters : List (String × String)) : List Char :=
  ['&'].intercalate (parameters.map fun (key, value) =>
    formEncode key ++ ['='] ++ formEncode value)

/-- An address with query parameters after those that it has. -/
def addQuery (u : Url) (parameters : List (String × String)) : Url :=
  let added := String.ofList (formText parameters)
  { u with query := some (match u.query with
      | none => added
      | some "" => added
      | some query => query ++ "&" ++ added) }

/-- What is sent to the server: the path and the query. -/
def target (u : Url) : String :=
  "/" ++ "/".intercalate u.path ++ u.query.elim "" ("?" ++ ·)

/-- What an address says about the user. -/
def userText (u : Url) : String :=
  if u.user = "" ∧ u.password = none then ""
  else u.user ++ u.password.elim "" (":" ++ ·) ++ "@"

/-- An address in full. -/
def text (u : Url) : String :=
  u.scheme.name ++ "://" ++ u.userText ++ u.host.text
    ++ u.port.elim "" (fun n => ":" ++ Numeral.text n) ++ u.target ++ u.fragment.elim "" ("#" ++ ·)

end Url

end NodeSupply
