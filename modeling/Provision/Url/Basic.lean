import Provision.Url.Path

/-!
# Addresses

An address begins with a scheme and a colon. The special schemes and files have a host and a path;
other schemes have them if two slashes follow the colon, and otherwise a path that may be any text.
`Url.ofText` reads an address into its normal form, and `Url.text` writes it.

White space and control characters around an address do not count, nor do tabs and line breaks
within it.
-/

namespace Provision

/-- An address. Its parts are encoded. An address without a host has a path that begins with a
slash, or any text. -/
structure Url where
  scheme : String
  user : String
  host : Option String
  port : Option Nat
  path : String
  query : Option String
  fragment : Option String
  deriving Repr, DecidableEq

namespace Url

/-- The kind of a scheme. -/
def kindOf (scheme : String) : Kind :=
  if scheme = "file" then .file
  else if ["http", "https", "ws", "wss", "ftp"].contains scheme then .special
  else .other

/-- The port number that a scheme implies. -/
def defaultPort (scheme : String) : Option Nat :=
  match scheme with
  | "http" => some 80
  | "ws" => some 80
  | "https" => some 443
  | "wss" => some 443
  | "ftp" => some 21
  | _ => none

/-- A part after its sign, if it is there. -/
def signed (sign : String) : Option String → String
  | some s => sign ++ s
  | none => ""

/-- The text of an address. A path that begins with two slashes needs a dot before it where there
is no host. -/
def text (u : Url) : String :=
  let authority := match u.host with
    | some h =>
      "//" ++ (if u.user = "" then "" else u.user ++ "@") ++ h ++
        signed ":" (u.port.map toString)
    | none => if Text.startsWith ['/', '/'] u.path.toList then "/." else ""
  u.scheme ++ ":" ++ authority ++ u.path ++ signed "?" u.query ++ signed "#" u.fragment

/-- The address without the name and password of its user. -/
def withoutUser (u : Url) : Url := { u with user := "" }

/-! ## Reading -/

/-- White space and control characters, which do not count around an address. -/
def isEdge (c : Char) : Bool := c.toNat ≤ 0x20

/-- The characters of an address that count. -/
def significant (cs : List Char) : List Char :=
  let inner := ((cs.dropWhile isEdge).reverse.dropWhile isEdge).reverse
  inner.filter fun c => c != '\t' && c != '\n' && c != '\r'

/-- The characters of a scheme after the first. -/
def isSchemeChar (c : Char) : Bool := c.isAlphanum || c == '+' || c == '-' || c == '.'

/-- The scheme of an address in lower case, and what follows its colon. -/
def scheme? (cs : List Char) : Option (List Char × List Char) :=
  let name := cs.takeWhile isSchemeChar
  match cs.head?, cs.drop name.length with
  | some c, ':' :: rest => if c.isAlpha then some (name.map Char.toLower, rest) else none
  | _, _ => none

/-- What follows the path: a query after a question mark, a fragment after a hash sign. -/
def queryAndFragment (k : Kind) (cs : List Char) : Option String × Option String :=
  let query (cs : List Char) : String := String.ofList (encode (inQuery k.isSpecial) cs)
  let fragment (cs : List Char) : Option String :=
    match cs with
    | _ :: cs => some (String.ofList (encode inFragment cs))
    | [] => none
  match cs with
  | '?' :: cs =>
    let q := cs.takeWhile (· != '#')
    (some (query q), fragment (cs.drop q.length))
  | cs => (none, fragment cs)

/-- The text up to the first slash, question mark or hash sign, and the rest. -/
def authorityFrom (k : Kind) (cs : List Char) : List Char × List Char :=
  let a := cs.takeWhile fun c => !(isSlash k c || endsPath c)
  (a, cs.drop a.length)

/-- The user of an authority, encoded: a name and a password that is not empty. -/
def userText (cs : List Char) : List Char :=
  let name := cs.takeWhile (· != ':')
  let password := cs.drop (name.length + 1)
  encode inUser name ++ if password.isEmpty then [] else ':' :: encode inUser password

/-- The part of an authority before its last at sign, if it has one, and the part after it. -/
def cutUser (cs : List Char) : Option (List Char) × List Char :=
  let after := (cs.reverse.takeWhile (· != '@')).reverse
  if after.length = cs.length then (none, cs)
  else (some (cs.take (cs.length - after.length - 1)), after)

/-- The host and what follows its colon; a colon in brackets belongs to the host. -/
def cutPort (inBrackets : Bool) : List Char → List Char × Option (List Char)
  | [] => ([], none)
  | c :: cs =>
    if c == ':' && !inBrackets then ([], some cs)
    else
      let inside := if c == '[' then true else if c == ']' then false else inBrackets
      let (host, port) := cutPort inside cs
      (c :: host, port)

/-- A port number; none if it is not written or is the one that the scheme implies. -/
def portFrom (scheme : String) (cs : List Char) : Except Problem (Option Nat) :=
  if cs.all Char.isDigit then
    let n := cs.foldl (fun n d => n * 10 + (d.toNat - '0'.toNat)) 0
    if 65535 < n then .error .badPort
    else .ok (if cs.isEmpty || defaultPort scheme = some n then none else some n)
  else .error .badPort

/-- The path and what follows it, after the host. -/
def pathAfterHost (k : Kind) (cs : List Char) : List Char × List Char :=
  match cs with
  | c :: rest =>
    if isSlash k c then
      let (names, rest) := namesFrom k [] rest
      (rootPath (resolveNames k [] names), rest)
    else if endsPath c && !k.isSpecial then ([], cs)
    else
      let (names, rest) := namesFrom k [] cs
      (rootPath (resolveNames k [] names), rest)
  | [] => (if k.isSpecial then ['/'] else [], [])

/-- An address with a host, from what follows its slashes. -/
def withAuthority (scheme : String) (k : Kind) (cs : List Char) : Except Problem Url := do
  let (authority, rest) := authorityFrom k cs
  let (user, hostAndPort) := cutUser authority
  if user = some [] && hostAndPort.isEmpty && !rest.isEmpty then throw .emptyHost
  let user := (user.map userText).getD []
  let (hostText, portText) := cutPort false hostAndPort
  if k = .special && hostText.isEmpty then throw .emptyHost
  let host ← if k = .special then specialHost hostText else otherHost hostText
  if host.isEmpty && portText.isSome then throw .emptyHost
  let port ← match portText with
    | some p => portFrom scheme p
    | none => pure none
  if host.isEmpty && !user.isEmpty then throw .emptyHost
  let (path, rest) := pathAfterHost k rest
  let (query, fragment) := queryAndFragment k rest
  return ⟨scheme, String.ofList user, some (String.ofList host), port, String.ofList path, query,
    fragment⟩

/-- The address of a file with a host, a path, and what follows it. -/
def fileUrl (host path rest : List Char) : Url :=
  let (query, fragment) := queryAndFragment .file rest
  ⟨"file", "", some (String.ofList host), none, String.ofList (singleSlash path), query, fragment⟩

/-- The address of a file. The host of one is left out where it is the machine itself, or where
the letter of a drive follows. -/
def fileFrom (cs : List Char) : Except Problem Url := do
  match cs with
  | c :: d :: rest =>
    if isSlash .file c && isSlash .file d then
      let (hostText, after) := authorityFrom .file rest
      if isDrive hostText then
        let (names, rest) := namesFrom .file [] rest
        return fileUrl [] (rootPath (resolveNames .file [] names)) rest
      let host ← if hostText.isEmpty then pure [] else specialHost hostText
      if host.isEmpty || host = "localhost".toList then
        -- The first slash is the root; the rest is read below it.
        let (names, rest) := namesFrom .file [] after
        return fileUrl [] (rootPath (resolveNames .file [] names)) rest
      let inner := match after with
        | c :: more => if isSlash .file c then more else after
        | [] => []
      let (names, rest) := namesFrom .file [] inner
      let names := resolveNames .file [] names
      return fileUrl (if startsAtDrive names then [] else host) (rootPath names) rest
    else
      let inner := if isSlash .file c then d :: rest else cs
      let (names, rest) := namesFrom .file [] inner
      return fileUrl [] (rootPath (resolveNames .file [] names)) rest
  | cs =>
    let inner := match cs with
      | c :: more => if isSlash .file c then more else cs
      | [] => []
    let (names, rest) := namesFrom .file [] inner
    return fileUrl [] (rootPath (resolveNames .file [] names)) rest

/-- An address of another scheme. -/
def otherFrom (scheme : String) (cs : List Char) : Except Problem Url :=
  match cs with
  | '/' :: '/' :: rest => withAuthority scheme .other rest
  | '/' :: rest =>
    let (names, rest) := namesFrom .other [] rest
    let (query, fragment) := queryAndFragment .other rest
    .ok ⟨scheme, "", none, none, String.ofList (rootPath (resolveNames .other [] names)), query,
      fragment⟩
  | cs =>
    let path := cs.takeWhile fun c => !endsPath c
    let (query, fragment) := queryAndFragment .other (cs.drop path.length)
    .ok ⟨scheme, "", none, none, String.ofList (encode isControl path), query, fragment⟩

/-- Reads an address, or says why the text is none. -/
def ofText (s : String) : Except Problem Url :=
  match scheme? (significant s.toList) with
  | none => .error .noBase
  | some (name, rest) =>
    let scheme := String.ofList name
    match kindOf scheme with
    | .file => fileFrom rest
    | .special => withAuthority scheme .special (rest.dropWhile (isSlash .special))
    | .other => otherFrom scheme rest

end Url

end Provision
