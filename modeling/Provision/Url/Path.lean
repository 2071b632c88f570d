import Provision.Url.Host

/-!
# Paths of addresses

A path is read name by name. A single dot is left out, two dots take the name before them away, and
both may be written with percent signs; where they end the path, it ends with a slash. The letter of
a drive is never taken away, and at the beginning of a file's path its bar becomes a colon.
-/

namespace Provision.Url

/-- How the rest of an address is read, which depends on its scheme. -/
inductive Kind where
  | file | special | other
  deriving Repr, DecidableEq

/-- Whether backslashes count as slashes. -/
def Kind.isSpecial : Kind → Bool
  | other => false
  | _ => true

/-- Whether a character is a slash for a kind of scheme. -/
def isSlash (k : Kind) (c : Char) : Bool := c == '/' || (k.isSpecial && c == '\\')

/-- Whether a character begins a query or a fragment. -/
def endsPath (c : Char) : Bool := c == '?' || c == '#'

/-- A name that stands for the folder it is in. -/
def isDot (cs : List Char) : Bool :=
  let s := cs.map Char.toLower
  s == ".".toList || s == "%2e".toList

/-- A name that stands for the folder above. -/
def isTwoDots (cs : List Char) : Bool :=
  let s := cs.map Char.toLower
  s == "..".toList || s == ".%2e".toList || s == "%2e.".toList || s == "%2e%2e".toList

/-- The letter of a drive, with a colon or a bar. -/
def isDrive : List Char → Bool
  | [c, d] => c.isAlpha && (d == ':' || d == '|')
  | _ => false

/-- The names of a path, encoded, up to the query or fragment; the last one has no slash after
it. -/
def namesFrom (k : Kind) (name : List Char) : List Char → List (List Char) × List Char
  | [] => ([encode inPath name.reverse], [])
  | c :: cs =>
    if isSlash k c then
      let (names, rest) := namesFrom k [] cs
      (encode inPath name.reverse :: names, rest)
    else if endsPath c then ([encode inPath name.reverse], c :: cs)
    else namesFrom k (c :: name) cs

/-- The names of a path after the dots among them are resolved. `done` has the names so far, the
last one first. -/
def resolveNames (k : Kind) (done : List (List Char)) : List (List Char) → List (List Char)
  | [] => done.reverse
  | name :: rest =>
    let last := rest.isEmpty
    if isTwoDots name then
      let kept := match done with
        | d :: ds => if isDrive d then d :: ds else ds
        | [] => []
      resolveNames k (if last then [] :: kept else kept) rest
    else if isDot name then resolveNames k (if last then [] :: done else done) rest
    else
      let name := if k = .file && done.isEmpty && isDrive name then name.take 1 ++ [':'] else name
      resolveNames k (name :: done) rest

/-- Whether the first name of a file's path is the letter of a drive. -/
def startsAtDrive (names : List (List Char)) : Bool := names.head?.any isDrive

/-- The path of names below the root. -/
def rootPath (names : List (List Char)) : List Char := '/' :: Text.joinWith '/' names

/-- A path with a single slash at its beginning. -/
def singleSlash (path : List Char) : List Char := '/' :: path.dropWhile (· == '/')

end Provision.Url
