import Provision.Files.Path
import Provision.Text.Utf8

/-!
# File trees

The files of a machine as a tree of folders, files and symbolic links. The system may refuse to
open a file or a folder, which is then there, but closed. A path is resolved from a folder name by
name; a link in the middle is always followed, one at the end only on request, and at most forty
are. `Disk` is a tree with the folder that relative paths start from, and has the
operations that programs use: reading, writing, making folders and asking what is there.
-/

namespace Provision.Files

/-- What a name in a folder stands for. A file that cannot be read and a folder that cannot be
entered are closed, for a reason that the system gives; what is in them is not seen. -/
inductive Entry where
  | file (content : List UInt8)
  | link (target : String)
  | folder (children : List (String × Entry))
  | closedFile (reason : String)
  | closedFolder (reason : String)
  deriving Inhabited, BEq

/-- Why an operation on files fails. -/
inductive Problem where
  | missing | exists | notFolder | isFolder | tooLong | loop | notText | zeroByte
  | closed (reason : String)
  deriving Repr, DecidableEq

/-- The text of a failed operation. -/
def Problem.message : Problem → String
  | missing => "No such file or directory (os error 2)"
  | .exists => "File exists (os error 17)"
  | notFolder => "Not a directory (os error 20)"
  | isFolder => "Is a directory (os error 21)"
  | tooLong => "File name too long (os error 36)"
  | loop => "Too many levels of symbolic links (os error 40)"
  | notText => "stream did not contain valid UTF-8"
  | zeroByte => "file name contained an unexpected NUL byte"
  | closed reason => reason

namespace Entry

/-- Whether an entry is a file, closed or not. -/
def isFile : Entry → Bool
  | file _ | closedFile _ => true
  | _ => false

/-- Whether an entry is a folder, closed or not. -/
def isFolder : Entry → Bool
  | folder _ | closedFolder _ => true
  | _ => false

/-- Whether the system refuses to open an entry. -/
def isClosed : Entry → Bool
  | closedFile _ | closedFolder _ => true
  | _ => false

/-- The content of an entry, if it is a file that can be read. -/
def read : Entry → Except Problem (List UInt8)
  | file content => .ok content
  | link _ => .error .missing
  | folder _ => .error .isFolder
  | closedFile reason | closedFolder reason => .error (.closed reason)

/-- The child of a folder with a name. -/
def child? (name : String) : Entry → Option Entry
  | folder children => (children.find? (fun c => c.1 = name)).map (·.2)
  | _ => none

/-- The entry at the end of a list of names, none of which is followed. -/
def at? : List String → Entry → Option Entry
  | [], e => some e
  | name :: names, e => (e.child? name).bind (at? names)

/-- A folder's children with one of them put in place of the one of its name, or at the end. -/
def putChild (name : String) (e : Entry) : List (String × Entry) → List (String × Entry)
  | [] => [(name, e)]
  | c :: cs => if c.1 = name then (name, e) :: cs else c :: putChild name e cs

/-- The tree with an entry at the end of a list of names. Folders on the way are made. -/
def put (tree : Entry) (names : List String) (e : Entry) : Entry :=
  match names with
  | [] => e
  | name :: rest =>
    match tree with
    | folder children =>
      folder (putChild name (put (((folder children).child? name).getD (folder [])) rest e)
        children)
    | _ => folder [(name, put (folder []) rest e)]

/-- The tree without the entry at the end of a list of names. -/
def erase : List String → Entry → Entry
  | [], e => e
  | [name], folder children => folder (children.filter (fun c => c.1 != name))
  | name :: names, folder children =>
    match (folder children).child? name with
    | some e => folder (putChild name (erase names e) children)
    | none => folder children
  | _, e => e

end Entry

/-- The text that is written in some bytes. -/
def textOf (bytes : List UInt8) : Except Problem String :=
  match Text.ofBytes? bytes with
  | some s => .ok s
  | none => .error .notText

/-- Where a path leads: the names from the root, and what is there, if anything. -/
structure Place where
  names : List String
  entry : Option Entry

/-- The most bytes of a name. -/
def maxName : Nat := 255

/-- The most bytes of a path. -/
def maxPath : Nat := 4095

/-- How many links are followed for one path. -/
def maxLinks : Nat := 40

/-- Goes from a folder along names. `here` has the names from the root to the folder, the last one
first, `links` counts how many more links may be followed, and `bound` the names that are left.
With `making` a file is wanted, which may be missing: then the last name has no slash after it. -/
def resolveFrom (root : Entry) (follow making : Bool) (bound links : Nat) (here : List String) :
    List String → Except Problem Place
  | [] => .ok ⟨here.reverse, root.at? here.reverse⟩
  | name :: rest =>
    match bound with
    | 0 => .error .loop
    | n + 1 =>
      if staysHere name then resolveFrom root follow making n links here rest
      else if name = ".." then resolveFrom root follow making n links (here.drop 1) rest
      else if making && !rest.isEmpty && rest.all (· = "") then .error .isFolder
      else if maxName < name.utf8ByteSize then .error .tooLong
      else match root.at? (name :: here).reverse with
        | none =>
          if rest.isEmpty || (!making && rest.all staysHere) then .ok ⟨(name :: here).reverse, none⟩
          else .error .missing
        | some (.folder _) => resolveFrom root follow making n links (name :: here) rest
        | some (.file content) =>
          if rest.isEmpty then .ok ⟨(name :: here).reverse, some (.file content)⟩
          else .error .notFolder
        | some (.link target) =>
          if rest.isEmpty && !follow then .ok ⟨(name :: here).reverse, some (.link target)⟩
          else match links with
            | 0 => .error .loop
            | l + 1 =>
              if target = "" then .error .missing
              else resolveFrom root follow making n l (if isAbsolute target then [] else here)
                (names target ++ rest)
        | some (.closedFile reason) =>
          if rest.isEmpty then .ok ⟨(name :: here).reverse, some (.closedFile reason)⟩
          else .error .notFolder
        | some (.closedFolder reason) =>
          if rest.all (· = "") then .ok ⟨(name :: here).reverse, some (.closedFolder reason)⟩
          else .error (.closed reason)

/-- A tree of files and the folder that relative paths start from. -/
structure Disk where
  root : Entry
  here : List String
  deriving Inhabited

namespace Disk

/-- Where a path leads; `making` is set if a file may be made there. -/
def locate (d : Disk) (follow making : Bool) (path : String) : Except Problem Place :=
  if path = "" then .error .missing
  else if path.toList.contains '\x00' then .error .zeroByte
  else if maxPath < path.utf8ByteSize then .error .tooLong
  else
    let start := if isAbsolute path then [] else d.here.reverse
    -- Every link adds at most the names of a path.
    resolveFrom d.root follow making ((maxLinks + 2) * (maxPath + 2)) maxLinks start (names path)

/-- Where a path leads. -/
def resolve (d : Disk) (follow : Bool) (path : String) : Except Problem Place :=
  d.locate follow false path

/-- What is at the end of a path, with links followed. -/
def entry? (d : Disk) (path : String) : Option Entry :=
  match d.resolve true path with
  | .ok place => place.entry
  | .error _ => none

/-- Whether something is there; a link that leads nowhere is nothing. -/
def exists? (d : Disk) (path : String) : Bool := (d.entry? path).isSome

/-- Whether a file is there. -/
def isFile (d : Disk) (path : String) : Bool := (d.entry? path).any Entry.isFile

/-- Whether a folder is there. -/
def isFolder (d : Disk) (path : String) : Bool := (d.entry? path).any Entry.isFolder

/-- The absolute path without links that a path leads to. -/
def canonical (d : Disk) (path : String) : Except Problem String := do
  let place ← d.resolve true path
  if place.entry.isNone then throw .missing
  return "/" ++ String.intercalate "/" place.names

/-- The content of a file. -/
def read (d : Disk) (path : String) : Except Problem (List UInt8) := do
  match (← d.resolve true path).entry with
  | some e => e.read
  | none => throw .missing

/-- The content of a file that is a text. -/
def readText (d : Disk) (path : String) : Except Problem String := do textOf (← d.read path)

/-- Writes a file, after the content it has if `append` is set; a file that is missing is made. -/
def write (d : Disk) (append : Bool) (path : String) (content : List UInt8) :
    Except Problem Disk := do
  let place ← d.locate true true path
  match place.entry with
  | some (.folder _) | some (.closedFolder _) => throw .isFolder
  | some (.closedFile reason) => throw (.closed reason)
  | some (.file old) =>
    let all := if append then old ++ content else content
    return { d with root := d.root.put place.names (.file all) }
  | _ => return { d with root := d.root.put place.names (.file content) }

/-- Makes one folder. -/
def makeFolder (d : Disk) (path : String) : Except Problem Disk := do
  let place ← d.resolve false path
  match place.entry with
  | some _ => throw .exists
  | none => return { d with root := d.root.put place.names (.folder []) }

/-- Makes a folder and those it is in, unless it is there; `bound` is more than their number. -/
def makeFoldersFrom (d : Disk) (bound : Nat) (path : String) : Except Problem Disk :=
  match bound with
  | 0 => .ok d
  | n + 1 =>
    if path = "" then .ok d
    else match d.makeFolder path with
      | .ok d => .ok d
      | .error .missing =>
        match parent? path with
        | none => .error .missing
        | some parent =>
          match makeFoldersFrom d n parent with
          | .error e => .error e
          | .ok d =>
            match d.makeFolder path with
            | .ok d => .ok d
            | .error e => if d.isFolder path then .ok d else .error e
      | .error e => if d.isFolder path then .ok d else .error e

/-- Makes a folder and those it is in, unless it is there. -/
def makeFolders (d : Disk) (path : String) : Except Problem Disk :=
  d.makeFoldersFrom (path.length + 2) path

end Disk

end Provision.Files
