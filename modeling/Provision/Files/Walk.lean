import Provision.Files.Tree

/-!
# Walking over a tree

A walk visits an entry and, if it is a folder, everything below it down to a depth. It enters no
links, except that it may begin at one that leads to a folder. A sorted walk visits the entries of
a folder in the order of their names.

The system opens no folder whose path is too long. A walk that comes to such a folder cannot go on
below it (`Visit.barrier?`): who walks may stop there, or pass over what is below (`opensAlong`).
-/

namespace Provision.Files

/-- An entry that a walk visits, with the names that lead to it from the start. -/
structure Visit where
  names : List String
  entry : Entry
  deriving Inhabited

mutual

/-- Visits an entry and `depth` levels below it; `before` has the names that lead to it. -/
def Entry.walk (depth : Nat) (before : List String) : Entry → List Visit
  | .folder children =>
    ⟨before, .folder children⟩ ::
      match depth with
      | 0 => []
      | n + 1 => walkChildren n before children
  | e => [⟨before, e⟩]

/-- Visits the entries of a folder. -/
def walkChildren (depth : Nat) (before : List String) : List (String × Entry) → List Visit
  | [] => []
  | (name, e) :: rest => e.walk depth (before ++ [name]) ++ walkChildren depth before rest

end

mutual

/-- An entry with the children of every folder in the order of their names. -/
def Entry.sorted : Entry → Entry
  | .folder children => .folder ((sortedChildren children).mergeSort (fun a b => a.1 ≤ b.1))
  | e => e

/-- The children of a folder, sorted with everything below them. -/
def sortedChildren : List (String × Entry) → List (String × Entry)
  | [] => []
  | (name, e) :: rest => (name, e.sorted) :: sortedChildren rest

end

mutual

/-- The number of levels below an entry. -/
def Entry.height : Entry → Nat
  | .folder children => childrenHeight children + 1
  | _ => 0

/-- The most levels below any of some children. -/
def childrenHeight : List (String × Entry) → Nat
  | [] => 0
  | (_, e) :: rest => max e.height (childrenHeight rest)

end

/-- The entry where a walk begins: a link only counts if it leads to a folder. -/
def Disk.walkStart? (d : Disk) (path : String) : Option Entry :=
  match d.resolve false path with
  | .error _ => none
  | .ok place =>
    match place.entry with
    | some (.link target) =>
      match d.entry? path with
      | some (.folder children) => some (.folder children)
      | _ => some (.link target)
    | e => e

/-- The visits of a walk from a path, all the way down unless a depth is given. -/
def Disk.walk (d : Disk) (sorted : Bool) (depth : Option Nat) (path : String) : List Visit :=
  match d.walkStart? path with
  | none => []
  | some e => (if sorted then e.sorted else e).walk (depth.getD e.height) []

/-- Whether names lead from a path through folders that have paths short enough for the system to
open them. -/
def opensAlong (path : String) : List String → Bool
  | [] => true
  | name :: names => path.utf8ByteSize ≤ maxPath && opensAlong (join path name) names

namespace Visit

/-- The path of a visited entry, as a walk from a path shows it. -/
def path (start : String) (v : Visit) : String := v.names.foldl join start

/-- Whether the path of a visited entry is short enough for the system to open what is there. -/
def opens (start : String) (v : Visit) : Bool := (v.path start).utf8ByteSize ≤ maxPath

/-- Why a walk cannot go on below a visited folder, if it cannot. -/
def barrier? (start : String) (v : Visit) : Option Problem :=
  match v.entry with
  | .folder _ => if v.opens start then none else some .tooLong
  | .closedFolder reason => some (if v.opens start then .closed reason else .tooLong)
  | _ => none

/-- The text of a visited file, which is read by its path. -/
def readText (start : String) (v : Visit) : Except Problem String :=
  if v.opens start then v.entry.read.bind textOf else .error .tooLong

end Visit

end Provision.Files
