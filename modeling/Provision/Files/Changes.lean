import Provision.Files.Tree

/-!
# Changes of a tree

What has to be done to a tree so that it becomes another one: folders to make, files to write, and
entries to remove. The changes come in an order in which they can be carried out. Links, and what is
closed, are left as they are.
-/

namespace Provision.Files

/-- A change of a tree, at the end of a list of names. -/
inductive Change where
  | makeFolder (names : List String)
  | write (names : List String) (content : List UInt8)
  | remove (names : List String)
  deriving Repr

/-- The children of a folder; anything else has none. -/
def Entry.children : Entry → List (String × Entry)
  | folder children => children
  | _ => []

mutual

/-- The changes that turn what was there into an entry; `here` leads to it. -/
def Entry.changesFrom (here : List String) (old : Option Entry) : Entry → List Change
  | .file content => if old == some (.file content) then [] else [.write here content]
  | .link _ | .closedFile _ | .closedFolder _ => []
  | .folder children =>
    let before := (old.map Entry.children).getD []
    let gone := before.filter fun c => !children.any fun d => d.1 = c.1
    (if old.any Entry.isFolder then [] else [.makeFolder here]) ++
      gone.map (fun c => .remove (here ++ [c.1])) ++ childrenChanges here before children

/-- The changes below a folder with the given children before. -/
def childrenChanges (here : List String) (before : List (String × Entry)) :
    List (String × Entry) → List Change
  | [] => []
  | (name, e) :: rest =>
    e.changesFrom (here ++ [name]) ((before.find? (fun c => c.1 = name)).map (·.2)) ++
      childrenChanges here before rest

end

/-- The changes from one tree to another. -/
def Entry.changes (old new : Entry) : List Change := new.changesFrom [] (some old)

end Provision.Files
