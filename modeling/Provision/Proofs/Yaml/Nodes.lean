import Provision.Yaml.Writer

/-!
# Nodes of trees

The node that a tree is read back as. Its scalars have the style in which they are written, and
nothing carries an anchor or a tag, so that no alias is followed when a record is read from it.
-/

namespace Provision.Yaml

/-- The node of a text. -/
def textNode (s : String) : Node := .scalar default (styleOf s) s

mutual

/-- The node of a tree. -/
def Tree.node : Tree → Node
  | .text s => textNode s
  | .list items => .sequence default (itemNodes items)
  | .map entries => .mapping default (entryNodes entries)

/-- The nodes of the items of a list. -/
def itemNodes : List Tree → List Node
  | [] => []
  | t :: ts => t.node :: itemNodes ts

/-- The nodes of the entries of a map. -/
def entryNodes : List (String × Tree) → List (Node × Node)
  | [] => []
  | (key, t) :: entries => (textNode key, t.node) :: entryNodes entries

end

/-- The nodes of items are those of each. -/
theorem itemNodes_eq_map (ts : List Tree) : itemNodes ts = ts.map Tree.node := by
  induction ts with
  | nil => rfl
  | cons t ts ih => rw [itemNodes, ih, List.map_cons]

/-- The nodes of entries are those of each, with their keys. -/
theorem entryNodes_eq_map (es : List (String × Tree)) :
    entryNodes es = es.map fun e => (textNode e.1, e.2.node) := by
  induction es with
  | nil => rfl
  | cons e es ih => rw [entryNodes, ih, List.map_cons]

/-! ## What is read from them -/

variable (d : Document)

/-- The items of a list are read from its node. -/
theorem format_items (ts : List Tree) :
    (format d).items (Tree.list ts).node = pure (ts.map Tree.node) := by
  rw [← itemNodes_eq_map]
  rfl

/-- The entries of a map are read from its node. -/
theorem format_entries (es : List (String × Tree)) :
    (format d).entries (Tree.map es).node = pure (es.map fun e => (textNode e.1, e.2.node)) := by
  rw [← entryNodes_eq_map]
  rfl

/-- The fields of a record are looked for among the entries of its node. -/
theorem format_fields (fs : List Field) (es : List (String × Tree)) :
    (format d).fields fs (Tree.map es).node =
      fieldValues d fs [] (es.map fun e => (textNode e.1, e.2.node)) := by
  rw [← entryNodes_eq_map]
  rfl

end Provision.Yaml
