import Provision.Proofs.Yaml.Cursors
import Provision.Proofs.Yaml.Nodes

/-!
# Tokens of trees

The tokens of the text of a tree, and that the grammar reads them as the tree's node
(`Parse.document_tokens`). The grammar only looks at the next token, so a tree is read whatever
comes after it; only a list that is not indented needs what follows it to be no item.
-/

namespace Provision.Yaml

mutual

/-- The tokens of a tree at a position. A list after a key is not indented, and so neither opened
nor closed. -/
def Tree.tokensIn (position : Position) : Tree → List Token
  | .text s => [.scalar (styleOf s) s]
  | .list items =>
    if items.isEmpty then [.flowSequenceStart, .flowSequenceEnd]
    else if position = .afterKey then itemTokens items
    else .blockSequenceStart :: itemTokens items ++ [.blockEnd]
  | .map entries =>
    if entries.isEmpty then [.flowMappingStart, .flowMappingEnd]
    else .blockMappingStart :: entryTokens entries ++ [.blockEnd]

/-- The tokens of the items of a list. -/
def itemTokens : List Tree → List Token
  | [] => []
  | t :: ts => .blockEntry :: t.tokensIn .afterIndicator ++ itemTokens ts

/-- The tokens of the entries of a map. -/
def entryTokens : List (String × Tree) → List Token
  | [] => []
  | (key, t) :: entries =>
    .key :: .scalar (styleOf key) key :: .value :: t.tokensIn (.ofKey key) ++ entryTokens entries

end

namespace Parse

variable {hs : List (String × String)} {ns : List (String × Nat)} {us : List Token}

/-- A scalar is read as its node. -/
theorem node_scalar (n : Nat) (block indentless : Bool) (style : Style) (s : String) :
    node (n + 1) block indentless ⟨.scalar style s :: us, hs, ns⟩ =
      .ok (.scalar default style s, ⟨us, hs, ns⟩) := rfl

/-- A sequence in a block is read item by item. -/
theorem node_blockSequence (n : Nat) (indentless : Bool) :
    node (n + 1) true indentless ⟨.blockSequenceStart :: us, hs, ns⟩ =
      (blockItems n [] >>= fun items => pure (.sequence default items)) ⟨us, hs, ns⟩ := rfl

/-- A mapping in a block is read entry by entry. -/
theorem node_blockMapping (n : Nat) (indentless : Bool) :
    node (n + 1) true indentless ⟨.blockMappingStart :: us, hs, ns⟩ =
      (blockEntries n [] >>= fun entries => pure (.mapping default entries)) ⟨us, hs, ns⟩ := rfl

/-- A sequence that is not indented is read item by item. -/
theorem node_indentless (n : Nat) (block : Bool) :
    node (n + 1) block true ⟨.blockEntry :: us, hs, ns⟩ =
      (indentlessItems n [] >>= fun items => pure (.sequence default items))
        ⟨.blockEntry :: us, hs, ns⟩ := rfl

/-- Empty brackets are read as a sequence without items. -/
theorem node_flowSequence (n : Nat) (block indentless : Bool) :
    node (n + 2) block indentless ⟨.flowSequenceStart :: .flowSequenceEnd :: us, hs, ns⟩ =
      .ok (.sequence default [], ⟨us, hs, ns⟩) := rfl

/-- Empty braces are read as a mapping without entries. -/
theorem node_flowMapping (n : Nat) (block indentless : Bool) :
    node (n + 2) block indentless ⟨.flowMappingStart :: .flowMappingEnd :: us, hs, ns⟩ =
      .ok (.mapping default [], ⟨us, hs, ns⟩) := rfl

/-- A token that begins a node that is not an indentless list. -/
inductive Begins : Token → Prop
  | scalar (style : Style) (s : String) : Begins (.scalar style s)
  | flowSequence : Begins .flowSequenceStart
  | flowMapping : Begins .flowMappingStart
  | blockSequence : Begins .blockSequenceStart
  | blockMapping : Begins .blockMappingStart

/-- An item is read behind its sign, and then the others. -/
theorem blockItems_entry {x : Token} (hx : Begins x) (n : Nat) (read : List Node) :
    blockItems (n + 1) read ⟨.blockEntry :: x :: us, hs, ns⟩ =
      (node n true false >>= fun item => blockItems n (item :: read)) ⟨x :: us, hs, ns⟩ := by
  cases hx <;> rfl

/-- An item that is not indented is read behind its sign, and then the others. -/
theorem indentlessItems_entry {x : Token} (hx : Begins x) (n : Nat) (read : List Node) :
    indentlessItems (n + 1) read ⟨.blockEntry :: x :: us, hs, ns⟩ =
      (node n true false >>= fun item => indentlessItems n (item :: read)) ⟨x :: us, hs, ns⟩ := by
  cases hx <;> rfl

/-- Items that are not indented end where no sign of an item comes. -/
theorem indentlessItems_end (h : us.head? ≠ some .blockEntry) (n : Nat) (read : List Node) :
    indentlessItems (n + 1) read ⟨us, hs, ns⟩ = .ok (read.reverse, ⟨us, hs, ns⟩) := by
  cases us with
  | nil => rfl
  | cons x us => cases x <;> first | rfl | exact absurd rfl h

/-- An entry of a map whose key is a scalar. -/
theorem blockEntries_entry {x : Token} (hx : Begins x ∨ x = .blockEntry) (n : Nat)
    (read : List (Node × Node)) (style : Style) (s : String) :
    blockEntries (n + 2) read ⟨.key :: .scalar style s :: .value :: x :: us, hs, ns⟩ =
      (node (n + 1) true true >>= fun value =>
        blockEntries (n + 1) ((.scalar default style s, value) :: read)) ⟨x :: us, hs, ns⟩ := by
  rcases hx with hx | rfl
  · cases hx <;> rfl
  · rfl

end Parse

/-- The tokens of a tree begin a node. -/
theorem Tree.tokensIn_head (t : Tree) :
    ∃ x xs, t.tokensIn .afterIndicator = x :: xs ∧ Parse.Begins x := by
  cases t with
  | text s => exact ⟨_, _, rfl, .scalar _ s⟩
  | list items =>
    cases items with
    | nil => exact ⟨_, _, rfl, .flowSequence⟩
    | cons t ts => exact ⟨_, _, rfl, .blockSequence⟩
  | map entries =>
    cases entries with
    | nil => exact ⟨_, _, rfl, .flowMapping⟩
    | cons e es => exact ⟨_, _, rfl, .blockMapping⟩

/-- Behind a key they may begin a list that is not indented as well. -/
theorem Tree.tokensIn_head_value (t : Tree) (position : Position) :
    ∃ x xs, t.tokensIn position = x :: xs ∧ (Parse.Begins x ∨ x = .blockEntry) := by
  cases position with
  | afterIndicator =>
    obtain ⟨x, xs, heq, hx⟩ := t.tokensIn_head
    exact ⟨x, xs, heq, .inl hx⟩
  | afterKey =>
    cases t with
    | text s => exact ⟨_, _, rfl, .inl (.scalar _ s)⟩
    | list items =>
      cases items with
      | nil => exact ⟨_, _, rfl, .inl .flowSequence⟩
      | cons t ts => exact ⟨_, _, rfl, .inr rfl⟩
    | map entries =>
      cases entries with
      | nil => exact ⟨_, _, rfl, .inl .flowMapping⟩
      | cons e es => exact ⟨_, _, rfl, .inl .blockMapping⟩

namespace Parse

/-- The tokens of a tree are read as its node, whatever comes after them. -/
def Parses (t : Tree) : Prop :=
  ∀ position bound indentless us hs ns,
    (position = .afterKey → indentless = true ∧ us.head? ≠ some .blockEntry) →
    2 * (t.tokensIn position).length + 1 < bound →
      node bound true indentless ⟨t.tokensIn position ++ us, hs, ns⟩ = .ok (t.node, ⟨us, hs, ns⟩)

/-- The content of an item or of a document is read. -/
theorem Parses.content {t : Tree} (h : Parses t) (us : List Token) (hs : List (String × String))
    (ns : List (String × Nat)) {bound : Nat}
    (hb : 2 * (t.tokensIn .afterIndicator).length + 1 < bound) :
    node bound true false ⟨t.tokensIn .afterIndicator ++ us, hs, ns⟩ =
      .ok (t.node, ⟨us, hs, ns⟩) :=
  h .afterIndicator bound false us hs ns (fun h => Position.noConfusion h) hb

section

variable {us : List Token} {hs : List (String × String)} {ns : List (String × Nat)}

/-- The items of a list are read by any loop that reads a node after each hyphen, and that ends
where they end. -/
theorem items_tokens {items : Nat → List Node → Parse (List Node)} {us' : List Token}
    (hentry : ∀ {x : Token} (us : List Token), Begins x → ∀ n read,
      items (n + 1) read ⟨.blockEntry :: x :: us, hs, ns⟩ =
        (node n true false >>= fun item => items n (item :: read)) ⟨x :: us, hs, ns⟩)
    (hend : ∀ n read, items (n + 1) read ⟨us, hs, ns⟩ = .ok (read.reverse, ⟨us', hs, ns⟩))
    {ts : List Tree} (h : ∀ t ∈ ts, Parses t) :
    ∀ bound read, 2 * (itemTokens ts).length < bound →
      items bound read ⟨itemTokens ts ++ us, hs, ns⟩ =
        .ok (read.reverse ++ itemNodes ts, ⟨us', hs, ns⟩) := by
  induction ts with
  | nil =>
    intro bound read hb
    obtain ⟨n, rfl⟩ := Nat.exists_eq_add_of_le' (Nat.one_le_of_lt hb)
    rw [itemNodes, List.append_nil]
    exact hend n read
  | cons t ts ih =>
    intro bound read hb
    obtain ⟨n, rfl⟩ := Nat.exists_eq_add_of_le' (Nat.one_le_of_lt hb)
    simp only [itemTokens, List.cons_append, List.length_cons, List.length_append] at hb ⊢
    obtain ⟨x, xs, heq, hx⟩ := t.tokensIn_head
    have ht := (h t (.head _)).content (itemTokens ts ++ us) hs ns
      (show 2 * (t.tokensIn .afterIndicator).length + 1 < n by omega)
    rw [List.append_assoc]
    rw [heq, List.cons_append] at ht ⊢
    rw [hentry _ hx, bind_ok ht, ih (fun u hu => h u (.tail _ hu)) n _ (by omega),
      itemNodes, List.reverse_cons, List.append_assoc]
    rfl

/-- After a value no sign of an item comes. -/
theorem entryTokens_head (es : List (String × Tree)) (us : List Token) :
    (entryTokens es ++ .blockEnd :: us).head? ≠ some .blockEntry := by
  cases es <;> nofun

/-- The tokens of entries are read as their nodes. -/
theorem blockEntries_tokens {es : List (String × Tree)} (h : ∀ e ∈ es, Parses e.2) :
    ∀ bound read, 2 * (entryTokens es).length < bound →
      blockEntries bound read ⟨entryTokens es ++ .blockEnd :: us, hs, ns⟩ =
        .ok (read.reverse ++ entryNodes es, ⟨us, hs, ns⟩) := by
  induction es with
  | nil =>
    intro bound read hb
    obtain ⟨n, rfl⟩ := Nat.exists_eq_add_of_le' (Nat.one_le_of_lt hb)
    rw [entryNodes, List.append_nil]
    rfl
  | cons e es ih =>
    obtain ⟨key, t⟩ := e
    intro bound read hb
    simp only [entryTokens, List.cons_append, List.length_cons, List.length_append] at hb ⊢
    obtain ⟨n, rfl⟩ := Nat.exists_eq_add_of_le' (show 2 ≤ bound by omega)
    obtain ⟨x, xs, heq, hx⟩ := t.tokensIn_head_value (.ofKey key)
    have ht := h (key, t) (.head _) (.ofKey key) (n + 1) true (entryTokens es ++ .blockEnd :: us) hs
      ns (fun _ => ⟨rfl, entryTokens_head es us⟩) (by dsimp only; omega)
    rw [List.append_assoc]
    rw [heq, List.cons_append] at ht ⊢
    rw [blockEntries_entry hx, bind_ok ht, ih (fun u hu => h u (.tail _ hu)) (n + 1) _ (by omega),
      entryNodes, List.reverse_cons, List.append_assoc]
    rfl

end

/-- A list is read if its items are. -/
theorem parses_list {ts : List Tree} (h : ∀ t ∈ ts, Parses t) : Parses (.list ts) := by
  intro position bound indentless us hs ns hposition hb
  cases ts with
  | nil =>
    obtain ⟨n, rfl⟩ := Nat.exists_eq_add_of_le' (show 2 ≤ bound from Nat.le_of_add_left_le hb)
    exact node_flowSequence n true indentless
  | cons t ts =>
    obtain ⟨n, rfl⟩ := Nat.exists_eq_add_of_le' (Nat.one_le_of_lt hb)
    cases position with
    | afterIndicator =>
      have htokens : (Tree.list (t :: ts)).tokensIn .afterIndicator =
          .blockSequenceStart :: (itemTokens (t :: ts) ++ [.blockEnd]) := rfl
      rw [htokens, List.length_cons, List.length_append, List.length_singleton] at hb
      rw [htokens, List.cons_append, node_blockSequence, List.append_assoc, List.singleton_append,
        bind_ok (items_tokens (fun _ => blockItems_entry) (fun _ _ => rfl) h n [] (by omega))]
      rfl
    | afterKey =>
      obtain ⟨rfl, hus⟩ := hposition rfl
      have htokens : (Tree.list (t :: ts)).tokensIn .afterKey = itemTokens (t :: ts) := rfl
      rw [htokens] at hb ⊢
      have hnode : node (n + 1) true true ⟨itemTokens (t :: ts) ++ us, hs, ns⟩ =
          (indentlessItems n [] >>= fun items => pure (.sequence default items))
            ⟨itemTokens (t :: ts) ++ us, hs, ns⟩ := node_indentless n true
      rw [hnode, bind_ok
        (items_tokens (fun _ => indentlessItems_entry) (indentlessItems_end hus) h n [] (by omega))]
      rfl

/-- A map is read if the values of its entries are. -/
theorem parses_map {es : List (String × Tree)} (h : ∀ e ∈ es, Parses e.2) : Parses (.map es) := by
  intro position bound indentless us hs ns _ hb
  cases es with
  | nil =>
    obtain ⟨n, rfl⟩ := Nat.exists_eq_add_of_le' (show 2 ≤ bound from Nat.le_of_add_left_le hb)
    exact node_flowMapping n true indentless
  | cons e es =>
    obtain ⟨n, rfl⟩ := Nat.exists_eq_add_of_le' (Nat.one_le_of_lt hb)
    have htokens : (Tree.map (e :: es)).tokensIn position =
        .blockMappingStart :: (entryTokens (e :: es) ++ [.blockEnd]) := rfl
    rw [htokens, List.length_cons, List.length_append, List.length_singleton] at hb
    rw [htokens, List.cons_append, node_blockMapping, List.append_assoc, List.singleton_append,
      bind_ok (blockEntries_tokens h n [] (by omega))]
    rfl

mutual

/-- The tokens of a tree are read as its node. -/
theorem parses_tokens : ∀ t : Tree, Parses t
  | .text s => fun position bound indentless us hs ns _ hb => by
    obtain ⟨n, rfl⟩ := Nat.exists_eq_add_of_le' (Nat.one_le_of_lt hb)
    exact node_scalar n true indentless (styleOf s) s
  | .list ts => parses_list (parses_items ts)
  | .map es => parses_map (parses_entries es)

/-- The tokens of all items are read. -/
theorem parses_items : ∀ ts : List Tree, ∀ t ∈ ts, Parses t
  | t :: _, _, .head _ => parses_tokens t
  | _ :: ts, u, .tail _ h => parses_items ts u h

/-- The tokens of all entries are read. -/
theorem parses_entries : ∀ es : List (String × Tree), ∀ e ∈ es, Parses e.2
  | (_, t) :: _, _, .head _ => parses_tokens t
  | _ :: es, e, .tail _ h => parses_entries es e h

end

/-- A document of one node is read up to the end of the text. -/
theorem document_node {x : Token} (hx : Begins x) {xs : List Token} {n : Node} {bound : Nat}
    (hn : node bound true false ⟨x :: xs, standardHandles, []⟩ =
      .ok (n, ⟨[.streamEnd], standardHandles, []⟩)) :
    document bound ⟨x :: xs, [], []⟩ = .ok (some n, ⟨[.streamEnd], standardHandles, []⟩) := by
  have hstart : document bound ⟨x :: xs, [], []⟩ = (node bound true false >>= fun root => do
      modify fun s => { s with tokens := s.tokens.dropWhile (· == .documentEnd) }
      if (← peek) != some .streamEnd then throw "the text goes on after its document"
      return some root) ⟨x :: xs, standardHandles, []⟩ := by
    unfold document
    simp only [map_eq_pure_bind, bind_assoc, pure_bind]
    cases hx <;> rfl
  rw [hstart, bind_ok hn]
  rfl

/-- The tokens of a text are read as the document with the tree's node. -/
theorem document_tokens (t : Tree) {bound : Nat}
    (hb : 2 * (t.tokensIn .afterIndicator).length + 1 < bound) :
    document bound ⟨t.tokensIn .afterIndicator ++ [.streamEnd], [], []⟩ =
      .ok (some t.node, ⟨[.streamEnd], standardHandles, []⟩) := by
  obtain ⟨x, xs, heq, hx⟩ := t.tokensIn_head
  have hnode := (parses_tokens t).content [.streamEnd] standardHandles [] hb
  rw [heq, List.cons_append] at hnode ⊢
  exact document_node hx hnode

end Parse

end Provision.Yaml
