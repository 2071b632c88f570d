import Provision.Proofs.Yaml.Printable

/-!
# Written trees are read back

The text of a tree is read as the tree's node (`Document.ofText_written`), whatever texts stand in
the tree. A tree is read where it stands behind a sign or a key (`Scan.Reads`), by induction on the
tree: the items of a list and the entries of a map are lines at one column, which are read one after
the other (`Scan.lineRead_lines`). What is open beside them is kept, and what they open is closed
before the next line that is less deep.
-/

namespace Provision.Yaml

/-! ## The text of a tree -/

/-- A node is separated from the sign or key before it. -/
theorem atGap_writtenIn (t : Tree) (column : Nat) (position : Position) (cs : List Char) :
    atGap (t.writtenIn column position ++ cs) = true := by
  cases t with
  | text s => rfl
  | list items => cases items <;> cases position <;> rfl
  | map entries => cases entries <;> cases position <;> rfl

/-- The text of an item behind its indentation. -/
def writtenItem (column : Nat) (t : Tree) : List Char := '-' :: t.writtenIn column .afterIndicator

/-- The text of an entry behind its indentation. -/
def writtenEntry (column : Nat) (e : String × Tree) : List Char :=
  writtenKey column e.1 ++ e.2.writtenIn column (.ofKey e.1)

/-- The tokens of an entry. -/
def tokensOfEntry (e : String × Tree) : List Token :=
  .key :: .scalar (styleOf e.1) e.1 :: .value :: e.2.tokensIn (.ofKey e.1)

/-- The items of a list are written each by itself. -/
theorem writtenItems_eq (column : Nat) (ts : List Tree) :
    writtenItems column ts = ts.flatMap fun t => spaces column ++ writtenItem column t := by
  induction ts with
  | nil => rfl
  | cons t ts ih => rw [writtenItems, ih, List.flatMap_cons, writtenItem]

/-- The tokens of items are those of each. -/
theorem itemTokens_eq (ts : List Tree) :
    itemTokens ts = ts.flatMap fun t => .blockEntry :: t.tokensIn .afterIndicator := by
  induction ts with
  | nil => rfl
  | cons t ts ih => rw [itemTokens, ih, List.flatMap_cons]

/-- The entries of a map are written each by itself. -/
theorem writtenEntries_eq (column : Nat) (es : List (String × Tree)) :
    writtenEntries column es = es.flatMap fun e => spaces column ++ writtenEntry column e := by
  induction es with
  | nil => rfl
  | cons e es ih =>
    rw [writtenEntries, ih, List.flatMap_cons, writtenEntry, List.append_assoc (spaces column)]

/-- The tokens of entries are those of each. -/
theorem entryTokens_eq (es : List (String × Tree)) :
    entryTokens es = es.flatMap tokensOfEntry := by
  induction es with
  | nil => rfl
  | cons e es ih => rw [entryTokens, ih, List.flatMap_cons, tokensOfEntry]

/-- Behind the spaces of an indentation is what follows them. -/
theorem drop_spaces (column : Nat) (cs : List Char) : (spaces column ++ cs).drop column = cs := by
  rw [List.drop_append_of_le_length (Nat.le_of_eq (length_spaces column).symm),
    List.drop_of_length_le (Nat.le_of_eq (length_spaces column)), List.nil_append]

/-- Nothing was read, and nothing is open. -/
def Levels.outermost : Levels := ⟨[], -1, []⟩

/-- The state in which reading begins. -/
def Scanner.beginning (cs : List Char) : Scanner := .block cs ⟨0, 0, 0⟩ .outermost true none

namespace Scan

variable {p : Place} {l : Levels} {cs rest : List Char} {n column : Nat}

/-! ## Lines of a block -/

/-- A text at the indentation of a block is read as tokens of the block. -/
structure LineRead (column : Nat) (start : Token) (written : List Char) (tokens : List Token) :
    Prop where
  opens : ∀ rest, Opens (written ++ rest)
  read : ∀ {p : Place} {l : Levels} {rest : List Char} {n : Nat} {cs : List Char},
    p.column = column → l.indent ≤ column → Below column rest n cs →
      Arrives (Steps (.block (written ++ rest) p l true none)) n cs
        ((l.opened column start).push tokens)

/-- Lines are read one after the other. -/
theorem lineRead_lines {α : Type} {start : Token} {written : α → List Char}
    {tokens : α → List Token} {es : List α} (hes : es ≠ [])
    (h : ∀ e ∈ es, LineRead column start (written e) (tokens e)) :
    ∃ lines, (es.flatMap fun e => spaces column ++ written e) = spaces column ++ lines ∧
      LineRead column start lines (es.flatMap tokens) := by
  induction es with
  | nil => exact absurd rfl hes
  | cons e es ih =>
    have he := h e (.head _)
    refine ⟨written e ++ es.flatMap fun e => spaces column ++ written e, by simp,
      fun rest => by rw [List.append_assoc]; exact he.opens _, ?_⟩
    intro p l rest n cs hp hl hrest
    rw [List.append_assoc, List.flatMap_cons]
    cases es with
    | nil => simpa using he.read hp hl hrest
    | cons e' es =>
      obtain ⟨lines, heq, hlines⟩ := ih (List.cons_ne_nil e' es) fun x hx => h x (.tail _ hx)
      -- the next line is at the same column, so the collection that the first one opens stays open
      have hbelow : Below column (spaces column ++ lines ++ rest) column (lines ++ rest) :=
        ⟨List.append_assoc .., hlines.opens rest, .inr (Int.le_refl _)⟩
      have hindent : ((l.opened column start).push (tokens e)).indent = column :=
        l.indent_opened hl _
      obtain ⟨p₁, hp₁, hfirst⟩ := he.read hp hl hbelow
      rw [hp₁, Levels.close_of_le _ (Int.le_of_eq hindent)] at hfirst
      obtain ⟨p₂, hp₂, hmore⟩ := hlines.read hp₁ (Int.le_of_eq hindent) hrest
      rw [Levels.opened_of_indent _ hindent, Levels.push_push] at hmore
      rw [heq]
      exact ⟨p₂, hp₂, hfirst.trans hmore⟩

/-! ## Trees -/

/-- A tree is read where it stands behind a sign or a key. -/
def Reads (t : Tree) : Prop :=
  ∀ {position : Position} {column : Nat} {p : Place} {l : Levels} {rest : List Char} {n : Nat}
    {cs : List Char}, Behind column p position → l.indent = column → Below column rest n cs →
      Arrives (Leads (.after position (t.writtenIn column position ++ rest) p l)) n cs
        (l.push (t.tokensIn position))

/-- An item is read at its indentation if its tree is read. -/
theorem lineRead_item {t : Tree} (h : Reads t) (column : Nat) :
    LineRead column .blockSequenceStart (writtenItem column t)
      (.blockEntry :: t.tokensIn .afterIndicator) where
  opens rest := opens_cons (by decide) _
  read {p l rest n cs} hp hl hrest := by
    subst hp
    have hbehind : Behind p.column (p.plus 1) .afterIndicator := rfl
    obtain ⟨p', hp', hitem⟩ := h hbehind
      (l := (l.opened p.column .blockSequenceStart).push [.blockEntry]) (l.indent_opened hl _) hrest
    have hsteps := hitem.token (token_mark .item (atGap_writtenIn t p.column .afterIndicator rest))
      (Nat.lt_succ_self _)
    rw [Levels.push_push] at hsteps
    exact ⟨p', hp', hsteps⟩

/-- An entry begins with a token. -/
theorem opens_writtenEntry (column : Nat) (e : String × Tree) (rest : List Char) :
    Opens (writtenEntry column e ++ rest) := by
  rw [writtenEntry, writtenKey, List.append_assoc]
  split
  · rw [List.append_assoc]
    exact opens_scalar _ _ _
  · exact opens_cons (by decide) _

/-- An entry is read at its indentation if its tree is read. -/
theorem lineRead_entry {e : String × Tree} (h : Reads e.2) (column : Nat) :
    LineRead column .blockMappingStart (writtenEntry column e) (tokensOfEntry e) where
  opens := opens_writtenEntry column e
  read {p l rest n cs} hp hl hrest := by
    obtain ⟨p₁, hbehind, hkey⟩ := steps_key (l := l) e.1 hp hl
      (atGap_writtenIn e.2 column (.ofKey e.1) rest)
    obtain ⟨p₂, hp₂, hvalue⟩ := h hbehind
      (l := (l.opened column .blockMappingStart).push [.key, .scalar (styleOf e.1) e.1, .value])
      (l.indent_opened hl _) hrest
    have hsteps := hkey _ hvalue
    rw [Levels.push_push] at hsteps
    rw [writtenEntry, List.append_assoc]
    exact ⟨p₂, hp₂, hsteps⟩

/-- What stands behind a sign and a space is deeper than the collection of the sign. -/
theorem Behind.deeper {position : Position} (h : Behind column p position)
    (hl : l.indent = column) : l.indent < (p.plus 1).column := by
  rw [hl, Place.column_plus]
  cases position with
  | afterKey => exact Int.ofNat_lt.2 (Nat.lt_succ_of_lt h)
  | afterIndicator => exact Int.ofNat_lt.2 (by rw [h]; omega)

/-- Behind a sign, a space is skipped. -/
theorem Leads.space {position : Position} (hbehind : Behind column p position)
    (hl : l.indent = column) (h : Opens cs) {y : Scanner}
    (hy : Steps (.block cs (p.plus 1) l (position == .afterIndicator) none) y) :
    Leads (Scanner.after position (' ' :: cs) p l) y := by
  refine Leads.spaces h 1 ?_
  rwa [l.close_of_le (Int.le_of_lt (hbehind.deeper hl))]

/-- A text is read wherever it stands. -/
theorem reads_text (s : String) : Reads (.text s) := by
  intro position column p l rest n cs hbehind hl hrest
  have hcolumn : blockColumn l.indent = column + 2 := by simp [blockColumn, hl]
  obtain ⟨p', hp', htext⟩ := steps_text (position == .afterIndicator) s
    (hl ▸ hrest) (by omega) (hbehind.deeper hl)
  rw [hcolumn] at htext
  exact ⟨p', hp', .space hbehind hl (opens_closedLine (opens_scalar _ s) _) htext⟩

/-- A collection without anything in it is read. -/
theorem reads_brackets {t : Tree} {c c' : Char} {start close : Token}
    (h : Brackets c c' start close)
    (hwritten : ∀ column position, t.writtenIn column position = [' ', c, c', '\n'])
    (htokens : ∀ position, t.tokensIn position = [start, close]) : Reads t := by
  intro position column p l rest n cs hbehind hl hrest
  obtain ⟨p', hp', hsteps⟩ := steps_brackets (position == .afterIndicator) h
    (hl ▸ hrest) (hbehind.deeper hl)
  rw [hwritten, htokens]
  exact ⟨p', hp', .space hbehind hl (by cases h <;> exact opens_cons (by decide) _) hsteps⟩

/-- What is below a block is not as deep as the blocks in it. -/
theorem Below.deeper (h : Below column rest n cs) : (n : Int) < (column + 2 : Nat) := by
  obtain ⟨-, rfl⟩ | hn := h.shallow <;> omega

/-- What is below a block is below the blocks in it. -/
theorem Below.weaken (h : Below column rest n cs) : Below (column + 2 : Nat) rest n cs :=
  ⟨h.rest_eq, h.opens, .inr (Int.le_of_lt h.deeper)⟩

/-- The first line of a collection is read on a line of its own. -/
theorem Leads.line {lines : List Char} (hl : l.indent ≤ column)
    (hopens : ∀ rest, Opens (lines ++ rest)) {y : Scanner}
    (hy : Steps (.block (lines ++ rest) (p.newline.plus column) l true none) y) :
    Leads (Scanner.after .afterKey ('\n' :: (Yaml.spaces column ++ lines) ++ rest) p l) y := by
  have hcolumn : (p.newline.plus column).column = column := Nat.zero_add _
  rw [List.cons_append, List.append_assoc]
  refine Leads.newline (hopens rest) column (Stale.none _) ?_
  rwa [l.close_of_le (by rwa [hcolumn])]

/-- The lines of a collection that is deeper than the one around it are read where they stand. -/
theorem LineRead.placed {position : Position} {start : Token} {lines : List Char}
    {tokens : List Token} (h : LineRead (column + 2) start lines tokens)
    (hbehind : Behind column p position) (hl : l.indent = column) (hrest : Below column rest n cs) :
    Arrives (Leads (.after position
      (Yaml.placed position (column + 2) (spaces (column + 2) ++ lines) ++ rest) p l)) n cs
        (l.push (start :: tokens ++ [.blockEnd])) := by
  have hdeep : l.indent < (column + 2 : Nat) := by rw [hl]; omega
  have hread (q : Place) (hq : q.column = column + 2) :
      Arrives (Steps (.block (lines ++ rest) q l true none)) n cs
        (l.push (start :: tokens ++ [.blockEnd])) := by
    obtain ⟨p', hp', hsteps⟩ := h.read hq (Int.le_of_lt hdeep) hrest.weaken
    rw [hp', l.close_opened hdeep hrest.deeper, ← hp'] at hsteps
    exact ⟨p', hp', hsteps⟩
  cases position with
  | afterKey =>
    obtain ⟨p', hp', hsteps⟩ := hread (p.newline.plus (column + 2)) (Nat.zero_add _)
    exact ⟨p', hp', .line (Int.le_of_lt hdeep) h.opens hsteps⟩
  | afterIndicator =>
    obtain ⟨p', hp', hsteps⟩ := hread (p.plus 1) (by rw [Place.column_plus, hbehind])
    rw [Yaml.placed, drop_spaces]
    exact ⟨p', hp', .space hbehind hl (h.opens rest) hsteps⟩

/-- The items of a list are read as its tokens. -/
theorem exists_items {ts : List Tree} (hts : ts ≠ []) (h : ∀ t ∈ ts, Reads t) (column : Nat) :
    ∃ lines, writtenItems column ts = spaces column ++ lines ∧
      LineRead column .blockSequenceStart lines (itemTokens ts) := by
  rw [writtenItems_eq, itemTokens_eq]
  exact lineRead_lines hts fun t ht => lineRead_item (h t ht) column

/-- The entries of a map are read as its tokens. -/
theorem exists_entries {es : List (String × Tree)} (hes : es ≠ []) (h : ∀ e ∈ es, Reads e.2)
    (column : Nat) : ∃ lines, writtenEntries column es = spaces column ++ lines ∧
      LineRead column .blockMappingStart lines (entryTokens es) := by
  rw [writtenEntries_eq, entryTokens_eq]
  exact lineRead_lines hes fun e he => lineRead_entry (h e he) column

/-- A list is read if its items are. -/
theorem reads_list {ts : List Tree} (h : ∀ t ∈ ts, Reads t) : Reads (.list ts) := by
  intro position column p l rest n cs hbehind hl hrest
  cases ts with
  | nil => exact reads_brackets .sequence (fun _ _ => rfl) (fun _ => rfl) hbehind hl hrest
  | cons t ts =>
    cases position with
    | afterKey =>
      -- a list after a key stands at the column of the key, where a collection is open already
      obtain ⟨lines, heq, hlines⟩ := exists_items (List.cons_ne_nil t ts) h column
      have hwritten : (Tree.list (t :: ts)).writtenIn column .afterKey =
          '\n' :: writtenItems column (t :: ts) := rfl
      obtain ⟨p', hp', hsteps⟩ := hlines.read (p := p.newline.plus column) (Nat.zero_add _)
        (Int.le_of_eq hl) hrest
      rw [l.opened_of_indent hl] at hsteps
      rw [hwritten, heq]
      exact ⟨p', hp', .line (Int.le_of_eq hl) hlines.opens hsteps⟩
    | afterIndicator =>
      obtain ⟨lines, heq, hlines⟩ := exists_items (List.cons_ne_nil t ts) h (column + 2)
      have hwritten : (Tree.list (t :: ts)).writtenIn column .afterIndicator =
          placed .afterIndicator (column + 2) (writtenItems (column + 2) (t :: ts)) := rfl
      rw [hwritten, heq]
      exact hlines.placed hbehind hl hrest

/-- A map is read if the trees of its entries are. -/
theorem reads_map {es : List (String × Tree)} (h : ∀ e ∈ es, Reads e.2) : Reads (.map es) := by
  intro position column p l rest n cs hbehind hl hrest
  cases es with
  | nil => exact reads_brackets .mapping (fun _ _ => rfl) (fun _ => rfl) hbehind hl hrest
  | cons e es =>
    obtain ⟨lines, heq, hlines⟩ := exists_entries (List.cons_ne_nil e es) h (column + 2)
    have hwritten : (Tree.map (e :: es)).writtenIn column position =
        placed position (column + 2) (writtenEntries (column + 2) (e :: es)) := rfl
    rw [hwritten, heq]
    exact hlines.placed hbehind hl hrest

mutual

/-- The text of a tree is read as its tokens. -/
theorem reads_tree : ∀ t : Tree, Reads t
  | .text s => reads_text s
  | .list ts => reads_list (reads_items ts)
  | .map es => reads_map (reads_entries es)

/-- All items of a list are read. -/
theorem reads_items : ∀ ts : List Tree, ∀ t ∈ ts, Reads t
  | t :: _, _, .head _ => reads_tree t
  | _ :: ts, u, .tail _ h => reads_items ts u h

/-- All entries of a map are read. -/
theorem reads_entries : ∀ es : List (String × Tree), ∀ e ∈ es, Reads e.2
  | (_, t) :: _, _, .head _ => reads_tree t
  | _ :: es, e, .tail _ h => reads_entries es e h

end

/-! ## Texts of trees -/

/-- The end of the text is below everything. -/
theorem Below.nothing (indent : Int) : Below indent [] 0 [] := ⟨rfl, nofun, .inl ⟨rfl, rfl⟩⟩

/-- Reading begins at the first token. -/
theorem Leads.beginning (h : Opens cs) {y : Scanner} (hy : Steps (.beginning cs) y) :
    Leads (.beginning cs) y :=
  Leads.here h (Stale.none _) hy

/-- The lines of a collection are read from the beginning of the text. -/
theorem LineRead.beginning {start : Token} {lines : List Char} {tokens : List Token}
    (h : LineRead 0 start lines tokens) : ∃ p' l', Leads (.beginning lines)
      (.block [] p' l' true none) ∧
        l'.close (-1) = Levels.outermost.push (start :: tokens ++ [.blockEnd]) := by
  obtain ⟨p', hp', hsteps⟩ := h.read (p := ⟨0, 0, 0⟩) (l := .outermost) rfl (by decide) (.nothing _)
  have hindent : ((Levels.outermost.opened 0 start).push tokens).indent = (0 : Nat) := rfl
  rw [hp', Levels.close_of_le _ (Int.le_of_eq hindent)] at hsteps
  have hopens := h.opens []
  rw [List.append_nil] at hsteps hopens
  refine ⟨p', _, .beginning hopens hsteps, ?_⟩
  rw [Levels.close_opened _ (by decide) (by decide)]
  rfl

/-- What is no collection of lines is read from the beginning of the text. -/
theorem leads_beginning {ts : List Token} (h : Opens cs)
    (hsteps : Arrives (Steps (.beginning cs)) 0 [] (Levels.outermost.push ts)) :
    ∃ p' l', Leads (.beginning cs) (.block [] p' l' true none) ∧
      l'.close (-1) = Levels.outermost.push ts := by
  obtain ⟨p', hp', hsteps⟩ := hsteps
  have hindent : (Levels.outermost.push ts).indent = -1 := rfl
  rw [hp', Levels.close_of_le _ (by rw [hindent]; decide)] at hsteps
  exact ⟨p', _, .beginning h hsteps, Levels.close_of_le _ (Int.le_of_eq hindent)⟩

/-- The tokens of the text of a tree are read up to the end of the text. -/
theorem leads_written (t : Tree) : ∃ p' l', Leads (.beginning t.written.toList)
    (.block [] p' l' true none) ∧
      l'.close (-1) = Levels.outermost.push (t.tokensIn .afterIndicator) := by
  cases t with
  | text s =>
    rw [Tree.written, String.toList_ofList]
    have hopens := opens_closedLine (opens_scalar 2 s) []
    have hsteps := steps_text (p := ⟨0, 0, 0⟩) (l := .outermost) true s (.nothing _) (by decide)
      (by decide)
    rw [List.append_nil] at hopens hsteps
    exact leads_beginning hopens hsteps
  | list ts =>
    cases ts with
    | nil =>
      exact leads_beginning (opens_cons (by decide) _)
        (steps_brackets true .sequence (.nothing _) (by decide))
    | cons t ts =>
      obtain ⟨lines, heq, hlines⟩ :=
        exists_items (List.cons_ne_nil t ts) (fun t _ => reads_tree t) 0
      have hwritten : (Tree.list (t :: ts)).written =
          String.ofList (writtenItems 0 (t :: ts)) := rfl
      rw [hwritten, heq, String.toList_ofList]
      exact hlines.beginning
  | map es =>
    cases es with
    | nil =>
      exact leads_beginning (opens_cons (by decide) _)
        (steps_brackets true .mapping (.nothing _) (by decide))
    | cons e es =>
      obtain ⟨lines, heq, hlines⟩ :=
        exists_entries (List.cons_ne_nil e es) (fun e _ => reads_tree e.2) 0
      have hwritten : (Tree.map (e :: es)).written =
          String.ofList (writtenEntries 0 (e :: es)) := rfl
      rw [hwritten, heq, String.toList_ofList]
      exact hlines.beginning

/-- At the end of the text all collections are closed. -/
theorem token_end (p : Place) (l : Levels) : token (.block [] p l true none) =
    .ok (false, .block [] p ((l.close (-1)).push [.streamEnd]) false none) := by
  have hend : token (.block [] p l true none) =
      (dedentTo (-1) >>= fun _ => do
        dropKey
        allowKey false
        emit .streamEnd
        return false) (.block [] p l true none) := rfl
  rw [hend, bind_ok (dedentTo_block _)]
  rfl

end Scan

/-- The tokens of the text of a tree. -/
theorem Token.ofText_written (t : Tree) :
    Token.ofText t.written = .ok (t.tokensIn .afterIndicator ++ [.streamEnd]) := by
  obtain ⟨p', l', ⟨x, hsettle, hlength, hsteps⟩, htokens⟩ := Scan.leads_written t
  have hall := Scan.all_of_steps hsteps (Scan.token_end p' l') hsettle
    (Nat.lt_succ_of_le (Nat.le_succ_of_le hlength))
  have hreadable : t.written.toList.all isReadable = true :=
    List.all_eq_true.2 fun c hc => isReadable_of_isPrintable (printable_written t c hc)
  rw [htokens] at hall
  have hread : Token.ofText t.written =
      ((Scan.all (t.written.toList.length + 2)) (.beginning t.written.toList) >>= fun r =>
        .ok r.2.tokens.reverse) := by
    simp only [Token.ofText, hreadable]
    rfl
  rw [hread]
  refine (congrArg (· >>= fun r => Except.ok r.2.tokens.reverse) hall).trans ?_
  simp [Scanner.block, Levels.push, Levels.outermost, bind, Except.bind]

/-- The text of a tree is read as the tree's node. -/
theorem Document.ofText_written (t : Tree) :
    Document.ofText t.written = .ok ⟨some t.node, t.node.anchored⟩ := by
  have hparse : Parse.document (4 * (t.tokensIn .afterIndicator ++ [Token.streamEnd]).length + 4)
      ⟨t.tokensIn .afterIndicator ++ [.streamEnd], [], []⟩ =
        .ok (some t.node, ⟨[.streamEnd], Parse.standardHandles, []⟩) :=
    Parse.document_tokens t (by simp; omega)
  simp only [Document.ofText, Token.ofText_written, bind, Except.bind, StateT.run, hparse]
  rfl

end Provision.Yaml
