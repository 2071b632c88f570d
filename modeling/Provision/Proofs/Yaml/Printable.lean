import Provision.Proofs.Yaml.Runs

/-!
# What is written can be read

All characters of the text of a tree are written as they are, or in an escape: none of them is
a control character that no text may hold (`printable_written`).
-/

namespace Provision.Yaml

/-- A text of characters that are written as they are. -/
def Printable (cs : List Char) : Prop := ∀ c ∈ cs, isPrintable c = true

instance : DecidablePred Printable := fun cs =>
  decidable_of_iff (cs.all isPrintable = true) List.all_eq_true

section

variable {c : Char} {cs ds : List Char}

/-- Nothing is printable. -/
@[simp] theorem printable_nil : Printable [] := nofun

/-- A text is printable if its first character and the rest are. -/
@[simp] theorem printable_cons : Printable (c :: cs) ↔ isPrintable c = true ∧ Printable cs :=
  List.forall_mem_cons

/-- Two texts are printable together if both are. -/
@[simp] theorem printable_append : Printable (cs ++ ds) ↔ Printable cs ∧ Printable ds :=
  List.forall_mem_append

/-- Spaces are printable. -/
@[simp] theorem printable_spaces (n : Nat) : Printable (spaces n) := by
  intro c hc
  rw [List.eq_of_mem_replicate hc]
  rfl

/-- Closing the last line leaves a text printable. -/
theorem printable_closedLine (h : Printable cs) : Printable (closedLine cs) := by
  obtain ⟨-, -, -, hclosed⟩ | ⟨-, hclosed⟩ := closedLine_cases cs
  · rwa [hclosed]
  · rw [hclosed]
    exact printable_append.2 ⟨h, by decide⟩

/-- The hints of a block are printable. -/
theorem printable_literalHints (cs : List Char) : Printable (literalHints cs) := by
  rw [literalHints_eq]
  cases chompOf cs <;> cases hidesIndentation cs <;> decide

/-- The body of a block is printable if its text is. -/
theorem printable_literalBody (column : Nat) (h : Printable cs) :
    ∀ broken, Printable (literalBody column broken cs) := by
  induction cs with
  | nil => exact fun _ => printable_nil
  | cons c cs ih =>
    obtain ⟨hc, hcs⟩ := printable_cons.1 h
    intro broken
    rw [literalBody]
    cases broken <;> split <;> simp [hc, ih hcs]

/-- What stands between single quotes is printable if its text is. -/
theorem printable_singleQuotedBody (column : Nat) (h : Printable cs) :
    ∀ broken, Printable (singleQuotedBody column broken cs) := by
  induction cs with
  | nil => exact fun broken => by cases broken <;> simp [singleQuotedBody]
  | cons c cs ih =>
    obtain ⟨hc, hcs⟩ := printable_cons.1 h
    intro broken
    have hsign : Printable (if c = '\'' then ['\'', '\''] else [c]) := by
      split
      · decide
      · simpa using hc
    rw [singleQuotedBody]
    cases broken <;> split <;> simp [hc, hsign, ih hcs]

end

/-- Every scalar is written printably. -/
theorem printable_scalar (column : Nat) (s : String) : Printable (scalar column (styleOf s) s) := by
  have hallows := Scan.allows_styleOf s
  unfold scalar
  generalize styleOf s = style at hallows ⊢
  generalize s.toList = text at hallows
  cases hallows with
  | plain h => exact printable_cons.2 ⟨h.printable, h.goesOn.printable⟩
  | singleQuoted h =>
    have hbody := printable_singleQuotedBody column h.printable false
    exact printable_append.2 ⟨printable_cons.2 ⟨by decide, hbody⟩, by decide⟩
  | doubleQuoted =>
    have hbody : Printable (doubleQuotedBody text) := fun c hc =>
      (inLine_doubleQuotedBody text c hc).1
    exact printable_append.2 ⟨printable_cons.2 ⟨by decide, hbody⟩, by decide⟩
  | literal _ h =>
    have hbody := printable_literalBody column h.printable true
    exact printable_append.2 ⟨printable_cons.2 ⟨by decide, printable_literalHints text⟩,
      printable_cons.2 ⟨by decide, hbody⟩⟩

/-- Every key is written printably. -/
theorem printable_writtenKey (column : Nat) (s : String) : Printable (writtenKey column s) := by
  have hscalar := printable_scalar (column + 2) s
  rw [writtenKey]
  split
  · exact printable_append.2 ⟨hscalar, by decide⟩
  · have hlines : Printable (closedLine (scalar (column + 2) (styleOf s) s) ++ spaces column) :=
      printable_append.2 ⟨printable_closedLine hscalar, printable_spaces column⟩
    exact printable_append.2
      ⟨printable_cons.2 ⟨by decide, printable_cons.2 ⟨by decide, hlines⟩⟩, by decide⟩

/-- What is placed behind a sign or a key stays printable. -/
theorem printable_placed (position : Position) (column : Nat) {cs : List Char} (h : Printable cs) :
    Printable (placed position column cs) := by
  cases position with
  | afterKey => exact printable_cons.2 ⟨by decide, h⟩
  | afterIndicator => exact printable_cons.2 ⟨by decide, fun c hc => h c (List.mem_of_mem_drop hc)⟩

mutual

/-- Every tree is written printably. -/
theorem printable_writtenIn : ∀ (t : Tree) (column : Nat) (position : Position),
    Printable (t.writtenIn column position)
  | .text s, column, _ => printable_cons.2 ⟨by decide, printable_closedLine (printable_scalar _ s)⟩
  | .list ts, column, position => by
    rw [Tree.writtenIn]
    split
    · decide
    · exact printable_placed _ _ (printable_writtenItems ts _)
  | .map es, column, position => by
    rw [Tree.writtenIn]
    split
    · decide
    · exact printable_placed _ _ (printable_writtenEntries es _)

/-- Every list is written printably. -/
theorem printable_writtenItems : ∀ (ts : List Tree) (column : Nat),
    Printable (writtenItems column ts)
  | [], _ => printable_nil
  | t :: ts, column => by
    have hdash : isPrintable '-' = true := rfl
    simp [writtenItems, hdash, printable_writtenIn t, printable_writtenItems ts]

/-- Every map is written printably. -/
theorem printable_writtenEntries : ∀ (es : List (String × Tree)) (column : Nat),
    Printable (writtenEntries column es)
  | [], _ => printable_nil
  | (key, t) :: es, column => by
    simp [writtenEntries, printable_writtenKey, printable_writtenIn t, printable_writtenEntries es]

end

/-- The text of a tree has no characters that cannot be read. -/
theorem printable_written (t : Tree) : Printable t.written.toList := by
  cases t with
  | text s =>
    rw [Tree.written, String.toList_ofList]
    exact printable_closedLine (printable_scalar _ s)
  | list ts =>
    rw [Tree.written]
    split
    · decide
    · rw [String.toList_ofList]
      exact printable_writtenItems ts 0
  | map es =>
    rw [Tree.written]
    split
    · decide
    · rw [String.toList_ofList]
      exact printable_writtenEntries es 0

end Provision.Yaml
