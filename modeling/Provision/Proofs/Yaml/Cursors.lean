import Provision.Yaml.Writer

/-!
# Places in what is written

A cursor that goes over characters of a line stays in its line (`Place.plus`). Of the characters
that are written without an escape only the space is blank, and only three end a line; whatever is
written is readable.
-/

namespace Provision.Yaml

/-- Steps of reading are taken one after the other. -/
theorem bind_ok {σ α β : Type} {x : StateT σ (Except Problem) α}
    {f : α → StateT σ (Except Problem) β} {s s' : σ} {a : α} (h : x s = .ok (a, s')) :
    (x >>= f) s = f a s' := by
  simp only [bind, StateT.bind, h, Except.bind]

/-- So many spaces are so many characters. -/
theorem length_spaces (n : Nat) : (spaces n).length = n := List.length_replicate

/-- The place after characters of a line. -/
def Place.plus (p : Place) (n : Nat) : Place := ⟨p.index + n, p.line, p.column + n⟩

/-- Going on twice is going on by both. -/
@[simp] theorem Place.plus_plus (p : Place) (m n : Nat) : (p.plus m).plus n = p.plus (m + n) := by
  simp only [plus, Nat.add_assoc]

/-- Going on in a line counts up the index. -/
@[simp] theorem Place.index_plus (p : Place) (n : Nat) : (p.plus n).index = p.index + n := rfl

/-- Going on in a line does not leave it. -/
@[simp] theorem Place.line_plus (p : Place) (n : Nat) : (p.plus n).line = p.line := rfl

/-- Going on in a line counts up the column. -/
@[simp] theorem Place.column_plus (p : Place) (n : Nat) : (p.plus n).column = p.column + n := rfl

/-- The place at the beginning of the next line. -/
def Place.newline (p : Place) : Place := ⟨p.index + 1, p.line + 1, 0⟩

namespace Cursor

variable {c : Char} {cs : List Char} {p : Place}

/-- The next character is one column further. -/
@[simp] theorem next_cons : next ⟨c :: cs, p⟩ = ⟨cs, p.plus 1⟩ := rfl

/-- Going over a part of a line leaves what follows it. -/
theorem forward_append (ws cs : List Char) (p : Place) :
    forward ws.length ⟨ws ++ cs, p⟩ = ⟨cs, p.plus ws.length⟩ := by
  rw [forward, List.drop_left]
  rfl

/-- A cursor goes past the characters of a kind that stand before one of another kind. -/
theorem skipWhile_append {q : Char → Bool} {ws cs : List Char} (hws : ∀ x ∈ ws, q x = true)
    (hcs : ∀ x ∈ cs.head?, q x = false) (p : Place) :
    skipWhile q ⟨ws ++ cs, p⟩ = ⟨cs, p.plus ws.length⟩ := by
  have htake : (ws ++ cs).takeWhile q = ws := by
    rw [List.takeWhile_append_of_pos hws]
    cases cs with
    | nil => simp
    | cons x cs => simp [hcs x rfl]
  rw [skipWhile, htake, forward_append]

end Cursor

/-! ## Characters that are written as they are -/

variable {c : Char}

/-- A tab is not printable. -/
theorem ne_tab_of_isPrintable (h : isPrintable c = true) : c ≠ '\t' := by
  rintro rfl
  exact absurd h (by decide)

/-- Of the printable characters only the space is blank. -/
theorem isBlank_of_isPrintable (h : isPrintable c = true) : isBlank c = (c == ' ') := by
  simp [isBlank, ne_tab_of_isPrintable h]

/-- What is printable is readable. -/
theorem isReadable_of_isPrintable (h : isPrintable c = true) : isReadable c = true := by
  simp only [isPrintable, isReadable, Bool.or_eq_true, Bool.and_eq_true, beq_iff_eq,
    decide_eq_true_eq, bne_iff_ne] at h ⊢
  omega

/-- A character of a line that is written as it is. -/
def InLine (c : Char) : Prop := isPrintable c = true ∧ isBreak c = false

instance : DecidablePred InLine := fun _ => inferInstanceAs (Decidable (_ ∧ _))

/-- The breaks that are written as they are. -/
theorem isBreak_of_isPrintable (h : isPrintable c = true) (hb : isBreak c = true) :
    c = '\n' ∨ c = '\u2028' ∨ c = '\u2029' := by
  simp only [isBreak, Bool.or_eq_true, beq_iff_eq] at hb
  rcases hb with (((rfl | rfl) | rfl) | rfl) | rfl
  · exact .inl rfl
  · exact absurd h (by decide)
  · exact absurd h (by decide)
  · exact .inr (.inl rfl)
  · exact .inr (.inr rfl)

/-- A scalar keeps a break that is written as it is. -/
theorem lineBreak_cons {cs : List Char} {p : Place} (h : isPrintable c = true)
    (hb : isBreak c = true) : Cursor.lineBreak ⟨c :: cs, p⟩ = ([c], ⟨cs, p.newline⟩) := by
  rcases isBreak_of_isPrintable h hb with rfl | rfl | rfl <;> rfl

end Provision.Yaml
