import Provision.Text.Pieces

/-!
# Pieces of texts

A text has one piece more than it has separators (`length_splitAt`), and pieces that are put
together are found again (`splitAt_joinWith`). `occursIn_iff` says that looking for a text within
another one is the infix relation of lists.
-/

namespace Provision.Text

variable {sep : Char} {cs : List Char}

/-- There is one piece more than there are separators. -/
theorem length_splitAt (sep : Char) (cs : List Char) :
    (splitAt sep cs).length = cs.count sep + 1 := by
  induction cs with
  | nil => rfl
  | cons c cs ih =>
    by_cases hc : c = sep
    · subst hc
      rw [splitAt_self, List.length_cons, ih, List.count_cons_self]
    · obtain ⟨p, ps, hp, hcons⟩ := splitAt_cons_of_ne hc cs
      rw [hcons, List.length_cons, ← List.length_cons (a := p), ← hp, ih,
        List.count_cons_of_ne hc]

/-- A text without a separator is a single piece. -/
theorem splitAt_of_not_mem (h : sep ∉ cs) : splitAt sep cs = [cs] := by
  induction cs with
  | nil => rfl
  | cons c cs ih =>
    obtain ⟨hc, hcs⟩ := not_or.1 (mt List.mem_cons.2 h)
    rw [splitAt, if_neg (Ne.symm hc), ih hcs]

/-- The first piece is what stands before the first separator. -/
theorem splitAt_append_cons {p : List Char} (h : sep ∉ p) (cs : List Char) :
    splitAt sep (p ++ sep :: cs) = p :: splitAt sep cs := by
  induction p with
  | nil => simp [splitAt]
  | cons c p ih =>
    obtain ⟨hc, hp⟩ := not_or.1 (mt List.mem_cons.2 h)
    rw [List.cons_append, splitAt, if_neg (Ne.symm hc), ih hp]

/-- Pieces with separators between them are cut there again. -/
theorem splitAt_joinWith {ps : List (List Char)} (hne : ps ≠ []) (h : ∀ p ∈ ps, sep ∉ p) :
    splitAt sep (joinWith sep ps) = ps := by
  induction ps with
  | nil => exact absurd rfl hne
  | cons p ps ih =>
    obtain ⟨hp, hps⟩ := List.forall_mem_cons.1 h
    cases ps with
    | nil => exact splitAt_of_not_mem hp
    | cons q qs => rw [joinWith, splitAt_append_cons hp, ih (List.cons_ne_nil q qs) hps]

/-- Pieces with more pieces after them. -/
theorem joinWith_append {ps qs : List (List Char)} (hps : ps ≠ []) (hqs : qs ≠ []) :
    joinWith sep (ps ++ qs) = joinWith sep ps ++ sep :: joinWith sep qs := by
  induction ps with
  | nil => exact absurd rfl hps
  | cons p ps ih =>
    cases ps with
    | nil =>
      obtain ⟨q, qs, rfl⟩ := List.exists_cons_of_ne_nil hqs
      rfl
    | cons r rs =>
      rw [List.cons_append, List.cons_append, joinWith, ← List.cons_append,
        ih (List.cons_ne_nil r rs), joinWith, List.append_assoc, List.cons_append]

/-- One more piece comes after a separator. -/
theorem joinWith_concat {ps : List (List Char)} (hne : ps ≠ []) (p : List Char) :
    joinWith sep (ps ++ [p]) = joinWith sep ps ++ sep :: p :=
  joinWith_append hne (List.cons_ne_nil p [])

/-- The pieces hold all characters but the separators. -/
theorem exists_mem_splitAt {c : Char} :
    (∃ p ∈ splitAt sep cs, c ∈ p) ↔ c ∈ cs ∧ c ≠ sep := by
  induction cs with
  | nil => simp [splitAt]
  | cons a cs ih =>
    by_cases ha : a = sep
    · subst ha
      rw [splitAt_self]
      simp only [List.mem_cons, exists_eq_or_imp, List.not_mem_nil, false_or, ih]
      grind
    · obtain ⟨p, ps, hp, hcons⟩ := splitAt_cons_of_ne ha cs
      rw [hp] at ih
      rw [hcons]
      simp only [List.mem_cons, exists_eq_or_imp] at ih ⊢
      grind

/-- A part occurs in a text if it stands somewhere in it. -/
theorem occursIn_iff {part : List Char} : occursIn part cs = true ↔ part <:+: cs := by
  induction cs with
  | nil => simp [occursIn]
  | cons c cs ih => rw [occursIn, Bool.or_eq_true, startsWith_iff, ih, List.infix_cons_iff]

end Provision.Text
