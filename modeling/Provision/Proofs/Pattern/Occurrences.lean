import Mathlib.Data.ENat.Lattice
import Provision.Pattern.Expr

/-!
# How often a character occurs in what a pattern matches

`Expr.mostOf c e` bounds the occurrences of the character `c` in the texts that the expression `e`
matches: one for a set that holds it, the sum for a sequence, the larger of the two for a choice,
and for a repetition the bound of its body for each time that it may be run. It is no number but
infinite where a repetition without an end can take the character. `Expr.count_le_mostOf` says that
it is a bound. Matching goes from places in the text to places, so what is proved of every
expression is that each place where a match ends comes from one where it began, with at most so many
occurrences in between (`Expr.climbs_ends`).
-/

namespace Provision.Pattern

/-- How often a repetition with some bounds may run its body. -/
def timesAtMost (least : ℕ) : Option ℕ → ℕ∞
  | none => ⊤
  | some most => (max least most : ℕ)

/-- A bound for the occurrences of a character in the texts that an expression matches. -/
noncomputable def Expr.mostOf (c : Char) : Expr → ℕ∞
  | empty => 0
  | chars set => if set.mem c then 1 else 0
  | look _ => 0
  | seq a b => a.mostOf c + b.mostOf c
  | choice a b => max (a.mostOf c) (b.mostOf c)
  | repeated body least most => timesAtMost least most * body.mostOf c
  | capture body => body.mostOf c

/-! ## Steps between places -/

/-- A step from places to places climbs by at most `k`: each place that it reaches is at most `k`
higher than one that it began at. -/
def Climbs (height : ℕ → ℕ) (k : ℕ∞) (f : ℕ → ℕ) : Prop :=
  ∀ s j, (f s).testBit j = true → ∃ i, s.testBit i = true ∧ (height j : ℕ∞) ≤ height i + k

namespace Climbs

variable {height : ℕ → ℕ} {k l : ℕ∞} {f g : ℕ → ℕ}

/-- A step that climbs by so much climbs at most by more. -/
theorem mono (h : Climbs height k f) (hk : k ≤ l) : Climbs height l f := by
  intro s j hj
  obtain ⟨i, hi, hle⟩ := h s j hj
  exact ⟨i, hi, hle.trans (by gcongr)⟩

/-- A step that only leaves places out does not climb. -/
theorem of_subset (h : ∀ s j, (f s).testBit j = true → s.testBit j = true) :
    Climbs height 0 f := by
  intro s j hj
  exact ⟨j, h s j hj, by rw [add_zero]⟩

/-- Two steps climb as far as both together. -/
theorem comp (hf : Climbs height k f) (hg : Climbs height l g) :
    Climbs height (k + l) fun s => g (f s) := by
  intro s j hj
  obtain ⟨m, hm, hjm⟩ := hg _ j hj
  obtain ⟨i, hi, hmi⟩ := hf s m hm
  refine ⟨i, hi, ?_⟩
  calc (height j : ℕ∞) ≤ height m + l := hjm
    _ ≤ height i + k + l := by gcongr
    _ = height i + (k + l) := add_assoc ..

/-- Either of two steps climbs as far as the one that climbs further. -/
theorem union (hf : Climbs height k f) (hg : Climbs height l g) :
    Climbs height (max k l) fun s => f s ||| g s := by
  intro s j hj
  rw [Nat.testBit_or, Bool.or_eq_true] at hj
  rcases hj with hj | hj
  · exact hf.mono (le_max_left ..) s j hj
  · exact hg.mono (le_max_right ..) s j hj

/-- Running a step some times climbs that many times as far. -/
theorem iterate (hf : Climbs height k f) (n : ℕ) : Climbs height (n * k) (iterate f n) := by
  induction n with
  | zero => exact (of_subset fun _ _ hj => hj).mono zero_le
  | succ n ih =>
    intro s j hj
    rw [Pattern.iterate] at hj
    split at hj
    · exact (of_subset fun _ _ hj => hj).mono zero_le s j hj
    · have hstep := hf.comp ih
      rw [Nat.cast_succ, add_mul, one_mul, add_comm]
      exact hstep s j hj

/-- Running a step up to some times climbs at most that many times as far. -/
theorem reach (hf : Climbs height k f) (n : ℕ) : Climbs height (n * k) (reach f n) := by
  induction n with
  | zero => exact (of_subset fun _ _ hj => hj).mono zero_le
  | succ n ih =>
    intro s j hj
    rw [Pattern.reach] at hj
    split at hj
    · exact (of_subset fun _ _ hj => hj).mono zero_le s j hj
    · have hone : Climbs height k fun s => s ||| f s :=
        ((of_subset fun _ _ hj => hj).union hf).mono (max_le zero_le le_rfl)
      have hstep := hone.comp ih
      rw [Nat.cast_succ, add_mul, one_mul, add_comm]
      exact hstep s j hj

end Climbs

/-! ## Places in a text -/

variable {text : List Char} {c : Char}

/-- How often a character occurs before a place of a text. -/
def occurrencesBefore (c : Char) (text : List Char) (i : ℕ) : ℕ := (text.take i).count c

/-- Places before a character of a set are at such characters. -/
theorem testBit_placesBefore {set : Unicode.Ranges} {n j : ℕ}
    (h : (placesBefore set (2 ^ n) text).testBit j = true) :
    ∃ i x, j = n + i ∧ text[i]? = some x ∧ set.mem x = true := by
  induction text generalizing n with
  | nil => simp [placesBefore] at h
  | cons x xs ih =>
    rw [placesBefore, Nat.testBit_or, Bool.or_eq_true] at h
    rcases h with h | h
    · split at h
      · next hx =>
        rw [Nat.testBit_two_pow, decide_eq_true_eq] at h
        exact ⟨0, x, h.symm, rfl, hx⟩
      · simp at h
    · rw [← Nat.pow_succ'] at h
      obtain ⟨i, y, rfl, hy, hmem⟩ := ih h
      exact ⟨i + 1, y, by omega, hy, hmem⟩

/-- Taking one character of a set climbs by one only if the character that is counted is in it. -/
theorem climbs_chars (set : Unicode.Ranges) :
    Climbs (occurrencesBefore c text) (if set.mem c then 1 else 0)
      fun s => 2 * (s &&& placesBefore set 1 text) := by
  intro s j hj
  have hj' : 1 ≤ j ∧ (s &&& placesBefore set 1 text).testBit (j - 1) = true := by
    rw [← Nat.pow_one 2, Nat.testBit_two_pow_mul, Bool.and_eq_true, decide_eq_true_eq] at hj
    simpa using hj
  obtain ⟨hpos, hbits⟩ := hj'
  rw [Nat.testBit_and, Bool.and_eq_true] at hbits
  obtain ⟨i, x, hi, hx, hmem⟩ := testBit_placesBefore (n := 0) hbits.2
  obtain rfl : j = i + 1 := by omega
  refine ⟨i, by simpa using hbits.1, ?_⟩
  simp only [occurrencesBefore, List.take_add_one, hx, Option.toList_some, List.count_append]
  by_cases hxc : x = c
  · subst hxc
    simp [hmem]
  · simp [hxc]

/-- From every place where a match of an expression ends one gets to a place where it began, and
has passed no more occurrences of a character than the bound says. -/
theorem Expr.climbs_ends (e : Expr) :
    Climbs (occurrencesBefore c text) (e.mostOf c) (e.ends text) := by
  induction e with
  | empty => exact .of_subset fun s j hj => hj
  | chars set => exact climbs_chars set
  | look l =>
    refine .of_subset fun s j hj => ?_
    rw [ends, Nat.testBit_and, Bool.and_eq_true] at hj
    exact hj.1
  | seq a b iha ihb => exact iha.comp ihb
  | choice a b iha ihb => exact iha.union ihb
  | repeated body least most ih =>
    cases most with
    | none =>
      refine ((ih.iterate least).comp (ih.reach (text.length + 1))).mono ?_
      rw [← add_mul]
      exact mul_le_mul_left (le_top : _ ≤ timesAtMost least none) _
    | some most =>
      have htimes : least + (most - least) = max least most := by omega
      refine ((ih.iterate least).comp (ih.reach (most - least))).mono ?_
      rw [← add_mul, ← Nat.cast_add, htimes]
      exact le_rfl
  | capture body ih => exact ih

/-- A character occurs in a text that an expression matches no more often than the bound says. -/
theorem Expr.count_le_mostOf {e : Expr} (h : e.matchesAll text = true) :
    (text.count c : ℕ∞) ≤ e.mostOf c := by
  obtain ⟨i, hi, hle⟩ := e.climbs_ends (c := c) 1 text.length h
  obtain rfl := Nat.testBit_one_eq_true_iff_self_eq_zero.1 hi
  simpa [occurrencesBefore] using hle

end Provision.Pattern
