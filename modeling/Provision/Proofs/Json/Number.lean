import Mathlib.Algebra.Order.Field.Rat
import Mathlib.Tactic.Linarith
import Provision.Json.Value

/-!
# Which numbers are positive

A number is kept as it was written, and compared as the 64-bit float it is rounded to
(`Number.isPositive_iff`).
-/

namespace Provision.Json.Number

/-- The value of a number as it is written. -/
def toRat : Number → ℚ
  | integer value => value
  | decimal mantissa exponent =>
    if 0 ≤ exponent then mantissa * (Nat.pow 10 exponent.natAbs : ℕ)
    else mantissa / (Nat.pow 10 exponent.natAbs : ℕ)

/-- Half of the least positive 64-bit float. What is not above it does not round to a positive
float. -/
def underflow : ℚ := ((Nat.pow 2 1075 : ℕ) : ℚ)⁻¹

/-- A power of two is greater than one, unless it is the first. -/
theorem one_lt_two_pow {k : ℕ} (hk : k ≠ 0) : 1 < Nat.pow 2 k := Nat.one_lt_pow hk (by decide)

/-- An integer is above the inverse of a number greater than one just if it is positive. -/
theorem inv_lt_int {p : ℕ} (hp : 1 < p) {n : ℤ} : (p : ℚ)⁻¹ < n ↔ 0 < n := by
  constructor
  · intro h
    have hpos : (0 : ℚ) < (p : ℚ)⁻¹ := inv_pos.2 (Nat.cast_pos.2 (Nat.zero_lt_of_lt hp))
    exact Int.cast_pos.1 (hpos.trans h)
  · intro h
    exact (inv_lt_one_of_one_lt₀ (Nat.one_lt_cast.2 hp)).trans_le (Int.cast_one_le_of_pos h)

/-- A fraction is above an inverse if it still is after both are multiplied out. -/
theorem inv_lt_div {p q : ℕ} (hp : 0 < p) (hq : 0 < q) {n : ℤ} :
    (p : ℚ)⁻¹ < n / q ↔ 0 < n ∧ q < n.natAbs * p := by
  have hp' : (0 : ℚ) < p := Nat.cast_pos.2 hp
  have hq' : (0 : ℚ) < q := Nat.cast_pos.2 hq
  rw [inv_eq_one_div, div_lt_div_iff₀ hp' hq', one_mul]
  constructor
  · intro h
    have hn : 0 < n := Int.cast_pos.1 (pos_of_mul_pos_left (hq'.trans h) hp'.le)
    obtain ⟨k, rfl⟩ := Int.eq_ofNat_of_zero_le hn.le
    exact ⟨hn, by exact_mod_cast h⟩
  · rintro ⟨hn, h⟩
    obtain ⟨k, rfl⟩ := Int.eq_ofNat_of_zero_le hn.le
    exact_mod_cast h

/-- A number counts as positive just if it is more than what rounds to zero. -/
theorem isPositive_iff (n : Number) : n.isPositive = true ↔ underflow < n.toRat := by
  have hp := one_lt_two_pow (k := 1075) (by decide)
  unfold isPositive underflow
  generalize Nat.pow 2 1075 = p at hp ⊢
  cases n with
  | integer value => rw [toRat, inv_lt_int hp, decide_eq_true_iff]
  | decimal mantissa exponent =>
    have hten : 0 < Nat.pow 10 exponent.natAbs := Nat.pow_pos (by decide)
    simp only [toRat, Bool.and_eq_true, decide_eq_true_iff]
    split
    · have hcast : (mantissa : ℚ) * (Nat.pow 10 exponent.natAbs : ℕ) =
          ((mantissa * (Nat.pow 10 exponent.natAbs : ℕ) : ℤ) : ℚ) := by
        rw [Int.cast_mul, Int.cast_natCast]
      rw [hcast, inv_lt_int hp, mul_pos_iff_of_pos_right (Int.natCast_pos.2 hten)]
      exact and_iff_left rfl
    · rw [inv_lt_div (Nat.zero_lt_of_lt hp) hten, decide_eq_true_iff]

end Provision.Json.Number
