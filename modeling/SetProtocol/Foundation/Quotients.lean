import Mathlib.Data.Rat.Floor

/-!
# Rounded quotients of integers

The division of machine integers truncates, and programs adjust the quotient by one when a remainder is
left.  These are the roundings of the rational quotient that they arrive at.
-/

namespace SetProtocol.Quotients

variable {a b : ℤ}

/-- Rounding to the integer farther from zero. -/
def awayFromZero (q : ℚ) : ℤ :=
  if 0 ≤ q then ⌈q⌉ else ⌊q⌋

theorem floor_div_of_nonneg (a : ℤ) (hb : 0 ≤ b) : ⌊(a / b : ℚ)⌋ = a.fdiv b := by
  obtain ⟨n, rfl⟩ := Int.eq_ofNat_of_zero_le hb
  rw [Int.fdiv_eq_ediv_of_nonneg a hb]
  exact Rat.floor_intCast_div_natCast a n

theorem floor_div (a b : ℤ) : ⌊(a / b : ℚ)⌋ = a.fdiv b := by
  rcases le_total 0 b with hb | hb
  · exact floor_div_of_nonneg a hb
  · have hneg := floor_div_of_nonneg (-a) (neg_nonneg.mpr hb)
    rwa [Int.cast_neg, Int.cast_neg, neg_div_neg_eq, Int.neg_fdiv_neg] at hneg

theorem ceil_div (a b : ℤ) : ⌈(a / b : ℚ)⌉ = -(-a).fdiv b := by
  rw [← floor_div, Int.cast_neg, neg_div, Int.floor_neg, neg_neg]

/-- The rounded-down quotient is the truncated one, or the one below it where a remainder is left and the
signs differ. -/
theorem fdiv_eq_tdiv_or_sub_one (hb : b ≠ 0) :
    a.fdiv b = if (a < 0 ↔ 0 ≤ b) ∧ a.tmod b ≠ 0 then a.tdiv b - 1 else a.tdiv b := by
  simp only [Int.fdiv_eq_tdiv, Int.dvd_iff_tmod_eq_zero]
  rcases lt_or_gt_of_ne hb with hneg | hpos
  · have hsign : b.sign = -1 := Int.sign_eq_neg_one_of_neg hneg
    split_ifs <;> omega
  · have hsign : b.sign = 1 := Int.sign_eq_one_of_pos hpos
    split_ifs <;> omega

theorem div_nonneg_iff_of_signs (hb : b ≠ 0) (ha : a ≠ 0) :
    0 ≤ (a / b : ℚ) ↔ (0 ≤ a ↔ 0 ≤ b) := by
  rw [div_nonneg_iff]
  have hcast : ((0 : ℚ) ≤ a ∧ (0 : ℚ) ≤ b ∨ (a : ℚ) ≤ 0 ∧ (b : ℚ) ≤ 0) ↔
      (0 ≤ a ∧ 0 ≤ b ∨ a ≤ 0 ∧ b ≤ 0) := by
    norm_cast
  rw [hcast]
  omega

/-- Rounding away from zero adjusts the truncated quotient in the direction of the sign. -/
theorem awayFromZero_div (hb : b ≠ 0) :
    awayFromZero (a / b) = if a.tmod b ≠ 0 then
      if 0 ≤ a ↔ 0 ≤ b then a.tdiv b + 1 else a.tdiv b - 1 else a.tdiv b := by
  unfold awayFromZero
  by_cases ha : a = 0
  · simp [ha]
  rw [ceil_div, floor_div, fdiv_eq_tdiv_or_sub_one hb, fdiv_eq_tdiv_or_sub_one hb, Int.neg_tdiv,
    Int.neg_tmod]
  simp only [div_nonneg_iff_of_signs hb ha]
  split_ifs <;> omega

theorem natAbs_tdiv_le_half (hb : 2 ≤ b.natAbs) : (a.tdiv b).natAbs ≤ a.natAbs / 2 := by
  rw [Int.natAbs_tdiv]
  exact Nat.div_le_div_left hb (by decide)

/-- Only divisors from two on leave a remainder. -/
theorem natAbs_tdiv_le_half_of_tmod (hb : b ≠ 0) (hmod : a.tmod b ≠ 0) :
    (a.tdiv b).natAbs ≤ a.natAbs / 2 := by
  apply natAbs_tdiv_le_half
  by_contra hlt
  have hunit : b = 1 ∨ b = -1 := by omega
  rcases hunit with rfl | rfl <;> simp at hmod

/-- The quotient of natural numbers, rounded up. -/
theorem natCeil_div (a : ℕ) {b : ℕ} (hb : 0 < b) : ⌈(a / b : ℚ)⌉₊ = (a + b - 1) / b := by
  apply eq_of_forall_ge_iff
  intro c
  have hcast : (0 : ℚ) < b := Nat.cast_pos.mpr hb
  rw [Nat.ceil_le, div_le_iff₀ hcast, Nat.div_le_iff_le_mul_add_pred hb, Nat.mul_comm b]
  norm_cast
  omega

end SetProtocol.Quotients
