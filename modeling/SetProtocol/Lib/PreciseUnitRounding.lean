import SetProtocol.Lib.PreciseUnitMath

/-!
# How the fixed-point functions round

The functions of `PreciseUnitMath` that are named after a rounding, compared with the floor and the ceiling
of the rational quotient.  Each reverts exactly when the divisor is zero or a number does not fit its type.
-/

namespace SetProtocol.PreciseUnitMath

open Outcome Quotients

/-! ## Adjusted quotients -/

variable {a b : ℤ}

/-- Only the least number divided by minus one leaves the range. -/
theorem inInt256_tdiv (ha : InInt256 a) (hmin : ¬ (b = -1 ∧ a = minInt256)) :
    InInt256 (a.tdiv b) := by
  rcases Nat.lt_or_ge b.natAbs 2 with hlt | htwo
  · have hunit : b = 0 ∨ b = 1 ∨ b = -1 := by omega
    have hhigh := ha.2
    have hlow := ha.1
    rcases hunit with rfl | rfl | rfl
    · rw [Int.tdiv_zero]
      decide
    · rwa [Int.tdiv_one]
    · rw [Int.tdiv_neg, Int.tdiv_one]
      unfold InInt256 minInt256 maxInt256 at *
      omega
  · exact inInt256_of_natAbs_le_half ha (natAbs_tdiv_le_half htwo) (by omega) (by omega)

/-! ## Rounding to the lesser number -/

/-- The floor fits unless the least number is divided by minus one. -/
theorem inInt256_floor_div_iff (ha : InInt256 a) (hb : b ≠ 0) :
    InInt256 ⌊(a / b : ℚ)⌋ ↔ ¬ (b = -1 ∧ a = minInt256) := by
  rw [floor_div]
  constructor
  · rintro hfits ⟨rfl, rfl⟩
    exact absurd hfits (by decide)
  · intro hmin
    rw [fdiv_eq_tdiv_or_sub_one hb]
    split_ifs with hround
    · exact inInt256_tdiv_sub_one ha hb hround.2
    · exact inInt256_tdiv ha hmin

theorem divDown_computes (ha : InInt256 a) (b : ℤ) :
    Computes (divDown a b) (b = 0 ∨ ¬ InInt256 ⌊(a / b : ℚ)⌋) ⌊(a / b : ℚ)⌋ := by
  apply computes_of_eq_ok_iff
  intro c
  rw [divDown_eq_ok ha, floor_div, not_or, and_assoc]
  apply and_congr_right
  intro hb
  rw [← floor_div, inInt256_floor_div_iff ha hb, not_not, floor_div]

/-- A checked product in front of a computation that rounds. -/
theorem mul_bind_computes {α : Type} {f : ℤ → Outcome α} {fails : Prop} {value : α}
    (h : InInt256 (a * b) → Computes (f (a * b)) fails value) :
    Computes (SignedSafeMath.mul a b >>= f) (¬ InInt256 (a * b) ∨ fails) value := by
  by_cases hfits : InInt256 (a * b)
  · have hmul : SignedSafeMath.mul a b = .ok (a * b) := if_pos hfits
    rw [hmul, ok_bind]
    simpa [hfits] using h hfits
  · have hmul : SignedSafeMath.mul a b = .error "SignedSafeMath: multiplication overflow" :=
      if_neg hfits
    rw [hmul, error_bind]
    exact ⟨by simp [hfits], by simp [hfits]⟩

theorem conservativePreciseMul_computes (a b : ℤ) :
    Computes (conservativePreciseMul a b)
      (¬ InInt256 (a * b) ∨ ¬ InInt256 ⌊((a * b : ℤ) / preciseUnitInt : ℚ)⌋)
      ⌊((a * b : ℤ) / preciseUnitInt : ℚ)⌋ := by
  apply mul_bind_computes
  intro hfits
  simpa [preciseUnitInt_pos.ne'] using divDown_computes hfits preciseUnitInt

theorem conservativePreciseDiv_computes (a b : ℤ) :
    Computes (conservativePreciseDiv a b)
      (¬ InInt256 (a * preciseUnitInt) ∨ b = 0 ∨
        ¬ InInt256 ⌊((a * preciseUnitInt : ℤ) / b : ℚ)⌋)
      ⌊((a * preciseUnitInt : ℤ) / b : ℚ)⌋ :=
  mul_bind_computes fun hfits ↦ divDown_computes hfits b

/-! ## Rounding away from zero -/

theorem inInt256_awayFromZero_div (ha : InInt256 a) (hb : b ≠ 0)
    (hmin : ¬ (b = -1 ∧ a = minInt256)) : InInt256 (awayFromZero (a / b)) := by
  rw [awayFromZero_div hb]
  split_ifs with hmod
  · exact inInt256_tdiv_add_one ha hb hmod
  · exact inInt256_tdiv_sub_one ha hb hmod
  · exact inInt256_tdiv ha hmin

theorem preciseDivCeilInt_computes (a b : ℤ) :
    Computes (preciseDivCeilInt a b)
      (b = 0 ∨ ¬ InInt256 (a * preciseUnitInt) ∨
        ¬ InInt256 (awayFromZero ((a * preciseUnitInt : ℤ) / b)))
      (awayFromZero ((a * preciseUnitInt : ℤ) / b)) := by
  apply computes_of_eq_ok_iff
  intro c
  rw [preciseDivCeilInt_eq_awayFromZero, not_or, not_or, not_not, not_not]
  constructor
  · rintro ⟨hb, hfits, rfl⟩
    have hmin := mul_preciseUnitInt_ne_minInt256 a
    exact ⟨⟨hb, hfits, inInt256_awayFromZero_div hfits hb fun h ↦ hmin h.2⟩, rfl⟩
  · rintro ⟨⟨hb, hfits, -⟩, rfl⟩
    exact ⟨hb, hfits, rfl⟩

/-! ## Rounding up natural numbers -/

/-- The quotient does not exceed the dividend. -/
theorem natCeil_div_le {m n : ℕ} (hn : 0 < n) : ⌈(m / n : ℚ)⌉₊ ≤ m := by
  have hone : (1 : ℚ) ≤ n := Nat.one_le_cast.mpr hn
  exact Nat.ceil_le.mpr (div_le_self (Nat.cast_nonneg m) hone)

theorem preciseMulCeil_computes (m n : ℕ) :
    Computes (preciseMulCeil m n)
      (maxUint256 < m * n ∨ maxUint256 < ⌈((m * n : ℕ) / preciseUnit : ℚ)⌉₊)
      ⌈((m * n : ℕ) / preciseUnit : ℚ)⌉₊ := by
  apply computes_of_eq_ok_iff
  intro c
  rw [preciseMulCeil_eq_ok, ← natCeil_div _ preciseUnit_pos, not_or, not_lt, not_lt]
  apply and_congr_left
  rintro -
  exact (and_iff_left_of_imp (natCeil_div_le preciseUnit_pos).trans).symm

theorem preciseDivCeil_computes (m n : ℕ) :
    Computes (preciseDivCeil m n)
      (n = 0 ∨ maxUint256 < m * preciseUnit ∨
        maxUint256 < ⌈((m * preciseUnit : ℕ) / n : ℚ)⌉₊)
      ⌈((m * preciseUnit : ℕ) / n : ℚ)⌉₊ := by
  apply computes_of_eq_ok_iff
  intro c
  rw [preciseDivCeil_eq_ok, not_or, not_or, not_lt, not_lt, Nat.pos_iff_ne_zero, and_assoc]
  apply and_congr_right
  intro hn
  have hpos : 0 < n := Nat.pos_of_ne_zero hn
  rw [← natCeil_div _ hpos]
  apply and_congr_left
  rintro -
  exact (and_iff_left_of_imp (natCeil_div_le hpos).trans).symm

/-! ## All of them -/

/-- The functions round as they are named and revert exactly when a divisor is zero or a number does not
fit; where they adjust a truncated quotient, nothing wraps. -/
theorem rounding_exact (ha : InInt256 a) (b : ℤ) (m n : ℕ) :
    Computes (divDown a b) (b = 0 ∨ ¬ InInt256 ⌊(a / b : ℚ)⌋) ⌊(a / b : ℚ)⌋ ∧
    Computes (conservativePreciseMul a b)
      (¬ InInt256 (a * b) ∨ ¬ InInt256 ⌊((a * b : ℤ) / preciseUnitInt : ℚ)⌋)
      ⌊((a * b : ℤ) / preciseUnitInt : ℚ)⌋ ∧
    Computes (conservativePreciseDiv a b)
      (¬ InInt256 (a * preciseUnitInt) ∨ b = 0 ∨
        ¬ InInt256 ⌊((a * preciseUnitInt : ℤ) / b : ℚ)⌋)
      ⌊((a * preciseUnitInt : ℤ) / b : ℚ)⌋ ∧
    Computes (preciseMulCeil m n)
      (maxUint256 < m * n ∨ maxUint256 < ⌈((m * n : ℕ) / preciseUnit : ℚ)⌉₊)
      ⌈((m * n : ℕ) / preciseUnit : ℚ)⌉₊ ∧
    Computes (preciseDivCeil m n)
      (n = 0 ∨ maxUint256 < m * preciseUnit ∨
        maxUint256 < ⌈((m * preciseUnit : ℕ) / n : ℚ)⌉₊)
      ⌈((m * preciseUnit : ℕ) / n : ℚ)⌉₊ ∧
    Computes (preciseDivCeilInt a b)
      (b = 0 ∨ ¬ InInt256 (a * preciseUnitInt) ∨
        ¬ InInt256 (awayFromZero ((a * preciseUnitInt : ℤ) / b)))
      (awayFromZero ((a * preciseUnitInt : ℤ) / b)) ∧
    ∀ x, InInt256 x → b ≠ 0 → x.tmod b ≠ 0 →
      wrapInt256 (x.tdiv b + 1) = x.tdiv b + 1 ∧ wrapInt256 (x.tdiv b - 1) = x.tdiv b - 1 :=
  ⟨divDown_computes ha b, conservativePreciseMul_computes a b, conservativePreciseDiv_computes a b,
    preciseMulCeil_computes m n, preciseDivCeil_computes m n, preciseDivCeilInt_computes a b,
    fun _ ↦ wrapInt256_tdiv⟩

/-- A negative quotient with a remainder. -/
theorem rounding_exact_negative :
    divDown (-7) 3 = .ok (-3) ∧ preciseDivCeilInt (-7) 3 = .ok (-2333333333333333334) := by
  have hin : InInt256 (-7) := by decide
  obtain ⟨hdown, -, -, -, -, hceil, -⟩ := rounding_exact hin 3 0 0
  rw [floor_div] at hdown
  rw [awayFromZero_div (by decide)] at hceil
  exact ⟨hdown.eq_ok (by decide), hceil.eq_ok (by decide)⟩

end SetProtocol.PreciseUnitMath
