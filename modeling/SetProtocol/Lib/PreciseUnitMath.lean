import Mathlib.Algebra.Order.Field.Rat
import Mathlib.Data.Int.Bitwise
import Mathlib.Data.Int.DivMod
import Mathlib.Tactic.Ring
import SetProtocol.Foundation.Quotients
import SetProtocol.Lib.SafeMath

/-!
# Fixed-point numbers with 18 decimals

The library `PreciseUnitMath`: products and quotients of significands with 18 decimals, in the
rounding directions the protocol uses.  The unsigned functions round down unless they are named
`Ceil`; the conservative signed functions round toward the lesser number.
-/

namespace SetProtocol.PreciseUnitMath

open Quotients

/-- The number one in precise units. -/
def preciseUnit : ℕ := 10 ^ 18

/-- The number one in precise units, as an `int256`. -/
def preciseUnitInt : ℤ := 10 ^ 18

theorem preciseUnit_pos : 0 < preciseUnit := by
  decide

theorem preciseUnitInt_eq : preciseUnitInt = (preciseUnit : ℤ) := by
  decide

theorem preciseUnitInt_pos : 0 < preciseUnitInt := by
  decide

theorem ediv_preciseUnitInt_pos_iff {a : ℤ} : 0 < a / preciseUnitInt ↔ preciseUnitInt ≤ a := by
  rw [← Int.add_one_le_iff, Int.le_ediv_iff_mul_le preciseUnitInt_pos]
  simp

/-! ## Unsigned functions -/

def preciseMul (a b : ℕ) : Outcome ℕ := do
  let product ← SafeMath.mul a b
  SafeMath.div product preciseUnit

def preciseMulCeil (a b : ℕ) : Outcome ℕ :=
  if a = 0 ∨ b = 0 then
    pure 0
  else do
    let product ← SafeMath.mul a b
    let less ← SafeMath.sub product 1
    let quotient ← SafeMath.div less preciseUnit
    SafeMath.add quotient 1

def preciseDiv (a b : ℕ) : Outcome ℕ := do
  let scaled ← SafeMath.mul a preciseUnit
  SafeMath.div scaled b

def preciseDivCeil (a b : ℕ) : Outcome ℕ := do
  require (b ≠ 0) "Cant divide by 0"
  if 0 < a then do
    let scaled ← SafeMath.mul a preciseUnit
    let less ← SafeMath.sub scaled 1
    let quotient ← SafeMath.div less b
    SafeMath.add quotient 1
  else
    pure 0

/-- The loop of `safePower`: multiply `result` by `a` as many times as `pow` says. -/
def safePowerLoop (a : ℕ) : ℕ → ℕ → Outcome ℕ
  | 0, result => pure result
  | pow + 1, result => do
    let next ← SafeMath.mul result a
    safePowerLoop a pow next

def safePower (a pow : ℕ) : Outcome ℕ := do
  require (0 < a) "Value must be positive"
  safePowerLoop a pow 1

/-- The lower comparison is only evaluated when the upper one holds. -/
def approximatelyEquals (a b range : ℕ) : Outcome Bool := do
  let upper ← SafeMath.add b range
  if a ≤ upper then do
    let lower ← SafeMath.sub b range
    pure (decide (lower ≤ a))
  else
    pure false

/-! ## Signed functions -/

/-- Multiplication rounded toward zero (the `int256` overload of `preciseMul`). -/
def preciseMulInt (a b : ℤ) : Outcome ℤ := do
  let product ← SignedSafeMath.mul a b
  SignedSafeMath.div product preciseUnitInt

/-- Division rounded toward zero (the `int256` overload of `preciseDiv`). -/
def preciseDivInt (a b : ℤ) : Outcome ℤ := do
  let scaled ← SignedSafeMath.mul a preciseUnitInt
  SignedSafeMath.div scaled b

/-- Division rounded away from zero (the `int256` overload of `preciseDivCeil`).  The sign of the
exclusive or is the product of the signs; the increment and the decrement are unchecked. -/
def preciseDivCeilInt (a b : ℤ) : Outcome ℤ := do
  require (b ≠ 0) "Cant divide by 0"
  let a ← SignedSafeMath.mul a preciseUnitInt
  let c ← SignedSafeMath.div a b
  if a.tmod b ≠ 0 then
    if 0 < a.xor b then pure (wrapInt256 (c + 1)) else pure (wrapInt256 (c - 1))
  else
    pure c

/-- Division rounded toward the lesser number.  The decrement is unchecked. -/
def divDown (a b : ℤ) : Outcome ℤ := do
  require (b ≠ 0) "Cant divide by 0"
  require (a ≠ minInt256 ∨ b ≠ -1) "Invalid input"
  let result ← SignedSafeMath.div a b
  if a.xor b < 0 ∧ a.tmod b ≠ 0 then
    pure (wrapInt256 (result - 1))
  else
    pure result

def conservativePreciseMul (a b : ℤ) : Outcome ℤ := do
  let product ← SignedSafeMath.mul a b
  divDown product preciseUnitInt

def conservativePreciseDiv (a b : ℤ) : Outcome ℤ := do
  let scaled ← SignedSafeMath.mul a preciseUnitInt
  divDown scaled b

def abs (a : ℤ) : Outcome ℕ :=
  if 0 ≤ a then
    SafeCast.toUint256 a
  else do
    let negated ← SignedSafeMath.mul a (-1)
    SafeCast.toUint256 negated

def neg (a : ℤ) : Outcome ℤ := do
  require (minInt256 < a) "Inversion overflow"
  pure (-a)

/-! ## When the functions return, and what -/

@[simp] theorem preciseMul_eq_ok {a b c : ℕ} :
    preciseMul a b = .ok c ↔ a * b ≤ maxUint256 ∧ c = a * b / preciseUnit := by
  simp [preciseMul, preciseUnit_pos]

@[simp] theorem preciseDiv_eq_ok {a b c : ℕ} :
    preciseDiv a b = .ok c ↔
      a * preciseUnit ≤ maxUint256 ∧ 0 < b ∧ c = a * preciseUnit / b := by
  simp [preciseDiv]

theorem preciseMul_ensures (a b : ℕ) :
    Outcome.Ensures SafeMath.Overflow (· = a * b / preciseUnit) (preciseMul a b) := by
  apply (SafeMath.mul_ensures a b).bind
  rintro _ rfl
  exact SafeMath.div_ensures _ preciseUnit_pos

theorem preciseDiv_ensures (a : ℕ) {b : ℕ} (h : 0 < b) :
    Outcome.Ensures SafeMath.Overflow (· = a * preciseUnit / b) (preciseDiv a b) := by
  apply (SafeMath.mul_ensures a preciseUnit).bind
  rintro _ rfl
  exact SafeMath.div_ensures _ h

/-- With a range of one, the lower comparison fails for a second argument of zero. -/
theorem approximatelyEquals_one {a b : ℕ} (ha : 0 < a) (hb : b + 1 ≤ maxUint256) :
    approximatelyEquals a b 1 =
      if a = 1 ∧ b = 0 then .error "SafeMath: subtraction overflow"
      else .ok (decide (a ≤ b + 1 ∧ b ≤ a + 1)) := by
  simp only [approximatelyEquals, SafeMath.add, SafeMath.sub, if_pos hb, bind, Except.bind]
  by_cases hupper : a ≤ b + 1
  · by_cases hzero : b = 0
    · have hone : a = 1 := by omega
      simp [hzero, hone]
    · have hlower : b - 1 ≤ a ↔ b ≤ a + 1 := by omega
      have hpos : 1 ≤ b := by omega
      simp [hupper, hzero, hpos, hlower, pure, Except.pure]
  · have hne : ¬ (a = 1 ∧ b = 0) := by omega
    simp [hupper, hne, pure, Except.pure]

/-- The rounded-up quotient as the source computes it. -/
theorem sub_one_div_add_one {a b : ℕ} (ha : 0 < a) (hb : 0 < b) :
    (a - 1) / b + 1 = (a + b - 1) / b := by
  have hsplit : a + b - 1 = (a - 1) + b := by omega
  rw [hsplit, Nat.add_div_right _ hb]

/-- A positive number is divided with the quotient rounded up by checked steps that cannot fail. -/
theorem roundUp_eq_ok {a b : ℕ} (ha : 0 < a) (hfits : a ≤ maxUint256) (hb : 0 < b) :
    (do
      let less ← SafeMath.sub a 1
      let quotient ← SafeMath.div less b
      SafeMath.add quotient 1) = .ok ((a + b - 1) / b) := by
  have hquotient : (a - 1) / b + 1 ≤ maxUint256 := by
    have := Nat.div_le_self (a - 1) b
    omega
  simp only [Outcome.bind_eq_ok, SafeMath.sub_eq_ok, SafeMath.div_eq_ok, SafeMath.add_eq_ok]
  exact ⟨_, ⟨ha, rfl⟩, _, ⟨hb, rfl⟩, hquotient, (sub_one_div_add_one ha hb).symm⟩

/-- Nothing is rounded up to nothing. -/
theorem zero_add_sub_one_div {b : ℕ} (hb : 0 < b) : (0 + b - 1) / b = 0 :=
  Nat.div_eq_of_lt (by omega)

theorem preciseMulCeil_eq_ok {a b c : ℕ} :
    preciseMulCeil a b = .ok c ↔
      a * b ≤ maxUint256 ∧ c = (a * b + preciseUnit - 1) / preciseUnit := by
  unfold preciseMulCeil
  split
  case isTrue hzero =>
    have hprod : a * b = 0 := Nat.mul_eq_zero.mpr hzero
    rw [hprod, zero_add_sub_one_div preciseUnit_pos, Outcome.pure_eq_ok]
    simp [eq_comm]
  case isFalse hzero =>
    have hpos : 0 < a * b := Nat.pos_of_ne_zero (mt Nat.mul_eq_zero.mp hzero)
    rw [Outcome.bind_eq_ok]
    simp only [SafeMath.mul_eq_ok]
    constructor
    · rintro ⟨_, ⟨hfits, rfl⟩, h⟩
      rw [roundUp_eq_ok hpos hfits preciseUnit_pos] at h
      exact ⟨hfits, (Except.ok.inj h).symm⟩
    · rintro ⟨hfits, rfl⟩
      exact ⟨_, ⟨hfits, rfl⟩, roundUp_eq_ok hpos hfits preciseUnit_pos⟩

theorem preciseMulCeil_eq_of_ok {a b c : ℕ} (h : preciseMulCeil a b = .ok c) :
    c = (a * b + preciseUnit - 1) / preciseUnit :=
  (preciseMulCeil_eq_ok.mp h).2

theorem preciseDivCeil_eq_ok {a b c : ℕ} :
    preciseDivCeil a b = .ok c ↔
      0 < b ∧ a * preciseUnit ≤ maxUint256 ∧ c = (a * preciseUnit + b - 1) / b := by
  unfold preciseDivCeil
  rw [Outcome.bind_eq_ok]
  simp only [Outcome.require_eq_ok, ← Nat.pos_iff_ne_zero, exists_const]
  apply and_congr_right
  intro hb
  split
  case isTrue ha =>
    have hpos : 0 < a * preciseUnit := Nat.mul_pos ha preciseUnit_pos
    rw [Outcome.bind_eq_ok]
    simp only [SafeMath.mul_eq_ok]
    constructor
    · rintro ⟨_, ⟨hfits, rfl⟩, h⟩
      rw [roundUp_eq_ok hpos hfits hb] at h
      exact ⟨hfits, (Except.ok.inj h).symm⟩
    · rintro ⟨hfits, rfl⟩
      exact ⟨_, ⟨hfits, rfl⟩, roundUp_eq_ok hpos hfits hb⟩
  case isFalse ha =>
    obtain rfl : a = 0 := by omega
    rw [Nat.zero_mul, zero_add_sub_one_div hb, Outcome.pure_eq_ok]
    simp [eq_comm]

theorem preciseDivCeil_eq_of_ok {a b c : ℕ} (h : preciseDivCeil a b = .ok c) :
    0 < b ∧ c = (a * preciseUnit + b - 1) / b := by
  obtain ⟨hb, -, hc⟩ := preciseDivCeil_eq_ok.mp h
  exact ⟨hb, hc⟩

/-- The exclusive or is negative exactly when the signs differ. -/
theorem xor_neg_iff (a b : ℤ) : a.xor b < 0 ↔ (a < 0 ↔ 0 ≤ b) := by
  rcases a with a | a <;> rcases b with b | b <;> simp [Int.xor]; omega

/-- What is next to half a number of the `int256` range lies in the range. -/
theorem inInt256_of_natAbs_le_half {a q c : ℤ} (ha : InInt256 a) (hq : q.natAbs ≤ a.natAbs / 2)
    (hlow : q - 1 ≤ c) (hhigh : c ≤ q + 1) : InInt256 c := by
  have hmin := ha.1
  have hmax := ha.2
  unfold InInt256 minInt256 maxInt256 at *
  omega

theorem inInt256_tdiv_sub_one {a b : ℤ} (ha : InInt256 a) (hb : b ≠ 0) (hmod : a.tmod b ≠ 0) :
    InInt256 (a.tdiv b - 1) :=
  inInt256_of_natAbs_le_half ha (natAbs_tdiv_le_half_of_tmod hb hmod) le_rfl (by omega)

theorem inInt256_tdiv_add_one {a b : ℤ} (ha : InInt256 a) (hb : b ≠ 0) (hmod : a.tmod b ≠ 0) :
    InInt256 (a.tdiv b + 1) :=
  inInt256_of_natAbs_le_half ha (natAbs_tdiv_le_half_of_tmod hb hmod) (by omega) le_rfl

/-- `divDown` is the floor of the exact quotient. -/
theorem divDown_eq_ok {a b c : ℤ} (ha : InInt256 a) :
    divDown a b = .ok c ↔ b ≠ 0 ∧ ¬ (b = -1 ∧ a = minInt256) ∧ c = a.fdiv b := by
  by_cases hb : b = 0
  · simp [divDown, hb]
  by_cases hmin : b = -1 ∧ a = minInt256
  · simp [divDown, hmin]
  have hguard : a ≠ minInt256 ∨ b ≠ -1 := by
    tauto
  have hfloor : a.fdiv b = if a.xor b < 0 ∧ a.tmod b ≠ 0 then a.tdiv b - 1 else a.tdiv b := by
    simp only [xor_neg_iff]
    exact fdiv_eq_tdiv_or_sub_one hb
  simp only [divDown, Outcome.bind_eq_ok, Outcome.require_eq_ok, SignedSafeMath.div_eq_ok, hfloor]
  split
  case isTrue hround =>
    have hwrap := wrapInt256_of_inInt256 (inInt256_tdiv_sub_one ha hb hround.2)
    simp [hb, hmin, hguard, hwrap, @eq_comm _ c]
  case isFalse hround =>
    simp [hb, hmin, hguard, @eq_comm _ c]

@[simp] theorem conservativePreciseMul_eq_ok {a b c : ℤ} :
    conservativePreciseMul a b = .ok c ↔ InInt256 (a * b) ∧ c = a * b / preciseUnitInt := by
  simp only [conservativePreciseMul, Outcome.bind_eq_ok, SignedSafeMath.mul_eq_ok]
  constructor
  · rintro ⟨_, ⟨hrange, rfl⟩, h⟩
    rw [divDown_eq_ok hrange, Int.fdiv_eq_ediv_of_nonneg _ preciseUnitInt_pos.le] at h
    exact ⟨hrange, h.2.2⟩
  · rintro ⟨hrange, rfl⟩
    refine ⟨_, ⟨hrange, rfl⟩, ?_⟩
    rw [divDown_eq_ok hrange, Int.fdiv_eq_ediv_of_nonneg _ preciseUnitInt_pos.le]
    exact ⟨preciseUnitInt_pos.ne', by simp [preciseUnitInt], rfl⟩

theorem conservativePreciseDiv_eq_ok {a b c : ℤ} (hb : 0 < b) :
    conservativePreciseDiv a b = .ok c ↔
      InInt256 (a * preciseUnitInt) ∧ c = a * preciseUnitInt / b := by
  simp only [conservativePreciseDiv, Outcome.bind_eq_ok, SignedSafeMath.mul_eq_ok]
  constructor
  · rintro ⟨_, ⟨hrange, rfl⟩, h⟩
    rw [divDown_eq_ok hrange, Int.fdiv_eq_ediv_of_nonneg _ hb.le] at h
    exact ⟨hrange, h.2.2⟩
  · rintro ⟨hrange, rfl⟩
    refine ⟨_, ⟨hrange, rfl⟩, ?_⟩
    rw [divDown_eq_ok hrange, Int.fdiv_eq_ediv_of_nonneg _ hb.le]
    exact ⟨by omega, by omega, rfl⟩

/-- Truncation does not raise a nonnegative quotient. -/
theorem cast_tdiv_le {a b : ℤ} (ha : 0 ≤ a) (hb : 0 < b) : ((a.tdiv b : ℤ) : ℚ) ≤ a / b := by
  have hmul : a / b * b ≤ a := Int.ediv_mul_le _ hb.ne'
  rw [Int.tdiv_eq_ediv_of_nonneg ha, le_div_iff₀ (by exact_mod_cast hb)]
  exact_mod_cast hmul

theorem preciseMulInt_le {a b c : ℤ} (h : preciseMulInt a b = .ok c) (ha : 0 ≤ a) (hb : 0 ≤ b) :
    0 ≤ c ∧ (c : ℚ) ≤ a * b / preciseUnitInt := by
  simp only [preciseMulInt, Outcome.bind_eq_ok, SignedSafeMath.mul_eq_ok,
    SignedSafeMath.div_eq_ok] at h
  obtain ⟨_, ⟨-, rfl⟩, -, -, rfl⟩ := h
  have hproduct : 0 ≤ a * b := mul_nonneg ha hb
  exact ⟨Int.tdiv_nonneg hproduct preciseUnitInt_pos.le,
    by exact_mod_cast cast_tdiv_le hproduct preciseUnitInt_pos⟩

theorem preciseDivInt_le {a b c : ℤ} (h : preciseDivInt a b = .ok c) (ha : 0 ≤ a) (hb : 0 ≤ b) :
    0 ≤ c ∧ (c : ℚ) ≤ a * preciseUnitInt / b := by
  simp only [preciseDivInt, Outcome.bind_eq_ok, SignedSafeMath.mul_eq_ok,
    SignedSafeMath.div_eq_ok] at h
  obtain ⟨_, ⟨-, rfl⟩, hne, -, rfl⟩ := h
  have hproduct : 0 ≤ a * preciseUnitInt := mul_nonneg ha preciseUnitInt_pos.le
  exact ⟨Int.tdiv_nonneg hproduct hb,
    by exact_mod_cast cast_tdiv_le hproduct (lt_of_le_of_ne hb hne.symm)⟩

theorem preciseMulInt_eq_of_ok {a b c : ℤ} (h : preciseMulInt a b = .ok c) :
    c = (a * b).tdiv preciseUnitInt := by
  simp only [preciseMulInt, Outcome.bind_eq_ok, SignedSafeMath.mul_eq_ok,
    SignedSafeMath.div_eq_ok] at h
  obtain ⟨_, ⟨-, rfl⟩, -, -, rfl⟩ := h
  rfl

theorem preciseDivInt_eq_of_ok {a b c : ℤ} (h : preciseDivInt a b = .ok c) :
    b ≠ 0 ∧ c = (a * preciseUnitInt).tdiv b := by
  simp only [preciseDivInt, Outcome.bind_eq_ok, SignedSafeMath.mul_eq_ok,
    SignedSafeMath.div_eq_ok] at h
  obtain ⟨_, ⟨-, rfl⟩, hb, -, rfl⟩ := h
  exact ⟨hb, rfl⟩

/-- The quotient rounded up, by the remainder. -/
theorem ediv_ceil {a b : ℤ} (hb : 0 < b) :
    (a + b - 1) / b = if a % b = 0 then a / b else a / b + 1 := by
  have hsplit := Int.mul_ediv_add_emod a b
  have hrem := Int.emod_nonneg a hb.ne'
  have hlt := Int.emod_lt_of_pos a hb
  split_ifs with hmod
  · have hsum : a + b - 1 = (b - 1) + b * (a / b) := by omega
    rw [hsum, Int.add_mul_ediv_left _ _ hb.ne', Int.ediv_eq_zero_of_lt (by omega) (by omega),
      zero_add]
  · have hsum : a + b - 1 = (a % b - 1) + b * (a / b + 1) := by
      rw [mul_add]
      omega
    rw [hsum, Int.add_mul_ediv_left _ _ hb.ne', Int.ediv_eq_zero_of_lt (by omega) (by omega),
      zero_add]

/-- The exclusive or is positive exactly for different numbers of one sign. -/
theorem xor_pos_iff {a b : ℤ} : 0 < a.xor b ↔ a ≠ b ∧ (0 ≤ a ↔ 0 ≤ b) := by
  have hnat : ∀ m n : ℕ, 0 < m ^^^ n ↔ m ≠ n := by
    intro m n
    rw [Nat.pos_iff_ne_zero, ne_eq, Nat.xor_eq_zero_iff]
  rcases a with a | a <;> rcases b with b | b <;> simp [Int.xor, hnat]

/-- Both adjustments of a truncated quotient stay in the range. -/
theorem wrapInt256_tdiv {a b : ℤ} (ha : InInt256 a) (hb : b ≠ 0) (hmod : a.tmod b ≠ 0) :
    wrapInt256 (a.tdiv b + 1) = a.tdiv b + 1 ∧ wrapInt256 (a.tdiv b - 1) = a.tdiv b - 1 :=
  ⟨wrapInt256_of_inInt256 (inInt256_tdiv_add_one ha hb hmod),
    wrapInt256_of_inInt256 (inInt256_tdiv_sub_one ha hb hmod)⟩

/-- The adjustment by the sign of the exclusive or. -/
theorem adjusted_eq_awayFromZero {a b : ℤ} (ha : InInt256 a) (hb : b ≠ 0) :
    (if a.tmod b ≠ 0 then
      if 0 < a.xor b then pure (wrapInt256 (a.tdiv b + 1)) else pure (wrapInt256 (a.tdiv b - 1))
    else pure (a.tdiv b) : Outcome ℤ) = .ok (awayFromZero (a / b)) := by
  rw [awayFromZero_div hb]
  by_cases hmod : a.tmod b = 0
  · rw [if_neg (not_not.mpr hmod), if_neg (not_not.mpr hmod)]
    rfl
  · have hne : a ≠ b := by
      rintro rfl
      exact hmod Int.tmod_self
    obtain ⟨hadd, hsub⟩ := wrapInt256_tdiv ha hb hmod
    rw [if_pos hmod, if_pos hmod, hadd, hsub]
    by_cases hsigns : 0 ≤ a ↔ 0 ≤ b
    · rw [if_pos (xor_pos_iff.mpr ⟨hne, hsigns⟩), if_pos hsigns]
      rfl
    · rw [if_neg (fun hxor ↦ hsigns (xor_pos_iff.mp hxor).2), if_neg hsigns]
      rfl

/-- The least number is no multiple of the unit. -/
theorem mul_preciseUnitInt_ne_minInt256 (a : ℤ) : a * preciseUnitInt ≠ minInt256 := by
  unfold preciseUnitInt minInt256
  omega

theorem preciseDivCeilInt_eq_awayFromZero {a b c : ℤ} :
    preciseDivCeilInt a b = .ok c ↔ b ≠ 0 ∧ InInt256 (a * preciseUnitInt) ∧
      c = awayFromZero ((a * preciseUnitInt : ℤ) / b) := by
  simp only [preciseDivCeilInt, Outcome.bind_eq_ok, Outcome.require_eq_ok, SignedSafeMath.mul_eq_ok,
    SignedSafeMath.div_eq_ok]
  constructor
  · rintro ⟨-, hb, _, ⟨hfits, rfl⟩, _, ⟨-, -, rfl⟩, h⟩
    rw [adjusted_eq_awayFromZero hfits hb] at h
    exact ⟨hb, hfits, (Except.ok.inj h).symm⟩
  · rintro ⟨hb, hfits, rfl⟩
    refine ⟨(), hb, _, ⟨hfits, rfl⟩, _, ⟨hb, ?_, rfl⟩, adjusted_eq_awayFromZero hfits hb⟩
    exact fun hmin ↦ mul_preciseUnitInt_ne_minInt256 a hmin.2

/-- Positive numbers are divided with the quotient rounded up. -/
theorem preciseDivCeilInt_eq_of_ok {a b c : ℤ} (ha : 0 < a) (hb : 0 ≤ b)
    (h : preciseDivCeilInt a b = .ok c) :
    0 < b ∧ c = (a * preciseUnitInt + b - 1) / b := by
  obtain ⟨hne, -, rfl⟩ := preciseDivCeilInt_eq_awayFromZero.mp h
  have hpos : 0 < b := lt_of_le_of_ne hb hne.symm
  have hproduct : 0 ≤ a * preciseUnitInt := (mul_pos ha preciseUnitInt_pos).le
  have hsigns : 0 ≤ a * preciseUnitInt ↔ 0 ≤ b := iff_of_true hproduct hb
  refine ⟨hpos, ?_⟩
  rw [awayFromZero_div hne, if_pos hsigns, ediv_ceil hpos, Int.tmod_eq_emod_of_nonneg hproduct,
    Int.tdiv_eq_ediv_of_nonneg hproduct, ite_not]

end SetProtocol.PreciseUnitMath
