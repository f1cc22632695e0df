import Mathlib.Algebra.Order.Ring.Int
import SetProtocol.Foundation.Outcome

/-!
# Checked 256-bit arithmetic

A `uint256` is a natural number and an `int256` an integer; the OpenZeppelin libraries
`SafeMath`, `SignedSafeMath` and `SafeCast` revert exactly when the mathematical result does not
fit.  Each operation comes with the condition under which it returns and the value it returns, so
that later proofs compute over `ℕ` and `ℤ`.
-/

namespace SetProtocol

/-- `type(uint256).max`. -/
def maxUint256 : ℕ := 2 ^ 256 - 1

/-- `type(int256).max`. -/
def maxInt256 : ℤ := 2 ^ 255 - 1

/-- `type(int256).min`. -/
def minInt256 : ℤ := -2 ^ 255

/-- The integers an `int256` holds. -/
def InInt256 (a : ℤ) : Prop := minInt256 ≤ a ∧ a ≤ maxInt256

instance : DecidablePred InInt256 := fun _ ↦ inferInstanceAs (Decidable (_ ∧ _))

/-- Two's complement reduction: the value of an unchecked `int256` operation whose exact result
is `a`. -/
def wrapInt256 (a : ℤ) : ℤ := (a + 2 ^ 255) % 2 ^ 256 - 2 ^ 255

theorem wrapInt256_of_inInt256 {a : ℤ} (h : InInt256 a) : wrapInt256 a = a := by
  have hlow : (0 : ℤ) ≤ a + 2 ^ 255 := by
    have := h.1
    unfold minInt256 at this
    omega
  have hhigh : a + 2 ^ 255 < 2 ^ 256 := by
    have := h.2
    unfold maxInt256 at this
    omega
  unfold wrapInt256
  rw [Int.emod_eq_of_lt hlow hhigh, add_sub_cancel_right]

/-- Unchecked negation of an `int256`: the least value is its own negation. -/
def negInt256 (a : ℤ) : ℤ := if a = minInt256 then a else -a

namespace SafeMath

def add (a b : ℕ) : Outcome ℕ :=
  if a + b ≤ maxUint256 then .ok (a + b) else .error "SafeMath: addition overflow"

def sub (a b : ℕ) : Outcome ℕ :=
  if b ≤ a then .ok (a - b) else .error "SafeMath: subtraction overflow"

def mul (a b : ℕ) : Outcome ℕ :=
  if a * b ≤ maxUint256 then .ok (a * b) else .error "SafeMath: multiplication overflow"

def div (a b : ℕ) : Outcome ℕ :=
  if 0 < b then .ok (a / b) else .error "SafeMath: division by zero"

@[simp] theorem add_eq_ok {a b c : ℕ} : add a b = .ok c ↔ a + b ≤ maxUint256 ∧ c = a + b := by
  unfold add
  split <;> simp_all [eq_comm]

@[simp] theorem sub_eq_ok {a b c : ℕ} : sub a b = .ok c ↔ b ≤ a ∧ c = a - b := by
  unfold sub
  split <;> simp_all [eq_comm]

@[simp] theorem mul_eq_ok {a b c : ℕ} : mul a b = .ok c ↔ a * b ≤ maxUint256 ∧ c = a * b := by
  unfold mul
  split <;> simp_all [eq_comm]

@[simp] theorem div_eq_ok {a b c : ℕ} : div a b = .ok c ↔ 0 < b ∧ c = a / b := by
  unfold div
  split <;> simp_all [eq_comm]

/-- The reasons of the operations whose result does not fit. -/
def Overflow (reason : String) : Prop :=
  reason = "SafeMath: addition overflow" ∨ reason = "SafeMath: multiplication overflow"

theorem add_ensures (a b : ℕ) : Outcome.Ensures Overflow (· = a + b) (add a b) := by
  unfold add
  split
  · exact .ok rfl
  · exact .error (Or.inl rfl)

theorem mul_ensures (a b : ℕ) : Outcome.Ensures Overflow (· = a * b) (mul a b) := by
  unfold mul
  split
  · exact .ok rfl
  · exact .error (Or.inr rfl)

theorem sub_ensures {a b : ℕ} (h : b ≤ a) : Outcome.Ensures Overflow (· = a - b) (sub a b) := by
  rw [sub, if_pos h]
  exact .ok rfl

theorem div_ensures (a : ℕ) {b : ℕ} (h : 0 < b) :
    Outcome.Ensures Overflow (· = a / b) (div a b) := by
  rw [div, if_pos h]
  exact .ok rfl

end SafeMath

namespace SignedSafeMath

def add (a b : ℤ) : Outcome ℤ :=
  if InInt256 (a + b) then .ok (a + b) else .error "SignedSafeMath: addition overflow"

def sub (a b : ℤ) : Outcome ℤ :=
  if InInt256 (a - b) then .ok (a - b) else .error "SignedSafeMath: subtraction overflow"

def mul (a b : ℤ) : Outcome ℤ :=
  if InInt256 (a * b) then .ok (a * b) else .error "SignedSafeMath: multiplication overflow"

/-- Division of `int256` truncates toward zero. -/
def div (a b : ℤ) : Outcome ℤ :=
  if b = 0 then .error "SignedSafeMath: division by zero"
  else if b = -1 ∧ a = minInt256 then .error "SignedSafeMath: division overflow"
  else .ok (a.tdiv b)

@[simp] theorem add_eq_ok {a b c : ℤ} : add a b = .ok c ↔ InInt256 (a + b) ∧ c = a + b := by
  unfold add
  split <;> simp_all [eq_comm]

@[simp] theorem sub_eq_ok {a b c : ℤ} : sub a b = .ok c ↔ InInt256 (a - b) ∧ c = a - b := by
  unfold sub
  split <;> simp_all [eq_comm]

@[simp] theorem mul_eq_ok {a b c : ℤ} : mul a b = .ok c ↔ InInt256 (a * b) ∧ c = a * b := by
  unfold mul
  split <;> simp_all [eq_comm]

@[simp] theorem div_eq_ok {a b c : ℤ} :
    div a b = .ok c ↔ b ≠ 0 ∧ ¬ (b = -1 ∧ a = minInt256) ∧ c = a.tdiv b := by
  unfold div
  split
  · simp_all
  · split <;> simp_all [eq_comm]

end SignedSafeMath

namespace SafeCast

def toUint256 (a : ℤ) : Outcome ℕ :=
  if 0 ≤ a then .ok a.toNat else .error "SafeCast: value must be positive"

def toInt256 (a : ℕ) : Outcome ℤ :=
  if a < 2 ^ 255 then .ok (a : ℤ) else .error "SafeCast: value doesn't fit in an int256"

@[simp] theorem toUint256_eq_ok {a : ℤ} {b : ℕ} : toUint256 a = .ok b ↔ a = (b : ℤ) := by
  unfold toUint256
  split
  · simp only [Except.ok.injEq]
    omega
  · simp only [reduceCtorEq, false_iff]
    omega

@[simp] theorem toInt256_eq_ok {a : ℕ} {b : ℤ} :
    toInt256 a = .ok b ↔ a < 2 ^ 255 ∧ b = (a : ℤ) := by
  unfold toInt256
  split <;> simp_all [eq_comm]

end SafeCast

end SetProtocol
