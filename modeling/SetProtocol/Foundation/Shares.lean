import Mathlib.Algebra.BigOperators.Group.Finset.Basic
import Mathlib.Algebra.BigOperators.Group.Finset.Piecewise
import Mathlib.Algebra.BigOperators.Ring.Finset
import Mathlib.Algebra.Order.BigOperators.Group.Finset
import Mathlib.Data.Fintype.Defs

/-!
# Paying out in proportion to shares

An amount is split among the holders of shares, each of whom is paid the portion of the own share,
rounded down.  Whoever has been paid and whoever has not, the payments never exceed the amount.
-/

namespace SetProtocol.Shares

variable {α : Type} [Fintype α] {shares paid : α → ℕ} {amount total : ℕ}

/-- What falls to a share, rounded down. -/
def portion (amount total share : ℕ) : ℕ := share * amount / total

@[simp] theorem portion_zero : portion amount total 0 = 0 := by
  simp [portion]

theorem sum_portion_le (h : ∑ a, shares a = total) :
    ∑ a, portion amount total (shares a) ≤ amount := by
  rcases Nat.eq_zero_or_pos total with rfl | hpos
  · simp [portion]
  · apply Nat.le_of_mul_le_mul_right ?_ hpos
    calc
      (∑ a, portion amount total (shares a)) * total =
          ∑ a, portion amount total (shares a) * total := Finset.sum_mul ..
      _ ≤ ∑ a, shares a * amount := Finset.sum_le_sum fun a _ ↦ Nat.div_mul_le_self _ _
      _ = total * amount := by rw [← Finset.sum_mul, h]
      _ = amount * total := Nat.mul_comm _ _

/-- Some of the holders have been paid. -/
theorem sum_paid_le (h : ∑ a, shares a = total)
    (hpaid : ∀ a, paid a = 0 ∨ paid a = portion amount total (shares a)) :
    ∑ a, paid a ≤ amount := by
  apply le_trans (Finset.sum_le_sum fun a _ ↦ ?_) (sum_portion_le h)
  rcases hpaid a with hnone | hportion
  · rw [hnone]
    exact Nat.zero_le _
  · exact hportion.le

/-- Overwriting an entry exchanges the old amount for the new one. -/
theorem sum_update [DecidableEq α] (shares : α → ℕ) (a : α) (share : ℕ) :
    ∑ b, Function.update shares a share b + shares a = ∑ b, shares b + share := by
  rw [Finset.sum_update_of_mem (Finset.mem_univ a),
    ← Finset.add_sum_erase Finset.univ shares (Finset.mem_univ a), Finset.sdiff_singleton_eq_erase]
  omega

end SetProtocol.Shares
