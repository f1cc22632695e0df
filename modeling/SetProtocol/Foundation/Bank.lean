import Mathlib.Algebra.BigOperators.Group.Finset.Basic
import Mathlib.Algebra.BigOperators.Group.Finset.Piecewise
import Mathlib.Algebra.Order.BigOperators.Group.Finset
import Mathlib.Data.Finset.Insert

/-!
# Balances with a total

The balances of arbitrarily many accounts, all but finitely many of which are empty, together with the total
of what the accounts hold.  Depositing into an account, withdrawing from it and moving an amount between two
accounts keep the balances in step with the total, and no set of accounts ever holds more than the total.
-/

namespace SetProtocol

variable {α : Type}

/-- The accounts hold `total` together. -/
def Pooled (balances : α → ℕ) (total : ℕ) : Prop :=
  ∃ holders : Finset α, (∀ a ∉ holders, balances a = 0) ∧ ∑ a ∈ holders, balances a = total

namespace Pooled

variable {balances balances' : α → ℕ} {total amount : ℕ} {a b : α}

theorem empty : Pooled (fun _ : α ↦ 0) 0 :=
  ⟨∅, fun _ _ ↦ rfl, rfl⟩

/-- Any accounts together hold at most the total. -/
theorem sum_le (h : Pooled balances total) (accounts : Finset α) :
    ∑ a ∈ accounts, balances a ≤ total := by
  classical
  obtain ⟨holders, hempty, rfl⟩ := h
  calc ∑ a ∈ accounts, balances a = ∑ a ∈ accounts ∩ holders, balances a := by
        apply (Finset.sum_subset Finset.inter_subset_left ?_).symm
        intro a ha hnot
        exact hempty a fun hholder ↦ hnot (Finset.mem_inter.mpr ⟨ha, hholder⟩)
    _ ≤ ∑ a ∈ holders, balances a := Finset.sum_le_sum_of_subset Finset.inter_subset_right

theorem le (h : Pooled balances total) (a : α) : balances a ≤ total := by
  simpa using h.sum_le {a}

theorem add_le (h : Pooled balances total) (hne : a ≠ b) : balances a + balances b ≤ total := by
  classical
  rw [← Finset.sum_pair hne]
  exact h.sum_le {a, b}

/-- One account is overwritten. -/
theorem overwrite (h : Pooled balances total) (hother : ∀ b, b ≠ a → balances' b = balances b) :
    Pooled balances' (total - balances a + balances' a) := by
  classical
  have hle : balances a ≤ total := h.le a
  obtain ⟨holders, hempty, hsum⟩ := h
  refine ⟨insert a holders, ?_, ?_⟩
  · intro b hb
    rw [Finset.mem_insert, not_or] at hb
    rw [hother b hb.1, hempty b hb.2]
  · have hrest : ∑ b ∈ holders.erase a, balances' b = ∑ b ∈ holders.erase a, balances b :=
      Finset.sum_congr rfl fun b hb ↦ hother b (Finset.ne_of_mem_erase hb)
    have hold : balances a + ∑ b ∈ holders.erase a, balances b = total := by
      by_cases ha : a ∈ holders
      · rw [Finset.add_sum_erase _ _ ha, hsum]
      · rw [Finset.erase_eq_of_notMem ha, hempty a ha, hsum, Nat.zero_add]
    rw [← Finset.add_sum_erase _ _ (Finset.mem_insert_self a holders), Finset.erase_insert_eq_erase,
      hrest]
    omega

theorem deposit (h : Pooled balances total) (hself : balances' a = balances a + amount)
    (hother : ∀ b, b ≠ a → balances' b = balances b) : Pooled balances' (total + amount) := by
  have hle : balances a ≤ total := h.le a
  have hnew := h.overwrite hother
  rwa [hself, show total - balances a + (balances a + amount) = total + amount by omega] at hnew

theorem withdraw (h : Pooled balances total) (hamount : amount ≤ balances a)
    (hself : balances' a = balances a - amount) (hother : ∀ b, b ≠ a → balances' b = balances b) :
    Pooled balances' (total - amount) := by
  have hle : balances a ≤ total := h.le a
  have hnew := h.overwrite hother
  rwa [hself, show total - balances a + (balances a - amount) = total - amount by omega] at hnew

/-- An amount moves from one account to another. -/
theorem move (h : Pooled balances total) (hne : a ≠ b) (hamount : amount ≤ balances a)
    (hsender : balances' a = balances a - amount) (hrecipient : balances' b = balances b + amount)
    (hother : ∀ c, c ≠ a → c ≠ b → balances' c = balances c) : Pooled balances' total := by
  classical
  have hle : balances a ≤ total := h.le a
  have htaken : Pooled (Function.update balances a (balances a - amount)) (total - amount) :=
    h.withdraw hamount (Function.update_self ..) fun c hc ↦ Function.update_of_ne hc ..
  have hgiven : Pooled balances' (total - amount + amount) := by
    refine htaken.deposit (a := b) ?_ ?_
    · rw [Function.update_of_ne hne.symm, hrecipient]
    · intro c hc
      by_cases hca : c = a
      · rw [hca, Function.update_self, hsender]
      · rw [Function.update_of_ne hca, hother c hca hc]
  rwa [Nat.sub_add_cancel (hamount.trans hle)] at hgiven

end Pooled

end SetProtocol
