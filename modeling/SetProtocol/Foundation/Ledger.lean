import Mathlib.Algebra.BigOperators.Group.List.Basic
import Mathlib.Algebra.Order.BigOperators.Group.List
import Mathlib.Algebra.Ring.Nat
import Mathlib.Data.Nat.Basic

/-!
# Ledgers

A ledger keeps an amount for each key and a list of the keys that are in use.  Its total is the sum
over the listed keys.  The lemmas say what the total becomes when one entry is overwritten, when a key
is appended and when a key is dropped, and that dividing the entries one by one loses against dividing
the total.
-/

namespace SetProtocol

namespace Ledger

variable {α : Type} {keys : List α} {amounts : α → ℕ} {k : α} {amount : ℕ}

/-- The sum of the amounts of the listed keys. -/
def total (keys : List α) (amounts : α → ℕ) : ℕ :=
  (keys.map amounts).sum

@[simp] theorem total_nil : total [] amounts = 0 := rfl

theorem total_cons {key : α} : total (key :: keys) amounts = amounts key + total keys amounts := by
  simp [total]

theorem total_concat : total (keys ++ [k]) amounts = total keys amounts + amounts k := by
  simp [total]

theorem total_congr {other : α → ℕ} (h : ∀ key ∈ keys, other key = amounts key) :
    total keys other = total keys amounts := by
  unfold total
  rw [List.map_congr_left h]

/-- Rounding every entry down loses against rounding the total down. -/
theorem total_div_le (keys : List α) (amounts : α → ℕ) (quantity unit : ℕ) :
    total keys (fun key ↦ quantity * amounts key / unit) ≤
      quantity * total keys amounts / unit := by
  induction keys with
  | nil => simp
  | cons key keys ih =>
    rw [total_cons, total_cons, Nat.mul_add]
    calc
      _ ≤ quantity * amounts key / unit + quantity * total keys amounts / unit :=
        Nat.add_le_add_left ih _
      _ ≤ _ := Nat.div_add_div_le_add_div

variable [DecidableEq α]

theorem total_erase (amounts : α → ℕ) (h : k ∈ keys) :
    amounts k + total (keys.erase k) amounts = total keys amounts :=
  List.sum_map_erase amounts h

theorem total_update_of_notMem (h : k ∉ keys) :
    total keys (Function.update amounts k amount) = total keys amounts := by
  apply total_congr
  intro key hkey
  exact Function.update_of_ne (ne_of_mem_of_not_mem hkey h) _ _

/-- Overwriting an entry that is listed once exchanges the old amount for the new one. -/
theorem total_update (amounts : α → ℕ) (amount : ℕ) (hnodup : keys.Nodup) (h : k ∈ keys) :
    amounts k + total keys (Function.update amounts k amount) = total keys amounts + amount := by
  have hnot : k ∉ keys.erase k := hnodup.not_mem_erase
  rw [← total_erase _ h, ← total_erase amounts h, Function.update_self,
    total_update_of_notMem hnot]
  omega

end Ledger

end SetProtocol
