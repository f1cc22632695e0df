import Mathlib.Data.List.Nodup
import Mathlib.Logic.Function.Basic
import SetProtocol.Foundation.SwapRemove

/-!
# Lists that enumerate a predicate

Contracts store a set of keys twice: as a list, to iterate over it, and as a mapping, to answer
membership queries.  `Lists A p` says that the list `A` enumerates the keys with property `p`, each
of them once.
-/

namespace SetProtocol

variable {α : Type} {A : List α} {p q : α → Prop} {a : α}

/-- The list holds exactly the elements with property `p`, without repetition. -/
structure Lists (A : List α) (p : α → Prop) : Prop where
  nodup : A.Nodup
  mem_iff : ∀ a, a ∈ A ↔ p a

namespace Lists

theorem nil (h : ∀ a, ¬ p a) : Lists [] p :=
  ⟨List.nodup_nil, fun a ↦ by simp [h a]⟩

theorem congr (h : Lists A p) (hpq : ∀ a, q a ↔ p a) : Lists A q :=
  ⟨h.nodup, fun a ↦ (h.mem_iff a).trans (hpq a).symm⟩

/-- Appending a new element. -/
theorem concat (h : Lists A p) (ha : ¬ p a) (hq : ∀ b, q b ↔ b = a ∨ p b) :
    Lists (A ++ [a]) q := by
  constructor
  · have hnot : a ∉ A := mt (h.mem_iff a).mp ha
    rw [List.nodup_append_comm]
    exact List.nodup_cons.mpr ⟨hnot, h.nodup⟩
  · intro b
    rw [hq, List.mem_append, h.mem_iff, List.mem_singleton, or_comm]

variable [DecidableEq α]

theorem erase (h : Lists A p) (hq : ∀ b, q b ↔ b ≠ a ∧ p b) : Lists (A.erase a) q := by
  refine ⟨h.nodup.erase a, ?_⟩
  intro b
  rw [h.nodup.mem_erase_iff, hq, h.mem_iff]

/-- Removing an element by swap and pop. -/
theorem swapRemove (h : Lists A p) (ha : p a) (hq : ∀ b, q b ↔ b ≠ a ∧ p b) :
    Lists (SwapRemove.swapRemove A a) q := by
  have hmem : a ∈ A := (h.mem_iff a).mpr ha
  refine ⟨SwapRemove.nodup_swapRemove hmem h.nodup, ?_⟩
  intro b
  rw [SwapRemove.mem_swapRemove hmem h.nodup, hq, h.mem_iff]

end Lists

end SetProtocol
