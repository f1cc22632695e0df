import Mathlib.Data.List.Nodup
import Mathlib.Data.List.Perm.Basic

/-!
# Removing an element by moving the last one into its place

An unordered array drops an element in constant time by overwriting it with the last element and
shortening the array.  The order changes, but as a collection the result is the array with one
occurrence erased.
-/

namespace SetProtocol.SwapRemove

variable {α : Type} [DecidableEq α]

/-- Overwrite the first occurrence of `a` by the last element and drop the last slot. -/
def swapRemove (A : List α) (a : α) : List α :=
  match A.getLast? with
  | none => []
  | some last => (A.set (A.idxOf a) last).dropLast

@[simp] theorem swapRemove_singleton (a : α) : swapRemove [a] a = [] := by
  simp [swapRemove]

theorem swapRemove_concat_of_mem {A : List α} {a last : α} (h : a ∈ A) :
    swapRemove (A ++ [last]) a = A.set (A.idxOf a) last := by
  have hlt : A.idxOf a < A.length := List.idxOf_lt_length_iff.mpr h
  have hidx : (A ++ [last]).idxOf a = A.idxOf a := List.idxOf_append_of_mem h
  simp only [swapRemove, List.getLast?_append, List.getLast?_singleton, Option.some_or, hidx,
    List.set_append, if_pos hlt, List.dropLast_concat]

theorem swapRemove_concat_of_notMem {A : List α} {a last : α} (h : a ∉ A) :
    swapRemove (A ++ [last]) a = A := by
  have hidx : (A ++ [last]).idxOf a = A.length + [last].idxOf a := List.idxOf_append_of_notMem h
  have hge : ¬ A.length + [last].idxOf a < A.length := by omega
  simp only [swapRemove, List.getLast?_append, List.getLast?_singleton, Option.some_or, hidx,
    List.set_append, if_neg hge]
  have hset (i : ℕ) : ([last].set i last) = [last] := by cases i <;> rfl
  rw [hset, List.dropLast_concat]

/-- Overwriting an occurrence trades it for the new element. -/
theorem set_idxOf_perm {A : List α} {a b : α} (h : a ∈ A) :
    (A.set (A.idxOf a) b).Perm (b :: A.erase a) := by
  induction A with
  | nil => cases h
  | cons x A ih =>
    by_cases hx : x = a
    · subst hx
      simp
    · have ha : a ∈ A := by
        rcases List.mem_cons.mp h with rfl | h
        · exact absurd rfl hx
        · exact h
      rw [List.idxOf_cons_ne _ hx, List.set_cons_succ, List.erase_cons_tail (by simpa using hx)]
      exact ((ih ha).cons x).trans (List.Perm.swap b x _)

/-- As a collection, swap-and-pop erases one occurrence. -/
theorem swapRemove_perm {A : List α} {a : α} (h : a ∈ A) : (swapRemove A a).Perm (A.erase a) := by
  rcases List.eq_nil_or_concat A with rfl | ⟨init, last, rfl⟩
  · cases h
  · rw [List.concat_eq_append] at h ⊢
    by_cases ha : a ∈ init
    · rw [swapRemove_concat_of_mem ha, List.erase_append_left _ ha]
      exact (set_idxOf_perm ha).trans (List.perm_append_singleton last (init.erase a)).symm
    · have hlast : a = last := by simpa [ha] using h
      subst hlast
      rw [swapRemove_concat_of_notMem ha, List.erase_append_right _ ha]
      simp

theorem nodup_swapRemove {A : List α} {a : α} (h : a ∈ A) (hA : A.Nodup) :
    (swapRemove A a).Nodup :=
  (swapRemove_perm h).nodup_iff.mpr (hA.erase a)

theorem mem_swapRemove {A : List α} {a b : α} (h : a ∈ A) (hA : A.Nodup) :
    b ∈ swapRemove A a ↔ b ≠ a ∧ b ∈ A := by
  rw [(swapRemove_perm h).mem_iff, hA.mem_erase_iff]

theorem idxOf_map {β : Type} [DecidableEq β] {f : α → β} {A : List α} {a : α}
    (hf : ∀ b ∈ A, f b = f a → b = a) : (A.map f).idxOf (f a) = A.idxOf a := by
  induction A with
  | nil => rfl
  | cons x A ih =>
    by_cases hx : x = a
    · simp [hx]
    · have hfx : f x ≠ f a := mt (hf x List.mem_cons_self) hx
      rw [List.map_cons, List.idxOf_cons_ne _ hfx, List.idxOf_cons_ne _ hx,
        ih fun b hb ↦ hf b (List.mem_cons_of_mem x hb)]

/-- Parallel arrays stay parallel when corresponding elements are removed. -/
theorem swapRemove_map {β : Type} [DecidableEq β] {f : α → β} {A : List α} {a : α}
    (hf : ∀ b ∈ A, f b = f a → b = a) :
    swapRemove (A.map f) (f a) = (swapRemove A a).map f := by
  unfold swapRemove
  rw [idxOf_map hf, List.getLast?_map]
  cases A.getLast? with
  | none => rfl
  | some last => simp [List.map_set, List.map_dropLast]

theorem mem_of_mem_swapRemove {A : List α} {a b : α} (h : a ∈ A) (hb : b ∈ swapRemove A a) :
    b ∈ A :=
  List.mem_of_mem_erase ((swapRemove_perm h).mem_iff.mp hb)

end SetProtocol.SwapRemove
