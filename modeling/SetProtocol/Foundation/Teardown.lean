import SetProtocol.Foundation.Registry

/-!
# Taking a register down

A register is a list with a flag for each of its elements.  It is taken down in one loop over the
indices of the list, which reads the element at the index, clears its flag and overwrites the element
by zero.  Overwriting keeps the length, so the loop reaches every element, and it reads each of them
before it is overwritten.
-/

namespace SetProtocol.Teardown

variable {α : Type} [DecidableEq α] {zero : α} {A : List α} {flags : α → Bool}

/-- One pass of the loop. -/
def clearEntry (zero : α) (register : List α × (α → Bool)) (i : ℕ) : List α × (α → Bool) :=
  (register.1.set i zero, Function.update register.2 (register.1.getD i zero) false)

/-- The whole loop. -/
def clearEntries (zero : α) (A : List α) (flags : α → Bool) : List α × (α → Bool) :=
  (List.range A.length).foldl (clearEntry zero) (A, flags)

/-- After `n` passes the first `n` elements are zero and their flags are cleared. -/
theorem foldl_clearEntry {n : ℕ} (hn : n ≤ A.length) :
    (List.range n).foldl (clearEntry zero) (A, flags) =
      (List.replicate n zero ++ A.drop n, fun a ↦ flags a && !decide (a ∈ A.take n)) := by
  induction n with
  | zero => simp
  | succ n ih =>
    have hlt : n < A.length := hn
    have hentry : (List.replicate n zero ++ A.drop n).getD n zero = A[n] := by
      rw [List.getD_eq_getElem?_getD, List.getElem?_append_right (by simp)]
      simp [hlt]
    rw [List.range_succ, List.foldl_append, ih (Nat.le_of_lt hlt), List.foldl_cons, List.foldl_nil,
      clearEntry, hentry]
    apply Prod.ext
    · dsimp only
      rw [List.drop_eq_getElem_cons hlt, List.set_append_right _ _ (by simp), List.length_replicate,
        Nat.sub_self, List.set_cons_zero, List.replicate_succ', List.append_assoc,
        List.singleton_append]
    · funext a
      dsimp only
      have htake : a ∈ A.take (n + 1) ↔ a ∈ A.take n ∨ a = A[n] := by
        rw [List.take_add_one, List.getElem?_eq_getElem hlt, Option.toList_some, List.mem_append,
          List.mem_singleton]
      by_cases ha : a = A[n]
      · rw [ha, Function.update_self, decide_eq_true (ha ▸ htake.mpr (Or.inr ha)), Bool.not_true,
          Bool.and_false]
      · simp only [Function.update_of_ne ha, htake, ha, or_false]

/-- If the list enumerates the flags, the loop clears all of them. -/
theorem clearEntries_flags (h : Lists A (flags · = true)) (a : α) :
    (clearEntries zero A flags).2 a = false := by
  unfold clearEntries
  rw [foldl_clearEntry (Nat.le_refl _), List.take_length]
  by_cases ha : flags a = true
  · simp [(h.mem_iff a).mpr ha]
  · simp [ha]

end SetProtocol.Teardown
