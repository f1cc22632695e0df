import Mathlib.Algebra.Ring.Nat
import SetProtocol.Foundation.Outcome

/-!
# Arrays that are filled from the front

An array is allocated with a length that one traversal counts, and filled by another traversal that
shares one index among all its writes.  Slots start unset and a write behind the end reverts.  When every
pass of the second traversal emits as many entries as the first one counted for it, the array ends up
full, with the entries in the order of the passes.
-/

namespace SetProtocol

/-- The slots of the array, and the index of the next write. -/
structure Buffer (α : Type) where
  slots : List (Option α)
  index : ℕ
deriving DecidableEq

namespace Buffer

variable {α β : Type}

def allocate (length : ℕ) : Buffer α :=
  ⟨List.replicate length none, 0⟩

def push (buffer : Buffer α) (entry : α) : Outcome (Buffer α) := do
  require (buffer.index < buffer.slots.length) "index out of bounds"
  pure ⟨buffer.slots.set buffer.index (some entry), buffer.index + 1⟩

/-- The array after some entries were written, with room for some more. -/
def filled (entries : List α) (room : ℕ) : Buffer α :=
  ⟨entries.map some ++ List.replicate room none, entries.length⟩

theorem allocate_eq_filled (length : ℕ) : (allocate length : Buffer α) = filled [] length := rfl

theorem filled_slots_zero (entries : List α) : (filled entries 0).slots = entries.map some := by
  simp [filled]

theorem push_filled (entries : List α) (room : ℕ) (entry : α) :
    (filled entries (1 + room)).push entry = .ok (filled (entries ++ [entry]) room) := by
  have hinside : entries.length <
      (entries.map some).length + (List.replicate (1 + room) (none : Option α)).length := by
    rw [List.length_map, List.length_replicate]
    omega
  have hset : (entries.map some ++ List.replicate (1 + room) none).set entries.length (some entry) =
      (entries ++ [entry]).map some ++ List.replicate room none := by
    rw [List.set_append_right _ _ (by simp), Nat.add_comm, List.replicate_succ]
    simp
  simp only [push, filled, List.length_append, List.length_singleton]
  rw [hset, require, if_pos hinside]
  rfl

/-- A traversal whose passes emit entries fills the room that was counted for them. -/
theorem foldlM_filled {step : Buffer α → β → Outcome (Buffer α)} {emit : β → Outcome (List α)}
    {size : β → ℕ}
    (hstep : ∀ b entries room, step (filled entries (size b + room)) b =
      (emit b).map fun emitted ↦ filled (entries ++ emitted) room)
    (bs : List β) (entries : List α) (room : ℕ) :
    bs.foldlM step (filled entries ((bs.map size).sum + room)) =
      (bs.mapM emit).map fun emitted ↦ filled (entries ++ emitted.flatten) room := by
  induction bs generalizing entries with
  | nil => simp [pure, Except.pure, Except.map]
  | cons b bs ih =>
    rw [List.foldlM_cons, List.map_cons, List.sum_cons, Nat.add_assoc, hstep, List.mapM_cons]
    cases emit b with
    | error reason => rfl
    | ok emitted =>
      simp only [Except.map, Outcome.ok_bind]
      rw [ih]
      cases bs.mapM emit with
      | error reason => rfl
      | ok rest => simp [Except.map, pure, Except.pure]

/-- A traversal whose passes emit one entry each. -/
theorem foldlM_filled_one {step : Buffer α → β → Outcome (Buffer α)} {emit : β → Outcome α}
    (hstep : ∀ b entries room, step (filled entries (1 + room)) b =
      (emit b).map fun entry ↦ filled (entries ++ [entry]) room)
    (bs : List β) (entries : List α) (room : ℕ) :
    bs.foldlM step (filled entries (bs.length + room)) =
      (bs.mapM emit).map fun emitted ↦ filled (entries ++ emitted) room := by
  induction bs generalizing entries with
  | nil => simp [pure, Except.pure, Except.map]
  | cons b bs ih =>
    rw [List.foldlM_cons, List.length_cons, Nat.add_comm bs.length, Nat.add_assoc, hstep,
      List.mapM_cons]
    cases emit b with
    | error reason => rfl
    | ok entry =>
      simp only [Except.map, Outcome.ok_bind]
      rw [ih]
      cases bs.mapM emit with
      | error reason => rfl
      | ok rest => simp [Except.map, pure, Except.pure]

end Buffer

end SetProtocol
