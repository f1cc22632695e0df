import Mathlib.Algebra.BigOperators.Group.List.Basic
import Mathlib.Algebra.Order.BigOperators.Group.List
import Mathlib.Algebra.Ring.Nat
import SetProtocol.Foundation.Outcome

/-!
# Bills

A bill lists amounts, each of them due at a key.  A loop that goes through a bill changes what is kept at a
key by what is due there; the rules below add up what the passes of such a loop gain and lose.
-/

namespace SetProtocol

variable {α κ σ : Type}

namespace Outcome

variable {step : σ → α → Outcome σ} {Q : σ → Prop} {as : List α} {s s' : σ}

/-- What each pass gains at least, net of what it loses, the loop gains at least. -/
theorem foldlM_sum_le (f : σ → ℕ) (gain loss : α → ℕ)
    (hstep : ∀ s, ∀ a ∈ as, ∀ s', step s a = .ok s' → Q s →
      Q s' ∧ f s + gain a ≤ f s' + loss a)
    (h : as.foldlM step s = .ok s') (hs : Q s) :
    Q s' ∧ f s + (as.map gain).sum ≤ f s' + (as.map loss).sum := by
  induction as generalizing s with
  | nil =>
    obtain rfl := pure_eq_ok.mp h
    exact ⟨hs, le_rfl⟩
  | cons a as ih =>
    simp only [List.foldlM_cons, bind_eq_ok] at h
    obtain ⟨t, ht, hrest⟩ := h
    obtain ⟨hQt, hfirst⟩ := hstep s a List.mem_cons_self t ht hs
    obtain ⟨hQ, hlater⟩ := ih (fun s b hb ↦ hstep s b (List.mem_cons_of_mem a hb)) hrest hQt
    refine ⟨hQ, ?_⟩
    rw [List.map_cons, List.sum_cons, List.map_cons, List.sum_cons]
    omega

/-- What each pass gains exactly, net of what it loses, the loop gains exactly. -/
theorem foldlM_sum_eq (f : σ → ℕ) (gain loss : α → ℕ)
    (hstep : ∀ s, ∀ a ∈ as, ∀ s', step s a = .ok s' → Q s →
      Q s' ∧ f s + gain a = f s' + loss a)
    (h : as.foldlM step s = .ok s') (hs : Q s) :
    Q s' ∧ f s + (as.map gain).sum = f s' + (as.map loss).sum := by
  obtain ⟨hQ, hle⟩ := foldlM_sum_le f gain loss (fun s a ha s' hok hQs ↦
    ⟨(hstep s a ha s' hok hQs).1, (hstep s a ha s' hok hQs).2.le⟩) h hs
  refine ⟨hQ, hle.antisymm ?_⟩
  clear hle hQ
  induction as generalizing s with
  | nil =>
    obtain rfl := pure_eq_ok.mp h
    exact le_rfl
  | cons a as ih =>
    simp only [List.foldlM_cons, bind_eq_ok] at h
    obtain ⟨t, ht, hrest⟩ := h
    obtain ⟨hQt, hfirst⟩ := hstep s a List.mem_cons_self t ht hs
    have hlater := ih (fun s b hb ↦ hstep s b (List.mem_cons_of_mem a hb)) hrest hQt
    rw [List.map_cons, List.sum_cons, List.map_cons, List.sum_cons]
    omega

end Outcome

namespace Bill

variable [DecidableEq κ] {bill : List (κ × ℕ)} {k : κ}

/-- What an entry of a bill asks for at a key. -/
def entryAt (k : κ) (entry : κ × ℕ) : ℕ :=
  if entry.1 = k then entry.2 else 0

/-- What a bill asks for at a key. -/
def due (bill : List (κ × ℕ)) (k : κ) : ℕ :=
  (bill.map (entryAt k)).sum

/-- What is due at the position of a bill, if it has the position. -/
def dueAt (bill : List (κ × ℕ)) (k : κ) (i : ℕ) : ℕ :=
  (bill[i]?.map (entryAt k)).getD 0

theorem due_zipIdx : (bill.zipIdx.map fun entry ↦ entryAt k entry.1).sum = due bill k := by
  have hmap : bill.zipIdx.map (fun entry ↦ entryAt k entry.1) = bill.map (entryAt k) := by
    calc bill.zipIdx.map (fun entry ↦ entryAt k entry.1)
        = (bill.zipIdx.map Prod.fst).map (entryAt k) := by rw [List.map_map]; rfl
      _ = bill.map (entryAt k) := by rw [List.zipIdx_map_fst]
  rw [hmap, due]

/-- Visiting positions one after the other asks for no more than the whole bill. -/
theorem sum_dueAt_le (visits : List α) (bill : List (κ × ℕ)) (k : κ) (start : ℕ) :
    ((visits.zipIdx start).map fun visit ↦ dueAt bill k visit.2).sum ≤
      due (bill.drop start) k := by
  induction visits generalizing start with
  | nil => exact Nat.zero_le _
  | cons visit visits ih =>
    rw [List.zipIdx_cons, List.map_cons, List.sum_cons]
    by_cases hlt : start < bill.length
    · have hhead : dueAt bill k start = entryAt k bill[start] := by
        simp [dueAt, hlt]
      have htail : due (bill.drop start) k = entryAt k bill[start] + due (bill.drop (start + 1)) k := by
        rw [List.drop_eq_getElem_cons hlt, due, List.map_cons, List.sum_cons, due]
      rw [htail, hhead]
      exact Nat.add_le_add_left (ih (start + 1)) _
    · have hhead : dueAt bill k start = 0 := by
        simp [dueAt, hlt]
      have hdrop : bill.drop start = bill.drop (start + 1) := by
        rw [List.drop_eq_nil_of_le (by omega), List.drop_eq_nil_of_le (by omega)]
      rw [hhead, Nat.zero_add, hdrop]
      exact ih (start + 1)

end Bill

end SetProtocol
