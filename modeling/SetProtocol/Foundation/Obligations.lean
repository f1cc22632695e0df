import Mathlib.Data.Set.Basic
import SetProtocol.Foundation.Outcome

/-!
# Obligations that stay open for a while

A state has a property for each index, and in the middle of an operation some of them may fail.  A set of
indices is pending; the property holds outside of it.  A step makes the indices pending that it touches, and
settles an index when it establishes the property there and breaks it nowhere else.  An operation that
settles all it has touched ends as it began, in whatever order the indices are settled and also when some of
them coincide.
-/

namespace SetProtocol

variable {σ α ι : Type} {P : σ → ι → Prop} {s s' : σ} {pending touched : Set ι} {i : ι}

/-- The property holds of every index that is not pending. -/
def Settled (P : σ → ι → Prop) (s : σ) (pending : Set ι) : Prop :=
  ∀ i, i ∉ pending → P s i

namespace Settled

theorem empty_iff : Settled P s ∅ ↔ ∀ i, P s i := by
  simp [Settled]

theorem mono (h : Settled P s pending) (hsub : pending ⊆ touched) : Settled P s touched :=
  fun i hi ↦ h i fun hpending ↦ hi (hsub hpending)

/-- What a step touches becomes pending. -/
theorem touch (h : Settled P s pending) (hframe : ∀ i, i ∉ touched → P s i → P s' i) :
    Settled P s' (pending ∪ touched) := by
  intro i hi
  rw [Set.mem_union, not_or] at hi
  exact hframe i hi.2 (h i hi.1)

/-- An index at which the property is established is pending no longer. -/
theorem settle (h : Settled P s pending) (hown : P s' i)
    (hframe : ∀ j, j ≠ i → P s j → P s' j) : Settled P s' (pending \ {i}) := by
  intro j hj
  by_cases hji : j = i
  · exact hji ▸ hown
  · exact hframe j hji (h j fun hpending ↦ hj ⟨hpending, hji⟩)

/-- A loop settles the index of each of its elements.  An invariant of the loop may be used. -/
theorem foldlM {step : σ → α → Outcome σ} {I : σ → Prop} {key : α → ι} {as : List α}
    (hstep : ∀ s a s', a ∈ as → step s a = .ok s' → I s →
      I s' ∧ P s' (key a) ∧ ∀ j, j ≠ key a → P s j → P s' j)
    (h : as.foldlM step s = .ok s') (hI : I s) (hsettled : Settled P s pending) :
    I s' ∧ Settled P s' (pending \ {i | i ∈ as.map key}) := by
  induction as generalizing s pending with
  | nil =>
    obtain rfl := Outcome.pure_eq_ok.mp h
    exact ⟨hI, hsettled.mono fun i hi ↦ ⟨hi, by simp⟩⟩
  | cons a as ih =>
    simp only [List.foldlM_cons, Outcome.bind_eq_ok] at h
    obtain ⟨t, ht, hrest⟩ := h
    obtain ⟨hIt, hown, hframe⟩ := hstep s a t List.mem_cons_self ht hI
    obtain ⟨hI', hsettled'⟩ := ih (fun s b s' hb ↦ hstep s b s' (List.mem_cons_of_mem a hb)) hrest hIt
      (hsettled.settle hown hframe)
    refine ⟨hI', hsettled'.mono ?_⟩
    rintro i ⟨⟨hpending, hne⟩, hrest⟩
    refine ⟨hpending, ?_⟩
    rw [Set.mem_ofPred_eq, List.map_cons, List.mem_cons, not_or]
    exact ⟨hne, hrest⟩

end Settled

end SetProtocol
