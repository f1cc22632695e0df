import SetProtocol.Foundation.Outcome

/-!
# Runs with their states

A run of a transition function, together with the states in which its actions are performed.  The rule
`forall_iff` is for a property that an action keeps exactly under a condition on the state before it:
over a whole run, the property holds in every state exactly when every action meets its condition.
-/

namespace SetProtocol

variable {σ α : Type} {step : σ → α → Outcome σ}

/-- The actions of the trace lead from the first state to the last one. -/
inductive Trace (step : σ → α → Outcome σ) : σ → List (σ × α) → σ → Prop where
  | nil (s : σ) : Trace step s [] s
  | cons {s t s' : σ} {a : α} {trace : List (σ × α)} (hstep : step s a = .ok t)
      (hrun : Trace step t trace s') : Trace step s ((s, a) :: trace) s'

namespace Trace

variable {s s' : σ} {trace : List (σ × α)} {P I : σ → Prop} {Q : σ → α → Prop}

/-- `I` is what an action needs, `P` the property and `Q` the condition on the actions. -/
theorem forall_iff (h : Trace step s trace s') (hP : ∀ s, I s → P s)
    (hiff : ∀ s a s', step s a = .ok s' → I s → (P s' ↔ Q s a))
    (hkeeps : ∀ s a s', step s a = .ok s' → I s → Q s a → I s') (hs : I s) :
    ((∀ entry ∈ trace, P entry.1) ∧ P s') ↔ ∀ entry ∈ trace, Q entry.1 entry.2 := by
  induction h with
  | nil s => simp [hP s hs]
  | @cons s t s' a trace hstep hrun ih =>
    have hnext := hiff s a t hstep hs
    simp only [List.forall_mem_cons]
    constructor
    · rintro ⟨⟨-, htrace⟩, hlast⟩
      -- the state after the first action is the first of the trace, or the last of the run
      have ht : P t := by
        cases hrun with
        | nil => exact hlast
        | cons => exact htrace _ List.mem_cons_self
      have hQ := hnext.mp ht
      exact ⟨hQ, (ih (hkeeps s a t hstep hs hQ)).mp ⟨htrace, hlast⟩⟩
    · rintro ⟨hQ, htrace⟩
      obtain ⟨hstates, hlast⟩ := (ih (hkeeps s a t hstep hs hQ)).mpr htrace
      exact ⟨⟨hP s hs, hstates⟩, hlast⟩

/-- Every action of a run is performed in the state that is recorded with it. -/
theorem performs (h : Trace step s trace s') : ∀ entry ∈ trace, ∃ t, step entry.1 entry.2 = .ok t := by
  induction h with
  | nil s => simp
  | @cons s t s' a trace hstep hrun ih =>
    simp only [List.forall_mem_cons]
    exact ⟨⟨t, hstep⟩, ih⟩

/-- A loop is a run whose actions are the elements of the list. -/
theorem of_foldlM {as : List α} (h : as.foldlM step s = .ok s') :
    ∃ trace, Trace step s trace s' ∧ trace.map Prod.snd = as := by
  induction as generalizing s with
  | nil =>
    obtain rfl := Outcome.pure_eq_ok.mp h
    exact ⟨[], .nil s, rfl⟩
  | cons a as ih =>
    simp only [List.foldlM_cons, Outcome.bind_eq_ok] at h
    obtain ⟨t, hstep, hrest⟩ := h
    obtain ⟨trace, hrun, hactions⟩ := ih hrest
    refine ⟨(s, a) :: trace, .cons hstep hrun, ?_⟩
    rw [List.map_cons, hactions]

/-- What every action keeps holds in every state of a run. -/
theorem invariant (h : Trace step s trace s') (hstep : ∀ s a s', step s a = .ok s' → I s → I s')
    (hs : I s) : (∀ entry ∈ trace, I entry.1) ∧ I s' := by
  apply (h.forall_iff (P := I) (I := I) (Q := fun _ _ ↦ True) (fun _ hI ↦ hI) ?_ ?_ hs).mpr
  · intro _ _
    trivial
  · intro s a s' hok hI
    exact iff_of_true (hstep s a s' hok hI) trivial
  · intro s a s' hok hI _
    exact hstep s a s' hok hI

end Trace

end SetProtocol
