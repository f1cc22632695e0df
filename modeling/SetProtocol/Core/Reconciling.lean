import SetProtocol.Core.Swap
import SetProtocol.Foundation.Obligations

/-!
# Operations that lower balances and reconcile units

Modules that trade, wrap, provide liquidity or redeem share one plan: some tokens are touched by calls out of
the protocol, and the unit of each of them is then computed again from the balance.  In between the touched
components may promise more than the SetToken holds.  `World.Reconciling` describes the Set in the middle of
such an operation, with the components that are still to be computed.  It does not depend on the order of the
edits or on the tokens being different.
-/

namespace SetProtocol

open PreciseUnitMath ModuleBase

/-- What is promised of a token is covered, if it is a component. -/
def CoveredComponent (w : World) (c : Address) : Prop :=
  c ∈ w.setToken.components → Covered w c

/-- In a transaction, contracts outside the protocol lower no balance of the SetToken but those of `tokens`,
and the Set itself is none of these. -/
structure Env.ActsOn (env : Env) (w : World) (tokens : Set Address) : Prop where
  lowersOnly : env.LowersOnly w.setToken.address fun _ ↦ tokens
  ne_setToken : ∀ c ∈ tokens, c ≠ w.setToken.address

namespace World

variable {w₀ w w' v : World} {env : Env} {module component token spender : Address} {amount : ℕ}
  {touched touched' pending : Set Address}

/-- Only balances of touched tokens fall, and the SetToken stays as it is. -/
structure Touches (w w' : World) (touched : Set Address) : Prop where
  setToken : w'.setToken = w.setToken
  balance_le : ∀ token, token ∉ touched → w.balance token ≤ w'.balance token

namespace Touches

theorem refl (w : World) : w.Touches w ∅ := ⟨rfl, fun _ _ ↦ le_rfl⟩

theorem trans (h : w.Touches v touched) (h' : v.Touches w' touched') :
    w.Touches w' (touched ∪ touched') where
  setToken := h'.setToken.trans h.setToken
  balance_le := by
    intro token htoken
    rw [Set.mem_union, not_or] at htoken
    exact (h.balance_le token htoken.1).trans (h'.balance_le token htoken.2)

theorem mono (h : w.Touches w' touched) (hsub : touched ⊆ touched') : w.Touches w' touched' :=
  ⟨h.setToken, fun token htoken ↦ h.balance_le token fun hmem ↦ htoken (hsub hmem)⟩

/-- Two steps that touch no more than the same tokens. -/
theorem trans_self (h : w.Touches v touched) (h' : v.Touches w' touched) : w.Touches w' touched :=
  (h.trans h').mono (Set.union_self touched).subset

/-- A call out of the protocol, which is neither a transfer nor an approval. -/
theorem of_call {invocation : Invocation} {moved : Address → Set Address}
    (h : w.invoke env module invocation = .ok w')
    (hcall : w.execute env invocation = do
      let chain ← env.call invocation w.chain
      pure { w with chain := chain })
    (henv : env.LowersOnly w.setToken.address moved) : w.Touches w' (moved invocation.target) := by
  simp only [invoke, hcall, Outcome.bind_eq_ok, Outcome.pure_eq_ok] at h
  obtain ⟨_, -, _, ⟨chain, hchain, rfl⟩, rfl⟩ := h
  refine ⟨rfl, ?_⟩
  intro token htoken
  unfold balance erc20
  split_ifs
  · exact le_rfl
  · exact henv _ _ _ hchain token htoken

/-- An approval of a token other than the Set. -/
theorem of_approve (h : w.invokeApprove env module token spender amount = .ok w')
    (htoken : token ≠ w.setToken.address) : w.Touches w' touched := by
  obtain ⟨hstep, hbalance⟩ := invokeApprove_balance h htoken
  refine ⟨hstep.setToken, ?_⟩
  intro other _
  by_cases hother : other = token
  · exact hother ▸ hbalance.ge
  · exact (hstep.balance_of_ne hother).ge

/-- A step of one token. -/
theorem of_tokenStep (h : w.TokenStep w' token) : w.Touches w' {token} :=
  ⟨h.setToken, fun _ hother ↦ (h.balance_of_ne hother).ge⟩

/-- A loop of steps that touch no more than the same tokens. -/
theorem foldlM {α : Type} {step : World → α → Outcome World} {as : List α}
    (hstep : ∀ v a v', a ∈ as → v.setToken = w.setToken → step v a = .ok v' → v.Touches v' touched)
    (h : as.foldlM step w = .ok w') : w.Touches w' touched := by
  refine Outcome.foldlM_invariant_of_mem (P := fun v ↦ w.Touches v touched) ?_ h
    ((refl w).mono (Set.empty_subset _))
  intro v a ha v' hok hv
  exact hv.trans_self (hstep v a v' ha hv.setToken hok)

end Touches

/-! ## In the middle of an operation -/

/-- An operation on the Set `w₀` has led to `w`, and the units of the pending components are still to be
computed. -/
structure Reconciling (w₀ w : World) (pending : Set Address) : Prop where
  wellFormed : w.WellFormed
  address : w.setToken.address = w₀.setToken.address
  totalSupply : w.setToken.totalSupply = w₀.setToken.totalSupply
  settled : Settled CoveredComponent w pending

namespace Reconciling

theorem start (hw : w.WellFormed) (hcovered : w.Collateralized) : w.Reconciling w ∅ :=
  ⟨hw, rfl, rfl, Settled.empty_iff.mpr fun c hc ↦ hcovered c hc⟩

theorem mono (h : w₀.Reconciling w pending) (hsub : pending ⊆ touched) : w₀.Reconciling w touched :=
  ⟨h.wellFormed, h.address, h.totalSupply, h.settled.mono hsub⟩

/-- Nothing is pending at the end. -/
theorem finish (h : w₀.Reconciling w ∅) : w.WellFormed ∧ w.Collateralized :=
  ⟨h.wellFormed, fun c hc ↦ Settled.empty_iff.mp h.settled c hc⟩

/-- Two tokens that were touched have both been settled. -/
theorem settled_pair (h : w₀.Reconciling w (((∅ ∪ {token, component}) \ {token}) \ {component})) :
    w₀.Reconciling w ∅ := by
  refine h.mono ?_
  rintro c ⟨⟨hc, htoken⟩, hcomponent⟩
  rcases hc with hc | hc | hc
  · exact hc
  · exact absurd hc htoken
  · exact absurd hc hcomponent

/-- Calls out of the protocol make the touched tokens pending. -/
theorem touch (h : w₀.Reconciling w pending) (htouch : w.Touches w' touched) :
    w₀.Reconciling w' (pending ∪ touched) where
  wellFormed := by
    constructor
    · exact htouch.setToken ▸ h.wellFormed.components_nodup
    · exact htouch.setToken ▸ h.wellFormed.multiplier_pos
    · exact htouch.setToken ▸ h.wellFormed.self_notMem
  address := by rw [htouch.setToken, h.address]
  totalSupply := by rw [htouch.setToken, h.totalSupply]
  settled := by
    apply h.settled.touch
    intro c hc hcovered hmem
    rw [htouch.setToken] at hmem
    unfold Covered
    rw [htouch.setToken]
    exact (hcovered hmem).mono_balance preciseUnitInt_pos.le
      (by exact_mod_cast htouch.balance_le c hc)

theorem touch_nothing (h : w₀.Reconciling w pending) (htouch : w.Touches w' ∅) :
    w₀.Reconciling w' pending :=
  (h.touch htouch).mono (Set.union_empty pending).subset

/-- An edit that leaves a component covered breaks no promise about another one. -/
theorem edit_frame (hedit : DefaultEdit w w' component) {c : Address} (hc : c ≠ component)
    (hcovered : CoveredComponent w c) : CoveredComponent w' c := by
  intro hmem
  rw [hedit.covered_iff hc]
  exact hcovered ((hedit.other_mem c hc).mp hmem)

theorem edit (h : w₀.Reconciling w pending) (hedit : DefaultEdit w w' component)
    (hcovered : Covered w' component) (hne : component ≠ w₀.setToken.address) :
    w₀.Reconciling w' (pending \ {component}) where
  wellFormed := h.wellFormed.defaultEdit hedit (h.address ▸ hne)
  address := hedit.frame.address.trans h.address
  totalSupply := hedit.totalSupply.trans h.totalSupply
  settled := h.settled.settle (fun _ ↦ hcovered) fun _ hc hother ↦ edit_frame hedit hc hother

/-- Computing the unit of a component from its balance settles it. -/
theorem calculateAndEdit {previous : ℕ} {result : World × ℕ × ℕ × ℕ}
    (h : w₀.Reconciling w pending)
    (hedit : calculateAndEditDefaultPosition w module component w₀.setToken.totalSupply previous =
      .ok result) (hne : component ≠ w₀.setToken.address) :
    w₀.Reconciling result.1 (pending \ {component}) := by
  rw [← h.totalSupply] at hedit
  obtain ⟨hdefault, hcovered⟩ := calculateAndEditDefaultPosition_ok hedit h.wellFormed.multiplier_pos
  exact h.edit hdefault hcovered hne

/-- The plan of a trade: two tokens are touched and both are computed again. -/
theorem calculateAndEdit_pair {previous previous' : ℕ} {result result' : World × ℕ × ℕ × ℕ}
    (h : w₀.Reconciling w ∅) (htouch : w.Touches v {token, component})
    (hfirst : calculateAndEditDefaultPosition v module token v.setToken.totalSupply previous =
      .ok result)
    (hsecond : calculateAndEditDefaultPosition result.1 module component v.setToken.totalSupply
      previous' = .ok result')
    (htoken : token ≠ w₀.setToken.address) (hcomponent : component ≠ w₀.setToken.address) :
    w₀.Reconciling result'.1 ∅ := by
  have hv := h.touch htouch
  rw [hv.totalSupply] at hfirst hsecond
  exact ((hv.calculateAndEdit hfirst htoken).calculateAndEdit hsecond hcomponent).settled_pair

/-- A loop that settles one component in each pass; `world` reads the Set off its state. -/
theorem foldlM {σ α : Type} {world : σ → World} {step : σ → α → Outcome σ} {key : α → Address}
    {as : List α} {s s' : σ}
    (hstep : ∀ s a s', a ∈ as → step s a = .ok s' → w₀.Reconciling (world s) Set.univ →
      DefaultEdit (world s) (world s') (key a) ∧ Covered (world s') (key a))
    (hne : ∀ a ∈ as, key a ≠ w₀.setToken.address)
    (h : as.foldlM step s = .ok s') (hs : w₀.Reconciling (world s) pending) :
    w₀.Reconciling (world s') (pending \ {c | c ∈ as.map key}) := by
  have hloop : w₀.Reconciling (world s') Set.univ ∧
      Settled (fun s ↦ CoveredComponent (world s)) s' (pending \ {c | c ∈ as.map key}) := by
    have hpending : Settled (fun s ↦ CoveredComponent (world s)) s pending := hs.settled
    apply Settled.foldlM ?_ h (hs.mono (Set.subset_univ _)) hpending
    intro t a t' ha hok ht
    obtain ⟨hdefault, hcovered⟩ := hstep t a t' ha hok ht
    refine ⟨(ht.edit hdefault hcovered (hne a ha)).mono (Set.subset_univ _), fun _ ↦ hcovered, ?_⟩
    exact fun c hc hother ↦ edit_frame hdefault hc hother
  exact ⟨hloop.1.wellFormed, hloop.1.address, hloop.1.totalSupply, hloop.2⟩

end Reconciling

end World

end SetProtocol
