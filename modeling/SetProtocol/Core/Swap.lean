import SetProtocol.Core.ModuleBase

/-!
# Exchange calls and the units after them

A trade approves the exchange, calls it, pays a fee from what was received and recomputes the units
of both tokens.  The exchange itself is outside the repository; it moves the SetToken's balances of the two
traded tokens by amounts that are left open, and is assumed to lower no other balance of the SetToken.
-/

namespace SetProtocol

open PreciseUnitMath ModuleBase

/-- Contracts outside the protocol lower no balance of the SetToken except those of the tokens that the
called contract works on. -/
def Env.LowersOnly (env : Env) (setToken : Address) (touched : Address → Set Address) : Prop :=
  ∀ invocation chain chain', env.call invocation chain = .ok chain' →
    ∀ token, token ∉ touched invocation.target →
      (chain.tokens token).balances setToken ≤ (chain'.tokens token).balances setToken

/-- The part of a trade before the units are edited. -/
structure SwapStep (w w' : World) (send receive : Address) : Prop where
  controller : w'.controller = w.controller
  setToken : w'.setToken = w.setToken
  other : ∀ token, token ≠ send → token ≠ receive → w.balance token ≤ w'.balance token

namespace SwapStep

variable {w w' : World} {env : Env} {module send receive : Address}

theorem trans {w₁ w₂ w₃ : World} (h : SwapStep w₁ w₂ send receive)
    (h' : SwapStep w₂ w₃ send receive) : SwapStep w₁ w₃ send receive where
  controller := h'.controller.trans h.controller
  setToken := h'.setToken.trans h.setToken
  other := fun token hs hr ↦ (h.other token hs hr).trans (h'.other token hs hr)

theorem of_send (h : w.TokenStep w' send) : SwapStep w w' send receive where
  controller := h.controller
  setToken := h.setToken
  other := fun _ hs _ ↦ (h.balance_of_ne hs).ge

theorem of_receive (h : w.TokenStep w' receive) : SwapStep w w' send receive where
  controller := h.controller
  setToken := h.setToken
  other := fun _ _ hr ↦ (h.balance_of_ne hr).ge

/-- The exchange call itself. -/
theorem of_invoke {target : Address} {value : ℕ} {data : List UInt8}
    (h : w.invoke env module ⟨target, value, .raw data⟩ = .ok w')
    (henv : env.LowersOnly w.setToken.address fun _ ↦ {send, receive}) : SwapStep w w' send receive := by
  simp only [World.invoke, World.execute, Outcome.bind_eq_ok, Outcome.pure_eq_ok] at h
  obtain ⟨_, -, _, ⟨chain, hchain, rfl⟩, rfl⟩ := h
  refine ⟨rfl, rfl, ?_⟩
  intro token hs hr
  unfold World.balance World.erc20
  split_ifs
  · exact le_rfl
  · exact henv _ _ _ hchain token (by simp [hs, hr])

end SwapStep

/-- Every component of the Set is covered by the SetToken's balance. -/
def World.Collateralized (w : World) : Prop :=
  ∀ c ∈ w.setToken.components, Covered w c

instance (w : World) : Decidable w.Collateralized :=
  List.decidableBAll (Covered w) w.setToken.components

/-- A Set that trades and issues components other than itself. -/
structure World.WellFormed (w : World) : Prop where
  components_nodup : w.setToken.components.Nodup
  multiplier_pos : 0 < w.setToken.positionMultiplier
  self_notMem : w.setToken.address ∉ w.setToken.components

variable {w w' : World} {env : Env} {module send receive component : Address}

theorem World.WellFormed.defaultEdit (h : w.WellFormed) (hedit : DefaultEdit w w' component)
    (hne : component ≠ w.setToken.address) : w'.WellFormed where
  components_nodup := hedit.nodup h.components_nodup
  multiplier_pos := hedit.frame.positionMultiplier ▸ h.multiplier_pos
  self_notMem := by
    rw [hedit.frame.address, hedit.other_mem _ hne.symm]
    exact h.self_notMem

/-- Recomputing both units after a swap covers the traded tokens and leaves the others covered. -/
theorem SwapStep.collateralized {v : World} {pre pre' : ℕ} {edited edited' : World × ℕ × ℕ × ℕ}
    (hswap : SwapStep w v send receive)
    (hsend : calculateAndEditDefaultPosition v module send w.setToken.totalSupply pre =
      .ok edited)
    (hreceive : calculateAndEditDefaultPosition edited.1 module receive w.setToken.totalSupply
      pre' = .ok edited')
    (hsendNe : send ≠ w.setToken.address) (hreceiveNe : receive ≠ w.setToken.address)
    (hw : w.WellFormed) (hcovered : w.Collateralized) :
    edited'.1.WellFormed ∧ edited'.1.Collateralized := by
  have hv : v.WellFormed := by
    constructor
    · exact hswap.setToken ▸ hw.components_nodup
    · exact hswap.setToken ▸ hw.multiplier_pos
    · exact hswap.setToken ▸ hw.self_notMem
  rw [← hswap.setToken] at hsend hreceive hsendNe hreceiveNe
  obtain ⟨hedit, hcover⟩ := calculateAndEditDefaultPosition_ok hsend hv.multiplier_pos
  have hu := hv.defaultEdit hedit hsendNe
  rw [← hedit.totalSupply] at hreceive
  obtain ⟨hedit', hcover'⟩ := calculateAndEditDefaultPosition_ok hreceive hu.multiplier_pos
  refine ⟨hu.defaultEdit hedit' (hedit.frame.address ▸ hreceiveNe), ?_⟩
  intro c hc
  by_cases hr : c = receive
  · exact hr ▸ hcover'
  rw [hedit'.covered_iff hr]
  by_cases hs : c = send
  · exact hs ▸ hcover
  rw [hedit.covered_iff hs]
  -- The remaining components were components before, with the same unit and no lower balance.
  have hmem : c ∈ w.setToken.components := by
    rw [← hswap.setToken, ← hedit.other_mem c hs, ← hedit'.other_mem c hr]
    exact hc
  unfold Covered
  rw [hswap.setToken]
  exact (hcovered c hmem).mono_balance preciseUnitInt_pos.le (by exact_mod_cast hswap.other c hs hr)

end SetProtocol
