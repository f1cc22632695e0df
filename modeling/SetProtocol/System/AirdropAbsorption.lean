import SetProtocol.Core.UnitRoundTrip
import SetProtocol.Foundation.Rounding
import SetProtocol.Modules.AirdropModule

/-!
# Absorption keeps the backing

The tracked amount of a token, the fees, the new unit and the unit that is stored are all rounded down.
Fees come out of the airdropped amount, so that the tracked amount stays in the Set.  Computing the unit
again loses at most one unit at a supply of at least one whole token, and storing it at a multiplier of
at most one loses at most another one.  A token that is absorbed several times loses two units each time,
and tokens that are absorbed in between leave it alone.
-/

namespace SetProtocol.AirdropModule

open PreciseUnitMath ModuleBase

variable {m : AirdropModule} {w w' : World} {env : Env} {token other : Address} {amount : ℕ}

/-- A balance falls and the unit of the same token is written; nothing else of the Set changes. -/
structure Absorption (w w' : World) (token : Address) : Prop where
  totalSupply : w'.setToken.totalSupply = w.setToken.totalSupply
  positionMultiplier : w'.setToken.positionMultiplier = w.setToken.positionMultiplier
  other_balance : ∀ c, c ≠ token → w'.balance c = w.balance c
  other_unit : ∀ c, c ≠ token → w'.setToken.defaultRealUnit c = w.setToken.defaultRealUnit c

theorem Absorption.covered_iff (h : Absorption w w' token) (hne : other ≠ token) :
    Covered w' other ↔ Covered w other := by
  unfold Covered
  rw [h.totalSupply, h.other_unit other hne, h.other_balance other hne]

/-- The fees are a share of the amount, and the balance falls by them. -/
theorem handleFees_ok {managerTake protocolTake totalFees : ℕ}
    (h : m.handleFees w env token amount = .ok (w', managerTake, protocolTake, totalFees))
    (hfee : m.airdropSettings.airdropFee ≤ preciseUnit) :
    w.MoveStep w' token ∧ managerTake + protocolTake = totalFees ∧ totalFees ≤ amount ∧
      w'.balance token + totalFees = w.balance token := by
  simp only [handleFees] at h
  split_ifs at h
  · simp only [getModuleFee, Outcome.bind_eq_ok, Outcome.pure_eq_ok, preciseMul_eq_ok,
      SafeMath.sub_eq_ok, Prod.mk.injEq] at h
    obtain ⟨_, ⟨-, rfl⟩, _, ⟨-, rfl⟩, _, ⟨hshare, rfl⟩, v, hmanager, v', hprotocol, rfl, rfl, rfl,
      rfl⟩ := h
    obtain ⟨hmove, hle, hbalance⟩ := World.strictInvokeTransfer_moveStep hmanager
    obtain ⟨hmove', hle', hbalance'⟩ := payProtocolFeeFromSetToken_moveStep hprotocol
    exact ⟨hmove.trans hmove', Nat.sub_add_cancel hshare, Rounding.fee_le hfee amount, by omega⟩
  · simp only [Outcome.pure_eq_ok, Prod.mk.injEq] at h
    obtain ⟨rfl, rfl, rfl, rfl⟩ := h
    exact ⟨.refl w token, rfl, Nat.zero_le _, rfl⟩

/-- Moving balances of a token leaves the positions alone. -/
theorem absorption_of_moveStep (h : w.MoveStep w' token) :
    Absorption w w' token ∧ w'.setToken.defaultRealUnit token = w.setToken.defaultRealUnit token := by
  obtain ⟨t, ht, -⟩ := h.setToken
  have hunit : ∀ c, w'.setToken.defaultRealUnit c = w.setToken.defaultRealUnit c := by
    intro c
    rw [ht, SetToken.setErc20_defaultRealUnit]
  refine ⟨⟨h.totalSupply, ?_, fun c hc ↦ h.balance_of_ne hc, fun c _ ↦ hunit c⟩, hunit token⟩
  rw [ht, SetToken.setErc20_positionMultiplier]

theorem Absorption.edit {v : World} (h : Absorption w v token) (hedit : DefaultEdit v w' token) :
    Absorption w w' token where
  totalSupply := hedit.totalSupply.trans h.totalSupply
  positionMultiplier := hedit.frame.positionMultiplier.trans h.positionMultiplier
  other_balance := fun c hc ↦ (hedit.balance c).trans (h.other_balance c hc)
  other_unit := fun c hc ↦ (hedit.defaultRealUnit hc).trans (h.other_unit c hc)

/-- What one absorption does: the fees come out of the airdropped amount, the unit stays covered by the
balance, and it falls by at most two. -/
structure OwnAbsorption (w w' : World) (token : Address) : Prop where
  absorption : Absorption w w' token
  fees : ∃ managerTake protocolTake : ℕ,
    w'.balance token + (managerTake + protocolTake) = w.balance token ∧
      ((managerTake + protocolTake : ℕ) : ℤ) ≤ w.balance token -
        w.setToken.totalSupply * w.setToken.defaultRealUnit token / preciseUnitInt
  covered : Covered w token → Covered w' token
  unit : preciseUnit ≤ w.setToken.totalSupply → w.setToken.positionMultiplier ≤ preciseUnitInt →
    w.setToken.defaultRealUnit token - 2 ≤ w'.setToken.defaultRealUnit token

theorem handleAirdropPosition_ok {result : ℕ × ℕ × ℕ}
    (h : m.handleAirdropPosition env w token = .ok (w', result))
    (hm : 0 < w.setToken.positionMultiplier)
    (hfee : m.airdropSettings.airdropFee ≤ preciseUnit) : OwnAbsorption w w' token := by
  simp only [handleAirdropPosition, Position.getDefaultTrackedBalance, Outcome.bind_eq_ok,
    SetToken.getDefaultPositionRealUnit_eq_ok, SafeCast.toUint256_eq_ok, preciseMul_eq_ok,
    SafeMath.sub_eq_ok] at h
  obtain ⟨tracked, ⟨_, ⟨-, rfl⟩, unit, hunit, -, rfl⟩, _, ⟨htracked, rfl⟩, h⟩ := h
  have hfloor : (w.setToken.totalSupply * w.setToken.defaultRealUnit token / preciseUnitInt : ℤ) =
      (w.setToken.totalSupply * unit / preciseUnit : ℕ) := by
    rw [hunit, preciseUnitInt_eq]
    norm_cast
  split_ifs at h with hpos
  · simp only [Outcome.bind_eq_ok, Outcome.pure_eq_ok, Prod.exists, Prod.mk.injEq,
      getPostAirdropUnit, Position.getDefaultPositionUnit, SafeMath.sub_eq_ok, preciseDiv_eq_ok,
      World.onSetToken] at h
    obtain ⟨v, managerTake, protocolTake, totalFees, hfees, newUnit, ⟨_, ⟨hle, rfl⟩, -, hvsupply,
      rfl⟩, _, ⟨s, hedit, rfl⟩, rfl, -⟩ := h
    obtain ⟨hmove, hsum, hshare, hbalance⟩ := handleFees_ok hfees hfee
    obtain ⟨habsorb, -⟩ := absorption_of_moveStep hmove
    have hmultiplier : 0 < v.setToken.positionMultiplier := habsorb.positionMultiplier ▸ hm
    obtain ⟨hdefault, hstored⟩ := editDefaultPosition_defaultEdit hedit hmultiplier
    obtain ⟨hown, -, -⟩ := Position.editDefaultPosition_readBack hmultiplier hedit
    have hremaining : w.balance token - totalFees = v.balance token := by omega
    refine ⟨habsorb.edit hdefault, ⟨managerTake, protocolTake, ?_, by omega⟩, ?_, ?_⟩
    · rw [hdefault.balance, hsum]
      exact hbalance
    · -- the unit was computed from the balance that is left
      intro _
      unfold Covered
      rw [hdefault.totalSupply, hdefault.balance]
      apply Backing.Backed.anti_unit ?_ (Int.natCast_nonneg _) hstored
      apply Backing.backed_of_le_div (by exact_mod_cast hvsupply) preciseUnitInt_pos.le (le_refl _)
      rw [hremaining, preciseUnitInt_eq]
      norm_cast
    · intro hsupply hone
      have hrecomputed : unit ≤ v.balance token * preciseUnit / w.setToken.totalSupply + 1 :=
        Rounding.unit_le_of_floor preciseUnit_pos hsupply (by omega)
      have hback := SetToken.readBack_eq_or_eq_sub_one hmultiplier
        (habsorb.positionMultiplier ▸ hone)
        ((w.balance token - totalFees) * preciseUnit / v.setToken.totalSupply : ℕ)
      dsimp only
      rw [hown, hunit]
      rw [hremaining, habsorb.totalSupply] at hback ⊢
      omega
  · simp only [Outcome.pure_eq_ok, Prod.mk.injEq] at h
    obtain ⟨rfl, -⟩ := h
    exact ⟨(absorption_of_moveStep (.refl w token)).1, ⟨0, 0, by omega, by omega⟩, fun hc ↦ hc,
      fun _ _ ↦ by omega⟩

theorem internalAbsorb_ok (h : m.internalAbsorb env w token = .ok w')
    (hm : 0 < w.setToken.positionMultiplier)
    (hfee : m.airdropSettings.airdropFee ≤ preciseUnit) : OwnAbsorption w w' token := by
  simp only [internalAbsorb, Outcome.bind_eq_ok, Outcome.require_eq_ok, Outcome.pure_eq_ok,
    Prod.exists] at h
  obtain ⟨_, -, v, _, _, _, hposition, rfl⟩ := h
  exact handleAirdropPosition_ok hposition hm hfee

/-- Every time that the token comes up in the batch costs two units, and the others cost none. -/
theorem internalBatchAbsorb_ok {tokens : List Address}
    (h : m.internalBatchAbsorb env w tokens = .ok w')
    (hsupply : preciseUnit ≤ w.setToken.totalSupply) (hm : 0 < w.setToken.positionMultiplier)
    (hone : w.setToken.positionMultiplier ≤ preciseUnitInt)
    (hfee : m.airdropSettings.airdropFee ≤ preciseUnit) (hcovered : Covered w token) :
    Covered w' token ∧ w.setToken.defaultRealUnit token - 2 * tokens.count token ≤
      w'.setToken.defaultRealUnit token := by
  unfold internalBatchAbsorb at h
  induction tokens generalizing w with
  | nil =>
    obtain rfl := Outcome.pure_eq_ok.mp h
    exact ⟨hcovered, by simp⟩
  | cons head tokens ih =>
    simp only [List.foldlM_cons, Outcome.bind_eq_ok] at h
    obtain ⟨v, hv, hrest⟩ := h
    have hown := internalAbsorb_ok hv hm hfee
    have habsorb := hown.absorption
    have hnext := ih (w := v) hrest (habsorb.totalSupply ▸ hsupply)
      (habsorb.positionMultiplier ▸ hm) (habsorb.positionMultiplier ▸ hone)
    by_cases hhead : token = head
    · subst hhead
      obtain ⟨hcovered', hunit⟩ := hnext (hown.covered hcovered)
      have hfirst := hown.unit hsupply hone
      rw [List.count_cons_self]
      push_cast
      exact ⟨hcovered', by omega⟩
    · obtain ⟨hcovered', hunit⟩ := hnext ((habsorb.covered_iff hhead).mpr hcovered)
      rw [habsorb.other_unit token hhead] at hunit
      rw [List.count_cons_of_ne (Ne.symm hhead)]
      exact ⟨hcovered', hunit⟩

/-- Absorbing a token pays its fees out of the airdropped amount, keeps the unit covered by the balance
and lowers it by at most two; a batch lowers it by at most two for each time that the token is in it. -/
theorem absorb_keeps_backing (hsupply : preciseUnit ≤ w.setToken.totalSupply)
    (hm : 0 < w.setToken.positionMultiplier)
    (hone : w.setToken.positionMultiplier ≤ preciseUnitInt)
    (hfee : m.airdropSettings.airdropFee ≤ preciseUnit) (hcovered : Covered w token) :
    (∀ w', m.absorb w env token = .ok w' →
      (∃ managerTake protocolTake : ℕ,
        w'.balance token + (managerTake + protocolTake) = w.balance token ∧
          ((managerTake + protocolTake : ℕ) : ℤ) ≤ w.balance token -
            w.setToken.totalSupply * w.setToken.defaultRealUnit token / preciseUnitInt) ∧
        Covered w' token ∧
        w.setToken.defaultRealUnit token - 2 ≤ w'.setToken.defaultRealUnit token) ∧
    ∀ tokens w', m.batchAbsorb w env tokens = .ok w' →
      Covered w' token ∧ w.setToken.defaultRealUnit token - 2 * tokens.count token ≤
        w'.setToken.defaultRealUnit token := by
  constructor
  · intro w' h
    simp only [absorb, Outcome.bind_eq_ok] at h
    obtain ⟨_, -, _, -, h⟩ := h
    have hown := internalAbsorb_ok h hm hfee
    exact ⟨hown.fees, hown.covered hcovered, hown.unit hsupply hone⟩
  · intro tokens w' h
    simp only [batchAbsorb, Outcome.bind_eq_ok] at h
    obtain ⟨_, -, _, -, h⟩ := h
    exact internalBatchAbsorb_ok h hsupply hm hone hfee hcovered

namespace Sample

/-- Half of an airdrop of token 7 goes to account 3. -/
def module : AirdropModule := ⟨5, ⟨[7], 3, 5 * 10 ^ 17, true⟩, fun a ↦ decide (a = 7)⟩

/-- Two Sets at a multiplier of a third; a tenth of the fee goes to the protocol. -/
def world : World where
  controller := { Controller.enabling 4 [5] with
    isSet := fun _ ↦ true, fees := fun _ _ ↦ 10 ^ 17, feeRecipient := 8 }
  setToken := { SetToken.launched 6 [7] [10 ^ 18] [5] 2 2 (2 * 10 ^ 18 + 1) with
    positionMultiplier := 333333333333333333 }
  chain := { tokens := fun _ ↦ ERC20.holding 18 [(6, 10 ^ 18)] 0 }
  log := []

def absorbed : World :=
  (module.batchAbsorb world (Env.plain 2 100) [7, 7]).getD world

theorem absorbed_keeps_backing :
    world.setToken.defaultRealUnit 7 = 333333333333333333 ∧ absorbed.balance 7 < world.balance 7 ∧
      Covered absorbed 7 ∧
      world.setToken.defaultRealUnit 7 - 2 * [7, 7].count (7 : Address) ≤
        absorbed.setToken.defaultRealUnit 7 := by
  have hok : module.batchAbsorb world (Env.plain 2 100) [7, 7] = .ok absorbed :=
    Outcome.eq_ok_getD world (by decide +kernel)
  have hfee : module.airdropSettings.airdropFee ≤ preciseUnit := by decide +kernel
  have hcovered : Covered world 7 := by decide +kernel
  have hbacking := (absorb_keeps_backing (by decide +kernel) (by decide +kernel) (by decide +kernel)
    hfee hcovered).2 [7, 7] absorbed hok
  exact ⟨by decide +kernel, by decide +kernel, hbacking⟩

end Sample

end SetProtocol.AirdropModule
