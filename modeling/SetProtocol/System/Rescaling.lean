import SetProtocol.Modules.CustomOracleNAVIssuanceModule
import SetProtocol.Modules.StreamingFeeModule

/-!
# Rescaling all positions at once

Fees and net-asset-value issuance do not rewrite the units of the components.  They change the
supply and the position multiplier together, and the real unit of every component is the floor of
its virtual unit times the multiplier.  The floor may stay where it is while the supply grows, so
covering the rounded unit before the step is not enough for covering it afterwards; covering the
unrounded unit is.
-/

namespace SetProtocol

open PreciseUnitMath ModuleBase

/-- The SetToken's balance covers the unit of a component before it is rounded down. -/
def ExactlyCovered (w : World) (component : Address) : Prop :=
  Backing.ExactlyBacked preciseUnitInt w.setToken.totalSupply
    (w.setToken.defaultPositionVirtualUnit component) w.setToken.positionMultiplier
    (w.balance component)

instance (w : World) (component : Address) : Decidable (ExactlyCovered w component) :=
  inferInstanceAs (Decidable (Backing.ExactlyBacked _ _ _ _ _))

theorem ExactlyCovered.covered {w : World} {c : Address} (h : ExactlyCovered w c) : Covered w c :=
  Backing.ExactlyBacked.backed h preciseUnitInt_pos (Int.natCast_nonneg _)

section Rescaled

variable {w w' : World} {c : Address}

/-- Covering the unrounded unit survives a step that does not raise the product of supply and
multiplier. -/
theorem ExactlyCovered.rescale (h : ExactlyCovered w c)
    (hunit : w'.setToken.defaultPositionVirtualUnit c = w.setToken.defaultPositionVirtualUnit c)
    (hnonneg : 0 ≤ w.setToken.defaultPositionVirtualUnit c)
    (hproduct : (w'.setToken.totalSupply : ℤ) * w'.setToken.positionMultiplier ≤
      w.setToken.totalSupply * w.setToken.positionMultiplier)
    (hbalance : w.balance c ≤ w'.balance c) : ExactlyCovered w' c := by
  have hrescaled := Backing.ExactlyBacked.rescale h hnonneg hproduct
  have hle : (w.balance c : ℤ) ≤ w'.balance c := by exact_mod_cast hbalance
  unfold ExactlyCovered
  rw [hunit]
  refine hrescaled.trans ?_
  gcongr
  all_goals exact preciseUnitInt_pos.le

/-- Where the step divides without remainder, covering the rounded unit afterwards is the same as
covering the unrounded unit before. -/
theorem covered_iff_exactlyCovered
    (hunit : w'.setToken.defaultPositionVirtualUnit c = w.setToken.defaultPositionVirtualUnit c)
    (hbalance : w'.balance c = w.balance c)
    (hproduct : (w'.setToken.totalSupply : ℤ) * w'.setToken.positionMultiplier =
      w.setToken.totalSupply * w.setToken.positionMultiplier)
    (hdvd : preciseUnitInt ∣
      w.setToken.defaultPositionVirtualUnit c * w'.setToken.positionMultiplier) :
    Covered w' c ↔ ExactlyCovered w c := by
  have hexact : ExactlyCovered w' c ↔ ExactlyCovered w c := by
    unfold ExactlyCovered Backing.ExactlyBacked
    rw [hunit, hbalance, mul_left_comm, hproduct, mul_left_comm]
  rw [← hexact]
  rw [← hunit] at hdvd
  exact (Backing.exactlyBacked_iff_backed preciseUnitInt_pos hdvd).symm

end Rescaled

namespace StreamingFeeModule

variable {m m' : StreamingFeeModule} {w w' : World} {env : Env}

theorem Accrual.balance_le {fee : ℕ} (h : Accrual w w' fee) (c : Address) :
    w.balance c ≤ w'.balance c := by
  unfold World.balance World.erc20
  rw [h.chain, h.address]
  split_ifs
  · exact h.balances _
  · exact le_rfl

theorem Accrual.balance_eq {fee : ℕ} (h : Accrual w w' fee) {c : Address}
    (hc : c ≠ w.setToken.address) : w'.balance c = w.balance c := by
  simp [World.balance, World.erc20, h.chain, h.address, hc]

theorem Accrual.defaultPositionVirtualUnit {fee : ℕ} (h : Accrual w w' fee) (c : Address) :
    w'.setToken.defaultPositionVirtualUnit c = w.setToken.defaultPositionVirtualUnit c := by
  simp [SetToken.defaultPositionVirtualUnit, h.positions]

/-- The accrual charges nothing, or every balance covers the unit before rounding. -/
def SafeAccrual (m : StreamingFeeModule) (w : World) (env : Env) : Prop :=
  (env.timestamp - m.feeState.lastStreamingFeeTimestamp) * m.feeState.streamingFeePercentage <
    oneYearInSeconds ∨ ∀ c ∈ w.setToken.components, ExactlyCovered w c

/-- Accruing a fee keeps a collateralized Set collateralized when no fee is charged or the
balances cover the units before rounding.  Where the accrual divides without remainder, covering
the unit before rounding is also necessary. -/
theorem accrueFee_collateralized (h : m.accrueFee w env = .ok (m', w'))
    (hm : 0 < w.setToken.positionMultiplier) (hcovered : w.Collateralized) :
    (m.SafeAccrual w env → w'.Collateralized) ∧
      ∀ c ∈ w.setToken.components, c ≠ w.setToken.address →
        (w'.setToken.totalSupply : ℤ) * w'.setToken.positionMultiplier =
          w.setToken.totalSupply * w.setToken.positionMultiplier →
        preciseUnitInt ∣ w.setToken.defaultPositionVirtualUnit c *
          w'.setToken.positionMultiplier →
        (Covered w' c ↔ ExactlyCovered w c) := by
  rcases accrueFee_ok h with ⟨hzero, rfl⟩ | ⟨fee, hfee, haccrual⟩
  · refine ⟨fun _ ↦ hcovered, ?_⟩
    intro c _ _ _ hdvd
    exact (Backing.exactlyBacked_iff_backed preciseUnitInt_pos hdvd).symm
  · refine ⟨?_, ?_⟩
    · rintro (hsmall | hexact)
      · -- The elapsed time is too short for the smallest fee.
        have hzero : fee = 0 := by
          simp only [calculateStreamingFee, Outcome.bind_eq_ok, SafeMath.sub_eq_ok,
            SafeMath.mul_eq_ok, SafeMath.div_eq_ok] at hfee
          obtain ⟨_, ⟨-, rfl⟩, _, ⟨-, rfl⟩, -, rfl⟩ := hfee
          exact Nat.div_eq_of_lt hsmall
        subst hzero
        obtain ⟨hsupply, hmultiplier⟩ := haccrual.of_zero
        intro c hc
        rw [haccrual.components] at hc
        have hunit : w'.setToken.defaultRealUnit c = w.setToken.defaultRealUnit c := by
          unfold SetToken.defaultRealUnit SetToken.realUnit
          rw [haccrual.defaultPositionVirtualUnit, hmultiplier]
        unfold Covered
        rw [hsupply, hunit]
        exact (hcovered c hc).mono_balance preciseUnitInt_pos.le
          (by exact_mod_cast haccrual.balance_le c)
      · intro c hc
        rw [haccrual.components] at hc
        apply ExactlyCovered.covered
        exact (hexact c hc).rescale (haccrual.defaultPositionVirtualUnit c)
          (haccrual.units_nonneg c hc) (haccrual.product_le hm) (haccrual.balance_le c)
    · intro c hc hne hproduct hdvd
      exact covered_iff_exactlyCovered (haccrual.defaultPositionVirtualUnit c)
        (haccrual.balance_eq hne) hproduct hdvd

namespace AccrualSample

/-- A thousand Sets with virtual unit 150 and multiplier 0.99, so that the real unit is 148 and half
a unit is rounded away.  The SetToken holds `balance` of component 7. -/
def world (balance : ℕ) : World where
  controller := { Controller.enabling 4 [20] with isSet := fun a ↦ a == 6 }
  setToken := { SetToken.launched 6 [7] [150] [20] 2 9 (1000 * 10 ^ 18) with
    positionMultiplier := 99 * 10 ^ 16 }
  chain := { tokens := fun _ ↦ ERC20.holding 18 [(6, balance)] 0 }
  log := []

/-- Before the module was initialized. -/
def pending : World :=
  { world 0 with setToken := SetToken.new 6 [7] [150] [20] 2 }

/-- A yearly fee of 2%, accepted at time 0. -/
def initialized : Outcome (StreamingFeeModule × World) :=
  (StreamingFeeModule.mk 20 .empty).initializeSetToken pending (Env.plain 2 0)
    ⟨9, 5 * 10 ^ 16, 2 * 10 ^ 16, 0⟩

def module : StreamingFeeModule :=
  (initialized.getD (⟨20, .empty⟩, pending)).1

/-- The accrual after a twentieth of a year. -/
def accrued (balance : ℕ) : Outcome (StreamingFeeModule × World) :=
  module.accrueFee (world balance) (Env.plain 9 1577880)

/-- With exactly the rounded units in the token, the accrual leaves the Set short: the unit stays at
148 while the supply grows. -/
theorem accrued_not_collateralized :
    initialized.isOk = true ∧ (world 148000).Collateralized ∧
      0 < (world 148000).setToken.positionMultiplier ∧ (accrued 148000).isOk = true ∧
      ¬ ((accrued 148000).getD (module, world 0)).2.Collateralized :=
  ⟨by decide +kernel, by decide +kernel, by decide +kernel, by decide +kernel, by decide +kernel⟩

theorem accrued_collateralized :
    module.SafeAccrual (world 148500) (Env.plain 9 1577880) ∧
      ((accrued 148500).getD (module, world 0)).2.Collateralized := by
  have hsafe : module.SafeAccrual (world 148500) (Env.plain 9 1577880) :=
    Or.inr (List.forall_mem_singleton.mpr (by decide +kernel))
  exact ⟨hsafe, (accrueFee_collateralized (Outcome.eq_ok_getD (module, world 0) (by decide +kernel))
    (by decide +kernel) (by decide +kernel)).1 hsafe⟩

end AccrualSample

end StreamingFeeModule

namespace CustomOracleNAVIssuanceModule

variable {m : CustomOracleNAVIssuanceModule} {w w' : World} {env : Env} {info : ActionInfo}
  {reserveAsset : Address}

/-- An issue or a redemption in a reserve asset. -/
inductive NavStep (m : CustomOracleNAVIssuanceModule) (env : Env) (reserveAsset : Address)
    (w : World) : World → Prop where
  | issue (quantity minimum : ℕ) (recipient : Address) (result : World × ActionInfo)
      (h : m.issue w env reserveAsset quantity minimum recipient = .ok result) :
      NavStep m env reserveAsset w result.1
  | redeem (quantity minimum : ℕ) (recipient : Address) (result : World × ActionInfo)
      (h : m.redeem w env reserveAsset quantity minimum recipient = .ok result) :
      NavStep m env reserveAsset w result.1

/-- The product of supply and multiplier does not grow. -/
theorem Rescale.product_le {newUnit : ℕ} (h : Rescale w w' reserveAsset newUnit)
    (hm : 0 < w.setToken.positionMultiplier) :
    (w'.setToken.totalSupply : ℤ) * w'.setToken.positionMultiplier ≤
      w.setToken.totalSupply * w.setToken.positionMultiplier := by
  have hnonneg : 0 ≤ w.setToken.positionMultiplier * w.setToken.totalSupply :=
    mul_nonneg hm.le (Int.natCast_nonneg _)
  have hpos : (w'.setToken.totalSupply : ℤ) ≠ 0 := by exact_mod_cast h.supply_pos.ne'
  calc (w'.setToken.totalSupply : ℤ) * w'.setToken.positionMultiplier
      = w.setToken.positionMultiplier * w.setToken.totalSupply / w'.setToken.totalSupply *
          w'.setToken.totalSupply := by
        rw [h.multiplier, Int.tdiv_eq_ediv_of_nonneg hnonneg, mul_comm]
    _ ≤ w.setToken.positionMultiplier * w.setToken.totalSupply := Int.ediv_mul_le _ hpos
    _ = w.setToken.totalSupply * w.setToken.positionMultiplier := mul_comm _ _

/-- The rewritten unit of the reserve asset is covered by what the SetToken holds of it. -/
theorem Rescale.reserve_covered {amount newSupply : ℕ}
    (h : Rescale w w' reserveAsset (amount * preciseUnit / newSupply))
    (hsupply : w'.setToken.totalSupply = newSupply) (hamount : amount ≤ w'.balance reserveAsset) :
    Covered w' reserveAsset := by
  apply Backing.backed_of_le_div (by exact_mod_cast h.supply_pos) preciseUnitInt_pos.le
  · exact Int.ofNat_le.mpr hamount
  · rw [hsupply, preciseUnitInt_eq]
    exact_mod_cast h.unit_le

/-- Both directions rescale the positions and leave the reserve asset covered. -/
theorem NavStep.rescale (h : m.NavStep env reserveAsset w w')
    (hsender : env.sender ≠ w.setToken.address) (hreserve : Covered w reserveAsset) :
    (∃ newUnit, Rescale w w' reserveAsset newUnit) ∧ Covered w' reserveAsset := by
  cases h with
  | issue quantity minimum recipient result h =>
    obtain ⟨hamounts, hrescale, hsupply, hbalance⟩ := issue_ok h hsender
    have htracked := trackedReserve_le_balance hreserve hamounts.unit_nonneg
    refine ⟨⟨_, hrescale⟩, ?_⟩
    rw [hamounts.newUnit] at hrescale
    exact hrescale.reserve_covered hsupply (by omega)
  | redeem quantity minimum recipient result h =>
    obtain ⟨hamounts, hrescale, hsupply, hbalance⟩ := redeem_ok h hsender
    have htracked := trackedReserve_le_balance hreserve hamounts.unit_nonneg
    refine ⟨⟨_, hrescale⟩, ?_⟩
    rw [hamounts.newUnit] at hrescale
    exact hrescale.reserve_covered hsupply (by omega)

/-- Issuing and redeeming at net asset value always leave the reserve asset covered, and leave the
Set collateralized when the balances of the other components cover their units before rounding.
Where the step divides without remainder, that is also necessary. -/
theorem navStep_collateralized (h : m.NavStep env reserveAsset w w')
    (hm : 0 < w.setToken.positionMultiplier) (hsender : env.sender ≠ w.setToken.address)
    (hreserve : Covered w reserveAsset) :
    Covered w' reserveAsset ∧
      ((∀ c ∈ w.setToken.components, c ≠ reserveAsset → ExactlyCovered w c) →
        w'.Collateralized) ∧
      ∀ c ∈ w.setToken.components, c ≠ reserveAsset → c ≠ w.setToken.address →
        (w'.setToken.totalSupply : ℤ) * w'.setToken.positionMultiplier =
          w.setToken.totalSupply * w.setToken.positionMultiplier →
        preciseUnitInt ∣ w.setToken.defaultPositionVirtualUnit c *
          w'.setToken.positionMultiplier →
        (Covered w' c ↔ ExactlyCovered w c) := by
  obtain ⟨⟨newUnit, hrescale⟩, hreserve'⟩ := h.rescale hsender hreserve
  refine ⟨hreserve', ?_, ?_⟩
  · intro hexact c hc
    by_cases hne : c = reserveAsset
    · exact hne ▸ hreserve'
    have hmem := (hrescale.other_mem c hne).mp hc
    apply ExactlyCovered.covered
    exact (hexact c hmem hne).rescale (hrescale.other_unit c hne) (hrescale.units_nonneg c hmem)
      (hrescale.product_le hm) (hrescale.balance_le c hne)
  · intro c hc hne hself hproduct hdvd
    exact covered_iff_exactlyCovered (hrescale.other_unit c hne)
      (hrescale.balance_eq c hne hself) hproduct hdvd

namespace NavSample

/-- Two Sets with ten of the reserve asset 8 each, and with virtual unit 19 of component 7 at
multiplier 0.1, so that the real unit is 1 and nine tenths are rounded away.  The SetToken holds
`balance` of component 7. -/
def world (balance : ℕ) : World where
  controller := { Controller.enabling 4 [20] with isSet := fun a ↦ a == 6 }
  setToken := { SetToken.launched 6 [7, 8] [19, 10 ^ 20] [20] 2 9 (2 * 10 ^ 18) with
    positionMultiplier := 10 ^ 17 }
  chain := { tokens := fun a ↦
    ERC20.holding 18 [(6, if a = 7 then balance else 20 * 10 ^ 18)] 0 }
  log := []

/-- No fees, no premium, the valuer of the Controller. -/
def module : CustomOracleNAVIssuanceModule where
  address := 20
  settings := ⟨0, 0, 0, [8], 9, 0, 0, 0, 0, 0, 1⟩
  isReserveAsset := fun a ↦ a == 8

/-- Every token is worth one of the reserve asset. -/
def oracleEnv : Env :=
  { Env.plain 9 0 with priceOracle := ⟨8, fun _ _ ↦ .ok (10 ^ 18)⟩ }

def redeemed (balance : ℕ) : Outcome (World × ActionInfo) :=
  module.redeem (world balance) oracleEnv 8 (10 ^ 18) 0 9

def redeemedInfo : ActionInfo := ⟨0, 0, 0, 0, 0, 0, 0, 0, 0⟩

def after (balance : ℕ) : World := ((redeemed balance).getD (world 0, redeemedInfo)).1

/-- One of the two Sets is redeemed.  The unit of component 7 goes from 1 to 3, and the SetToken
holds 2. -/
theorem redeemed_not_collateralized :
    (world 2).Collateralized ∧ Covered (world 2) 8 ∧
      0 < (world 2).setToken.positionMultiplier ∧ (redeemed 2).isOk = true ∧
      ¬ (after 2).Collateralized :=
  ⟨by decide +kernel, by decide +kernel, by decide +kernel, by decide +kernel, by decide +kernel⟩

theorem navStep_redeemed : module.NavStep oracleEnv 8 (world 4) (after 4) :=
  .redeem (10 ^ 18) 0 9 ((redeemed 4).getD (world 0, redeemedInfo))
    (Outcome.eq_ok_getD (world 0, redeemedInfo) (by decide +kernel))

theorem surplusRedeemed_collateralized :
    (∀ c ∈ (world 4).setToken.components, c ≠ 8 → ExactlyCovered (world 4) c) ∧
      (after 4).Collateralized := by
  have hexact : ∀ c ∈ (world 4).setToken.components, c ≠ 8 → ExactlyCovered (world 4) c := by
    intro c hc hne
    have h7 : c = 7 ∨ c = 8 := by simpa [world, SetToken.launched, SetToken.new] using hc
    rcases h7 with rfl | rfl
    · decide +kernel
    · exact absurd rfl hne
  exact ⟨hexact, (navStep_collateralized navStep_redeemed (by decide +kernel) (by decide +kernel)
    (by decide +kernel)).2.1 hexact⟩

end NavSample

end CustomOracleNAVIssuanceModule

end SetProtocol
