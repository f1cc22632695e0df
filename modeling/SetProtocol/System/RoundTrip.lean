import Mathlib.Algebra.BigOperators.Ring.Finset
import Mathlib.Algebra.Order.BigOperators.Group.Finset
import SetProtocol.System.Rescaling

/-!
# Issuing and redeeming at once

A depositor who redeems the minted Sets in the next call is paid from a valuation of units that the
issue has just rescaled.  Units that are rounded down before the issue and kept by it make the Set
look cheaper than it is; the premium has to make up for the difference.
-/

namespace SetProtocol

open PreciseUnitMath ModuleBase

/-- Two sums over sets that differ in one element only. -/
theorem sum_le_sum_add_of_erase_eq {α : Type} [DecidableEq α] {s t : Finset α} {f g : α → ℚ}
    {r : α} {δ : ℚ} (herase : s.erase r = t.erase r) (hle : ∀ c ∈ t.erase r, f c ≤ g c)
    (hmem : r ∈ s → f r ≤ g r + δ) (hnonneg : 0 ≤ g r + δ) (hzero : r ∉ t → g r = 0) :
    ∑ c ∈ s, f c ≤ ∑ c ∈ t, g c + δ := by
  have hleft : ∑ c ∈ s, f c ≤ ∑ c ∈ s.erase r, f c + (g r + δ) := by
    by_cases hr : r ∈ s
    · rw [← Finset.sum_erase_add s f hr]
      gcongr
      exact hmem hr
    · rw [Finset.erase_eq_of_notMem hr]
      linarith
  have hright : ∑ c ∈ t, g c = ∑ c ∈ t.erase r, g c + g r := by
    by_cases hr : r ∈ t
    · exact (Finset.sum_erase_add t g hr).symm
    · rw [Finset.erase_eq_of_notMem hr, hzero hr, add_zero]
  calc ∑ c ∈ s, f c ≤ ∑ c ∈ t.erase r, f c + (g r + δ) := herase ▸ hleft
    _ ≤ ∑ c ∈ t.erase r, g c + (g r + δ) := by
        gcongr with c hc
        exact hle c hc
    _ = ∑ c ∈ t, g c + δ := by rw [hright, add_assoc]

namespace CustomOracleNAVIssuanceModule

variable {m : CustomOracleNAVIssuanceModule} {w w₁ w₂ : World} {env env' : Env}
  {issued redeemed : ActionInfo} {reserveAsset recipient recipient' : Address}
  {quantity minimum minimum' : ℕ}

/-- The unit that an issue carries over: the rounded unit of the reserve asset, which is written
anew, and the unrounded units of the other components, which are rescaled. -/
def carriedUnit (w : World) (reserveAsset component : Address) : ℚ :=
  if component = reserveAsset then
    w.setToken.defaultRealUnit component
  else
    w.setToken.defaultPositionVirtualUnit component * w.setToken.positionMultiplier / preciseUnitInt

/-- The value of the Set and of a deposit of `net`, in precise units of the reserve asset, without
any rounding but that of the reserve asset's own unit. -/
def exactValue (w : World) (oracle : PriceOracle) (reserveAsset : Address) (net : ℕ) : ℚ :=
  SetValuer.quoteRate oracle reserveAsset *
    (∑ c ∈ w.setToken.components.toFinset,
        SetValuer.exactComponentValue w oracle
          (w.setToken.totalSupply * carriedUnit w reserveAsset c / preciseUnit) c +
      SetValuer.exactComponentValue w oracle net reserveAsset)

theorem exactComponentValue_mul (w : World) (oracle : PriceOracle) (a units : ℚ) (c : Address) :
    SetValuer.exactComponentValue w oracle (a * units) c =
      a * SetValuer.exactComponentValue w oracle units c := by
  unfold SetValuer.exactComponentValue
  ring

theorem exactComponentValue_mono (w : World) (oracle : PriceOracle) {units units' : ℚ}
    (h : units ≤ units') (c : Address) :
    SetValuer.exactComponentValue w oracle units c ≤
      SetValuer.exactComponentValue w oracle units' c := by
  unfold SetValuer.exactComponentValue
  gcongr

/-- The amount of a component that the rescaled unit stands for is at most the amount that the
unrounded unit stood for. -/
theorem Rescale.supply_mul_unit_le {newUnit : ℕ} (h : Rescale w w₁ reserveAsset newUnit)
    (hm : 0 < w.setToken.positionMultiplier) {c : Address} (hc : c ∈ w.setToken.components)
    (hne : c ≠ reserveAsset) :
    (w₁.setToken.totalSupply : ℚ) * w₁.setToken.defaultRealUnit c ≤
      w.setToken.totalSupply * carriedUnit w reserveAsset c := by
  have hpos : (0 : ℚ) < preciseUnitInt := by exact_mod_cast preciseUnitInt_pos
  have hfloor : w₁.setToken.defaultRealUnit c * preciseUnitInt ≤
      w.setToken.defaultPositionVirtualUnit c * w₁.setToken.positionMultiplier := by
    unfold SetToken.defaultRealUnit SetToken.realUnit
    rw [h.other_unit c hne]
    exact Int.ediv_mul_le _ preciseUnitInt_pos.ne'
  have hscaled : (w₁.setToken.totalSupply : ℤ) * w₁.setToken.defaultRealUnit c * preciseUnitInt ≤
      w.setToken.totalSupply *
        (w.setToken.defaultPositionVirtualUnit c * w.setToken.positionMultiplier) := by
    calc (w₁.setToken.totalSupply : ℤ) * w₁.setToken.defaultRealUnit c * preciseUnitInt
        = w₁.setToken.totalSupply * (w₁.setToken.defaultRealUnit c * preciseUnitInt) := by ring
      _ ≤ w₁.setToken.totalSupply *
            (w.setToken.defaultPositionVirtualUnit c * w₁.setToken.positionMultiplier) :=
          mul_le_mul_of_nonneg_left hfloor (Int.natCast_nonneg _)
      _ = w.setToken.defaultPositionVirtualUnit c *
            (w₁.setToken.totalSupply * w₁.setToken.positionMultiplier) := by ring
      _ ≤ w.setToken.defaultPositionVirtualUnit c *
            (w.setToken.totalSupply * w.setToken.positionMultiplier) :=
          mul_le_mul_of_nonneg_left (h.product_le hm) (h.units_nonneg c hc)
      _ = _ := by ring
  unfold carriedUnit
  rw [if_neg hne, mul_div_assoc', le_div_iff₀ hpos]
  exact_mod_cast hscaled

/-- The rewritten unit of the reserve asset stands for at most the tracked amount and the
deposit. -/
theorem IssueAmounts.supply_mul_unit_le
    (h : m.IssueAmounts w env reserveAsset quantity issued)
    (hrescale : Rescale w w₁ reserveAsset issued.newReservePositionUnit)
    (hsupply : w₁.setToken.totalSupply = issued.newSetTokenSupply) :
    (w₁.setToken.totalSupply : ℚ) * w₁.setToken.defaultRealUnit reserveAsset ≤
      w.setToken.totalSupply * carriedUnit w reserveAsset reserveAsset +
        preciseUnit * issued.netFlowQuantity := by
  have hunit : w₁.setToken.totalSupply * issued.newReservePositionUnit ≤
      (trackedReserve w reserveAsset + issued.netFlowQuantity) * preciseUnit := by
    rw [hsupply, h.newUnit, mul_comm]
    exact Nat.div_mul_le_self _ _
  have hint : (w₁.setToken.totalSupply : ℤ) * w₁.setToken.defaultRealUnit reserveAsset ≤
      w.setToken.totalSupply * w.setToken.defaultRealUnit reserveAsset +
        preciseUnitInt * issued.netFlowQuantity := by
    calc (w₁.setToken.totalSupply : ℤ) * w₁.setToken.defaultRealUnit reserveAsset
        ≤ w₁.setToken.totalSupply * issued.newReservePositionUnit :=
          mul_le_mul_of_nonneg_left hrescale.unit_le (Int.natCast_nonneg _)
      _ ≤ (trackedReserve w reserveAsset + issued.netFlowQuantity) * preciseUnitInt := by
          rw [preciseUnitInt_eq]
          exact_mod_cast hunit
      _ = trackedReserve w reserveAsset * preciseUnitInt +
            preciseUnitInt * issued.netFlowQuantity := by ring
      _ ≤ _ := by
          have := trackedReserve_mul_le h.unit_nonneg
          omega
  unfold carriedUnit
  rw [if_pos rfl]
  rw [preciseUnitInt_eq] at hint
  exact_mod_cast hint

theorem exactComponentValue_add (w : World) (oracle : PriceOracle) (a b : ℚ) (c : Address) :
    SetValuer.exactComponentValue w oracle (a + b) c =
      SetValuer.exactComponentValue w oracle a c + SetValuer.exactComponentValue w oracle b c := by
  unfold SetValuer.exactComponentValue
  ring

/-- What all units stand for after an issue is worth at most what the carried units stood for before
it, together with the deposit. -/
theorem sum_exactComponentValue_le
    (hamounts : m.IssueAmounts w env reserveAsset quantity issued)
    (hrescale : Rescale w w₁ reserveAsset issued.newReservePositionUnit)
    (hsupply : w₁.setToken.totalSupply = issued.newSetTokenSupply)
    (hinvariant : w.setToken.PositionInvariant) (oracle : PriceOracle) :
    ∑ c ∈ w₁.setToken.components.toFinset, SetValuer.exactComponentValue w oracle
        (w₁.setToken.totalSupply * w₁.setToken.defaultRealUnit c) c ≤
      ∑ c ∈ w.setToken.components.toFinset, SetValuer.exactComponentValue w oracle
          (w.setToken.totalSupply * carriedUnit w reserveAsset c) c +
        SetValuer.exactComponentValue w oracle (preciseUnit * issued.netFlowQuantity)
          reserveAsset := by
  -- The reserve asset may enter or leave the list; the other components stay.
  have herase : w₁.setToken.components.toFinset.erase reserveAsset =
      w.setToken.components.toFinset.erase reserveAsset := by
    ext c
    simp only [Finset.mem_erase, List.mem_toFinset]
    exact and_congr_right fun hne ↦ hrescale.other_mem c hne
  apply sum_le_sum_add_of_erase_eq herase
  · intro c hc
    rw [Finset.mem_erase, List.mem_toFinset] at hc
    exact exactComponentValue_mono w oracle
      (hrescale.supply_mul_unit_le hinvariant.multiplier_pos hc.2 hc.1) c
  · intro _
    rw [← exactComponentValue_add]
    exact exactComponentValue_mono w oracle (hamounts.supply_mul_unit_le hrescale hsupply)
      reserveAsset
  · have hunit : (0 : ℚ) ≤ w.setToken.defaultRealUnit reserveAsset := by
      exact_mod_cast hamounts.unit_nonneg
    unfold SetValuer.exactComponentValue carriedUnit
    rw [if_pos rfl]
    positivity
  · intro hnot
    rw [List.mem_toFinset, hinvariant.mem_components, not_or] at hnot
    have hzero : w.setToken.defaultPositionVirtualUnit reserveAsset = 0 :=
      le_antisymm (not_lt.mp hnot.1) (hinvariant.default_nonneg reserveAsset)
    simp [SetValuer.exactComponentValue, carriedUnit, SetToken.defaultRealUnit, hzero]

/-- After an issue the valuation of the whole supply is at most the exact value before it. -/
theorem supply_mul_valuation_le
    (hamounts : m.IssueAmounts w env reserveAsset quantity issued)
    (hrescale : Rescale w w₁ reserveAsset issued.newReservePositionUnit)
    (hsupply : w₁.setToken.totalSupply = issued.newSetTokenSupply)
    (hinvariant : w.setToken.PositionInvariant)
    (hexternal : ∀ c, w.setToken.externalPositionModules c = [])
    (hunits : ∀ c ∈ w₁.setToken.components, 0 ≤ w₁.setToken.defaultRealUnit c)
    {oracle : PriceOracle} {valuation : ℕ}
    (hvaluation : SetValuer.calculateSetTokenValuation w₁ oracle reserveAsset = .ok valuation) :
    (w₁.setToken.totalSupply : ℚ) * valuation ≤
      preciseUnit * exactValue w oracle reserveAsset issued.netFlowQuantity := by
  have hvalue : ∀ units c, SetValuer.exactComponentValue w₁ oracle units c =
      SetValuer.exactComponentValue w oracle units c := by
    intro units c
    simp only [SetValuer.exactComponentValue, hrescale.decimals]
  have hbound := SetValuer.calculateSetTokenValuation_le hvaluation
    (fun c _ ↦ (hrescale.externalPositionModules c).trans (hexternal c)) hunits
  rw [← List.sum_toFinset _ (hrescale.nodup hinvariant.components_nodup)] at hbound
  have hunit : (preciseUnit : ℚ) ≠ 0 := by exact_mod_cast preciseUnit_pos.ne'
  have hscaled : ∀ c, SetValuer.exactComponentValue w oracle
        (w.setToken.totalSupply * carriedUnit w reserveAsset c) c =
      preciseUnit * SetValuer.exactComponentValue w oracle
        (w.setToken.totalSupply * carriedUnit w reserveAsset c / preciseUnit) c := by
    intro c
    rw [← exactComponentValue_mul, mul_div_cancel₀ _ hunit]
  calc (w₁.setToken.totalSupply : ℚ) * valuation
      ≤ w₁.setToken.totalSupply * (SetValuer.quoteRate oracle reserveAsset *
          ∑ c ∈ w₁.setToken.components.toFinset,
            SetValuer.exactComponentValue w₁ oracle (w₁.setToken.defaultRealUnit c) c) := by
        gcongr
    _ = SetValuer.quoteRate oracle reserveAsset * ∑ c ∈ w₁.setToken.components.toFinset,
          SetValuer.exactComponentValue w oracle
            (w₁.setToken.totalSupply * w₁.setToken.defaultRealUnit c) c := by
        rw [mul_left_comm, Finset.mul_sum]
        simp only [hvalue, exactComponentValue_mul]
    _ ≤ SetValuer.quoteRate oracle reserveAsset *
          (∑ c ∈ w.setToken.components.toFinset, SetValuer.exactComponentValue w oracle
              (w.setToken.totalSupply * carriedUnit w reserveAsset c) c +
            SetValuer.exactComponentValue w oracle (preciseUnit * issued.netFlowQuantity)
              reserveAsset) :=
        mul_le_mul_of_nonneg_left
          (sum_exactComponentValue_le hamounts hrescale hsupply hinvariant oracle)
          (SetValuer.quoteRate_nonneg oracle reserveAsset)
    _ = preciseUnit * exactValue w oracle reserveAsset issued.netFlowQuantity := by
        unfold exactValue
        simp only [hscaled, ← Finset.mul_sum]
        rw [exactComponentValue_mul w oracle preciseUnit]
        ring

/-- Chaining the mint, the valuation and the payout. -/
theorem payout_mul_le {unit premium paid net minted assessed exact supply valuation base : ℚ}
    (hunit : 0 < unit) (hpremium : premium ≤ unit) (hnet : 0 ≤ net) (hassessed : 0 ≤ assessed)
    (hvaluation : 0 ≤ valuation)
    (hminted : minted * assessed * base ≤ net * unit * supply)
    (hvalue : supply * valuation ≤ unit * exact)
    (hpaid : paid * unit * unit * unit ≤ minted * valuation * base * (unit - premium)) :
    paid * unit * assessed ≤ (unit - premium) * net * exact := by
  have hkept : 0 ≤ unit - premium := sub_nonneg.mpr hpremium
  refine le_of_mul_le_mul_right ?_ (mul_pos hunit hunit)
  calc paid * unit * assessed * (unit * unit) = paid * unit * unit * unit * assessed := by ring
    _ ≤ minted * valuation * base * (unit - premium) * assessed := by gcongr
    _ = minted * assessed * base * (valuation * (unit - premium)) := by ring
    _ ≤ net * unit * supply * (valuation * (unit - premium)) := by gcongr
    _ = net * unit * (unit - premium) * (supply * valuation) := by ring
    _ ≤ net * unit * (unit - premium) * (unit * exact) := by gcongr
    _ = (unit - premium) * net * exact * (unit * unit) := by ring

/-- A redeemer who has just issued is paid at most the deposit times the ratio of the exact value to
the assessed value, less the premium.  No profit is made when the premium covers the difference of
the two values. -/
theorem roundTrip_le
    (hissue : m.issue w env reserveAsset quantity minimum recipient = .ok (w₁, issued))
    (hredeem : m.redeem w₁ env' reserveAsset issued.setTokenQuantity minimum' recipient' =
      .ok (w₂, redeemed))
    (horacle : env'.priceOracle = env.priceOracle) (hvaluer : m.settings.setValuer = 0)
    (hvalid : ValidSettings m.settings) (hinvariant : w.setToken.PositionInvariant)
    (hexternal : ∀ c, w.setToken.externalPositionModules c = [])
    (hsender : env.sender ≠ w.setToken.address) (hsender' : env'.sender ≠ w.setToken.address) :
    (redeemed.netFlowQuantity : ℚ) * preciseUnit *
        assessedValue w env.priceOracle reserveAsset issued.netFlowQuantity ≤
      (preciseUnit - m.settings.premiumPercentage) * issued.netFlowQuantity *
        exactValue w env.priceOracle reserveAsset issued.netFlowQuantity ∧
    ((preciseUnit - m.settings.premiumPercentage) *
        exactValue w env.priceOracle reserveAsset issued.netFlowQuantity ≤
      preciseUnit * assessedValue w env.priceOracle reserveAsset issued.netFlowQuantity →
      redeemed.netFlowQuantity ≤ quantity) := by
  obtain ⟨hamounts, hrescale, hsupply, -⟩ := issue_ok hissue hsender
  rw [← hrescale.address] at hsender'
  obtain ⟨hredeemed, hrescale', -, -⟩ := redeem_ok hredeem hsender'
  obtain ⟨hassessed, hminted⟩ := getSetTokenMintQuantity_le hamounts.minted hvaluer
  obtain ⟨valuation, hvaluation, hpaid⟩ := getRedeemReserveQuantity_le hredeemed.paid hvaluer hvalid
  rw [horacle] at hvaluation
  have hunits : ∀ c ∈ w₁.setToken.components, 0 ≤ w₁.setToken.defaultRealUnit c := by
    intro c hc
    exact SetToken.realUnit_nonneg hrescale.multiplier_pos (hrescale'.units_nonneg c hc)
  have hvalue := supply_mul_valuation_le hamounts hrescale hsupply hinvariant hexternal hunits
    hvaluation
  rw [hrescale.decimals] at hpaid
  rw [← hamounts.supply, ← hsupply] at hminted
  have hnet : redeemed.netFlowQuantity ≤ redeemed.preFeeReserveQuantity :=
    getFees_net_le hredeemed.fees
  have hpremium : m.settings.premiumPercentage ≤ preciseUnit :=
    (hvalid.premiumPercentage_le.trans_lt hvalid.maxPremiumPercentage_lt).le
  have hpaidNet : (redeemed.netFlowQuantity : ℚ) * preciseUnit * preciseUnit * preciseUnit ≤
      issued.setTokenQuantity * valuation *
        SetValuer.baseUnits (w.erc20 reserveAsset).decimals *
          (preciseUnit - m.settings.premiumPercentage) := by
    rw [← Nat.cast_sub hpremium]
    have hmono : redeemed.netFlowQuantity * preciseUnit * preciseUnit * preciseUnit ≤
        redeemed.preFeeReserveQuantity * preciseUnit * preciseUnit * preciseUnit := by
      gcongr
    exact_mod_cast hmono.trans hpaid
  have hbound := payout_mul_le (by exact_mod_cast preciseUnit_pos) (by exact_mod_cast hpremium)
    (Nat.cast_nonneg issued.netFlowQuantity) (Nat.cast_nonneg _) (Nat.cast_nonneg valuation)
    (by exact_mod_cast hminted) hvalue hpaidNet
  refine ⟨hbound, ?_⟩
  intro hcovers
  have hpos : (0 : ℚ) < preciseUnit *
      assessedValue w env.priceOracle reserveAsset issued.netFlowQuantity := by
    exact_mod_cast Nat.mul_pos preciseUnit_pos hassessed
  have hle : (redeemed.netFlowQuantity : ℚ) ≤ issued.netFlowQuantity := by
    refine le_of_mul_le_mul_right ?_ hpos
    calc (redeemed.netFlowQuantity : ℚ) *
          (preciseUnit * assessedValue w env.priceOracle reserveAsset issued.netFlowQuantity)
        = redeemed.netFlowQuantity * preciseUnit *
            assessedValue w env.priceOracle reserveAsset issued.netFlowQuantity := by ring
      _ ≤ (preciseUnit - m.settings.premiumPercentage) * issued.netFlowQuantity *
            exactValue w env.priceOracle reserveAsset issued.netFlowQuantity := hbound
      _ = issued.netFlowQuantity * ((preciseUnit - m.settings.premiumPercentage) *
            exactValue w env.priceOracle reserveAsset issued.netFlowQuantity) := by ring
      _ ≤ issued.netFlowQuantity * (preciseUnit *
            assessedValue w env.priceOracle reserveAsset issued.netFlowQuantity) := by gcongr
  exact (Nat.cast_le.mp hle).trans (getFees_net_le hamounts.fees)

namespace RoundTripSample

/-- One Set with ten of the reserve asset 8 and with virtual unit 19 of component 7 at multiplier
0.1: the real unit is 1, and the SetToken holds 2, which covers the unrounded unit as well. -/
def world : World where
  controller := { Controller.enabling 4 [20] with isSet := fun a ↦ a == 6 }
  setToken := { SetToken.launched 6 [7, 8] [19, 10 ^ 20] [20] 2 9 (10 ^ 18) with
    positionMultiplier := 10 ^ 17 }
  chain := { tokens := fun a ↦
    if a = 7 then ERC20.holding 0 [(6, 2)] 0
    else ERC20.holding 18 [(6, 10 ^ 19), (9, 10 ^ 19)] (10 ^ 19) }
  log := []

/-- No fees, the valuer of the Controller, and the given premium. -/
def module (premium : ℕ) : CustomOracleNAVIssuanceModule where
  address := 20
  settings := ⟨0, 0, 0, [8], 9, 0, 0, 0, premium, 10 ^ 17, 1⟩
  isReserveAsset := fun a ↦ a == 8

/-- Every token is worth one of the reserve asset. -/
def oracleEnv : Env :=
  { Env.plain 9 0 with priceOracle := ⟨8, fun _ _ ↦ .ok (10 ^ 18)⟩ }

def noResult : World × ActionInfo := (world, ⟨0, 0, 0, 0, 0, 0, 0, 0, 0⟩)

/-- A deposit of 0.8 of the reserve asset. -/
def issue (premium : ℕ) : Outcome (World × ActionInfo) :=
  (module premium).issue world oracleEnv 8 (8 * 10 ^ 17) 0 9

def afterIssue (premium : ℕ) : World × ActionInfo := (issue premium).getD noResult

def redeem (premium : ℕ) : Outcome (World × ActionInfo) :=
  (module premium).redeem (afterIssue premium).1 oracleEnv 8 (afterIssue premium).2.setTokenQuantity 0 9

def afterRedeem (premium : ℕ) : World × ActionInfo := (redeem premium).getD noResult

theorem issue_eq (premium : ℕ) (h : (issue premium).isOk = true) :
    (module premium).issue world oracleEnv 8 (8 * 10 ^ 17) 0 9 =
      .ok ((afterIssue premium).1, (afterIssue premium).2) :=
  Outcome.eq_ok_getD noResult h

theorem redeem_eq (premium : ℕ) (h : (redeem premium).isOk = true) :
    (module premium).redeem (afterIssue premium).1 oracleEnv 8 (afterIssue premium).2.setTokenQuantity 0 9 =
      .ok ((afterRedeem premium).1, (afterRedeem premium).2) :=
  Outcome.eq_ok_getD noResult h

/-- Without a premium the round trip pays about 0.805 for 0.8, although the Set is fully
collateralized. -/
theorem redeemed_more_than_deposited :
    world.Collateralized ∧ (∀ c ∈ world.setToken.components, ExactlyCovered world c) ∧
      (issue 0).isOk = true ∧ (redeem 0).isOk = true ∧
      8 * 10 ^ 17 < (afterRedeem 0).2.netFlowQuantity := by
  refine ⟨by decide +kernel, ?_, by decide +kernel, by decide +kernel, by decide +kernel⟩
  have hmem : world.setToken.components = [7, 8] := rfl
  rw [hmem]
  exact List.forall_mem_cons.mpr ⟨by decide +kernel, List.forall_mem_singleton.mpr (by decide +kernel)⟩

theorem world_positionInvariant : world.setToken.PositionInvariant := by
  have hnew : (SetToken.new 6 [7, 8] [19, 10 ^ 20] [20] 2).PositionInvariant :=
    SetToken.new_positionInvariant (by decide) rfl (by simp)
  have hlaunched : (SetToken.launched 6 [7, 8] [19, 10 ^ 20] [20] 2 9 (10 ^ 18)).PositionInvariant :=
    hnew.of_same_positions rfl rfl rfl
  have hedit : (SetToken.launched 6 [7, 8] [19, 10 ^ 20] [20] 2 9 (10 ^ 18)).editPositionMultiplier
      world.controller 20 (10 ^ 17) = .ok world.setToken := by
    rw [SetToken.editPositionMultiplier_eq_ok]
    exact ⟨⟨by decide +kernel, by decide +kernel, by decide +kernel⟩, by decide +kernel, rfl⟩
  exact hlaunched.editPositionMultiplier hedit

/-- A premium of ten percent covers what the valuation rounds away. -/
theorem redeemed_at_most_deposited : (afterRedeem (10 ^ 17)).2.netFlowQuantity ≤ 8 * 10 ^ 17 := by
  refine (roundTrip_le (issue_eq (10 ^ 17) (by decide +kernel))
    (redeem_eq (10 ^ 17) (by decide +kernel)) rfl rfl
    ⟨by decide, by decide, by decide, by decide, by decide⟩ world_positionInvariant ?_
    (by decide) (by decide)).2 ?_
  · intro c
    exact SetToken.new_externalPositionModules 6 [7, 8] [19, 10 ^ 20] [20] 2 c
  · decide +kernel

end RoundTripSample

end CustomOracleNAVIssuanceModule

end SetProtocol
