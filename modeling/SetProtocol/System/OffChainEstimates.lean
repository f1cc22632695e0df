import SetProtocol.System.DebtReplication
import SetProtocol.System.PerpPositions
import SetProtocol.System.SharedCollateral

/-!
# Estimates of issuance amounts

`SlippageIssuanceModule` lets a caller ask for the amounts of an issue or a redemption in advance.
The estimate simulates the trades of Perp and corrects the stored units by the difference that the
module hook will make.  It differs from what is transferred in two cases: without open positions the
estimate takes the account to be empty, while the hook counts the collateral in the vault; and a
negative stored unit counts as debt, while the correction is made to the equity.
-/

namespace SetProtocol

open PreciseUnitMath ModuleBase

/-! ## Simulated and executed trades -/

namespace PerpV2LeverageModuleV2

variable {m m' : PerpV2LeverageModuleV2} {w w' v v' : World} {env : Env} {caller : Address}
  {quantity : ℕ} {isIssue isSimulation : Bool}

/-- A call that trades one of the base tokens. -/
def TradeIn (m : PerpV2LeverageModuleV2) (isSimulation : Bool) (baseTokens : List Address)
    (invocation : Invocation) : Prop :=
  ∃ action : PerpActionInfo, action.baseToken ∈ baseTokens ∧
    invocation = m.tradeCall action isSimulation

/-- A simulated trade returns the same words as the executed one, whatever was traded before in other
markets. -/
def SameDeltas (m : PerpV2LeverageModuleV2) (env : Env) (w : World) : Prop :=
  ∀ (baseTokens : List Address) (action : PerpActionInfo) (v v' : World),
    action.baseToken ∉ baseTokens → action.oppositeAmountBound = 0 →
    World.Calls env (m.TradeIn true baseTokens) w v →
    World.Calls env (m.TradeIn false baseTokens) w v' →
    env.returnData (m.tradeCall action true) v.chain =
      env.returnData (m.tradeCall action false) v'.chain

/-- One pass of the loop over the positions: a trade in the market of the position, and a value that
depends on the words it returns only. -/
theorem tradePosition_ok {total supply value value' : ℤ} {info : PositionNotionalInfo}
    (h : m.tradePosition env total supply isIssue isSimulation (v, value) info =
      .ok (v', value')) :
    ∃ notional, let action := positionTrade isIssue info.baseToken notional
      ((info.baseBalance * preciseUnitInt).tdiv supply * total).tdiv preciseUnitInt = notional ∧
      v.invoke env m.address (m.tradeCall action isSimulation) = .ok v' ∧
      ∃ deltas, decodeDeltas (env.returnData (m.tradeCall action isSimulation) v.chain) =
        .ok deltas ∧ value' = value + if 0 ≤ notional then (deltas.2 : ℤ) else -deltas.2 := by
  simp only [tradePosition, runTrade, Outcome.bind_eq_ok, Outcome.pure_eq_ok,
    SafeCast.toInt256_eq_ok, Prod.exists, Prod.mk.injEq] at h
  obtain ⟨unit, hunit, notional, hnotional, traded, htraded, action, haction, _, _, _,
    ⟨_, hinvoke, _, _, hdecode, rfl, rfl, rfl⟩, _, ⟨-, rfl⟩, _, hadd, rfl, rfl⟩ := h
  obtain rfl := createActionInfoNotional_ok htraded haction
  refine ⟨notional, ?_, hinvoke, _, hdecode, addQuote_ok hadd⟩
  rw [← (preciseDivInt_eq_of_ok hunit).2, ← preciseMulInt_eq_of_ok hnotional]

/-- The loops of the simulation and of the execution run in step: the markets traded so far are the
same, and so is the value. -/
theorem tradeLoops_eq {total supply value x x' : ℤ} {infos : List PositionNotionalInfo}
    {done : List Address} {u u' : World} (hsame : m.SameDeltas env w)
    (hnodup : (done ++ infos.map PositionNotionalInfo.baseToken).Nodup)
    (hv : World.Calls env (m.TradeIn true done) w v)
    (hv' : World.Calls env (m.TradeIn false done) w v')
    (h : infos.foldlM (m.tradePosition env total supply isIssue true) (v, value) = .ok (u, x))
    (h' : infos.foldlM (m.tradePosition env total supply isIssue false) (v', value) =
      .ok (u', x')) : x = x' := by
  induction infos generalizing done v v' value with
  | nil =>
    obtain ⟨-, rfl⟩ := Prod.mk.inj (Outcome.pure_eq_ok.mp h)
    exact (Prod.mk.inj (Outcome.pure_eq_ok.mp h')).2
  | cons info infos ih =>
    simp only [List.foldlM_cons, Outcome.bind_eq_ok, Prod.exists] at h h'
    obtain ⟨t, y, hstep, h⟩ := h
    obtain ⟨t', y', hstep', h'⟩ := h'
    obtain ⟨notional, hnotional, hinvoke, deltas, hdeltas, rfl⟩ := tradePosition_ok hstep
    obtain ⟨notional', hnotional', hinvoke', deltas', hdeltas', rfl⟩ := tradePosition_ok hstep'
    obtain rfl : notional = notional' := hnotional.symm.trans hnotional'
    have hfresh : info.baseToken ∉ done := by
      intro hmem
      rw [List.nodup_append] at hnodup
      exact hnodup.2.2 _ hmem _ List.mem_cons_self rfl
    rw [hsame done _ v v' hfresh rfl hv hv', hdeltas'] at hdeltas
    obtain rfl := Except.ok.inj hdeltas
    have hgrow : ∀ isSimulation i, m.TradeIn isSimulation done i →
        m.TradeIn isSimulation (done ++ [info.baseToken]) i := by
      rintro isSimulation i ⟨action, hmem, rfl⟩
      exact ⟨action, List.mem_append_left _ hmem, rfl⟩
    have hlast : ∀ isSimulation, m.TradeIn isSimulation (done ++ [info.baseToken])
        (m.tradeCall (positionTrade isIssue info.baseToken notional) isSimulation) :=
      fun _ ↦ ⟨_, List.mem_append_right _ List.mem_cons_self, rfl⟩
    have hrest : (done ++ [info.baseToken] ++ infos.map PositionNotionalInfo.baseToken).Nodup := by
      simpa using hnodup
    have ht := (hv.mono (hgrow true)).trans (World.invoke_calls (hlast true) hinvoke)
    have ht' := (hv'.mono (hgrow false)).trans (World.invoke_calls (hlast false) hinvoke')
    exact ih hrest ht ht' h h'

theorem syncPositionList_nodup (h : m.syncPositionList w = .ok m') (hnodup : m.positions.Nodup) :
    m'.positions.Nodup := by
  simp only [syncPositionList, Outcome.bind_eq_ok, Outcome.pure_eq_ok] at h
  obtain ⟨positions, hloop, rfl⟩ := h
  apply Outcome.foldlM_invariant (P := List.Nodup) ?_ hloop hnodup
  intro l c l' hstep hl
  obtain ⟨-, rfl⟩ | ⟨-, hcl, rfl⟩ := syncPosition_cases hstep
  · exact hl
  · exact SwapRemove.nodup_swapRemove hcl hl

theorem SameContracts.sameDeltas (h : m.SameContracts m') (hsame : m.SameDeltas env w) :
    m'.SameDeltas env w := by
  have htrade : ∀ isSimulation, m'.TradeIn isSimulation = m.TradeIn isSimulation := by
    intro isSimulation
    funext baseTokens invocation
    simp only [TradeIn, h.tradeCall]
  intro baseTokens action v v' hfresh hbound hv hv'
  rw [htrade] at hv hv'
  rw [h.tradeCall, h.tradeCall]
  exact hsame baseTokens action v v' hfresh hbound hv hv'

/-- The simulation and the execution of the trades arrive at the same unit. -/
theorem executePositionTrades_eq {n n' : PerpV2LeverageModuleV2} {unit unit' : ℤ}
    (hsame : m.SameDeltas env w) (hnodup : m.positions.Nodup)
    (h : m.executePositionTrades w env quantity isIssue true = .ok (n, v, unit))
    (h' : m.executePositionTrades w env quantity isIssue false = .ok (n', v', unit')) :
    unit = unit' := by
  simp only [executePositionTrades, tradePositions, Outcome.bind_eq_ok, Outcome.pure_eq_ok,
    Prod.exists, Prod.mk.injEq] at h h'
  obtain ⟨l, hsync, q, hq, u, x, ⟨start, hstart, value, hvalue, supply, hsupply, hloop⟩, _, hunit,
    rfl, rfl, rfl⟩ := h
  obtain ⟨l', hsync', q', hq', u', x', ⟨start', hstart', value', hvalue', supply', hsupply', hloop'⟩,
    _, hunit', rfl, rfl, rfl⟩ := h'
  obtain rfl : l = l' := Except.ok.inj (hsync.symm.trans hsync')
  obtain rfl : q = q' := Except.ok.inj (hq.symm.trans hq')
  obtain rfl : start = start' := Except.ok.inj (hstart.symm.trans hstart')
  obtain rfl : value = value' := Except.ok.inj (hvalue.symm.trans hvalue')
  obtain rfl : supply = supply' := Except.ok.inj (hsupply.symm.trans hsupply')
  have htokens : ([] ++ (l.getPositionNotionalInfo w).map PositionNotionalInfo.baseToken).Nodup := by
    simpa [getPositionNotionalInfo, Function.comp_def] using syncPositionList_nodup hsync hnodup
  have hx : x = x' := tradeLoops_eq ((syncPositionList_sameContracts hsync).sameDeltas hsame) htokens
    (.refl w) (.refl w) hloop hloop'
  rw [hx] at hunit
  exact Except.ok.inj (hunit.symm.trans hunit')

/-- The estimate calls nothing but the quoter. -/
theorem estimatedPositionUnit_steady {n : PerpV2LeverageModuleV2} {unit : ℤ}
    (h : m.estimatedPositionUnit w env quantity isIssue = .ok (n, v, unit)) :
    m.SameContracts n ∧ w.Steady v := by
  unfold estimatedPositionUnit at h
  split_ifs at h
  · obtain ⟨hsame, hcalls⟩ : m.SameContracts n ∧ World.Calls env (fun _ ↦ True) w v :=
      executePositionTrades_calls (fun _ ↦ trivial) h
    exact ⟨hsame, hcalls.steady⟩
  · obtain ⟨rfl, rfl, -⟩ : m = n ∧ w = v ∧ 0 = unit := by simpa using h
    exact ⟨.refl m, .refl w⟩

theorem set_idxOf_zeros {components : List Address} (hnodup : components.Nodup) {token : Address}
    (hmem : token ∈ components) (x : ℤ) :
    (components.map fun _ ↦ (0 : ℤ)).set (components.idxOf token) x =
      components.map fun c ↦ if c = token then x else 0 := by
  induction components with
  | nil => cases hmem
  | cons c components ih =>
    obtain ⟨hnot, hnodup⟩ := List.nodup_cons.mp hnodup
    by_cases hc : c = token
    · subst hc
      rw [List.idxOf_cons_self, List.map_cons, List.set_cons_zero, List.map_cons, if_pos rfl]
      congr 1
      apply List.map_congr_left
      intro d hd
      have hne : d ≠ c := fun hdc ↦ hnot (hdc ▸ hd)
      rw [if_neg hne]
    · have htail : token ∈ components := (List.mem_cons.mp hmem).resolve_left fun h ↦ hc h.symm
      rw [List.idxOf_cons_ne _ hc, List.map_cons, List.set_cons_succ, ih hnodup htail,
        List.map_cons, if_neg hc]

theorem formatAdjustments_ok {token : Address} {current unit : ℤ} {equity debt : List ℤ}
    (hnodup : w.setToken.components.Nodup)
    (h : formatAdjustments w token current unit = .ok (equity, debt)) :
    equity = (w.setToken.components.map fun c ↦ if c = token then unit - current else 0) ∧
      debt = w.setToken.components.map fun _ ↦ 0 := by
  unfold formatAdjustments AddressArrayUtils.indexOf at h
  by_cases hmem : token ∈ w.setToken.components
  · simp only [hmem, if_true, Outcome.bind_eq_ok, SignedSafeMath.sub_eq_ok, Outcome.pure_eq_ok,
      Prod.mk.injEq] at h
    obtain ⟨_, ⟨-, rfl⟩, rfl, rfl⟩ := h
    exact ⟨set_idxOf_zeros hnodup hmem _, rfl⟩
  · simp only [hmem, if_false, Outcome.pure_eq_ok, Prod.mk.injEq] at h
    obtain ⟨rfl, rfl⟩ := h
    refine ⟨List.map_congr_left ?_, rfl⟩
    intro c hc
    have hne : c ≠ token := fun heq ↦ hmem (heq ▸ hc)
    rw [if_neg hne]

theorem getAdjustments_ok {setTokenQuantity : ℕ} {isIssue : Bool} {equity debt : List ℤ}
    (h : m.getAdjustments w env setTokenQuantity isIssue = .ok (n, v, equity, debt)) :
    ∃ unit, m.estimatedPositionUnit w env setTokenQuantity isIssue = .ok (n, v, unit) ∧
      formatAdjustments v n.collateralToken
        (v.setToken.externalRealUnit n.collateralToken n.address) unit = .ok (equity, debt) := by
  simp only [getAdjustments, Outcome.bind_eq_ok, Outcome.pure_eq_ok, Prod.exists, Prod.mk.injEq,
    SetToken.getExternalPositionRealUnit_eq_ok] at h
  obtain ⟨n, v, unit, hunit, _, ⟨-, rfl⟩, equity, debt, hformat, rfl, rfl, rfl, rfl⟩ := h
  exact ⟨unit, hunit, hformat⟩

end PerpV2LeverageModuleV2

/-! ## The estimated amounts -/

namespace SlippageIssuanceModule

open DebtIssuanceModule

variable {m : DebtIssuanceModule} {P P₁ P' : Protocol} {env : Env} {w v : World}
  {quantity total managerFee protocolFee : ℕ} {isIssue : Bool} {recipient : Address}
  {estimate : List (Address × ℕ × ℕ)} {checked : List Address} {limits : List ℕ}

theorem addAdjustments_zeros {components : List Address} {f : Address → ℤ} {sum : List ℤ}
    (h : addAdjustments (components.map fun _ ↦ 0) (components.map f) = .ok sum) :
    sum = components.map f := by
  unfold addAdjustments at h
  rw [List.zip_map'] at h
  have hmap : sum.map id = (components.map fun c ↦ ((0 : ℤ), f c)).map fun e ↦ e.1 + e.2 := by
    apply Outcome.map_eq_of_mapM ?_ h
    intro e x hx
    exact (SignedSafeMath.add_eq_ok.mp hx).2
  rw [List.map_id, List.map_map] at hmap
  rw [hmap]
  apply List.map_congr_left
  intro c _
  exact zero_add (f c)

theorem adjustedQuantities_ok {units : (Address × ℕ × ℕ) × ℤ × ℤ} {entry : Address × ℕ × ℕ}
    (h : adjustedQuantities total isIssue units = .ok entry) :
    entry = (units.1.1, equityAmount (units.1.2.1 + units.2.1).toNat total isIssue,
        debtAmount (units.1.2.2 - units.2.2).toNat total isIssue) ∧
      0 ≤ units.1.2.1 + units.2.1 := by
  simp only [adjustedQuantities, Outcome.bind_eq_ok, Outcome.pure_eq_ok, SafeCast.toInt256_eq_ok,
    SafeCast.toUint256_eq_ok, SignedSafeMath.add_eq_ok, SignedSafeMath.sub_eq_ok] at h
  obtain ⟨_, ⟨-, rfl⟩, _, ⟨-, rfl⟩, adjusted, hadjusted, _, hequity, _, ⟨-, rfl⟩, _, ⟨-, rfl⟩, owed,
    howed, _, hdebt, rfl⟩ := h
  rw [equityQuantity_eq hequity, debtQuantity_eq hdebt, hadjusted, howed, Int.toNat_natCast,
    Int.toNat_natCast]
  exact ⟨rfl, Int.natCast_nonneg adjusted⟩

/-- The equity that an estimate corrects the stored units to. -/
def adjustedUnit (P : Protocol) (unit : ℤ) (c : Address) : ℤ :=
  equityUnit P.world.setToken c + if c = P.perp.collateralToken then
    unit - P.world.setToken.externalRealUnit P.perp.collateralToken P.perp.address else 0

/-- The only hook adds the correction of its own position to arrays of zeros. -/
theorem calculateAdjustments_ok {equity debt : List ℤ}
    (hhooks : m.settings.moduleIssuanceHooks = [P.perp.address])
    (hnodup : P.world.setToken.components.Nodup)
    (h : calculateAdjustments m P env total isIssue = .ok (P', equity, debt)) :
    ∃ unit, P.perp.estimatedPositionUnit P.world env total isIssue =
        .ok (P'.perp, P'.world, unit) ∧
      (equity = P'.world.setToken.components.map fun c ↦ if c = P'.perp.collateralToken then
        unit - P'.world.setToken.externalRealUnit P'.perp.collateralToken P'.perp.address else 0) ∧
      debt = P'.world.setToken.components.map fun _ ↦ 0 := by
  simp only [calculateAdjustments, hhooks, List.foldlM_cons, List.foldlM_nil,
    accumulateAdjustments, hookAdjustments, if_true, Outcome.bind_eq_ok, Outcome.pure_eq_ok,
    Prod.exists, Prod.mk.injEq] at h
  obtain ⟨_, _, _, ⟨_, hookEquity, hookDebt, ⟨n, v, _, _, hhook, rfl, rfl, rfl⟩, _, hequity, _,
    hdebt, rfl, rfl, rfl⟩, rfl, rfl, rfl⟩ := h
  obtain ⟨unit, hunit, hformat⟩ := PerpV2LeverageModuleV2.getAdjustments_ok hhook
  obtain ⟨-, hsteady⟩ := PerpV2LeverageModuleV2.estimatedPositionUnit_steady hunit
  obtain ⟨t, ht, -⟩ := hsteady.setToken
  have hcomponents : v.setToken.components = P.world.setToken.components := by rw [ht]; rfl
  rw [← hcomponents] at hnodup hequity hdebt
  obtain ⟨rfl, rfl⟩ := PerpV2LeverageModuleV2.formatAdjustments_ok hnodup hformat
  exact ⟨unit, hunit, addAdjustments_zeros hequity, addAdjustments_zeros hdebt⟩

theorem estimate_ok (hhooks : m.settings.moduleIssuanceHooks = [P.perp.address])
    (hnodup : P.world.setToken.components.Nodup)
    (hfees : m.calculateTotalFees P.world quantity isIssue = .ok (total, managerFee, protocolFee))
    (h : getRequiredComponentUnitsOffChain m P env quantity isIssue = .ok estimate) :
    ∃ n v unit, P.perp.estimatedPositionUnit P.world env total isIssue = .ok (n, v, unit) ∧
      (estimate = P.world.setToken.components.map fun c ↦
        (c, equityAmount (adjustedUnit P unit c).toNat total isIssue,
          debtAmount (owedUnit P.world.setToken c).toNat total isIssue)) ∧
      ∀ c ∈ P.world.setToken.components, 0 ≤ adjustedUnit P unit c := by
  simp only [getRequiredComponentUnitsOffChain, hfees, Outcome.bind_eq_ok, Except.ok.injEq,
    Prod.exists, Prod.mk.injEq] at h
  obtain ⟨_, _, _, ⟨rfl, rfl, rfl⟩, P', _, _, hadjustments, hadjusted⟩ := h
  obtain ⟨unit, hunit, rfl, rfl⟩ := calculateAdjustments_ok hhooks hnodup hadjustments
  refine ⟨P'.perp, P'.world, unit, hunit, ?_⟩
  generalize P'.perp = n, P'.world = v at hunit hadjusted
  obtain ⟨hsame, hsteady⟩ := PerpV2LeverageModuleV2.estimatedPositionUnit_steady hunit
  obtain ⟨t, ht, -⟩ := hsteady.setToken
  have hcomponents : v.setToken.components = P.world.setToken.components := by rw [ht]; rfl
  simp only [calculateAdjustedComponentIssuanceUnits, Outcome.bind_eq_ok] at hadjusted
  obtain ⟨units, hunits, hadjusted⟩ := hadjusted
  obtain ⟨rfl, hnonneg⟩ := getTotalIssuanceUnits_ok hunits
  rw [hcomponents, List.zip_map', List.zip_map'] at hadjusted
  rw [hcomponents] at hnonneg
  have hs : ∀ c, equityUnit v.setToken c = equityUnit P.world.setToken c ∧
      owedUnit v.setToken c = owedUnit P.world.setToken c := by
    intro c
    rw [ht]
    exact ⟨rfl, rfl⟩
  have hadjustedUnit : ∀ c ∈ P.world.setToken.components,
      ((equityUnit v.setToken c).toNat : ℤ) + (if c = n.collateralToken then unit -
        v.setToken.externalRealUnit n.collateralToken n.address else 0) = adjustedUnit P unit c := by
    intro c hc
    rw [Int.toNat_of_nonneg (hnonneg c hc), (hs c).1, hsame.collateralToken, hsame.address,
      hsteady.externalRealUnit]
    rfl
  constructor
  · have hmap := Outcome.map_eq_of_mapM (g := id) (fun _ _ hx ↦ (adjustedQuantities_ok hx).1)
      hadjusted
    rw [List.map_id, List.map_map] at hmap
    rw [hmap]
    apply List.map_congr_left
    intro c hc
    simp only [Function.comp_apply, hadjustedUnit c hc, (hs c).2, sub_zero, Int.toNat_natCast]
  · intro c hc
    obtain ⟨entry, -, hentry⟩ := Outcome.mapM_of_mem hadjusted (List.mem_map_of_mem hc)
    rw [← hadjustedUnit c hc]
    exact (adjustedQuantities_ok hentry).2

/-! ## The units after the module hook -/

/-- A Set with a Perp account as external position, in a state that the modules can bring about. -/
structure PerpHeld (P : Protocol) : Prop where
  aave : P.perp.address ≠ P.aave.address
  compound : P.perp.address ≠ P.compound.address
  component : P.perp.collateralToken ∈ P.world.setToken.components
  nodup : P.world.setToken.components.Nodup
  listed : P.perp.address ∈ P.world.setToken.externalPositionModules P.perp.collateralToken
  modules_nodup : (P.world.setToken.externalPositionModules P.perp.collateralToken).Nodup
  multiplier : P.world.setToken.positionMultiplier = preciseUnitInt
  supply : 0 < P.world.setToken.totalSupply
  positions : P.perp.positions.Nodup

/-- The Perp account's stored unit. -/
def storedUnit (P : Protocol) : ℤ :=
  P.world.setToken.externalRealUnit P.perp.collateralToken P.perp.address

theorem realUnit_of_multiplier {s : SetToken} (h : s.positionMultiplier = preciseUnitInt) (v : ℤ) :
    s.realUnit v = v := by
  unfold SetToken.realUnit
  rw [h, Int.mul_ediv_cancel _ preciseUnitInt_pos.ne']

/-- What the module hook does to the SetToken: it writes a unit that is not negative. -/
structure Hooked (P P₁ : Protocol) (unit : ℤ) : Prop where
  modules : P.SameModules P₁
  components : P₁.world.setToken.components = P.world.setToken.components
  externalPositionModules : P₁.world.setToken.externalPositionModules =
    P.world.setToken.externalPositionModules
  defaultRealUnit : P₁.world.setToken.defaultRealUnit = P.world.setToken.defaultRealUnit
  externalRealUnit : ∀ c p, P₁.world.setToken.externalRealUnit c p =
    if c = P.perp.collateralToken ∧ p = P.perp.address then unit
    else P.world.setToken.externalRealUnit c p
  unit_nonneg : 0 ≤ unit

theorem issuedPositionUnit_nonneg {perp : PerpV2LeverageModuleV2} {value unit : ℤ}
    (h : perp.issuedPositionUnit value quantity isIssue = .ok unit) : 0 ≤ unit := by
  unfold PerpV2LeverageModuleV2.issuedPositionUnit at h
  have hquantity : (0 : ℤ) ≤ quantity := Int.natCast_nonneg quantity
  split_ifs at h with hvalue hissue
  · rw [← Outcome.pure_eq_ok.mp h]
  · simp only [UnitConversionUtils.fromPreciseUnitToDecimalsInt, Outcome.bind_eq_ok,
      SignedSafeMath.div_eq_ok] at h
    obtain ⟨ceil, hceil, -, -, rfl⟩ := h
    obtain ⟨hpos, rfl⟩ := preciseDivCeilInt_eq_of_ok (not_le.mp hvalue) hquantity hceil
    have hproduct := mul_pos (not_le.mp hvalue) preciseUnitInt_pos
    exact Int.tdiv_nonneg (Int.ediv_nonneg (by omega) hpos.le) (Int.natCast_nonneg _)
  · simp only [UnitConversionUtils.fromPreciseUnitToDecimalsInt, Outcome.bind_eq_ok,
      SignedSafeMath.div_eq_ok] at h
    obtain ⟨floor, hfloor, -, -, rfl⟩ := h
    obtain ⟨-, rfl⟩ := preciseDivInt_eq_of_ok hfloor
    have hproduct := mul_pos (not_le.mp hvalue) preciseUnitInt_pos
    exact Int.tdiv_nonneg (Int.tdiv_nonneg hproduct.le hquantity) (Int.natCast_nonneg _)

/-- The hook of Perp executes the trades and stores the unit that they make. -/
theorem PerpHeld.hooked (h : PerpHeld P)
    (hhooks : m.settings.moduleIssuanceHooks = [P.perp.address])
    (hpre : m.callModulePreHooks P env total isIssue = .ok P₁) :
    ∃ n v unit, P.perp.executePositionTrades P.world env total isIssue false = .ok (n, v, unit) ∧
      (unit ≠ 0 ↔ P.perp.WorthUnit P.world env total isIssue) ∧ Hooked P P₁ unit := by
  rw [callModulePreHooks_eq, hhooks, List.foldlM_cons] at hpre
  simp only [List.foldlM_nil, Outcome.bind_eq_ok, Outcome.pure_eq_ok] at hpre
  obtain ⟨Q, hhook, hQ⟩ := hpre
  have hdispatch : P.moduleHook env m.address total isIssue P.perp.address =
      P.onPerp (P.perp.moduleHook P.world env m.address total isIssue) := by
    unfold Protocol.moduleHook Protocol.moduleIssueHook Protocol.moduleRedeemHook
    rw [if_neg h.aave, if_neg h.compound, if_pos rfl, if_neg h.aave, if_neg h.compound, if_pos rfl]
    cases isIssue <;> rfl
  rw [hdispatch, hQ] at hhook
  obtain ⟨hhook, hP₁⟩ := Protocol.onPerp_ok hhook
  simp only [PerpV2LeverageModuleV2.moduleHook, Outcome.bind_eq_ok] at hhook
  obtain ⟨_, -, hhook⟩ := hhook
  have hlisted : Position.hasExternalPosition P.world.setToken P.perp.collateralToken ≠ false := by
    simp [Position.hasExternalPosition, List.length_eq_zero_iff, List.ne_nil_of_mem h.listed]
  rw [if_neg h.supply.ne', if_neg hlisted] at hhook
  simp only [World.onSetToken, Outcome.bind_eq_ok, Outcome.pure_eq_ok, Prod.exists,
    Prod.mk.injEq, SetToken.editExternalPositionUnit_eq_ok] at hhook
  obtain ⟨n, v, unit, htrades, _, ⟨_, ⟨-, stored, hstored, rfl⟩, rfl⟩, hperp, hworld⟩ := hhook
  refine ⟨n, v, unit, htrades, PerpV2LeverageModuleV2.executePositionTrades_ne_zero_iff htrades, ?_⟩
  obtain ⟨hsame, hcalls⟩ : P.perp.SameContracts n ∧ World.Calls env (fun _ ↦ True) P.world v :=
    PerpV2LeverageModuleV2.executePositionTrades_calls (fun _ ↦ trivial) htrades
  obtain ⟨t, ht, -⟩ := hcalls.steady.setToken
  have hmultiplier : v.setToken.positionMultiplier = preciseUnitInt := by
    rw [hcalls.steady.sameStatus.positionMultiplier, h.multiplier]
  have hunit : stored = unit := by
    have hstores := SetToken.convertRealToVirtualUnit_stores
      (hmultiplier ▸ preciseUnitInt_pos) hstored
    rw [hstores.eq_div, hmultiplier, Int.mul_ediv_cancel _ preciseUnitInt_pos.ne']
  rw [hsame.address, hsame.collateralToken] at hworld
  have hset : P₁.world.setToken = (P.world.setToken.setErc20 t).setExternalPosition
      P.perp.collateralToken P.perp.address ⟨unit, v.setToken.externalPositionData
        P.perp.collateralToken P.perp.address⟩ := by
    rw [← hworld, hunit, ← ht]
  constructor
  · rw [hP₁, ← hperp]
    exact ⟨rfl, rfl, rfl, hsame, rfl⟩
  · rw [hset]
    rfl
  · funext c
    rw [hset, SetToken.setExternalPosition_externalPositionModules]
    rfl
  · funext c
    rw [hset, SetToken.defaultRealUnit, SetToken.setExternalPosition_defaultPositionVirtualUnit]
    rfl
  · intro c p
    rw [hset, SetToken.externalRealUnit, SetToken.setExternalPosition_externalPositionVirtualUnit]
    split_ifs
    · exact realUnit_of_multiplier h.multiplier unit
    · rfl
  · simp only [PerpV2LeverageModuleV2.executePositionTrades, Outcome.bind_eq_ok,
      Outcome.pure_eq_ok, SafeCast.toInt256_eq_ok, Prod.exists, Prod.mk.injEq] at htrades
    obtain ⟨_, -, _, ⟨-, rfl⟩, _, _, -, _, hissued, -, -, rfl⟩ := htrades
    exact issuedPositionUnit_nonneg hissued

/-- A sum over distinct modules, one of which changes. -/
theorem sum_map_of_eq_off {modules : List Address} {p : Address} {f g : Address → ℤ}
    (hnodup : modules.Nodup) (hp : p ∈ modules) (hother : ∀ q, q ≠ p → g q = f q) :
    (modules.map g).sum = (modules.map f).sum - f p + g p := by
  have hrest : (modules.erase p).map g = (modules.erase p).map f := by
    apply List.map_congr_left
    intro q hq
    exact hother q (hnodup.mem_erase_iff.mp hq).1
  have hf := List.sum_map_erase f hp
  have hg := List.sum_map_erase g hp
  rw [hrest] at hg
  omega

variable {unit : ℤ}

theorem Hooked.units_of_ne {c : Address} (h : Hooked P P₁ unit) (hc : c ≠ P.perp.collateralToken) :
    equityUnit P₁.world.setToken c = equityUnit P.world.setToken c ∧
      owedUnit P₁.world.setToken c = owedUnit P.world.setToken c := by
  have hunit : P₁.world.setToken.externalRealUnit c = P.world.setToken.externalRealUnit c := by
    funext p
    rw [h.externalRealUnit, if_neg fun hboth ↦ hc hboth.1]
  unfold equityUnit owedUnit
  rw [hunit, h.defaultRealUnit, h.externalPositionModules]
  exact ⟨rfl, rfl⟩

/-- The unit of the account is exchanged. -/
theorem Hooked.units (h : Hooked P P₁ unit) (hheld : PerpHeld P) :
    equityUnit P₁.world.setToken P.perp.collateralToken =
        equityUnit P.world.setToken P.perp.collateralToken - max 0 (storedUnit P) + unit ∧
      owedUnit P₁.world.setToken P.perp.collateralToken =
        owedUnit P.world.setToken P.perp.collateralToken - max 0 (-storedUnit P) := by
  have hself : P₁.world.setToken.externalRealUnit P.perp.collateralToken P.perp.address = unit := by
    rw [h.externalRealUnit, if_pos ⟨rfl, rfl⟩]
  have hother : ∀ q, q ≠ P.perp.address →
      P₁.world.setToken.externalRealUnit P.perp.collateralToken q =
        P.world.setToken.externalRealUnit P.perp.collateralToken q := by
    intro q hq
    rw [h.externalRealUnit, if_neg fun hboth ↦ hq hboth.2]
  have hnonneg := h.unit_nonneg
  have hnone : max 0 (-unit) = 0 := max_eq_left (by omega)
  constructor
  · unfold equityUnit
    rw [h.defaultRealUnit, h.externalPositionModules,
      sum_map_of_eq_off hheld.modules_nodup hheld.listed fun q hq ↦ by rw [hother q hq], hself,
      max_eq_right hnonneg, storedUnit]
    omega
  · unfold owedUnit
    rw [h.externalPositionModules,
      sum_map_of_eq_off hheld.modules_nodup hheld.listed fun q hq ↦ by rw [hother q hq], hself,
      hnone, add_zero, storedUnit]

/-- By how much an estimate exceeds the equity of a component after the hook. -/
theorem Hooked.adjustedUnit_eq {estimated : ℤ} {c : Address} (h : Hooked P P₁ unit)
    (hheld : PerpHeld P) :
    adjustedUnit P estimated c = equityUnit P₁.world.setToken c +
      if c = P.perp.collateralToken then estimated - unit + max 0 (-storedUnit P) else 0 := by
  unfold adjustedUnit
  by_cases hc : c = P.perp.collateralToken
  · subst hc
    rw [if_pos rfl, if_pos rfl, (h.units hheld).1]
    unfold storedUnit
    omega
  · rw [if_neg hc, if_neg hc, (h.units_of_ne hc).1]

/-! ## The amounts that are transferred -/

/-- The account that gives and the account that gets the equity of a component. -/
def equityEnds (setToken caller recipient : Address) (isIssue : Bool) : Address × Address :=
  if isIssue then (caller, setToken) else (setToken, recipient)

/-- The account that gives and the account that gets the debt of a component. -/
def debtEnds (setToken caller : Address) (isIssue : Bool) : Address × Address :=
  if isIssue then (setToken, caller) else (caller, setToken)

/-- The transfers of a token from one account to another. -/
def flow (c : Address) (ends : Address × Address) : Watch where
  call := fun _ ↦ none
  move := fun transfer ↦
    if transfer.token = c ∧ (transfer.sender, transfer.recipient) = ends then some transfer.amount
    else none

variable {c : Address} {ends : Address × Address} {entry : Address × ℕ × ℕ} {v' : World}
  {required : List (Address × ℕ × ℕ)}

theorem flow_moved_self (c : Address) (ends : Address × Address) (n : ℕ) :
    (flow c ends).moved ⟨c, ends.1, ends.2, n⟩ = Watch.positive n := by
  simp [Watch.moved, flow, Watch.positive]

theorem flow_moved_eq_nil {transfer : Transfer}
    (h : 0 < transfer.amount → transfer.token = c →
      (transfer.sender, transfer.recipient) ≠ ends) : (flow c ends).moved transfer = [] := by
  unfold Watch.moved
  split_ifs with hpos
  · have hnot : ¬ (transfer.token = c ∧ (transfer.sender, transfer.recipient) = ends) :=
      fun hboth ↦ h hpos hboth.1 hboth.2
    simp only [flow, if_neg hnot, Option.toList_none]
  · rfl

/-- No component hook transfers tokens. -/
theorem flow_hookCalls (P : Protocol) (c component hook : Address) (ends : Address × Address) :
    P.HookCalls (flow c ends).Silent component hook := by
  constructor
  all_goals
    rintro - i hcall
    cases hcall <;> exact ⟨rfl, fun _ ↦ rfl⟩

theorem executeExternalPositionHooks_flow {component : Address} {isEquity : Bool}
    (h : m.executeExternalPositionHooks P env v quantity component isIssue isEquity = .ok v') :
    (flow c ends).read v' = (flow c ends).read v :=
  Watch.calls_read (executeExternalPositionHooks_calls (fun _ _ ↦ flow_hookCalls ..) h)

/-- One pass of the equity loop is one transfer, and not one to the sender itself. -/
theorem resolveEquityPosition_flow (c : Address) (ends : Address × Address)
    (h : m.resolveEquityPosition P env total recipient isIssue v entry = .ok v') :
    let moving := equityEnds v.setToken.address env.sender recipient isIssue
    (flow c ends).read v' = (((flow c ends).read v).1, ((flow c ends).read v).2 ++
        (flow c ends).moved ⟨entry.1, moving.1, moving.2, entry.2.1⟩) ∧
      (0 < entry.2.1 → moving.1 ≠ moving.2) := by
  unfold resolveEquityPosition at h
  dsimp only at h
  unfold equityEnds
  split_ifs at h with hpos hissue
  · obtain ⟨u, htransfer, hhooks⟩ := Outcome.bind_eq_ok.mp h
    rw [if_pos hissue]
    refine ⟨?_, fun _ ↦ Watch.explicitTransferFrom_ne hpos htransfer⟩
    rw [executeExternalPositionHooks_flow hhooks, Watch.explicitTransferFrom_read htransfer]
  · obtain ⟨u, hhooks, htransfer⟩ := Outcome.bind_eq_ok.mp h
    have haddress := (executeExternalPositionHooks_steady hhooks).address
    rw [if_neg hissue]
    refine ⟨?_, fun _ heq ↦ Watch.strictInvokeTransfer_ne hpos htransfer ?_⟩
    · rw [Watch.strictInvokeTransfer_read rfl htransfer, executeExternalPositionHooks_flow hhooks,
        haddress]
    · rw [haddress]
      exact heq.symm
  · rw [Outcome.pure_eq_ok.mp h]
    refine ⟨?_, fun hpos' ↦ absurd hpos' hpos⟩
    rw [flow_moved_eq_nil fun hpos' ↦ absurd hpos' hpos, List.append_nil]

theorem resolveDebtPosition_flow (c : Address) (ends : Address × Address)
    (h : m.resolveDebtPosition P env total isIssue v entry = .ok v') :
    let moving := debtEnds v.setToken.address env.sender isIssue
    (flow c ends).read v' = (((flow c ends).read v).1, ((flow c ends).read v).2 ++
        (flow c ends).moved ⟨entry.1, moving.1, moving.2, entry.2.2⟩) ∧
      (0 < entry.2.2 → moving.1 ≠ moving.2) := by
  unfold resolveDebtPosition at h
  dsimp only at h
  unfold debtEnds
  split_ifs at h with hpos hissue
  · obtain ⟨u, hhooks, htransfer⟩ := Outcome.bind_eq_ok.mp h
    have haddress := (executeExternalPositionHooks_steady hhooks).address
    rw [if_pos hissue]
    refine ⟨?_, fun _ heq ↦ Watch.strictInvokeTransfer_ne hpos htransfer ?_⟩
    · rw [Watch.strictInvokeTransfer_read rfl htransfer, executeExternalPositionHooks_flow hhooks,
        haddress]
    · rw [haddress]
      exact heq.symm
  · obtain ⟨u, htransfer, hhooks⟩ := Outcome.bind_eq_ok.mp h
    rw [if_neg hissue]
    refine ⟨?_, fun _ ↦ Watch.explicitTransferFrom_ne hpos htransfer⟩
    rw [executeExternalPositionHooks_flow hhooks, Watch.explicitTransferFrom_read htransfer]
  · rw [Outcome.pure_eq_ok.mp h]
    refine ⟨?_, fun hpos' ↦ absurd hpos' hpos⟩
    rw [flow_moved_eq_nil fun hpos' ↦ absurd hpos' hpos, List.append_nil]

/-- Equity and debt only take the same way if an account would transfer to itself. -/
theorem ends_self_of_eq {setToken caller : Address}
    (h : equityEnds setToken caller recipient isIssue = debtEnds setToken caller isIssue) :
    (equityEnds setToken caller recipient isIssue).1 =
        (equityEnds setToken caller recipient isIssue).2 ∧
      (debtEnds setToken caller isIssue).1 = (debtEnds setToken caller isIssue).2 := by
  unfold equityEnds debtEnds at *
  cases isIssue with
  | true =>
    simp only [if_true, Prod.mk.injEq] at h ⊢
    exact ⟨h.1, h.1.symm⟩
  | false =>
    simp only [Bool.false_eq_true, if_false, Prod.mk.injEq] at h ⊢
    exact ⟨h.2.symm, h.1.symm⟩

variable {equity debt : ℕ}

theorem resolveEquityPositions_flow (ends : Address × Address) (hnodup : (required.map Prod.fst).Nodup)
    (hmem : (c, equity, debt) ∈ required)
    (h : m.resolveEquityPositions P env v total recipient isIssue required = .ok v') :
    let moving := equityEnds v.setToken.address env.sender recipient isIssue
    (flow c ends).read v' = (((flow c ends).read v).1, ((flow c ends).read v).2 ++
        (flow c ends).moved ⟨c, moving.1, moving.2, equity⟩) ∧
      (0 < equity → moving.1 ≠ moving.2) := by
  intro moving
  apply Outcome.foldlM_single (Q := fun u : World ↦ u.setToken.address = v.setToken.address)
    (r := (flow c ends).read) (R := fun a b : List ℕ × List ℕ ↦
      b = (a.1, a.2 ++ (flow c ends).moved ⟨c, moving.1, moving.2, equity⟩) ∧
        (0 < equity → moving.1 ≠ moving.2)) hmem hnodup.of_map ?_ ?_ ?_ h rfl
  · intro u b _ u' hu haddress
    exact (resolveEquityPosition_steady hu).address.trans haddress
  · intro u b hb hne u' hu haddress
    have hother : b.1 ≠ c := fun heq ↦ hne (List.inj_on_of_nodup_map hnodup hb hmem heq)
    rw [(resolveEquityPosition_flow c ends hu).1,
      flow_moved_eq_nil fun _ htoken ↦ absurd htoken hother, List.append_nil]
  · intro u u' hu haddress
    have hpass := resolveEquityPosition_flow c ends hu
    rw [haddress] at hpass
    exact hpass

theorem resolveDebtPositions_flow (ends : Address × Address) (hnodup : (required.map Prod.fst).Nodup)
    (hmem : (c, equity, debt) ∈ required)
    (h : m.resolveDebtPositions P env v total isIssue required = .ok v') :
    let moving := debtEnds v.setToken.address env.sender isIssue
    (flow c ends).read v' = (((flow c ends).read v).1, ((flow c ends).read v).2 ++
        (flow c ends).moved ⟨c, moving.1, moving.2, debt⟩) ∧
      (0 < debt → moving.1 ≠ moving.2) := by
  intro moving
  apply Outcome.foldlM_single (Q := fun u : World ↦ u.setToken.address = v.setToken.address)
    (r := (flow c ends).read) (R := fun a b : List ℕ × List ℕ ↦
      b = (a.1, a.2 ++ (flow c ends).moved ⟨c, moving.1, moving.2, debt⟩) ∧
        (0 < debt → moving.1 ≠ moving.2)) hmem hnodup.of_map ?_ ?_ ?_ h rfl
  · intro u b _ u' hu haddress
    exact (resolveDebtPosition_steady hu).address.trans haddress
  · intro u b hb hne u' hu haddress
    have hother : b.1 ≠ c := fun heq ↦ hne (List.inj_on_of_nodup_map hnodup hb hmem heq)
    rw [(resolveDebtPosition_flow c ends hu).1,
      flow_moved_eq_nil fun _ htoken ↦ absurd htoken hother, List.append_nil]
  · intro u u' hu haddress
    have hpass := resolveDebtPosition_flow c ends hu
    rw [haddress] at hpass
    exact hpass

/-- Amounts that are added to the transfers. -/
def Adds (o : Watch) (w w' : World) (amounts : List ℕ) : Prop :=
  o.read w' = ((o.read w).1, (o.read w).2 ++ amounts)

/-- What is transferred of a component, for equity and for debt. -/
structure Transferred (w w' : World) (caller recipient : Address) (isIssue : Bool) (c : Address)
    (equity debt : ℕ) : Prop where
  equity : Adds (flow c (equityEnds w.setToken.address caller recipient isIssue)) w w'
    (Watch.positive equity)
  debt : Adds (flow c (debtEnds w.setToken.address caller isIssue)) w w' (Watch.positive debt)

/-- An entry that goes from one account to another is not read by the flow the other way. -/
theorem flow_moved_cross {moving : Address × Address} {n : ℕ}
    (hne : 0 < n → moving.1 ≠ moving.2) (hself : moving = ends → moving.1 = moving.2) :
    (flow c ends).moved ⟨c, moving.1, moving.2, n⟩ = [] :=
  flow_moved_eq_nil fun hpos _ heq ↦ hne hpos (hself heq)

theorem callModulePreHooks_flow (hpre : m.callModulePreHooks P env total isIssue = .ok P₁) :
    (flow c ends).read P₁.world = (flow c ends).read P.world := by
  let F : Footprint := { Footprint.any with calls := (flow c ends).Silent }
  have hallows : P.Allows F :=
    ⟨fun _ _ ↦ trivial, fun _ _ ↦ trivial, trivial, fun _ ↦ ⟨rfl, fun _ ↦ rfl⟩⟩
  exact Watch.edits_read (fun _ hi ↦ hi) (callModulePreHooks_edits hallows hpre).2

/-- The two loops in the order of an issue. -/
theorem transferred_of_issue {u : World} (hnodup : (required.map Prod.fst).Nodup)
    (hmem : (c, equity, debt) ∈ required)
    (hequity : m.resolveEquityPositions P env w total recipient isIssue required = .ok v)
    (hdebt : m.resolveDebtPositions P env v total isIssue required = .ok u) :
    Transferred w u env.sender recipient isIssue c equity debt := by
  have haddress := (resolveEquityPositions_steady hequity).address
  obtain ⟨-, hne⟩ := resolveEquityPositions_flow (c, c) hnodup hmem hequity
  obtain ⟨-, hne'⟩ := resolveDebtPositions_flow (c, c) hnodup hmem hdebt
  rw [haddress] at hne'
  constructor
  · unfold Adds
    rw [(resolveDebtPositions_flow _ hnodup hmem hdebt).1, haddress,
      (resolveEquityPositions_flow _ hnodup hmem hequity).1, flow_moved_self,
      flow_moved_cross hne' fun heq ↦ (ends_self_of_eq heq.symm).2, List.append_nil]
  · unfold Adds
    rw [(resolveDebtPositions_flow _ hnodup hmem hdebt).1, haddress,
      (resolveEquityPositions_flow _ hnodup hmem hequity).1, flow_moved_self,
      flow_moved_cross hne fun heq ↦ (ends_self_of_eq heq).1, List.append_nil]

/-- The two loops in the order of a redemption. -/
theorem transferred_of_redeem {u : World} (hnodup : (required.map Prod.fst).Nodup)
    (hmem : (c, equity, debt) ∈ required)
    (hdebt : m.resolveDebtPositions P env w total isIssue required = .ok v)
    (hequity : m.resolveEquityPositions P env v total recipient isIssue required = .ok u) :
    Transferred w u env.sender recipient isIssue c equity debt := by
  have haddress := (resolveDebtPositions_steady hdebt).address
  obtain ⟨-, hne⟩ := resolveEquityPositions_flow (c, c) hnodup hmem hequity
  obtain ⟨-, hne'⟩ := resolveDebtPositions_flow (c, c) hnodup hmem hdebt
  rw [haddress] at hne
  constructor
  · unfold Adds
    rw [(resolveEquityPositions_flow _ hnodup hmem hequity).1, haddress,
      (resolveDebtPositions_flow _ hnodup hmem hdebt).1, flow_moved_self,
      flow_moved_cross hne' fun heq ↦ (ends_self_of_eq heq.symm).2, List.append_nil]
  · unfold Adds
    rw [(resolveEquityPositions_flow _ hnodup hmem hequity).1, haddress,
      (resolveDebtPositions_flow _ hnodup hmem hdebt).1, flow_moved_self,
      flow_moved_cross hne fun heq ↦ (ends_self_of_eq heq).1, List.append_nil]

/-- Steps before and after the loops that transfer nothing. -/
theorem Transferred.extend {w₀ u u' : World} {caller : Address}
    (h : Transferred w u caller recipient isIssue c equity debt)
    (haddress : w.setToken.address = w₀.setToken.address)
    (hbefore : ∀ ends, (flow c ends).read w = (flow c ends).read w₀)
    (hafter : ∀ ends, (flow c ends).read u' = (flow c ends).read u) :
    Transferred w₀ u' caller recipient isIssue c equity debt := by
  obtain ⟨hequity, hdebt⟩ := h
  unfold Adds at *
  rw [hbefore, haddress] at hequity hdebt
  exact ⟨(hafter _).trans hequity, (hafter _).trans hdebt⟩

theorem required_entry (hnodup : w.setToken.components.Nodup) (hc : c ∈ w.setToken.components)
    (h : calculateRequiredComponentIssuanceUnits w total isIssue = .ok required) :
    (required.map Prod.fst).Nodup ∧
      (c, equityAmount (equityUnit w.setToken c).toNat total isIssue,
        debtAmount (owedUnit w.setToken c).toNat total isIssue) ∈ required ∧
      0 ≤ equityUnit w.setToken c := by
  obtain ⟨hrequired, hnonneg⟩ := calculateRequiredComponentIssuanceUnits_ok h
  refine ⟨?_, ?_, hnonneg c hc⟩
  · exact calculateRequiredComponentIssuanceUnits_nodup h hnodup
  · rw [hrequired, List.mem_map]
    exact ⟨c, hc, rfl⟩

/-- An issue or a redemption with slippage limits transfers the amounts of the units after the module
hooks. -/
theorem execute_transferred
    (h : IssuanceEntry.execute (.slippage checked limits) m P env quantity recipient isIssue =
      .ok P')
    (hfees : m.calculateTotalFees P.world quantity isIssue = .ok (total, managerFee, protocolFee))
    (hpre : m.callModulePreHooks P env total isIssue = .ok P₁)
    (hnodup : P₁.world.setToken.components.Nodup) (hc : c ∈ P₁.world.setToken.components) :
    Transferred P.world P'.world env.sender recipient isIssue c
      (equityAmount (equityUnit P₁.world.setToken c).toNat total isIssue)
      (debtAmount (owedUnit P₁.world.setToken c).toNat total isIssue) ∧
      0 ≤ equityUnit P₁.world.setToken c := by
  obtain ⟨Q, managerFee', protocolFee', hpositions, hsettle⟩ := IssuanceEntry.execute_ok h
  have hstatus := callModulePreHooks_sameStatus hpre
  have hsettled : ∀ ends, (flow c ends).read P'.world = (flow c ends).read Q.world :=
    fun _ ↦ Watch.settle_read hsettle
  cases isIssue with
  | true =>
    simp only [IssuanceEntry.positions, issuePositions, hfees, Outcome.bind_eq_ok,
      Except.ok.injEq, Outcome.pure_eq_ok, Prod.exists, Prod.mk.injEq] at hpositions
    obtain ⟨_, -, _, -, _, -, _, _, _, ⟨rfl, rfl, rfl⟩, P₂, hP₂, required, hrequired, _, -, v,
      hequity, u, hdebt, rfl, -, -⟩ := hpositions
    obtain rfl : P₂ = P₁ := Except.ok.inj (hP₂.symm.trans hpre)
    obtain ⟨hfst, hmem, hnonneg⟩ := required_entry hnodup hc hrequired
    exact ⟨(transferred_of_issue hfst hmem hequity hdebt).extend hstatus.address
      (fun _ ↦ callModulePreHooks_flow hpre) hsettled, hnonneg⟩
  | false =>
    simp only [IssuanceEntry.positions, redeemPositions, hfees, Outcome.bind_eq_ok,
      Except.ok.injEq, Outcome.pure_eq_ok, Prod.exists, Prod.mk.injEq] at hpositions
    obtain ⟨_, -, _, -, _, _, _, ⟨rfl, rfl, rfl⟩, P₂, hP₂, P₃, hburn, required, hrequired, _, -, v,
      hdebt, u, hequity, rfl, -, -⟩ := hpositions
    obtain rfl : P₂ = P₁ := Except.ok.inj (hP₂.symm.trans hpre)
    obtain ⟨hburnt, -⟩ := Protocol.onWorld_ok hburn
    have hstep := burn_burnStep hburnt
    obtain ⟨t, ht, -⟩ := hstep.setToken
    -- The burn changes balances of the Set only, so the units are those after the hooks.
    have hcomponents : P₃.world.setToken.components = P₂.world.setToken.components := by
      rw [ht]
      rfl
    have hunits : equityUnit P₃.world.setToken c = equityUnit P₂.world.setToken c ∧
        owedUnit P₃.world.setToken c = owedUnit P₂.world.setToken c := by
      rw [ht]
      exact ⟨rfl, rfl⟩
    obtain ⟨hfst, hmem, hnonneg⟩ := required_entry (hcomponents ▸ hnodup) (hcomponents ▸ hc) hrequired
    rw [hunits.1, hunits.2] at hmem
    refine ⟨?_, hunits.1 ▸ hnonneg⟩
    apply (transferred_of_redeem hfst hmem hdebt hequity).extend
      (hstep.address.trans hstatus.address) ?_ hsettled
    intro ends
    rw [Watch.onSetToken_read hburnt, callModulePreHooks_flow hpre]

/-! ## Agreement -/

/-- An estimate lists the components, each with the amounts that are transferred. -/
structure Agrees (estimate : List (Address × ℕ × ℕ)) (P P' : Protocol) (caller recipient : Address)
    (isIssue : Bool) : Prop where
  components : estimate.map Prod.fst = P.world.setToken.components
  equity : ∀ entry ∈ estimate,
    ((flow entry.1 (equityEnds P.world.setToken.address caller recipient isIssue)).since P.world
      P'.world).2.sum = entry.2.1
  debt : ∀ entry ∈ estimate,
    ((flow entry.1 (debtEnds P.world.setToken.address caller isIssue)).since P.world
      P'.world).2.sum = entry.2.2

/-- What an estimate can foresee: the stored unit of the account is not a debt, and the account has
open positions or is worth nothing. -/
def Foreseen (P : Protocol) (env : Env) (total : ℕ) (isIssue : Bool) : Prop :=
  0 ≤ storedUnit P ∧
    (P.perp.positions ≠ [] ∨ ¬ P.perp.WorthUnit P.world env total isIssue)

theorem Adds.sum {o : Watch} {n : ℕ} (h : Adds o w v (Watch.positive n)) :
    (o.since w v).2.sum = n := by
  have hread : o.read v = ((o.read w).1 ++ [], (o.read w).2 ++ Watch.positive n) := by
    rw [List.append_nil]
    exact h
  rw [Watch.since_eq hread, Watch.positive_sum]

/-- For a whole Set or more, different units make different amounts. -/
theorem debtAmount_inj {a b : ℕ} (htotal : preciseUnit ≤ total)
    (h : debtAmount a total isIssue = debtAmount b total isIssue) : a = b := by
  have hstrict : ∀ a b : ℕ, a < b → debtAmount a total isIssue < debtAmount b total isIssue := by
    intro a b hab
    have hproduct : a * total + preciseUnit ≤ b * total := by
      calc
        _ ≤ a * total + total := Nat.add_le_add_left htotal _
        _ = (a + 1) * total := (Nat.succ_mul a total).symm
        _ ≤ _ := Nat.mul_le_mul_right total hab
    have hquotient : ∀ x y : ℕ, x + preciseUnit ≤ y → x / preciseUnit < y / preciseUnit := by
      intro x y hxy
      have hle := Nat.div_le_div_right (c := preciseUnit) hxy
      rw [Nat.add_div_right _ preciseUnit_pos] at hle
      omega
    unfold debtAmount
    split_ifs
    · exact hquotient _ _ hproduct
    · apply hquotient
      have hpos := preciseUnit_pos
      omega
  rcases lt_trichotomy a b with hab | hab | hab
  · exact absurd h (hstrict a b hab).ne
  · exact hab
  · exact absurd h (hstrict b a hab).ne'

theorem exists_hooked
    (h : IssuanceEntry.execute (.slippage checked limits) m P env quantity recipient isIssue =
      .ok P')
    (hfees : m.calculateTotalFees P.world quantity isIssue =
      .ok (total, managerFee, protocolFee)) :
    ∃ P₁, m.callModulePreHooks P env total isIssue = .ok P₁ := by
  cases isIssue with
  | true =>
    simp only [IssuanceEntry.execute, issueWithSlippage, hfees, Outcome.bind_eq_ok,
      Except.ok.injEq] at h
    obtain ⟨_, -, _, -, _, -, _, rfl, P₁, hP₁, -⟩ := h
    exact ⟨P₁, hP₁⟩
  | false =>
    simp only [IssuanceEntry.execute, redeemWithSlippage, hfees, Outcome.bind_eq_ok,
      Except.ok.injEq] at h
    obtain ⟨_, -, _, -, _, rfl, P₁, hP₁, -⟩ := h
    exact ⟨P₁, hP₁⟩

/-- An estimate agrees with what is transferred if it has the amounts of the units after the hook. -/
theorem agrees_iff_amounts {estimated : ℤ}
    (hestimate : estimate = P.world.setToken.components.map fun c ↦
      (c, equityAmount (adjustedUnit P estimated c).toNat total isIssue,
        debtAmount (owedUnit P.world.setToken c).toNat total isIssue))
    (htransferred : ∀ c ∈ P.world.setToken.components,
      Transferred P.world P'.world env.sender recipient isIssue c
        (equityAmount (equityUnit P₁.world.setToken c).toNat total isIssue)
        (debtAmount (owedUnit P₁.world.setToken c).toNat total isIssue)) :
    Agrees estimate P P' env.sender recipient isIssue ↔
      ∀ c ∈ P.world.setToken.components,
        equityAmount (equityUnit P₁.world.setToken c).toNat total isIssue =
            equityAmount (adjustedUnit P estimated c).toNat total isIssue ∧
          debtAmount (owedUnit P₁.world.setToken c).toNat total isIssue =
            debtAmount (owedUnit P.world.setToken c).toNat total isIssue := by
  subst hestimate
  constructor
  · intro hagrees c hc
    have hmem := List.mem_map_of_mem (f := fun c ↦
      (c, equityAmount (adjustedUnit P estimated c).toNat total isIssue,
        debtAmount (owedUnit P.world.setToken c).toNat total isIssue)) hc
    refine ⟨?_, ?_⟩
    · rw [← (htransferred c hc).equity.sum]
      exact hagrees.equity _ hmem
    · rw [← (htransferred c hc).debt.sum]
      exact hagrees.debt _ hmem
  · intro hamounts
    constructor
    · simp [Function.comp_def]
    · intro entry hentry
      obtain ⟨c, hc, rfl⟩ := List.mem_map.mp hentry
      exact (htransferred c hc).equity.sum.trans (hamounts c hc).1
    · intro entry hentry
      obtain ⟨c, hc, rfl⟩ := List.mem_map.mp hentry
      exact (htransferred c hc).debt.sum.trans (hamounts c hc).2

/-- The unit that the estimate takes for the account. -/
theorem estimated_eq {n n' : PerpV2LeverageModuleV2} {estimated : ℤ} (hheld : PerpHeld P)
    (hdeltas : P.perp.SameDeltas env P.world)
    (hestimated : P.perp.estimatedPositionUnit P.world env total isIssue = .ok (n, v, estimated))
    (htrades : P.perp.executePositionTrades P.world env total isIssue false =
      .ok (n', v', unit)) :
    estimated = if P.perp.positions = [] then 0 else unit := by
  unfold PerpV2LeverageModuleV2.estimatedPositionUnit at hestimated
  by_cases hnone : P.perp.positions = []
  · rw [if_neg (by simp [hnone])] at hestimated
    obtain ⟨-, -, rfl⟩ : P.perp = n ∧ P.world = v ∧ 0 = estimated := by simpa using hestimated
    rw [if_pos hnone]
  · rw [if_pos (List.length_pos_iff.mpr hnone)] at hestimated
    rw [if_neg hnone]
    exact PerpV2LeverageModuleV2.executePositionTrades_eq hdeltas hheld.positions hestimated htrades

/-- An estimate agrees with what an issue or a redemption in the same state transfers if it can
foresee the unit of the account; for a whole Set or more, only then. -/
theorem agrees_of_foreseen
    (h : IssuanceEntry.execute (.slippage checked limits) m P env quantity recipient isIssue =
      .ok P')
    (hestimate : getRequiredComponentUnitsOffChain m P env quantity isIssue = .ok estimate)
    (hfees : m.calculateTotalFees P.world quantity isIssue = .ok (total, managerFee, protocolFee))
    (hhooks : m.settings.moduleIssuanceHooks = [P.perp.address]) (hheld : PerpHeld P)
    (hdeltas : P.perp.SameDeltas env P.world) :
    (Foreseen P env total isIssue → Agrees estimate P P' env.sender recipient isIssue) ∧
      (preciseUnit ≤ total → Agrees estimate P P' env.sender recipient isIssue →
        Foreseen P env total isIssue) := by
  obtain ⟨P₁, hpre⟩ := exists_hooked h hfees
  obtain ⟨n, v, estimated, hestimated, hlist, hadjusted⟩ :=
    estimate_ok hhooks hheld.nodup hfees hestimate
  obtain ⟨n', v', unit, htrades, hworth, hhooked⟩ := hheld.hooked hhooks hpre
  have hunit := estimated_eq hheld hdeltas hestimated htrades
  have htransferred : ∀ c ∈ P.world.setToken.components, _ := fun c hc ↦
    execute_transferred h hfees hpre (hhooked.components ▸ hheld.nodup) (hhooked.components ▸ hc)
  rw [agrees_iff_amounts hlist fun c hc ↦ (htransferred c hc).1]
  constructor
  · intro ⟨hstored, hopen⟩ c hc
    have howed : max 0 (-storedUnit P) = 0 := max_eq_left (by omega)
    have hsame : estimated = unit := by
      rw [hunit]
      split_ifs with hnone
      · by_contra hne
        exact hopen.resolve_left (not_not.mpr hnone) (hworth.mp fun hzero ↦ hne hzero.symm)
      · rfl
    have hequity : adjustedUnit P estimated c = equityUnit P₁.world.setToken c := by
      rw [hhooked.adjustedUnit_eq hheld, howed, hsame]
      split_ifs <;> omega
    have hdebt : owedUnit P₁.world.setToken c = owedUnit P.world.setToken c := by
      by_cases hcollateral : c = P.perp.collateralToken
      · rw [hcollateral, (hhooked.units hheld).2, howed, sub_zero]
      · exact (hhooked.units_of_ne hcollateral).2
    rw [hequity, hdebt]
    exact ⟨rfl, rfl⟩
  · intro htotal hamounts
    obtain ⟨hequity, hdebt⟩ := hamounts _ hheld.component
    have hdebtUnits := debtAmount_inj htotal hdebt
    have hequityUnits := debtAmount_inj htotal hequity
    have hafter := owedUnit_nonneg P₁.world.setToken P.perp.collateralToken
    have hbefore := owedUnit_nonneg P.world.setToken P.perp.collateralToken
    have howed := (hhooked.units hheld).2
    have hstored : 0 ≤ storedUnit P := by omega
    refine ⟨hstored, ?_⟩
    have hnonneg := (htransferred _ hheld.component).2
    have hadjustedUnit := hadjusted _ hheld.component
    rw [hhooked.adjustedUnit_eq hheld, if_pos rfl] at hadjustedUnit hequityUnits
    have hsame : estimated = unit := by omega
    by_cases hnone : P.perp.positions = []
    · rw [hsame, if_pos hnone] at hunit
      exact Or.inr fun hworthUnit ↦ (hworth.mpr hworthUnit) hunit
    · exact Or.inl hnone

namespace Sample

/-- A transaction of account 9 at the price of one quote for one base.  A simulation leaves the account
as it is. -/
def tradingEnv : Env :=
  { SharedCollateral.Sample.vaultEnv with
    call := fun invocation chain ↦
      match invocation.callData with
      | .openPosition trade _ =>
        let amount : ℤ := if trade.isBaseToQuote then -trade.amount else trade.amount
        let base := chain.perp.base trade.baseToken + amount
        let quote := chain.perp.quote trade.baseToken - amount
        .ok { chain with perp := { chain.perp with
          base := Function.update chain.perp.base trade.baseToken base
          quote := Function.update chain.perp.quote trade.baseToken quote } }
      | .swap _ => .ok chain
      | _ => SharedCollateral.Sample.vaultEnv.call invocation chain
    returnData := fun invocation _ ↦
      match invocation.callData with
      | .openPosition trade _ => [trade.amount, trade.amount]
      | .swap trade => [trade.amount, trade.amount]
      | _ => [] }

/-- Two Sets, each with one unit of token 45 and one more in the vault. -/
def closed : Protocol := SharedCollateral.Sample.before

/-- The same with a long position in base token 60. -/
def trading : Protocol :=
  let account := { closed.world.chain.perp with
    base := fun baseToken ↦ if baseToken = 60 then 4 else 0
    quote := fun baseToken ↦ if baseToken = 60 then -4 else 0 }
  { closed with
    perp := { closed.perp with positions := [60] }
    world := { closed.world with chain := { closed.world.chain with perp := account } } }

def module : DebtIssuanceModule := SharedCollateral.Sample.module

def issued (P : Protocol) : Outcome Protocol :=
  IssuanceEntry.execute (.slippage [] []) module P tradingEnv (10 ^ 18) 9 true

def estimated (P : Protocol) : Outcome (List (Address × ℕ × ℕ)) :=
  getRequiredComponentUnitsOffChain module P tradingEnv (10 ^ 18) true

theorem sameDeltas (perp : PerpV2LeverageModuleV2) (w : World) :
    perp.SameDeltas tradingEnv w :=
  fun _ _ _ _ _ _ _ _ ↦ rfl

theorem closed_held : PerpHeld closed := by
  constructor <;> decide +kernel

theorem trading_held : PerpHeld trading := by
  constructor <;> decide +kernel

/-- One Set is issued without open positions.  One unit is estimated and two are transferred. -/
theorem closed_not_agrees :
    PerpHeld closed ∧ closed.perp.SameDeltas tradingEnv closed.world ∧
      estimated closed = .ok [(45, 1, 0)] ∧ (issued closed).isOk = true ∧
      ¬ Agrees [(45, 1, 0)] closed ((issued closed).getD closed) 9 9 true := by
  refine ⟨closed_held, sameDeltas _ _, by decide +kernel, by decide +kernel, ?_⟩
  intro hagrees
  have hequity := hagrees.equity (45, 1, 0) List.mem_cons_self
  revert hequity
  decide +kernel

/-- With the open position the estimate is right. -/
theorem trading_agrees :
    estimated trading = .ok [(45, 2, 0)] ∧
      Agrees [(45, 2, 0)] trading ((issued trading).getD trading) 9 9 true := by
  have hestimated : estimated trading = .ok [(45, 2, 0)] := by decide +kernel
  have hissued : issued trading = .ok ((issued trading).getD trading) :=
    Outcome.eq_ok_getD trading (by decide +kernel)
  have hfees : module.calculateTotalFees trading.world (10 ^ 18) true = .ok (10 ^ 18, 0, 0) := by
    decide +kernel
  have hforeseen : Foreseen trading tradingEnv (10 ^ 18) true :=
    ⟨by decide +kernel, Or.inl (by decide +kernel)⟩
  refine ⟨hestimated, ?_⟩
  exact (agrees_of_foreseen hissued hestimated hfees (by decide +kernel) trading_held
    (sameDeltas _ _)).1 hforeseen

end Sample

end SlippageIssuanceModule

end SetProtocol
