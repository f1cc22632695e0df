import Mathlib.Algebra.Order.BigOperators.Group.List
import SetProtocol.Modules.PerpV2BasisTradingModule

/-!
# How often funding is counted

`PerpV2BasisTradingModule` adds the pending funding of all markets to `settledFunding` before it calls
code that is supposed to settle it.  On Perp a withdrawal from the vault settles every market, and a
trade settles the market it is made in.  Funding that was recorded without being settled is recorded
again by the next action.
-/

namespace SetProtocol

open PreciseUnitMath ModuleBase UnitConversionUtils

/-! ## Settlement on Perp -/

namespace PerpAccount

variable {a a' a'' : PerpAccount}

/-- In some markets the funding of the account was settled. -/
structure SettlesTo (a a' : PerpAccount) : Prop where
  markets : a'.markets = a.markets
  funding : ∀ b, a'.pendingFunding b = a.pendingFunding b ∨ a'.pendingFunding b = 0

theorem SettlesTo.refl (a : PerpAccount) : a.SettlesTo a :=
  ⟨rfl, fun _ ↦ Or.inl rfl⟩

theorem SettlesTo.trans (h : a.SettlesTo a') (h' : a'.SettlesTo a'') : a.SettlesTo a'' := by
  refine ⟨h'.markets.trans h.markets, ?_⟩
  intro b
  rcases h'.funding b with hb | hb
  · rw [hb]
    exact h.funding b
  · exact Or.inr hb

/-- The account has no pending funding in any market. -/
def NothingPending (a : PerpAccount) : Prop :=
  ∀ b ∈ a.markets, a.pendingFunding b = 0

theorem NothingPending.settlesTo (h : a.NothingPending) (hsettles : a.SettlesTo a') :
    a'.NothingPending := by
  intro b hb
  rw [hsettles.markets] at hb
  rcases hsettles.funding b with hfunding | hfunding
  · rw [hfunding, h b hb]
  · exact hfunding

theorem NothingPending.pendingFundingPayment (h : a.NothingPending) :
    a.pendingFundingPayment = 0 := by
  unfold PerpAccount.pendingFundingPayment
  rw [List.map_congr_left h]
  simp

/-- Funding that the account is owed everywhere stays so. -/
theorem SettlesTo.nonpos (h : a.SettlesTo a') (hfunding : ∀ b, a.pendingFunding b ≤ 0) (b : Address) :
    a'.pendingFunding b ≤ 0 := by
  rcases h.funding b with hb | hb
  · rw [hb]
    exact hfunding b
  · exact hb.le

theorem pendingFundingPayment_nonpos (h : ∀ b, a.pendingFunding b ≤ 0) :
    a.pendingFundingPayment ≤ 0 := by
  have hle : (a.markets.map a.pendingFunding).sum ≤ (a.markets.map fun _ ↦ (0 : ℤ)).sum :=
    List.sum_le_sum fun b _ ↦ h b
  unfold PerpAccount.pendingFundingPayment
  simpa using hle

end PerpAccount

/-- What the contracts of Perp do to the pending funding of the account. -/
structure FundingSpec (env : Env) (m : PerpV2LeverageModuleV2) : Prop where
  withdraw : ∀ asset amount chain chain', 0 < amount →
    env.call ⟨m.perpVault, 0, .vaultWithdraw asset amount⟩ chain = .ok chain' →
    chain'.perp.markets = chain.perp.markets ∧ ∀ b, chain'.perp.pendingFunding b = 0
  openPosition : ∀ trade bound chain chain',
    env.call ⟨m.perpClearingHouse, 0, .openPosition trade bound⟩ chain = .ok chain' →
    chain'.perp.markets = chain.perp.markets ∧
      chain'.perp.pendingFunding = Function.update chain.perp.pendingFunding trade.baseToken 0

namespace PerpV2LeverageModuleV2

variable {m m' : PerpV2LeverageModuleV2} {w w' : World} {env : Env} {quantity : ℕ}
  {isIssue : Bool}

theorem SameContracts.fundingSpec (h : m.SameContracts m') (hspec : FundingSpec env m) :
    FundingSpec env m' := by
  constructor
  · rw [h.perpVault]
    exact hspec.withdraw
  · rw [h.perpClearingHouse]
    exact hspec.openPosition

theorem invokeWithdraw_funding (hspec : FundingSpec env m)
    (h : m.invokeWithdraw w env quantity = .ok w') :
    w.chain.perp.SettlesTo w'.chain.perp ∧
      (0 < quantity → w'.chain.perp.NothingPending) := by
  unfold invokeWithdraw at h
  split_ifs at h with hzero
  · obtain rfl := Outcome.pure_eq_ok.mp h
    exact ⟨.refl _, fun hpos ↦ absurd hzero hpos.ne'⟩
  · simp only [World.invoke, World.execute, Outcome.bind_eq_ok, Outcome.pure_eq_ok] at h
    obtain ⟨_, -, _, ⟨chain, hchain, rfl⟩, rfl⟩ := h
    obtain ⟨hmarkets, hfunding⟩ :=
      hspec.withdraw _ _ _ _ (Nat.pos_of_ne_zero hzero) hchain
    exact ⟨⟨hmarkets, fun b ↦ Or.inr (hfunding b)⟩, fun _ b _ ↦ hfunding b⟩

theorem runTrade_funding {action : PerpActionInfo} {deltas : ℕ × ℕ} (hspec : FundingSpec env m)
    (h : m.runTrade w env action false = .ok (w', deltas)) :
    w'.chain.perp.markets = w.chain.perp.markets ∧
      w'.chain.perp.pendingFunding =
        Function.update w.chain.perp.pendingFunding action.baseToken 0 := by
  simp only [runTrade, tradeCall, Bool.false_eq_true, if_false, openPositionCall, World.invoke,
    World.execute, Outcome.bind_eq_ok, Outcome.pure_eq_ok, Prod.mk.injEq] at h
  obtain ⟨_, ⟨_, -, _, ⟨chain, hchain, rfl⟩, rfl⟩, _, -, rfl, -⟩ := h
  exact hspec.openPosition _ _ _ _ hchain

theorem runTrade_deltas {action : PerpActionInfo} {deltas : ℕ × ℕ} {isSimulation : Bool}
    (h : m.runTrade w env action isSimulation = .ok (w', deltas)) :
    decodeDeltas (env.returnData (m.tradeCall action isSimulation) w.chain) = .ok deltas ∧
      w'.controller = w.controller := by
  simp only [runTrade, Outcome.bind_eq_ok, Outcome.pure_eq_ok, Prod.mk.injEq] at h
  obtain ⟨v, hcall, _, hdeltas, rfl, rfl⟩ := h
  exact ⟨hdeltas, (World.invoke_steady hcall).controller⟩

theorem createActionInfoNotional_baseToken {baseToken : Address} {traded : ℤ} {bound : ℕ}
    {action : PerpActionInfo} (h : createActionInfoNotional baseToken traded bound = .ok action) :
    action.baseToken = baseToken := by
  simp only [createActionInfoNotional, Outcome.bind_eq_ok, Outcome.pure_eq_ok] at h
  obtain ⟨_, -, rfl⟩ := h
  rfl

theorem createAndValidateActionInfo_baseToken {baseToken : Address} {units : ℤ} {bound : ℕ}
    {action : PerpActionInfo}
    (h : createAndValidateActionInfo w env baseToken units bound = .ok action) :
    action.baseToken = baseToken := by
  simp only [createAndValidateActionInfo, Outcome.bind_eq_ok] at h
  obtain ⟨_, -, _, -, _, -, _, -, _, -, _, -, h⟩ := h
  exact createActionInfoNotional_baseToken h

/-- A trade settles the market of the base token, and no other. -/
theorem tradePosition_funding {total supply value : ℤ} {state : World × ℤ}
    {info : PositionNotionalInfo} (hspec : FundingSpec env m)
    (h : m.tradePosition env total supply isIssue false state info = .ok (w', value)) :
    w'.chain.perp.markets = state.1.chain.perp.markets ∧
      w'.chain.perp.pendingFunding =
        Function.update state.1.chain.perp.pendingFunding info.baseToken 0 := by
  simp only [tradePosition, Outcome.bind_eq_ok, Outcome.pure_eq_ok, Prod.exists,
    Prod.mk.injEq] at h
  obtain ⟨_, -, _, -, _, -, action, haction, v, _, _, htrade, _, -, _, -, rfl, -⟩ := h
  rw [← createActionInfoNotional_baseToken haction]
  exact runTrade_funding hspec htrade

/-- The loop over the positions settles exactly their markets. -/
theorem tradeLoop_funding {total supply value value' : ℤ} {infos : List PositionNotionalInfo}
    (hspec : FundingSpec env m)
    (h : infos.foldlM (m.tradePosition env total supply isIssue false) (w, value) =
      .ok (w', value')) :
    w.chain.perp.SettlesTo w'.chain.perp ∧
      ∀ info ∈ infos, w'.chain.perp.pendingFunding info.baseToken = 0 := by
  induction infos generalizing w value with
  | nil =>
    obtain ⟨rfl, -⟩ := Prod.mk.inj (Outcome.pure_eq_ok.mp h)
    exact ⟨.refl _, by simp⟩
  | cons info infos ih =>
    simp only [List.foldlM_cons, Outcome.bind_eq_ok, Prod.exists] at h
    obtain ⟨v, value₁, hstep, hrest⟩ := h
    obtain ⟨hmarkets, hfunding⟩ := tradePosition_funding hspec hstep
    obtain ⟨hsettles, hall⟩ := ih hrest
    have hfirst : w.chain.perp.SettlesTo v.chain.perp := by
      refine ⟨hmarkets, ?_⟩
      intro b
      rw [hfunding]
      by_cases hb : b = info.baseToken
      · rw [hb, Function.update_self]
        exact Or.inr rfl
      · rw [Function.update_of_ne hb]
        exact Or.inl rfl
    refine ⟨hfirst.trans hsettles, ?_⟩
    intro i hi
    rcases List.mem_cons.mp hi with rfl | hi
    · rcases hsettles.funding i.baseToken with hkept | hzero
      · rw [hkept, hfunding, Function.update_self]
      · exact hzero
    · exact hall i hi

/-- A position that is more than dust stays in the list. -/
theorem mem_syncPositionList {b : Address} (h : m.syncPositionList w = .ok m')
    (hb : b ∈ m.positions) (hbalance : hasBaseBalance w b = .ok true) : b ∈ m'.positions := by
  simp only [syncPositionList, Outcome.bind_eq_ok, Outcome.pure_eq_ok] at h
  obtain ⟨positions, hloop, rfl⟩ := h
  apply Outcome.foldlM_invariant (P := fun l : List Address ↦ b ∈ l) ?_ hloop hb
  intro l c l' hstep hmem
  obtain ⟨-, rfl⟩ | ⟨hnone, hcl, rfl⟩ := syncPosition_cases hstep
  · exact hmem
  · have hne : b ≠ c := by
      rintro rfl
      rw [hbalance] at hnone
      cases hnone
    rw [(SwapRemove.swapRemove_perm hcl).mem_iff]
    exact (List.mem_erase_of_ne hne).mpr hmem

theorem executePositionTrades_funding {unit : ℤ} (hspec : FundingSpec env m)
    (h : m.executePositionTrades w env quantity isIssue false = .ok (m', w', unit)) :
    w.chain.perp.SettlesTo w'.chain.perp ∧
      ∀ b ∈ m.positions, hasBaseBalance w b = .ok true → w'.chain.perp.pendingFunding b = 0 := by
  simp only [executePositionTrades, tradePositions, Outcome.bind_eq_ok, Outcome.pure_eq_ok,
    Prod.exists, Prod.mk.injEq] at h
  obtain ⟨n, hsync, _, -, v, _, ⟨_, -, _, -, _, -, hloop⟩, _, -, rfl, rfl, -⟩ := h
  obtain ⟨hsettles, hall⟩ :=
    tradeLoop_funding ((syncPositionList_sameContracts hsync).fundingSpec hspec) hloop
  refine ⟨hsettles, ?_⟩
  intro b hb hbalance
  have hmem := mem_syncPositionList hsync hb hbalance
  exact hall ⟨b, _, _⟩ (List.mem_map_of_mem hmem)

/-- The protocol's fee on a trade, in the decimals of the collateral token. -/
def tradeFee (m : PerpV2LeverageModuleV2) (w : World) (env : Env) (baseToken : Address)
    (baseQuantityUnits : ℤ) (quoteBoundQuantityUnits : ℕ) : Outcome ℕ := do
  let action ←
    createAndValidateActionInfo w env baseToken baseQuantityUnits quoteBoundQuantityUnits
  let (_, deltaQuote) ← decodeDeltas (env.returnData (m.tradeCall action false) w.chain)
  let fee ← getModuleFee w m.address LeverageModule.protocolTradeFeeIndex deltaQuote
  fromPreciseUnitToDecimals fee m.collateralDecimals

theorem tradeFee_of_trade {v : World} {baseToken : Address} {units : ℤ}
    {bound deltaBase deltaQuote protocolFee fee : ℕ} {action : PerpActionInfo}
    (haction : createAndValidateActionInfo w env baseToken units bound = .ok action)
    (htrade : m.runTrade w env action false = .ok (v, deltaBase, deltaQuote))
    (hfee : getModuleFee v m.address LeverageModule.protocolTradeFeeIndex deltaQuote =
      .ok protocolFee)
    (hunits : fromPreciseUnitToDecimals protocolFee m.collateralDecimals = .ok fee) :
    m.tradeFee w env baseToken units bound = .ok fee := by
  obtain ⟨hdeltas, hcontroller⟩ := runTrade_deltas htrade
  unfold getModuleFee at hfee
  rw [hcontroller] at hfee
  simp only [tradeFee, getModuleFee, haction, hdeltas, Outcome.ok_bind, hfee, hunits]

/-- A trade with a fee withdraws from the vault and so settles all markets. -/
theorem trade_funding {baseToken : Address} {units : ℤ} {bound : ℕ} (hspec : FundingSpec env m)
    (h : m.trade w env baseToken units bound = .ok (m', w')) :
    w.chain.perp.SettlesTo w'.chain.perp ∧ w'.chain.perp.pendingFunding baseToken = 0 ∧
      ((∃ fee, m.tradeFee w env baseToken units bound = .ok fee ∧ 0 < fee) →
        w'.chain.perp.NothingPending) := by
  simp only [trade, accrueProtocolFee, Outcome.bind_eq_ok, Outcome.pure_eq_ok, Prod.exists,
    Prod.mk.injEq] at h
  obtain ⟨_, -, action, haction, v, _, deltaQuote, htrade, u, ⟨protocolFee, hfee, fee, hunits, t,
    hwithdraw, hpay⟩, _, -, -, rfl⟩ := h
  have hbase := createAndValidateActionInfo_baseToken haction
  obtain ⟨hmarkets, hfunding⟩ := runTrade_funding hspec htrade
  rw [hbase] at hfunding
  obtain ⟨hsettles, hall⟩ := invokeWithdraw_funding hspec hwithdraw
  have hfirst : w.chain.perp.SettlesTo v.chain.perp := by
    refine ⟨hmarkets, ?_⟩
    intro b
    rw [hfunding]
    by_cases hb : b = baseToken
    · rw [hb, Function.update_self]
      exact Or.inr rfl
    · rw [Function.update_of_ne hb]
      exact Or.inl rfl
  rw [payProtocolFeeFromSetToken_perp hpay]
  refine ⟨hfirst.trans hsettles, ?_, ?_⟩
  · rcases hsettles.funding baseToken with hkept | hzero
    · rw [hkept, hfunding, Function.update_self]
    · exact hzero
  · rintro ⟨fee', hfee', hpos⟩
    rw [tradeFee_of_trade haction htrade hfee hunits] at hfee'
    obtain rfl := Except.ok.inj hfee'
    exact hall hpos

/-- Every market with pending funding is in the list of positions, with more than dust. -/
def AllTraded (m : PerpV2LeverageModuleV2) (w : World) : Prop :=
  ∀ b ∈ w.chain.perp.markets, w.chain.perp.pendingFunding b ≠ 0 →
    b ∈ m.positions ∧ hasBaseBalance w b = .ok true

theorem executePositionTrades_nothingPending {unit : ℤ} (hspec : FundingSpec env m)
    (htraded : m.AllTraded w)
    (h : m.executePositionTrades w env quantity isIssue false = .ok (m', w', unit)) :
    w'.chain.perp.NothingPending := by
  obtain ⟨hsettles, hall⟩ := executePositionTrades_funding hspec h
  intro b hb
  rw [hsettles.markets] at hb
  by_cases hpending : w.chain.perp.pendingFunding b = 0
  · rcases hsettles.funding b with hkept | hzero
    · rw [hkept, hpending]
    · exact hzero
  · obtain ⟨hmem, hbalance⟩ := htraded b hb hpending
    exact hall b hmem hbalance

/-- The hook trades only if there are Sets and an external position. -/
theorem moduleHook_funding {caller : Address} (hspec : FundingSpec env m)
    (h : m.moduleHook w env caller quantity isIssue = .ok (m', w')) :
    w.chain.perp.SettlesTo w'.chain.perp ∧
      (w.setToken.totalSupply ≠ 0 →
        Position.hasExternalPosition w.setToken m.collateralToken = true → m.AllTraded w →
        w'.chain.perp.NothingPending) := by
  simp only [moduleHook, Outcome.bind_eq_ok] at h
  obtain ⟨_, -, h⟩ := h
  split_ifs at h with hsupply hposition
  · obtain ⟨-, rfl⟩ := Prod.mk.inj (Outcome.pure_eq_ok.mp h)
    exact ⟨.refl _, fun hpos ↦ absurd hsupply hpos⟩
  · obtain ⟨-, rfl⟩ := Prod.mk.inj (Outcome.pure_eq_ok.mp h)
    exact ⟨.refl _, fun _ htrue ↦ absurd (hposition.symm.trans htrue) Bool.false_ne_true⟩
  · simp only [Outcome.bind_eq_ok, Outcome.pure_eq_ok, Prod.exists, Prod.mk.injEq] at h
    obtain ⟨n, v, unit, htrades, u, hwrite, rfl, rfl⟩ := h
    rw [World.onSetToken_chain hwrite]
    exact ⟨(executePositionTrades_funding hspec htrades).1,
      fun _ _ htraded ↦ executePositionTrades_nothingPending hspec htraded htrades⟩

theorem updateExternalPositionUnit_ok (h : m.updateExternalPositionUnit w = .ok w') :
    w'.chain = w.chain ∧ w.setToken.totalSupply ≠ 0 := by
  simp only [updateExternalPositionUnit, Outcome.bind_eq_ok] at h
  obtain ⟨unit, hunit, hedit⟩ := h
  refine ⟨World.onSetToken_chain hedit, ?_⟩
  simp only [collateralValueUnit, preciseDivInt, Outcome.bind_eq_ok, SafeCast.toInt256_eq_ok,
    SignedSafeMath.mul_eq_ok, SignedSafeMath.div_eq_ok] at hunit
  obtain ⟨_, -, _, ⟨-, rfl⟩, _, ⟨_, -, hne, -⟩, -⟩ := hunit
  exact_mod_cast hne

/-- A withdrawal of units moves something, since there are Sets. -/
theorem withdrawAndUpdatePositions_nothingPending (hspec : FundingSpec env m) (hpos : 0 < quantity)
    (h : m.withdrawAndUpdatePositions w env quantity = .ok w') :
    w.chain.perp.SettlesTo w'.chain.perp ∧ w'.chain.perp.NothingPending := by
  simp only [withdrawAndUpdatePositions, Outcome.bind_eq_ok, Prod.exists] at h
  obtain ⟨notional, hnotional, v, hwithdraw, u, _, _, _, hdefault, hupdate⟩ := h
  obtain ⟨hchain, hsupply⟩ := updateExternalPositionUnit_ok hupdate
  obtain ⟨hchain', hsame⟩ := calculateAndEditDefaultPosition_chain hdefault
  have hsteady : v.setToken.totalSupply = w.setToken.totalSupply :=
    (invokeWithdraw_calls (fun _ _ ↦ trivial) hwithdraw).steady.totalSupply
  rw [hsame, hsteady] at hsupply
  have hmoved : 0 < notional := by
    rw [preciseMulCeil_eq_of_ok hnotional]
    apply Nat.div_pos ?_ preciseUnit_pos
    have := Nat.mul_pos hpos (Nat.pos_of_ne_zero hsupply)
    omega
  obtain ⟨hsettles, hall⟩ := invokeWithdraw_funding hspec hwithdraw
  rw [hchain, hchain']
  exact ⟨hsettles, hall hmoved⟩

end PerpV2LeverageModuleV2

/-! ## Actions that record funding -/

namespace PerpV2BasisTradingModule

variable {m m' : PerpV2BasisTradingModule} {w w' : World} {env : Env} {quantity : ℕ}

/-- What an action does to the books: the pending funding is added, some of the recorded funding is
withdrawn, and markets are settled. -/
structure Books (m m' : PerpV2BasisTradingModule) (w w' : World) (withdrawn : ℕ) : Prop where
  settles : w.chain.perp.SettlesTo w'.chain.perp
  recorded : (m'.settledFunding : ℤ) + withdrawn =
    m.settledFunding - w.chain.perp.pendingFundingPayment

theorem getUpdatedSettledFunding_eq {settled : ℕ}
    (hfunding : w.chain.perp.pendingFundingPayment ≤ 0)
    (h : m.getUpdatedSettledFunding w = .ok settled) :
    (settled : ℤ) = m.settledFunding - w.chain.perp.pendingFundingPayment := by
  simp only [getUpdatedSettledFunding, PreciseUnitMath.neg, Outcome.bind_eq_ok,
    Outcome.pure_eq_ok] at h
  obtain ⟨_, ⟨_, -, rfl⟩, h⟩ := h
  rw [if_pos (by omega)] at h
  simp only [Outcome.bind_eq_ok, SafeCast.toUint256_eq_ok, SafeMath.add_eq_ok] at h
  obtain ⟨gain, hgain, -, rfl⟩ := h
  push_cast
  omega

theorem updateSettledFunding_ok (hfunding : w.chain.perp.pendingFundingPayment ≤ 0)
    (h : m.updateSettledFunding w = .ok m') :
    m'.toPerpV2LeverageModuleV2 = m.toPerpV2LeverageModuleV2 ∧
      m.getUpdatedSettledFunding w = .ok m'.settledFunding ∧
      (m'.settledFunding : ℤ) = m.settledFunding - w.chain.perp.pendingFundingPayment := by
  simp only [updateSettledFunding, Outcome.bind_eq_ok, Outcome.pure_eq_ok] at h
  obtain ⟨settled, hsettled, rfl⟩ := h
  exact ⟨rfl, hsettled, getUpdatedSettledFunding_eq hfunding hsettled⟩

theorem tradeAndTrackFunding_books {baseToken : Address} {units : ℤ} {bound : ℕ}
    (hspec : FundingSpec env m.toPerpV2LeverageModuleV2)
    (hfunding : w.chain.perp.pendingFundingPayment ≤ 0)
    (h : m.tradeAndTrackFunding w env baseToken units bound = .ok (m', w')) :
    Books m m' w w' 0 ∧
      ((∀ b ∈ w.chain.perp.markets, b ≠ baseToken → w.chain.perp.pendingFunding b = 0) ∨
        (∃ fee, m.tradeFee w env baseToken units bound = .ok fee ∧ 0 < fee) →
        w'.chain.perp.NothingPending) := by
  simp only [tradeAndTrackFunding, Outcome.bind_eq_ok, Outcome.pure_eq_ok, Prod.exists,
    Prod.mk.injEq] at h
  obtain ⟨_, -, n, hupdate, leverage, v, htrade, rfl, rfl⟩ := h
  obtain ⟨hleverage, -, hrecorded⟩ := updateSettledFunding_ok hfunding hupdate
  rw [hleverage] at htrade
  obtain ⟨hsettles, hbase, hfee⟩ := PerpV2LeverageModuleV2.trade_funding hspec htrade
  refine ⟨⟨hsettles, by simpa [setLeverage] using hrecorded⟩, ?_⟩
  rintro (hothers | hfees)
  · intro b hb
    rw [hsettles.markets] at hb
    by_cases hne : b = baseToken
    · rw [hne, hbase]
    · rcases hsettles.funding b with hkept | hzero
      · rw [hkept, hothers b hb hne]
      · exact hzero
  · exact hfee hfees

theorem withdraw_books (hspec : FundingSpec env m.toPerpV2LeverageModuleV2)
    (hfunding : w.chain.perp.pendingFundingPayment ≤ 0)
    (h : m.withdraw w env quantity = .ok (m', w')) :
    Books m m' w w' 0 ∧ w'.chain.perp.NothingPending := by
  simp only [withdraw, Outcome.bind_eq_ok, Outcome.require_eq_ok, Outcome.pure_eq_ok,
    Prod.mk.injEq] at h
  obtain ⟨_, -, _, hpos, n, hupdate, v, hwithdraw, rfl, rfl⟩ := h
  obtain ⟨hleverage, -, hrecorded⟩ := updateSettledFunding_ok hfunding hupdate
  rw [hleverage] at hwithdraw
  obtain ⟨hsettles, hall⟩ :=
    PerpV2LeverageModuleV2.withdrawAndUpdatePositions_nothingPending hspec hpos hwithdraw
  exact ⟨⟨hsettles, by simpa using hrecorded⟩, hall⟩

theorem handleFees_perp (h : m.handleFees w env quantity = .ok w') :
    w'.chain.perp = w.chain.perp := by
  unfold handleFees at h
  dsimp only at h
  split_ifs at h
  · simp only [Outcome.bind_eq_ok] at h
    obtain ⟨_, -, _, -, _, -, v, htransfer, hpay⟩ := h
    rw [payProtocolFeeFromSetToken_perp hpay, World.strictInvokeTransfer_perp htransfer]
  · rw [Outcome.pure_eq_ok.mp h]

/-- What is withdrawn is taken off the books. -/
theorem withdrawFunding_ok {amount : ℕ} (hspec : FundingSpec env m.toPerpV2LeverageModuleV2)
    (h : m.withdrawFunding w env quantity = .ok (m', w', amount)) :
    amount = quantity ∧ m'.toPerpV2LeverageModuleV2 = m.toPerpV2LeverageModuleV2 ∧
      m'.settledFunding + amount * decimalScale m.collateralDecimals = m.settledFunding ∧
      w.chain.perp.SettlesTo w'.chain.perp ∧ (0 < quantity → w'.chain.perp.NothingPending) := by
  simp only [withdrawFunding, updateWithdrawFundingState, toPreciseUnitsFromDecimals,
    Outcome.bind_eq_ok, Outcome.pure_eq_ok, SafeMath.mul_eq_ok, SafeMath.sub_eq_ok, Prod.exists,
    Prod.mk.injEq] at h
  obtain ⟨v, hwithdraw, u, hfees, _, _, ⟨t, _, _, _, hdefault, _, hunit, _, ⟨-, rfl⟩, _, ⟨hle, rfl⟩,
    rfl, rfl⟩, rfl, rfl, rfl⟩ := h
  obtain ⟨hsettles, hall⟩ := PerpV2LeverageModuleV2.invokeWithdraw_funding hspec hwithdraw
  rw [(PerpV2LeverageModuleV2.updateExternalPositionUnit_ok hunit).1,
    (calculateAndEditDefaultPosition_chain hdefault).1, handleFees_perp hfees]
  exact ⟨rfl, rfl, Nat.sub_add_cancel hle, hsettles, hall⟩

theorem withdrawFundingAndAccrueFees_books {amount : ℕ}
    (hspec : FundingSpec env m.toPerpV2LeverageModuleV2)
    (hfunding : w.chain.perp.pendingFundingPayment ≤ 0) (hpos : quantity ≠ 0)
    (h : m.withdrawFundingAndAccrueFees w env quantity = .ok (m', w', amount)) :
    Books m m' w w' (amount * decimalScale m'.collateralDecimals) ∧
      ((∃ settled, m.getUpdatedSettledFunding w = .ok settled ∧
        decimalScale m.collateralDecimals ≤ settled) → w'.chain.perp.NothingPending) := by
  simp only [withdrawFundingAndAccrueFees, fromPreciseUnitToDecimals, if_neg hpos,
    Outcome.bind_eq_ok, SafeMath.div_eq_ok] at h
  obtain ⟨_, -, n, hupdate, _, ⟨hscale, rfl⟩, hwithdraw⟩ := h
  obtain ⟨hleverage, hsettled, hrecorded⟩ := updateSettledFunding_ok hfunding hupdate
  rw [← hleverage] at hspec
  obtain ⟨rfl, hsame, hbooks, hsettles, hall⟩ := withdrawFunding_ok hspec hwithdraw
  rw [hsame]
  refine ⟨⟨hsettles, ?_⟩, ?_⟩
  · rw [← hrecorded]
    exact_mod_cast hbooks
  · rintro ⟨settled, hupdated, hle⟩
    rw [hsettled] at hupdated
    obtain rfl := Except.ok.inj hupdated
    apply hall
    rw [← hleverage] at hle
    exact lt_min (Nat.pos_of_ne_zero hpos) (Nat.div_pos hle hscale)

theorem moduleIssueHook_books {caller : Address}
    (hspec : FundingSpec env m.toPerpV2LeverageModuleV2)
    (hfunding : w.chain.perp.pendingFundingPayment ≤ 0)
    (h : m.moduleIssueHook w env caller quantity = .ok (m', w')) :
    Books m m' w w' 0 ∧
      (w.setToken.totalSupply ≠ 0 →
        Position.hasExternalPosition w.setToken m.collateralToken = true → m.AllTraded w →
        w'.chain.perp.NothingPending) := by
  simp only [moduleIssueHook, PerpV2LeverageModuleV2.moduleIssueHook, Outcome.bind_eq_ok,
    Outcome.pure_eq_ok, Prod.exists, Prod.mk.injEq] at h
  obtain ⟨_, -, n, hupdate, leverage, v, hhook, rfl, rfl⟩ := h
  obtain ⟨hleverage, -, hrecorded⟩ := updateSettledFunding_ok hfunding hupdate
  rw [hleverage] at hhook
  obtain ⟨hsettles, hall⟩ := PerpV2LeverageModuleV2.moduleHook_funding hspec hhook
  exact ⟨⟨hsettles, by simpa [setLeverage] using hrecorded⟩, hall⟩

/-- The hook either does nothing or records and trades. -/
theorem moduleRedeemHook_books {caller : Address}
    (hspec : FundingSpec env m.toPerpV2LeverageModuleV2)
    (hfunding : w.chain.perp.pendingFundingPayment ≤ 0)
    (h : m.moduleRedeemHook w env caller quantity = .ok (m', w')) :
    (m' = m ∧ w' = w ∧ (w.setToken.totalSupply = 0 ∨
      Position.hasExternalPosition w.setToken m.collateralToken = false)) ∨
    (w.setToken.totalSupply ≠ 0 ∧
      Position.hasExternalPosition w.setToken m.collateralToken = true ∧ Books m m' w w' 0 ∧
      (m.AllTraded w → w'.chain.perp.NothingPending)) := by
  simp only [moduleRedeemHook, Outcome.bind_eq_ok] at h
  obtain ⟨_, -, h⟩ := h
  split_ifs at h with hsupply hposition
  · obtain ⟨rfl, rfl⟩ := Prod.mk.inj (Outcome.pure_eq_ok.mp h)
    exact Or.inl ⟨rfl, rfl, Or.inl hsupply⟩
  · obtain ⟨rfl, rfl⟩ := Prod.mk.inj (Outcome.pure_eq_ok.mp h)
    exact Or.inl ⟨rfl, rfl, Or.inr hposition⟩
  · simp only [Outcome.bind_eq_ok, Outcome.pure_eq_ok, Prod.exists, Prod.mk.injEq] at h
    obtain ⟨n, hupdate, leverage, v, unit, htrades, _, -, u, hwrite, rfl, rfl⟩ := h
    obtain ⟨hleverage, -, hrecorded⟩ := updateSettledFunding_ok hfunding hupdate
    rw [hleverage] at htrades
    right
    refine ⟨hsupply, by simpa using hposition, ⟨?_, ?_⟩, ?_⟩
    · rw [World.onSetToken_chain hwrite]
      exact (PerpV2LeverageModuleV2.executePositionTrades_funding hspec htrades).1
    · simpa [setLeverage] using hrecorded
    · intro htraded
      rw [World.onSetToken_chain hwrite]
      exact PerpV2LeverageModuleV2.executePositionTrades_nothingPending hspec htraded htrades

end PerpV2BasisTradingModule

/-! ## Runs -/

/-- The module and the world, with the funding accrued and withdrawn so far in precise units. -/
structure FundingState where
  module : PerpV2BasisTradingModule
  world : World
  accrued : ℤ
  withdrawn : ℤ

/-- What may happen: a call of the module in its environment, an accrual that sets the funding owed in
each market, or anything else that leaves the funding and what is recorded of it alone. -/
inductive FundingAction where
  | accrue (pendingFunding : Address → ℤ)
  | tradeAndTrackFunding (env : Env) (baseToken : Address) (baseQuantityUnits : ℤ)
      (quoteBoundQuantityUnits : ℕ)
  | withdraw (env : Env) (collateralQuantityUnits : ℕ)
  | withdrawFundingAndAccrueFees (env : Env) (notionalFunding : ℕ)
  | moduleIssueHook (env : Env) (caller : Address) (setTokenQuantity : ℕ)
  | moduleRedeemHook (env : Env) (caller : Address) (setTokenQuantity : ℕ)
  | elsewhere (module : PerpV2BasisTradingModule) (world : World)

/-- Overwrite the pending funding. -/
def World.setPendingFunding (w : World) (pendingFunding : Address → ℤ) : World :=
  { w with chain := { w.chain with perp := { w.chain.perp with pendingFunding := pendingFunding } } }

namespace FundingState

/-- The account on Perp. -/
def account (s : FundingState) : PerpAccount := s.world.chain.perp

def perform (s : FundingState) : FundingAction → Outcome FundingState
  | .accrue pendingFunding => do
    let w := s.world.setPendingFunding pendingFunding
    let gain := s.account.pendingFundingPayment - w.chain.perp.pendingFundingPayment
    pure { s with world := w, accrued := s.accrued + gain }
  | .tradeAndTrackFunding env baseToken units bound => do
    let (m, w) ← s.module.tradeAndTrackFunding s.world env baseToken units bound
    pure { s with module := m, world := w }
  | .withdraw env units => do
    let (m, w) ← s.module.withdraw s.world env units
    pure { s with module := m, world := w }
  | .withdrawFundingAndAccrueFees env notionalFunding => do
    let (m, w, amount) ← s.module.withdrawFundingAndAccrueFees s.world env notionalFunding
    let value := amount * decimalScale m.collateralDecimals
    pure { s with module := m, world := w, withdrawn := s.withdrawn + value }
  | .moduleIssueHook env caller quantity => do
    let (m, w) ← s.module.moduleIssueHook s.world env caller quantity
    pure { s with module := m, world := w }
  | .moduleRedeemHook env caller quantity => do
    let (m, w) ← s.module.moduleRedeemHook s.world env caller quantity
    pure { s with module := m, world := w }
  | .elsewhere m w => pure { s with module := m, world := w }

/-- Accruals are in favour of the account, and Perp settles as it says. -/
def Admissible (s : FundingState) : FundingAction → Prop
  | .accrue pendingFunding => ∀ b, pendingFunding b ≤ s.account.pendingFunding b
  | .elsewhere m w => m.settledFunding = s.module.settledFunding ∧
      w.chain.perp.markets = s.account.markets ∧
      w.chain.perp.pendingFunding = s.account.pendingFunding
  | .tradeAndTrackFunding env .. | .withdraw env .. | .withdrawFundingAndAccrueFees env ..
  | .moduleIssueHook env .. | .moduleRedeemHook env .. =>
      FundingSpec env s.module.toPerpV2LeverageModuleV2

/-- If funding is pending, the action settles all of it or records none of it. -/
def SettlesAll (s : FundingState) (action : FundingAction) : Prop :=
  s.account.NothingPending ∨
    match action with
    | .accrue _ => True
    | .tradeAndTrackFunding env baseToken units bound =>
        (∀ b ∈ s.account.markets, b ≠ baseToken → s.account.pendingFunding b = 0) ∨
          ∃ fee, s.module.tradeFee s.world env baseToken units bound = .ok fee ∧ 0 < fee
    | .withdraw _ _ => True
    | .withdrawFundingAndAccrueFees _ notionalFunding => notionalFunding = 0 ∨
        ∃ settled, s.module.getUpdatedSettledFunding s.world = .ok settled ∧
          decimalScale s.module.collateralDecimals ≤ settled
    | .moduleIssueHook _ _ _ => s.world.setToken.totalSupply ≠ 0 ∧
        Position.hasExternalPosition s.world.setToken s.module.collateralToken = true ∧
        s.module.AllTraded s.world
    | .moduleRedeemHook _ _ _ => s.world.setToken.totalSupply = 0 ∨
        Position.hasExternalPosition s.world.setToken s.module.collateralToken = false ∨
        s.module.AllTraded s.world
    | .elsewhere _ _ => True

/-- One step of a run, in which the actions satisfy a condition. -/
inductive Step (condition : FundingState → FundingAction → Prop) (s : FundingState) :
    FundingState → Prop where
  | perform (action : FundingAction) {s' : FundingState} (hadmissible : s.Admissible action)
      (hcondition : condition s action) (h : s.perform action = .ok s') : Step condition s s'

/-- A run of any length. -/
def Run (condition : FundingState → FundingAction → Prop) : FundingState → FundingState → Prop :=
  Relation.ReflTransGen (Step condition)

/-- At the start nothing is recorded, and what is pending counts as accrued. -/
structure Fresh (s : FundingState) : Prop where
  funding : ∀ b, s.account.pendingFunding b ≤ 0
  accrued : s.accrued = -s.account.pendingFundingPayment
  settled : s.module.settledFunding = 0
  withdrawn : s.withdrawn = 0

/-- Every unit of funding that was accrued is pending, recorded or withdrawn, at most once. -/
structure Counted (s : FundingState) : Prop where
  funding : ∀ b, s.account.pendingFunding b ≤ 0
  bound : s.module.settledFunding + s.withdrawn - s.account.pendingFundingPayment ≤ s.accrued

theorem Fresh.counted {s : FundingState} (h : s.Fresh) : s.Counted := by
  refine ⟨h.funding, ?_⟩
  rw [h.settled, h.withdrawn, h.accrued]
  simp

variable {s s' : FundingState} {action : FundingAction}

/-- Recorded funding that is settled is not pending any more. -/
theorem Counted.of_books {m : PerpV2BasisTradingModule} {w : World} {withdrawn : ℕ}
    (h : s.Counted) (hbooks : s.module.Books m s.world w withdrawn)
    (hnone : w.chain.perp.NothingPending) :
    Counted { s with module := m, world := w, withdrawn := s.withdrawn + withdrawn } := by
  refine ⟨hbooks.settles.nonpos h.funding, ?_⟩
  have hbound := h.bound
  have hrecorded := hbooks.recorded
  change m.settledFunding + (s.withdrawn + withdrawn) - w.chain.perp.pendingFundingPayment ≤ s.accrued
  rw [hnone.pendingFundingPayment]
  unfold account at hbound
  omega

theorem Counted.of_books_zero {m : PerpV2BasisTradingModule} {w : World} (h : s.Counted)
    (hbooks : s.module.Books m s.world w 0) (hnone : w.chain.perp.NothingPending) :
    Counted { s with module := m, world := w } := by
  have hcounted := h.of_books hbooks hnone
  simpa only [Nat.cast_zero, add_zero] using hcounted

theorem Counted.accrue {pendingFunding : Address → ℤ} (h : s.Counted)
    (hgain : ∀ b, pendingFunding b ≤ s.account.pendingFunding b)
    (hperform : s.perform (.accrue pendingFunding) = .ok s') : s'.Counted := by
  obtain rfl := Outcome.pure_eq_ok.mp hperform
  refine ⟨fun b ↦ (hgain b).trans (h.funding b), ?_⟩
  have hbound := h.bound
  simp only [account] at hbound ⊢
  omega

theorem Counted.elsewhere {m : PerpV2BasisTradingModule} {w : World} (h : s.Counted)
    (hadmissible : s.Admissible (.elsewhere m w))
    (hperform : s.perform (.elsewhere m w) = .ok s') : s'.Counted := by
  obtain rfl := Outcome.pure_eq_ok.mp hperform
  obtain ⟨hsettled, hmarkets, hfunding⟩ := hadmissible
  have hpayment : w.chain.perp.pendingFundingPayment = s.account.pendingFundingPayment := by
    unfold PerpAccount.pendingFundingPayment
    rw [hmarkets, hfunding]
  constructor
  · intro b
    exact (congrFun hfunding b).le.trans (h.funding b)
  · have hbound := h.bound
    rw [← hsettled, ← hpayment] at hbound
    exact hbound

/-- What an action records is settled, unless nothing was pending. -/
theorem step_counted (hadmissible : s.Admissible action) (hsettles : s.SettlesAll action)
    (h : s.perform action = .ok s') (hs : s.Counted) : s'.Counted := by
  have hfunding : s.world.chain.perp.pendingFundingPayment ≤ 0 :=
    PerpAccount.pendingFundingPayment_nonpos hs.funding
  cases action with
  | accrue pendingFunding => exact hs.accrue hadmissible h
  | elsewhere m w => exact hs.elsewhere hadmissible h
  | tradeAndTrackFunding env baseToken units bound =>
    simp only [perform, Outcome.bind_eq_ok, Outcome.pure_eq_ok, Prod.exists] at h
    obtain ⟨m, w, hcall, rfl⟩ := h
    obtain ⟨hbooks, hall⟩ := PerpV2BasisTradingModule.tradeAndTrackFunding_books hadmissible hfunding
      hcall
    exact hs.of_books_zero hbooks
      (hsettles.elim (fun hnone ↦ hnone.settlesTo hbooks.settles) hall)
  | withdraw env units =>
    simp only [perform, Outcome.bind_eq_ok, Outcome.pure_eq_ok, Prod.exists] at h
    obtain ⟨m, w, hcall, rfl⟩ := h
    obtain ⟨hbooks, hall⟩ := PerpV2BasisTradingModule.withdraw_books hadmissible hfunding hcall
    exact hs.of_books_zero hbooks hall
  | withdrawFundingAndAccrueFees env notionalFunding =>
    simp only [perform, Outcome.bind_eq_ok, Outcome.pure_eq_ok, Prod.exists] at h
    obtain ⟨m, w, amount, hcall, rfl⟩ := h
    by_cases hzero : notionalFunding = 0
    · simp only [PerpV2BasisTradingModule.withdrawFundingAndAccrueFees, if_pos hzero,
        Outcome.bind_eq_ok, Outcome.pure_eq_ok, Prod.mk.injEq] at hcall
      obtain ⟨_, -, rfl, rfl, rfl⟩ := hcall
      simpa only [Nat.zero_mul, Nat.cast_zero, add_zero] using hs
    · obtain ⟨hbooks, hall⟩ := PerpV2BasisTradingModule.withdrawFundingAndAccrueFees_books hadmissible
        hfunding hzero hcall
      apply hs.of_books hbooks
      rcases hsettles with hnone | hnothing | hsettled
      · exact hnone.settlesTo hbooks.settles
      · exact absurd hnothing hzero
      · exact hall hsettled
  | moduleIssueHook env caller quantity =>
    simp only [perform, Outcome.bind_eq_ok, Outcome.pure_eq_ok, Prod.exists] at h
    obtain ⟨m, w, hcall, rfl⟩ := h
    obtain ⟨hbooks, hall⟩ := PerpV2BasisTradingModule.moduleIssueHook_books hadmissible hfunding hcall
    apply hs.of_books_zero hbooks
    rcases hsettles with hnone | ⟨hsupply, hposition, htraded⟩
    · exact hnone.settlesTo hbooks.settles
    · exact hall hsupply hposition htraded
  | moduleRedeemHook env caller quantity =>
    simp only [perform, Outcome.bind_eq_ok, Outcome.pure_eq_ok, Prod.exists] at h
    obtain ⟨m, w, hcall, rfl⟩ := h
    rcases PerpV2BasisTradingModule.moduleRedeemHook_books hadmissible hfunding hcall with
      ⟨rfl, rfl, -⟩ | ⟨hsupply, hposition, hbooks, hall⟩
    · exact hs
    · apply hs.of_books_zero hbooks
      rcases hsettles with hnone | hsupply' | hposition' | htraded
      · exact hnone.settlesTo hbooks.settles
      · exact absurd hsupply' hsupply
      · exact absurd (hposition'.symm.trans hposition) Bool.false_ne_true
      · exact hall htraded

theorem run_counted (h : Run SettlesAll s s') (hs : s.Counted) : s'.Counted := by
  unfold Run at h
  induction h with
  | refl => exact hs
  | tail _ hstep ih =>
    obtain ⟨action, hadmissible, hcondition, hperform⟩ := hstep
    exact step_counted hadmissible hcondition hperform ih

/-- In a run whose actions settle what they record, no funding is counted twice. -/
theorem settled_add_withdrawn_le_accrued (h : Run SettlesAll s s') (hs : s.Fresh) :
    s'.module.settledFunding + s'.withdrawn ≤ s'.accrued := by
  obtain ⟨hfunding, hbound⟩ := run_counted h hs.counted
  have hpayment := PerpAccount.pendingFundingPayment_nonpos hfunding
  omega

namespace Sample

/-- The manager 2 sends a transaction.  Perp settles the traded market 61 or 62, or all markets on a
withdrawal, and every trade moves one unit of quote. -/
def perpEnv : Env :=
  { Env.plain 2 0 with
    perpHasPool := fun _ ↦ true
    returnData := fun _ _ ↦ [1, 1]
    call := fun invocation chain ↦
      match invocation.callData with
      | .openPosition trade _ =>
        let pending := Function.update chain.perp.pendingFunding trade.baseToken 0
        .ok { chain with perp := { chain.perp with pendingFunding := pending } }
      | .vaultWithdraw _ _ =>
        .ok { chain with perp := { chain.perp with pendingFunding := fun _ ↦ 0 } }
      | _ => .error "no contract" }

/-- One Set with positions in both markets. -/
def start : FundingState where
  module := {
    address := 33
    owner := 1
    collateralToken := 45
    collateralDecimals := 6
    perpVault := 46
    perpClearingHouse := 47
    perpQuoter := 48
    maxPerpPositionsPerSet := 2
    positions := [61, 62]
    allowedSetToken := false
    anySetAllowed := true
    feeSettings := ⟨9, 10 ^ 17, 10 ^ 17⟩
    settledFunding := 0 }
  world := {
    controller := { Controller.enabling 4 [33] with isSet := fun a ↦ a == 6 }
    setToken := SetToken.launched 6 [45] [1] [33] 2 9 (10 ^ 18)
    chain := {
      tokens := fun _ ↦ ERC20.holding 6 [(6, 1)] 0
      perp := { PerpAccount.empty with markets := [61, 62], base := fun _ ↦ 10 ^ 18 } }
    log := [] }
  accrued := 0
  withdrawn := 0

theorem start_fresh : start.Fresh :=
  ⟨fun _ ↦ le_rfl, rfl, rfl, rfl⟩

theorem perpEnv_fundingSpec (m : PerpV2LeverageModuleV2) : FundingSpec perpEnv m := by
  constructor
  · intro asset amount chain chain' _ h
    obtain rfl := Except.ok.inj h
    exact ⟨rfl, fun _ ↦ rfl⟩
  · intro trade bound chain chain' h
    obtain rfl := Except.ok.inj h
    exact ⟨rfl, rfl⟩

/-- Ten units are accrued in market 61 and `other` units in market 62. -/
def accrued (other : ℤ) : FundingState :=
  (start.perform (.accrue fun b ↦ if b = 61 then -10 else -other)).getD start

theorem accrue_admissible {other : ℤ} (h : 0 ≤ other) :
    start.Admissible (.accrue fun b ↦ if b = 61 then -10 else -other) := by
  intro b
  change (if b = 61 then -10 else -other) ≤ 0
  split_ifs <;> omega

/-- The manager trades in market 61. -/
def trade : FundingAction := .tradeAndTrackFunding perpEnv 61 (10 ^ 17) 0

def traded (other : ℤ) : FundingState := ((accrued other).perform trade).getD start

def tradedTwice (other : ℤ) : FundingState := ((traded other).perform trade).getD start

/-- The funding of market 62 is recorded by both trades: thirty units, of which twenty were
accrued. -/
theorem tradedTwice_exceeds :
    start.Fresh ∧ Run (fun _ _ ↦ True) start (tradedTwice 10) ∧
      ¬ (tradedTwice 10).module.settledFunding + (tradedTwice 10).withdrawn ≤
        (tradedTwice 10).accrued := by
  refine ⟨start_fresh, ?_, by decide +kernel⟩
  apply Relation.ReflTransGen.tail (b := traded 10)
  · apply Relation.ReflTransGen.tail (b := accrued 10)
    · exact Relation.ReflTransGen.single (.perform _ (accrue_admissible (by decide)) trivial rfl)
    · exact .perform trade (perpEnv_fundingSpec _) trivial
        (Outcome.eq_ok_getD start (by decide +kernel))
  · exact .perform trade (perpEnv_fundingSpec _) trivial
      (Outcome.eq_ok_getD start (by decide +kernel))

/-- Without funding in market 62 the trade settles what it records. -/
theorem traded_le_accrued :
    0 < (accrued 0).accrued ∧ (traded 0).module.settledFunding + (traded 0).withdrawn ≤
      (traded 0).accrued := by
  refine ⟨by decide +kernel, settled_add_withdrawn_le_accrued ?_ start_fresh⟩
  have hsettles : (accrued 0).SettlesAll trade := by
    right
    left
    intro b _ hne
    exact if_neg hne
  apply Relation.ReflTransGen.tail (b := accrued 0)
  · exact Relation.ReflTransGen.single (.perform _ (accrue_admissible le_rfl) (Or.inr trivial) rfl)
  · exact .perform trade (perpEnv_fundingSpec _) hsettles
      (Outcome.eq_ok_getD start (by decide +kernel))

end Sample

end FundingState

end SetProtocol
