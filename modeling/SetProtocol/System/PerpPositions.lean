import SetProtocol.Foundation.Trace
import SetProtocol.Core.PositionTracking
import SetProtocol.Modules.PerpV2LeverageModuleV2

/-!
# The position of a Perp account

The unit of the account is written in two ways.  `deposit` and `withdraw` go through the `Position`
library, which lists the module with a non-zero unit and drops it with the unit zero.  The hooks of
issuance write the unit directly and leave the list alone, so they keep list and unit in agreement
exactly when the module is listed and the account is worth one unit of the collateral for each Set, or
neither.
-/

namespace SetProtocol

open PreciseUnitMath ModuleBase UnitConversionUtils

namespace PerpV2LeverageModuleV2

variable {m m' : PerpV2LeverageModuleV2} {w w' : World} {env : Env} {caller : Address}
  {quantity : ℕ} {isIssue : Bool}

/-! ## What the account is worth -/

/-- The value of the account without its base tokens, in precise units. -/
def partialAccountValue (m : PerpV2LeverageModuleV2) (w : World) : ℤ :=
  w.chain.perp.vaultBalance * decimalScale m.collateralDecimals + w.chain.perp.owedRealizedPnl -
    w.chain.perp.pendingFundingPayment + (m.positions.map w.chain.perp.quote).sum

/-- The base tokens of a position that belong to a quantity of Sets. -/
def positionNotional (w : World) (quantity : ℤ) (baseToken : Address) : ℤ :=
  ((w.chain.perp.base baseToken * preciseUnitInt).tdiv w.setToken.totalSupply * quantity).tdiv
    preciseUnitInt

/-- The trade that enlarges or reduces a position by a notional amount. -/
def positionTrade (isIssue : Bool) (baseToken : Address) (notional : ℤ) : PerpActionInfo :=
  let traded := if isIssue then notional else -notional
  ⟨baseToken, decide (0 < traded), traded.natAbs, 0⟩

/-- The quote that Perp moves in a trade. -/
def quoteOf (m : PerpV2LeverageModuleV2) (env : Env) (chain : Chain) (action : PerpActionInfo) : ℤ :=
  (env.returnData (m.openPositionCall action) chain).getD 1 0

/-- The quote that Perp moves in a sequence of trades, counted for long positions and against short
ones. -/
def quotedTotal (m : PerpV2LeverageModuleV2) (env : Env) (isIssue : Bool) :
    Chain → List (Address × ℤ) → ℤ
  | _, [] => 0
  | chain, (baseToken, notional) :: rest =>
    let action := positionTrade isIssue baseToken notional
    let quote := m.quoteOf env chain action
    (if 0 ≤ notional then quote else -quote) +
      m.quotedTotal env isIssue ((env.call (m.openPositionCall action) chain).getD chain) rest

/-- The value of the account that belongs to a quantity of Sets. -/
def valueOf (m : PerpV2LeverageModuleV2) (w : World) (env : Env) (quantity : ℤ) (isIssue : Bool) :
    ℤ :=
  ((m.partialAccountValue w * preciseUnitInt).tdiv w.setToken.totalSupply * quantity).tdiv
      preciseUnitInt +
    m.quotedTotal env isIssue w.chain
      (m.positions.map fun baseToken ↦ (baseToken, positionNotional w quantity baseToken))

/-- A value makes one unit of the collateral token for each Set, in the rounding of the hooks: up on
issue and down on redeem. -/
def MakesUnit (m : PerpV2LeverageModuleV2) (value quantity : ℤ) (isIssue : Bool) : Prop :=
  0 < value ∧
    if isIssue then
      (decimalScale m.collateralDecimals - 1) * quantity < value * preciseUnitInt
    else
      decimalScale m.collateralDecimals * quantity ≤ value * preciseUnitInt

/-- The account, less the positions that are dust, is worth one unit of the collateral token for each
Set. -/
def WorthUnit (m : PerpV2LeverageModuleV2) (w : World) (env : Env) (quantity : ℕ)
    (isIssue : Bool) : Prop :=
  ∃ n, m.syncPositionList w = .ok n ∧
    n.MakesUnit (n.valueOf w env quantity isIssue) quantity isIssue

/-! ### The trades of the hooks compute that value -/

theorem createActionInfoNotional_ok {baseToken : Address} {notional traded : ℤ}
    {action : PerpActionInfo} (htraded : tradedQuantity notional isIssue = .ok traded)
    (h : createActionInfoNotional baseToken traded 0 = .ok action) :
    action = positionTrade isIssue baseToken notional := by
  have hsign : traded = if isIssue then notional else -notional := by
    unfold tradedQuantity at htraded
    split_ifs at htraded ⊢
    · exact (Outcome.pure_eq_ok.mp htraded).symm
    · simp only [PreciseUnitMath.neg, Outcome.bind_eq_ok, Outcome.pure_eq_ok] at htraded
      obtain ⟨_, -, rfl⟩ := htraded
      rfl
  simp only [createActionInfoNotional, Outcome.bind_eq_ok, Outcome.pure_eq_ok] at h
  obtain ⟨amount, habs, rfl⟩ := h
  have hamount : amount = traded.natAbs := by
    unfold PreciseUnitMath.abs at habs
    split_ifs at habs
    · simp only [SafeCast.toUint256_eq_ok] at habs
      omega
    · simp only [Outcome.bind_eq_ok, SignedSafeMath.mul_eq_ok, SafeCast.toUint256_eq_ok] at habs
      obtain ⟨_, ⟨-, rfl⟩, habs⟩ := habs
      omega
  simp only [positionTrade, ← hsign, hamount]

theorem runTrade_chain {action : PerpActionInfo} {deltas : ℕ × ℕ}
    (h : m.runTrade w env action false = .ok (w', deltas)) :
    env.call (m.openPositionCall action) w.chain = .ok w'.chain := by
  simp only [runTrade, tradeCall, openPositionCall, World.invoke, World.execute,
    Outcome.bind_eq_ok, Outcome.pure_eq_ok, Prod.mk.injEq, if_false, Bool.false_eq_true] at h
  obtain ⟨_, ⟨_, -, _, ⟨chain, hchain, rfl⟩, rfl⟩, _, -, rfl, -⟩ := h
  exact hchain

theorem runTrade_ok {action : PerpActionInfo} {deltaBase deltaQuote : ℕ}
    (h : m.runTrade w env action false = .ok (w', deltaBase, deltaQuote)) :
    (deltaQuote : ℤ) = m.quoteOf env w.chain action ∧
      w'.chain = (env.call (m.openPositionCall action) w.chain).getD w.chain := by
  have hchain := runTrade_chain h
  simp only [runTrade, tradeCall, openPositionCall, if_false, Bool.false_eq_true,
    Outcome.bind_eq_ok, Outcome.pure_eq_ok, Prod.mk.injEq] at h
  obtain ⟨_, -, _, hdecode, rfl, rfl⟩ := h
  constructor
  · unfold quoteOf openPositionCall
    revert hdecode
    generalize env.returnData _ _ = words
    intro hdecode
    rcases words with - | ⟨word, - | ⟨word', words⟩⟩
    · cases hdecode
    · cases hdecode
    · obtain ⟨rfl, rfl⟩ := Prod.mk.inj (Outcome.pure_eq_ok.mp hdecode)
      rfl
  · rw [hchain]
    rfl

theorem addQuote_ok {value notional quote value' : ℤ}
    (h : addQuote value notional quote = .ok value') :
    value' = value + if 0 ≤ notional then quote else -quote := by
  unfold addQuote at h
  split_ifs at h ⊢
  · exact (SignedSafeMath.add_eq_ok.mp h).2
  · rw [(SignedSafeMath.sub_eq_ok.mp h).2, sub_eq_add_neg]

theorem tradeLoop_ok {total supply value value' : ℤ} {infos : List PositionNotionalInfo}
    (h : infos.foldlM (m.tradePosition env total supply isIssue false) (w, value) =
      .ok (w', value')) :
    value' = value + m.quotedTotal env isIssue w.chain (infos.map fun info ↦ (info.baseToken,
      ((info.baseBalance * preciseUnitInt).tdiv supply * total).tdiv preciseUnitInt)) := by
  induction infos generalizing w value with
  | nil =>
    obtain ⟨-, rfl⟩ := Prod.mk.inj (Outcome.pure_eq_ok.mp h)
    simp [quotedTotal]
  | cons info infos ih =>
    simp only [List.foldlM_cons, Outcome.bind_eq_ok, Prod.exists] at h
    obtain ⟨v, value₁, hstep, hrest⟩ := h
    simp only [tradePosition, Outcome.bind_eq_ok, Outcome.pure_eq_ok, SafeCast.toInt256_eq_ok,
      Prod.exists, Prod.mk.injEq] at hstep
    obtain ⟨unit, hunit, notional, hnotional, traded, htraded, action, haction, v, _, quote, hrun, _,
      ⟨-, rfl⟩, _, hadd, rfl, rfl⟩ := hstep
    obtain rfl := createActionInfoNotional_ok htraded haction
    obtain ⟨hquote, hchain⟩ := runTrade_ok hrun
    rw [ih hrest, addQuote_ok hadd, hquote, hchain, List.map_cons, quotedTotal,
      ← (preciseDivInt_eq_of_ok hunit).2, ← preciseMulInt_eq_of_ok hnotional, add_assoc]

theorem getNetQuoteBalance_ok {total : ℤ} (h : m.getNetQuoteBalance w = .ok total) :
    total = (m.positions.map w.chain.perp.quote).sum := by
  have hloop : ∀ (positions : List Address) (start total : ℤ),
      positions.foldlM (fun total baseToken ↦
        SignedSafeMath.add total (w.chain.perp.quote baseToken)) start = .ok total →
        total = start + (positions.map w.chain.perp.quote).sum := by
    intro positions
    induction positions with
    | nil =>
      intro start total h
      simp [← Outcome.pure_eq_ok.mp h]
    | cons baseToken positions ih =>
      intro start total h
      simp only [List.foldlM_cons, Outcome.bind_eq_ok, SignedSafeMath.add_eq_ok] at h
      obtain ⟨_, ⟨-, rfl⟩, h⟩ := h
      rw [ih _ _ h, List.map_cons, List.sum_cons, add_assoc]
  rw [hloop _ _ _ h, zero_add]

theorem calculatePartialAccountValuePositionUnit_ok {unit : ℤ}
    (h : m.calculatePartialAccountValuePositionUnit w = .ok unit) :
    unit = (m.partialAccountValue w * preciseUnitInt).tdiv w.setToken.totalSupply := by
  simp only [calculatePartialAccountValuePositionUnit, getAccountInfo,
    toPreciseUnitsFromDecimalsInt, PreciseUnitMath.neg, Outcome.bind_eq_ok, Outcome.pure_eq_ok,
    SignedSafeMath.add_eq_ok, SignedSafeMath.mul_eq_ok, SafeCast.toInt256_eq_ok] at h
  obtain ⟨_, ⟨_, ⟨-, rfl⟩, _, ⟨_, -, rfl⟩, _, hquote, rfl⟩, _, ⟨-, rfl⟩, _, ⟨-, rfl⟩, _, ⟨-, rfl⟩, _,
    ⟨-, rfl⟩, hunit⟩ := h
  rw [(preciseDivInt_eq_of_ok hunit).2, getNetQuoteBalance_ok hquote, partialAccountValue,
    ← sub_eq_add_neg]

theorem tradePositions_ok {total value : ℤ}
    (h : m.tradePositions w env total isIssue false = .ok (w', value)) :
    value = m.valueOf w env total isIssue := by
  simp only [tradePositions, getPositionNotionalInfo, Outcome.bind_eq_ok,
    SafeCast.toInt256_eq_ok] at h
  obtain ⟨unit, hunit, start, hstart, _, ⟨-, rfl⟩, hloop⟩ := h
  rw [tradeLoop_ok hloop, preciseMulInt_eq_of_ok hstart,
    calculatePartialAccountValuePositionUnit_ok hunit, List.map_map]
  rfl

theorem tdiv_ne_zero_iff {a b : ℤ} (ha : 0 ≤ a) (hb : 0 < b) : a.tdiv b ≠ 0 ↔ b ≤ a := by
  have hquot : 0 ≤ a / b := Int.ediv_nonneg ha hb.le
  have hone : 1 ≤ a / b ↔ b ≤ a := by
    rw [Int.le_ediv_iff_mul_le hb, one_mul]
  rw [Int.tdiv_eq_ediv_of_nonneg ha, ← hone]
  omega

/-- The unit that is computed from a value is zero unless the value makes a unit. -/
theorem issuedPositionUnit_ne_zero_iff {value total unit : ℤ} (htotal : 0 ≤ total)
    (h : m.issuedPositionUnit value total isIssue = .ok unit) :
    unit ≠ 0 ↔ m.MakesUnit value total isIssue := by
  unfold issuedPositionUnit at h
  unfold MakesUnit
  by_cases hvalue : value ≤ 0
  · rw [if_pos hvalue] at h
    obtain rfl := Outcome.pure_eq_ok.mp h
    simp [not_lt.mpr hvalue]
  · have hpos : 0 < value := not_le.mp hvalue
    rw [if_neg hvalue] at h
    simp only [hpos, true_and]
    have hproduct : 0 < value * preciseUnitInt := mul_pos hpos preciseUnitInt_pos
    have hscale : ∀ {unit : ℤ}, (decimalScale m.collateralDecimals : ℤ) ≠ 0 → 0 ≤ unit →
        (unit.tdiv (decimalScale m.collateralDecimals) ≠ 0 ↔
          (decimalScale m.collateralDecimals : ℤ) ≤ unit) := by
      intro unit hne hunit
      exact tdiv_ne_zero_iff hunit (lt_of_le_of_ne (Int.natCast_nonneg _) hne.symm)
    split_ifs at h ⊢ with hissue
    · simp only [fromPreciseUnitToDecimalsInt, Outcome.bind_eq_ok, SignedSafeMath.div_eq_ok] at h
      obtain ⟨ceil, hceil, hne, -, rfl⟩ := h
      obtain ⟨htotal, rfl⟩ := preciseDivCeilInt_eq_of_ok hpos htotal hceil
      rw [hscale hne (Int.ediv_nonneg (by omega) htotal.le), Int.le_ediv_iff_mul_le htotal, sub_mul,
        one_mul]
      omega
    · simp only [fromPreciseUnitToDecimalsInt, Outcome.bind_eq_ok, SignedSafeMath.div_eq_ok] at h
      obtain ⟨floor, hfloor, hne, -, rfl⟩ := h
      obtain ⟨hnonzero, rfl⟩ := preciseDivInt_eq_of_ok hfloor
      have htotal : 0 < total := lt_of_le_of_ne htotal hnonzero.symm
      rw [hscale hne (Int.tdiv_nonneg hproduct.le htotal.le),
        Int.tdiv_eq_ediv_of_nonneg hproduct.le, Int.le_ediv_iff_mul_le htotal]

theorem executePositionTrades_ne_zero_iff {unit : ℤ}
    (h : m.executePositionTrades w env quantity isIssue false = .ok (m', w', unit)) :
    unit ≠ 0 ↔ m.WorthUnit w env quantity isIssue := by
  simp only [executePositionTrades, Outcome.bind_eq_ok, Outcome.pure_eq_ok, Prod.exists,
    Prod.mk.injEq, SafeCast.toInt256_eq_ok] at h
  obtain ⟨n, hsync, _, ⟨-, rfl⟩, v, value, hvalue, unit, hunit, rfl, rfl, rfl⟩ := h
  rw [issuedPositionUnit_ne_zero_iff (Int.natCast_nonneg _) hunit, tradePositions_ok hvalue]
  constructor
  · intro hmakes
    exact ⟨n, hsync, hmakes⟩
  · rintro ⟨n', hsync', hmakes⟩
    obtain rfl := Except.ok.inj (hsync.symm.trans hsync')
    exact hmakes

/-! ## The hooks -/

/-- A hook returns early, or writes the unit of the account directly. -/
inductive HookEffect (m : PerpV2LeverageModuleV2) (w : World) (env : Env) (quantity : ℕ)
    (isIssue : Bool) : PerpV2LeverageModuleV2 → World → Prop where
  | early (h : w.setToken.totalSupply = 0 ∨
        w.setToken.externalPositionModules m.collateralToken = []) :
      HookEffect m w env quantity isIssue m w
  | writes {n : PerpV2LeverageModuleV2} {v : World} {unit virtualUnit : ℤ} {data : List UInt8}
      (hsupply : w.setToken.totalSupply ≠ 0)
      (hmodules : w.setToken.externalPositionModules m.collateralToken ≠ [])
      (hsame : m.SameContracts n) (hsteady : w.Steady v)
      (hstored : v.setToken.convertRealToVirtualUnit unit = .ok virtualUnit)
      (hunit : unit ≠ 0 ↔ m.WorthUnit w env quantity isIssue) :
      HookEffect m w env quantity isIssue n
        { v with
          setToken := v.setToken.setExternalPosition m.collateralToken m.address
            ⟨virtualUnit, data⟩ }

theorem moduleHook_ok (h : m.moduleHook w env caller quantity isIssue = .ok (m', w')) :
    HookEffect m w env quantity isIssue m' w' := by
  have hnone : Position.hasExternalPosition w.setToken m.collateralToken = false ↔
      w.setToken.externalPositionModules m.collateralToken = [] := by
    simp [Position.hasExternalPosition, List.length_eq_zero_iff]
  simp only [moduleHook, Outcome.bind_eq_ok, hnone] at h
  obtain ⟨_, -, h⟩ := h
  split_ifs at h with hsupply hmodules
  · obtain ⟨rfl, rfl⟩ := Prod.mk.inj (Outcome.pure_eq_ok.mp h)
    exact .early (Or.inl hsupply)
  · obtain ⟨rfl, rfl⟩ := Prod.mk.inj (Outcome.pure_eq_ok.mp h)
    exact .early (Or.inr hmodules)
  · simp only [World.onSetToken, Outcome.bind_eq_ok, Outcome.pure_eq_ok, Prod.exists,
      Prod.mk.injEq, SetToken.editExternalPositionUnit_eq_ok] at h
    obtain ⟨n, v, unit, htrades, _, ⟨_, ⟨-, virtualUnit, hstored, rfl⟩, rfl⟩, rfl, rfl⟩ := h
    obtain ⟨hsame, hcalls⟩ : m.SameContracts n ∧ World.Calls env (fun _ ↦ True) w v :=
      executePositionTrades_calls (fun _ ↦ trivial) htrades
    rw [hsame.address, hsame.collateralToken]
    exact .writes hsupply hmodules hsame hcalls.steady hstored
      (executePositionTrades_ne_zero_iff htrades)

/-- The lists agree with the units of the collateral token. -/
structure Tracked (m : PerpV2LeverageModuleV2) (s : SetToken) : Prop where
  external : m.address ∈ s.externalPositionModules m.collateralToken ↔
    s.externalPositionVirtualUnit m.collateralToken m.address ≠ 0
  component : m.collateralToken ∈ s.components ↔
    0 < s.defaultPositionVirtualUnit m.collateralToken ∨
      s.externalPositionModules m.collateralToken ≠ []

theorem tracked_of_positionInvariant {s : SetToken} (h : s.PositionInvariant) : m.Tracked s :=
  ⟨h.mem_external _ _, h.mem_components _⟩

/-- A hook that does not return early needs the module to be listed exactly when the account is worth
a unit. -/
def HookKeeps (m : PerpV2LeverageModuleV2) (w : World) (env : Env) (quantity : ℕ)
    (isIssue : Bool) : Prop :=
  w.setToken.totalSupply = 0 ∨ w.setToken.externalPositionModules m.collateralToken = [] ∨
    (m.address ∈ w.setToken.externalPositionModules m.collateralToken ↔
      m.WorthUnit w env quantity isIssue)

theorem steady_positionInvariant {v : World} (h : w.setToken.PositionInvariant)
    (hsteady : w.Steady v) : v.setToken.PositionInvariant := by
  obtain ⟨t, ht, -⟩ := hsteady.setToken
  rw [ht]
  exact h.of_same_positions rfl rfl rfl

theorem moduleHook_positionInvariant (h : m.moduleHook w env caller quantity isIssue = .ok (m', w'))
    (hw : w.setToken.PositionInvariant) (hkeeps : m.HookKeeps w env quantity isIssue) :
    w'.setToken.PositionInvariant := by
  cases moduleHook_ok h with
  | early => exact hw
  | writes hsupply hmodules hsame hsteady hstored hunit =>
    have hlisted := (hkeeps.resolve_left hsupply).resolve_left hmodules
    apply (steady_positionInvariant hw hsteady).setExternalPosition hstored
    rw [hsteady.externalPositionModules, hlisted, hunit]

/-- The lists agree with the units after a hook exactly when the hook keeps them. -/
theorem moduleHook_tracked_iff (h : m.moduleHook w env caller quantity isIssue = .ok (m', w'))
    (hw : w.setToken.PositionInvariant) :
    m'.Tracked w'.setToken ↔ m.HookKeeps w env quantity isIssue := by
  constructor
  · intro htracked
    cases moduleHook_ok h with
    | early hearly => exact hearly.imp_right Or.inl
    | writes hsupply hmodules hsame hsteady hstored hunit =>
      have hexternal := htracked.external
      have hstores := SetToken.convertRealToVirtualUnit_stores
        (steady_positionInvariant hw hsteady).multiplier_pos hstored
      rw [hsame.address, hsame.collateralToken] at hexternal
      simp only [SetToken.setExternalPosition_externalPositionModules,
        SetToken.setExternalPosition_externalPositionVirtualUnit, and_self, if_true,
        hsteady.externalPositionModules, ne_eq, hstores.eq_zero_iff] at hexternal
      exact Or.inr (Or.inr (hexternal.trans hunit))
  · intro hkeeps
    exact tracked_of_positionInvariant (moduleHook_positionInvariant h hw hkeeps)

/-! ## Deposits and withdrawals -/

theorem updateExternalPositionUnit_positionInvariant (h : m.updateExternalPositionUnit w = .ok w')
    (hw : w.setToken.PositionInvariant) : w'.setToken.PositionInvariant := by
  simp only [updateExternalPositionUnit, World.onSetToken, Outcome.bind_eq_ok,
    Outcome.pure_eq_ok] at h
  obtain ⟨unit, -, s, hedit, rfl⟩ := h
  exact hw.editExternalPosition hedit

theorem calculateAndEditDefaultPosition_positionInvariant {component : Address}
    {supply previous : ℕ} {result : ℕ × ℕ × ℕ}
    (h : calculateAndEditDefaultPosition w m.address component supply previous = .ok (w', result))
    (hw : w.setToken.PositionInvariant) : w'.setToken.PositionInvariant := by
  simp only [calculateAndEditDefaultPosition, Position.calculateAndEditDefaultPosition,
    Outcome.bind_eq_ok, Outcome.pure_eq_ok, Prod.exists, Prod.mk.injEq] at h
  obtain ⟨s, _, _, _, ⟨_, -, _, -, unit, -, _, hedit, rfl, rfl, rfl, rfl⟩, rfl, rfl⟩ := h
  exact hw.editDefaultPosition hedit

theorem deposit_positionInvariant (h : m.deposit w env quantity = .ok w')
    (hw : w.setToken.PositionInvariant) : w'.setToken.PositionInvariant := by
  simp only [deposit, depositAndUpdatePositions, Outcome.bind_eq_ok, Prod.exists] at h
  obtain ⟨_, -, _, -, _, -, _, -, _, -, _, -, v, hdeposit, u, _, _, _, hdefault, hexternal⟩ := h
  have hsteady := (invokeDeposit_calls (fun _ hcall ↦ hcall) hdeposit).steady
  exact updateExternalPositionUnit_positionInvariant hexternal
    (calculateAndEditDefaultPosition_positionInvariant hdefault
      (steady_positionInvariant hw hsteady))

theorem withdraw_positionInvariant (h : m.withdraw w env quantity = .ok w')
    (hw : w.setToken.PositionInvariant) : w'.setToken.PositionInvariant := by
  simp only [withdraw, withdrawAndUpdatePositions, Outcome.bind_eq_ok, Prod.exists] at h
  obtain ⟨_, -, _, -, _, -, v, hwithdraw, u, _, _, _, hdefault, hexternal⟩ := h
  have hsteady := (invokeWithdraw_calls (fun _ hcall ↦ hcall) hwithdraw).steady
  exact updateExternalPositionUnit_positionInvariant hexternal
    (calculateAndEditDefaultPosition_positionInvariant hdefault
      (steady_positionInvariant hw hsteady))

end PerpV2LeverageModuleV2

/-! ## Runs -/

structure PerpState where
  module : PerpV2LeverageModuleV2
  world : World

/-- The calls of the module.  In between, the contracts outside the protocol and the balances and the
supply of the Set change in any way. -/
inductive PerpAction where
  | deposit (env : Env) (collateralQuantityUnits : ℕ)
  | withdraw (env : Env) (collateralQuantityUnits : ℕ)
  | moduleIssueHook (env : Env) (caller : Address) (setTokenQuantity : ℕ)
  | moduleRedeemHook (env : Env) (caller : Address) (setTokenQuantity : ℕ)
  | elsewhere (chain : Chain) (erc20 : ERC20)

namespace PerpState

variable {s s' : PerpState} {action : PerpAction}

def perform (s : PerpState) : PerpAction → Outcome PerpState
  | .deposit env units => do
    let w ← s.module.deposit s.world env units
    pure ⟨s.module, w⟩
  | .withdraw env units => do
    let w ← s.module.withdraw s.world env units
    pure ⟨s.module, w⟩
  | .moduleIssueHook env caller quantity => do
    let (m, w) ← s.module.moduleIssueHook s.world env caller quantity
    pure ⟨m, w⟩
  | .moduleRedeemHook env caller quantity => do
    let (m, w) ← s.module.moduleRedeemHook s.world env caller quantity
    pure ⟨m, w⟩
  | .elsewhere chain erc20 =>
    pure ⟨s.module, { s.world with chain := chain, setToken := s.world.setToken.setErc20 erc20 }⟩

/-- The lists of the SetToken agree with its units. -/
def Tracked (s : PerpState) : Prop := s.module.Tracked s.world.setToken

/-- Deposits and withdrawals always keep the lists; hooks under the condition above. -/
def Keeps (s : PerpState) : PerpAction → Prop
  | .moduleIssueHook env _ quantity => s.module.HookKeeps s.world env quantity true
  | .moduleRedeemHook env _ quantity => s.module.HookKeeps s.world env quantity false
  | _ => True

/-- An action keeps the lists in agreement with the units exactly under its condition, and then it
keeps the whole position store consistent. -/
theorem step_tracked_iff (h : s.perform action = .ok s')
    (hs : s.world.setToken.PositionInvariant) :
    (s'.Tracked ↔ s.Keeps action) ∧
      (s.Keeps action → s'.world.setToken.PositionInvariant) := by
  have hkept : ∀ {t : PerpState}, t.world.setToken.PositionInvariant →
      (t.Tracked ↔ True) ∧ (True → t.world.setToken.PositionInvariant) := by
    intro t ht
    exact ⟨iff_of_true (PerpV2LeverageModuleV2.tracked_of_positionInvariant ht) trivial, fun _ ↦ ht⟩
  cases action with
  | deposit env units =>
    simp only [perform, Outcome.bind_eq_ok, Outcome.pure_eq_ok] at h
    obtain ⟨w, hcall, rfl⟩ := h
    exact hkept (PerpV2LeverageModuleV2.deposit_positionInvariant hcall hs)
  | withdraw env units =>
    simp only [perform, Outcome.bind_eq_ok, Outcome.pure_eq_ok] at h
    obtain ⟨w, hcall, rfl⟩ := h
    exact hkept (PerpV2LeverageModuleV2.withdraw_positionInvariant hcall hs)
  | moduleIssueHook env caller quantity =>
    simp only [perform, Outcome.bind_eq_ok, Outcome.pure_eq_ok, Prod.exists] at h
    obtain ⟨m, w, hcall, rfl⟩ := h
    exact ⟨PerpV2LeverageModuleV2.moduleHook_tracked_iff hcall hs,
      PerpV2LeverageModuleV2.moduleHook_positionInvariant hcall hs⟩
  | moduleRedeemHook env caller quantity =>
    simp only [perform, Outcome.bind_eq_ok, Outcome.pure_eq_ok, Prod.exists] at h
    obtain ⟨m, w, hcall, rfl⟩ := h
    exact ⟨PerpV2LeverageModuleV2.moduleHook_tracked_iff hcall hs,
      PerpV2LeverageModuleV2.moduleHook_positionInvariant hcall hs⟩
  | elsewhere chain erc20 =>
    obtain rfl := Outcome.pure_eq_ok.mp h
    exact hkept (hs.of_same_positions rfl rfl rfl)

/-- From a consistent state, the lists agree with the units in every state of a run exactly when every
hook of the run finds the module listed with an account that is worth a unit, or neither. -/
theorem run_tracked_iff {trace : List (PerpState × PerpAction)} (h : Trace perform s trace s')
    (hs : s.world.setToken.PositionInvariant) :
    ((∀ entry ∈ trace, entry.1.Tracked) ∧ s'.Tracked) ↔
      ∀ entry ∈ trace, entry.1.Keeps entry.2 :=
  h.forall_iff (I := fun s ↦ s.world.setToken.PositionInvariant)
    (fun _ hs ↦ PerpV2LeverageModuleV2.tracked_of_positionInvariant hs)
    (fun _ _ _ hstep hs ↦ (step_tracked_iff hstep hs).1)
    (fun _ _ _ hstep hs ↦ (step_tracked_iff hstep hs).2) hs

namespace Sample

/-- The manager 2 sends a transaction.  The vault 46 takes token 45 with the allowance of the Set 6 and
credits the account. -/
def vaultEnv : Env :=
  { Env.plain 2 0 with
    call := fun invocation chain ↦
      match invocation.callData with
      | .vaultDeposit asset amount => do
        let token ← (chain.tokens asset).transferFrom 46 6 46 amount
        let account := { chain.perp with vaultBalance := chain.perp.vaultBalance + amount }
        pure { chain with tokens := Function.update chain.tokens asset token, perp := account }
      | _ => .error "no contract" }

/-- A Set with ten units of token 45, the Perp module 33 and the issuance module 20. -/
def start : PerpState where
  module := {
    address := 33
    owner := 1
    collateralToken := 45
    collateralDecimals := 18
    perpVault := 46
    perpClearingHouse := 47
    perpQuoter := 48
    maxPerpPositionsPerSet := 2
    positions := []
    allowedSetToken := false
    anySetAllowed := true }
  world := {
    controller := { Controller.enabling 4 [20, 33] with isSet := fun a ↦ a == 6 }
    setToken := SetToken.launched 6 [45] [10] [20, 33] 2 9 (10 ^ 18)
    chain := { tokens := fun _ ↦ ERC20.holding 18 [(6, 10)] 10 }
    log := [] }

theorem start_positionInvariant : start.world.setToken.PositionInvariant := by
  have hnew : (SetToken.new 6 [45] [10] [20, 33] 2).PositionInvariant :=
    SetToken.new_positionInvariant (by decide) rfl (by decide)
  exact hnew.of_same_positions rfl rfl rfl

/-- Half of the collateral goes to the vault. -/
def depositHalf : PerpAction := .deposit vaultEnv 5

def deposited : PerpState := (start.perform depositHalf).getD start

/-- A Set is issued. -/
def issueOne : PerpAction := .moduleIssueHook vaultEnv 20 (10 ^ 18)

def issued : PerpState := (deposited.perform issueOne).getD start

/-- The balance of the vault is used up. -/
def bankruptcy : PerpAction :=
  .elsewhere { deposited.world.chain with perp := .empty } deposited.world.setToken.erc20

def bankrupt : PerpState := (deposited.perform bankruptcy).getD start

def issuedBankrupt : PerpState := (bankrupt.perform issueOne).getD start

theorem depositHalf_ok : start.perform depositHalf = .ok deposited :=
  Outcome.eq_ok_getD start (by decide +kernel)

theorem issueOne_ok : deposited.perform issueOne = .ok issued :=
  Outcome.eq_ok_getD start (by decide +kernel)

theorem bankruptcy_ok : deposited.perform bankruptcy = .ok bankrupt := rfl

theorem issueOne_bankrupt_ok : bankrupt.perform issueOne = .ok issuedBankrupt :=
  Outcome.eq_ok_getD start (by decide +kernel)

/-- The hook writes the unit zero for the bankrupt account and the module stays listed. -/
theorem issuedBankrupt_not_tracked :
    start.world.setToken.PositionInvariant ∧
      Trace perform start
        [(start, depositHalf), (deposited, bankruptcy), (bankrupt, issueOne)] issuedBankrupt ∧
      33 ∈ issuedBankrupt.world.setToken.externalPositionModules 45 ∧
      issuedBankrupt.world.setToken.externalPositionVirtualUnit 45 33 = 0 ∧
      ¬ issuedBankrupt.Tracked := by
  have hlisted : 33 ∈ issuedBankrupt.world.setToken.externalPositionModules 45 := by
    decide +kernel
  have hzero : issuedBankrupt.world.setToken.externalPositionVirtualUnit 45 33 = 0 := by
    decide +kernel
  have haddress : issuedBankrupt.module.address = 33 := by decide +kernel
  have htoken : issuedBankrupt.module.collateralToken = 45 := by decide +kernel
  refine ⟨start_positionInvariant, ?_, hlisted, hzero, ?_⟩
  · exact .cons depositHalf_ok (.cons bankruptcy_ok (.cons issueOne_bankrupt_ok (.nil _)))
  · intro h
    have hexternal := h.external
    rw [haddress, htoken] at hexternal
    exact hexternal.mp hlisted hzero

/-- With the collateral in the vault the hook finds what the account is worth. -/
theorem issued_tracked :
    33 ∈ issued.world.setToken.externalPositionModules 45 ∧ issued.Tracked := by
  have hrun : Trace perform start [(start, depositHalf), (deposited, issueOne)] issued :=
    .cons depositHalf_ok (.cons issueOne_ok (.nil _))
  have hworth : deposited.module.WorthUnit deposited.world vaultEnv (10 ^ 18) true := by
    refine ⟨deposited.module, rfl, ?_, ?_⟩
    · decide +kernel
    · rw [if_pos rfl]
      decide +kernel
  have hlisted : deposited.module.address ∈ deposited.world.setToken.externalPositionModules
      deposited.module.collateralToken := by
    decide +kernel
  refine ⟨by decide +kernel, ((run_tracked_iff hrun start_positionInvariant).mpr ?_).2⟩
  simp only [List.forall_mem_cons]
  refine ⟨trivial, ?_, by simp⟩
  exact Or.inr (Or.inr (iff_of_true hlisted hworth))

end Sample

end PerpState

end SetProtocol
