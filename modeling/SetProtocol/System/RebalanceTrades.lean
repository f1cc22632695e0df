import SetProtocol.Foundation.Rounding
import SetProtocol.Core.UnitRoundTrip
import SetProtocol.System.RebalanceTargets

/-!
# Trades that reach their targets

The size of a trade of `GeneralIndexModule` follows from a notional that is rounded down, one that is
rounded up and, for purchases, a quotient that makes up for the fee.  When the exchange fills exactly
the fixed side, all of this rounding cancels: a trade that the maximum size does not cut short ends at
the target unit.
-/

namespace SetProtocol.GeneralIndexModule

open PreciseUnitMath ModuleBase

/-! ## The size of a trade -/

/-- What the current unit amounts to for all Sets. -/
def currentNotional (w : World) (component : Address) : ℕ :=
  w.setToken.totalSupply * currentUnit w component / preciseUnit

/-- What the target unit amounts to for all Sets, rounded up. -/
def targetNotional (m : GeneralIndexModule) (w : World) (component : Address) : ℕ :=
  (w.setToken.totalSupply * m.normalizedTarget w component + preciseUnit - 1) / preciseUnit

/-- The protocol fee on trades. -/
def tradeFee (m : GeneralIndexModule) (w : World) : ℕ :=
  w.controller.getModuleFee m.address protocolFeeIndex

/-- The component is sold, and not bought. -/
def Sells (m : GeneralIndexModule) (w : World) (component : Address) : Prop :=
  m.targetNotional w component < currentNotional w component

instance (m : GeneralIndexModule) (w : World) (component : Address) :
    Decidable (m.Sells w component) :=
  inferInstanceAs (Decidable (_ < _))

/-- The quantity that a trade moves unless it exceeds the maximum size. -/
def fullSize (m : GeneralIndexModule) (w : World) (component : Address) : ℕ :=
  if m.Sells w component then
    currentNotional w component - m.targetNotional w component
  else
    Rounding.gross preciseUnit (m.tradeFee w)
      (m.targetNotional w component - currentNotional w component)

variable {m m' : GeneralIndexModule} {w w' u v : World} {env : Env} {component : Address}
  {limit : ℕ} {info : TradeInfo}

theorem currentUnit_of_ok {unit : ℕ} (h : getDefaultPositionRealUnit w component = .ok unit) :
    w.setToken.defaultRealUnit component = currentUnit w component ∧
      unit = currentUnit w component := by
  obtain ⟨-, hunit⟩ := getDefaultPositionRealUnit_eq_ok.mp h
  unfold currentUnit
  rw [hunit, Int.toNat_natCast]
  exact ⟨rfl, rfl⟩

theorem getUnitsAndNotionalAmounts_ok {amounts : ℕ × ℕ × ℕ × ℕ}
    (h : m.getUnitsAndNotionalAmounts w component w.setToken.totalSupply = .ok amounts) :
    w.setToken.defaultRealUnit component = currentUnit w component ∧
      amounts = (currentUnit w component, m.normalizedTarget w component,
        currentNotional w component, m.targetNotional w component) := by
  simp only [getUnitsAndNotionalAmounts, Position.getDefaultTotalNotional, Outcome.bind_eq_ok,
    preciseMul_eq_ok, Outcome.pure_eq_ok] at h
  obtain ⟨current, hcurrent, target, htarget, _, ⟨-, rfl⟩, total, hceil, rfl⟩ := h
  obtain ⟨hunit, rfl⟩ := currentUnit_of_ok hcurrent
  obtain ⟨-, -, -, rfl⟩ := getNormalizedTargetUnit_eq_ok.mp htarget
  rw [preciseMulCeil_eq_of_ok hceil]
  exact ⟨hunit, rfl⟩

theorem calculateTradeSizeAndDirection_ok {fixed : Bool} {quantity : ℕ}
    (h : m.calculateTradeSizeAndDirection w component w.setToken.totalSupply =
      .ok (fixed, quantity)) :
    w.setToken.defaultRealUnit component = currentUnit w component ∧
      (fixed = true ↔ m.Sells w component) ∧
      quantity = min (m.executionInfo component).maxSize (m.fullSize w component) := by
  simp only [calculateTradeSizeAndDirection, Outcome.bind_eq_ok, Prod.exists, Outcome.pure_eq_ok,
    Prod.mk.injEq] at h
  obtain ⟨_, _, _, _, hunits, _, -, size, hsize, rfl, rfl⟩ := h
  obtain ⟨hunit, hamounts⟩ := getUnitsAndNotionalAmounts_ok hunits
  simp only [Prod.mk.injEq] at hamounts
  obtain ⟨rfl, rfl, rfl, rfl⟩ := hamounts
  refine ⟨hunit, decide_eq_true_iff, ?_⟩
  unfold totalFixedQuantity at hsize
  unfold fullSize Sells
  by_cases hsells : m.targetNotional w component < currentNotional w component
  · simp only [hsells, decide_true, if_true, Outcome.bind_eq_ok, SafeMath.sub_eq_ok,
      Outcome.pure_eq_ok] at hsize ⊢
    obtain ⟨_, ⟨-, rfl⟩, rfl⟩ := hsize
    rfl
  · simp only [hsells, decide_false, if_false, Bool.false_eq_true, Outcome.bind_eq_ok,
      SafeMath.sub_eq_ok, preciseDiv_eq_ok, Outcome.pure_eq_ok] at hsize ⊢
    obtain ⟨_, ⟨-, rfl⟩, _, ⟨-, rfl⟩, _, ⟨-, -, rfl⟩, rfl⟩ := hsize
    rfl

/-- What a trade is set up with. -/
theorem createTradeInfo_ok (h : m.createTradeInfo w env component limit = .ok info) :
    w.setToken.defaultRealUnit component = currentUnit w component ∧
      info.setTotalSupply = w.setToken.totalSupply ∧
      (info.isSendTokenFixed = true ↔ m.Sells w component) ∧
      info.totalFixedQuantity =
        min (m.executionInfo component).maxSize (m.fullSize w component) ∧
      info.sendToken = (if m.Sells w component then component else m.weth) ∧
      info.receiveToken = (if m.Sells w component then m.weth else component) ∧
      info.preTradeSendTokenBalance = w.balance info.sendToken ∧
      info.preTradeReceiveTokenBalance = w.balance info.receiveToken := by
  simp only [createTradeInfo, getDefaultTradeInfo, tradeDirection, if_true, Outcome.bind_eq_ok,
    Outcome.pure_eq_ok] at h
  obtain ⟨_, ⟨_, -, ⟨fixed, quantity⟩, hdirection, rfl⟩, h⟩ := h
  obtain ⟨hunit, hfixed, hquantity⟩ := calculateTradeSizeAndDirection_ok hdirection
  simp only [← hfixed]
  cases fixed with
  | true =>
    obtain rfl := Outcome.pure_eq_ok.mp h
    exact ⟨hunit, rfl, Iff.rfl, hquantity, rfl, rfl, rfl, rfl⟩
  | false =>
    obtain rfl := Outcome.pure_eq_ok.mp h
    exact ⟨hunit, rfl, Iff.rfl, hquantity, rfl, rfl, rfl, rfl⟩

/-! ## The unit that a trade computes -/

/-- The library takes the untracked part of the balance before the trade off the balance after it. -/
theorem newTokenUnit_eq_of_ok {supply previous balance current unit : ℕ}
    (h : Position.newTokenUnit supply previous balance current = .ok unit) :
    unit = (balance - (previous - current * supply / preciseUnit)) * preciseUnit / supply := by
  unfold Position.newTokenUnit at h
  split_ifs at h with hpos
  · simp only [Position.calculateDefaultEditPositionUnit, Outcome.bind_eq_ok, preciseMul_eq_ok,
      SafeMath.sub_eq_ok, preciseDiv_eq_ok] at h
    obtain ⟨_, ⟨-, rfl⟩, _, ⟨-, rfl⟩, _, ⟨-, rfl⟩, -, -, rfl⟩ := h
    rfl
  · have hzero : balance = 0 := by omega
    rw [← Outcome.pure_eq_ok.mp h, hzero, Nat.zero_sub, Nat.zero_mul, Nat.zero_div]

/-- Recomputing the unit of a token writes what the library computes. -/
theorem calculateAndEditDefaultPosition_writes {module token : Address} {supply previous : ℕ}
    {result : World × ℕ × ℕ × ℕ} (hm : 0 < v.setToken.positionMultiplier)
    (h : calculateAndEditDefaultPosition v module token supply previous = .ok result) :
    DefaultEdit v result.1 token ∧ ∃ current unit : ℕ,
      v.setToken.defaultRealUnit token = current ∧
        Position.newTokenUnit supply previous (v.balance token) current = .ok unit ∧
        result.1.setToken.defaultRealUnit token = v.setToken.readBack unit := by
  simp only [calculateAndEditDefaultPosition, Position.calculateAndEditDefaultPosition,
    Outcome.bind_eq_ok, Outcome.pure_eq_ok, SetToken.getDefaultPositionRealUnit_eq_ok,
    SafeCast.toUint256_eq_ok, Prod.exists, Prod.mk.injEq] at h
  obtain ⟨s, _, _, _, ⟨_, ⟨-, rfl⟩, current, hcurrent, unit, hunit, _, hedit, rfl, rfl, rfl, rfl⟩,
    rfl⟩ := h
  exact ⟨(editDefaultPosition_defaultEdit hedit hm).1, current, unit, hcurrent, hunit,
    (Position.editDefaultPosition_readBack hm hedit).1⟩

theorem executeTrade_callStep (h : m.executeTrade w env info = .ok u) : w.CallStep u := by
  simp only [executeTrade, Outcome.bind_eq_ok, Prod.exists] at h
  obtain ⟨approved, happrove, target, value, data, -, hinvoke⟩ := h
  exact (World.invoke_ok happrove).1.trans (World.invoke_ok hinvoke).1

/-- The fee is a share of what was received, and is taken from it. -/
theorem accrueProtocolFee_ok {fee : ℕ} (h : m.accrueProtocolFee u env info = .ok (v, fee)) :
    u.MoveStep v info.receiveToken ∧ v.balance info.receiveToken =
      u.balance info.receiveToken - (u.balance info.receiveToken -
        info.preTradeReceiveTokenBalance) * m.tradeFee u / preciseUnit := by
  simp only [accrueProtocolFee, getModuleFee, Outcome.bind_eq_ok, SafeMath.sub_eq_ok,
    preciseMul_eq_ok, Outcome.pure_eq_ok, Prod.mk.injEq] at h
  obtain ⟨_, ⟨-, rfl⟩, _, ⟨-, rfl⟩, _, hpay, rfl, rfl⟩ := h
  obtain ⟨hmove, -, hbalance⟩ := payProtocolFeeFromSetToken_moveStep hpay
  exact ⟨hmove, hbalance⟩

/-- After a trade of two different tokens, each of them has the unit that follows from its balances. -/
theorem updatePositionStateAndTimestamp_ok {result : GeneralIndexModule × World × ℕ × ℕ}
    (hm : 0 < v.setToken.positionMultiplier) (hne : info.sendToken ≠ info.receiveToken)
    (h : m.updatePositionStateAndTimestamp v env info component = .ok result) :
    ∀ token previous, (token = info.sendToken ∧ previous = info.preTradeSendTokenBalance ∨
        token = info.receiveToken ∧ previous = info.preTradeReceiveTokenBalance) →
      result.2.1.balance token = v.balance token ∧ ∃ current unit : ℕ,
        v.setToken.defaultRealUnit token = current ∧
          Position.newTokenUnit info.setTotalSupply previous (v.balance token) current = .ok unit ∧
          result.2.1.setToken.defaultRealUnit token = v.setToken.readBack unit := by
  simp only [updatePositionStateAndTimestamp, Outcome.bind_eq_ok, Prod.exists,
    Outcome.pure_eq_ok] at h
  obtain ⟨edited, _, _, _, hsend, edited', _, _, _, hreceive, _, -, _, -, rfl⟩ := h
  obtain ⟨hedit, current, unit, hcurrent, hunit, hwritten⟩ :=
    calculateAndEditDefaultPosition_writes hm hsend
  have hm' : 0 < edited.setToken.positionMultiplier := by
    rw [hedit.frame.positionMultiplier]
    exact hm
  obtain ⟨hedit', current', unit', hcurrent', hunit', hwritten'⟩ :=
    calculateAndEditDefaultPosition_writes hm' hreceive
  rintro token previous (⟨rfl, rfl⟩ | ⟨rfl, rfl⟩)
  · refine ⟨(hedit'.balance _).trans (hedit.balance _), current, unit, hcurrent, hunit, ?_⟩
    exact (hedit'.defaultRealUnit hne).trans hwritten
  · refine ⟨(hedit'.balance _).trans (hedit.balance _), current', unit', ?_, ?_, ?_⟩
    · rw [← hedit.defaultRealUnit hne.symm]
      exact hcurrent'
    · rw [← hedit.balance]
      exact hunit'
    · rw [hwritten', hedit.frame.readBack]

/-! ## Trades with an exact fill -/

/-- The exchange moved exactly the fixed quantity of the component. -/
def FillsExactly (w u : World) (info : TradeInfo) (component : Address) : Prop :=
  if info.isSendTokenFixed then
    u.balance component + info.totalFixedQuantity = w.balance component
  else
    u.balance component = w.balance component + info.totalFixedQuantity

instance (w u : World) (info : TradeInfo) (component : Address) :
    Decidable (FillsExactly w u info component) := by
  unfold FillsExactly
  infer_instance

/-- What a sale leaves of the component, or what a purchase brings it to after the fee. -/
def filledBalance (m : GeneralIndexModule) (w : World) (component : Address) : ℕ :=
  let size := min (m.executionInfo component).maxSize (m.fullSize w component)
  if m.Sells w component then
    w.balance component - size
  else
    w.balance component + Rounding.net preciseUnit (m.tradeFee w) size

/-- The tracked part of the filled balance. -/
theorem filledBalance_sub_of_full (hfee : m.tradeFee w < preciseUnit)
    (hbacked : currentNotional w component ≤ w.balance component)
    (hmax : m.fullSize w component ≤ (m.executionInfo component).maxSize) :
    m.filledBalance w component - (w.balance component - currentNotional w component) =
      m.targetNotional w component := by
  unfold filledBalance
  rw [min_eq_right hmax]
  by_cases hsells : m.Sells w component
  · have hfull : m.fullSize w component =
        currentNotional w component - m.targetNotional w component := if_pos hsells
    have hlt : m.targetNotional w component < currentNotional w component := hsells
    simp only [if_pos hsells]
    omega
  · have hfull : m.fullSize w component = Rounding.gross preciseUnit (m.tradeFee w)
        (m.targetNotional w component - currentNotional w component) := if_neg hsells
    have hle : currentNotional w component ≤ m.targetNotional w component := not_lt.mp hsells
    simp only [if_neg hsells]
    rw [hfull, Rounding.net_gross hfee]
    omega

/-- A trade that is cut short stops on its side of the target. -/
theorem filledBalance_sub_of_cut (hfee : m.tradeFee w < preciseUnit)
    (hbacked : currentNotional w component ≤ w.balance component)
    (hmax : (m.executionInfo component).maxSize < m.fullSize w component) :
    (m.Sells w component → m.targetNotional w component ≤
        m.filledBalance w component - (w.balance component - currentNotional w component)) ∧
      (¬ m.Sells w component →
        m.filledBalance w component - (w.balance component - currentNotional w component) ≤
          m.targetNotional w component) := by
  unfold filledBalance
  rw [min_eq_left hmax.le]
  constructor
  · intro hsells
    have hfull : m.fullSize w component =
        currentNotional w component - m.targetNotional w component := if_pos hsells
    simp only [if_pos hsells]
    omega
  · intro hbuys
    have hfull : m.fullSize w component = Rounding.gross preciseUnit (m.tradeFee w)
        (m.targetNotional w component - currentNotional w component) := if_neg hbuys
    have hle : currentNotional w component ≤ m.targetNotional w component := not_lt.mp hbuys
    have hless := Rounding.net_mono hfee.le hmax.le
    rw [hfull, Rounding.net_gross hfee] at hless
    simp only [if_neg hbuys]
    omega

theorem unit_of_filledBalance (hsupply : preciseUnit ≤ w.setToken.totalSupply)
    (hfee : m.tradeFee w < preciseUnit)
    (hbacked : currentNotional w component ≤ w.balance component) {unit : ℕ}
    (hunit : unit = (m.filledBalance w component -
      (w.balance component - currentNotional w component)) * preciseUnit / w.setToken.totalSupply) :
    (m.fullSize w component ≤ (m.executionInfo component).maxSize →
        unit = m.normalizedTarget w component) ∧
      ((m.executionInfo component).maxSize < m.fullSize w component →
        (m.Sells w component → m.normalizedTarget w component ≤ unit) ∧
          (¬ m.Sells w component → unit ≤ m.normalizedTarget w component)) := by
  have htarget : m.targetNotional w component * preciseUnit / w.setToken.totalSupply =
      m.normalizedTarget w component :=
    Rounding.unit_of_ceil preciseUnit_pos hsupply _
  have hmono {a b : ℕ} (h : a ≤ b) : a * preciseUnit / w.setToken.totalSupply ≤
      b * preciseUnit / w.setToken.totalSupply :=
    Nat.div_le_div_right (Nat.mul_le_mul_right _ h)
  rw [← htarget, hunit]
  constructor
  · intro hmax
    rw [filledBalance_sub_of_full hfee hbacked hmax]
  · intro hmax
    obtain ⟨hsale, hpurchase⟩ := filledBalance_sub_of_cut hfee hbacked hmax
    exact ⟨fun hsells ↦ hmono (hsale hsells), fun hbuys ↦ hmono (hpurchase hbuys)⟩

/-- Up to the edit of the positions, a trade that is filled exactly changes the balance of the component
as it should. -/
theorem filledBalance_of_ok {fee : ℕ} (hfee : m.tradeFee w ≤ preciseUnit)
    (hne : component ≠ m.weth)
    (hinfo : m.createTradeInfo w env component limit = .ok info)
    (hexecute : m.executeTrade w env info = .ok u)
    (hpay : m.accrueProtocolFee u env info = .ok (v, fee))
    (hfill : FillsExactly w u info component) :
    v.balance component = m.filledBalance w component := by
  obtain ⟨-, -, hfixed, hquantity, -, hreceive, -, hprevious⟩ := createTradeInfo_ok hinfo
  obtain ⟨hmove, hpaid⟩ := accrueProtocolFee_ok hpay
  unfold FillsExactly at hfill
  unfold filledBalance
  rw [hquantity] at hfill
  by_cases hsells : m.Sells w component
  · rw [if_pos hsells] at hreceive ⊢
    rw [if_pos (hfixed.mpr hsells)] at hfill
    rw [hmove.balance_of_ne (hreceive ▸ hne)]
    omega
  · have hsame : m.tradeFee u = m.tradeFee w := by
      unfold tradeFee
      rw [(executeTrade_callStep hexecute).controller]
    rw [if_neg hsells] at hreceive ⊢
    rw [if_neg fun h ↦ hsells (hfixed.mp h)] at hfill
    rw [hprevious, hreceive, hfill, hsame, Nat.add_sub_cancel_left] at hpaid
    rw [hpaid, Rounding.net]
    exact Nat.add_sub_assoc (Rounding.fee_le hfee _) _

/-- A trade that is filled exactly brings the component to its target, or as far toward it as the
maximum size allows. -/
theorem trade_reachesTarget (hsupply : preciseUnit ≤ w.setToken.totalSupply)
    (hfee : m.tradeFee w < preciseUnit) (hm : 0 < w.setToken.positionMultiplier)
    (hbacked : currentNotional w component ≤ w.balance component)
    (hfill : ∀ info u, m.createTradeInfo w env component limit = .ok info →
      m.executeTrade w env info = .ok u → FillsExactly w u info component)
    (h : m.trade w env component limit = .ok (m', w')) :
    ∃ unit : ℕ, Position.newTokenUnit w.setToken.totalSupply (w.balance component)
        (w'.balance component) (currentUnit w component) = .ok unit ∧
      w'.setToken.defaultRealUnit component = w.setToken.readBack unit ∧
      (m.fullSize w component ≤ (m.executionInfo component).maxSize →
        unit = m.normalizedTarget w component ∧
          (w.setToken.positionMultiplier ≤ preciseUnitInt →
            w'.setToken.defaultRealUnit component = m.normalizedTarget w component ∨
              w'.setToken.defaultRealUnit component = m.normalizedTarget w component - 1)) ∧
      ((m.executionInfo component).maxSize < m.fullSize w component →
        (m.Sells w component → m.normalizedTarget w component ≤ unit) ∧
          (¬ m.Sells w component → unit ≤ m.normalizedTarget w component)) := by
  simp only [trade, Outcome.bind_eq_ok, Prod.exists, Outcome.pure_eq_ok, Prod.mk.injEq] at h
  obtain ⟨_, -, _, -, _, hvalid, info, hinfo, u, hexecute, v, fee, hpay, _, _, _, _, hupdate, rfl,
    rfl⟩ := h
  have hne : component ≠ m.weth := by
    simp only [validateTradeParameters, Outcome.bind_eq_ok, Outcome.require_eq_ok] at hvalid
    exact hvalid.choose_spec.1
  have hbalance := filledBalance_of_ok hfee.le hne hinfo hexecute hpay (hfill info u hinfo hexecute)
  obtain ⟨hcurrent, hsupply', -, -, hsend, hreceive, hprevious, hprevious'⟩ :=
    createTradeInfo_ok hinfo
  obtain ⟨t, ht⟩ :=
    ((executeTrade_callStep hexecute).trans (accrueProtocolFee_ok hpay).1.callStep).setToken
  have htokens : info.sendToken ≠ info.receiveToken := by
    rw [hsend, hreceive]
    split_ifs
    · exact hne
    · exact hne.symm
  have hpair : component = info.sendToken ∧ w.balance component = info.preTradeSendTokenBalance ∨
      component = info.receiveToken ∧ w.balance component = info.preTradeReceiveTokenBalance := by
    rw [hprevious, hprevious', hsend, hreceive]
    by_cases hsells : m.Sells w component
    · simp [hsells]
    · simp [hsells]
  have hmv : 0 < v.setToken.positionMultiplier := by
    rw [ht]
    exact hm
  obtain ⟨hkept, current, unit, hread, hunit, hwritten⟩ :=
    updatePositionStateAndTimestamp_ok hmv htokens hupdate component _ hpair
  rw [ht] at hread hwritten
  have hcurrent' : current = currentUnit w component := by
    exact_mod_cast hread.symm.trans hcurrent
  rw [hcurrent', hsupply', ← hkept] at hunit
  have hvalue : unit = (m.filledBalance w component -
      (w.balance component - currentNotional w component)) * preciseUnit /
        w.setToken.totalSupply := by
    rw [newTokenUnit_eq_of_ok hunit, hkept, hbalance, currentNotional, Nat.mul_comm (currentUnit _ _)]
  have hreached := unit_of_filledBalance hsupply hfee hbacked hvalue
  refine ⟨unit, hunit, hwritten, fun hmax ↦ ⟨hreached.1 hmax, fun hone ↦ ?_⟩, hreached.2⟩
  rw [hwritten, ← hreached.1 hmax]
  exact SetToken.readBack_eq_or_eq_sub_one hm hone _

namespace TradeSample

/-- One and a half Sets with 100 units of component 8, of which the SetToken holds 5 more than it needs,
and 50 of WETH.  Trades are charged 10%. -/
def world : World where
  controller := ({ Controller.enabling 4 [20] with isSet := fun a ↦ a == 6 }).setFee 20 0 (10 ^ 17)
  setToken := SetToken.launched 6 [8, 9] [100, 50] [20] 2 2 (15 * 10 ^ 17)
  chain := { tokens := fun a ↦ ERC20.holding 18 [(6, if a = 8 then 155 else 75)] 0 }
  log := []

/-- The exchange gives the Set 50 of component 8 for 20 of WETH. -/
def exchangeEnv : Env :=
  { Env.plain 11 100 with
    integrationAdapter := fun _ _ ↦ 40
    indexExchangeAdapter := fun _ ↦ ⟨41, fun _ _ _ _ _ _ data ↦ .ok (42, 0, data)⟩
    call := fun _ chain ↦ .ok { chain with
      tokens := fun a ↦ ERC20.holding 18 [(6, if a = 8 then 205 else 55)] 0 } }

/-- A rebalance that raises component 8 to 130 units. -/
def module : GeneralIndexModule :=
  (TargetSample.module.startRebalance world (Env.plain 2 0) [] [] [130, 20] (10 ^ 18)).getD
    TargetSample.module

def noInfo : TradeInfo := ⟨0, 0, 0, false, 0, 0, 0, 0, 0, 0, []⟩

def tradeInfo : TradeInfo := (module.createTradeInfo world exchangeEnv 8 30).getD noInfo

def executed : World := (module.executeTrade world exchangeEnv tradeInfo).getD world

def traded : GeneralIndexModule × World := (module.trade world exchangeEnv 8 30).getD (module, world)

/-- Of the 50 that arrive, 5 go to the fee recipient, and the unit is 130. -/
theorem traded_reachesTarget :
    module.fullSize world 8 = 50 ∧ traded.2.balance 8 = 200 ∧
      ∃ unit : ℕ, Position.newTokenUnit world.setToken.totalSupply (world.balance 8)
          (traded.2.balance 8) (currentUnit world 8) = .ok unit ∧ unit = 130 ∧
        (traded.2.setToken.defaultRealUnit 8 = 130 ∨ traded.2.setToken.defaultRealUnit 8 = 130 - 1) := by
  have hinfo : module.createTradeInfo world exchangeEnv 8 30 = .ok tradeInfo :=
    Outcome.eq_ok_getD noInfo (by decide +kernel)
  have hexecuted : module.executeTrade world exchangeEnv tradeInfo = .ok executed :=
    Outcome.eq_ok_getD world (by decide +kernel)
  have hfill : ∀ info' u, module.createTradeInfo world exchangeEnv 8 30 = .ok info' →
      module.executeTrade world exchangeEnv info' = .ok u → FillsExactly world u info' 8 := by
    intro info' u hinfo' hu
    obtain rfl := Except.ok.inj (hinfo.symm.trans hinfo')
    obtain rfl := Except.ok.inj (hexecuted.symm.trans hu)
    decide +kernel
  have htraded : module.trade world exchangeEnv 8 30 = .ok (traded.1, traded.2) :=
    Outcome.eq_ok_getD (module, world) (by decide +kernel)
  have htarget : module.normalizedTarget world 8 = 130 := by decide +kernel
  have hfull : module.fullSize world 8 ≤ (module.executionInfo 8).maxSize := by decide +kernel
  obtain ⟨unit, hunit, -, hreached, -⟩ := trade_reachesTarget (by decide +kernel) (by decide +kernel)
    (by decide +kernel) (by decide +kernel) hfill htraded
  obtain ⟨hexact, hstored⟩ := hreached hfull
  rw [htarget] at hexact hstored
  exact ⟨by decide +kernel, by decide +kernel, unit, hunit, hexact, hstored (by decide +kernel)⟩

end TradeSample

end SetProtocol.GeneralIndexModule
