import SetProtocol.Foundation.Cooldown
import SetProtocol.System.RebalanceTrades
import SetProtocol.System.SingleIndexHistory

/-!
# Trades cool off

Two trades of one component are apart by the cool-off period that is set at the time of the second one, in
whatever order trades, rebalances and new settings follow each other.  `SingleIndexModule` is initialized
before it can trade, and never again.  `GeneralIndexModule` forgets the last trades when it is initialized,
so for it the statement is about the time between two initializations.
-/

namespace SetProtocol

open PreciseUnitMath ModuleBase Cooldown

/-! ## The single index -/

namespace IndexState

open SingleIndexModule

variable {s s' : IndexState} {m m' : SingleIndexModule} {w w' : World} {env : Env}
  {action : Action} {component : Address}

/-- The trades are the events. -/
def tradeEvent (s : IndexState) : Action → Option (TimedEvent Address)
  | .trade _ env component => some ⟨component, env.timestamp, (s.module.assetInfo component).coolOffPeriod⟩
  | .tradeRemainingWETH _ env component =>
    some ⟨component, env.timestamp, (s.module.assetInfo component).coolOffPeriod⟩
  | _ => none

/-- When each component was last traded. -/
def lastTrades (m : SingleIndexModule) : Address → ℕ :=
  AssetTradeInfo.lastTradeTimestamp ∘ m.assetInfo

def lastTrade (s : IndexState) : Address → ℕ :=
  lastTrades s.module

/-- Nothing has been traded before the first rebalance. -/
def Untraded (s : IndexState) : Prop :=
  s.Follows ∧ (s.call = none → ∀ c, s.lastTrade c = 0)

theorem cooledOff_of_validateTradeParameters (h : m.validateTradeParameters env component = .ok ()) :
    lastTrades m component + (m.assetInfo component).coolOffPeriod ≤ env.timestamp := by
  simp only [validateTradeParameters, Outcome.bind_eq_ok, Outcome.require_eq_ok,
    SafeMath.add_eq_ok] at h
  obtain ⟨_, -, _, -, _, ⟨-, rfl⟩, hready⟩ := h
  exact hready

theorem setLastTradeTimestamp_lastTrades {timestamp : ℕ} :
    lastTrades (m.setLastTradeTimestamp component timestamp) =
      Function.update (lastTrades m) component timestamp :=
  Function.comp_update _ _ _ _

theorem editAssetInfo_lastTrades {edit : AssetTradeInfo → AssetTradeInfo}
    (hedit : ∀ info, (edit info).lastTradeTimestamp = info.lastTradeTimestamp) :
    lastTrades (m.editAssetInfo component edit) = lastTrades m :=
  comp_update_same (hedit _)

theorem setParameters_lastTrades {edit : ℕ → AssetTradeInfo → AssetTradeInfo}
    {components : List Address} {values : List ℕ}
    (hedit : ∀ value info, (edit value info).lastTradeTimestamp = info.lastTradeTimestamp)
    (h : setParameters edit m w env components values = .ok m') : lastTrades m' = lastTrades m := by
  simp only [setParameters, Outcome.bind_eq_ok, Outcome.pure_eq_ok] at h
  obtain ⟨_, -, _, -, rfl⟩ := h
  apply foldl_same
  intro m entry
  exact editAssetInfo_lastTrades (hedit entry.2)

theorem settingCall_lastTrades (h : SettingCall m w env m') : lastTrades m' = lastTrades m := by
  cases h with
  | tradeMaximums components maximums h =>
    unfold setTradeMaximums at h
    refine setParameters_lastTrades ?_ h
    exact fun _ _ ↦ rfl
  | coolOffPeriods components periods h =>
    unfold setCoolOffPeriods at h
    refine setParameters_lastTrades ?_ h
    exact fun _ _ ↦ rfl
  | exchanges components exchanges h =>
    simp only [setExchanges, Outcome.bind_eq_ok] at h
    obtain ⟨_, -, _, -, hloop⟩ := h
    refine foldlM_same (fun v entry v' hstep ↦ ?_) hloop
    simp only [setExchange, Outcome.bind_eq_ok, Outcome.pure_eq_ok] at hstep
    obtain ⟨_, -, rfl⟩ := hstep
    exact editAssetInfo_lastTrades fun _ ↦ rfl
  | traderStatus traders statuses h =>
    simp only [updateTraderStatus, Outcome.bind_eq_ok, Outcome.pure_eq_ok] at h
    obtain ⟨_, -, _, -, _, -, _, -, _, -, rfl⟩ := h
    rfl
  | anyoneTrade status h =>
    simp only [updateAnyoneTrade, Outcome.bind_eq_ok, Outcome.pure_eq_ok] at h
    obtain ⟨_, -, rfl⟩ := h
    rfl

theorem startRebalance_lastTrades {newComponents : List Address} {newUnits oldUnits : List ℕ}
    {multiplier : ℕ}
    (h : m.startRebalance w env newComponents newUnits oldUnits multiplier = .ok m') :
    lastTrades m' = lastTrades m := by
  simp only [startRebalance, Outcome.bind_eq_ok, Outcome.pure_eq_ok] at h
  obtain ⟨_, -, _, -, _, -, _, -, _, -, started, hloop, rfl⟩ := h
  change lastTrades started = lastTrades m
  refine foldlM_same (fun v entry v' hstep ↦ ?_) hloop
  simp only [startTarget, Outcome.bind_eq_ok, Outcome.pure_eq_ok] at hstep
  obtain ⟨_, -, rfl⟩ := hstep
  exact editAssetInfo_lastTrades fun _ ↦ rfl

theorem initializeSetToken_untraded (h : m.initializeSetToken w env = .ok (m', w'))
    (hm : ∀ c, lastTrades m c = 0) : ∀ c, lastTrades m' c = 0 := by
  simp only [initializeSetToken, Outcome.bind_eq_ok, Outcome.pure_eq_ok, Prod.mk.injEq] at h
  obtain ⟨_, -, _, -, _, -, positions, -, initialized, hloop, _, -, rfl, -⟩ := h
  change ∀ c, lastTrades initialized c = 0
  apply Outcome.foldlM_invariant (P := fun v ↦ ∀ c, lastTrades v c = 0) ?_ hloop hm
  intro v position v' hstep hv c
  simp only [initializePosition, Outcome.bind_eq_ok, Outcome.pure_eq_ok] at hstep
  obtain ⟨_, -, rfl⟩ := hstep
  by_cases hc : c = position.component
  · subst hc
    simp [lastTrades, editAssetInfo]
  · simpa [lastTrades, editAssetInfo, hc] using hv c

theorem trade_module (h : m.trade w env component = .ok (m', w')) :
    m.validateTradeParameters env component = .ok () ∧
      m' = m.setLastTradeTimestamp component env.timestamp := by
  simp only [trade, Outcome.bind_eq_ok, Prod.exists] at h
  obtain ⟨_, -, _, -, _, hvalid, isBuy, size, -, h⟩ := h
  refine ⟨hvalid, ?_⟩
  split_ifs at h
  all_goals
    simp only [Outcome.bind_eq_ok, Outcome.pure_eq_ok, Prod.exists, Prod.mk.injEq] at h
    obtain ⟨_, _, _, -, rfl, -⟩ := h
    rfl

theorem tradeRemainingWETH_module (h : m.tradeRemainingWETH w env component = .ok (m', w')) :
    m.validateTradeParameters env component = .ok () ∧
      m' = m.setLastTradeTimestamp component env.timestamp := by
  simp only [tradeRemainingWETH, Outcome.bind_eq_ok, Outcome.pure_eq_ok, Prod.exists,
    Prod.mk.injEq] at h
  obtain ⟨_, -, _, -, _, -, _, -, _, hvalid, _, _, -, _, _, _, -, _, -, rfl, -⟩ := h
  exact ⟨hvalid, rfl⟩

/-- Both kinds of trades. -/
theorem remembers_of_trade (hs : s.Untraded) (hfollows : (s.withModule m).Follows)
    (hvalid : s.module.validateTradeParameters env component = .ok ())
    (hm : m = s.module.setLastTradeTimestamp component env.timestamp)
    (hevent : tradeEvent s action =
      some ⟨component, env.timestamp, (s.module.assetInfo component).coolOffPeriod⟩) :
    (s.withModule m).Untraded ∧ Remembers tradeEvent lastTrade s action (s.withModule m) := by
  refine ⟨⟨hfollows, fun hnone ↦ ?_⟩, ?_⟩
  · -- there is nothing to trade before the first rebalance
    have hmem := mem_of_validateTradeParameters hvalid
    rw [hs.1.idle hnone] at hmem
    cases hmem
  · subst hm
    exact remembers_of_event hevent (cooledOff_of_validateTradeParameters hvalid)
      setLastTradeTimestamp_lastTrades

theorem perform_remembers (h : s.perform action = .ok s') (hs : s.Untraded) :
    s'.Untraded ∧ Remembers tradeEvent lastTrade s action s' := by
  have hfollows := perform_follows h hs.1
  have hquiet : s'.lastTrade = s.lastTrade → tradeEvent s action = none →
      (s'.call = none → s.call = none) →
        s'.Untraded ∧ Remembers tradeEvent lastTrade s action s' := by
    intro hsame hevent hcall
    refine ⟨⟨hfollows, fun hnone c ↦ ?_⟩, remembers_of_quiet hevent hsame⟩
    rw [hsame]
    exact hs.2 (hcall hnone) c
  have hsetting : ∀ {w : World} {env : Env} {x : Outcome SingleIndexModule},
      s.withModule <$> x = .ok s' → (∀ m, x = .ok m → SettingCall s.module w env m) →
        tradeEvent s action = none →
          s'.Untraded ∧ Remembers tradeEvent lastTrade s action s' := by
    intro w env x hx hcall hevent
    obtain ⟨m, hm, rfl⟩ := Outcome.map_eq_ok.mp hx
    exact hquiet (settingCall_lastTrades (hcall m hm)) hevent id
  cases action with
  | initializeSetToken w env haddress =>
    simp only [perform, Outcome.bind_eq_ok, Outcome.pure_eq_ok, Prod.exists] at h
    obtain ⟨m, _, hm, rfl⟩ := h
    obtain ⟨hindex, -⟩ := initializeSetToken_ok hm
    have hnone : s.call = none := by
      by_contra hcall
      exact hs.1.serves hcall hindex
    have hzero := initializeSetToken_untraded hm (hs.2 hnone)
    refine ⟨⟨hfollows, fun _ ↦ hzero⟩, fun c ↦ ?_, fun e he ↦ by cases he⟩
    rw [hs.2 hnone c]
    exact Nat.zero_le _
  | startRebalance w env newComponents newUnits oldUnits multiplier haddress =>
    simp only [perform, Outcome.bind_eq_ok, Outcome.pure_eq_ok] at h
    obtain ⟨m, hm, rfl⟩ := h
    exact hquiet (startRebalance_lastTrades hm) rfl fun hnone ↦ absurd hnone (Option.some_ne_none _)
  | trade w env component =>
    simp only [perform, Outcome.bind_eq_ok, Outcome.pure_eq_ok, Prod.exists] at h
    obtain ⟨m, _, hm, rfl⟩ := h
    obtain ⟨hvalid, hmodule⟩ := trade_module hm
    exact remembers_of_trade hs hfollows hvalid hmodule rfl
  | tradeRemainingWETH w env component =>
    simp only [perform, Outcome.bind_eq_ok, Outcome.pure_eq_ok, Prod.exists] at h
    obtain ⟨m, _, hm, rfl⟩ := h
    obtain ⟨hvalid, hmodule⟩ := tradeRemainingWETH_module hm
    exact remembers_of_trade hs hfollows hvalid hmodule rfl
  | raiseAssetTargets w env =>
    obtain ⟨m, hm, rfl⟩ := Outcome.map_eq_ok.mp h
    refine hquiet ?_ rfl id
    change lastTrades m = _
    rw [(raiseAssetTargets_ok hm).2]
    rfl
  | setTradeMaximums w env components maximums =>
    exact hsetting h (fun _ ↦ .tradeMaximums components maximums) rfl
  | setExchanges w env components exchanges =>
    exact hsetting h (fun _ ↦ .exchanges components exchanges) rfl
  | setCoolOffPeriods w env components periods =>
    exact hsetting h (fun _ ↦ .coolOffPeriods components periods) rfl
  | updateTraderStatus w env traders statuses =>
    exact hsetting h (fun _ ↦ .traderStatus traders statuses) rfl
  | updateAnyoneTrade w env status => exact hsetting h (fun _ ↦ .anyoneTrade status) rfl
  | removeModule =>
    obtain rfl := Outcome.pure_eq_ok.mp h
    exact hquiet rfl rfl id

/-- Over the whole life of a single index, trades of one component are apart by the cool-off period. -/
theorem indexTrades_apart_of_run {trace : List (IndexState × Action)}
    (h : Trace perform ⟨m, none⟩ trace s') (hidle : m.rebalanceComponents = [])
    (huntraded : ∀ c, (m.assetInfo c).lastTradeTimestamp = 0) :
    (events tradeEvent trace).Pairwise Apart :=
  (events_apart (A := fun _ ↦ True) h (fun _ _ _ hok _ ↦ perform_remembers hok) (fun _ _ ↦ trivial)
    ⟨follows_of_idle hidle, fun _ ↦ huntraded⟩).1

namespace CoolOffSample

/-- Components cool off for 50 seconds, and anybody may trade. -/
def module : SingleIndexModule :=
  { Sample.module with
    assetInfo := fun _ ↦ ⟨0, 400000, 50, 0, ExchangeId.uniswap⟩
    anyoneTrade := true }

def start : IndexState := ⟨module, none⟩

def joined : IndexState := (start.perform Sample.join).getD start

/-- Component 7 is to be raised to 1500001 units. -/
def rebalance : Action :=
  .startRebalance (Sample.world [7]) (Env.plain 2 0) [] [] [1500001] (10 ^ 18) (by decide +kernel)

def rebalanced : IndexState := (joined.perform rebalance).getD start

def buy (timestamp : ℕ) : Action :=
  .trade RebalanceSample.world { RebalanceSample.exchangeEnv 400000 with timestamp := timestamp } 7

def bought : IndexState := (rebalanced.perform (buy 100)).getD start

def boughtAgain : IndexState := (bought.perform (buy 150)).getD start

def trace : List (IndexState × Action) :=
  [(start, Sample.join), (joined, rebalance), (rebalanced, buy 100), (bought, buy 150)]

theorem indexTrace_apart :
    events tradeEvent trace = [⟨7, 100, 50⟩, ⟨7, 150, 50⟩] ∧
      (events tradeEvent trace).Pairwise Apart ∧ (bought.perform (buy 149)).isOk = false := by
  have hrun : Trace perform start trace boughtAgain :=
    .cons (Outcome.eq_ok_getD start (by decide +kernel))
      (.cons (Outcome.eq_ok_getD start (by decide +kernel))
        (.cons (Outcome.eq_ok_getD start (by decide +kernel))
          (.cons (Outcome.eq_ok_getD start (by decide +kernel)) (.nil _))))
  exact ⟨by decide +kernel, indexTrades_apart_of_run hrun rfl (fun _ ↦ rfl), by decide +kernel⟩

end CoolOffSample

end IndexState

/-! ## The general index -/

namespace RebalanceState

open GeneralIndexModule

variable {s s' : RebalanceState} {m m' : GeneralIndexModule} {w w' : World} {env : Env}
  {action : Action} {component : Address} {limit : ℕ}

/-- The trades are the events. -/
def tradeEvent (s : RebalanceState) : Action → Option (TimedEvent Address)
  | .trade env component _ =>
    some ⟨component, env.timestamp, (s.module.executionInfo component).coolOffPeriod⟩
  | .tradeRemainingWETH env component _ =>
    some ⟨component, env.timestamp, (s.module.executionInfo component).coolOffPeriod⟩
  | _ => none

/-- When each component was last traded. -/
def lastTrades (m : GeneralIndexModule) : Address → ℕ :=
  TradeExecutionParams.lastTradeTimestamp ∘ m.executionInfo

def lastTrade (s : RebalanceState) : Address → ℕ :=
  lastTrades s.module

/-- The module does not join a Set. -/
def Continues : Action → Prop
  | .initializeSetToken _ => False
  | _ => True

theorem cooledOff_of_validateTradeParameters (h : m.validateTradeParameters w env component = .ok ()) :
    lastTrades m component + (m.executionInfo component).coolOffPeriod ≤ env.timestamp := by
  simp only [validateTradeParameters, Outcome.bind_eq_ok, Outcome.require_eq_ok,
    SafeMath.add_eq_ok] at h
  obtain ⟨_, -, _, -, _, ⟨-, rfl⟩, _, hready, -⟩ := h
  exact hready

theorem setLastTradeTimestamp_lastTrades {timestamp : ℕ} :
    lastTrades (m.setLastTradeTimestamp component timestamp) =
      Function.update (lastTrades m) component timestamp :=
  Function.comp_update _ _ _ _

theorem editExecutionInfo_lastTrades {edit : TradeExecutionParams → TradeExecutionParams}
    (hedit : ∀ info, (edit info).lastTradeTimestamp = info.lastTradeTimestamp) :
    lastTrades (m.editExecutionInfo component edit) = lastTrades m :=
  comp_update_same (hedit _)

theorem setParameters_lastTrades {β : Type} {edit : β → TradeExecutionParams → TradeExecutionParams}
    {components : List Address} {values : List β}
    (hedit : ∀ value info, (edit value info).lastTradeTimestamp = info.lastTradeTimestamp)
    (h : setParameters edit m w env components values = .ok m') : lastTrades m' = lastTrades m := by
  simp only [setParameters, Outcome.bind_eq_ok, Outcome.pure_eq_ok] at h
  obtain ⟨_, -, _, -, rfl⟩ := h
  apply foldl_same
  intro m entry
  exact editExecutionInfo_lastTrades (hedit entry.2)

theorem setExchanges_lastTrades {components : List Address} {names : List String}
    (h : m.setExchanges w env components names = .ok m') : lastTrades m' = lastTrades m := by
  simp only [setExchanges, Outcome.bind_eq_ok] at h
  obtain ⟨_, -, _, -, hloop⟩ := h
  refine foldlM_same (fun v entry v' hstep ↦ ?_) hloop
  unfold setExchange at hstep
  split_ifs at hstep
  · exact Outcome.pure_eq_ok.mp hstep ▸ rfl
  · simp only [Outcome.bind_eq_ok, Outcome.pure_eq_ok] at hstep
    obtain ⟨_, -, rfl⟩ := hstep
    exact editExecutionInfo_lastTrades fun _ ↦ rfl

theorem setTraderStatus_lastTrades {traders : List Address} {statuses : List Bool}
    (h : m.setTraderStatus w env traders statuses = .ok m') : lastTrades m' = lastTrades m := by
  simp only [setTraderStatus, Outcome.bind_eq_ok] at h
  obtain ⟨_, -, _, -, hloop⟩ := h
  refine foldlM_same (fun v entry v' hstep ↦ ?_) hloop
  simp only [setTrader, Outcome.bind_eq_ok, Outcome.pure_eq_ok] at hstep
  obtain ⟨history, -, rfl⟩ := hstep
  rfl

theorem startRebalance_lastTrades {newComponents : List Address} {newUnits oldUnits : List ℕ}
    {multiplier : ℕ}
    (h : m.startRebalance w env newComponents newUnits oldUnits multiplier = .ok m') :
    lastTrades m' = lastTrades m := by
  simp only [startRebalance, Outcome.bind_eq_ok, Outcome.pure_eq_ok, Prod.exists] at h
  obtain ⟨_, -, _, _, -, started, hloop, rfl⟩ := h
  change lastTrades started = lastTrades m
  refine foldlM_same (fun v entry v' hstep ↦ ?_) hloop
  simp only [startTarget, Outcome.bind_eq_ok, Outcome.pure_eq_ok] at hstep
  obtain ⟨_, -, rfl⟩ := hstep
  exact editExecutionInfo_lastTrades fun _ ↦ rfl

theorem raiseAssetTargets_lastTrades (h : m.raiseAssetTargets w env = .ok m') :
    lastTrades m' = lastTrades m := by
  simp only [raiseAssetTargets, Outcome.bind_eq_ok, Outcome.pure_eq_ok] at h
  obtain ⟨_, -, _, -, _, -, _, -, _, -, _, -, _, -, _, -, rfl⟩ := h
  rfl

theorem trade_module (h : m.trade w env component limit = .ok (m', w')) :
    m.validateTradeParameters w env component = .ok () ∧
      m' = m.setLastTradeTimestamp component env.timestamp := by
  simp only [trade, Outcome.bind_eq_ok, Prod.exists, Outcome.pure_eq_ok, Prod.mk.injEq] at h
  obtain ⟨_, -, _, -, _, hvalid, _, -, _, -, _, _, -, _, _, _, _, hupdate, rfl, -⟩ := h
  exact ⟨hvalid, updatePositionStateAndTimestamp_module hupdate⟩

theorem tradeRemainingWETH_module (h : m.tradeRemainingWETH w env component limit = .ok (m', w')) :
    m.validateTradeParameters w env component = .ok () ∧
      m' = m.setLastTradeTimestamp component env.timestamp := by
  simp only [tradeRemainingWETH, Outcome.bind_eq_ok, Prod.exists, Outcome.pure_eq_ok,
    Prod.mk.injEq] at h
  obtain ⟨_, -, _, -, _, -, _, -, _, -, _, -, _, hvalid, _, -, _, -, _, _, -, _, _, _, _, hupdate, _, -,
    _, -, _, -, rfl, -⟩ := h
  exact ⟨hvalid, updatePositionStateAndTimestamp_module hupdate⟩

/-- Both kinds of trades. -/
theorem remembers_of_trade (hvalid : s.module.validateTradeParameters s.world env component = .ok ())
    (hmodule : m = s.module.setLastTradeTimestamp component env.timestamp) (hm : s'.module = m)
    (hevent : tradeEvent s action =
      some ⟨component, env.timestamp, (s.module.executionInfo component).coolOffPeriod⟩) :
    Remembers tradeEvent lastTrade s action s' := by
  refine remembers_of_event hevent (cooledOff_of_validateTradeParameters hvalid) ?_
  unfold lastTrade
  rw [hm, hmodule]
  exact setLastTradeTimestamp_lastTrades

theorem perform_remembers (h : s.perform action = .ok s') (hcontinues : Continues action) :
    Remembers tradeEvent lastTrade s action s' := by
  have hquiet : ∀ {x : Outcome GeneralIndexModule}, s.withModule <$> x = .ok s' →
      (∀ m, x = .ok m → lastTrades m = s.lastTrade) → tradeEvent s action = none →
        Remembers tradeEvent lastTrade s action s' := by
    intro x hx hsame hevent
    obtain ⟨m, hm, rfl⟩ := Outcome.map_eq_ok.mp hx
    exact remembers_of_quiet hevent (hsame m hm)
  cases action with
  | initializeSetToken env => exact hcontinues.elim
  | startRebalance env newComponents newUnits oldUnits multiplier =>
    simp only [perform, Outcome.bind_eq_ok, Outcome.pure_eq_ok] at h
    obtain ⟨m, hm, rfl⟩ := h
    exact remembers_of_quiet rfl (startRebalance_lastTrades hm)
  | trade env component limit =>
    simp only [perform, Outcome.bind_eq_ok, Outcome.pure_eq_ok, Prod.exists] at h
    obtain ⟨m, w, htrade, rfl⟩ := h
    obtain ⟨hvalid, hmodule⟩ := trade_module htrade
    exact remembers_of_trade hvalid hmodule rfl rfl
  | tradeRemainingWETH env component minimum =>
    simp only [perform, Outcome.bind_eq_ok, Outcome.pure_eq_ok, Prod.exists] at h
    obtain ⟨m, w, htrade, rfl⟩ := h
    obtain ⟨hvalid, hmodule⟩ := tradeRemainingWETH_module htrade
    exact remembers_of_trade hvalid hmodule rfl rfl
  | raiseAssetTargets env => exact hquiet h (fun _ ↦ raiseAssetTargets_lastTrades) rfl
  | setTradeMaximums env components maximums =>
    exact hquiet h (fun _ ↦ setParameters_lastTrades fun _ _ ↦ rfl) rfl
  | setExchanges env components names => exact hquiet h (fun _ ↦ setExchanges_lastTrades) rfl
  | setCoolOffPeriods env components periods =>
    exact hquiet h (fun _ ↦ setParameters_lastTrades fun _ _ ↦ rfl) rfl
  | setExchangeData env components data =>
    exact hquiet h (fun _ ↦ setParameters_lastTrades fun _ _ ↦ rfl) rfl
  | setRaiseTargetPercentage env percentage =>
    refine hquiet h (fun m hm ↦ ?_) rfl
    simp only [setRaiseTargetPercentage, Outcome.bind_eq_ok, Outcome.pure_eq_ok] at hm
    obtain ⟨_, -, _, -, rfl⟩ := hm
    rfl
  | setTraderStatus env traders statuses => exact hquiet h (fun _ ↦ setTraderStatus_lastTrades) rfl
  | setAnyoneTrade env status =>
    refine hquiet h (fun m hm ↦ ?_) rfl
    simp only [setAnyoneTrade, Outcome.bind_eq_ok, Outcome.pure_eq_ok] at hm
    obtain ⟨_, -, rfl⟩ := hm
    rfl
  | removeModule =>
    obtain rfl := Outcome.pure_eq_ok.mp h
    exact remembers_of_quiet rfl rfl
  | elsewhere world =>
    obtain rfl := Outcome.pure_eq_ok.mp h
    exact remembers_of_quiet rfl rfl

/-- From any state on and until the module is initialized again, trades of one component are apart by the
cool-off period. -/
theorem trades_apart_of_run {trace : List (RebalanceState × Action)} (h : Trace perform s trace s')
    (hcontinues : ∀ entry ∈ trace, Continues entry.2) : (events tradeEvent trace).Pairwise Apart :=
  (events_apart (I := fun _ ↦ True) h
    (fun _ _ _ hok hc _ ↦ ⟨trivial, perform_remembers hok hc⟩) hcontinues trivial).1

namespace CoolOffSample

def start : RebalanceState := ⟨TradeSample.module, TradeSample.world, none⟩

/-- Component 8 cools off for 50 seconds. -/
def coolOff : Action := .setCoolOffPeriods (Env.plain 2 0) [8] [50]

def cooling : RebalanceState := (start.perform coolOff).getD start

def buy (timestamp : ℕ) : Action :=
  .trade { TradeSample.exchangeEnv with timestamp := timestamp } 8 30

def bought : RebalanceState := (cooling.perform (buy 100)).getD start

/-- The Set is as it was before the purchase. -/
def restored : RebalanceState := { bought with world := TradeSample.world }

def boughtAgain : RebalanceState := (restored.perform (buy 150)).getD start

def trace : List (RebalanceState × Action) :=
  [(start, coolOff), (cooling, buy 100), (bought, .elsewhere TradeSample.world), (restored, buy 150)]

theorem trace_apart :
    events tradeEvent trace = [⟨8, 100, 50⟩, ⟨8, 150, 50⟩] ∧
      (events tradeEvent trace).Pairwise Apart ∧ (restored.perform (buy 149)).isOk = false := by
  have hrun : Trace perform start trace boughtAgain :=
    .cons (Outcome.eq_ok_getD start (by decide +kernel))
      (.cons (Outcome.eq_ok_getD start (by decide +kernel))
        (.cons rfl (.cons (Outcome.eq_ok_getD start (by decide +kernel)) (.nil _))))
  refine ⟨by decide +kernel, trades_apart_of_run hrun ?_, by decide +kernel⟩
  simp [trace, Continues, coolOff, buy]

end CoolOffSample

end RebalanceState

end SetProtocol
