import SetProtocol.Foundation.Trace
import SetProtocol.System.RebalanceHistory
import SetProtocol.System.SingleIndexRebalance

/-!
# The targets of a single index

Every target that `SingleIndexModule` reads is one that the last call of `startRebalance` gave, over the whole
life of the module.  Other than its successor it never lists WETH, serves a single Set once and for all, and
does not initialize targets behind a rebalance that has begun.  Targets that earlier calls left behind are not
read: the module trades as if they were zero.
-/

namespace SetProtocol

open PreciseUnitMath ModuleBase
open GeneralIndexModule (TargetCall)

namespace SingleIndexModule

variable {m m' : SingleIndexModule} {w w' : World} {env : Env} {component : Address}
  {targets : Address → ℕ}

/-! ## Which targets are read -/

/-- The module with other target units. -/
def retarget (m : SingleIndexModule) (targets : Address → ℕ) : SingleIndexModule :=
  { m with assetInfo := fun c ↦ { m.assetInfo c with targetUnit := targets c } }

/-- The components of the rebalance have these targets. -/
def HasTargets (m : SingleIndexModule) (targets : Address → ℕ) : Prop :=
  ∀ c ∈ m.rebalanceComponents, (m.assetInfo c).targetUnit = targets c

theorem normalizeTargetUnit_retarget {multiplier : ℕ}
    (h : (m.assetInfo component).targetUnit = targets component) :
    (m.retarget targets).normalizeTargetUnit component multiplier =
      m.normalizeTargetUnit component multiplier := by
  unfold normalizeTargetUnit retarget
  rw [h]

theorem noTokensToSell_retarget (h : m.HasTargets targets) :
    (m.retarget targets).noTokensToSell w = m.noTokensToSell w := by
  have hloop : ∀ (multiplier : ℕ) (components : List Address),
      (∀ c ∈ components, (m.assetInfo c).targetUnit = targets c) →
        (m.retarget targets).noTokensToSellLoop w multiplier components =
          m.noTokensToSellLoop w multiplier components := by
    intro multiplier components hcomponents
    induction components with
    | nil => rfl
    | cons component rest ih =>
      rw [List.forall_mem_cons] at hcomponents
      rw [noTokensToSellLoop, noTokensToSellLoop, normalizeTargetUnit_retarget hcomponents.1,
        ih hcomponents.2]
  exact bind_congr fun multiplier ↦ hloop multiplier _ h

theorem allTargetsMet_retarget (h : m.HasTargets targets) :
    (m.retarget targets).allTargetsMet w = m.allTargetsMet w := by
  have hloop : ∀ (multiplier : ℕ) (components : List Address),
      (∀ c ∈ components, (m.assetInfo c).targetUnit = targets c) →
        (m.retarget targets).allTargetsMetLoop w multiplier components =
          m.allTargetsMetLoop w multiplier components := by
    intro multiplier components hcomponents
    induction components with
    | nil => rfl
    | cons component rest ih =>
      rw [List.forall_mem_cons] at hcomponents
      rw [allTargetsMetLoop, allTargetsMetLoop, normalizeTargetUnit_retarget hcomponents.1,
        ih hcomponents.2]
  exact bind_congr fun multiplier ↦ hloop multiplier _ h

theorem calculateTradeSizeAndDirection_retarget
    (h : (m.assetInfo component).targetUnit = targets component) :
    (m.retarget targets).calculateTradeSizeAndDirection w component =
      m.calculateTradeSizeAndDirection w component := by
  unfold calculateTradeSizeAndDirection
  simp only [normalizeTargetUnit_retarget h]
  rfl

theorem setLastTradeTimestamp_retarget {timestamp : ℕ} :
    (m.retarget targets).setLastTradeTimestamp component timestamp =
      (m.setLastTradeTimestamp component timestamp).retarget targets := by
  have hinfo : ((m.retarget targets).setLastTradeTimestamp component timestamp).assetInfo =
      ((m.setLastTradeTimestamp component timestamp).retarget targets).assetInfo := by
    funext c
    by_cases hc : c = component
    · subst hc
      simp [setLastTradeTimestamp, editAssetInfo, retarget]
    · simp [setLastTradeTimestamp, editAssetInfo, retarget, hc]
  exact congrArg (fun info ↦ { m with assetInfo := info }) hinfo

theorem mem_of_validateTradeParameters (h : m.validateTradeParameters env component = .ok ()) :
    component ∈ m.rebalanceComponents := by
  simp only [validateTradeParameters, Outcome.bind_eq_ok, Outcome.require_eq_ok,
    AddressArrayUtils.contains_eq_true] at h
  obtain ⟨_, hmem, -⟩ := h
  exact hmem

/-- A trade reads the target of its component only, which is part of the rebalance. -/
theorem trade_retarget (h : m.HasTargets targets) :
    (m.retarget targets).trade w env component =
      (fun r ↦ (r.1.retarget targets, r.2)) <$> m.trade w env component := by
  have hparameters : (m.retarget targets).validateTradeParameters env component =
      m.validateTradeParameters env component := rfl
  unfold trade
  rw [hparameters]
  simp only [map_bind]
  refine bind_congr fun _ ↦ bind_congr fun _ ↦ ?_
  cases hvalid : m.validateTradeParameters env component with
  | error reason => rfl
  | ok u =>
    rw [calculateTradeSizeAndDirection_retarget (h component (mem_of_validateTradeParameters hvalid))]
    simp only [Outcome.ok_bind, setLastTradeTimestamp_retarget]
    refine bind_congr fun sized ↦ ?_
    split_ifs
    · rw [map_bind]
      rfl
    · rw [map_bind]
      rfl

theorem tradeRemainingWETH_retarget (h : m.HasTargets targets) :
    (m.retarget targets).tradeRemainingWETH w env component =
      (fun r ↦ (r.1.retarget targets, r.2)) <$> m.tradeRemainingWETH w env component := by
  have hparameters : (m.retarget targets).validateTradeParameters env component =
      m.validateTradeParameters env component := rfl
  unfold tradeRemainingWETH
  rw [hparameters, noTokensToSell_retarget h]
  simp only [map_bind]
  refine bind_congr fun _ ↦ bind_congr fun _ ↦ bind_congr fun _ ↦ bind_congr fun _ ↦ ?_
  cases hvalid : m.validateTradeParameters env component with
  | error reason => rfl
  | ok u =>
    rw [calculateTradeSizeAndDirection_retarget (h component (mem_of_validateTradeParameters hvalid))]
    simp only [Outcome.ok_bind, setLastTradeTimestamp_retarget]
    rfl

theorem raiseAssetTargets_retarget (h : m.HasTargets targets) :
    (m.retarget targets).raiseAssetTargets w env =
      (fun m' ↦ m'.retarget targets) <$> m.raiseAssetTargets w env := by
  unfold raiseAssetTargets hasRemainingWETH
  rw [allTargetsMet_retarget h]
  simp only [map_bind]
  rfl

/-! ## What the functions do to the targets -/

theorem trade_sameTargets (h : m.trade w env component = .ok (m', w')) : m.SameTargets m' := by
  simp only [trade, Outcome.bind_eq_ok, Prod.exists] at h
  obtain ⟨_, -, _, -, _, -, isBuy, size, -, h⟩ := h
  split_ifs at h
  all_goals
    simp only [Outcome.bind_eq_ok, Outcome.pure_eq_ok, Prod.exists, Prod.mk.injEq] at h
    obtain ⟨_, _, _, -, rfl, -⟩ := h
    exact editAssetInfo_sameTargets fun _ ↦ rfl

theorem tradeRemainingWETH_sameTargets (h : m.tradeRemainingWETH w env component = .ok (m', w')) :
    m.SameTargets m' := by
  simp only [tradeRemainingWETH, Outcome.bind_eq_ok, Outcome.pure_eq_ok, Prod.exists,
    Prod.mk.injEq] at h
  obtain ⟨_, -, _, -, _, -, _, -, _, -, _, _, -, _, _, _, -, _, -, rfl, -⟩ := h
  exact editAssetInfo_sameTargets fun _ ↦ rfl

/-- A rebalance lists the components of the Set and the new ones once each and without WETH, and writes
their targets. -/
theorem startRebalance_ok {newComponents : List Address} {newUnits oldUnits : List ℕ} {multiplier : ℕ}
    (h : m.startRebalance w env newComponents newUnits oldUnits multiplier = .ok m') :
    (w.setToken.components ++ newComponents).Nodup ∧
      m.weth ∉ w.setToken.components ++ newComponents ∧
      m'.rebalanceComponents = w.setToken.components ++ newComponents ∧
      m'.index = m.index ∧ m'.weth = m.weth ∧ m.index = w.setToken.address ∧
      ((w.setToken.components ++ newComponents).zip (oldUnits ++ newUnits)).map Prod.fst =
        w.setToken.components ++ newComponents ∧
      ∀ entry ∈ (w.setToken.components ++ newComponents).zip (oldUnits ++ newUnits),
        (m'.assetInfo entry.1).targetUnit = entry.2 := by
  simp only [startRebalance, onlyIndexManager, AddressArrayUtils.extend, Outcome.bind_eq_ok,
    Outcome.require_eq_ok, Outcome.pure_eq_ok] at h
  obtain ⟨_, ⟨_, hindex, -⟩, _, hnew, _, hold, _, hduplicate, _, rfl, started, hloop, rfl⟩ := h
  have hnodup := (AddressArrayUtils.hasDuplicate_eq_ok_false.mp hduplicate).2
  have hkeys : ((w.setToken.components ++ newComponents).zip (oldUnits ++ newUnits)).map Prod.fst =
      w.setToken.components ++ newComponents := by
    apply List.map_fst_zip
    rw [List.length_append, List.length_append, hold, hnew]
  have hstep : ∀ v v' : SingleIndexModule,
      ∀ entry ∈ (w.setToken.components ++ newComponents).zip (oldUnits ++ newUnits),
        startTarget v entry = .ok v' → (v.weth = m.weth ∧ v.index = m.index) →
        (v'.weth = m.weth ∧ v'.index = m.index) ∧ (v'.assetInfo entry.1).targetUnit = entry.2 ∧
          ∀ k, k ≠ entry.1 → (v'.assetInfo k).targetUnit = (v.assetInfo k).targetUnit := by
    intro v v' entry _ hv hkept
    simp only [startTarget, Outcome.bind_eq_ok, Outcome.pure_eq_ok] at hv
    obtain ⟨_, -, rfl⟩ := hv
    refine ⟨hkept, ?_, fun k hk ↦ ?_⟩
    · simp [editAssetInfo]
    · simp [editAssetInfo, hk]
  have hweth : ∀ entry ∈ (w.setToken.components ++ newComponents).zip (oldUnits ++ newUnits),
      entry.1 ≠ m.weth := by
    intro entry hentry
    refine Outcome.foldlM_establish (P := fun _ ↦ entry.1 ≠ m.weth) hentry
      (fun v e he v' hv hkept ↦ (hstep v v' e he hv hkept).1) ?_ (fun _ _ _ _ _ _ h ↦ h) hloop ⟨rfl, rfl⟩
    intro v v' hv hkept
    simp only [startTarget, Outcome.bind_eq_ok, Outcome.require_eq_ok] at hv
    obtain ⟨_, hne, -⟩ := hv
    exact hkept.1 ▸ hne
  obtain ⟨⟨hwethKept, hindexKept⟩, hset, -⟩ := Outcome.foldlM_pointwise
    (fun (v : SingleIndexModule) c ↦ (v.assetInfo c).targetUnit)
    (fun v ↦ v.weth = m.weth ∧ v.index = m.index) (fun _ unit after ↦ after = unit) hstep
    (hkeys.symm ▸ hnodup) hloop ⟨rfl, rfl⟩
  refine ⟨hnodup, ?_, rfl, hindexKept, hwethKept, hindex, hkeys, hset⟩
  intro hmem
  rw [← hkeys, List.mem_map] at hmem
  obtain ⟨entry, hentry, heq⟩ := hmem
  exact hweth entry hentry heq

/-- Joining a Set is the first thing that the module does, and it does it once. -/
theorem initializeSetToken_ok (h : m.initializeSetToken w env = .ok (m', w')) :
    m.index = 0 ∧ m'.index = w.setToken.address ∧ m'.weth = m.weth ∧
      m'.rebalanceComponents = m.rebalanceComponents := by
  simp only [initializeSetToken, Outcome.bind_eq_ok, Outcome.require_eq_ok, Outcome.pure_eq_ok,
    Prod.mk.injEq] at h
  obtain ⟨_, -, _, -, _, hindex, positions, -, initialized, hloop, v, hv, rfl, -⟩ := h
  have haddress : v.setToken.address = w.setToken.address := by
    simp only [World.onSetToken, SetToken.initializeModule, Outcome.bind_eq_ok,
      Outcome.pure_eq_ok] at hv
    obtain ⟨_, ⟨_, -, _, -, rfl⟩, rfl⟩ := hv
    rfl
  have hkept := Outcome.foldlM_invariant
    (P := fun v : SingleIndexModule ↦
      v.weth = m.weth ∧ v.rebalanceComponents = m.rebalanceComponents) ?_ hloop ⟨rfl, rfl⟩
  · exact ⟨hindex, haddress, hkept.1, hkept.2⟩
  intro v position v' hstep hv
  simp only [initializePosition, Outcome.bind_eq_ok, Outcome.pure_eq_ok] at hstep
  obtain ⟨_, -, rfl⟩ := hstep
  exact hv

end SingleIndexModule

/-! ## Histories -/

/-- The module with the call that started the rebalance that is going on. -/
structure IndexState where
  module : SingleIndexModule
  call : Option TargetCall

namespace IndexState

open SingleIndexModule

/-- Calls of the module, each of them in whatever world there is by then. -/
inductive Action where
  | initializeSetToken (w : World) (env : Env) (haddress : w.setToken.address ≠ 0)
  | startRebalance (w : World) (env : Env) (newComponents : List Address)
      (newComponentsTargetUnits oldComponentsTargetUnits : List ℕ) (positionMultiplier : ℕ)
      (haddress : w.setToken.address ≠ 0)
  | trade (w : World) (env : Env) (component : Address)
  | tradeRemainingWETH (w : World) (env : Env) (component : Address)
  | raiseAssetTargets (w : World) (env : Env)
  | setTradeMaximums (w : World) (env : Env) (components : List Address) (tradeMaximums : List ℕ)
  | setExchanges (w : World) (env : Env) (components : List Address) (exchanges : List ℕ)
  | setCoolOffPeriods (w : World) (env : Env) (components : List Address) (coolOffPeriods : List ℕ)
  | updateTraderStatus (w : World) (env : Env) (traders : List Address) (statuses : List Bool)
  | updateAnyoneTrade (w : World) (env : Env) (status : Bool)
  | removeModule

/-- Go on with another state of the module. -/
def withModule (s : IndexState) (m : SingleIndexModule) : IndexState :=
  { s with module := m }

def perform (s : IndexState) : Action → Outcome IndexState
  | .initializeSetToken w env _ => do
    let (m, _) ← s.module.initializeSetToken w env
    pure (s.withModule m)
  | .startRebalance w env newComponents newUnits oldUnits multiplier _ => do
    let m ← s.module.startRebalance w env newComponents newUnits oldUnits multiplier
    pure ⟨m, some ⟨w.setToken.components ++ newComponents, oldUnits ++ newUnits⟩⟩
  | .trade w env component => do
    let (m, _) ← s.module.trade w env component
    pure (s.withModule m)
  | .tradeRemainingWETH w env component => do
    let (m, _) ← s.module.tradeRemainingWETH w env component
    pure (s.withModule m)
  | .raiseAssetTargets w env => s.withModule <$> s.module.raiseAssetTargets w env
  | .setTradeMaximums w env components maximums =>
    s.withModule <$> s.module.setTradeMaximums w env components maximums
  | .setExchanges w env components exchanges =>
    s.withModule <$> s.module.setExchanges w env components exchanges
  | .setCoolOffPeriods w env components periods =>
    s.withModule <$> s.module.setCoolOffPeriods w env components periods
  | .updateTraderStatus w env traders statuses =>
    s.withModule <$> s.module.updateTraderStatus w env traders statuses
  | .updateAnyoneTrade w env status => s.withModule <$> s.module.updateAnyoneTrade w env status
  | .removeModule => pure (s.withModule s.module.removeModule)

/-- The components of the rebalance are those of the call, each once and without WETH, and their targets are
those of the call.  A module that rebalances serves a Set. -/
structure Follows (s : IndexState) : Prop where
  idle : s.call = none → s.module.rebalanceComponents = []
  serves : s.call ≠ none → s.module.index ≠ 0
  lists : ∀ call, s.call = some call → s.module.rebalanceComponents = call.components ∧
    call.components.Nodup ∧ s.module.weth ∉ call.components ∧ s.module.HasTargets call.target

variable {s s' : IndexState} {action : Action} {m : SingleIndexModule}

/-- What a call may change freely. -/
theorem Follows.withModule (h : s.Follows) (hcomponents : m.rebalanceComponents = s.module.rebalanceComponents)
    (hindex : m.index = s.module.index) (hweth : m.weth = s.module.weth)
    (htargets : ∀ c, (m.assetInfo c).targetUnit = (s.module.assetInfo c).targetUnit) :
    (s.withModule m).Follows where
  idle := fun hcall ↦ hcomponents.trans (h.idle hcall)
  serves := fun hcall ↦ hindex ▸ h.serves hcall
  lists := by
    intro call hcall
    obtain ⟨hlisted, hnodup, hnot, hhas⟩ := h.lists call hcall
    refine ⟨hcomponents.trans hlisted, hnodup, ?_, fun c hc ↦ ?_⟩
    · change m.weth ∉ _
      rw [hweth]
      exact hnot
    · change (m.assetInfo c).targetUnit = _
      rw [htargets]
      exact hhas c (hcomponents ▸ hc)

theorem Follows.of_sameTargets (h : s.Follows) (hsame : s.module.SameTargets m) :
    (s.withModule m).Follows :=
  h.withModule hsame.rebalanceComponents hsame.index hsame.weth hsame.targetUnit

theorem Follows.of_setting {w : World} {env : Env} {x : Outcome SingleIndexModule} (h : s.Follows)
    (hcall : ∀ m, x = .ok m → SettingCall s.module w env m) (hx : s.withModule <$> x = .ok s') :
    s'.Follows := by
  obtain ⟨m, hm, rfl⟩ := Outcome.map_eq_ok.mp hx
  exact h.of_sameTargets (hcall m hm).sameTargets

theorem perform_follows (h : s.perform action = .ok s') (hs : s.Follows) : s'.Follows := by
  cases action with
  | initializeSetToken w env haddress =>
    simp only [perform, Outcome.bind_eq_ok, Outcome.pure_eq_ok, Prod.exists] at h
    obtain ⟨m, _, hm, rfl⟩ := h
    obtain ⟨hindex, hindex', hweth, hcomponents⟩ := initializeSetToken_ok hm
    -- no rebalance has begun before the module serves a Set
    have hnone : s.call = none := by
      by_contra hcall
      exact hs.serves hcall hindex
    refine ⟨fun hcall ↦ hcomponents.trans (hs.idle hcall), fun _ ↦ ?_, fun call hcall ↦ ?_⟩
    · change m.index ≠ 0
      rw [hindex']
      exact haddress
    · change s.call = some call at hcall
      rw [hnone] at hcall
      cases hcall
  | startRebalance w env newComponents newUnits oldUnits multiplier haddress =>
    simp only [perform, Outcome.bind_eq_ok, Outcome.pure_eq_ok] at h
    obtain ⟨m, hm, rfl⟩ := h
    obtain ⟨hnodup, hnot, hcomponents, hindex, hweth, hserved, hkeys, hset⟩ := startRebalance_ok hm
    refine ⟨fun hnone ↦ absurd hnone (Option.some_ne_none _), fun _ ↦ ?_, fun call hcall ↦ ?_⟩
    · change m.index ≠ 0
      rw [hindex, hserved]
      exact haddress
    · obtain rfl := Option.some.inj hcall
      refine ⟨hcomponents, hnodup, ?_, fun c hc ↦ ?_⟩
      · change m.weth ∉ _
        rw [hweth]
        exact hnot
      · change c ∈ m.rebalanceComponents at hc
        rw [hcomponents, ← hkeys, List.mem_map] at hc
        obtain ⟨entry, hentry, rfl⟩ := hc
        exact (hset entry hentry).trans (TargetCall.target_of_mem hnodup hentry).symm
  | trade w env component =>
    simp only [perform, Outcome.bind_eq_ok, Outcome.pure_eq_ok, Prod.exists] at h
    obtain ⟨m, _, hm, rfl⟩ := h
    exact hs.of_sameTargets (trade_sameTargets hm)
  | tradeRemainingWETH w env component =>
    simp only [perform, Outcome.bind_eq_ok, Outcome.pure_eq_ok, Prod.exists] at h
    obtain ⟨m, _, hm, rfl⟩ := h
    exact hs.of_sameTargets (tradeRemainingWETH_sameTargets hm)
  | raiseAssetTargets w env =>
    obtain ⟨m, hm, rfl⟩ := Outcome.map_eq_ok.mp h
    rw [(raiseAssetTargets_ok hm).2]
    exact hs.withModule rfl rfl rfl fun _ ↦ rfl
  | setTradeMaximums w env components maximums =>
    exact hs.of_setting (fun _ ↦ .tradeMaximums components maximums) h
  | setExchanges w env components exchanges =>
    exact hs.of_setting (fun _ ↦ .exchanges components exchanges) h
  | setCoolOffPeriods w env components periods =>
    exact hs.of_setting (fun _ ↦ .coolOffPeriods components periods) h
  | updateTraderStatus w env traders statuses =>
    exact hs.of_setting (fun _ ↦ .traderStatus traders statuses) h
  | updateAnyoneTrade w env status => exact hs.of_setting (fun _ ↦ .anyoneTrade status) h
  | removeModule =>
    obtain rfl := Outcome.pure_eq_ok.mp h
    exact hs.of_sameTargets (.refl _)

theorem follows_of_idle (hidle : m.rebalanceComponents = []) : (⟨m, none⟩ : IndexState).Follows :=
  ⟨fun _ ↦ hidle, fun hne ↦ absurd rfl hne, fun _ hsome ↦ absurd hsome.symm (Option.some_ne_none _)⟩

/-- In every state of a rebalance the module lists the components of the last call, each once and without
WETH, and trades as if it stored that call's targets and no others. -/
theorem follows_of_run {trace : List (IndexState × Action)} {call : TargetCall}
    (h : Trace perform ⟨m, none⟩ trace s') (hidle : m.rebalanceComponents = [])
    (hcall : s'.call = some call) :
    s'.module.rebalanceComponents = call.components ∧ call.components.Nodup ∧
      s'.module.weth ∉ call.components ∧
      (∀ w env component, (s'.module.retarget call.target).trade w env component =
        (fun r ↦ (r.1.retarget call.target, r.2)) <$> s'.module.trade w env component) ∧
      (∀ w env component, (s'.module.retarget call.target).tradeRemainingWETH w env component =
        (fun r ↦ (r.1.retarget call.target, r.2)) <$>
          s'.module.tradeRemainingWETH w env component) ∧
      ∀ w env, (s'.module.retarget call.target).raiseAssetTargets w env =
        (fun m ↦ m.retarget call.target) <$> s'.module.raiseAssetTargets w env := by
  have hfollows := (h.invariant (fun _ _ _ ↦ perform_follows) (follows_of_idle hidle)).2
  obtain ⟨hlisted, hnodup, hnot, hhas⟩ := hfollows.lists call hcall
  exact ⟨hlisted, hnodup, hnot, fun _ _ _ ↦ trade_retarget hhas,
    fun _ _ _ ↦ tradeRemainingWETH_retarget hhas, fun _ _ ↦ raiseAssetTargets_retarget hhas⟩

namespace Sample

/-- A module that serves no Set yet.  WETH is token 30. -/
def module : SingleIndexModule where
  address := 23
  assetInfo := fun _ ↦ ⟨0, 1000, 0, 0, ExchangeId.uniswap⟩
  rebalanceComponents := []
  positionMultiplier := 0
  tradeAllowList := fun _ ↦ false
  anyoneTrade := false
  index := 0
  weth := 30
  uniswapRouter := 41
  sushiswapRouter := 42
  balancerProxy := 43

/-- Set 6 of manager 2 with 100 units of each component. -/
def world (components : List Address) : World where
  controller := { Controller.enabling 4 [23] with isSet := fun a ↦ a == 6 }
  setToken := SetToken.launched 6 components [100, 100] [23] 2 2 (10 ^ 18)
  chain := { tokens := fun _ ↦ ERC20.holding 18 [(6, 200)] 0 }
  log := []

/-- The Set before it has initialized the module. -/
def pendingWorld : World :=
  { world [8] with
    setToken := { (world [8]).setToken with
      modules := []
      moduleStates := Function.update (world [8]).setToken.moduleStates 23 .pending } }

def start : IndexState := ⟨module, none⟩

def join : Action := .initializeSetToken pendingWorld (Env.plain 2 0) (by decide +kernel)

def joined : IndexState := (start.perform join).getD start

/-- The first rebalance brings in component 9. -/
def extend : Action :=
  .startRebalance (world [8]) (Env.plain 2 0) [9] [70] [60] (10 ^ 18) (by decide +kernel)

def extended : IndexState := (joined.perform extend).getD start

/-- The second rebalance begins when component 9 is no component any more. -/
def keep : Action :=
  .startRebalance (world [8]) (Env.plain 2 0) [] [] [50] (10 ^ 18) (by decide +kernel)

def kept : IndexState := (extended.perform keep).getD start

/-- The target of component 9 is still stored, and the module trades as if it were not. -/
theorem kept_follows :
    kept.call = some ⟨[8], [50]⟩ ∧ (kept.module.assetInfo 9).targetUnit = 70 ∧
      ∀ w env component, (kept.module.retarget (TargetCall.mk [8] [50]).target).trade w env component =
        (fun r ↦ (r.1.retarget (TargetCall.mk [8] [50]).target, r.2)) <$>
          kept.module.trade w env component := by
  have hrun : Trace perform start [(start, join), (joined, extend), (extended, keep)] kept :=
    .cons (Outcome.eq_ok_getD start (by decide +kernel))
      (.cons (Outcome.eq_ok_getD start (by decide +kernel))
        (.cons (Outcome.eq_ok_getD start (by decide +kernel)) (.nil _)))
  have hcall : kept.call = some ⟨[8], [50]⟩ := by decide +kernel
  obtain ⟨-, -, -, htrade, -⟩ := follows_of_run hrun rfl hcall
  exact ⟨hcall, by decide +kernel, htrade⟩

end Sample

end IndexState

end SetProtocol
