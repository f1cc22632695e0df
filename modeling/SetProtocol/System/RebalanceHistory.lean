import SetProtocol.Modules.GeneralIndexModule
import SetProtocol.Foundation.Trace

/-!
# Targets over the history of a Set

Which targets the trades of `GeneralIndexModule` read, and where these come from.  A rebalance begins
with a call of `startRebalance` and ends when the module is removed from the Set or initialized again.
Targets are stored per component and outlive a rebalance; WETH is read also where the call did not list
it, and then finds the target that an earlier call left.
-/

namespace SetProtocol

open PreciseUnitMath ModuleBase

namespace GeneralIndexModule

/-! ## Which targets are read -/

/-- The module with other target units. -/
def retarget (m : GeneralIndexModule) (targets : Address → ℕ) : GeneralIndexModule :=
  { m with executionInfo := fun c ↦ { m.executionInfo c with targetUnit := targets c } }

/-- The targets are the module's, as far as the component goes. -/
def HasTarget (m : GeneralIndexModule) (targets : Address → ℕ) (component : Address) : Prop :=
  (m.executionInfo component).targetUnit = targets component

instance (m : GeneralIndexModule) (targets : Address → ℕ) (component : Address) :
    Decidable (m.HasTarget targets component) :=
  inferInstanceAs (Decidable (_ = _))

/-- The components whose targets are read while a rebalance goes on. -/
def targetsRead (m : GeneralIndexModule) : List Address :=
  m.weth :: m.rebalanceInfo.rebalanceComponents

variable {m m' : GeneralIndexModule} {w w' : World} {env : Env} {component : Address} {limit : ℕ}
  {targets : Address → ℕ}

theorem getNormalizedTargetUnit_retarget (h : m.HasTarget targets component) :
    (m.retarget targets).getNormalizedTargetUnit w component =
      m.getNormalizedTargetUnit w component := by
  unfold getNormalizedTargetUnit retarget
  rw [h]

theorem getUnitsAndNotionalAmounts_retarget (h : m.HasTarget targets component) {supply : ℕ} :
    (m.retarget targets).getUnitsAndNotionalAmounts w component supply =
      m.getUnitsAndNotionalAmounts w component supply := by
  unfold getUnitsAndNotionalAmounts
  rw [getNormalizedTargetUnit_retarget h]

theorem canSell_retarget (h : m.HasTarget targets component) :
    (m.retarget targets).canSell w component = m.canSell w component := by
  unfold canSell
  rw [getNormalizedTargetUnit_retarget h]
  rfl

theorem targetUnmet_retarget (h : m.HasTarget targets component) :
    (m.retarget targets).targetUnmet w component = m.targetUnmet w component := by
  unfold targetUnmet
  rw [getNormalizedTargetUnit_retarget h]
  rfl

theorem noTokensToSell_retarget (h : ∀ c ∈ m.targetsRead, m.HasTarget targets c) :
    (m.retarget targets).noTokensToSell w = m.noTokensToSell w := by
  have hloop : ∀ components : List Address, (∀ c ∈ components, m.HasTarget targets c) →
      (m.retarget targets).noTokensToSellLoop w components = m.noTokensToSellLoop w components := by
    intro components hcomponents
    induction components with
    | nil => rfl
    | cons component rest ih =>
      rw [List.forall_mem_cons] at hcomponents
      rw [noTokensToSellLoop, noTokensToSellLoop, canSell_retarget hcomponents.1, ih hcomponents.2]
  exact hloop _ fun c hc ↦ h c (List.mem_cons_of_mem _ hc)

theorem allTargetsMet_retarget (h : ∀ c ∈ m.targetsRead, m.HasTarget targets c) :
    (m.retarget targets).allTargetsMet w = m.allTargetsMet w := by
  have hloop : ∀ components : List Address, (∀ c ∈ components, m.HasTarget targets c) →
      (m.retarget targets).allTargetsMetLoop w components = m.allTargetsMetLoop w components := by
    intro components hcomponents
    induction components with
    | nil => rfl
    | cons component rest ih =>
      rw [List.forall_mem_cons] at hcomponents
      rw [allTargetsMetLoop, allTargetsMetLoop, targetUnmet_retarget hcomponents.1,
        ih hcomponents.2]
  exact hloop _ fun c hc ↦ h c (List.mem_cons_of_mem _ hc)

theorem raiseAssetTargets_retarget (h : ∀ c ∈ m.targetsRead, m.HasTarget targets c) :
    (m.retarget targets).raiseAssetTargets w env =
      (fun m' ↦ m'.retarget targets) <$> m.raiseAssetTargets w env := by
  have hweth : (m.retarget targets).getNormalizedTargetUnit w (m.retarget targets).weth =
      m.getNormalizedTargetUnit w m.weth :=
    getNormalizedTargetUnit_retarget (h m.weth List.mem_cons_self)
  unfold raiseAssetTargets
  rw [allTargetsMet_retarget h, hweth]
  simp only [map_bind]
  rfl

theorem createTradeInfo_retarget (h : m.HasTarget targets component) :
    (m.retarget targets).createTradeInfo w env component limit =
      m.createTradeInfo w env component limit := by
  have hdirection : (m.retarget targets).tradeDirection w component true =
      m.tradeDirection w component true := by
    unfold tradeDirection calculateTradeSizeAndDirection
    rw [getUnitsAndNotionalAmounts_retarget h]
    rfl
  unfold createTradeInfo getDefaultTradeInfo
  rw [hdirection]
  rfl

theorem createTradeRemainingInfo_retarget (h : m.HasTarget targets m.weth) :
    (m.retarget targets).createTradeRemainingInfo w env component limit =
      m.createTradeRemainingInfo w env component limit := by
  have hweth {supply : ℕ} :
      (m.retarget targets).getUnitsAndNotionalAmounts w (m.retarget targets).weth supply =
        m.getUnitsAndNotionalAmounts w m.weth supply :=
    getUnitsAndNotionalAmounts_retarget h
  unfold createTradeRemainingInfo
  simp only [hweth]
  rfl

theorem setLastTradeTimestamp_retarget {timestamp : ℕ} :
    (m.retarget targets).setLastTradeTimestamp component timestamp =
      (m.setLastTradeTimestamp component timestamp).retarget targets := by
  have hinfo : ((m.retarget targets).setLastTradeTimestamp component timestamp).executionInfo =
      ((m.setLastTradeTimestamp component timestamp).retarget targets).executionInfo := by
    funext c
    by_cases hc : c = component
    · subst hc
      simp [setLastTradeTimestamp, retarget]
    · simp [setLastTradeTimestamp, retarget, hc]
  exact congrArg (fun info ↦ { m with executionInfo := info }) hinfo

theorem updatePositionStateAndTimestamp_retarget {info : TradeInfo} :
    (m.retarget targets).updatePositionStateAndTimestamp w env info component =
      (fun r ↦ (r.1.retarget targets, r.2)) <$>
        m.updatePositionStateAndTimestamp w env info component := by
  unfold updatePositionStateAndTimestamp
  rw [setLastTradeTimestamp_retarget]
  simp only [map_bind]
  rfl

theorem updatePositionStateAndTimestamp_module {info : TradeInfo}
    {result : GeneralIndexModule × World × ℕ × ℕ}
    (h : m.updatePositionStateAndTimestamp w env info component = .ok result) :
    result.1 = m.setLastTradeTimestamp component env.timestamp := by
  simp only [updatePositionStateAndTimestamp, Outcome.bind_eq_ok, Prod.exists,
    Outcome.pure_eq_ok] at h
  obtain ⟨_, _, _, _, -, _, _, _, _, -, _, -, _, -, rfl⟩ := h
  rfl

theorem validateComponentPositionUnit_retarget (h : m.HasTarget targets component) :
    (m.retarget targets).validateComponentPositionUnit w component =
      m.validateComponentPositionUnit w component := by
  unfold validateComponentPositionUnit
  rw [getNormalizedTargetUnit_retarget h]

theorem mem_of_validateTradeParameters
    (h : m.validateTradeParameters w env component = .ok ()) :
    component ∈ m.rebalanceInfo.rebalanceComponents := by
  simp only [validateTradeParameters, Outcome.bind_eq_ok, Outcome.require_eq_ok,
    AddressArrayUtils.contains_eq_true] at h
  obtain ⟨_, -, _, hmem, -⟩ := h
  exact hmem

/-- A trade reads the target of its component only, and that is part of the rebalance. -/
theorem trade_retarget (h : ∀ c ∈ m.targetsRead, m.HasTarget targets c) :
    (m.retarget targets).trade w env component limit =
      (fun r ↦ (r.1.retarget targets, r.2)) <$> m.trade w env component limit := by
  have hparameters : (m.retarget targets).validateTradeParameters w env component =
      m.validateTradeParameters w env component := rfl
  unfold trade
  rw [hparameters]
  cases hvalid : m.validateTradeParameters w env component with
  | error reason => simp only [Outcome.error_bind, map_bind]; rfl
  | ok u =>
    have htarget := h component (List.mem_cons_of_mem _ (mem_of_validateTradeParameters hvalid))
    rw [createTradeInfo_retarget htarget]
    simp only [Outcome.ok_bind, map_bind, updatePositionStateAndTimestamp_retarget, bind_map_left]
    rfl

/-- A trade of the remaining WETH reads the targets of the rebalance and that of WETH. -/
theorem tradeRemainingWETH_retarget (h : ∀ c ∈ m.targetsRead, m.HasTarget targets c) :
    (m.retarget targets).tradeRemainingWETH w env component limit =
      (fun r ↦ (r.1.retarget targets, r.2)) <$>
        m.tradeRemainingWETH w env component limit := by
  have hparameters : (m.retarget targets).validateTradeParameters w env component =
      m.validateTradeParameters w env component := rfl
  have hweth : ((m.retarget targets).executionInfo (m.retarget targets).weth).targetUnit =
      (m.executionInfo m.weth).targetUnit := (h m.weth List.mem_cons_self).symm
  unfold tradeRemainingWETH
  rw [hparameters, hweth, noTokensToSell_retarget h,
    createTradeRemainingInfo_retarget (h m.weth List.mem_cons_self)]
  simp only [map_bind, updatePositionStateAndTimestamp_retarget, bind_map_left]
  refine bind_congr fun _ ↦ bind_congr fun _ ↦ bind_congr fun nothingToSell ↦ bind_congr fun _ ↦
    bind_congr fun wethUnit ↦ bind_congr fun _ ↦ ?_
  cases hvalid : m.validateTradeParameters w env component with
  | error reason => rfl
  | ok u =>
    have htarget := h component (List.mem_cons_of_mem _ (mem_of_validateTradeParameters hvalid))
    simp only [Outcome.ok_bind]
    refine bind_congr fun info ↦ bind_congr fun traded ↦ bind_congr fun paid ↦ ?_
    cases hupdate : m.updatePositionStateAndTimestamp paid.1 env info component with
    | error reason => rfl
    | ok result =>
      have hkept : result.1.HasTarget targets component := by
        rw [updatePositionStateAndTimestamp_module hupdate]
        simpa [HasTarget, setLastTradeTimestamp] using htarget
      simp only [Outcome.ok_bind, validateComponentPositionUnit_retarget hkept]
      rfl

/-! ## What the functions do to the targets -/

/-- Neither the targets nor the components whose targets are read change. -/
structure SameTargets (m m' : GeneralIndexModule) : Prop where
  targetUnit : ∀ c, (m'.executionInfo c).targetUnit = (m.executionInfo c).targetUnit
  targetsRead : m'.targetsRead = m.targetsRead

theorem SameTargets.refl (m : GeneralIndexModule) : m.SameTargets m :=
  ⟨fun _ ↦ rfl, rfl⟩

theorem SameTargets.trans {m₁ m₂ m₃ : GeneralIndexModule} (h : m₁.SameTargets m₂)
    (h' : m₂.SameTargets m₃) : m₁.SameTargets m₃ :=
  ⟨fun c ↦ (h'.targetUnit c).trans (h.targetUnit c), h'.targetsRead.trans h.targetsRead⟩

theorem editExecutionInfo_sameTargets (edit : TradeExecutionParams → TradeExecutionParams)
    (hedit : ∀ info, (edit info).targetUnit = info.targetUnit) :
    m.SameTargets (m.editExecutionInfo component edit) := by
  refine ⟨fun c ↦ ?_, rfl⟩
  by_cases hc : c = component
  · subst hc
    simp [editExecutionInfo, hedit]
  · simp [editExecutionInfo, hc]

theorem setParameters_sameTargets {β : Type}
    {edit : β → TradeExecutionParams → TradeExecutionParams} {components : List Address}
    {values : List β} (hedit : ∀ value info, (edit value info).targetUnit = info.targetUnit)
    (h : setParameters edit m w env components values = .ok m') : m.SameTargets m' := by
  simp only [setParameters, Outcome.bind_eq_ok, Outcome.pure_eq_ok] at h
  obtain ⟨_, -, _, -, rfl⟩ := h
  generalize components.zip values = entries
  induction entries generalizing m with
  | nil => exact .refl m
  | cons entry entries ih =>
    exact (editExecutionInfo_sameTargets _ (hedit entry.2)).trans ih

theorem setExchanges_sameTargets {components : List Address} {names : List String}
    (h : m.setExchanges w env components names = .ok m') : m.SameTargets m' := by
  simp only [setExchanges, Outcome.bind_eq_ok] at h
  obtain ⟨_, -, _, -, hloop⟩ := h
  apply Outcome.foldlM_invariant (P := m.SameTargets) ?_ hloop (.refl m)
  intro v entry v' hstep hv
  unfold setExchange at hstep
  split_ifs at hstep
  · exact Outcome.pure_eq_ok.mp hstep ▸ hv
  · simp only [Outcome.bind_eq_ok, Outcome.pure_eq_ok] at hstep
    obtain ⟨_, -, rfl⟩ := hstep
    exact hv.trans (editExecutionInfo_sameTargets _ fun _ ↦ rfl)

theorem setTraderStatus_sameTargets {traders : List Address} {statuses : List Bool}
    (h : m.setTraderStatus w env traders statuses = .ok m') : m.SameTargets m' := by
  simp only [setTraderStatus, Outcome.bind_eq_ok] at h
  obtain ⟨_, -, _, -, hloop⟩ := h
  apply Outcome.foldlM_invariant (P := m.SameTargets) ?_ hloop (.refl m)
  intro v entry v' hstep hv
  simp only [setTrader, Outcome.bind_eq_ok, Outcome.pure_eq_ok] at hstep
  obtain ⟨history, -, rfl⟩ := hstep
  exact hv.trans ⟨fun _ ↦ rfl, rfl⟩

theorem updatePositionStateAndTimestamp_sameTargets {info : TradeInfo}
    {result : GeneralIndexModule × World × ℕ × ℕ}
    (h : m.updatePositionStateAndTimestamp w env info component = .ok result) :
    m.SameTargets result.1 := by
  rw [updatePositionStateAndTimestamp_module h]
  exact editExecutionInfo_sameTargets
    (fun info ↦ { info with lastTradeTimestamp := env.timestamp }) fun _ ↦ rfl

theorem trade_sameTargets (h : m.trade w env component limit = .ok (m', w')) :
    m.SameTargets m' := by
  simp only [trade, Outcome.bind_eq_ok, Prod.exists, Outcome.pure_eq_ok, Prod.mk.injEq] at h
  obtain ⟨_, -, _, -, _, -, _, -, _, -, _, _, -, _, _, _, _, hupdate, rfl, -⟩ := h
  exact updatePositionStateAndTimestamp_sameTargets hupdate

theorem tradeRemainingWETH_sameTargets
    (h : m.tradeRemainingWETH w env component limit = .ok (m', w')) : m.SameTargets m' := by
  simp only [tradeRemainingWETH, Outcome.bind_eq_ok, Prod.exists, Outcome.pure_eq_ok,
    Prod.mk.injEq] at h
  obtain ⟨_, -, _, -, _, -, _, -, _, -, _, -, _, -, _, -, _, -, _, _, -, _, _, _, _, hupdate, _, -,
    _, -, _, -, rfl, -⟩ := h
  exact updatePositionStateAndTimestamp_sameTargets hupdate

theorem raiseAssetTargets_sameTargets (h : m.raiseAssetTargets w env = .ok m') :
    m.SameTargets m' := by
  simp only [raiseAssetTargets, Outcome.bind_eq_ok, Outcome.pure_eq_ok] at h
  obtain ⟨_, -, _, -, _, -, _, -, _, -, _, -, _, -, _, -, rfl⟩ := h
  exact ⟨fun _ ↦ rfl, rfl⟩

/-- A rebalance lists the components of the Set and the new ones once each, and writes their targets
and no others. -/
theorem startRebalance_ok {newComponents : List Address} {newUnits oldUnits : List ℕ}
    {multiplier : ℕ}
    (h : m.startRebalance w env newComponents newUnits oldUnits multiplier = .ok m') :
    (w.setToken.components ++ newComponents).Nodup ∧
      ((w.setToken.components ++ newComponents).zip (oldUnits ++ newUnits)).map Prod.fst =
        w.setToken.components ++ newComponents ∧
      m'.targetsRead = m.weth :: (w.setToken.components ++ newComponents) ∧
      (∀ entry ∈ (w.setToken.components ++ newComponents).zip (oldUnits ++ newUnits),
        (m'.executionInfo entry.1).targetUnit = entry.2) ∧
      ∀ c, c ∉ w.setToken.components ++ newComponents →
        (m'.executionInfo c).targetUnit = (m.executionInfo c).targetUnit := by
  simp only [startRebalance, getAggregateComponentsAndUnits, AddressArrayUtils.extend,
    Outcome.bind_eq_ok, Outcome.require_eq_ok, Outcome.pure_eq_ok, Prod.exists,
    Prod.mk.injEq] at h
  obtain ⟨_, -, _, _, ⟨_, hnew, _, hold, _, hduplicate, _, rfl, rfl, rfl⟩, started, hloop, rfl⟩ := h
  have hnodup := (AddressArrayUtils.hasDuplicate_eq_ok_false.mp hduplicate).2
  have hkeys : ((w.setToken.components ++ newComponents).zip (oldUnits ++ newUnits)).map Prod.fst =
      w.setToken.components ++ newComponents := by
    apply List.map_fst_zip
    rw [List.length_append, List.length_append, hold, hnew]
  have hstep : ∀ v v' : GeneralIndexModule,
      ∀ entry ∈ (w.setToken.components ++ newComponents).zip (oldUnits ++ newUnits),
        startTarget w v entry = .ok v' → v.weth = m.weth →
        v'.weth = m.weth ∧ (v'.executionInfo entry.1).targetUnit = entry.2 ∧
          ∀ k, k ≠ entry.1 →
            (v'.executionInfo k).targetUnit = (v.executionInfo k).targetUnit := by
    intro v v' entry _ hv hweth
    simp only [startTarget, Outcome.bind_eq_ok, Outcome.pure_eq_ok] at hv
    obtain ⟨_, -, rfl⟩ := hv
    refine ⟨hweth, ?_, fun k hk ↦ ?_⟩
    · simp [setTargetUnit, editExecutionInfo]
    · simp [setTargetUnit, editExecutionInfo, hk]
  obtain ⟨hweth, hset, hrest⟩ := Outcome.foldlM_pointwise
    (fun (v : GeneralIndexModule) c ↦ (v.executionInfo c).targetUnit) (fun v ↦ v.weth = m.weth)
    (fun _ unit after ↦ after = unit) hstep (hkeys.symm ▸ hnodup) hloop rfl
  refine ⟨hnodup, hkeys, ?_, hset, fun c hc ↦ hrest c (hkeys.symm ▸ hc)⟩
  exact congrArg (· :: _) hweth

/-! ## Histories -/

/-- What a call of `startRebalance` says about targets. -/
structure TargetCall where
  components : List Address
  targetUnits : List ℕ
deriving DecidableEq

/-- The target that is given for a component, and zero where none is. -/
def TargetCall.target (call : TargetCall) (component : Address) : ℕ :=
  ((call.components.zip call.targetUnits).lookup component).getD 0

theorem TargetCall.target_of_mem {call : TargetCall} {entry : Address × ℕ}
    (hnodup : call.components.Nodup) (h : entry ∈ call.components.zip call.targetUnits) :
    call.target entry.1 = entry.2 := by
  obtain ⟨components, units⟩ := call
  unfold target
  dsimp only at hnodup h ⊢
  induction components generalizing units with
  | nil => cases h
  | cons component rest ih =>
    cases units with
    | nil => cases h
    | cons unit units =>
      rw [List.nodup_cons] at hnodup
      rw [List.zip_cons_cons] at h ⊢
      rcases List.mem_cons.mp h with rfl | htail
      · simp
      · have hne : entry.1 ≠ component := by
          rintro rfl
          exact hnodup.1 (List.of_mem_zip htail).1
        rw [List.lookup_cons, beq_false_of_ne hne]
        exact ih units hnodup.2 htail

theorem TargetCall.target_of_notMem {call : TargetCall} (h : component ∉ call.components) :
    call.target component = 0 := by
  have hlookup : (call.components.zip call.targetUnits).lookup component = none := by
    rw [List.lookup_eq_none_iff]
    intro entry hentry
    have hne : component ≠ entry.1 := fun heq ↦ h (heq ▸ (List.of_mem_zip hentry).1)
    simpa using hne
  rw [TargetCall.target, hlookup, Option.getD_none]

end GeneralIndexModule

open GeneralIndexModule

/-- The module and the Set, with the call that started the rebalance that is going on. -/
structure RebalanceState where
  module : GeneralIndexModule
  world : World
  call : Option TargetCall

namespace RebalanceState

inductive Action where
  | initializeSetToken (env : Env)
  | startRebalance (env : Env) (newComponents : List Address)
      (newComponentsTargetUnits oldComponentsTargetUnits : List ℕ) (positionMultiplier : ℕ)
  | trade (env : Env) (component : Address) (ethQuantityLimit : ℕ)
  | tradeRemainingWETH (env : Env) (component : Address) (minComponentReceived : ℕ)
  | raiseAssetTargets (env : Env)
  | setTradeMaximums (env : Env) (components : List Address) (tradeMaximums : List ℕ)
  | setExchanges (env : Env) (components : List Address) (exchangeNames : List String)
  | setCoolOffPeriods (env : Env) (components : List Address) (coolOffPeriods : List ℕ)
  | setExchangeData (env : Env) (components : List Address) (exchangeData : List (List UInt8))
  | setRaiseTargetPercentage (env : Env) (raiseTargetPercentage : ℕ)
  | setTraderStatus (env : Env) (traders : List Address) (statuses : List Bool)
  | setAnyoneTrade (env : Env) (status : Bool)
  | removeModule
  /-- Whatever happens to the Set outside the module. -/
  | elsewhere (world : World)

/-- Go on with another state of the module. -/
def withModule (s : RebalanceState) (m : GeneralIndexModule) : RebalanceState :=
  { s with module := m }

def perform (s : RebalanceState) : Action → Outcome RebalanceState
  | .initializeSetToken env => do
    let (m, w) ← s.module.initializeSetToken s.world env
    pure ⟨m, w, none⟩
  | .startRebalance env newComponents newUnits oldUnits multiplier => do
    let m ← s.module.startRebalance s.world env newComponents newUnits oldUnits multiplier
    pure ⟨m, s.world, some ⟨s.world.setToken.components ++ newComponents, oldUnits ++ newUnits⟩⟩
  | .trade env component limit => do
    let (m, w) ← s.module.trade s.world env component limit
    pure ⟨m, w, s.call⟩
  | .tradeRemainingWETH env component minimum => do
    let (m, w) ← s.module.tradeRemainingWETH s.world env component minimum
    pure ⟨m, w, s.call⟩
  | .raiseAssetTargets env => s.withModule <$> s.module.raiseAssetTargets s.world env
  | .setTradeMaximums env components maximums =>
    s.withModule <$> s.module.setTradeMaximums s.world env components maximums
  | .setExchanges env components names =>
    s.withModule <$> s.module.setExchanges s.world env components names
  | .setCoolOffPeriods env components periods =>
    s.withModule <$> s.module.setCoolOffPeriods s.world env components periods
  | .setExchangeData env components data =>
    s.withModule <$> s.module.setExchangeData s.world env components data
  | .setRaiseTargetPercentage env percentage =>
    s.withModule <$> s.module.setRaiseTargetPercentage s.world env percentage
  | .setTraderStatus env traders statuses =>
    s.withModule <$> s.module.setTraderStatus s.world env traders statuses
  | .setAnyoneTrade env status => s.withModule <$> s.module.setAnyoneTrade s.world env status
  | .removeModule => pure ⟨s.module.removeModule, s.world, none⟩
  | .elsewhere world => pure { s with world := world }

/-- Every target that is read is the one that the call gave. -/
def Settled (s : RebalanceState) : Prop :=
  ∀ call, s.call = some call → ∀ c ∈ s.module.targetsRead, s.module.HasTarget call.target c

/-- A rebalance that is started lists WETH, unless no target is stored for it. -/
def SettlesWETH (s : RebalanceState) : Action → Prop
  | .startRebalance _ newComponents _ _ _ =>
    s.module.weth ∈ s.world.setToken.components ++ newComponents ∨
      (s.module.executionInfo s.module.weth).targetUnit = 0
  | _ => True

variable {s s' : RebalanceState} {action : Action}

/-- In a settled state the module behaves as if it stored no other targets than the call's. -/
theorem Settled.retarget {call : TargetCall} (h : s.Settled) (hcall : s.call = some call)
    (env : Env) (component : Address) (limit : ℕ) :
    (s.module.retarget call.target).trade s.world env component limit =
        (fun r ↦ (r.1.retarget call.target, r.2)) <$>
          s.module.trade s.world env component limit ∧
      (s.module.retarget call.target).tradeRemainingWETH s.world env component limit =
        (fun r ↦ (r.1.retarget call.target, r.2)) <$>
          s.module.tradeRemainingWETH s.world env component limit ∧
      (s.module.retarget call.target).raiseAssetTargets s.world env =
        (fun m ↦ m.retarget call.target) <$> s.module.raiseAssetTargets s.world env :=
  ⟨trade_retarget (h call hcall), tradeRemainingWETH_retarget (h call hcall),
    raiseAssetTargets_retarget (h call hcall)⟩

theorem Settled.of_sameTargets (h : s.Settled) (hcall : s'.call = s.call)
    (hsame : s.module.SameTargets s'.module) : s'.Settled := by
  intro call hcall' c hc
  unfold HasTarget
  rw [hsame.targetUnit c]
  exact h call (hcall ▸ hcall') c (hsame.targetsRead ▸ hc)

theorem Settled.of_withModule {x : Outcome GeneralIndexModule} (h : s.Settled)
    (hsame : ∀ m, x = .ok m → s.module.SameTargets m) (hx : s.withModule <$> x = .ok s') :
    s'.Settled := by
  obtain ⟨m, hm, rfl⟩ := Outcome.map_eq_ok.mp hx
  exact h.of_sameTargets rfl (hsame m hm)

theorem settled_of_call_none (h : s.call = none) : s.Settled := by
  intro call hcall
  rw [h] at hcall
  cases hcall

/-- A rebalance is settled from its start exactly when WETH is. -/
theorem startRebalance_settled_iff {env : Env} {newComponents : List Address}
    {newUnits oldUnits : List ℕ} {multiplier : ℕ}
    (h : s.perform (.startRebalance env newComponents newUnits oldUnits multiplier) = .ok s') :
    s'.Settled ↔
      s.SettlesWETH (.startRebalance env newComponents newUnits oldUnits multiplier) := by
  simp only [perform, Outcome.bind_eq_ok, Outcome.pure_eq_ok] at h
  obtain ⟨m, hm, rfl⟩ := h
  obtain ⟨hnodup, hkeys, hread, hwritten, hother⟩ := startRebalance_ok hm
  generalize hcall : TargetCall.mk (s.world.setToken.components ++ newComponents)
    (oldUnits ++ newUnits) = call
  have hcomponents : call.components = s.world.setToken.components ++ newComponents :=
    hcall ▸ rfl
  rw [← hcomponents] at hnodup hread hother
  have hlisted : ∀ c ∈ call.components, m.HasTarget call.target c := by
    intro c hc
    rw [hcomponents, ← hkeys, List.mem_map] at hc
    obtain ⟨entry, hentry, rfl⟩ := hc
    exact (hwritten entry hentry).trans
      (TargetCall.target_of_mem hnodup (hcall ▸ hentry)).symm
  have hsettled : Settled ⟨m, s.world, some call⟩ ↔ m.HasTarget call.target s.module.weth := by
    constructor
    · intro h
      exact h call rfl _ (hread ▸ List.mem_cons_self)
    · intro hweth call' hcall' c hc
      obtain rfl := Option.some.inj hcall'
      change c ∈ m.targetsRead at hc
      rw [hread] at hc
      rcases List.mem_cons.mp hc with rfl | hc
      · exact hweth
      · exact hlisted c hc
  rw [hsettled, SettlesWETH, ← hcomponents]
  by_cases hweth : s.module.weth ∈ call.components
  · exact iff_of_true (hlisted _ hweth) (Or.inl hweth)
  · rw [HasTarget, hother _ hweth, TargetCall.target_of_notMem hweth, or_iff_right hweth]

theorem perform_settled_iff (h : s.perform action = .ok s') (hs : s.Settled) :
    s'.Settled ↔ s.SettlesWETH action := by
  cases action with
  | startRebalance env newComponents newUnits oldUnits multiplier =>
    exact startRebalance_settled_iff h
  | initializeSetToken env =>
    simp only [perform, Outcome.bind_eq_ok, Outcome.pure_eq_ok, Prod.exists] at h
    obtain ⟨_, _, -, rfl⟩ := h
    exact iff_of_true (settled_of_call_none rfl) trivial
  | trade env component limit =>
    simp only [perform, Outcome.bind_eq_ok, Outcome.pure_eq_ok, Prod.exists] at h
    obtain ⟨_, _, htrade, rfl⟩ := h
    exact iff_of_true (hs.of_sameTargets rfl (trade_sameTargets htrade)) trivial
  | tradeRemainingWETH env component minimum =>
    simp only [perform, Outcome.bind_eq_ok, Outcome.pure_eq_ok, Prod.exists] at h
    obtain ⟨_, _, htrade, rfl⟩ := h
    exact iff_of_true (hs.of_sameTargets rfl (tradeRemainingWETH_sameTargets htrade)) trivial
  | raiseAssetTargets env =>
    exact iff_of_true (hs.of_withModule (fun _ ↦ raiseAssetTargets_sameTargets) h) trivial
  | setTradeMaximums env components maximums =>
    refine iff_of_true (hs.of_withModule (fun m hm ↦ ?_) h) trivial
    exact setParameters_sameTargets (by intros; rfl) hm
  | setExchanges env components names =>
    exact iff_of_true (hs.of_withModule (fun _ ↦ setExchanges_sameTargets) h) trivial
  | setCoolOffPeriods env components periods =>
    refine iff_of_true (hs.of_withModule (fun m hm ↦ ?_) h) trivial
    exact setParameters_sameTargets (by intros; rfl) hm
  | setExchangeData env components data =>
    refine iff_of_true (hs.of_withModule (fun m hm ↦ ?_) h) trivial
    exact setParameters_sameTargets (by intros; rfl) hm
  | setRaiseTargetPercentage env percentage =>
    refine iff_of_true (hs.of_withModule (fun m hm ↦ ?_) h) trivial
    simp only [setRaiseTargetPercentage, Outcome.bind_eq_ok, Outcome.pure_eq_ok] at hm
    obtain ⟨_, -, _, -, rfl⟩ := hm
    exact ⟨fun _ ↦ rfl, rfl⟩
  | setTraderStatus env traders statuses =>
    exact iff_of_true (hs.of_withModule (fun _ ↦ setTraderStatus_sameTargets) h) trivial
  | setAnyoneTrade env status =>
    refine iff_of_true (hs.of_withModule (fun m hm ↦ ?_) h) trivial
    simp only [setAnyoneTrade, Outcome.bind_eq_ok, Outcome.pure_eq_ok] at hm
    obtain ⟨_, -, rfl⟩ := hm
    exact ⟨fun _ ↦ rfl, rfl⟩
  | removeModule =>
    obtain rfl := Outcome.pure_eq_ok.mp h
    exact iff_of_true (settled_of_call_none rfl) trivial
  | elsewhere world =>
    obtain rfl := Outcome.pure_eq_ok.mp h
    exact iff_of_true (hs.of_sameTargets rfl (.refl _)) trivial

/-- Over a whole history, rebalances read their own targets only exactly when each of them is started
with WETH among its components or without a stored target for WETH. -/
theorem settled_of_run_iff {m : GeneralIndexModule} {w : World}
    {trace : List (RebalanceState × Action)} (h : Trace perform ⟨m, w, none⟩ trace s') :
    ((∀ entry ∈ trace, entry.1.Settled) ∧ s'.Settled) ↔
      ∀ entry ∈ trace, entry.1.SettlesWETH entry.2 :=
  h.forall_iff (fun _ hs ↦ hs) (fun _ _ _ hstep hs ↦ perform_settled_iff hstep hs)
    (fun _ _ _ hstep hs hQ ↦ (perform_settled_iff hstep hs).mpr hQ) (settled_of_call_none rfl)

namespace Sample

def module : GeneralIndexModule where
  address := 20
  weth := 9
  executionInfo := fun _ ↦ ⟨0, 1000, 0, 0, "", []⟩
  permissionInfo := ⟨true, [], fun _ ↦ false⟩
  rebalanceInfo := ⟨0, 0, []⟩

/-- A Set with 100 units of component 8 and, as long as it is a component, 50 of WETH. -/
def world (components : List Address) : World where
  controller := { Controller.enabling 4 [20] with isSet := fun a ↦ a == 6 }
  setToken := SetToken.launched 6 components [100, 50] [20] 2 2 (10 ^ 18)
  chain := { tokens := fun _ ↦ ERC20.holding 18 [(6, 100)] 0 }
  log := []

def start : RebalanceState := ⟨module, world [8, 9], none⟩

/-- A rebalance that keeps 50 units of WETH. -/
def keepWETH : Action :=
  .startRebalance (Env.plain 2 0) [] [] [100, 50] (10 ^ 18)

def first : RebalanceState := (start.perform keepWETH).getD start

/-- The WETH was spent through another module. -/
def second : RebalanceState := { first with world := world [8] }

/-- The next rebalance, which may list WETH as a new component. -/
def keepLess (newComponents : List Address) (newUnits : List ℕ) : Action :=
  .startRebalance (Env.plain 2 0) newComponents newUnits [60] (10 ^ 18)

def third (newComponents : List Address) (newUnits : List ℕ) : RebalanceState :=
  (second.perform (keepLess newComponents newUnits)).getD start

theorem trace_third {newComponents : List Address} {newUnits : List ℕ}
    (h : (second.perform (keepLess newComponents newUnits)).isOk = true) :
    Trace perform start [(start, keepWETH), (first, .elsewhere (world [8])),
      (second, keepLess newComponents newUnits)] (third newComponents newUnits) :=
  .cons (Outcome.eq_ok_getD start (by decide +kernel))
    (.cons rfl (.cons (Outcome.eq_ok_getD start h) (.nil _)))

/-- The second call does not list WETH, and the target that is read for it is the first call's. -/
theorem third_not_settled :
    Trace perform start [(start, keepWETH), (first, .elsewhere (world [8])),
        (second, keepLess [] [])] (third [] []) ∧
      (third [] []).call = some ⟨[8], [60]⟩ ∧
      ((third [] []).module.executionInfo 9).targetUnit = 50 ∧ ¬ (third [] []).Settled := by
  have hcall : (third [] []).call = some ⟨[8], [60]⟩ := by
    decide +kernel
  refine ⟨trace_third (by decide +kernel), hcall, by decide +kernel, fun hsettled ↦ ?_⟩
  have htarget := hsettled _ hcall 9 List.mem_cons_self
  exact absurd htarget (by decide +kernel)

theorem third_settled : (third [9] [30]).Settled := by
  have hfirst : start.SettlesWETH keepWETH := Or.inl (by decide +kernel)
  have hsecond : second.SettlesWETH (keepLess [9] [30]) := Or.inl (by decide +kernel)
  have hrun : Trace perform start [(start, keepWETH), (first, .elsewhere (world [8])),
      (second, keepLess [9] [30])] (third [9] [30]) := trace_third (by decide +kernel)
  apply ((settled_of_run_iff hrun).mpr ?_).2
  simp only [List.forall_mem_cons, List.not_mem_nil, false_imp_iff, implies_true, and_true]
  exact ⟨hfirst, trivial, hsecond⟩

end Sample

end RebalanceState

end SetProtocol
