import SetProtocol.Core.Swap

/-!
# Rebalancing toward target units

`GeneralIndexModule` moves each component of a Set toward a target unit by trades against WETH.
The size and direction of a trade follow from the current and the target unit; targets are scaled
by the change of the position multiplier since the rebalance started.
-/

namespace SetProtocol

open PreciseUnitMath ModuleBase

structure TradeExecutionParams where
  targetUnit : ℕ
  maxSize : ℕ
  coolOffPeriod : ℕ
  lastTradeTimestamp : ℕ
  exchangeName : String
  exchangeData : List UInt8

structure TradePermissionInfo where
  anyoneTrade : Bool
  tradersHistory : List Address
  tradeAllowList : Address → Bool

structure RebalanceInfo where
  /-- Position multiplier at the beginning of the rebalance. -/
  positionMultiplier : ℕ
  raiseTargetPercentage : ℕ
  rebalanceComponents : List Address

structure GeneralIndexModule where
  address : Address
  weth : Address
  executionInfo : Address → TradeExecutionParams
  permissionInfo : TradePermissionInfo
  rebalanceInfo : RebalanceInfo

namespace GeneralIndexModule

/-- Index of the fee that is charged by trades. -/
def protocolFeeIndex : ℕ := 0

structure TradeInfo where
  exchangeAdapter : Address
  sendToken : Address
  receiveToken : Address
  isSendTokenFixed : Bool
  setTotalSupply : ℕ
  totalFixedQuantity : ℕ
  sendQuantity : ℕ
  floatingQuantityLimit : ℕ
  preTradeSendTokenBalance : ℕ
  preTradeReceiveTokenBalance : ℕ
  exchangeData : List UInt8

/-! ## Units and targets -/

def getDefaultPositionRealUnit (w : World) (component : Address) : Outcome ℕ := do
  let unit ← w.setToken.getDefaultPositionRealUnit component
  SafeCast.toUint256 unit

def getNormalizedTargetUnit (m : GeneralIndexModule) (w : World) (component : Address) :
    Outcome ℕ := do
  let multiplier ← SafeCast.toUint256 w.setToken.positionMultiplier
  let scaled ← SafeMath.mul (m.executionInfo component).targetUnit multiplier
  SafeMath.div scaled m.rebalanceInfo.positionMultiplier

/-- Current unit, target unit, current notional and target notional of a component. -/
def getUnitsAndNotionalAmounts (m : GeneralIndexModule) (w : World) (component : Address)
    (totalSupply : ℕ) : Outcome (ℕ × ℕ × ℕ × ℕ) := do
  let currentUnit ← getDefaultPositionRealUnit w component
  let targetUnit ← m.getNormalizedTargetUnit w component
  let currentNotional ← Position.getDefaultTotalNotional totalSupply currentUnit
  let targetNotional ← preciseMulCeil totalSupply targetUnit
  pure (currentUnit, targetUnit, currentNotional, targetNotional)

/-- The amount that the fixed side of a trade moves.  Bought quantities are raised by the protocol
fee so that the target can be met. -/
def totalFixedQuantity (isSendTokenFixed : Bool)
    (componentMaxSize currentNotional targetNotional protocolFee : ℕ) : Outcome ℕ :=
  if isSendTokenFixed then do
    let difference ← SafeMath.sub currentNotional targetNotional
    pure (min componentMaxSize difference)
  else do
    let difference ← SafeMath.sub targetNotional currentNotional
    let share ← SafeMath.sub preciseUnit protocolFee
    let raised ← preciseDiv difference share
    pure (min componentMaxSize raised)

def calculateTradeSizeAndDirection (m : GeneralIndexModule) (w : World) (component : Address)
    (totalSupply : ℕ) : Outcome (Bool × ℕ) := do
  let protocolFee := w.controller.getModuleFee m.address protocolFeeIndex
  let componentMaxSize := (m.executionInfo component).maxSize
  let (currentUnit, targetUnit, currentNotional, targetNotional) ←
    m.getUnitsAndNotionalAmounts w component totalSupply
  require (currentUnit ≠ targetUnit) "Target already met"
  let isSendTokenFixed := decide (targetNotional < currentNotional)
  let quantity ← totalFixedQuantity isSendTokenFixed componentMaxSize currentNotional
    targetNotional protocolFee
  pure (isSendTokenFixed, quantity)

/-! ## Checks -/

def isAllowedTrader (m : GeneralIndexModule) (trader : Address) : Bool :=
  m.permissionInfo.anyoneTrade || m.permissionInfo.tradeAllowList trader

def validateOnlyAllowedTrader (m : GeneralIndexModule) (env : Env) : Outcome Unit :=
  require (m.isAllowedTrader env.sender = true) "Address not permitted to trade"

def validateOnlyEOAIfUnrestricted (m : GeneralIndexModule) (env : Env) : Outcome Unit :=
  if m.permissionInfo.anyoneTrade then
    require (env.sender = env.origin) "Caller must be EOA Address"
  else
    pure ()

def validateTradeParameters (m : GeneralIndexModule) (w : World) (env : Env)
    (component : Address) : Outcome Unit := do
  require (component ≠ m.weth) "Can not explicitly trade WETH"
  require (AddressArrayUtils.contains m.rebalanceInfo.rebalanceComponents component = true)
    "Component not part of rebalance"
  let info := m.executionInfo component
  let ready ← SafeMath.add info.lastTradeTimestamp info.coolOffPeriod
  require (ready ≤ env.timestamp) "Component cool off in progress"
  require (Position.hasExternalPosition w.setToken component = false)
    "External positions not allowed"

/-- WETH is never sold on its own, and its units are not read. -/
def canSell (m : GeneralIndexModule) (w : World) (component : Address) : Outcome Bool :=
  if component = m.weth then
    pure false
  else do
    let targetUnit ← m.getNormalizedTargetUnit w component
    let currentUnit ← getDefaultPositionRealUnit w component
    pure (decide (targetUnit < currentUnit))

/-- The loop of `_noTokensToSell`, which stops at the first component that can be sold. -/
def noTokensToSellLoop (m : GeneralIndexModule) (w : World) : List Address → Outcome Bool
  | [] => pure true
  | component :: rest => do
    let sellable ← m.canSell w component
    if sellable then pure false else m.noTokensToSellLoop w rest

def noTokensToSell (m : GeneralIndexModule) (w : World) : Outcome Bool :=
  m.noTokensToSellLoop w m.rebalanceInfo.rebalanceComponents

/-- A target of zero has to be met exactly, other targets up to one unit.  WETH floats around its
target. -/
def targetUnmet (m : GeneralIndexModule) (w : World) (component : Address) : Outcome Bool :=
  if component = m.weth then
    pure false
  else do
    let normalizedTargetUnit ← m.getNormalizedTargetUnit w component
    let currentUnit ← getDefaultPositionRealUnit w component
    if 0 < normalizedTargetUnit then do
      let close ← approximatelyEquals normalizedTargetUnit currentUnit 1
      pure (!close)
    else
      pure (decide (normalizedTargetUnit ≠ currentUnit))

/-- The loop of `_allTargetsMet`, which stops at the first component whose target is not met. -/
def allTargetsMetLoop (m : GeneralIndexModule) (w : World) : List Address → Outcome Bool
  | [] => pure true
  | component :: rest => do
    let unmet ← m.targetUnmet w component
    if unmet then pure false else m.allTargetsMetLoop w rest

def allTargetsMet (m : GeneralIndexModule) (w : World) : Outcome Bool :=
  m.allTargetsMetLoop w m.rebalanceInfo.rebalanceComponents

def validateComponentPositionUnit (m : GeneralIndexModule) (w : World) (component : Address) :
    Outcome Unit := do
  let currentUnit ← getDefaultPositionRealUnit w component
  let targetUnit ← m.getNormalizedTargetUnit w component
  require (currentUnit ≤ targetUnit) "Can not exceed target unit"

/-! ## Trades -/

/-- Direction and fixed quantity, when they are asked for. -/
def tradeDirection (m : GeneralIndexModule) (w : World) (component : Address)
    (calculateTradeDirection : Bool) : Outcome (Bool × ℕ) :=
  if calculateTradeDirection then
    m.calculateTradeSizeAndDirection w component w.setToken.totalSupply
  else
    pure (false, 0)

def getDefaultTradeInfo (m : GeneralIndexModule) (w : World) (env : Env) (component : Address)
    (calculateTradeDirection : Bool) : Outcome TradeInfo := do
  let exchangeAdapter ←
    getAndValidateAdapter env m.address (m.executionInfo component).exchangeName
  let direction ← m.tradeDirection w component calculateTradeDirection
  let sendToken := if direction.1 then component else m.weth
  let receiveToken := if direction.1 then m.weth else component
  pure {
    exchangeAdapter := exchangeAdapter
    sendToken := sendToken
    receiveToken := receiveToken
    isSendTokenFixed := direction.1
    setTotalSupply := w.setToken.totalSupply
    totalFixedQuantity := direction.2
    sendQuantity := 0
    floatingQuantityLimit := 0
    preTradeSendTokenBalance := w.balance sendToken
    preTradeReceiveTokenBalance := w.balance receiveToken
    exchangeData := (m.executionInfo component).exchangeData }

def createTradeInfo (m : GeneralIndexModule) (w : World) (env : Env) (component : Address)
    (ethQuantityLimit : ℕ) : Outcome TradeInfo := do
  let info ← m.getDefaultTradeInfo w env component true
  if info.isSendTokenFixed then
    pure { info with
      sendQuantity := info.totalFixedQuantity, floatingQuantityLimit := ethQuantityLimit }
  else
    pure { info with
      sendQuantity := min ethQuantityLimit info.preTradeSendTokenBalance
      floatingQuantityLimit := info.totalFixedQuantity }

def createTradeRemainingInfo (m : GeneralIndexModule) (w : World) (env : Env)
    (component : Address) (minComponentReceived : ℕ) : Outcome TradeInfo := do
  let info ← m.getDefaultTradeInfo w env component false
  let (_, _, currentNotional, targetNotional) ←
    m.getUnitsAndNotionalAmounts w m.weth info.setTotalSupply
  let sendQuantity ← SafeMath.sub currentNotional targetNotional
  pure { info with
    sendQuantity := sendQuantity
    floatingQuantityLimit := minComponentReceived
    isSendTokenFixed := true }

def executeTrade (m : GeneralIndexModule) (w : World) (env : Env) (info : TradeInfo) :
    Outcome World := do
  let adapter := env.indexExchangeAdapter info.exchangeAdapter
  let w ← w.invokeApprove env m.address info.sendToken adapter.getSpender info.sendQuantity
  let (targetExchange, callValue, methodData) ← adapter.getTradeCalldata info.sendToken
    info.receiveToken w.setToken.address info.isSendTokenFixed info.sendQuantity
    info.floatingQuantityLimit info.exchangeData
  w.invoke env m.address ⟨targetExchange, callValue, .raw methodData⟩

def accrueProtocolFee (m : GeneralIndexModule) (w : World) (env : Env) (info : TradeInfo) :
    Outcome (World × ℕ) := do
  let exchangedQuantity ←
    SafeMath.sub (w.balance info.receiveToken) info.preTradeReceiveTokenBalance
  let protocolFee ← getModuleFee w m.address protocolFeeIndex exchangedQuantity
  let w ← payProtocolFeeFromSetToken w env m.address info.receiveToken protocolFee
  pure (w, protocolFee)

/-- Overwrite the time of the last trade of a component. -/
def setLastTradeTimestamp (m : GeneralIndexModule) (component : Address) (timestamp : ℕ) :
    GeneralIndexModule :=
  let info := { m.executionInfo component with lastTradeTimestamp := timestamp }
  { m with executionInfo := Function.update m.executionInfo component info }

/-- Returns the new states and the amounts sent and received net of the fee. -/
def updatePositionStateAndTimestamp (m : GeneralIndexModule) (w : World) (env : Env)
    (info : TradeInfo) (component : Address) :
    Outcome (GeneralIndexModule × World × ℕ × ℕ) := do
  let (w, postTradeSendTokenBalance, _) ← calculateAndEditDefaultPosition w m.address
    info.sendToken info.setTotalSupply info.preTradeSendTokenBalance
  let (w, postTradeReceiveTokenBalance, _) ← calculateAndEditDefaultPosition w m.address
    info.receiveToken info.setTotalSupply info.preTradeReceiveTokenBalance
  let netSendAmount ← SafeMath.sub info.preTradeSendTokenBalance postTradeSendTokenBalance
  let netReceiveAmount ← SafeMath.sub postTradeReceiveTokenBalance info.preTradeReceiveTokenBalance
  pure (m.setLastTradeTimestamp component env.timestamp, w, netSendAmount, netReceiveAmount)

def trade (m : GeneralIndexModule) (w : World) (env : Env) (component : Address)
    (ethQuantityLimit : ℕ) : Outcome (GeneralIndexModule × World) := do
  m.validateOnlyAllowedTrader env
  m.validateOnlyEOAIfUnrestricted env
  m.validateTradeParameters w env component
  let info ← m.createTradeInfo w env component ethQuantityLimit
  let w ← m.executeTrade w env info
  let (w, _) ← m.accrueProtocolFee w env info
  let (m, w, _) ← m.updatePositionStateAndTimestamp w env info component
  pure (m, w)

def tradeRemainingWETH (m : GeneralIndexModule) (w : World) (env : Env) (component : Address)
    (minComponentReceived : ℕ) : Outcome (GeneralIndexModule × World) := do
  m.validateOnlyAllowedTrader env
  m.validateOnlyEOAIfUnrestricted env
  let nothingToSell ← m.noTokensToSell w
  require (nothingToSell = true) "Sell other set components first"
  let wethUnit ← getDefaultPositionRealUnit w m.weth
  require ((m.executionInfo m.weth).targetUnit < wethUnit) "WETH is below target unit"
  m.validateTradeParameters w env component
  let info ← m.createTradeRemainingInfo w env component minComponentReceived
  let w ← m.executeTrade w env info
  let (w, protocolFee) ← m.accrueProtocolFee w env info
  let (m, w, _, netReceiveAmount) ← m.updatePositionStateAndTimestamp w env info component
  let received ← SafeMath.add netReceiveAmount protocolFee
  require (received < (m.executionInfo component).maxSize) "Trade amount > max trade size"
  m.validateComponentPositionUnit w component
  pure (m, w)

/-- The targets are raised by lowering the multiplier that they are normalized with. -/
def raiseAssetTargets (m : GeneralIndexModule) (w : World) (env : Env) :
    Outcome GeneralIndexModule := do
  m.validateOnlyAllowedTrader env
  let met ← m.allTargetsMet w
  require (met = true) "Targets not met or ETH =~ 0"
  let wethUnit ← getDefaultPositionRealUnit w m.weth
  let wethTarget ← m.getNormalizedTargetUnit w m.weth
  require (wethTarget < wethUnit) "Targets not met or ETH =~ 0"
  let raise ← SafeMath.add preciseUnit m.rebalanceInfo.raiseTargetPercentage
  let multiplier ← preciseDiv m.rebalanceInfo.positionMultiplier raise
  pure { m with rebalanceInfo := { m.rebalanceInfo with positionMultiplier := multiplier } }

/-! ## Functions of the manager -/

/-- Edit the execution parameters of a component. -/
def editExecutionInfo (m : GeneralIndexModule) (component : Address)
    (edit : TradeExecutionParams → TradeExecutionParams) : GeneralIndexModule :=
  { m with
    executionInfo := Function.update m.executionInfo component (edit (m.executionInfo component)) }

/-- Overwrite the target unit of a component. -/
def setTargetUnit (m : GeneralIndexModule) (component : Address) (unit : ℕ) : GeneralIndexModule :=
  m.editExecutionInfo component fun info ↦ { info with targetUnit := unit }

def getAggregateComponentsAndUnits (currentComponents newComponents : List Address)
    (newComponentsTargetUnits oldComponentsTargetUnits : List ℕ) :
    Outcome (List Address × List ℕ) := do
  require (newComponents.length = newComponentsTargetUnits.length) "Array length mismatch"
  require (currentComponents.length = oldComponentsTargetUnits.length)
    "Old Components targets missing"
  let aggregateComponents := AddressArrayUtils.extend currentComponents newComponents
  let aggregateTargetUnits := oldComponentsTargetUnits ++ newComponentsTargetUnits
  let duplicate ← AddressArrayUtils.hasDuplicate aggregateComponents
  require (duplicate = false) "Cannot duplicate components"
  pure (aggregateComponents, aggregateTargetUnits)

/-- The loop of `startRebalance`. -/
def startTarget (w : World) (m : GeneralIndexModule) (entry : Address × ℕ) :
    Outcome GeneralIndexModule := do
  require (Position.hasExternalPosition w.setToken entry.1 = false) "External positions not allowed"
  pure (m.setTargetUnit entry.1 entry.2)

def startRebalance (m : GeneralIndexModule) (w : World) (env : Env) (newComponents : List Address)
    (newComponentsTargetUnits oldComponentsTargetUnits : List ℕ) (positionMultiplier : ℕ) :
    Outcome GeneralIndexModule := do
  validateOnlyManagerAndValidSet w m.address env.sender
  let (aggregateComponents, aggregateTargetUnits) ← getAggregateComponentsAndUnits
    w.setToken.components newComponents newComponentsTargetUnits oldComponentsTargetUnits
  let m ← (aggregateComponents.zip aggregateTargetUnits).foldlM (startTarget w) m
  pure { m with
    rebalanceInfo := { m.rebalanceInfo with
      rebalanceComponents := aggregateComponents, positionMultiplier := positionMultiplier } }

/-- What the functions share that set one parameter of each listed component. -/
def setParameters {β : Type} (edit : β → TradeExecutionParams → TradeExecutionParams)
    (m : GeneralIndexModule) (w : World) (env : Env) (components : List Address)
    (values : List β) : Outcome GeneralIndexModule := do
  validateOnlyManagerAndValidSet w m.address env.sender
  AddressArrayUtils.validatePairsWithArray components values
  pure ((components.zip values).foldl
    (fun m entry ↦ m.editExecutionInfo entry.1 (edit entry.2)) m)

def setTradeMaximums : GeneralIndexModule → World → Env → List Address → List ℕ →
    Outcome GeneralIndexModule :=
  setParameters fun maximum info ↦ { info with maxSize := maximum }

def setCoolOffPeriods : GeneralIndexModule → World → Env → List Address → List ℕ →
    Outcome GeneralIndexModule :=
  setParameters fun period info ↦ { info with coolOffPeriod := period }

def setExchangeData : GeneralIndexModule → World → Env → List Address → List (List UInt8) →
    Outcome GeneralIndexModule :=
  setParameters fun data info ↦ { info with exchangeData := data }

/-- The loop of `setExchanges`: WETH is passed over. -/
def setExchange (env : Env) (m : GeneralIndexModule) (entry : Address × String) :
    Outcome GeneralIndexModule :=
  if entry.1 = m.weth then
    pure m
  else do
    require (env.integrationAdapter m.address entry.2 ≠ 0) "Unrecognized exchange name"
    pure (m.editExecutionInfo entry.1 fun info ↦ { info with exchangeName := entry.2 })

def setExchanges (m : GeneralIndexModule) (w : World) (env : Env) (components : List Address)
    (exchangeNames : List String) : Outcome GeneralIndexModule := do
  validateOnlyManagerAndValidSet w m.address env.sender
  AddressArrayUtils.validatePairsWithArray components exchangeNames
  (components.zip exchangeNames).foldlM (setExchange env) m

def setRaiseTargetPercentage (m : GeneralIndexModule) (w : World) (env : Env)
    (raiseTargetPercentage : ℕ) : Outcome GeneralIndexModule := do
  validateOnlyManagerAndValidSet w m.address env.sender
  require (0 < raiseTargetPercentage) "Target percentage must be > 0"
  pure { m with
    rebalanceInfo := { m.rebalanceInfo with raiseTargetPercentage := raiseTargetPercentage } }

def updateTradersHistory (history : List Address) (trader : Address) (status : Bool) :
    Outcome (List Address) :=
  if status = true ∧ AddressArrayUtils.contains history trader = false then
    pure (history ++ [trader])
  else if status = false ∧ AddressArrayUtils.contains history trader = true then
    AddressArrayUtils.removeStorage history trader
  else
    pure history

/-- The loop of `setTraderStatus`. -/
def setTrader (m : GeneralIndexModule) (entry : Address × Bool) : Outcome GeneralIndexModule := do
  let history ← updateTradersHistory m.permissionInfo.tradersHistory entry.1 entry.2
  pure { m with
    permissionInfo := { m.permissionInfo with
      tradersHistory := history
      tradeAllowList := Function.update m.permissionInfo.tradeAllowList entry.1 entry.2 } }

def setTraderStatus (m : GeneralIndexModule) (w : World) (env : Env) (traders : List Address)
    (statuses : List Bool) : Outcome GeneralIndexModule := do
  validateOnlyManagerAndValidSet w m.address env.sender
  AddressArrayUtils.validatePairsWithArray traders statuses
  (traders.zip statuses).foldlM setTrader m

def setAnyoneTrade (m : GeneralIndexModule) (w : World) (env : Env) (status : Bool) :
    Outcome GeneralIndexModule := do
  validateOnlyManagerAndValidSet w m.address env.sender
  pure { m with permissionInfo := { m.permissionInfo with anyoneTrade := status } }

/-- The loop of `initialize`: each unit is its own target. -/
def initializePosition (m : GeneralIndexModule) (position : PositionEntry) :
    Outcome GeneralIndexModule := do
  require (position.positionState = .default) "External positions not allowed"
  let unit ← SafeCast.toUint256 position.unit
  pure (m.editExecutionInfo position.component fun info ↦
    { info with targetUnit := unit, lastTradeTimestamp := 0 })

/-- The source calls this function `initialize`. -/
def initializeSetToken (m : GeneralIndexModule) (w : World) (env : Env) :
    Outcome (GeneralIndexModule × World) := do
  validateOnlySetManager w env.sender
  validateOnlyValidAndPendingSet w m.address
  let positions ← w.setToken.getPositions
  let m ← positions.foldlM initializePosition m
  let multiplier ← SafeCast.toUint256 w.setToken.positionMultiplier
  let w ← w.onSetToken fun s ↦ s.initializeModule m.address
  pure ({ m with
    rebalanceInfo := { m.rebalanceInfo with positionMultiplier := multiplier } }, w)

/-- The execution parameters stay as they are. -/
def removeModule (m : GeneralIndexModule) : GeneralIndexModule :=
  { m with
    permissionInfo :=
      ⟨false, [], m.permissionInfo.tradersHistory.foldl
        (fun allowed trader ↦ Function.update allowed trader false) m.permissionInfo.tradeAllowList⟩
    rebalanceInfo := ⟨0, 0, []⟩ }

/-! ## A rebalancing trade is a swap followed by two edits -/

variable {m m' : GeneralIndexModule} {w w' : World} {env : Env} {info : TradeInfo}
  {component : Address} {limit : ℕ}

/-- Every trade is between the component and WETH. -/
structure TradeInfo.Pairs (info : TradeInfo) (m : GeneralIndexModule) (w : World)
    (component : Address) : Prop where
  supply : info.setTotalSupply = w.setToken.totalSupply
  tokens : info.sendToken = component ∧ info.receiveToken = m.weth ∨
    info.sendToken = m.weth ∧ info.receiveToken = component

theorem getDefaultTradeInfo_pairs {direction : Bool}
    (h : m.getDefaultTradeInfo w env component direction = .ok info) :
    info.Pairs m w component := by
  simp only [getDefaultTradeInfo, Outcome.bind_eq_ok, Outcome.pure_eq_ok] at h
  obtain ⟨_, -, ⟨fixed, quantity⟩, -, rfl⟩ := h
  refine ⟨rfl, ?_⟩
  cases fixed with
  | true => exact Or.inl ⟨rfl, rfl⟩
  | false => exact Or.inr ⟨rfl, rfl⟩

theorem createTradeInfo_pairs (h : m.createTradeInfo w env component limit = .ok info) :
    info.Pairs m w component := by
  simp only [createTradeInfo, Outcome.bind_eq_ok] at h
  obtain ⟨default, hdefault, h⟩ := h
  have hpairs := getDefaultTradeInfo_pairs hdefault
  split_ifs at h
  · obtain rfl := Outcome.pure_eq_ok.mp h
    exact ⟨hpairs.supply, hpairs.tokens⟩
  · obtain rfl := Outcome.pure_eq_ok.mp h
    exact ⟨hpairs.supply, hpairs.tokens⟩

theorem createTradeRemainingInfo_pairs
    (h : m.createTradeRemainingInfo w env component limit = .ok info) :
    info.Pairs m w component := by
  simp only [createTradeRemainingInfo, Outcome.bind_eq_ok, Prod.exists, Outcome.pure_eq_ok] at h
  obtain ⟨default, hdefault, _, _, _, _, -, _, -, rfl⟩ := h
  have hpairs := getDefaultTradeInfo_pairs hdefault
  exact ⟨hpairs.supply, hpairs.tokens⟩

theorem executeTrade_swapStep (h : m.executeTrade w env info = .ok w')
    (henv : env.LowersOnly w.setToken.address fun _ ↦ {info.sendToken, info.receiveToken})
    (hsend : info.sendToken ≠ w.setToken.address) :
    SwapStep w w' info.sendToken info.receiveToken := by
  simp only [executeTrade, Outcome.bind_eq_ok, Prod.exists] at h
  obtain ⟨u, happrove, target, value, data, -, hinvoke⟩ := h
  have hstep := (World.invokeApprove_balance happrove hsend).1
  apply (SwapStep.of_send hstep).trans
  exact SwapStep.of_invoke hinvoke (hstep.setToken.symm ▸ henv)

/-- The steps that both kinds of trade share, from the exchange call to the edited positions. -/
theorem executed_collateralized {u v : World} {fee : ℕ}
    {result : GeneralIndexModule × World × ℕ × ℕ} (hpairs : info.Pairs m w component)
    (hexecute : m.executeTrade w env info = .ok u)
    (hfee : m.accrueProtocolFee u env info = .ok (v, fee))
    (hupdate : m.updatePositionStateAndTimestamp v env info component = .ok result)
    (henv : env.LowersOnly w.setToken.address fun _ ↦ {component, m.weth})
    (hcomponent : component ≠ w.setToken.address) (hweth : m.weth ≠ w.setToken.address)
    (hw : w.WellFormed) (hcovered : w.Collateralized) :
    result.2.1.WellFormed ∧ result.2.1.Collateralized := by
  have hsend : info.sendToken ≠ w.setToken.address := by
    rcases hpairs.tokens with ⟨hs, -⟩ | ⟨hs, -⟩
    · exact hs ▸ hcomponent
    · exact hs ▸ hweth
  have hreceive : info.receiveToken ≠ w.setToken.address := by
    rcases hpairs.tokens with ⟨-, hr⟩ | ⟨-, hr⟩
    · exact hr ▸ hweth
    · exact hr ▸ hcomponent
  have henv' : env.LowersOnly w.setToken.address fun _ ↦ {info.sendToken, info.receiveToken} := by
    rcases hpairs.tokens with ⟨hs, hr⟩ | ⟨hs, hr⟩
    · rwa [hs, hr]
    · rwa [hs, hr, Set.pair_comm]
  have hswap := executeTrade_swapStep hexecute henv' hsend
  simp only [accrueProtocolFee, Outcome.bind_eq_ok, Outcome.pure_eq_ok, Prod.mk.injEq] at hfee
  obtain ⟨_, -, _, -, _, hpay, rfl, rfl⟩ := hfee
  have hpaid := payProtocolFeeFromSetToken_balance hpay (hswap.setToken.symm ▸ hreceive)
  simp only [updatePositionStateAndTimestamp, Outcome.bind_eq_ok, Prod.exists,
    Outcome.pure_eq_ok] at hupdate
  obtain ⟨edited, b, r, n, hedit, edited', b', r', n', hedit', _, -, _, -, rfl⟩ := hupdate
  rw [hpairs.supply] at hedit hedit'
  exact (hswap.trans (.of_receive hpaid.1)).collateralized hedit hedit' hsend hreceive hw hcovered

theorem trade_collateralized (h : m.trade w env component limit = .ok (m', w'))
    (henv : env.LowersOnly w.setToken.address fun _ ↦ {component, m.weth})
    (hcomponent : component ≠ w.setToken.address) (hweth : m.weth ≠ w.setToken.address)
    (hw : w.WellFormed) (hcovered : w.Collateralized) : w'.WellFormed ∧ w'.Collateralized := by
  simp only [trade, Outcome.bind_eq_ok, Prod.exists, Outcome.pure_eq_ok, Prod.mk.injEq] at h
  obtain ⟨_, -, _, -, _, -, info, hinfo, u, hexecute, v, fee, hfee, _, _, _, _, hupdate, rfl,
    rfl⟩ := h
  exact executed_collateralized (createTradeInfo_pairs hinfo) hexecute hfee hupdate henv
    hcomponent hweth hw hcovered

theorem tradeRemainingWETH_collateralized
    (h : m.tradeRemainingWETH w env component limit = .ok (m', w'))
    (henv : env.LowersOnly w.setToken.address fun _ ↦ {component, m.weth})
    (hcomponent : component ≠ w.setToken.address) (hweth : m.weth ≠ w.setToken.address)
    (hw : w.WellFormed) (hcovered : w.Collateralized) : w'.WellFormed ∧ w'.Collateralized := by
  simp only [tradeRemainingWETH, Outcome.bind_eq_ok, Prod.exists, Outcome.pure_eq_ok,
    Prod.mk.injEq] at h
  obtain ⟨_, -, _, -, _, -, _, -, _, -, _, -, _, -, info, hinfo, u, hexecute, v, fee, hfee, _, _,
    _, _, hupdate, _, -, _, -, _, -, rfl, rfl⟩ := h
  exact executed_collateralized (createTradeRemainingInfo_pairs hinfo) hexecute hfee hupdate henv
    hcomponent hweth hw hcovered

end GeneralIndexModule

end SetProtocol
