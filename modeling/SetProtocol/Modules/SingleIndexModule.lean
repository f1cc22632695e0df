import SetProtocol.Core.Swap
import SetProtocol.Foundation.Abi

/-!
# Rebalancing one index

`SingleIndexModule` is the predecessor of `GeneralIndexModule` and serves one Set, its index.  It knows its
exchanges by number and encodes the trades itself.  A component is sold for an open amount of WETH, or
bought with an open amount of it, in the size that leads to its target or up to a maximum size; WETH is no
component of a rebalance.  When only WETH is left to trade all of it can be spent at once on a component
that stays below its target, and when all targets are met they can be raised together.
-/

namespace SetProtocol

open PreciseUnitMath ModuleBase

structure AssetTradeInfo where
  targetUnit : ℕ
  maxSize : ℕ
  coolOffPeriod : ℕ
  lastTradeTimestamp : ℕ
  exchange : ℕ

/-! The numbers of the exchanges -/

namespace ExchangeId

def none : ℕ := 0
def uniswap : ℕ := 1
def sushiswap : ℕ := 2
def balancer : ℕ := 3
def last : ℕ := 4

end ExchangeId

structure SingleIndexModule where
  address : Address
  assetInfo : Address → AssetTradeInfo
  rebalanceComponents : List Address
  /-- Position multiplier at the beginning of the rebalance. -/
  positionMultiplier : ℕ
  tradeAllowList : Address → Bool
  anyoneTrade : Bool
  /-- The Set that the module serves, or zero. -/
  index : Address
  weth : Address
  uniswapRouter : Address
  sushiswapRouter : Address
  balancerProxy : Address

namespace SingleIndexModule

/-- Targets are raised by a quarter of a percent. -/
def targetRaiseDivisor : ℕ := 1002500000000000000

/-- Pools that Balancer looks at for a quote. -/
def balancerPoolLimit : ℕ := 3

/-! ## Units and targets -/

def getDefaultPositionRealUnit (w : World) (component : Address) : Outcome ℕ := do
  let unit ← w.setToken.getDefaultPositionRealUnit component
  SafeCast.toUint256 unit

/-- `index.positionMultiplier()`, which reverts while the module serves no Set. -/
def currentPositionMultiplier (m : SingleIndexModule) (w : World) : Outcome ℕ := do
  require (m.index = w.setToken.address) "function call to a non-contract account"
  SafeCast.toUint256 w.setToken.positionMultiplier

def normalizeTargetUnit (m : SingleIndexModule) (component : Address)
    (currentPositionMultiplier : ℕ) : Outcome ℕ := do
  let scaled ← SafeMath.mul (m.assetInfo component).targetUnit currentPositionMultiplier
  SafeMath.div scaled m.positionMultiplier

def getTargetUnits (m : SingleIndexModule) (w : World) (components : List Address) :
    Outcome (List ℕ) := do
  let multiplier ← m.currentPositionMultiplier w
  components.mapM fun component ↦ m.normalizeTargetUnit component multiplier

/-- Whether the component is bought, and the size of the trade. -/
def calculateTradeSizeAndDirection (m : SingleIndexModule) (w : World) (component : Address) :
    Outcome (Bool × ℕ) := do
  let totalSupply := w.setToken.totalSupply
  let componentMaxSize := (m.assetInfo component).maxSize
  let multiplier ← m.currentPositionMultiplier w
  let currentUnit ← getDefaultPositionRealUnit w component
  let targetUnit ← m.normalizeTargetUnit component multiplier
  require (currentUnit ≠ targetUnit) "Target already met"
  let currentNotional ← Position.getDefaultTotalNotional totalSupply currentUnit
  let targetNotional ← preciseMulCeil totalSupply targetUnit
  if currentNotional < targetNotional then do
    let difference ← SafeMath.sub targetNotional currentNotional
    pure (true, min componentMaxSize difference)
  else do
    let difference ← SafeMath.sub currentNotional targetNotional
    pure (false, min componentMaxSize difference)

/-! ## Checks -/

def isAllowedTrader (m : SingleIndexModule) (caller : Address) : Bool :=
  m.anyoneTrade || m.tradeAllowList caller

def onlyAllowedTrader (m : SingleIndexModule) (env : Env) : Outcome Unit :=
  require (m.isAllowedTrader env.sender = true) "Address not permitted to trade"

def onlyEOA (env : Env) : Outcome Unit :=
  require (env.sender = env.origin) "Caller must be EOA Address"

def validateTradeParameters (m : SingleIndexModule) (env : Env) (component : Address) :
    Outcome Unit := do
  require (AddressArrayUtils.contains m.rebalanceComponents component = true)
    "Passed component not included in rebalance"
  let info := m.assetInfo component
  require (info.exchange ≠ ExchangeId.none) "Exchange must be specified"
  let ready ← SafeMath.add info.lastTradeTimestamp info.coolOffPeriod
  require (ready ≤ env.timestamp) "Cool off period has not elapsed."

/-- The loop of `_noTokensToSell`, which stops at the first component that can be sold. -/
def noTokensToSellLoop (m : SingleIndexModule) (w : World) (multiplier : ℕ) :
    List Address → Outcome Bool
  | [] => pure true
  | component :: rest => do
    let targetUnit ← m.normalizeTargetUnit component multiplier
    let currentUnit ← getDefaultPositionRealUnit w component
    if targetUnit < currentUnit then pure false else m.noTokensToSellLoop w multiplier rest

def noTokensToSell (m : SingleIndexModule) (w : World) : Outcome Bool := do
  let multiplier ← m.currentPositionMultiplier w
  m.noTokensToSellLoop w multiplier m.rebalanceComponents

/-- The loop of `_allTargetsMet`, which stops at the first component whose target is not met. -/
def allTargetsMetLoop (m : SingleIndexModule) (w : World) (multiplier : ℕ) :
    List Address → Outcome Bool
  | [] => pure true
  | component :: rest => do
    let targetUnit ← m.normalizeTargetUnit component multiplier
    let currentUnit ← getDefaultPositionRealUnit w component
    if targetUnit ≠ currentUnit then pure false else m.allTargetsMetLoop w multiplier rest

def allTargetsMet (m : SingleIndexModule) (w : World) : Outcome Bool := do
  let multiplier ← m.currentPositionMultiplier w
  m.allTargetsMetLoop w multiplier m.rebalanceComponents

def validateArrays {β : Type} (components : List Address) (data : List β) : Outcome Unit := do
  require (components.length = data.length) "Array length mismatch"
  require (0 < components.length) "Array length must be > 0"
  let duplicate ← AddressArrayUtils.hasDuplicate components
  require (duplicate = false) "Cannot duplicate components"

/-! ## Trades -/

/-- The exchange to call and the calldata, with the signature of `smartSwapExactIn` or
`smartSwapExactOut`. -/
def getBalancerTradeData (m : SingleIndexModule) (sellComponent buyComponent : Address)
    (fixIn : Bool) (amount maxOut : ℕ) : Address × List UInt8 :=
  let limit := if fixIn then 1 else maxOut
  (m.balancerProxy,
    Abi.encodeWithSelector (if fixIn then [0x21, 0xb0, 0xeb, 0x85] else [0xb4, 0x0f, 0x39, 0xee])
      [sellComponent.toNat, buyComponent.toNat, amount, limit, balancerPoolLimit])

/-- The signature is that of `swapExactTokensForTokens` or `swapTokensForExactTokens`.  The path is the
only argument of a dynamic type. -/
def getUniswapLikeTradeData (m : SingleIndexModule) (w : World) (env : Env)
    (sellComponent buyComponent : Address) (fixIn : Bool) (amount exchange : ℕ) :
    Outcome (Address × List UInt8) := do
  let exchangeAddress := if exchange = ExchangeId.uniswap then m.uniswapRouter else m.sushiswapRouter
  let limit := if fixIn then 1 else maxUint256
  let deadline ← SafeMath.add env.timestamp 180
  pure (exchangeAddress,
    Abi.encodeWithSelector (if fixIn then [0x38, 0xed, 0x17, 0x39] else [0x88, 0x03, 0xdb, 0xee])
      [amount, limit, 5 * 32, w.setToken.address.toNat, deadline, 2, sellComponent.toNat,
        buyComponent.toNat])

def getTradeData (m : SingleIndexModule) (w : World) (env : Env)
    (sellComponent buyComponent : Address) (fixIn : Bool) (amount exchange : ℕ) :
    Outcome (Address × List UInt8) :=
  if exchange = ExchangeId.balancer then
    pure (m.getBalancerTradeData sellComponent buyComponent fixIn amount (w.balance m.weth))
  else
    m.getUniswapLikeTradeData w env sellComponent buyComponent fixIn amount exchange

/-- Whatever WETH there is is approved when WETH is sold. -/
def executeTrade (m : SingleIndexModule) (w : World) (env : Env)
    (sellComponent buyComponent : Address) (fixIn : Bool) (amount exchange : ℕ) :
    Outcome World := do
  let (exchangeAddress, tradeCallData) ←
    m.getTradeData w env sellComponent buyComponent fixIn amount exchange
  let approveAmount := if sellComponent = m.weth then w.balance m.weth else amount
  let w ← w.invokeApprove env m.address sellComponent exchangeAddress approveAmount
  w.invoke env m.address ⟨exchangeAddress, 0, .raw tradeCallData⟩

/-- Returns what was sold and what was bought. -/
def updatePositionState (m : SingleIndexModule) (w : World) (sellComponent buyComponent : Address)
    (preTradeSellComponentAmount preTradeBuyComponentAmount : ℕ) : Outcome (World × ℕ × ℕ) := do
  let totalSupply := w.setToken.totalSupply
  let (w, postTradeSellComponentAmount, _) ← calculateAndEditDefaultPosition w m.address
    sellComponent totalSupply preTradeSellComponentAmount
  let (w, postTradeBuyComponentAmount, _) ← calculateAndEditDefaultPosition w m.address
    buyComponent totalSupply preTradeBuyComponentAmount
  let sellAmount ← SafeMath.sub preTradeSellComponentAmount postTradeSellComponentAmount
  let buyAmount ← SafeMath.sub postTradeBuyComponentAmount preTradeBuyComponentAmount
  pure (w, sellAmount, buyAmount)

/-- The call of an exchange and the update of both positions. -/
def swap (m : SingleIndexModule) (w : World) (env : Env) (sellComponent buyComponent : Address)
    (fixIn : Bool) (amount exchange : ℕ) : Outcome (World × ℕ × ℕ) := do
  let preTradeSellComponentAmount := w.balance sellComponent
  let preTradeBuyComponentAmount := w.balance buyComponent
  let w ← m.executeTrade w env sellComponent buyComponent fixIn amount exchange
  m.updatePositionState w sellComponent buyComponent preTradeSellComponentAmount
    preTradeBuyComponentAmount

def buyUnderweight (m : SingleIndexModule) (w : World) (env : Env) (component : Address)
    (amount : ℕ) : Outcome (World × ℕ × ℕ) :=
  m.swap w env m.weth component false amount (m.assetInfo component).exchange

def sellOverweight (m : SingleIndexModule) (w : World) (env : Env) (component : Address)
    (amount : ℕ) : Outcome (World × ℕ × ℕ) :=
  m.swap w env component m.weth true amount (m.assetInfo component).exchange

/-- Edit what is stored about a component. -/
def editAssetInfo (m : SingleIndexModule) (component : Address)
    (edit : AssetTradeInfo → AssetTradeInfo) : SingleIndexModule :=
  { m with assetInfo := Function.update m.assetInfo component (edit (m.assetInfo component)) }

def setLastTradeTimestamp (m : SingleIndexModule) (component : Address) (timestamp : ℕ) :
    SingleIndexModule :=
  m.editAssetInfo component fun info ↦ { info with lastTradeTimestamp := timestamp }

def trade (m : SingleIndexModule) (w : World) (env : Env) (component : Address) :
    Outcome (SingleIndexModule × World) := do
  m.onlyAllowedTrader env
  onlyEOA env
  m.validateTradeParameters env component
  let (isBuy, tradeAmount) ← m.calculateTradeSizeAndDirection w component
  let (w, _) ←
    if isBuy then m.buyUnderweight w env component tradeAmount
    else m.sellOverweight w env component tradeAmount
  pure (m.setLastTradeTimestamp component env.timestamp, w)

/-- The direction of the trade that would lead to the target is not looked at. -/
def tradeRemainingWETH (m : SingleIndexModule) (w : World) (env : Env) (component : Address) :
    Outcome (SingleIndexModule × World) := do
  m.onlyAllowedTrader env
  onlyEOA env
  let nothingToSell ← m.noTokensToSell w
  require (nothingToSell = true) "Must sell all sellable tokens before can be called"
  m.validateTradeParameters env component
  let (_, tradeLimit) ← m.calculateTradeSizeAndDirection w component
  let (w, _, componentTradeSize) ← m.swap w env m.weth component true (w.balance m.weth)
    (m.assetInfo component).exchange
  require (componentTradeSize < tradeLimit) "Trade size exceeds trade size limit"
  pure (m.setLastTradeTimestamp component env.timestamp, w)

/-- The unit of WETH is read only when all targets are met. -/
def hasRemainingWETH (m : SingleIndexModule) (w : World) : Outcome Bool := do
  let met ← m.allTargetsMet w
  if met then do
    let wethUnit ← w.setToken.getDefaultPositionRealUnit m.weth
    pure (decide (0 < wethUnit))
  else
    pure false

def raiseAssetTargets (m : SingleIndexModule) (w : World) (env : Env) :
    Outcome SingleIndexModule := do
  m.onlyAllowedTrader env
  let remaining ← m.hasRemainingWETH w
  require (remaining = true) "Targets must be met and ETH remaining in order to raise target"
  let multiplier ← preciseDiv m.positionMultiplier targetRaiseDivisor
  pure { m with positionMultiplier := multiplier }

/-! ## Functions of the manager -/

/-- `onlyManagerAndValidSet(index)`. -/
def onlyIndexManager (m : SingleIndexModule) (w : World) (env : Env) : Outcome Unit := do
  require (m.index = w.setToken.address) "function call to a non-contract account"
  validateOnlyManagerAndValidSet w m.address env.sender

/-- The loop of `startRebalance`. -/
def startTarget (m : SingleIndexModule) (entry : Address × ℕ) : Outcome SingleIndexModule := do
  require (entry.1 ≠ m.weth) "WETH cannot be an index component"
  pure (m.editAssetInfo entry.1 fun info ↦ { info with targetUnit := entry.2 })

def startRebalance (m : SingleIndexModule) (w : World) (env : Env) (newComponents : List Address)
    (newComponentsTargetUnits oldComponentsTargetUnits : List ℕ) (positionMultiplier : ℕ) :
    Outcome SingleIndexModule := do
  m.onlyIndexManager w env
  require (newComponents.length = newComponentsTargetUnits.length) "Array length mismatch"
  let currentComponents := w.setToken.components
  require (currentComponents.length = oldComponentsTargetUnits.length)
    "New allocation must have target for all old components"
  let aggregateComponents := AddressArrayUtils.extend currentComponents newComponents
  let aggregateTargetUnits := oldComponentsTargetUnits ++ newComponentsTargetUnits
  let duplicate ← AddressArrayUtils.hasDuplicate aggregateComponents
  require (duplicate = false) "Cannot duplicate components"
  let m ← (aggregateComponents.zip aggregateTargetUnits).foldlM startTarget m
  pure { m with
    rebalanceComponents := aggregateComponents, positionMultiplier := positionMultiplier }

/-- What the functions share that set one parameter of each listed component. -/
def setParameters (edit : ℕ → AssetTradeInfo → AssetTradeInfo) (m : SingleIndexModule) (w : World)
    (env : Env) (components : List Address) (values : List ℕ) : Outcome SingleIndexModule := do
  m.onlyIndexManager w env
  validateArrays components values
  pure ((components.zip values).foldl (fun m entry ↦ m.editAssetInfo entry.1 (edit entry.2)) m)

def setTradeMaximums : SingleIndexModule → World → Env → List Address → List ℕ →
    Outcome SingleIndexModule :=
  setParameters fun maximum info ↦ { info with maxSize := maximum }

def setCoolOffPeriods : SingleIndexModule → World → Env → List Address → List ℕ →
    Outcome SingleIndexModule :=
  setParameters fun period info ↦ { info with coolOffPeriod := period }

/-- The loop of `setExchanges`. -/
def setExchange (m : SingleIndexModule) (entry : Address × ℕ) : Outcome SingleIndexModule := do
  require (entry.2 < ExchangeId.last) "Unrecognized exchange identifier"
  pure (m.editAssetInfo entry.1 fun info ↦ { info with exchange := entry.2 })

def setExchanges (m : SingleIndexModule) (w : World) (env : Env) (components : List Address)
    (exchanges : List ℕ) : Outcome SingleIndexModule := do
  m.onlyIndexManager w env
  validateArrays components exchanges
  (components.zip exchanges).foldlM setExchange m

def updateTraderStatus (m : SingleIndexModule) (w : World) (env : Env) (traders : List Address)
    (statuses : List Bool) : Outcome SingleIndexModule := do
  m.onlyIndexManager w env
  require (traders.length = statuses.length) "Array length mismatch"
  require (0 < traders.length) "Array length must be > 0"
  let duplicate ← AddressArrayUtils.hasDuplicate traders
  require (duplicate = false) "Cannot duplicate traders"
  pure { m with
    tradeAllowList := (traders.zip statuses).foldl
      (fun allowed entry ↦ Function.update allowed entry.1 entry.2) m.tradeAllowList }

def updateAnyoneTrade (m : SingleIndexModule) (w : World) (env : Env) (status : Bool) :
    Outcome SingleIndexModule := do
  m.onlyIndexManager w env
  pure { m with anyoneTrade := status }

/-- The loop of `initialize`: each unit is its own target. -/
def initializePosition (m : SingleIndexModule) (position : PositionEntry) :
    Outcome SingleIndexModule := do
  let unit ← SafeCast.toUint256 position.unit
  pure (m.editAssetInfo position.component fun info ↦
    { info with targetUnit := unit, lastTradeTimestamp := 0 })

/-- The source calls this function `initialize`.  The components of a rebalance and its multiplier stay
as they are. -/
def initializeSetToken (m : SingleIndexModule) (w : World) (env : Env) :
    Outcome (SingleIndexModule × World) := do
  validateOnlySetManager w env.sender
  validateOnlyValidAndPendingSet w m.address
  require (m.index = 0) "Module already in use"
  let positions ← w.setToken.getPositions
  let m ← positions.foldlM initializePosition m
  let w ← w.onSetToken fun s ↦ s.initializeModule m.address
  pure ({ m with index := w.setToken.address }, w)

/-- The callback of `SetToken.removeModule` keeps everything, the index included. -/
def removeModule (m : SingleIndexModule) : SingleIndexModule := m

end SingleIndexModule

end SetProtocol
