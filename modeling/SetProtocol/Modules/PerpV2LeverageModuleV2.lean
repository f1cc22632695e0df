import SetProtocol.Lib.UnitConversionUtils
import SetProtocol.Modules.LeverageModule

/-!
# Perpetual positions on Perp

The SetToken deposits its collateral token into the vault of Perp and trades virtual base tokens.
The account is an external position in the collateral token.  Its unit is written by `deposit` and
`withdraw` from the balance of the vault, and by the hooks of issuance from the value of the account
after the trades that replicate the positions for the issued quantity.
-/

namespace SetProtocol

open PreciseUnitMath ModuleBase UnitConversionUtils

/-! ## Trades -/

/-- The libraries `PerpV2LibraryV2` and `PerpV2Positions`. -/
structure PerpActionInfo where
  baseToken : Address
  isBuy : Bool
  baseTokenAmount : ℕ
  oppositeAmountBound : ℕ

structure PositionNotionalInfo where
  baseToken : Address
  baseBalance : ℤ
  quoteBalance : ℤ

structure PositionUnitInfo where
  baseToken : Address
  baseUnit : ℤ
  quoteUnit : ℤ

/-- The trade of an action: an exact input when the base token is sold, an exact output when it is
bought. -/
def PerpActionInfo.trade (action : PerpActionInfo) : PerpTrade where
  baseToken := action.baseToken
  isBaseToQuote := !action.isBuy
  isExactInput := !action.isBuy
  amount := action.baseTokenAmount

/-- Decode the two words that a trade returns: the deltas of base and quote. -/
def decodeDeltas : List ℕ → Outcome (ℕ × ℕ)
  | deltaBase :: deltaQuote :: _ => pure (deltaBase, deltaQuote)
  | _ => throw "invalid return data"

structure PerpV2LeverageModuleV2 where
  address : Address
  owner : Address
  collateralToken : Address
  collateralDecimals : ℕ
  perpVault : Address
  perpClearingHouse : Address
  perpQuoter : Address
  maxPerpPositionsPerSet : ℕ
  /-- The base tokens in which the Set has positions. -/
  positions : List Address
  /-- Whether the Set is on the allow list. -/
  allowedSetToken : Bool
  anySetAllowed : Bool

namespace PerpV2LeverageModuleV2

def openPositionCall (m : PerpV2LeverageModuleV2) (action : PerpActionInfo) : Invocation :=
  ⟨m.perpClearingHouse, 0, .openPosition action.trade action.oppositeAmountBound⟩

def swapCall (m : PerpV2LeverageModuleV2) (action : PerpActionInfo) : Invocation :=
  ⟨m.perpQuoter, 0, .swap action.trade⟩

/-- The calls of `executeTrade` and `simulateTrade`. -/
def tradeCall (m : PerpV2LeverageModuleV2) (action : PerpActionInfo) (isSimulation : Bool) :
    Invocation :=
  if isSimulation then m.swapCall action else m.openPositionCall action

/-- `simulateTrade` or `executeTrade`: returns the deltas of base and quote. -/
def runTrade (m : PerpV2LeverageModuleV2) (w : World) (env : Env) (action : PerpActionInfo)
    (isSimulation : Bool) : Outcome (World × ℕ × ℕ) := do
  let words := env.returnData (m.tradeCall action isSimulation) w.chain
  let w ← w.invoke env m.address (m.tradeCall action isSimulation)
  let deltas ← decodeDeltas words
  pure (w, deltas)

def createActionInfoNotional (baseToken : Address) (baseTokenQuantity : ℤ)
    (quoteReceiveQuantity : ℕ) : Outcome PerpActionInfo := do
  let baseTokenAmount ← PreciseUnitMath.abs baseTokenQuantity
  pure {
    baseToken := baseToken
    isBuy := decide (0 < baseTokenQuantity)
    baseTokenAmount := baseTokenAmount
    oppositeAmountBound := quoteReceiveQuantity }

/-- To close the position completely, the whole balance is traded. -/
def baseNotional (baseQuantityUnits basePositionUnit baseBalance totalSupply : ℤ) :
    Outcome ℤ := do
  let closing ← PreciseUnitMath.neg basePositionUnit
  if baseQuantityUnits = closing then
    PreciseUnitMath.neg baseBalance
  else
    preciseMulInt baseQuantityUnits totalSupply

def createAndValidateActionInfo (w : World) (env : Env) (baseToken : Address)
    (baseQuantityUnits : ℤ) (quoteReceiveUnits : ℕ) : Outcome PerpActionInfo := do
  require (baseQuantityUnits ≠ 0) "Amount is 0"
  require (env.perpHasPool baseToken = true) "Base token does not exist"
  let baseBalance := w.chain.perp.base baseToken
  let totalSupply ← SafeCast.toInt256 w.setToken.totalSupply
  let basePositionUnit ← preciseDivInt baseBalance totalSupply
  let notional ← baseNotional baseQuantityUnits basePositionUnit baseBalance totalSupply
  let quoteReceiveQuantity ← preciseMul quoteReceiveUnits w.setToken.totalSupply
  createActionInfoNotional baseToken notional quoteReceiveQuantity

/-! ## The list of positions -/

/-- Less than one unit of the base token counts as nothing. -/
def hasBaseBalance (w : World) (baseToken : Address) : Outcome Bool := do
  let totalSupply ← SafeCast.toInt256 w.setToken.totalSupply
  let baseBalanceUnit ← preciseDivInt (w.chain.perp.base baseToken) totalSupply
  pure (decide (1 < baseBalanceUnit) || decide (baseBalanceUnit < -1))

/-- One pass of the loop of `_syncPositionList`. -/
def syncPosition (w : World) (positions : List Address) (currPosition : Address) :
    Outcome (List Address) := do
  let hasBalance ← hasBaseBalance w currPosition
  if hasBalance then pure positions else AddressArrayUtils.removeStorage positions currPosition

def syncPositionList (m : PerpV2LeverageModuleV2) (w : World) :
    Outcome PerpV2LeverageModuleV2 := do
  let positions ← m.positions.foldlM (syncPosition w) m.positions
  pure { m with positions := positions }

def updatePositionList (m : PerpV2LeverageModuleV2) (w : World) (baseToken : Address) :
    Outcome PerpV2LeverageModuleV2 :=
  if AddressArrayUtils.contains m.positions baseToken = true then do
    let positions ← syncPosition w m.positions baseToken
    pure { m with positions := positions }
  else do
    require (m.positions.length < m.maxPerpPositionsPerSet) "Exceeds max perpetual positions per set"
    pure { m with positions := m.positions ++ [baseToken] }

def getPositionNotionalInfo (m : PerpV2LeverageModuleV2) (w : World) :
    List PositionNotionalInfo :=
  m.positions.map fun baseToken ↦
    ⟨baseToken, w.chain.perp.base baseToken, w.chain.perp.quote baseToken⟩

/-- One pass of the loop of `getPositionUnitInfo`. -/
def positionUnitInfo (totalSupply : ℤ) (info : PositionNotionalInfo) :
    Outcome PositionUnitInfo := do
  let baseUnit ← preciseDivInt info.baseBalance totalSupply
  let quoteUnit ← preciseDivInt info.quoteBalance totalSupply
  pure ⟨info.baseToken, baseUnit, quoteUnit⟩

def getPositionUnitInfo (m : PerpV2LeverageModuleV2) (w : World) :
    Outcome (List PositionUnitInfo) := do
  let totalSupply ← SafeCast.toInt256 w.setToken.totalSupply
  (m.getPositionNotionalInfo w).mapM (positionUnitInfo totalSupply)

/-! ## The value of the account -/

structure AccountInfo where
  collateralBalance : ℤ
  owedRealizedPnl : ℤ
  pendingFundingPayments : ℤ
  netQuoteBalance : ℤ

def getNetQuoteBalance (m : PerpV2LeverageModuleV2) (w : World) : Outcome ℤ :=
  m.positions.foldlM (fun total baseToken ↦ SignedSafeMath.add total (w.chain.perp.quote baseToken))
    0

/-- Perp returns the funding that the account owes, so its sign is flipped. -/
def getAccountInfo (m : PerpV2LeverageModuleV2) (w : World) : Outcome AccountInfo := do
  let collateralBalance ←
    toPreciseUnitsFromDecimalsInt w.chain.perp.vaultBalance m.collateralDecimals
  let pendingFundingPayments ← PreciseUnitMath.neg w.chain.perp.pendingFundingPayment
  let netQuoteBalance ← m.getNetQuoteBalance w
  pure {
    collateralBalance := collateralBalance
    owedRealizedPnl := w.chain.perp.owedRealizedPnl
    pendingFundingPayments := pendingFundingPayments
    netQuoteBalance := netQuoteBalance }

def calculatePartialAccountValuePositionUnit (m : PerpV2LeverageModuleV2) (w : World) :
    Outcome ℤ := do
  let info ← m.getAccountInfo w
  let value ← SignedSafeMath.add info.collateralBalance info.owedRealizedPnl
  let value ← SignedSafeMath.add value info.pendingFundingPayments
  let value ← SignedSafeMath.add value info.netQuoteBalance
  let totalSupply ← SafeCast.toInt256 w.setToken.totalSupply
  preciseDivInt value totalSupply

/-- Positions are enlarged on issue and reduced on redeem. -/
def tradedQuantity (baseTradeNotionalQuantity : ℤ) (isIssue : Bool) : Outcome ℤ :=
  if isIssue then pure baseTradeNotionalQuantity else PreciseUnitMath.neg baseTradeNotionalQuantity

/-- The quote that a trade moved is added for a long position and subtracted for a short one. -/
def addQuote (accountValueIssued baseTradeNotionalQuantity deltaQuote : ℤ) : Outcome ℤ :=
  if 0 ≤ baseTradeNotionalQuantity then
    SignedSafeMath.add accountValueIssued deltaQuote
  else
    SignedSafeMath.sub accountValueIssued deltaQuote

/-- One pass of the loop of `_executePositionTrades`. -/
def tradePosition (m : PerpV2LeverageModuleV2) (env : Env) (setTokenQuantity totalSupply : ℤ)
    (isIssue isSimulation : Bool) (state : World × ℤ) (info : PositionNotionalInfo) :
    Outcome (World × ℤ) := do
  let (w, accountValueIssued) := state
  let baseUnit ← preciseDivInt info.baseBalance totalSupply
  let baseTradeNotionalQuantity ← preciseMulInt baseUnit setTokenQuantity
  let traded ← tradedQuantity baseTradeNotionalQuantity isIssue
  let action ← createActionInfoNotional info.baseToken traded 0
  let (w, _, deltaQuote) ← m.runTrade w env action isSimulation
  let delta ← SafeCast.toInt256 deltaQuote
  let accountValueIssued ← addQuote accountValueIssued baseTradeNotionalQuantity delta
  pure (w, accountValueIssued)

/-- `_executePositionTrades` up to its last step: trades every position in proportion and returns the
value of the account that belongs to the quantity. -/
def tradePositions (m : PerpV2LeverageModuleV2) (w : World) (env : Env) (setTokenQuantity : ℤ)
    (isIssue isSimulation : Bool) : Outcome (World × ℤ) := do
  let partialUnit ← m.calculatePartialAccountValuePositionUnit w
  let accountValueIssued ← preciseMulInt partialUnit setTokenQuantity
  let totalSupply ← SafeCast.toInt256 w.setToken.totalSupply
  (m.getPositionNotionalInfo w).foldlM
    (m.tradePosition env setTokenQuantity totalSupply isIssue isSimulation)
    (w, accountValueIssued)

/-- The value for each Set in the decimals of the collateral token.  A bankrupt account counts as
zero. -/
def issuedPositionUnit (m : PerpV2LeverageModuleV2) (accountValueIssued setTokenQuantity : ℤ)
    (isIssue : Bool) : Outcome ℤ :=
  if accountValueIssued ≤ 0 then
    pure 0
  else if isIssue then do
    let unit ← preciseDivCeilInt accountValueIssued setTokenQuantity
    fromPreciseUnitToDecimalsInt unit m.collateralDecimals
  else do
    let unit ← preciseDivInt accountValueIssued setTokenQuantity
    fromPreciseUnitToDecimalsInt unit m.collateralDecimals

/-- Returns the new external position unit. -/
def executePositionTrades (m : PerpV2LeverageModuleV2) (w : World) (env : Env)
    (setTokenQuantity : ℕ) (isIssue isSimulation : Bool) :
    Outcome (PerpV2LeverageModuleV2 × World × ℤ) := do
  let m ← m.syncPositionList w
  let quantity ← SafeCast.toInt256 setTokenQuantity
  let (w, accountValueIssued) ← m.tradePositions w env quantity isIssue isSimulation
  let unit ← m.issuedPositionUnit accountValueIssued quantity isIssue
  pure (m, w, unit)

/-! ## Collateral -/

def invokeDeposit (m : PerpV2LeverageModuleV2) (w : World) (env : Env)
    (collateralNotionalQuantity : ℕ) : Outcome World := do
  let w ← w.invokeApprove env m.address m.collateralToken m.perpVault collateralNotionalQuantity
  w.invoke env m.address ⟨m.perpVault, 0, .vaultDeposit m.collateralToken collateralNotionalQuantity⟩

def invokeWithdraw (m : PerpV2LeverageModuleV2) (w : World) (env : Env)
    (collateralNotionalQuantity : ℕ) : Outcome World :=
  if collateralNotionalQuantity = 0 then
    pure w
  else
    w.invoke env m.address
      ⟨m.perpVault, 0, .vaultWithdraw m.collateralToken collateralNotionalQuantity⟩

/-- The balance of the vault for each Set, in the decimals of the collateral token. -/
def collateralValueUnit (m : PerpV2LeverageModuleV2) (w : World) : Outcome ℤ := do
  let balance ← toPreciseUnitsFromDecimalsInt w.chain.perp.vaultBalance m.collateralDecimals
  let totalSupply ← SafeCast.toInt256 w.setToken.totalSupply
  let unit ← preciseDivInt balance totalSupply
  fromPreciseUnitToDecimalsInt unit m.collateralDecimals

def updateExternalPositionUnit (m : PerpV2LeverageModuleV2) (w : World) : Outcome World := do
  let unit ← m.collateralValueUnit w
  w.onSetToken fun s ↦
    Position.editExternalPosition s w.controller m.address m.collateralToken m.address unit []

def depositAndUpdatePositions (m : PerpV2LeverageModuleV2) (w : World) (env : Env)
    (collateralQuantityUnits : ℕ) : Outcome World := do
  let initialCollateralPositionBalance := w.balance m.collateralToken
  let collateralNotionalQuantity ← preciseMul collateralQuantityUnits w.setToken.totalSupply
  let w ← m.invokeDeposit w env collateralNotionalQuantity
  let (w, _) ← calculateAndEditDefaultPosition w m.address m.collateralToken
    w.setToken.totalSupply initialCollateralPositionBalance
  m.updateExternalPositionUnit w

/-- The notional quantity is rounded up. -/
def withdrawAndUpdatePositions (m : PerpV2LeverageModuleV2) (w : World) (env : Env)
    (collateralQuantityUnits : ℕ) : Outcome World := do
  let initialCollateralPositionBalance := w.balance m.collateralToken
  let collateralNotionalQuantity ← preciseMulCeil collateralQuantityUnits w.setToken.totalSupply
  let w ← m.invokeWithdraw w env collateralNotionalQuantity
  let (w, _) ← calculateAndEditDefaultPosition w m.address m.collateralToken
    w.setToken.totalSupply initialCollateralPositionBalance
  m.updateExternalPositionUnit w

/-! ## Functions of the manager -/

def accrueProtocolFee (m : PerpV2LeverageModuleV2) (w : World) (env : Env)
    (exchangedQuantity : ℕ) : Outcome World := do
  let protocolFee ←
    getModuleFee w m.address LeverageModule.protocolTradeFeeIndex exchangedQuantity
  let protocolFeeInPreciseUnits ← fromPreciseUnitToDecimals protocolFee m.collateralDecimals
  let w ← m.invokeWithdraw w env protocolFeeInPreciseUnits
  payProtocolFeeFromSetToken w env m.address m.collateralToken protocolFeeInPreciseUnits

/-- The external position unit is not written. -/
def trade (m : PerpV2LeverageModuleV2) (w : World) (env : Env) (baseToken : Address)
    (baseQuantityUnits : ℤ) (quoteBoundQuantityUnits : ℕ) :
    Outcome (PerpV2LeverageModuleV2 × World) := do
  validateOnlyManagerAndValidSet w m.address env.sender
  let action ←
    createAndValidateActionInfo w env baseToken baseQuantityUnits quoteBoundQuantityUnits
  let (w, _, deltaQuote) ← m.runTrade w env action false
  let w ← m.accrueProtocolFee w env deltaQuote
  let m ← m.updatePositionList w baseToken
  pure (m, w)

def deposit (m : PerpV2LeverageModuleV2) (w : World) (env : Env) (collateralQuantityUnits : ℕ) :
    Outcome World := do
  validateOnlyManagerAndValidSet w m.address env.sender
  require (0 < collateralQuantityUnits) "Deposit amount is 0"
  let defaultUnit ← w.setToken.getDefaultPositionRealUnit m.collateralToken
  let defaultUnit ← SafeCast.toUint256 defaultUnit
  require (collateralQuantityUnits ≤ defaultUnit) "Amount too high"
  m.depositAndUpdatePositions w env collateralQuantityUnits

def withdraw (m : PerpV2LeverageModuleV2) (w : World) (env : Env) (collateralQuantityUnits : ℕ) :
    Outcome World := do
  validateOnlyManagerAndValidSet w m.address env.sender
  require (0 < collateralQuantityUnits) "Withdraw amount is 0"
  m.withdrawAndUpdatePositions w env collateralQuantityUnits

/-! ## Joining and leaving the Set -/

/-- The source calls this function `initialize`. -/
def initializeSetToken (m : PerpV2LeverageModuleV2) (issuance : IssuanceTable) (w : World)
    (env : Env) : Outcome (IssuanceTable × World) := do
  validateOnlySetManager w env.sender
  validateOnlyValidAndPendingSet w m.address
  require (m.anySetAllowed = true ∨ m.allowedSetToken = true) "Not allowed SetToken"
  LeverageModule.initializeAndRegister issuance w env m.address

/-- The callback of `SetToken.removeModule`.  One unit of account value is tolerated. -/
def removeModule (m : PerpV2LeverageModuleV2) (issuance : IssuanceTable) (w : World) :
    Outcome (PerpV2LeverageModuleV2 × IssuanceTable) := do
  validateOnlyValidAndInitializedSet w m.address
  let totalSupply ← SafeCast.toInt256 w.setToken.totalSupply
  let accountValueUnit ← preciseDivInt w.chain.perp.accountValue totalSupply
  let accountValueUnit ← fromPreciseUnitToDecimalsInt accountValueUnit m.collateralDecimals
  require (accountValueUnit ≤ 1) "Account balance exists"
  pure ({ m with positions := [] }, DebtIssuanceModule.unregisterFromAll issuance w m.address)

def updateMaxPerpPositionsPerSet (m : PerpV2LeverageModuleV2) (env : Env)
    (maxPerpPositionsPerSet : ℕ) : Outcome PerpV2LeverageModuleV2 := do
  require (env.sender = m.owner) "Ownable: caller is not the owner"
  pure { m with maxPerpPositionsPerSet := maxPerpPositionsPerSet }

def updateAllowedSetToken (m : PerpV2LeverageModuleV2) (w : World) (env : Env) (status : Bool) :
    Outcome PerpV2LeverageModuleV2 := do
  require (env.sender = m.owner) "Ownable: caller is not the owner"
  require (w.controller.isSet w.setToken.address = true ∨ m.allowedSetToken = true)
    "Invalid SetToken"
  pure { m with allowedSetToken := status }

def updateAnySetAllowed (m : PerpV2LeverageModuleV2) (env : Env) (anySetAllowed : Bool) :
    Outcome PerpV2LeverageModuleV2 := do
  require (env.sender = m.owner) "Ownable: caller is not the owner"
  pure { m with anySetAllowed := anySetAllowed }

/-! ## Hooks -/

/-- `moduleIssueHook` and `moduleRedeemHook` differ in the direction of the trades.  The unit is
written directly, whether or not the module is listed as a position module. -/
def moduleHook (m : PerpV2LeverageModuleV2) (w : World) (env : Env) (caller : Address)
    (setTokenQuantity : ℕ) (isIssue : Bool) : Outcome (PerpV2LeverageModuleV2 × World) := do
  validateOnlyModule w caller
  if w.setToken.totalSupply = 0 then
    pure (m, w)
  else if Position.hasExternalPosition w.setToken m.collateralToken = false then
    pure (m, w)
  else do
    let (m, w, newExternalPositionUnit) ←
      m.executePositionTrades w env setTokenQuantity isIssue false
    let w ← w.onSetToken fun s ↦ s.editExternalPositionUnit w.controller m.address
      m.collateralToken m.address newExternalPositionUnit
    pure (m, w)

def moduleIssueHook (m : PerpV2LeverageModuleV2) (w : World) (env : Env) (caller : Address)
    (setTokenQuantity : ℕ) : Outcome (PerpV2LeverageModuleV2 × World) :=
  m.moduleHook w env caller setTokenQuantity true

def moduleRedeemHook (m : PerpV2LeverageModuleV2) (w : World) (env : Env) (caller : Address)
    (setTokenQuantity : ℕ) : Outcome (PerpV2LeverageModuleV2 × World) :=
  m.moduleHook w env caller setTokenQuantity false

def componentIssueHook (m : PerpV2LeverageModuleV2) (w : World) (env : Env) (caller : Address)
    (setTokenQuantity : ℕ) (component : Address) (isEquity : Bool) : Outcome World := do
  validateOnlyModule w caller
  if isEquity then do
    let externalPositionUnit ← w.setToken.getExternalPositionRealUnit component m.address
    let unit ← SafeCast.toUint256 externalPositionUnit
    let quantity ← preciseMulCeil setTokenQuantity unit
    m.invokeDeposit w env quantity
  else
    pure w

def componentRedeemHook (m : PerpV2LeverageModuleV2) (w : World) (env : Env) (caller : Address)
    (setTokenQuantity : ℕ) (component : Address) (isEquity : Bool) : Outcome World := do
  validateOnlyModule w caller
  if isEquity then do
    let externalPositionUnit ← w.setToken.getExternalPositionRealUnit component m.address
    let unit ← SafeCast.toUint256 externalPositionUnit
    let quantity ← preciseMul setTokenQuantity unit
    m.invokeWithdraw w env quantity
  else
    pure w

/-! ## Estimates of the hooks -/

/-- The adjustments of equity and debt for each component: only the equity of `adjustComponent`
changes. -/
def formatAdjustments (w : World) (adjustComponent : Address)
    (currentExternalPositionUnit newExternalPositionUnit : ℤ) : Outcome (List ℤ × List ℤ) := do
  let components := w.setToken.components
  let zeros := components.map fun _ ↦ (0 : ℤ)
  match AddressArrayUtils.indexOf components adjustComponent with
  | (index, true) => do
    let adjustment ← SignedSafeMath.sub newExternalPositionUnit currentExternalPositionUnit
    pure (zeros.set index adjustment, zeros)
  | (_, false) => pure (zeros, zeros)

/-- Without positions nothing is traded and the new unit is taken to be zero. -/
def estimatedPositionUnit (m : PerpV2LeverageModuleV2) (w : World) (env : Env)
    (setTokenQuantity : ℕ) (isIssue : Bool) : Outcome (PerpV2LeverageModuleV2 × World × ℤ) :=
  if 0 < m.positions.length then
    m.executePositionTrades w env setTokenQuantity isIssue true
  else
    pure (m, w, 0)

/-- `getIssuanceAdjustments` and `getRedemptionAdjustments` differ in the direction of the trades. -/
def getAdjustments (m : PerpV2LeverageModuleV2) (w : World) (env : Env) (setTokenQuantity : ℕ)
    (isIssue : Bool) : Outcome (PerpV2LeverageModuleV2 × World × List ℤ × List ℤ) := do
  let (m, w, newExternalPositionUnit) ← m.estimatedPositionUnit w env setTokenQuantity isIssue
  let currentExternalPositionUnit ←
    w.setToken.getExternalPositionRealUnit m.collateralToken m.address
  let adjustments ← formatAdjustments w m.collateralToken currentExternalPositionUnit
    newExternalPositionUnit
  pure (m, w, adjustments)

def getIssuanceAdjustments (m : PerpV2LeverageModuleV2) (w : World) (env : Env)
    (setTokenQuantity : ℕ) : Outcome (PerpV2LeverageModuleV2 × World × List ℤ × List ℤ) :=
  m.getAdjustments w env setTokenQuantity true

def getRedemptionAdjustments (m : PerpV2LeverageModuleV2) (w : World) (env : Env)
    (setTokenQuantity : ℕ) : Outcome (PerpV2LeverageModuleV2 × World × List ℤ × List ℤ) :=
  m.getAdjustments w env setTokenQuantity false

/-! ## Edits -/

variable {F : Footprint} {calls : Invocation → Prop} {m m' : PerpV2LeverageModuleV2} {w w' : World}
  {env : Env} {caller component : Address} {quantity : ℕ} {isIssue isEquity isSimulation : Bool}

/-- The calls that move collateral into or out of the vault. -/
inductive VaultCall (m : PerpV2LeverageModuleV2) : Invocation → Prop where
  | approve (amount : ℕ) : VaultCall m ⟨m.collateralToken, 0, .approve m.perpVault amount⟩
  | deposit (amount : ℕ) : VaultCall m ⟨m.perpVault, 0, .vaultDeposit m.collateralToken amount⟩
  | withdraw (amount : ℕ) : VaultCall m ⟨m.perpVault, 0, .vaultWithdraw m.collateralToken amount⟩

theorem invokeDeposit_calls (hcalls : ∀ i, VaultCall m i → calls i)
    (h : m.invokeDeposit w env quantity = .ok w') : World.Calls env calls w w' := by
  simp only [invokeDeposit, Outcome.bind_eq_ok] at h
  obtain ⟨v, happrove, hcall⟩ := h
  exact (World.invoke_calls (hcalls _ (.approve _)) happrove).trans
    (World.invoke_calls (hcalls _ (.deposit _)) hcall)

theorem invokeWithdraw_calls (hcalls : ∀ i, VaultCall m i → calls i)
    (h : m.invokeWithdraw w env quantity = .ok w') : World.Calls env calls w w' := by
  unfold invokeWithdraw at h
  split_ifs at h
  · exact .of_pure h
  · exact World.invoke_calls (hcalls _ (.withdraw _)) h

theorem runTrade_calls {action : PerpActionInfo} {deltas : ℕ × ℕ}
    (hcalls : calls (m.tradeCall action isSimulation))
    (h : m.runTrade w env action isSimulation = .ok (w', deltas)) : World.Calls env calls w w' := by
  simp only [runTrade, Outcome.bind_eq_ok, Outcome.pure_eq_ok, Prod.mk.injEq] at h
  obtain ⟨v, hcall, _, -, rfl, -⟩ := h
  exact World.invoke_calls hcalls hcall

theorem tradePosition_calls {quantity supply value : ℤ} {state : World × ℤ}
    {info : PositionNotionalInfo} (hcalls : ∀ action, calls (m.tradeCall action isSimulation))
    (h : m.tradePosition env quantity supply isIssue isSimulation state info = .ok (w', value)) :
    World.Calls env calls state.1 w' := by
  simp only [tradePosition, Outcome.bind_eq_ok, Outcome.pure_eq_ok, Prod.exists,
    Prod.mk.injEq] at h
  obtain ⟨_, -, _, -, _, -, action, -, v, _, _, htrade, _, -, _, -, rfl, -⟩ := h
  exact runTrade_calls (hcalls action) htrade

theorem tradePositions_calls {quantity value : ℤ}
    (hcalls : ∀ action, calls (m.tradeCall action isSimulation))
    (h : m.tradePositions w env quantity isIssue isSimulation = .ok (w', value)) :
    World.Calls env calls w w' := by
  simp only [tradePositions, Outcome.bind_eq_ok] at h
  obtain ⟨_, -, start, -, _, -, h⟩ := h
  exact Outcome.foldlM_invariant (P := fun state : World × ℤ ↦ World.Calls env calls w state.1)
    (fun _ _ _ hstep hs ↦ hs.trans (tradePosition_calls hcalls hstep)) h (.refl w)

/-- The module's own parameters do not change while it trades. -/
structure SameContracts (m m' : PerpV2LeverageModuleV2) : Prop where
  address : m'.address = m.address
  collateralToken : m'.collateralToken = m.collateralToken
  collateralDecimals : m'.collateralDecimals = m.collateralDecimals
  perpVault : m'.perpVault = m.perpVault
  perpClearingHouse : m'.perpClearingHouse = m.perpClearingHouse
  perpQuoter : m'.perpQuoter = m.perpQuoter

theorem SameContracts.refl (m : PerpV2LeverageModuleV2) : m.SameContracts m :=
  ⟨rfl, rfl, rfl, rfl, rfl, rfl⟩

theorem SameContracts.trans {m₁ m₂ m₃ : PerpV2LeverageModuleV2} (h : m₁.SameContracts m₂)
    (h' : m₂.SameContracts m₃) : m₁.SameContracts m₃ where
  address := h'.address.trans h.address
  collateralToken := h'.collateralToken.trans h.collateralToken
  collateralDecimals := h'.collateralDecimals.trans h.collateralDecimals
  perpVault := h'.perpVault.trans h.perpVault
  perpClearingHouse := h'.perpClearingHouse.trans h.perpClearingHouse
  perpQuoter := h'.perpQuoter.trans h.perpQuoter

theorem SameContracts.tradeCall (h : m.SameContracts m') (action : PerpActionInfo)
    (isSimulation : Bool) : m'.tradeCall action isSimulation = m.tradeCall action isSimulation := by
  simp [PerpV2LeverageModuleV2.tradeCall, swapCall, openPositionCall, h.perpClearingHouse,
    h.perpQuoter]

/-- A pass over the list keeps a token with a balance and drops one without. -/
theorem syncPosition_cases {positions positions' : List Address} {baseToken : Address}
    (h : syncPosition w positions baseToken = .ok positions') :
    hasBaseBalance w baseToken = .ok true ∧ positions' = positions ∨
      hasBaseBalance w baseToken = .ok false ∧ baseToken ∈ positions ∧
        positions' = SwapRemove.swapRemove positions baseToken := by
  simp only [syncPosition, Outcome.bind_eq_ok] at h
  obtain ⟨hasBalance, hbalance, h⟩ := h
  cases hasBalance with
  | true => exact Or.inl ⟨hbalance, (Outcome.pure_eq_ok.mp h).symm⟩
  | false =>
    obtain ⟨hmem, heq⟩ := AddressArrayUtils.removeStorage_eq_ok.mp h
    exact Or.inr ⟨hbalance, hmem, heq⟩

theorem syncPositionList_sameContracts (h : m.syncPositionList w = .ok m') :
    m.SameContracts m' := by
  simp only [syncPositionList, Outcome.bind_eq_ok, Outcome.pure_eq_ok] at h
  obtain ⟨positions, -, rfl⟩ := h
  exact ⟨rfl, rfl, rfl, rfl, rfl, rfl⟩

theorem executePositionTrades_calls {unit : ℤ}
    (hcalls : ∀ action, calls (m.tradeCall action isSimulation))
    (h : m.executePositionTrades w env quantity isIssue isSimulation = .ok (m', w', unit)) :
    m.SameContracts m' ∧ World.Calls env calls w w' := by
  simp only [executePositionTrades, Outcome.bind_eq_ok, Outcome.pure_eq_ok, Prod.exists,
    Prod.mk.injEq] at h
  obtain ⟨n, hsync, _, -, v, _, htrades, _, -, rfl, rfl, -⟩ := h
  have hsame := syncPositionList_sameContracts hsync
  refine ⟨hsame, tradePositions_calls ?_ htrades⟩
  intro action
  rw [hsame.tradeCall]
  exact hcalls action

theorem moduleHook_edits (hcalls : ∀ action, F.calls (m.tradeCall action false))
    (hwrites : F.writes m.address m.collateralToken)
    (h : m.moduleHook w env caller quantity isIssue = .ok (m', w')) :
    m.SameContracts m' ∧ World.Edits env F w w' := by
  simp only [moduleHook, Outcome.bind_eq_ok] at h
  obtain ⟨_, -, h⟩ := h
  split_ifs at h
  · obtain ⟨rfl, rfl⟩ := Prod.mk.inj (Outcome.pure_eq_ok.mp h)
    exact ⟨.refl m, .refl w⟩
  · obtain ⟨rfl, rfl⟩ := Prod.mk.inj (Outcome.pure_eq_ok.mp h)
    exact ⟨.refl m, .refl w⟩
  · simp only [Outcome.bind_eq_ok, Outcome.pure_eq_ok, Prod.exists, Prod.mk.injEq] at h
    obtain ⟨n, v, unit, htrades, _, hwrite, rfl, rfl⟩ := h
    obtain ⟨hsame, hmade⟩ := executePositionTrades_calls hcalls htrades
    refine ⟨hsame, hmade.edits.trans (World.editExternalPositionUnit_edits ?_ hwrite)⟩
    rw [hsame.address, hsame.collateralToken]
    exact hwrites

theorem componentIssueHook_calls (hcalls : ∀ i, VaultCall m i → calls i)
    (h : m.componentIssueHook w env caller quantity component isEquity = .ok w') :
    World.Calls env calls w w' := by
  simp only [componentIssueHook, Outcome.bind_eq_ok] at h
  obtain ⟨_, -, h⟩ := h
  split_ifs at h
  · simp only [Outcome.bind_eq_ok] at h
    obtain ⟨_, -, _, -, _, -, hdeposit⟩ := h
    exact invokeDeposit_calls hcalls hdeposit
  · exact .of_pure h

theorem componentRedeemHook_calls (hcalls : ∀ i, VaultCall m i → calls i)
    (h : m.componentRedeemHook w env caller quantity component isEquity = .ok w') :
    World.Calls env calls w w' := by
  simp only [componentRedeemHook, Outcome.bind_eq_ok] at h
  obtain ⟨_, -, h⟩ := h
  split_ifs at h
  · simp only [Outcome.bind_eq_ok] at h
    obtain ⟨_, -, _, -, _, -, hwithdraw⟩ := h
    exact invokeWithdraw_calls hcalls hwithdraw
  · exact .of_pure h

/-! ### Functions of the manager -/

theorem updateExternalPositionUnit_edits (howns : F.owns m.address m.collateralToken)
    (h : m.updateExternalPositionUnit w = .ok w') : World.Edits env F w w' := by
  simp only [updateExternalPositionUnit, Outcome.bind_eq_ok] at h
  obtain ⟨unit, -, hedit⟩ := h
  exact World.editExternalPosition_edits howns hedit

theorem deposit_edits (hcalls : ∀ i, F.calls i) (howns : F.owns m.address m.collateralToken)
    (h : m.deposit w env quantity = .ok w') : World.Edits env F w w' := by
  simp only [deposit, depositAndUpdatePositions, Outcome.bind_eq_ok, Prod.exists] at h
  obtain ⟨_, -, _, -, _, -, _, -, _, -, _, -, v, hdeposit, u, _, _, _, hdefault, hupdate⟩ := h
  have hmade : World.Edits env F w v := (invokeDeposit_calls (fun i _ ↦ hcalls i) hdeposit).edits
  exact (hmade.trans (World.calculateAndEditDefaultPosition_edits hdefault)).trans
    (updateExternalPositionUnit_edits howns hupdate)

theorem withdraw_edits (hcalls : ∀ i, F.calls i) (howns : F.owns m.address m.collateralToken)
    (h : m.withdraw w env quantity = .ok w') : World.Edits env F w w' := by
  simp only [withdraw, withdrawAndUpdatePositions, Outcome.bind_eq_ok, Prod.exists] at h
  obtain ⟨_, -, _, -, _, -, v, hwithdraw, u, _, _, _, hdefault, hupdate⟩ := h
  have hmade : World.Edits env F w v := (invokeWithdraw_calls (fun i _ ↦ hcalls i) hwithdraw).edits
  exact (hmade.trans (World.calculateAndEditDefaultPosition_edits hdefault)).trans
    (updateExternalPositionUnit_edits howns hupdate)

theorem updatePositionList_sameContracts (h : m.updatePositionList w component = .ok m') :
    m.SameContracts m' := by
  unfold updatePositionList at h
  split_ifs at h
  · simp only [Outcome.bind_eq_ok, Outcome.pure_eq_ok] at h
    obtain ⟨positions, -, rfl⟩ := h
    exact ⟨rfl, rfl, rfl, rfl, rfl, rfl⟩
  · simp only [Outcome.bind_eq_ok, Outcome.pure_eq_ok] at h
    obtain ⟨_, -, rfl⟩ := h
    exact ⟨rfl, rfl, rfl, rfl, rfl, rfl⟩

/-- A trade edits no position. -/
theorem trade_calls {units : ℤ} (h : m.trade w env component units quantity = .ok (m', w')) :
    m.SameContracts m' ∧ World.Calls env (fun _ ↦ True) w w' := by
  simp only [trade, accrueProtocolFee, Outcome.bind_eq_ok, Outcome.pure_eq_ok, Prod.exists,
    Prod.mk.injEq] at h
  obtain ⟨_, -, action, -, v, _, _, htrade, u, ⟨_, -, _, -, x, hwithdraw, hpay⟩, n, hlist, rfl,
    rfl⟩ := h
  refine ⟨updatePositionList_sameContracts hlist, ?_⟩
  exact ((runTrade_calls trivial htrade).trans
    (invokeWithdraw_calls (fun _ _ ↦ trivial) hwithdraw)).trans
      (World.payProtocolFeeFromSetToken_calls trivial hpay)

end PerpV2LeverageModuleV2

end SetProtocol
