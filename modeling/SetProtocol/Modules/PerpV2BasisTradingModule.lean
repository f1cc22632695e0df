import SetProtocol.Modules.PerpV2LeverageModuleV2

/-!
# Basis trading on Perp

The module extends `PerpV2LeverageModuleV2`.  It records the funding that is about to be settled by an
action on Perp as `settledFunding`, lets the manager withdraw what was recorded, and charges a
performance fee on it.
-/

namespace SetProtocol

open PreciseUnitMath ModuleBase UnitConversionUtils

structure PerpV2BasisTradingModule.FeeState where
  feeRecipient : Address
  maxPerformanceFeePercentage : ℕ
  performanceFeePercentage : ℕ

/-- The zero value of a storage slot. -/
def PerpV2BasisTradingModule.FeeState.empty : PerpV2BasisTradingModule.FeeState := ⟨0, 0, 0⟩

/-- `settledFunding` is in precise units. -/
structure PerpV2BasisTradingModule extends PerpV2LeverageModuleV2 where
  feeSettings : PerpV2BasisTradingModule.FeeState
  settledFunding : ℕ

namespace PerpV2BasisTradingModule

def protocolPerformanceFeeIndex : ℕ := 1

/-- Overwrite the storage of the contract that this one inherits from. -/
def setLeverage (m : PerpV2BasisTradingModule) (leverage : PerpV2LeverageModuleV2) :
    PerpV2BasisTradingModule :=
  { m with toPerpV2LeverageModuleV2 := leverage }

/-! ## Funding -/

/-- What was recorded does not become negative when the account owes funding. -/
def getUpdatedSettledFunding (m : PerpV2BasisTradingModule) (w : World) : Outcome ℕ := do
  let pendingFundingToBeSettled ← PreciseUnitMath.neg w.chain.perp.pendingFundingPayment
  if 0 ≤ pendingFundingToBeSettled then do
    let gain ← SafeCast.toUint256 pendingFundingToBeSettled
    SafeMath.add m.settledFunding gain
  else do
    let loss ← PreciseUnitMath.abs pendingFundingToBeSettled
    if loss < m.settledFunding then SafeMath.sub m.settledFunding loss else pure 0

def updateSettledFunding (m : PerpV2BasisTradingModule) (w : World) :
    Outcome PerpV2BasisTradingModule := do
  let newSettledFunding ← m.getUpdatedSettledFunding w
  pure { m with settledFunding := newSettledFunding }

/-- Performance fees are paid from what was withdrawn. -/
def handleFees (m : PerpV2BasisTradingModule) (w : World) (env : Env)
    (notionalFundingAmount : ℕ) : Outcome World :=
  let performanceFee := m.feeSettings.performanceFeePercentage
  if 0 < performanceFee then do
    let protocolFeeSplit := w.controller.getModuleFee m.address protocolPerformanceFeeIndex
    let totalFee ← preciseMul performanceFee notionalFundingAmount
    let protocolFee ← preciseMul totalFee protocolFeeSplit
    let managerFee ← SafeMath.sub totalFee protocolFee
    let w ← w.strictInvokeTransfer env m.address m.collateralToken m.feeSettings.feeRecipient
      managerFee
    payProtocolFeeFromSetToken w env m.address m.collateralToken protocolFee
  else
    pure w

def updateWithdrawFundingState (m : PerpV2BasisTradingModule) (w : World)
    (notionalFunding collateralBalanceBeforeWithdraw : ℕ) :
    Outcome (PerpV2BasisTradingModule × World) := do
  let (w, _) ← calculateAndEditDefaultPosition w m.address m.collateralToken
    w.setToken.totalSupply collateralBalanceBeforeWithdraw
  let w ← m.updateExternalPositionUnit w
  let withdrawn ← toPreciseUnitsFromDecimals notionalFunding m.collateralDecimals
  let settledFunding ← SafeMath.sub m.settledFunding withdrawn
  pure ({ m with settledFunding := settledFunding }, w)

/-- Performance fees of the redeemer lower the unit, but not below zero. -/
def calculateNetFeesPositionUnit (m : PerpV2BasisTradingModule) (w : World)
    (newExternalPositionUnit : ℤ) (updatedSettledFunding : ℕ) : Outcome ℤ :=
  if updatedSettledFunding = 0 then
    pure newExternalPositionUnit
  else do
    let fundingUnit ← preciseDiv updatedSettledFunding w.setToken.totalSupply
    let feeUnit ← preciseMulCeil fundingUnit m.feeSettings.performanceFeePercentage
    let performanceFeeUnit ← fromPreciseUnitToDecimals feeUnit m.collateralDecimals
    let fee ← SafeCast.toInt256 performanceFeeUnit
    let net ← SignedSafeMath.sub newExternalPositionUnit fee
    pure (if net < 0 then 0 else net)

/-! ## Functions of the manager -/

def tradeAndTrackFunding (m : PerpV2BasisTradingModule) (w : World) (env : Env)
    (baseToken : Address) (baseQuantityUnits : ℤ) (quoteBoundQuantityUnits : ℕ) :
    Outcome (PerpV2BasisTradingModule × World) := do
  validateOnlyManagerAndValidSet w m.address env.sender
  let m ← m.updateSettledFunding w
  let (leverage, w) ← m.trade w env baseToken baseQuantityUnits quoteBoundQuantityUnits
  pure (m.setLeverage leverage, w)

/-- This function overrides the one of `PerpV2LeverageModuleV2`. -/
def withdraw (m : PerpV2BasisTradingModule) (w : World) (env : Env)
    (collateralQuantityUnits : ℕ) : Outcome (PerpV2BasisTradingModule × World) := do
  validateOnlyManagerAndValidSet w m.address env.sender
  require (0 < collateralQuantityUnits) "Withdraw amount is 0"
  let m ← m.updateSettledFunding w
  let w ← m.withdrawAndUpdatePositions w env collateralQuantityUnits
  pure (m, w)

/-- `withdrawFundingAndAccrueFees` after the amount is known. -/
def withdrawFunding (m : PerpV2BasisTradingModule) (w : World) (env : Env)
    (notionalFunding : ℕ) : Outcome (PerpV2BasisTradingModule × World × ℕ) := do
  let collateralBalanceBeforeWithdraw := w.balance m.collateralToken
  let w ← m.invokeWithdraw w env notionalFunding
  let w ← m.handleFees w env notionalFunding
  let (m, w) ← m.updateWithdrawFundingState w notionalFunding collateralBalanceBeforeWithdraw
  pure (m, w, notionalFunding)

/-- Returns the amount of funding that was withdrawn, in the decimals of the collateral token. -/
def withdrawFundingAndAccrueFees (m : PerpV2BasisTradingModule) (w : World) (env : Env)
    (notionalFunding : ℕ) : Outcome (PerpV2BasisTradingModule × World × ℕ) := do
  validateOnlyManagerAndValidSet w m.address env.sender
  if notionalFunding = 0 then
    pure (m, w, 0)
  else do
    let m ← m.updateSettledFunding w
    let settledFundingInCollateralDecimals ←
      fromPreciseUnitToDecimals m.settledFunding m.collateralDecimals
    m.withdrawFunding w env (min notionalFunding settledFundingInCollateralDecimals)

/-- All recorded funding must have been withdrawn, up to less than one unit of the collateral. -/
def updatePerformanceFee (m : PerpV2BasisTradingModule) (w : World) (env : Env) (newFee : ℕ) :
    Outcome PerpV2BasisTradingModule := do
  validateOnlyManagerAndValidSet w m.address env.sender
  require (newFee ≤ m.feeSettings.maxPerformanceFeePercentage) "Fee must be less than max"
  let remaining ← fromPreciseUnitToDecimals m.settledFunding m.collateralDecimals
  require (remaining = 0) "Non-zero settled funding remains"
  let settings := { m.feeSettings with performanceFeePercentage := newFee }
  pure { m with feeSettings := settings }

def updateFeeRecipient (m : PerpV2BasisTradingModule) (w : World) (env : Env)
    (newFeeRecipient : Address) : Outcome PerpV2BasisTradingModule := do
  validateOnlyManagerAndValidSet w m.address env.sender
  require (newFeeRecipient ≠ 0) "Fee Recipient must be non-zero address"
  let settings := { m.feeSettings with feeRecipient := newFeeRecipient }
  pure { m with feeSettings := settings }

/-! ## Joining and leaving the Set -/

def validateFeeState (settings : FeeState) : Outcome Unit := do
  require (settings.feeRecipient ≠ 0) "Fee Recipient must be non-zero address"
  require (settings.maxPerformanceFeePercentage ≤ preciseUnit) "Max fee must be <= 100%"
  require (settings.performanceFeePercentage ≤ settings.maxPerformanceFeePercentage)
    "Fee must be <= max"

/-- The source calls this function `initialize`. -/
def initializeSetToken (m : PerpV2BasisTradingModule) (issuance : IssuanceTable) (w : World)
    (env : Env) (settings : FeeState) :
    Outcome (PerpV2BasisTradingModule × IssuanceTable × World) := do
  validateFeeState settings
  let (issuance, w) ← m.toPerpV2LeverageModuleV2.initializeSetToken issuance w env
  pure ({ m with feeSettings := settings }, issuance, w)

/-- The callback of `SetToken.removeModule`. -/
def removeModule (m : PerpV2BasisTradingModule) (issuance : IssuanceTable) (w : World) :
    Outcome (PerpV2BasisTradingModule × IssuanceTable) := do
  let (leverage, issuance) ← m.toPerpV2LeverageModuleV2.removeModule issuance w
  pure (⟨leverage, .empty, 0⟩, issuance)

/-! ## Hooks -/

/-- Funding is recorded before the hook of `PerpV2LeverageModuleV2` decides whether to trade. -/
def moduleIssueHook (m : PerpV2BasisTradingModule) (w : World) (env : Env) (caller : Address)
    (setTokenQuantity : ℕ) : Outcome (PerpV2BasisTradingModule × World) := do
  validateOnlyModule w caller
  let m ← m.updateSettledFunding w
  let (leverage, w) ←
    m.toPerpV2LeverageModuleV2.moduleIssueHook w env caller setTokenQuantity
  pure (m.setLeverage leverage, w)

/-- Unlike in `moduleIssueHook`, nothing is recorded when nothing is traded. -/
def moduleRedeemHook (m : PerpV2BasisTradingModule) (w : World) (env : Env) (caller : Address)
    (setTokenQuantity : ℕ) : Outcome (PerpV2BasisTradingModule × World) := do
  validateOnlyModule w caller
  if w.setToken.totalSupply = 0 then
    pure (m, w)
  else if Position.hasExternalPosition w.setToken m.collateralToken = false then
    pure (m, w)
  else do
    let m ← m.updateSettledFunding w
    let (leverage, w, newExternalPositionUnit) ←
      m.executePositionTrades w env setTokenQuantity false false
    let m := m.setLeverage leverage
    let netUnit ← m.calculateNetFeesPositionUnit w newExternalPositionUnit m.settledFunding
    let w ← w.onSetToken fun s ↦
      s.editExternalPositionUnit w.controller m.address m.collateralToken m.address netUnit
    pure (m, w)

/-- The trades of the estimate are simulated. -/
def getRedemptionAdjustments (m : PerpV2BasisTradingModule) (w : World) (env : Env)
    (setTokenQuantity : ℕ) : Outcome (List ℤ × List ℤ) :=
  if 0 < m.positions.length then do
    let updatedSettledFunding ← m.getUpdatedSettledFunding w
    let (leverage, w, newExternalPositionUnit) ←
      m.executePositionTrades w env setTokenQuantity false true
    let m := m.setLeverage leverage
    let netUnit ← m.calculateNetFeesPositionUnit w newExternalPositionUnit updatedSettledFunding
    let currentUnit ← w.setToken.getExternalPositionRealUnit m.collateralToken m.address
    PerpV2LeverageModuleV2.formatAdjustments w m.collateralToken currentUnit netUnit
  else do
    let currentUnit ← w.setToken.getExternalPositionRealUnit m.collateralToken m.address
    PerpV2LeverageModuleV2.formatAdjustments w m.collateralToken currentUnit 0

end PerpV2BasisTradingModule

end SetProtocol
