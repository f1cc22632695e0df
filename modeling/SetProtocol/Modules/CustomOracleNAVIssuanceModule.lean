import SetProtocol.Core.PositionTracking
import SetProtocol.Core.Swap
import SetProtocol.Modules.SetValuer

/-!
# Issuing and redeeming at net asset value

`CustomOracleNavIssuanceModule` mints Sets for a deposit of one reserve asset, and pays out a reserve
asset for burnt Sets, at the value of the Set in that asset.  Both directions change the supply
without touching the other components, so the position multiplier is moved to rescale them, and the
unit of the reserve asset is written anew.
-/

namespace SetProtocol

open PreciseUnitMath ModuleBase

structure NAVIssuanceSettings where
  managerIssuanceHook : Address
  managerRedemptionHook : Address
  /-- Zero stands for the valuer of the Controller. -/
  setValuer : Address
  reserveAssets : List Address
  feeRecipient : Address
  managerIssueFee : ℕ
  managerRedeemFee : ℕ
  maxManagerFee : ℕ
  premiumPercentage : ℕ
  maxPremiumPercentage : ℕ
  minSetTokenSupply : ℕ

structure CustomOracleNAVIssuanceModule where
  address : Address
  settings : NAVIssuanceSettings
  isReserveAsset : Address → Bool

namespace CustomOracleNAVIssuanceModule

/-- The amounts of one issue or redemption. -/
structure ActionInfo where
  preFeeReserveQuantity : ℕ
  protocolFees : ℕ
  managerFee : ℕ
  netFlowQuantity : ℕ
  setTokenQuantity : ℕ
  previousSetTokenSupply : ℕ
  newSetTokenSupply : ℕ
  newPositionMultiplier : ℤ
  newReservePositionUnit : ℕ

/-- The fees of one direction: their indices on the Controller and the manager's percentage. -/
structure FeeSource where
  protocolManagerFeeIndex : ℕ
  protocolDirectFeeIndex : ℕ
  managerFeePercent : ℕ

def issueFees (m : CustomOracleNAVIssuanceModule) : FeeSource := ⟨0, 2, m.settings.managerIssueFee⟩

def redeemFees (m : CustomOracleNAVIssuanceModule) : FeeSource := ⟨1, 3, m.settings.managerRedeemFee⟩

/-! ## Amounts -/

def validateCommon (m : CustomOracleNAVIssuanceModule) (reserveAsset : Address) (quantity : ℕ) :
    Outcome Unit := do
  require (0 < quantity) "Quantity must be > 0"
  require (m.isReserveAsset reserveAsset = true) "Must be valid reserve asset"

/-- The percentages of the protocol and of the manager. -/
def getProtocolAndManagerFeePercentages (m : CustomOracleNAVIssuanceModule) (w : World)
    (fees : FeeSource) : Outcome (ℕ × ℕ) := do
  let directFeePercent := w.controller.getModuleFee m.address fees.protocolDirectFeeIndex
  let managerShareFeePercent := w.controller.getModuleFee m.address fees.protocolManagerFeeIndex
  let protocolRevenueShare ← preciseMul managerShareFeePercent fees.managerFeePercent
  let managerRevenueShare ← SafeMath.sub fees.managerFeePercent protocolRevenueShare
  let totalProtocolFee ← SafeMath.add protocolRevenueShare directFeePercent
  pure (totalProtocolFee, managerRevenueShare)

/-- Protocol fees, manager fee and the quantity net of both. -/
def getFees (m : CustomOracleNAVIssuanceModule) (w : World) (reserveAssetQuantity : ℕ)
    (fees : FeeSource) : Outcome (ℕ × ℕ × ℕ) := do
  let percentages ← m.getProtocolAndManagerFeePercentages w fees
  let protocolFees ← preciseMul percentages.1 reserveAssetQuantity
  let managerFee ← preciseMul percentages.2 reserveAssetQuantity
  let rest ← SafeMath.sub reserveAssetQuantity protocolFees
  let netReserveFlow ← SafeMath.sub rest managerFee
  pure (protocolFees, managerFee, netReserveFlow)

/-- The valuation by the manager's own valuer, or by the one of the Controller. -/
def getSetTokenValuation (m : CustomOracleNAVIssuanceModule) (w : World) (env : Env)
    (reserveAsset : Address) : Outcome ℕ :=
  if m.settings.setValuer = 0 then
    SetValuer.calculateSetTokenValuation w env.priceOracle reserveAsset
  else
    env.customSetValuer m.settings.setValuer reserveAsset

def getSetTokenMintQuantity (m : CustomOracleNAVIssuanceModule) (w : World) (env : Env)
    (reserveAsset : Address) (netReserveFlows setTotalSupply : ℕ) : Outcome ℕ := do
  let premiumValue ← preciseMul netReserveFlows m.settings.premiumPercentage
  let setTokenValuation ← m.getSetTokenValuation w env reserveAsset
  let base := SetValuer.baseUnits (w.erc20 reserveAsset).decimals
  let netFees ← preciseDiv netReserveFlows base
  let netPremium ← SafeMath.sub netReserveFlows premiumValue
  let netFeesAndPremium ← preciseDiv netPremium base
  let value ← preciseMul setTotalSupply setTokenValuation
  let value ← SafeMath.add value netFees
  let denominator ← SafeMath.sub value netFeesAndPremium
  let product ← preciseMul netFeesAndPremium setTotalSupply
  preciseDiv product denominator

def getRedeemReserveQuantity (m : CustomOracleNAVIssuanceModule) (w : World) (env : Env)
    (reserveAsset : Address) (setTokenQuantity : ℕ) : Outcome ℕ := do
  let setTokenValuation ← m.getSetTokenValuation w env reserveAsset
  let totalRedeemValue ← preciseMul setTokenQuantity setTokenValuation
  let base := SetValuer.baseUnits (w.erc20 reserveAsset).decimals
  let prePremiumReserveQuantity ← preciseMul totalRedeemValue base
  let premiumQuantity ← preciseMulCeil prePremiumReserveQuantity m.settings.premiumPercentage
  SafeMath.sub prePremiumReserveQuantity premiumQuantity

/-- The multiplier that keeps the product with the supply: both directions divide by the new supply
and round toward zero. -/
def rescaledMultiplier (w : World) (previousSupply newSupply : ℕ) : Outcome ℤ := do
  let previous ← SafeCast.toInt256 previousSupply
  let product ← SignedSafeMath.mul w.setToken.positionMultiplier previous
  let new ← SafeCast.toInt256 newSupply
  SignedSafeMath.div product new

def getIssuePositionMultiplier (w : World) (setTokenQuantity previousSupply : ℕ) :
    Outcome (ℕ × ℤ) := do
  let newTotalSupply ← SafeMath.add setTokenQuantity previousSupply
  let newPositionMultiplier ← rescaledMultiplier w previousSupply newTotalSupply
  pure (newTotalSupply, newPositionMultiplier)

def getRedeemPositionMultiplier (w : World) (setTokenQuantity previousSupply : ℕ) :
    Outcome (ℕ × ℤ) := do
  let newTotalSupply ← SafeMath.sub previousSupply setTokenQuantity
  let newPositionMultiplier ← rescaledMultiplier w previousSupply newTotalSupply
  pure (newTotalSupply, newPositionMultiplier)

/-- The reserve amount that the unit stands for in the whole supply. -/
def existingReserve (w : World) (reserveAsset : Address) (previousSupply : ℕ) : Outcome ℕ := do
  let existingUnit ← w.setToken.getDefaultPositionRealUnit reserveAsset
  let existingUnit ← SafeCast.toUint256 existingUnit
  preciseMul existingUnit previousSupply

def getIssuePositionUnit (w : World) (reserveAsset : Address)
    (previousSupply netFlowQuantity newSupply : ℕ) : Outcome ℕ := do
  let existing ← existingReserve w reserveAsset previousSupply
  let totalReserve ← SafeMath.add existing netFlowQuantity
  preciseDiv totalReserve newSupply

def getRedeemPositionUnit (w : World) (reserveAsset : Address)
    (previousSupply netFlowQuantity protocolFees managerFee newSupply : ℕ) : Outcome ℕ := do
  let totalExistingUnits ← existingReserve w reserveAsset previousSupply
  let outflow ← SafeMath.add netFlowQuantity protocolFees
  let outflow ← SafeMath.add outflow managerFee
  require (outflow ≤ totalExistingUnits) "Must be greater than total available collateral"
  let rest ← SafeMath.sub totalExistingUnits outflow
  preciseDiv rest newSupply

def createIssuanceInfo (m : CustomOracleNAVIssuanceModule) (w : World) (env : Env)
    (reserveAsset : Address) (reserveAssetQuantity : ℕ) : Outcome ActionInfo := do
  let previousSupply := w.setToken.totalSupply
  let (protocolFees, managerFee, netFlowQuantity) ←
    m.getFees w reserveAssetQuantity m.issueFees
  let setTokenQuantity ←
    m.getSetTokenMintQuantity w env reserveAsset netFlowQuantity previousSupply
  let (newSupply, newPositionMultiplier) ←
    getIssuePositionMultiplier w setTokenQuantity previousSupply
  let newUnit ← getIssuePositionUnit w reserveAsset previousSupply netFlowQuantity newSupply
  pure {
    preFeeReserveQuantity := reserveAssetQuantity
    protocolFees := protocolFees
    managerFee := managerFee
    netFlowQuantity := netFlowQuantity
    setTokenQuantity := setTokenQuantity
    previousSetTokenSupply := previousSupply
    newSetTokenSupply := newSupply
    newPositionMultiplier := newPositionMultiplier
    newReservePositionUnit := newUnit }

def createRedemptionInfo (m : CustomOracleNAVIssuanceModule) (w : World) (env : Env)
    (reserveAsset : Address) (setTokenQuantity : ℕ) : Outcome ActionInfo := do
  let preFeeReserveQuantity ← m.getRedeemReserveQuantity w env reserveAsset setTokenQuantity
  let (protocolFees, managerFee, netFlowQuantity) ←
    m.getFees w preFeeReserveQuantity m.redeemFees
  let previousSupply := w.setToken.totalSupply
  let (newSupply, newPositionMultiplier) ←
    getRedeemPositionMultiplier w setTokenQuantity previousSupply
  let newUnit ← getRedeemPositionUnit w reserveAsset previousSupply netFlowQuantity protocolFees
    managerFee newSupply
  pure {
    preFeeReserveQuantity := preFeeReserveQuantity
    protocolFees := protocolFees
    managerFee := managerFee
    netFlowQuantity := netFlowQuantity
    setTokenQuantity := setTokenQuantity
    previousSetTokenSupply := previousSupply
    newSetTokenSupply := newSupply
    newPositionMultiplier := newPositionMultiplier
    newReservePositionUnit := newUnit }

def validateIssuanceInfo (m : CustomOracleNAVIssuanceModule) (minSetTokenReceiveQuantity : ℕ)
    (info : ActionInfo) : Outcome Unit := do
  require (m.settings.minSetTokenSupply ≤ info.previousSetTokenSupply)
    "Supply must be greater than minimum to enable issuance"
  require (minSetTokenReceiveQuantity ≤ info.setTokenQuantity) "Must be greater than min SetToken"

def validateRedemptionInfo (m : CustomOracleNAVIssuanceModule) (minReserveReceiveQuantity : ℕ)
    (info : ActionInfo) : Outcome Unit := do
  require (m.settings.minSetTokenSupply ≤ info.newSetTokenSupply)
    "Supply must be greater than minimum to enable redemption"
  require (minReserveReceiveQuantity ≤ info.netFlowQuantity)
    "Must be greater than min receive reserve quantity"

/-! ## Transfers and state updates -/

def callPreIssueHooks (m : CustomOracleNAVIssuanceModule) (env : Env) (reserveAsset : Address)
    (quantity : ℕ) (caller recipient : Address) : Outcome Unit :=
  if m.settings.managerIssuanceHook ≠ 0 then
    env.invokePreIssueNAVHook m.settings.managerIssuanceHook reserveAsset quantity caller recipient
  else
    pure ()

def callPreRedeemHooks (m : CustomOracleNAVIssuanceModule) (env : Env) (quantity : ℕ)
    (caller recipient : Address) : Outcome Unit :=
  if m.settings.managerRedemptionHook ≠ 0 then
    env.invokePreRedeemHook m.settings.managerRedemptionHook quantity caller recipient
  else
    pure ()

/-- A fee that the caller pays when it is positive. -/
def collectFee (m : CustomOracleNAVIssuanceModule) (w : World) (env : Env)
    (reserveAsset recipient : Address) (fee : ℕ) : Outcome World :=
  if 0 < fee then
    w.explicitTransferFrom reserveAsset m.address env.sender recipient fee
  else
    pure w

def transferCollateralAndHandleFees (m : CustomOracleNAVIssuanceModule) (w : World) (env : Env)
    (reserveAsset : Address) (info : ActionInfo) : Outcome World := do
  let w ← w.explicitTransferFrom reserveAsset m.address env.sender w.setToken.address
    info.netFlowQuantity
  let w ← m.collectFee w env reserveAsset w.controller.feeRecipient info.protocolFees
  m.collectFee w env reserveAsset m.settings.feeRecipient info.managerFee

/-- The manager's share of a redemption, when there is one. -/
def payManagerFee (m : CustomOracleNAVIssuanceModule) (w : World) (env : Env)
    (reserveAsset : Address) (fee : ℕ) : Outcome World :=
  if 0 < fee then
    w.strictInvokeTransfer env m.address reserveAsset m.settings.feeRecipient fee
  else
    pure w

def handleRedemptionFees (m : CustomOracleNAVIssuanceModule) (w : World) (env : Env)
    (reserveAsset : Address) (info : ActionInfo) : Outcome World := do
  let w ← payProtocolFeeFromSetToken w env m.address reserveAsset info.protocolFees
  m.payManagerFee w env reserveAsset info.managerFee

/-- The edits that `_handleIssueStateUpdates` and `_handleRedeemStateUpdates` share. -/
def rescalePositions (m : CustomOracleNAVIssuanceModule) (w : World) (reserveAsset : Address)
    (info : ActionInfo) : Outcome World := do
  let w ← w.onSetToken fun s ↦
    s.editPositionMultiplier w.controller m.address info.newPositionMultiplier
  w.onSetToken fun s ↦ Position.editDefaultPosition s w.controller m.address reserveAsset
    info.newReservePositionUnit

def handleIssueStateUpdates (m : CustomOracleNAVIssuanceModule) (w : World)
    (reserveAsset recipient : Address) (info : ActionInfo) : Outcome World := do
  let w ← m.rescalePositions w reserveAsset info
  w.onSetToken fun s ↦ s.mint w.controller m.address recipient info.setTokenQuantity

def handleRedeemStateUpdates (m : CustomOracleNAVIssuanceModule) (w : World)
    (reserveAsset : Address) (info : ActionInfo) : Outcome World :=
  m.rescalePositions w reserveAsset info

/-- Returns the new state and the amounts of the issue. -/
def issue (m : CustomOracleNAVIssuanceModule) (w : World) (env : Env) (reserveAsset : Address)
    (reserveAssetQuantity minSetTokenReceiveQuantity : ℕ) (recipient : Address) :
    Outcome (World × ActionInfo) := do
  validateOnlyValidAndInitializedSet w m.address
  m.validateCommon reserveAsset reserveAssetQuantity
  m.callPreIssueHooks env reserveAsset reserveAssetQuantity env.sender recipient
  let info ← m.createIssuanceInfo w env reserveAsset reserveAssetQuantity
  m.validateIssuanceInfo minSetTokenReceiveQuantity info
  let w ← m.transferCollateralAndHandleFees w env reserveAsset info
  let w ← m.handleIssueStateUpdates w reserveAsset recipient info
  pure (w, info)

/-- Returns the new state and the amounts of the redemption. -/
def redeem (m : CustomOracleNAVIssuanceModule) (w : World) (env : Env) (reserveAsset : Address)
    (setTokenQuantity minReserveReceiveQuantity : ℕ) (recipient : Address) :
    Outcome (World × ActionInfo) := do
  validateOnlyValidAndInitializedSet w m.address
  m.validateCommon reserveAsset setTokenQuantity
  m.callPreRedeemHooks env setTokenQuantity env.sender recipient
  let info ← m.createRedemptionInfo w env reserveAsset setTokenQuantity
  m.validateRedemptionInfo minReserveReceiveQuantity info
  let w ← w.onSetToken fun s ↦ s.burn w.controller m.address env.sender setTokenQuantity
  let w ← w.strictInvokeTransfer env m.address reserveAsset recipient info.netFlowQuantity
  let w ← m.handleRedemptionFees w env reserveAsset info
  let w ← m.handleRedeemStateUpdates w reserveAsset info
  pure (w, info)

/-! ## Settings -/

/-- The settings after `removeModule`: the zero value of every field. -/
def emptySettings : NAVIssuanceSettings where
  managerIssuanceHook := 0
  managerRedemptionHook := 0
  setValuer := 0
  reserveAssets := []
  feeRecipient := 0
  managerIssueFee := 0
  managerRedeemFee := 0
  maxManagerFee := 0
  premiumPercentage := 0
  maxPremiumPercentage := 0
  minSetTokenSupply := 0

def setReserveAsset (m : CustomOracleNAVIssuanceModule) (reserveAsset : Address) (listed : Bool) :
    CustomOracleNAVIssuanceModule :=
  { m with isReserveAsset := Function.update m.isReserveAsset reserveAsset listed }

/-- One pass of the loop of `initialize`. -/
def enterReserveAsset (m : CustomOracleNAVIssuanceModule) (reserveAsset : Address) :
    Outcome CustomOracleNAVIssuanceModule := do
  require (m.isReserveAsset reserveAsset = false) "Reserve assets must be unique"
  pure (m.setReserveAsset reserveAsset true)

/-- The source calls this function `initialize`. -/
def initializeSetToken (m : CustomOracleNAVIssuanceModule) (w : World) (env : Env)
    (settings : NAVIssuanceSettings) : Outcome (CustomOracleNAVIssuanceModule × World) := do
  validateOnlySetManager w env.sender
  validateOnlyValidAndPendingSet w m.address
  require (0 < settings.reserveAssets.length) "Reserve assets must be greater than 0"
  require (settings.maxManagerFee < preciseUnit) "Max manager fee must be less than 100%"
  require (settings.maxPremiumPercentage < preciseUnit)
    "Max premium percentage must be less than 100%"
  require (settings.managerIssueFee ≤ settings.maxManagerFee)
    "Manager issue fee must be less than max"
  require (settings.managerRedeemFee ≤ settings.maxManagerFee)
    "Manager redeem fee must be less than max"
  require (settings.premiumPercentage ≤ settings.maxPremiumPercentage)
    "Premium must be less than max"
  require (settings.feeRecipient ≠ 0) "Fee Recipient must be non-zero address."
  require (0 < settings.minSetTokenSupply) "Min SetToken supply must be greater than 0"
  let m ← settings.reserveAssets.foldlM enterReserveAsset m
  let w ← w.onSetToken fun s ↦ s.initializeModule m.address
  pure ({ m with settings := settings }, w)

def removeModule (m : CustomOracleNAVIssuanceModule) : CustomOracleNAVIssuanceModule :=
  let m := m.settings.reserveAssets.foldl (fun m asset ↦ m.setReserveAsset asset false) m
  { m with settings := emptySettings }

def addReserveAsset (m : CustomOracleNAVIssuanceModule) (w : World) (env : Env)
    (reserveAsset : Address) : Outcome CustomOracleNAVIssuanceModule := do
  validateOnlyManagerAndValidSet w m.address env.sender
  require (m.isReserveAsset reserveAsset = false) "Reserve asset already exists"
  let settings := { m.settings with reserveAssets := m.settings.reserveAssets ++ [reserveAsset] }
  pure { m.setReserveAsset reserveAsset true with settings := settings }

def removeReserveAsset (m : CustomOracleNAVIssuanceModule) (w : World) (env : Env)
    (reserveAsset : Address) : Outcome CustomOracleNAVIssuanceModule := do
  validateOnlyManagerAndValidSet w m.address env.sender
  require (m.isReserveAsset reserveAsset = true) "Reserve asset does not exist"
  let reserveAssets ← AddressArrayUtils.remove m.settings.reserveAssets reserveAsset
  let settings := { m.settings with reserveAssets := reserveAssets }
  pure { m.setReserveAsset reserveAsset false with settings := settings }

def editPremium (m : CustomOracleNAVIssuanceModule) (w : World) (env : Env)
    (premiumPercentage : ℕ) : Outcome CustomOracleNAVIssuanceModule := do
  validateOnlyManagerAndValidSet w m.address env.sender
  require (premiumPercentage ≤ m.settings.maxPremiumPercentage)
    "Premium must be less than maximum allowed"
  let settings := { m.settings with premiumPercentage := premiumPercentage }
  pure { m with settings := settings }

/-- The fees are an array of two: issue and redeem. -/
def setManagerFee (settings : NAVIssuanceSettings) (managerFeeIndex managerFeePercentage : ℕ) :
    Outcome NAVIssuanceSettings :=
  match managerFeeIndex with
  | 0 => pure { settings with managerIssueFee := managerFeePercentage }
  | 1 => pure { settings with managerRedeemFee := managerFeePercentage }
  | _ => throw "invalid opcode"

def editManagerFee (m : CustomOracleNAVIssuanceModule) (w : World) (env : Env)
    (managerFeePercentage managerFeeIndex : ℕ) : Outcome CustomOracleNAVIssuanceModule := do
  validateOnlyManagerAndValidSet w m.address env.sender
  require (managerFeePercentage ≤ m.settings.maxManagerFee)
    "Manager fee must be less than maximum allowed"
  let settings ← setManagerFee m.settings managerFeeIndex managerFeePercentage
  pure { m with settings := settings }

def editFeeRecipient (m : CustomOracleNAVIssuanceModule) (w : World) (env : Env)
    (managerFeeRecipient : Address) : Outcome CustomOracleNAVIssuanceModule := do
  validateOnlyManagerAndValidSet w m.address env.sender
  require (managerFeeRecipient ≠ 0) "Fee recipient must not be 0 address"
  let settings := { m.settings with feeRecipient := managerFeeRecipient }
  pure { m with settings := settings }

/-! ## Getters -/

def getExpectedSetTokenIssueQuantity (m : CustomOracleNAVIssuanceModule) (w : World) (env : Env)
    (reserveAsset : Address) (reserveAssetQuantity : ℕ) : Outcome ℕ := do
  let fees ← m.getFees w reserveAssetQuantity m.issueFees
  m.getSetTokenMintQuantity w env reserveAsset fees.2.2 w.setToken.totalSupply

def getExpectedReserveRedeemQuantity (m : CustomOracleNAVIssuanceModule) (w : World) (env : Env)
    (reserveAsset : Address) (setTokenQuantity : ℕ) : Outcome ℕ := do
  let preFeeReserveQuantity ← m.getRedeemReserveQuantity w env reserveAsset setTokenQuantity
  let fees ← m.getFees w preFeeReserveQuantity m.redeemFees
  pure fees.2.2

def isIssueValid (m : CustomOracleNAVIssuanceModule) (w : World) (reserveAsset : Address)
    (reserveAssetQuantity : ℕ) : Bool :=
  decide (reserveAssetQuantity ≠ 0) && m.isReserveAsset reserveAsset &&
    decide (m.settings.minSetTokenSupply ≤ w.setToken.totalSupply)

/-- The last comparison of `isRedeemValid`: the expected amount is the net one. -/
def hasRedeemCollateral (m : CustomOracleNAVIssuanceModule) (w : World) (env : Env)
    (reserveAsset : Address) (setTokenQuantity : ℕ) : Outcome Bool := do
  let expectedRedeemQuantity ←
    m.getExpectedReserveRedeemQuantity w env reserveAsset setTokenQuantity
  let existing ← existingReserve w reserveAsset w.setToken.totalSupply
  pure (decide (expectedRedeemQuantity ≤ existing))

def isRedeemValid (m : CustomOracleNAVIssuanceModule) (w : World) (env : Env)
    (reserveAsset : Address) (setTokenQuantity : ℕ) : Outcome Bool :=
  if setTokenQuantity = 0 ∨ m.isReserveAsset reserveAsset = false then
    pure false
  else do
    let needed ← SafeMath.add m.settings.minSetTokenSupply setTokenQuantity
    if w.setToken.totalSupply < needed then
      pure false
    else
      m.hasRedeemCollateral w env reserveAsset setTokenQuantity

/-! ## Supply, multiplier and balances afterwards -/

variable {m : CustomOracleNAVIssuanceModule} {w w' : World} {env : Env} {info : ActionInfo}
  {reserveAsset recipient : Address} {quantity minimum : ℕ}

/-- The bounds that `initialize` checks and the setters keep. -/
structure ValidSettings (settings : NAVIssuanceSettings) : Prop where
  maxManagerFee_lt : settings.maxManagerFee < preciseUnit
  maxPremiumPercentage_lt : settings.maxPremiumPercentage < preciseUnit
  managerIssueFee_le : settings.managerIssueFee ≤ settings.maxManagerFee
  managerRedeemFee_le : settings.managerRedeemFee ≤ settings.maxManagerFee
  premiumPercentage_le : settings.premiumPercentage ≤ settings.maxPremiumPercentage

theorem initializeSetToken_valid {m' : CustomOracleNAVIssuanceModule}
    {settings : NAVIssuanceSettings}
    (h : m.initializeSetToken w env settings = .ok (m', w')) : ValidSettings m'.settings := by
  simp only [initializeSetToken, Outcome.bind_eq_ok, Outcome.require_eq_ok, Outcome.pure_eq_ok,
    Prod.mk.injEq] at h
  obtain ⟨_, -, _, -, _, -, _, hmaxFee, _, hmaxPremium, _, hissue, _, hredeem, _, hpremium, _, -, _,
    -, _, -, _, -, rfl, -⟩ := h
  exact ⟨hmaxFee, hmaxPremium, hissue, hredeem, hpremium⟩

theorem editPremium_valid {m' : CustomOracleNAVIssuanceModule} {premium : ℕ}
    (h : m.editPremium w env premium = .ok m') (hvalid : ValidSettings m.settings) :
    ValidSettings m'.settings := by
  simp only [editPremium, Outcome.bind_eq_ok, Outcome.require_eq_ok, Outcome.pure_eq_ok] at h
  obtain ⟨_, -, _, hle, rfl⟩ := h
  exact ⟨hvalid.1, hvalid.2, hvalid.3, hvalid.4, hle⟩

theorem editManagerFee_valid {m' : CustomOracleNAVIssuanceModule} {fee index : ℕ}
    (h : m.editManagerFee w env fee index = .ok m') (hvalid : ValidSettings m.settings) :
    ValidSettings m'.settings := by
  simp only [editManagerFee, Outcome.bind_eq_ok, Outcome.require_eq_ok, Outcome.pure_eq_ok] at h
  obtain ⟨_, -, _, hle, settings, hset, rfl⟩ := h
  unfold setManagerFee at hset
  split at hset
  case h_1 =>
    obtain rfl := Outcome.pure_eq_ok.mp hset
    exact ⟨hvalid.1, hvalid.2, hle, hvalid.4, hvalid.5⟩
  case h_2 =>
    obtain rfl := Outcome.pure_eq_ok.mp hset
    exact ⟨hvalid.1, hvalid.2, hvalid.3, hle, hvalid.5⟩
  case h_3 => exact absurd hset (by simp)

/-- Tokens move: the positions stay as they are, and only the balance of the reserve asset may
fall. -/
structure Flow (w w' : World) (reserveAsset : Address) : Prop where
  controller : w'.controller = w.controller
  setToken : ∃ t : ERC20, w'.setToken = w.setToken.setErc20 t
  decimals : ∀ t, (w'.erc20 t).decimals = (w.erc20 t).decimals
  balance_le : ∀ c, c ≠ reserveAsset → w.balance c ≤ w'.balance c
  balance_eq : ∀ c, c ≠ reserveAsset → c ≠ w.setToken.address → w'.balance c = w.balance c

namespace Flow

theorem address (h : Flow w w' reserveAsset) : w'.setToken.address = w.setToken.address := by
  obtain ⟨t, ht⟩ := h.setToken
  simp [ht]

theorem trans {w₁ w₂ w₃ : World} (h : Flow w₁ w₂ reserveAsset) (h' : Flow w₂ w₃ reserveAsset) :
    Flow w₁ w₃ reserveAsset where
  controller := h'.controller.trans h.controller
  setToken := by
    obtain ⟨t, ht⟩ := h.setToken
    obtain ⟨t', ht'⟩ := h'.setToken
    refine ⟨t', ?_⟩
    rw [ht', ht]
    rfl
  decimals := fun t ↦ (h'.decimals t).trans (h.decimals t)
  balance_le := fun c hc ↦ (h.balance_le c hc).trans (h'.balance_le c hc)
  balance_eq := by
    intro c hc hself
    rw [h'.balance_eq c hc (by rwa [h.address]), h.balance_eq c hc hself]

theorem of_move (h : w.MoveStep w' reserveAsset) : Flow w w' reserveAsset where
  controller := h.controller
  setToken := by
    obtain ⟨t, ht, -⟩ := h.setToken
    exact ⟨t, ht⟩
  decimals := h.decimals
  balance_le := fun _ hc ↦ (h.balance_of_ne hc).ge
  balance_eq := fun _ hc _ ↦ h.balance_of_ne hc

/-- The SetToken's own token changes, without a loss for the SetToken itself. -/
theorem of_setErc20 {t : ERC20} (hdecimals : t.decimals = w.setToken.erc20.decimals)
    (hbalance : ∀ c, w.balance c ≤ World.balance { w with setToken := w.setToken.setErc20 t } c) :
    Flow w { w with setToken := w.setToken.setErc20 t } reserveAsset where
  controller := rfl
  setToken := ⟨t, rfl⟩
  decimals := by
    intro c
    by_cases hc : c = w.setToken.address
    · simp [World.erc20, hc, hdecimals]
    · simp [World.erc20, hc]
  balance_le := fun c _ ↦ hbalance c
  balance_eq := by
    intro c _ hc
    rw [World.balance_setToken_setErc20, if_neg hc]

end Flow

/-- Minting raises the supply and lowers no balance. -/
theorem mint_flow {account : Address}
    (h : (w.onSetToken fun s ↦ s.mint w.controller m.address account quantity) = .ok w') :
    Flow w w' reserveAsset ∧ w'.setToken.totalSupply = w.setToken.totalSupply + quantity ∧
      ∀ c, w.balance c ≤ w'.balance c := by
  simp only [World.onSetToken, Outcome.bind_eq_ok, SetToken.mint_eq_ok, Outcome.pure_eq_ok] at h
  obtain ⟨_, ⟨-, t, ht, rfl⟩, rfl⟩ := h
  obtain ⟨hsupply, hdecimals, haccount, hother⟩ := ERC20.mint_ok ht
  have hbalance : ∀ c, w.balance c ≤
      World.balance { w with setToken := w.setToken.setErc20 t } c := by
    intro c
    rw [World.balance_setToken_setErc20]
    split_ifs with hc
    · subst hc
      rw [World.balance_self]
      by_cases hself : w.setToken.address = account
      · rw [hself, haccount]
        exact Nat.le_add_right _ _
      · exact (hother _ hself).ge
    · exact le_rfl
  exact ⟨Flow.of_setErc20 hdecimals hbalance, hsupply, hbalance⟩

/-- Burning Sets of an account other than the SetToken lowers the supply. -/
theorem burn_flow {account : Address}
    (h : (w.onSetToken fun s ↦ s.burn w.controller m.address account quantity) = .ok w')
    (haccount : account ≠ w.setToken.address) :
    Flow w w' reserveAsset ∧ w'.setToken.totalSupply = w.setToken.totalSupply - quantity ∧
      ∀ c, w'.balance c = w.balance c := by
  simp only [World.onSetToken, Outcome.bind_eq_ok, SetToken.burn_eq_ok, Outcome.pure_eq_ok] at h
  obtain ⟨_, ⟨-, t, ht, rfl⟩, rfl⟩ := h
  obtain ⟨-, hsupply, hdecimals, -, -, hother⟩ := ERC20.burn_ok ht
  have hbalance : ∀ c, World.balance { w with setToken := w.setToken.setErc20 t } c =
      w.balance c := by
    intro c
    rw [World.balance_setToken_setErc20]
    split_ifs with hc
    · rw [hc, World.balance_self, hother _ haccount.symm]
    · rfl
  exact ⟨Flow.of_setErc20 hdecimals fun c ↦ (hbalance c).ge, hsupply, hbalance⟩

theorem collectFee_moveStep {fee : ℕ}
    (h : m.collectFee w env reserveAsset recipient fee = .ok w')
    (hsender : env.sender ≠ w.setToken.address) :
    w.MoveStep w' reserveAsset ∧ w.balance reserveAsset ≤ w'.balance reserveAsset := by
  unfold collectFee at h
  split_ifs at h
  · obtain ⟨hmove, hle⟩ := World.explicitTransferFrom_moveStep h
    exact ⟨hmove, hle hsender⟩
  · obtain rfl := Outcome.pure_eq_ok.mp h
    exact ⟨.refl w reserveAsset, le_rfl⟩

/-- The deposit arrives in full. -/
theorem transferCollateralAndHandleFees_moveStep
    (h : m.transferCollateralAndHandleFees w env reserveAsset info = .ok w')
    (hsender : env.sender ≠ w.setToken.address) :
    w.MoveStep w' reserveAsset ∧
      w.balance reserveAsset + info.netFlowQuantity ≤ w'.balance reserveAsset := by
  simp only [transferCollateralAndHandleFees, Outcome.bind_eq_ok] at h
  obtain ⟨v, hdeposit, u, hprotocol, hmanager⟩ := h
  have hmove := (World.explicitTransferFrom_moveStep hdeposit).1
  have hreceived := World.explicitTransferFrom_received hdeposit
  obtain ⟨hmove', hle'⟩ := collectFee_moveStep hprotocol (by rwa [hmove.address])
  obtain ⟨hmove'', hle''⟩ :=
    collectFee_moveStep hmanager (by rwa [hmove'.address, hmove.address])
  refine ⟨hmove.trans (hmove'.trans hmove''), ?_⟩
  omega

theorem payManagerFee_moveStep {fee : ℕ} (h : m.payManagerFee w env reserveAsset fee = .ok w') :
    w.MoveStep w' reserveAsset ∧ fee ≤ w.balance reserveAsset ∧
      w'.balance reserveAsset = w.balance reserveAsset - fee := by
  unfold payManagerFee at h
  split_ifs at h
  · exact World.strictInvokeTransfer_moveStep h
  · obtain rfl := Outcome.pure_eq_ok.mp h
    exact ⟨.refl w reserveAsset, by omega, by omega⟩

theorem handleRedemptionFees_moveStep
    (h : m.handleRedemptionFees w env reserveAsset info = .ok w') :
    w.MoveStep w' reserveAsset ∧ w.balance reserveAsset =
      w'.balance reserveAsset + info.protocolFees + info.managerFee := by
  simp only [handleRedemptionFees, Outcome.bind_eq_ok] at h
  obtain ⟨v, hprotocol, hmanager⟩ := h
  obtain ⟨hmove, hle, hbalance⟩ := payProtocolFeeFromSetToken_moveStep hprotocol
  obtain ⟨hmove', hle', hbalance'⟩ := payManagerFee_moveStep hmanager
  refine ⟨hmove.trans hmove', ?_⟩
  omega

theorem setMultiplier_totalSupply (w : World) (multiplier : ℤ) :
    (w.setMultiplier multiplier).setToken.totalSupply = w.setToken.totalSupply := rfl

/-- The multiplier moves and one unit is rewritten. -/
theorem rescalePositions_ok (h : m.rescalePositions w reserveAsset info = .ok w') :
    0 < info.newPositionMultiplier ∧
      (∀ c ∈ w.setToken.components, 0 ≤ w.setToken.defaultPositionVirtualUnit c) ∧
      DefaultEdit (w.setMultiplier info.newPositionMultiplier) w' reserveAsset ∧
      w'.setToken.defaultRealUnit reserveAsset ≤ info.newReservePositionUnit := by
  simp only [rescalePositions, World.onSetToken, Outcome.bind_eq_ok,
    SetToken.editPositionMultiplier_eq_ok, Outcome.pure_eq_ok] at h
  obtain ⟨_, ⟨_, ⟨-, hvalid, rfl⟩, rfl⟩, s, hedit, rfl⟩ := h
  obtain ⟨low, hbounds, hlow⟩ := SetToken.validateNewMultiplier_ok hvalid
  have hpos : 0 < info.newPositionMultiplier := (SetToken.mul_pos_of_ediv_pos hlow).1
  obtain ⟨hdefault, hle⟩ := editDefaultPosition_defaultEdit
    (w := w.setMultiplier info.newPositionMultiplier) hedit hpos
  exact ⟨hpos, fun c hc ↦ (hbounds c hc).default_nonneg, hdefault, hle⟩

/-- The new supply and multiplier, for either direction. -/
theorem rescaledMultiplier_ok {supply newSupply : ℕ} {multiplier : ℤ}
    (h : rescaledMultiplier w supply newSupply = .ok multiplier) :
    0 < newSupply ∧
      multiplier = (w.setToken.positionMultiplier * supply).tdiv newSupply := by
  simp only [rescaledMultiplier, Outcome.bind_eq_ok, SafeCast.toInt256_eq_ok,
    SignedSafeMath.mul_eq_ok, SignedSafeMath.div_eq_ok] at h
  obtain ⟨_, ⟨-, rfl⟩, _, ⟨-, rfl⟩, _, ⟨-, rfl⟩, hne, -, rfl⟩ := h
  exact ⟨by omega, rfl⟩

/-- The amount of the reserve asset that the unit of the state stands for. -/
def trackedReserve (w : World) (reserveAsset : Address) : ℕ :=
  (w.setToken.defaultRealUnit reserveAsset).toNat * w.setToken.totalSupply / preciseUnit

theorem existingReserve_ok {existing : ℕ}
    (h : existingReserve w reserveAsset w.setToken.totalSupply = .ok existing) :
    0 ≤ w.setToken.defaultRealUnit reserveAsset ∧ existing = trackedReserve w reserveAsset := by
  simp only [existingReserve, Outcome.bind_eq_ok, SetToken.getDefaultPositionRealUnit_eq_ok,
    SafeCast.toUint256_eq_ok, preciseMul_eq_ok] at h
  obtain ⟨_, ⟨-, rfl⟩, unit, hunit, -, rfl⟩ := h
  unfold trackedReserve
  rw [hunit]
  exact ⟨Int.natCast_nonneg unit, rfl⟩

/-- The tracked amount is worth at most the exact product of supply and unit. -/
theorem trackedReserve_mul_le (hunit : 0 ≤ w.setToken.defaultRealUnit reserveAsset) :
    (trackedReserve w reserveAsset : ℤ) * preciseUnitInt ≤
      w.setToken.totalSupply * w.setToken.defaultRealUnit reserveAsset := by
  have hfloor := Nat.div_mul_le_self
    ((w.setToken.defaultRealUnit reserveAsset).toNat * w.setToken.totalSupply) preciseUnit
  calc (trackedReserve w reserveAsset : ℤ) * preciseUnitInt
      = ((trackedReserve w reserveAsset * preciseUnit : ℕ) : ℤ) := by
        rw [preciseUnitInt_eq, Nat.cast_mul]
    _ ≤ (((w.setToken.defaultRealUnit reserveAsset).toNat * w.setToken.totalSupply : ℕ) : ℤ) :=
        Int.ofNat_le.mpr hfloor
    _ = w.setToken.totalSupply * w.setToken.defaultRealUnit reserveAsset := by
        rw [Nat.cast_mul, Int.toNat_of_nonneg hunit, mul_comm]

theorem trackedReserve_le_balance (hcovered : Covered w reserveAsset)
    (hunit : 0 ≤ w.setToken.defaultRealUnit reserveAsset) :
    trackedReserve w reserveAsset ≤ w.balance reserveAsset := by
  have hle := (trackedReserve_mul_le hunit).trans hcovered
  exact_mod_cast le_of_mul_le_mul_right hle preciseUnitInt_pos

/-- The amounts of an issue. -/
structure IssueAmounts (m : CustomOracleNAVIssuanceModule) (w : World) (env : Env)
    (reserveAsset : Address) (quantity : ℕ) (info : ActionInfo) : Prop where
  fees : m.getFees w quantity m.issueFees =
    .ok (info.protocolFees, info.managerFee, info.netFlowQuantity)
  minted : m.getSetTokenMintQuantity w env reserveAsset info.netFlowQuantity
    w.setToken.totalSupply = .ok info.setTokenQuantity
  supply_pos : 0 < info.newSetTokenSupply
  supply : info.newSetTokenSupply = w.setToken.totalSupply + info.setTokenQuantity
  multiplier : info.newPositionMultiplier =
    (w.setToken.positionMultiplier * w.setToken.totalSupply).tdiv info.newSetTokenSupply
  unit_nonneg : 0 ≤ w.setToken.defaultRealUnit reserveAsset
  newUnit : info.newReservePositionUnit =
    (trackedReserve w reserveAsset + info.netFlowQuantity) * preciseUnit / info.newSetTokenSupply

theorem createIssuanceInfo_ok (h : m.createIssuanceInfo w env reserveAsset quantity = .ok info) :
    m.IssueAmounts w env reserveAsset quantity info := by
  simp only [createIssuanceInfo, getIssuePositionMultiplier, getIssuePositionUnit,
    Outcome.bind_eq_ok, Outcome.pure_eq_ok, Prod.exists, Prod.mk.injEq, SafeMath.add_eq_ok,
    preciseDiv_eq_ok] at h
  obtain ⟨protocolFees, managerFee, net, hfees, minted, hminted, _, multiplier,
    ⟨_, ⟨-, rfl⟩, _, hmultiplier, rfl, rfl⟩, newUnit,
    ⟨existing, hexisting, _, ⟨-, rfl⟩, -, -, rfl⟩, rfl⟩ := h
  obtain ⟨hpos, rfl⟩ := rescaledMultiplier_ok hmultiplier
  obtain ⟨hunit, rfl⟩ := existingReserve_ok hexisting
  exact ⟨hfees, hminted, hpos, add_comm _ _, rfl, hunit, rfl⟩

/-- The amounts of a redemption. -/
structure RedeemAmounts (m : CustomOracleNAVIssuanceModule) (w : World) (env : Env)
    (reserveAsset : Address) (quantity : ℕ) (info : ActionInfo) : Prop where
  paid : m.getRedeemReserveQuantity w env reserveAsset quantity = .ok info.preFeeReserveQuantity
  fees : m.getFees w info.preFeeReserveQuantity m.redeemFees =
    .ok (info.protocolFees, info.managerFee, info.netFlowQuantity)
  supply_pos : 0 < info.newSetTokenSupply
  supply : info.newSetTokenSupply = w.setToken.totalSupply - quantity
  multiplier : info.newPositionMultiplier =
    (w.setToken.positionMultiplier * w.setToken.totalSupply).tdiv info.newSetTokenSupply
  unit_nonneg : 0 ≤ w.setToken.defaultRealUnit reserveAsset
  outflow_le : info.netFlowQuantity + info.protocolFees + info.managerFee ≤
    trackedReserve w reserveAsset
  newUnit : info.newReservePositionUnit =
    (trackedReserve w reserveAsset -
      (info.netFlowQuantity + info.protocolFees + info.managerFee)) * preciseUnit /
        info.newSetTokenSupply

theorem createRedemptionInfo_ok
    (h : m.createRedemptionInfo w env reserveAsset quantity = .ok info) :
    m.RedeemAmounts w env reserveAsset quantity info := by
  simp only [createRedemptionInfo, getRedeemPositionMultiplier, getRedeemPositionUnit,
    Outcome.bind_eq_ok, Outcome.pure_eq_ok, Outcome.require_eq_ok, Prod.exists, Prod.mk.injEq,
    SafeMath.add_eq_ok, SafeMath.sub_eq_ok, preciseDiv_eq_ok] at h
  obtain ⟨pre, hpre, protocolFees, managerFee, net, hfees, _, multiplier,
    ⟨_, ⟨-, rfl⟩, _, hmultiplier, rfl, rfl⟩, newUnit,
    ⟨existing, hexisting, _, ⟨-, rfl⟩, _, ⟨-, rfl⟩, _, -, _, ⟨hle, rfl⟩, -, -, rfl⟩, rfl⟩ := h
  obtain ⟨hpos, rfl⟩ := rescaledMultiplier_ok hmultiplier
  obtain ⟨hunit, rfl⟩ := existingReserve_ok hexisting
  exact ⟨hpre, hfees, hpos, rfl, rfl, hunit, hle, rfl⟩

/-- What an issue or a redemption leaves: the multiplier follows the supply, one unit is rewritten,
and no balance but that of the reserve asset falls. -/
structure Rescale (w w' : World) (reserveAsset : Address) (newUnit : ℕ) : Prop where
  address : w'.setToken.address = w.setToken.address
  decimals : ∀ t, (w'.erc20 t).decimals = (w.erc20 t).decimals
  supply_pos : 0 < w'.setToken.totalSupply
  multiplier : w'.setToken.positionMultiplier =
    (w.setToken.positionMultiplier * w.setToken.totalSupply).tdiv w'.setToken.totalSupply
  multiplier_pos : 0 < w'.setToken.positionMultiplier
  units_nonneg : ∀ c ∈ w.setToken.components, 0 ≤ w.setToken.defaultPositionVirtualUnit c
  other_unit : ∀ c, c ≠ reserveAsset →
    w'.setToken.defaultPositionVirtualUnit c = w.setToken.defaultPositionVirtualUnit c
  other_mem : ∀ c, c ≠ reserveAsset → (c ∈ w'.setToken.components ↔ c ∈ w.setToken.components)
  externalPositionModules : ∀ c,
    w'.setToken.externalPositionModules c = w.setToken.externalPositionModules c
  nodup : w.setToken.components.Nodup → w'.setToken.components.Nodup
  unit_le : w'.setToken.defaultRealUnit reserveAsset ≤ newUnit
  balance_le : ∀ c, c ≠ reserveAsset → w.balance c ≤ w'.balance c
  balance_eq : ∀ c, c ≠ reserveAsset → c ≠ w.setToken.address → w'.balance c = w.balance c

/-- Tokens flow, the positions are rescaled, and tokens flow again. -/
theorem rescale_of_flows {v u : World} (hbefore : Flow w v reserveAsset)
    (hedit : m.rescalePositions v reserveAsset info = .ok u) (hafter : Flow u w' reserveAsset)
    (hsupply : w'.setToken.totalSupply = info.newSetTokenSupply)
    (hpos : 0 < info.newSetTokenSupply)
    (hmultiplier : info.newPositionMultiplier =
      (w.setToken.positionMultiplier * w.setToken.totalSupply).tdiv info.newSetTokenSupply) :
    Rescale w w' reserveAsset info.newReservePositionUnit := by
  obtain ⟨hpositive, hunits, hdefault, hle⟩ := rescalePositions_ok hedit
  obtain ⟨t, ht⟩ := hbefore.setToken
  obtain ⟨t', ht'⟩ := hafter.setToken
  have haddress : u.setToken.address = v.setToken.address := hdefault.frame.address
  have hnew : w'.setToken.positionMultiplier = info.newPositionMultiplier := by
    rw [ht', SetToken.setErc20_positionMultiplier]
    exact hdefault.frame.positionMultiplier
  constructor
  · rw [hafter.address, haddress, hbefore.address]
  · intro c
    rw [hafter.decimals, ← hbefore.decimals]
    unfold World.erc20
    rw [hdefault.chain, hdefault.frame.address, hdefault.frame.erc20]
    rfl
  · rw [hsupply]
    exact hpos
  · rw [hnew, hsupply, hmultiplier]
  · rw [hnew]
    exact hpositive
  · rw [ht] at hunits
    exact hunits
  · intro c hc
    have hother := hdefault.other_unit c hc
    rw [ht']
    refine hother.trans ?_
    rw [World.setMultiplier, ht]
    rfl
  · intro c hc
    have hmem := hdefault.other_mem c hc
    rw [ht']
    refine hmem.trans ?_
    rw [World.setMultiplier, ht]
    rfl
  · intro c
    have hexternal := hdefault.externalPositionModules c
    rw [ht']
    refine hexternal.trans ?_
    rw [World.setMultiplier, ht]
    rfl
  · intro hnodup
    rw [ht']
    refine hdefault.nodup ?_
    rw [World.setMultiplier, ht]
    exact hnodup
  · rw [ht']
    exact hle
  · intro c hc
    calc w.balance c ≤ v.balance c := hbefore.balance_le c hc
      _ = u.balance c := (hdefault.balance c).symm
      _ ≤ w'.balance c := hafter.balance_le c hc
  · intro c hc hself
    have hu : c ≠ u.setToken.address := by
      rw [haddress, hbefore.address]
      exact hself
    calc w'.balance c = u.balance c := hafter.balance_eq c hc hu
      _ = v.balance c := hdefault.balance c
      _ = w.balance c := hbefore.balance_eq c hc hself

/-- An issue rescales the positions for the larger supply; the deposit is in the SetToken. -/
theorem issue_ok
    (h : m.issue w env reserveAsset quantity minimum recipient = .ok (w', info))
    (hsender : env.sender ≠ w.setToken.address) :
    m.IssueAmounts w env reserveAsset quantity info ∧
      Rescale w w' reserveAsset info.newReservePositionUnit ∧
      w'.setToken.totalSupply = info.newSetTokenSupply ∧
      w.balance reserveAsset + info.netFlowQuantity ≤ w'.balance reserveAsset := by
  simp only [issue, handleIssueStateUpdates, Outcome.bind_eq_ok, Outcome.pure_eq_ok,
    Prod.mk.injEq] at h
  obtain ⟨_, -, _, -, _, -, info, hinfo, _, -, v, htransfer, w', ⟨u, hedit, hmint⟩, rfl, rfl⟩ := h
  have hamounts := createIssuanceInfo_ok hinfo
  obtain ⟨hmove, hreceived⟩ := transferCollateralAndHandleFees_moveStep htransfer hsender
  obtain ⟨-, -, hdefault, -⟩ := rescalePositions_ok hedit
  obtain ⟨hflow, hminted, hbalance⟩ := mint_flow hmint
  have hsupply := hamounts.supply
  rw [← hmove.totalSupply, ← setMultiplier_totalSupply, ← hdefault.totalSupply, ← hminted]
    at hsupply
  refine ⟨hamounts, ?_, hsupply.symm, ?_⟩
  · exact rescale_of_flows (.of_move hmove) hedit hflow hsupply.symm hamounts.supply_pos
      hamounts.multiplier
  · calc w.balance reserveAsset + info.netFlowQuantity ≤ v.balance reserveAsset := hreceived
      _ = u.balance reserveAsset := (hdefault.balance reserveAsset).symm
      _ ≤ w'.balance reserveAsset := hbalance reserveAsset

/-- A redemption rescales the positions for the smaller supply; the payments have left the
SetToken. -/
theorem redeem_ok
    (h : m.redeem w env reserveAsset quantity minimum recipient = .ok (w', info))
    (hsender : env.sender ≠ w.setToken.address) :
    m.RedeemAmounts w env reserveAsset quantity info ∧
      Rescale w w' reserveAsset info.newReservePositionUnit ∧
      w'.setToken.totalSupply = info.newSetTokenSupply ∧
      w.balance reserveAsset = w'.balance reserveAsset +
        (info.netFlowQuantity + info.protocolFees + info.managerFee) := by
  simp only [redeem, handleRedeemStateUpdates, Outcome.bind_eq_ok, Outcome.pure_eq_ok,
    Prod.mk.injEq] at h
  obtain ⟨_, -, _, -, _, -, info, hinfo, _, -, v, hburn, u, htransfer, t, hfees, w', hedit, rfl,
    rfl⟩ := h
  have hamounts := createRedemptionInfo_ok hinfo
  obtain ⟨hflow, hburnt, hsame⟩ := burn_flow hburn hsender
  obtain ⟨hmove, hle, hpaid⟩ := World.strictInvokeTransfer_moveStep htransfer
  obtain ⟨hmove', hpaid'⟩ := handleRedemptionFees_moveStep hfees
  obtain ⟨-, -, hdefault, -⟩ := rescalePositions_ok hedit
  have hsupply : w'.setToken.totalSupply = info.newSetTokenSupply := by
    rw [hdefault.totalSupply, setMultiplier_totalSupply, hmove'.totalSupply, hmove.totalSupply,
      hburnt, hamounts.supply]
  have hbefore : Flow w t reserveAsset := hflow.trans (.of_move (hmove.trans hmove'))
  refine ⟨hamounts, ?_, hsupply, ?_⟩
  · exact rescale_of_flows hbefore hedit (.of_move (.refl w' reserveAsset)) hsupply
      hamounts.supply_pos hamounts.multiplier
  · have hsameReserve := hsame reserveAsset
    have hedited : w'.balance reserveAsset = t.balance reserveAsset :=
      hdefault.balance reserveAsset
    omega

/-! ## What the amounts are worth -/

/-- Fees are taken from the quantity. -/
theorem getFees_net_le {fees : FeeSource} {protocolFees managerFee net : ℕ}
    (h : m.getFees w quantity fees = .ok (protocolFees, managerFee, net)) : net ≤ quantity := by
  simp only [getFees, Outcome.bind_eq_ok, SafeMath.sub_eq_ok, Outcome.pure_eq_ok,
    Prod.mk.injEq] at h
  obtain ⟨_, -, _, -, _, -, _, ⟨-, rfl⟩, _, ⟨-, rfl⟩, -, -, rfl⟩ := h
  omega

/-- The value that the minted quantity is computed from: the Set and the deposit, in precise units
of the reserve asset. -/
def assessedValue (w : World) (oracle : PriceOracle) (reserveAsset : Address) (net : ℕ) : ℕ :=
  w.setToken.totalSupply *
      (SetValuer.calculateSetTokenValuation w oracle reserveAsset).getD 0 / preciseUnit +
    net * preciseUnit / SetValuer.baseUnits (w.erc20 reserveAsset).decimals

/-- The minted share of the new supply is at most the deposit's share of the assessed value. -/
theorem getSetTokenMintQuantity_le {net minted : ℕ}
    (h : m.getSetTokenMintQuantity w env reserveAsset net w.setToken.totalSupply = .ok minted)
    (hvaluer : m.settings.setValuer = 0) :
    0 < assessedValue w env.priceOracle reserveAsset net ∧
      minted * assessedValue w env.priceOracle reserveAsset net *
          SetValuer.baseUnits (w.erc20 reserveAsset).decimals ≤
        net * preciseUnit * (w.setToken.totalSupply + minted) := by
  simp only [getSetTokenMintQuantity, getSetTokenValuation, hvaluer, if_true, Outcome.bind_eq_ok,
    preciseMul_eq_ok, preciseDiv_eq_ok, SafeMath.sub_eq_ok, SafeMath.add_eq_ok] at h
  obtain ⟨_, ⟨-, rfl⟩, valuation, hvaluation, deposit, ⟨-, -, hdeposit⟩, netPremium,
    ⟨-, hpremium⟩, share, ⟨-, -, hshare⟩, value, ⟨-, hvalue⟩, _, ⟨-, rfl⟩, _, ⟨hle, rfl⟩, product,
    ⟨-, hproduct⟩, -, hpos, hminted⟩ := h
  have hassessed : assessedValue w env.priceOracle reserveAsset net = value + deposit := by
    simp [assessedValue, hvaluation, Outcome.getD, hvalue, hdeposit]
  have hshareBase : share * SetValuer.baseUnits (w.erc20 reserveAsset).decimals ≤
      net * preciseUnit := by
    calc share * SetValuer.baseUnits (w.erc20 reserveAsset).decimals
        ≤ netPremium * preciseUnit := hshare ▸ Nat.div_mul_le_self _ _
      _ ≤ net * preciseUnit := Nat.mul_le_mul_right _ (hpremium ▸ Nat.sub_le _ _)
  have hmintedLe : minted * (value + deposit - share) ≤ share * w.setToken.totalSupply := by
    calc minted * (value + deposit - share) ≤ product * preciseUnit :=
          hminted ▸ Nat.div_mul_le_self _ _
      _ ≤ share * w.setToken.totalSupply := hproduct ▸ Nat.div_mul_le_self _ _
  have hwhole : minted * (value + deposit) ≤ share * (w.setToken.totalSupply + minted) := by
    calc minted * (value + deposit)
        = minted * (value + deposit - share) + minted * share := by
          rw [← Nat.mul_add, Nat.sub_add_cancel hle]
      _ ≤ share * w.setToken.totalSupply + minted * share := Nat.add_le_add_right hmintedLe _
      _ = share * (w.setToken.totalSupply + minted) := by ring
  rw [hassessed]
  refine ⟨by omega, ?_⟩
  calc minted * (value + deposit) * SetValuer.baseUnits (w.erc20 reserveAsset).decimals
      ≤ share * (w.setToken.totalSupply + minted) *
          SetValuer.baseUnits (w.erc20 reserveAsset).decimals := Nat.mul_le_mul_right _ hwhole
    _ = share * SetValuer.baseUnits (w.erc20 reserveAsset).decimals *
          (w.setToken.totalSupply + minted) := by ring
    _ ≤ net * preciseUnit * (w.setToken.totalSupply + minted) :=
        Nat.mul_le_mul_right _ hshareBase

/-- The paid quantity is at most the value of the Sets less the premium. -/
theorem getRedeemReserveQuantity_le {paid : ℕ}
    (h : m.getRedeemReserveQuantity w env reserveAsset quantity = .ok paid)
    (hvaluer : m.settings.setValuer = 0) (hvalid : ValidSettings m.settings) :
    ∃ valuation, SetValuer.calculateSetTokenValuation w env.priceOracle reserveAsset =
        .ok valuation ∧
      paid * preciseUnit * preciseUnit * preciseUnit ≤
        quantity * valuation * SetValuer.baseUnits (w.erc20 reserveAsset).decimals *
          (preciseUnit - m.settings.premiumPercentage) := by
  simp only [getRedeemReserveQuantity, getSetTokenValuation, hvaluer, if_true, Outcome.bind_eq_ok,
    preciseMul_eq_ok, SafeMath.sub_eq_ok] at h
  obtain ⟨valuation, hvaluation, total, ⟨-, htotal⟩, pre, ⟨-, hpre⟩, premium, hpremium, hle,
    hpaid⟩ := h
  refine ⟨valuation, hvaluation, ?_⟩
  have hlt : m.settings.premiumPercentage < preciseUnit :=
    hvalid.premiumPercentage_le.trans_lt hvalid.maxPremiumPercentage_lt
  have hceil : pre * m.settings.premiumPercentage ≤ premium * preciseUnit := by
    rw [preciseMulCeil_eq_of_ok hpremium]
    have hdiv := Nat.lt_div_mul_add
      (a := pre * m.settings.premiumPercentage + preciseUnit - 1) preciseUnit_pos
    omega
  have hpremiumPaid : paid * preciseUnit ≤ pre * (preciseUnit - m.settings.premiumPercentage) := by
    rw [hpaid, Nat.sub_mul, Nat.mul_sub]
    omega
  have hvalue : pre * preciseUnit * preciseUnit ≤
      quantity * valuation * SetValuer.baseUnits (w.erc20 reserveAsset).decimals := by
    calc pre * preciseUnit * preciseUnit
        ≤ total * SetValuer.baseUnits (w.erc20 reserveAsset).decimals * preciseUnit :=
          Nat.mul_le_mul_right _ (hpre ▸ Nat.div_mul_le_self _ _)
      _ = total * preciseUnit * SetValuer.baseUnits (w.erc20 reserveAsset).decimals := by ring
      _ ≤ quantity * valuation * SetValuer.baseUnits (w.erc20 reserveAsset).decimals :=
          Nat.mul_le_mul_right _ (htotal ▸ Nat.div_mul_le_self _ _)
  calc paid * preciseUnit * preciseUnit * preciseUnit
      ≤ pre * (preciseUnit - m.settings.premiumPercentage) * preciseUnit * preciseUnit := by gcongr
    _ = pre * preciseUnit * preciseUnit * (preciseUnit - m.settings.premiumPercentage) := by ring
    _ ≤ _ := Nat.mul_le_mul_right _ hvalue

end CustomOracleNAVIssuanceModule

end SetProtocol
