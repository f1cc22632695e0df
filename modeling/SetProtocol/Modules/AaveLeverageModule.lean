import SetProtocol.Modules.LeverageModule

/-!
# Leverage on Aave

The collateral is held as aTokens.  The debt is the SetToken's balance of the variable debt token of
the borrowed asset.
-/

namespace SetProtocol

open PreciseUnitMath ModuleBase LeverageModule

/-- The tokens of an asset's reserve. -/
structure ReserveTokens where
  aToken : Address
  variableDebtToken : Address

structure AaveLeverageModule where
  address : Address
  owner : Address
  lendingPool : Address
  underlyingToReserveTokens : Address → ReserveTokens
  collateralAssetEnabled : Address → Bool
  borrowAssetEnabled : Address → Bool
  collateralAssets : List Address
  borrowAssets : List Address
  /-- Whether the Set is on the allow list. -/
  allowedSetToken : Bool
  anySetAllowed : Bool

namespace AaveLeverageModule

def borrowRateMode : ℕ := 2

/-! ## Calls of the lending pool -/

def deposit (m : AaveLeverageModule) (w : World) (env : Env) (asset : Address)
    (notionalQuantity : ℕ) : Outcome World := do
  let w ← w.invokeApprove env m.address asset m.lendingPool notionalQuantity
  w.invoke env m.address ⟨m.lendingPool, 0, .aaveDeposit asset notionalQuantity⟩

def withdraw (m : AaveLeverageModule) (w : World) (env : Env) (asset : Address)
    (notionalQuantity : ℕ) : Outcome World :=
  w.invoke env m.address ⟨m.lendingPool, 0, .aaveWithdraw asset notionalQuantity⟩

def repayBorrow (m : AaveLeverageModule) (w : World) (env : Env) (asset : Address)
    (notionalQuantity : ℕ) : Outcome World := do
  let w ← w.invokeApprove env m.address asset m.lendingPool notionalQuantity
  w.invoke env m.address ⟨m.lendingPool, 0, .aaveRepay asset notionalQuantity borrowRateMode⟩

def borrow (m : AaveLeverageModule) (w : World) (env : Env) (asset : Address)
    (notionalQuantity : ℕ) : Outcome World :=
  w.invoke env m.address ⟨m.lendingPool, 0, .aaveBorrow asset notionalQuantity borrowRateMode⟩

/-- Aave rejects the call for an asset of which the SetToken holds no aTokens. -/
def updateUseReserveAsCollateral (m : AaveLeverageModule) (w : World) (env : Env)
    (asset : Address) (useAsCollateral : Bool) : Outcome World :=
  if w.chain.usageAsCollateral asset ≠ useAsCollateral ∧
      0 < w.balance (m.underlyingToReserveTokens asset).aToken then
    w.invoke env m.address ⟨m.lendingPool, 0, .setUserUseReserveAsCollateral asset useAsCollateral⟩
  else
    pure w

/-! ## Changing the leverage -/

def borrowBalance (m : AaveLeverageModule) (w : World) (borrowAsset : Address) : ℕ :=
  w.balance (m.underlyingToReserveTokens borrowAsset).variableDebtToken

def getBorrowPosition (m : AaveLeverageModule) (w : World) (borrowAsset : Address)
    (setTotalSupply : ℕ) : Outcome ℤ :=
  borrowPosition (m.borrowBalance w borrowAsset) setTotalSupply

def validateCommon (m : AaveLeverageModule) (info : ActionInfo) : Outcome Unit := do
  require (m.collateralAssetEnabled info.collateral = true) "Collateral not enabled"
  require (m.borrowAssetEnabled info.borrow = true) "Borrow not enabled"
  require (info.collateral ≠ info.borrow) "Collateral and borrow asset must be different"
  require (0 < info.notionalSendQuantity) "Quantity is 0"

def createAndValidateActionInfoNotional (m : AaveLeverageModule) (w : World) (env : Env)
    (sendToken receiveToken : Address) (notionalSendQuantity minNotionalReceiveQuantity : ℕ)
    (tradeAdapterName : String) (isLever : Bool) (setTotalSupply : ℕ) : Outcome ActionInfo := do
  let exchangeAdapter ← getAndValidateAdapter env m.address tradeAdapterName
  let info : ActionInfo := {
    exchangeAdapter := exchangeAdapter
    setTotalSupply := setTotalSupply
    notionalSendQuantity := notionalSendQuantity
    minNotionalReceiveQuantity := minNotionalReceiveQuantity
    collateral := if isLever then receiveToken else sendToken
    borrow := if isLever then sendToken else receiveToken
    preTradeReceiveTokenBalance := w.balance receiveToken }
  m.validateCommon info
  pure info

def createAndValidateActionInfo (m : AaveLeverageModule) (w : World) (env : Env)
    (sendToken receiveToken : Address) (sendQuantityUnits minReceiveQuantityUnits : ℕ)
    (tradeAdapterName : String) (isLever : Bool) : Outcome ActionInfo := do
  let totalSupply := w.setToken.totalSupply
  let notionalSendQuantity ← preciseMul sendQuantityUnits totalSupply
  let minNotionalReceiveQuantity ← preciseMul minReceiveQuantityUnits totalSupply
  m.createAndValidateActionInfoNotional w env sendToken receiveToken notionalSendQuantity
    minNotionalReceiveQuantity tradeAdapterName isLever totalSupply

def updateLeverPositions (m : AaveLeverageModule) (w : World) (info : ActionInfo)
    (borrowAsset : Address) : Outcome World := do
  let aToken := (m.underlyingToReserveTokens info.collateral).aToken
  let collateralUnit ← getCollateralPosition w aToken info.setTotalSupply
  let w ← updateCollateralPosition w m.address aToken collateralUnit
  let borrowUnit ← m.getBorrowPosition w borrowAsset info.setTotalSupply
  updateBorrowPosition w m.address borrowAsset borrowUnit

/-- What is left of the repay asset becomes a default position. -/
def updateRepayAssetPosition (m : AaveLeverageModule) (w : World) (info : ActionInfo)
    (repayAsset : Address) : Outcome World :=
  if w.balance repayAsset ≠ info.preTradeReceiveTokenBalance then do
    let (w, _) ← calculateAndEditDefaultPosition w m.address repayAsset info.setTotalSupply
      info.preTradeReceiveTokenBalance
    pure w
  else
    pure w

def updateDeleverPositions (m : AaveLeverageModule) (w : World) (info : ActionInfo)
    (repayAsset : Address) : Outcome World := do
  let w ← m.updateRepayAssetPosition w info repayAsset
  m.updateLeverPositions w info repayAsset

def lever (m : AaveLeverageModule) (w : World) (env : Env) (borrowAsset collateralAsset : Address)
    (borrowQuantityUnits minReceiveQuantityUnits : ℕ) (tradeAdapterName : String)
    (tradeData : List UInt8) : Outcome World := do
  validateOnlyManagerAndValidSet w m.address env.sender
  let info ← m.createAndValidateActionInfo w env borrowAsset collateralAsset borrowQuantityUnits
    minReceiveQuantityUnits tradeAdapterName true
  let w ← m.borrow w env info.borrow info.notionalSendQuantity
  let (w, postTradeCollateralQuantity) ←
    tradeLessFee w env m.address info borrowAsset collateralAsset tradeData
  let w ← m.deposit w env collateralAsset postTradeCollateralQuantity
  m.updateLeverPositions w info borrowAsset

def delever (m : AaveLeverageModule) (w : World) (env : Env) (collateralAsset repayAsset : Address)
    (redeemQuantityUnits minRepayQuantityUnits : ℕ) (tradeAdapterName : String)
    (tradeData : List UInt8) : Outcome World := do
  validateOnlyManagerAndValidSet w m.address env.sender
  let info ← m.createAndValidateActionInfo w env collateralAsset repayAsset redeemQuantityUnits
    minRepayQuantityUnits tradeAdapterName false
  let w ← m.withdraw w env collateralAsset info.notionalSendQuantity
  let (w, repayQuantity) ←
    tradeLessFee w env m.address info collateralAsset repayAsset tradeData
  let w ← m.repayBorrow w env repayAsset repayQuantity
  m.updateDeleverPositions w info repayAsset

/-- Returns the quantity that was repaid.  No fee is charged. -/
def deleverToZeroBorrowBalance (m : AaveLeverageModule) (w : World) (env : Env)
    (collateralAsset repayAsset : Address) (redeemQuantityUnits : ℕ) (tradeAdapterName : String)
    (tradeData : List UInt8) : Outcome (World × ℕ) := do
  validateOnlyManagerAndValidSet w m.address env.sender
  let setTotalSupply := w.setToken.totalSupply
  let notionalRedeemQuantity ← preciseMul redeemQuantityUnits setTotalSupply
  require (m.borrowAssetEnabled repayAsset = true) "Borrow not enabled"
  let notionalRepayQuantity := m.borrowBalance w repayAsset
  require (0 < notionalRepayQuantity) "Borrow balance is zero"
  let info ← m.createAndValidateActionInfoNotional w env collateralAsset repayAsset
    notionalRedeemQuantity notionalRepayQuantity tradeAdapterName false setTotalSupply
  let w ← m.withdraw w env collateralAsset info.notionalSendQuantity
  let (w, _) ← executeTrade w env m.address info collateralAsset repayAsset tradeData
  let w ← m.repayBorrow w env repayAsset notionalRepayQuantity
  let w ← m.updateDeleverPositions w info repayAsset
  pure (w, notionalRepayQuantity)

/-- Before the first issue there are no units to compute. -/
def sync (m : AaveLeverageModule) (w : World) : Outcome World := do
  validateOnlyValidAndInitializedSet w m.address
  let setTotalSupply := w.setToken.totalSupply
  if 0 < setTotalSupply then do
    let w ← m.collateralAssets.foldlM
      (fun w asset ↦ syncCollateral w m.address (m.underlyingToReserveTokens asset).aToken
        setTotalSupply) w
    m.borrowAssets.foldlM
      (fun w asset ↦ syncBorrow w m.address asset (m.borrowBalance w asset) setTotalSupply) w
  else
    pure w

/-! ## Enabled assets -/

def validateNewCollateralAsset (m : AaveLeverageModule) (env : Env) (asset : Address) :
    Outcome Unit := do
  require (m.collateralAssetEnabled asset = false) "Collateral already enabled"
  let reserve := env.aaveReserve asset
  require ((m.underlyingToReserveTokens asset).aToken = reserve.aToken) "Invalid aToken address"
  require (reserve.isActive = true) "Invalid aave reserve"
  require (reserve.isFrozen = false) "Frozen aave reserve"
  require (reserve.usageAsCollateralEnabled = true) "Collateral disabled on Aave"

def validateNewBorrowAsset (m : AaveLeverageModule) (env : Env) (asset : Address) :
    Outcome Unit := do
  require (m.borrowAssetEnabled asset = false) "Borrow already enabled"
  let reserve := env.aaveReserve asset
  require ((m.underlyingToReserveTokens asset).variableDebtToken = reserve.variableDebtToken)
    "Invalid variable debt token address"
  require (reserve.isActive = true) "Invalid aave reserve"
  require (reserve.isFrozen = false) "Frozen aave reserve"
  require (reserve.borrowingEnabled = true) "Borrowing disabled on Aave"

/-- One pass of the loop of `_addCollateralAssets`. -/
def addCollateralAsset (env : Env) (state : AaveLeverageModule × World) (asset : Address) :
    Outcome (AaveLeverageModule × World) := do
  let (m, w) := state
  m.validateNewCollateralAsset env asset
  let w ← m.updateUseReserveAsCollateral w env asset true
  pure ({ m with
    collateralAssetEnabled := Function.update m.collateralAssetEnabled asset true
    collateralAssets := m.collateralAssets ++ [asset] }, w)

/-- One pass of the loop of `_addBorrowAssets`. -/
def addBorrowAsset (env : Env) (m : AaveLeverageModule) (asset : Address) :
    Outcome AaveLeverageModule := do
  m.validateNewBorrowAsset env asset
  pure { m with
    borrowAssetEnabled := Function.update m.borrowAssetEnabled asset true
    borrowAssets := m.borrowAssets ++ [asset] }

def addCollateralAssets (m : AaveLeverageModule) (w : World) (env : Env)
    (newCollateralAssets : List Address) : Outcome (AaveLeverageModule × World) := do
  validateOnlyManagerAndValidSet w m.address env.sender
  newCollateralAssets.foldlM (addCollateralAsset env) (m, w)

def addBorrowAssets (m : AaveLeverageModule) (w : World) (env : Env)
    (newBorrowAssets : List Address) : Outcome AaveLeverageModule := do
  validateOnlyManagerAndValidSet w m.address env.sender
  newBorrowAssets.foldlM (addBorrowAsset env) m

/-- One pass of the loop of `removeCollateralAssets`. -/
def removeCollateralAsset (env : Env) (state : AaveLeverageModule × World) (asset : Address) :
    Outcome (AaveLeverageModule × World) := do
  let (m, w) := state
  require (m.collateralAssetEnabled asset = true) "Collateral not enabled"
  let w ← m.updateUseReserveAsCollateral w env asset false
  let collateralAssets ← AddressArrayUtils.removeStorage m.collateralAssets asset
  pure ({ m with
    collateralAssetEnabled := Function.update m.collateralAssetEnabled asset false
    collateralAssets := collateralAssets }, w)

def removeCollateralAssets (m : AaveLeverageModule) (w : World) (env : Env)
    (collateralAssets : List Address) : Outcome (AaveLeverageModule × World) := do
  validateOnlyManagerAndValidSet w m.address env.sender
  collateralAssets.foldlM (removeCollateralAsset env) (m, w)

/-- One pass of the loop of `removeBorrowAssets`. -/
def removeBorrowAsset (w : World) (m : AaveLeverageModule) (asset : Address) :
    Outcome AaveLeverageModule := do
  require (m.borrowAssetEnabled asset = true) "Borrow not enabled"
  require (m.borrowBalance w asset = 0) "Variable debt remaining"
  let borrowAssets ← AddressArrayUtils.removeStorage m.borrowAssets asset
  pure { m with
    borrowAssetEnabled := Function.update m.borrowAssetEnabled asset false
    borrowAssets := borrowAssets }

def removeBorrowAssets (m : AaveLeverageModule) (w : World) (env : Env)
    (borrowAssets : List Address) : Outcome AaveLeverageModule := do
  validateOnlyManagerAndValidSet w m.address env.sender
  borrowAssets.foldlM (removeBorrowAsset w) m

def addUnderlyingToReserveTokensMapping (m : AaveLeverageModule) (env : Env)
    (underlying : Address) : Outcome AaveLeverageModule := do
  require ((m.underlyingToReserveTokens underlying).aToken = 0) "Mapping already exists"
  let reserve := env.aaveReserve underlying
  require (reserve.isActive = true) "Invalid aave reserve"
  let tokens : ReserveTokens := ⟨reserve.aToken, reserve.variableDebtToken⟩
  pure { m with
    underlyingToReserveTokens := Function.update m.underlyingToReserveTokens underlying tokens }

def updateAllowedSetToken (m : AaveLeverageModule) (w : World) (env : Env) (status : Bool) :
    Outcome AaveLeverageModule := do
  require (env.sender = m.owner) "Ownable: caller is not the owner"
  require (w.controller.isSet w.setToken.address = true ∨ m.allowedSetToken = true)
    "Invalid SetToken"
  pure { m with allowedSetToken := status }

def updateAnySetAllowed (m : AaveLeverageModule) (env : Env) (anySetAllowed : Bool) :
    Outcome AaveLeverageModule := do
  require (env.sender = m.owner) "Ownable: caller is not the owner"
  pure { m with anySetAllowed := anySetAllowed }

/-! ## Joining and leaving the Set -/

/-- The source calls this function `initialize`. -/
def initializeSetToken (m : AaveLeverageModule) (issuance : IssuanceTable) (w : World) (env : Env)
    (collateralAssets borrowAssets : List Address) :
    Outcome (AaveLeverageModule × IssuanceTable × World) := do
  validateOnlySetManager w env.sender
  validateOnlyValidAndPendingSet w m.address
  require (m.anySetAllowed = true ∨ m.allowedSetToken = true) "Not allowed SetToken"
  let (issuance, w) ← initializeAndRegister issuance w env m.address
  let (m, w) ← collateralAssets.foldlM (addCollateralAsset env) (m, w)
  let m ← borrowAssets.foldlM (addBorrowAsset env) m
  pure (m, issuance, w)

/-- The flags of the assets are deleted one by one in the source. -/
def clear (m : AaveLeverageModule) : AaveLeverageModule :=
  { m with
    borrowAssetEnabled := fun asset ↦ m.borrowAssetEnabled asset && !m.borrowAssets.contains asset
    collateralAssetEnabled := fun asset ↦
      m.collateralAssetEnabled asset && !m.collateralAssets.contains asset
    collateralAssets := []
    borrowAssets := [] }

/-- The callback of `SetToken.removeModule`. -/
def removeModule (m : AaveLeverageModule) (issuance : IssuanceTable) (w : World) (env : Env) :
    Outcome (AaveLeverageModule × IssuanceTable × World) := do
  validateOnlyValidAndInitializedSet w m.address
  let w ← m.sync w
  forM m.borrowAssets fun asset ↦ require (m.borrowBalance w asset = 0) "Variable debt remaining"
  let w ← m.collateralAssets.foldlM
    (fun w asset ↦ m.updateUseReserveAsCollateral w env asset false) w
  pure (m.clear, DebtIssuanceModule.unregisterFromAll issuance w m.address, w)

/-! ## Hooks -/

def moduleIssueHook (m : AaveLeverageModule) (w : World) (caller : Address)
    (_setTokenQuantity : ℕ) : Outcome World := do
  validateOnlyModule w caller
  m.sync w

def moduleRedeemHook (m : AaveLeverageModule) (w : World) (caller : Address)
    (_setTokenQuantity : ℕ) : Outcome World := do
  validateOnlyModule w caller
  m.sync w

/-- Nothing is borrowed when the hook is called for equity, or the debt would be taken twice. -/
def componentIssueHook (m : AaveLeverageModule) (w : World) (env : Env) (caller : Address)
    (setTokenQuantity : ℕ) (component : Address) (isEquity : Bool) : Outcome World := do
  validateOnlyModule w caller
  if isEquity then
    pure w
  else do
    let debt ← notionalDebt w m.address component setTokenQuantity true
    m.borrow w env component debt

/-- Nothing is repaid when the hook is called for equity, or the debt would be paid twice. -/
def componentRedeemHook (m : AaveLeverageModule) (w : World) (env : Env) (caller : Address)
    (setTokenQuantity : ℕ) (component : Address) (isEquity : Bool) : Outcome World := do
  validateOnlyModule w caller
  if isEquity then
    pure w
  else do
    let debt ← notionalDebt w m.address component setTokenQuantity false
    m.repayBorrow w env component debt

/-! ## Edits -/

variable {F : Footprint} {calls : Invocation → Prop} {m : AaveLeverageModule} {w w' : World}
  {env : Env} {caller asset component : Address} {quantity : ℕ} {isEquity : Bool}

/-- The calls that borrow or repay an asset. -/
inductive LendingCall (m : AaveLeverageModule) (asset : Address) : Invocation → Prop where
  | borrow (amount : ℕ) :
      LendingCall m asset ⟨m.lendingPool, 0, .aaveBorrow asset amount borrowRateMode⟩
  | approve (amount : ℕ) : LendingCall m asset ⟨asset, 0, .approve m.lendingPool amount⟩
  | repay (amount : ℕ) :
      LendingCall m asset ⟨m.lendingPool, 0, .aaveRepay asset amount borrowRateMode⟩

theorem repayBorrow_calls (hcalls : ∀ i, LendingCall m asset i → calls i)
    (h : m.repayBorrow w env asset quantity = .ok w') : World.Calls env calls w w' := by
  simp only [repayBorrow, Outcome.bind_eq_ok] at h
  obtain ⟨v, hv, hcall⟩ := h
  exact (World.invoke_calls (hcalls _ (.approve _)) hv).trans
    (World.invoke_calls (hcalls _ (.repay _)) hcall)

/-- Without a supply synchronizing only checks the SetToken; with one it passes over the collateral and
then over the debts. -/
theorem sync_ok (h : m.sync w = .ok w') :
    validateOnlyValidAndInitializedSet w m.address = .ok () ∧
      (w.setToken.totalSupply = 0 ∧ w' = w ∨ 0 < w.setToken.totalSupply ∧ ∃ v,
        m.collateralAssets.foldlM (fun w' asset ↦ syncCollateral w' m.address
          (m.underlyingToReserveTokens asset).aToken w.setToken.totalSupply) w = .ok v ∧
        m.borrowAssets.foldlM (fun w' asset ↦ syncBorrow w' m.address asset
          (m.borrowBalance w' asset) w.setToken.totalSupply) v = .ok w') := by
  simp only [sync, Outcome.bind_eq_ok] at h
  obtain ⟨_, hvalid, h⟩ := h
  refine ⟨hvalid, ?_⟩
  split_ifs at h with hsupply
  · exact Or.inr ⟨hsupply, Outcome.bind_eq_ok.mp h⟩
  · exact Or.inl ⟨Nat.eq_zero_of_not_pos hsupply, (Outcome.pure_eq_ok.mp h).symm⟩

theorem sync_edits (howns : ∀ c ∈ m.borrowAssets, F.owns m.address c) (h : m.sync w = .ok w') :
    World.Edits env F w w' := by
  obtain ⟨-, ⟨-, rfl⟩ | ⟨-, v, hcollateral, hborrow⟩⟩ := sync_ok h
  · exact .refl _
  · have hfirst : World.Edits env F w v :=
      World.Edits.foldlM (fun _ _ _ _ hstep ↦ syncCollateral_edits hstep) hcollateral
    exact hfirst.trans
      (World.Edits.foldlM (fun _ c hc _ hstep ↦ syncBorrow_edits (howns c hc) hstep) hborrow)

theorem moduleIssueHook_edits (howns : ∀ c ∈ m.borrowAssets, F.owns m.address c)
    (h : m.moduleIssueHook w caller quantity = .ok w') : World.Edits env F w w' := by
  simp only [moduleIssueHook, Outcome.bind_eq_ok] at h
  obtain ⟨_, -, h⟩ := h
  exact sync_edits howns h

theorem moduleRedeemHook_edits (howns : ∀ c ∈ m.borrowAssets, F.owns m.address c)
    (h : m.moduleRedeemHook w caller quantity = .ok w') : World.Edits env F w w' := by
  simp only [moduleRedeemHook, Outcome.bind_eq_ok] at h
  obtain ⟨_, -, h⟩ := h
  exact sync_edits howns h

theorem componentIssueHook_calls (hcalls : ∀ i, LendingCall m component i → calls i)
    (h : m.componentIssueHook w env caller quantity component isEquity = .ok w') :
    World.Calls env calls w w' := by
  simp only [componentIssueHook, Outcome.bind_eq_ok] at h
  obtain ⟨_, -, h⟩ := h
  split_ifs at h
  · exact .of_pure h
  · obtain ⟨debt, -, hcall⟩ := Outcome.bind_eq_ok.mp h
    exact World.invoke_calls (hcalls _ (.borrow _)) hcall

theorem componentRedeemHook_calls (hcalls : ∀ i, LendingCall m component i → calls i)
    (h : m.componentRedeemHook w env caller quantity component isEquity = .ok w') :
    World.Calls env calls w w' := by
  simp only [componentRedeemHook, Outcome.bind_eq_ok] at h
  obtain ⟨_, -, h⟩ := h
  split_ifs at h
  · exact .of_pure h
  · obtain ⟨debt, -, hcall⟩ := Outcome.bind_eq_ok.mp h
    exact repayBorrow_calls hcalls hcall

/-! ### Functions of the manager -/

section Manager

variable {sendToken receiveToken : Address} {units minUnits notional minNotional supply : ℕ}
  {adapterName : String} {data : List UInt8} {isLever : Bool} {info : ActionInfo}

theorem createAndValidateActionInfoNotional_ok
    (h : m.createAndValidateActionInfoNotional w env sendToken receiveToken notional minNotional
      adapterName isLever supply = .ok info) :
    m.borrowAssetEnabled (if isLever then sendToken else receiveToken) = true := by
  simp only [createAndValidateActionInfoNotional, validateCommon, Outcome.bind_eq_ok,
    Outcome.require_eq_ok, Outcome.pure_eq_ok] at h
  obtain ⟨_, -, _, ⟨_, -, _, henabled, -⟩, -⟩ := h
  exact henabled

theorem createAndValidateActionInfo_ok
    (h : m.createAndValidateActionInfo w env sendToken receiveToken units minUnits adapterName
      isLever = .ok info) :
    m.borrowAssetEnabled (if isLever then sendToken else receiveToken) = true := by
  simp only [createAndValidateActionInfo, Outcome.bind_eq_ok] at h
  obtain ⟨_, -, _, -, h⟩ := h
  exact createAndValidateActionInfoNotional_ok h

theorem updateLeverPositions_edits (howns : F.owns m.address asset)
    (h : m.updateLeverPositions w info asset = .ok w') : World.Edits env F w w' := by
  simp only [updateLeverPositions, Outcome.bind_eq_ok] at h
  obtain ⟨_, -, v, hcollateral, _, -, hborrow⟩ := h
  exact (updateCollateralPosition_edits hcollateral).trans (updateBorrowPosition_edits howns hborrow)

theorem updateDeleverPositions_edits (howns : F.owns m.address asset)
    (h : m.updateDeleverPositions w info asset = .ok w') : World.Edits env F w w' := by
  simp only [updateDeleverPositions, updateRepayAssetPosition, Outcome.bind_eq_ok] at h
  obtain ⟨v, hrepay, hlever⟩ := h
  refine World.Edits.trans ?_ (updateLeverPositions_edits howns hlever)
  split_ifs at hrepay
  · simp only [Outcome.bind_eq_ok, Outcome.pure_eq_ok, Prod.exists] at hrepay
    obtain ⟨_, _, _, _, hedit, rfl⟩ := hrepay
    exact World.calculateAndEditDefaultPosition_edits hedit
  · obtain rfl := Outcome.pure_eq_ok.mp hrepay
    exact .refl w

theorem withdraw_calls (h : m.withdraw w env asset quantity = .ok w') :
    World.Calls env (fun _ ↦ True) w w' :=
  World.invoke_calls trivial h

theorem deposit_calls (h : m.deposit w env asset quantity = .ok w') :
    World.Calls env (fun _ ↦ True) w w' := by
  simp only [deposit, Outcome.bind_eq_ok] at h
  obtain ⟨v, happrove, hcall⟩ := h
  exact (World.invoke_calls trivial happrove).trans (World.invoke_calls trivial hcall)

/-- The position is edited for the asset that is borrowed, which has to be enabled. -/
theorem lever_edits (hcalls : ∀ i, F.calls i)
    (howns : ∀ c, m.borrowAssetEnabled c = true → F.owns m.address c)
    (h : m.lever w env sendToken receiveToken units minUnits adapterName data = .ok w') :
    World.Edits env F w w' := by
  simp only [lever, Outcome.bind_eq_ok, Prod.exists] at h
  obtain ⟨_, -, info, hinfo, v, hborrow, u, _, htrade, x, hdeposit, hupdate⟩ := h
  have hmade : World.Calls env (fun _ ↦ True) w x :=
    ((World.invoke_calls trivial hborrow).trans (tradeLessFee_calls (fun _ _ _ ↦ trivial)
      (fun _ _ _ ↦ trivial) (fun _ _ ↦ trivial) htrade)).trans (deposit_calls hdeposit)
  have henabled := howns sendToken (createAndValidateActionInfo_ok hinfo)
  exact (hmade.mono fun i _ ↦ hcalls i).edits.trans (updateLeverPositions_edits henabled hupdate)

theorem delever_edits (hcalls : ∀ i, F.calls i)
    (howns : ∀ c, m.borrowAssetEnabled c = true → F.owns m.address c)
    (h : m.delever w env sendToken receiveToken units minUnits adapterName data = .ok w') :
    World.Edits env F w w' := by
  simp only [delever, Outcome.bind_eq_ok, Prod.exists] at h
  obtain ⟨_, -, info, hinfo, v, hwithdraw, u, _, htrade, x, hrepay, hupdate⟩ := h
  have hmade : World.Calls env (fun _ ↦ True) w x :=
    ((withdraw_calls hwithdraw).trans (tradeLessFee_calls (fun _ _ _ ↦ trivial)
      (fun _ _ _ ↦ trivial) (fun _ _ ↦ trivial) htrade)).trans
        (repayBorrow_calls (fun _ _ ↦ trivial) hrepay)
  have henabled := howns receiveToken (createAndValidateActionInfo_ok hinfo)
  exact (hmade.mono fun i _ ↦ hcalls i).edits.trans (updateDeleverPositions_edits henabled hupdate)

theorem deleverToZeroBorrowBalance_edits (hcalls : ∀ i, F.calls i)
    (howns : ∀ c, m.borrowAssetEnabled c = true → F.owns m.address c)
    (h : m.deleverToZeroBorrowBalance w env sendToken receiveToken units adapterName data =
      .ok (w', quantity)) : World.Edits env F w w' := by
  simp only [deleverToZeroBorrowBalance, Outcome.bind_eq_ok, Outcome.pure_eq_ok, Prod.exists,
    Outcome.require_eq_ok, Prod.mk.injEq] at h
  obtain ⟨_, -, _, -, _, henabled, _, -, info, -, v, hwithdraw, u, _, htrade, x, hrepay, y, hupdate,
    rfl, -⟩ := h
  have hmade : World.Calls env (fun _ ↦ True) w x :=
    ((withdraw_calls hwithdraw).trans (executeTrade_calls (fun _ _ _ ↦ trivial)
      (fun _ _ _ ↦ trivial) htrade)).trans (repayBorrow_calls (fun _ _ ↦ trivial) hrepay)
  exact (hmade.mono fun i _ ↦ hcalls i).edits.trans
    (updateDeleverPositions_edits (howns receiveToken henabled) hupdate)

end Manager

end AaveLeverageModule

end SetProtocol
