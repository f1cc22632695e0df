import SetProtocol.Modules.LeverageModule

/-!
# Leverage on Compound

The collateral is held as cTokens.  The debt is the SetToken's borrow balance in the market of the
borrowed asset, which grows whenever somebody makes the market accrue interest.  Assets are enabled
by their cTokens; the market of ether is entered with wrapped ether.
-/

namespace SetProtocol

open PreciseUnitMath ModuleBase LeverageModule

structure CompoundLeverageModule where
  address : Address
  owner : Address
  weth : Address
  cEther : Address
  comptroller : Address
  underlyingToCToken : Address → Address
  collateralCTokenEnabled : Address → Bool
  borrowCTokenEnabled : Address → Bool
  collateralCTokens : List Address
  borrowCTokens : List Address
  borrowAssets : List Address
  /-- Whether the Set is on the allow list. -/
  allowedSetToken : Bool
  anySetAllowed : Bool

namespace CompoundLeverageModule

/-! ## Calls of the markets -/

def invokeEnterMarkets (m : CompoundLeverageModule) (w : World) (env : Env) (cToken : Address) :
    Outcome World :=
  w.invokeChecked env m.address ⟨m.comptroller, 0, .enterMarkets cToken⟩ "Entering failed"

def invokeExitMarket (m : CompoundLeverageModule) (w : World) (env : Env) (cToken : Address) :
    Outcome World :=
  w.invokeChecked env m.address ⟨m.comptroller, 0, .exitMarket cToken⟩ "Exiting failed"

def mintCToken (m : CompoundLeverageModule) (w : World) (env : Env)
    (cToken underlyingToken : Address) (mintNotional : ℕ) : Outcome World :=
  if cToken = m.cEther then do
    let w ← w.invokeUnwrapWETH env m.address m.weth mintNotional
    w.invoke env m.address ⟨cToken, mintNotional, .mintCEther⟩
  else do
    let w ← w.invokeApprove env m.address underlyingToken cToken mintNotional
    w.invokeChecked env m.address ⟨cToken, 0, .mintCToken mintNotional⟩ "Mint failed"

/-- Wrap the ether that a call of cEther brought. -/
def wrapEther (m : CompoundLeverageModule) (w : World) (env : Env) (cToken : Address)
    (quantity : ℕ) : Outcome World :=
  if cToken = m.cEther then w.invokeWrapWETH env m.address m.weth quantity else pure w

def redeemUnderlying (m : CompoundLeverageModule) (w : World) (env : Env) (cToken : Address)
    (redeemNotional : ℕ) : Outcome World := do
  let w ← w.invokeChecked env m.address ⟨cToken, 0, .redeemUnderlying redeemNotional⟩
    "Redeem underlying failed"
  m.wrapEther w env cToken redeemNotional

def repayBorrow (m : CompoundLeverageModule) (w : World) (env : Env)
    (cToken underlyingToken : Address) (repayNotional : ℕ) : Outcome World :=
  if cToken = m.cEther then do
    let w ← w.invokeUnwrapWETH env m.address m.weth repayNotional
    w.invoke env m.address ⟨cToken, repayNotional, .repayBorrowCEther⟩
  else do
    let w ← w.invokeApprove env m.address underlyingToken cToken repayNotional
    w.invokeChecked env m.address ⟨cToken, 0, .repayBorrowCToken repayNotional⟩ "Repay failed"

def borrow (m : CompoundLeverageModule) (w : World) (env : Env) (cToken : Address)
    (notionalBorrowQuantity : ℕ) : Outcome World := do
  let w ← w.invokeChecked env m.address ⟨cToken, 0, .compoundBorrow notionalBorrowQuantity⟩
    "Borrow failed"
  m.wrapEther w env cToken notionalBorrowQuantity

/-- The borrow balance with the state after the call: `borrowBalanceCurrent` accrues interest first,
`borrowBalanceStored` does not. -/
def borrowBalance (w : World) (env : Env) (cToken : Address) (shouldAccrueInterest : Bool) :
    World × ℕ :=
  let chain := if shouldAccrueInterest then env.accrueInterest cToken w.chain else w.chain
  ({ w with chain := chain }, chain.borrowBalance cToken)

/-! ## Changing the leverage -/

def validateCommon (m : CompoundLeverageModule) (info : ActionInfo) : Outcome Unit := do
  require (m.collateralCTokenEnabled info.collateral = true) "Collateral not enabled"
  require (m.borrowCTokenEnabled info.borrow = true) "Borrow not enabled"
  require (info.collateral ≠ info.borrow) "Must be different"
  require (0 < info.notionalSendQuantity) "Quantity is 0"

def createAndValidateActionInfoNotional (m : CompoundLeverageModule) (w : World) (env : Env)
    (sendToken receiveToken : Address) (notionalSendQuantity minNotionalReceiveQuantity : ℕ)
    (tradeAdapterName : String) (isLever : Bool) : Outcome ActionInfo := do
  let exchangeAdapter ← getAndValidateAdapter env m.address tradeAdapterName
  let info : ActionInfo := {
    exchangeAdapter := exchangeAdapter
    setTotalSupply := w.setToken.totalSupply
    notionalSendQuantity := notionalSendQuantity
    minNotionalReceiveQuantity := minNotionalReceiveQuantity
    collateral := m.underlyingToCToken (if isLever then receiveToken else sendToken)
    borrow := m.underlyingToCToken (if isLever then sendToken else receiveToken)
    preTradeReceiveTokenBalance := w.balance receiveToken }
  m.validateCommon info
  pure info

def createAndValidateActionInfo (m : CompoundLeverageModule) (w : World) (env : Env)
    (sendToken receiveToken : Address) (sendQuantityUnits minReceiveQuantityUnits : ℕ)
    (tradeAdapterName : String) (isLever : Bool) : Outcome ActionInfo := do
  let totalSupply := w.setToken.totalSupply
  let notionalSendQuantity ← preciseMul sendQuantityUnits totalSupply
  let minNotionalReceiveQuantity ← preciseMul minReceiveQuantityUnits totalSupply
  m.createAndValidateActionInfoNotional w env sendToken receiveToken notionalSendQuantity
    minNotionalReceiveQuantity tradeAdapterName isLever

/-- Interest is not accrued. -/
def updateLeverPositions (m : CompoundLeverageModule) (w : World) (env : Env) (info : ActionInfo)
    (borrowAsset : Address) : Outcome World := do
  let collateralUnit ← getCollateralPosition w info.collateral info.setTotalSupply
  let w ← updateCollateralPosition w m.address info.collateral collateralUnit
  let (w, balance) := borrowBalance w env info.borrow false
  let borrowUnit ← borrowPosition balance info.setTotalSupply
  updateBorrowPosition w m.address borrowAsset borrowUnit

def lever (m : CompoundLeverageModule) (w : World) (env : Env)
    (borrowAsset collateralAsset : Address) (borrowQuantity minReceiveQuantity : ℕ)
    (tradeAdapterName : String) (tradeData : List UInt8) : Outcome World := do
  validateOnlyManagerAndValidSet w m.address env.sender
  let info ← m.createAndValidateActionInfo w env borrowAsset collateralAsset borrowQuantity
    minReceiveQuantity tradeAdapterName true
  let w ← m.borrow w env info.borrow info.notionalSendQuantity
  let (w, postTradeCollateralQuantity) ←
    tradeLessFee w env m.address info borrowAsset collateralAsset tradeData
  let w ← m.mintCToken w env info.collateral collateralAsset postTradeCollateralQuantity
  m.updateLeverPositions w env info borrowAsset

def delever (m : CompoundLeverageModule) (w : World) (env : Env)
    (collateralAsset repayAsset : Address) (redeemQuantity minRepayQuantity : ℕ)
    (tradeAdapterName : String) (tradeData : List UInt8) : Outcome World := do
  validateOnlyManagerAndValidSet w m.address env.sender
  let info ← m.createAndValidateActionInfo w env collateralAsset repayAsset redeemQuantity
    minRepayQuantity tradeAdapterName false
  let w ← m.redeemUnderlying w env info.collateral info.notionalSendQuantity
  let (w, repayQuantity) ←
    tradeLessFee w env m.address info collateralAsset repayAsset tradeData
  let w ← m.repayBorrow w env info.borrow repayAsset repayQuantity
  m.updateLeverPositions w env info repayAsset

/-- No fee is charged. -/
def deleverToZeroBorrowBalance (m : CompoundLeverageModule) (w : World) (env : Env)
    (collateralAsset repayAsset : Address) (redeemQuantity : ℕ) (tradeAdapterName : String)
    (tradeData : List UInt8) : Outcome World := do
  validateOnlyManagerAndValidSet w m.address env.sender
  let notionalRedeemQuantity ← preciseMul redeemQuantity w.setToken.totalSupply
  require (m.borrowCTokenEnabled (m.underlyingToCToken repayAsset) = true) "Borrow not enabled"
  let (w, notionalRepayQuantity) := borrowBalance w env (m.underlyingToCToken repayAsset) true
  let info ← m.createAndValidateActionInfoNotional w env collateralAsset repayAsset
    notionalRedeemQuantity notionalRepayQuantity tradeAdapterName false
  let w ← m.redeemUnderlying w env info.collateral info.notionalSendQuantity
  let (w, _) ← executeTrade w env m.address info collateralAsset repayAsset tradeData
  let w ← m.repayBorrow w env info.borrow repayAsset notionalRepayQuantity
  let (w, _) ← calculateAndEditDefaultPosition w m.address repayAsset info.setTotalSupply
    info.preTradeReceiveTokenBalance
  m.updateLeverPositions w env info repayAsset

/-- One pass of the second loop of `sync`, over a cToken and its underlying asset. -/
def syncBorrowCToken (m : CompoundLeverageModule) (env : Env) (setTotalSupply : ℕ)
    (shouldAccrueInterest : Bool) (w : World) (entry : Address × Address) : Outcome World :=
  let (w, balance) := borrowBalance w env entry.1 shouldAccrueInterest
  syncBorrow w m.address entry.2 balance setTotalSupply

/-- Positions are kept while there are no Sets. -/
def sync (m : CompoundLeverageModule) (w : World) (env : Env) (shouldAccrueInterest : Bool) :
    Outcome World := do
  validateOnlyValidAndInitializedSet w m.address
  let setTotalSupply := w.setToken.totalSupply
  if 0 < setTotalSupply then do
    let w ← m.collateralCTokens.foldlM
      (fun w cToken ↦ syncCollateral w m.address cToken setTotalSupply) w
    (m.borrowCTokens.zip m.borrowAssets).foldlM
      (m.syncBorrowCToken env setTotalSupply shouldAccrueInterest) w
  else
    pure w

/-! ## Enabled assets -/

/-- Enter a market unless it was entered for the asset's other role. -/
def enterUnless (m : CompoundLeverageModule) (w : World) (env : Env) (cToken : Address)
    (entered : Bool) : Outcome World :=
  if entered then pure w else m.invokeEnterMarkets w env cToken

/-- Exit a market unless it is needed for the asset's other role. -/
def exitUnless (m : CompoundLeverageModule) (w : World) (env : Env) (cToken : Address)
    (needed : Bool) : Outcome World :=
  if needed then pure w else m.invokeExitMarket w env cToken

/-- One pass of the loop of `addCollateralAssets`. -/
def addCollateralAsset (env : Env) (state : CompoundLeverageModule × World) (asset : Address) :
    Outcome (CompoundLeverageModule × World) := do
  let (m, w) := state
  let cToken := m.underlyingToCToken asset
  require (cToken ≠ 0) "cToken must exist"
  require (m.collateralCTokenEnabled cToken = false) "Collateral enabled"
  let w ← m.enterUnless w env cToken (m.borrowCTokenEnabled cToken)
  pure ({ m with
    collateralCTokenEnabled := Function.update m.collateralCTokenEnabled cToken true
    collateralCTokens := m.collateralCTokens ++ [cToken] }, w)

def addCollateralAssets (m : CompoundLeverageModule) (w : World) (env : Env)
    (newCollateralAssets : List Address) : Outcome (CompoundLeverageModule × World) := do
  validateOnlyManagerAndValidSet w m.address env.sender
  newCollateralAssets.foldlM (addCollateralAsset env) (m, w)

/-- One pass of the loop of `removeCollateralAssets`. -/
def removeCollateralAsset (env : Env) (state : CompoundLeverageModule × World)
    (asset : Address) : Outcome (CompoundLeverageModule × World) := do
  let (m, w) := state
  let cToken := m.underlyingToCToken asset
  require (m.collateralCTokenEnabled cToken = true) "Collateral not enabled"
  let w ← m.exitUnless w env cToken (m.borrowCTokenEnabled cToken)
  let collateralCTokens ← AddressArrayUtils.removeStorage m.collateralCTokens cToken
  pure ({ m with
    collateralCTokenEnabled := Function.update m.collateralCTokenEnabled cToken false
    collateralCTokens := collateralCTokens }, w)

def removeCollateralAssets (m : CompoundLeverageModule) (w : World) (env : Env)
    (collateralAssets : List Address) : Outcome (CompoundLeverageModule × World) := do
  validateOnlyManagerAndValidSet w m.address env.sender
  let w ← m.sync w env true
  collateralAssets.foldlM (removeCollateralAsset env) (m, w)

/-- One pass of the loop of `addBorrowAssets`. -/
def addBorrowAsset (env : Env) (state : CompoundLeverageModule × World) (asset : Address) :
    Outcome (CompoundLeverageModule × World) := do
  let (m, w) := state
  let cToken := m.underlyingToCToken asset
  require (cToken ≠ 0) "cToken must exist"
  require (m.borrowCTokenEnabled cToken = false) "Borrow enabled"
  let w ← m.enterUnless w env cToken (m.collateralCTokenEnabled cToken)
  pure ({ m with
    borrowCTokenEnabled := Function.update m.borrowCTokenEnabled cToken true
    borrowCTokens := m.borrowCTokens ++ [cToken]
    borrowAssets := m.borrowAssets ++ [asset] }, w)

def addBorrowAssets (m : CompoundLeverageModule) (w : World) (env : Env)
    (newBorrowAssets : List Address) : Outcome (CompoundLeverageModule × World) := do
  validateOnlyManagerAndValidSet w m.address env.sender
  newBorrowAssets.foldlM (addBorrowAsset env) (m, w)

/-- One pass of the loop of `removeBorrowAssets`. -/
def removeBorrowAsset (env : Env) (state : CompoundLeverageModule × World) (asset : Address) :
    Outcome (CompoundLeverageModule × World) := do
  let (m, w) := state
  let cToken := m.underlyingToCToken asset
  require (m.borrowCTokenEnabled cToken = true) "Borrow not enabled"
  let w ← m.exitUnless w env cToken (m.collateralCTokenEnabled cToken)
  let borrowCTokens ← AddressArrayUtils.removeStorage m.borrowCTokens cToken
  let borrowAssets ← AddressArrayUtils.removeStorage m.borrowAssets asset
  pure ({ m with
    borrowCTokenEnabled := Function.update m.borrowCTokenEnabled cToken false
    borrowCTokens := borrowCTokens
    borrowAssets := borrowAssets }, w)

def removeBorrowAssets (m : CompoundLeverageModule) (w : World) (env : Env)
    (borrowAssets : List Address) : Outcome (CompoundLeverageModule × World) := do
  validateOnlyManagerAndValidSet w m.address env.sender
  let w ← m.sync w env true
  borrowAssets.foldlM (removeBorrowAsset env) (m, w)

def updateAllowedSetToken (m : CompoundLeverageModule) (env : Env) (status : Bool) :
    Outcome CompoundLeverageModule := do
  require (env.sender = m.owner) "Ownable: caller is not the owner"
  pure { m with allowedSetToken := status }

def updateAnySetAllowed (m : CompoundLeverageModule) (env : Env) (anySetAllowed : Bool) :
    Outcome CompoundLeverageModule := do
  require (env.sender = m.owner) "Ownable: caller is not the owner"
  pure { m with anySetAllowed := anySetAllowed }

def addCompoundMarket (m : CompoundLeverageModule) (env : Env) (cToken underlying : Address) :
    Outcome CompoundLeverageModule := do
  require (env.sender = m.owner) "Ownable: caller is not the owner"
  require (m.underlyingToCToken underlying = 0) "Already added"
  pure { m with underlyingToCToken := Function.update m.underlyingToCToken underlying cToken }

def removeCompoundMarket (m : CompoundLeverageModule) (env : Env) (underlying : Address) :
    Outcome CompoundLeverageModule := do
  require (env.sender = m.owner) "Ownable: caller is not the owner"
  require (m.underlyingToCToken underlying ≠ 0) "Not added"
  pure { m with underlyingToCToken := Function.update m.underlyingToCToken underlying 0 }

/-! ## Joining and leaving the Set -/

/-- The source calls this function `initialize`. -/
def initializeSetToken (m : CompoundLeverageModule) (issuance : IssuanceTable) (w : World)
    (env : Env) (collateralAssets borrowAssets : List Address) :
    Outcome (CompoundLeverageModule × IssuanceTable × World) := do
  validateOnlySetManager w env.sender
  validateOnlyValidAndPendingSet w m.address
  require (m.anySetAllowed = true ∨ m.allowedSetToken = true) "Not allowed SetToken"
  let (issuance, w) ← initializeAndRegister issuance w env m.address
  let (m, w) ← m.addCollateralAssets w env collateralAssets
  let (m, w) ← m.addBorrowAssets w env borrowAssets
  pure (m, issuance, w)

/-- The flags of the cTokens are deleted one by one in the source. -/
def clear (m : CompoundLeverageModule) : CompoundLeverageModule :=
  { m with
    borrowCTokenEnabled := fun cToken ↦
      m.borrowCTokenEnabled cToken && !m.borrowCTokens.contains cToken
    collateralCTokenEnabled := fun cToken ↦
      m.collateralCTokenEnabled cToken && !m.collateralCTokens.contains cToken
    collateralCTokens := []
    borrowCTokens := []
    borrowAssets := [] }

/-- The callback of `SetToken.removeModule`.  Compound does not let the SetToken exit a market in
which it has debt. -/
def removeModule (m : CompoundLeverageModule) (issuance : IssuanceTable) (w : World)
    (env : Env) : Outcome (CompoundLeverageModule × IssuanceTable × World) := do
  validateOnlyValidAndInitializedSet w m.address
  let w ← m.sync w env true
  let w ← m.borrowCTokens.foldlM
    (fun w cToken ↦ m.exitUnless w env cToken (m.collateralCTokenEnabled cToken)) w
  let w ← m.collateralCTokens.foldlM (fun w cToken ↦ m.invokeExitMarket w env cToken) w
  pure (m.clear, DebtIssuanceModule.unregisterFromAll issuance w m.address, w)

/-! ## Hooks -/

def moduleIssueHook (m : CompoundLeverageModule) (w : World) (env : Env) (caller : Address)
    (_setTokenQuantity : ℕ) : Outcome World := do
  validateOnlyModule w caller
  m.sync w env false

def moduleRedeemHook (m : CompoundLeverageModule) (w : World) (env : Env) (caller : Address)
    (_setTokenQuantity : ℕ) : Outcome World := do
  validateOnlyModule w caller
  m.sync w env true

/-- Unlike the hook of Aave, this one does not look at `isEquity`. -/
def componentIssueHook (m : CompoundLeverageModule) (w : World) (env : Env) (caller : Address)
    (setTokenQuantity : ℕ) (component : Address) (_isEquity : Bool) : Outcome World := do
  validateOnlyModule w caller
  let debt ← notionalDebt w m.address component setTokenQuantity true
  m.borrow w env (m.underlyingToCToken component) debt

/-- Unlike the hook of Aave, this one does not look at `isEquity`. -/
def componentRedeemHook (m : CompoundLeverageModule) (w : World) (env : Env) (caller : Address)
    (setTokenQuantity : ℕ) (component : Address) (_isEquity : Bool) : Outcome World := do
  validateOnlyModule w caller
  let debt ← notionalDebt w m.address component setTokenQuantity false
  m.repayBorrow w env (m.underlyingToCToken component) component debt

/-! ## Edits -/

variable {F : Footprint} {calls : Invocation → Prop} {m : CompoundLeverageModule} {w w' : World}
  {env : Env} {caller cToken underlying component : Address} {quantity : ℕ} {isEquity : Bool}

/-- The calls that borrow or repay in the market of an asset. -/
inductive LendingCall (m : CompoundLeverageModule) (cToken underlying : Address) :
    Invocation → Prop where
  | borrow (amount : ℕ) : LendingCall m cToken underlying ⟨cToken, 0, .compoundBorrow amount⟩
  | wrap (amount : ℕ) : LendingCall m cToken underlying ⟨m.weth, amount, .wrapWETH⟩
  | unwrap (amount : ℕ) : LendingCall m cToken underlying ⟨m.weth, 0, .unwrapWETH amount⟩
  | repayCEther (amount : ℕ) :
      LendingCall m cToken underlying ⟨cToken, amount, .repayBorrowCEther⟩
  | approve (amount : ℕ) : LendingCall m cToken underlying ⟨underlying, 0, .approve cToken amount⟩
  | repayCToken (amount : ℕ) :
      LendingCall m cToken underlying ⟨cToken, 0, .repayBorrowCToken amount⟩

theorem borrow_calls (hcalls : ∀ i, LendingCall m cToken underlying i → calls i)
    (h : m.borrow w env cToken quantity = .ok w') : World.Calls env calls w w' := by
  simp only [borrow, Outcome.bind_eq_ok] at h
  obtain ⟨v, hcall, hwrap⟩ := h
  refine (World.invokeChecked_calls (hcalls _ (.borrow _)) hcall).trans ?_
  unfold wrapEther at hwrap
  split_ifs at hwrap
  · exact World.invoke_calls (hcalls _ (.wrap _)) hwrap
  · exact .of_pure hwrap

theorem repayBorrow_calls (hcalls : ∀ i, LendingCall m cToken underlying i → calls i)
    (h : m.repayBorrow w env cToken underlying quantity = .ok w') : World.Calls env calls w w' := by
  unfold repayBorrow at h
  split_ifs at h
  · obtain ⟨v, hunwrap, hcall⟩ := Outcome.bind_eq_ok.mp h
    exact (World.invoke_calls (hcalls _ (.unwrap _)) hunwrap).trans
      (World.invoke_calls (hcalls _ (.repayCEther _)) hcall)
  · obtain ⟨v, happrove, hcall⟩ := Outcome.bind_eq_ok.mp h
    exact (World.invoke_calls (hcalls _ (.approve _)) happrove).trans
      (World.invokeChecked_calls (hcalls _ (.repayCToken _)) hcall)

/-- Accruing interest changes contracts outside the protocol only. -/
theorem borrowBalance_edits (w : World) (env : Env) (cToken : Address) (accrue : Bool) :
    World.Edits env F w (borrowBalance w env cToken accrue).1 := by
  cases accrue with
  | true => exact Relation.ReflTransGen.single (.accrue cToken)
  | false => exact .refl w

theorem syncBorrowCToken_edits {supply : ℕ} {accrue : Bool} {entry : Address × Address}
    (howns : F.owns m.address entry.2)
    (h : m.syncBorrowCToken env supply accrue w entry = .ok w') : World.Edits env F w w' :=
  (borrowBalance_edits w env entry.1 accrue).trans (syncBorrow_edits howns h)

/-- Without a supply synchronizing only checks the SetToken; with one it passes over the collateral and
then over the debts. -/
theorem sync_ok {accrue : Bool} (h : m.sync w env accrue = .ok w') :
    validateOnlyValidAndInitializedSet w m.address = .ok () ∧
      (w.setToken.totalSupply = 0 ∧ w' = w ∨ 0 < w.setToken.totalSupply ∧ ∃ v,
        m.collateralCTokens.foldlM (fun w' cToken ↦ syncCollateral w' m.address cToken
          w.setToken.totalSupply) w = .ok v ∧
        (m.borrowCTokens.zip m.borrowAssets).foldlM
          (m.syncBorrowCToken env w.setToken.totalSupply accrue) v = .ok w') := by
  simp only [sync, Outcome.bind_eq_ok] at h
  obtain ⟨_, hvalid, h⟩ := h
  refine ⟨hvalid, ?_⟩
  split_ifs at h with hsupply
  · exact Or.inr ⟨hsupply, Outcome.bind_eq_ok.mp h⟩
  · exact Or.inl ⟨Nat.eq_zero_of_not_pos hsupply, (Outcome.pure_eq_ok.mp h).symm⟩

theorem sync_edits {accrue : Bool} (howns : ∀ c ∈ m.borrowAssets, F.owns m.address c)
    (h : m.sync w env accrue = .ok w') : World.Edits env F w w' := by
  obtain ⟨-, ⟨-, rfl⟩ | ⟨-, v, hcollateral, hborrow⟩⟩ := sync_ok h
  · exact .refl _
  · have hfirst : World.Edits env F w v :=
      World.Edits.foldlM (fun _ _ _ _ hstep ↦ syncCollateral_edits hstep) hcollateral
    apply hfirst.trans (World.Edits.foldlM ?_ hborrow)
    intro _ entry hentry _ hstep
    exact syncBorrowCToken_edits (howns entry.2 (List.of_mem_zip hentry).2) hstep

theorem moduleIssueHook_edits (howns : ∀ c ∈ m.borrowAssets, F.owns m.address c)
    (h : m.moduleIssueHook w env caller quantity = .ok w') : World.Edits env F w w' := by
  simp only [moduleIssueHook, Outcome.bind_eq_ok] at h
  obtain ⟨_, -, h⟩ := h
  exact sync_edits howns h

theorem moduleRedeemHook_edits (howns : ∀ c ∈ m.borrowAssets, F.owns m.address c)
    (h : m.moduleRedeemHook w env caller quantity = .ok w') : World.Edits env F w w' := by
  simp only [moduleRedeemHook, Outcome.bind_eq_ok] at h
  obtain ⟨_, -, h⟩ := h
  exact sync_edits howns h

theorem componentIssueHook_calls
    (hcalls : ∀ i, LendingCall m (m.underlyingToCToken component) component i → calls i)
    (h : m.componentIssueHook w env caller quantity component isEquity = .ok w') :
    World.Calls env calls w w' := by
  simp only [componentIssueHook, Outcome.bind_eq_ok] at h
  obtain ⟨_, -, debt, -, hborrow⟩ := h
  exact borrow_calls hcalls hborrow

theorem componentRedeemHook_calls
    (hcalls : ∀ i, LendingCall m (m.underlyingToCToken component) component i → calls i)
    (h : m.componentRedeemHook w env caller quantity component isEquity = .ok w') :
    World.Calls env calls w w' := by
  simp only [componentRedeemHook, Outcome.bind_eq_ok] at h
  obtain ⟨_, -, debt, -, hrepay⟩ := h
  exact repayBorrow_calls hcalls hrepay

/-! ### Functions of the manager -/

section Manager

variable {sendToken receiveToken : Address} {units minUnits notional minNotional : ℕ}
  {adapterName : String} {data : List UInt8} {isLever : Bool} {info : ActionInfo}

theorem createAndValidateActionInfoNotional_ok
    (h : m.createAndValidateActionInfoNotional w env sendToken receiveToken notional minNotional
      adapterName isLever = .ok info) :
    m.borrowCTokenEnabled
      (m.underlyingToCToken (if isLever then sendToken else receiveToken)) = true := by
  simp only [createAndValidateActionInfoNotional, validateCommon, Outcome.bind_eq_ok,
    Outcome.require_eq_ok, Outcome.pure_eq_ok] at h
  obtain ⟨_, -, _, ⟨_, -, _, henabled, -⟩, -⟩ := h
  exact henabled

theorem createAndValidateActionInfo_ok
    (h : m.createAndValidateActionInfo w env sendToken receiveToken units minUnits adapterName
      isLever = .ok info) :
    m.borrowCTokenEnabled
      (m.underlyingToCToken (if isLever then sendToken else receiveToken)) = true := by
  simp only [createAndValidateActionInfo, Outcome.bind_eq_ok] at h
  obtain ⟨_, -, _, -, h⟩ := h
  exact createAndValidateActionInfoNotional_ok h

theorem updateLeverPositions_edits (howns : F.owns m.address underlying)
    (h : m.updateLeverPositions w env info underlying = .ok w') : World.Edits env F w w' := by
  simp only [updateLeverPositions, Outcome.bind_eq_ok] at h
  obtain ⟨_, -, v, hcollateral, _, -, hborrow⟩ := h
  exact ((updateCollateralPosition_edits hcollateral).trans
    (borrowBalance_edits v env info.borrow false)).trans (updateBorrowPosition_edits howns hborrow)

theorem wrapEther_calls (h : m.wrapEther w env cToken quantity = .ok w') :
    World.Calls env (fun _ ↦ True) w w' := by
  unfold wrapEther at h
  split_ifs at h
  · exact World.invoke_calls trivial h
  · exact .of_pure h

theorem redeemUnderlying_calls (h : m.redeemUnderlying w env cToken quantity = .ok w') :
    World.Calls env (fun _ ↦ True) w w' := by
  simp only [redeemUnderlying, Outcome.bind_eq_ok] at h
  obtain ⟨v, hcall, hwrap⟩ := h
  exact (World.invokeChecked_calls trivial hcall).trans (wrapEther_calls hwrap)

theorem mintCToken_calls (h : m.mintCToken w env cToken underlying quantity = .ok w') :
    World.Calls env (fun _ ↦ True) w w' := by
  unfold mintCToken at h
  split_ifs at h
  · obtain ⟨v, hunwrap, hcall⟩ := Outcome.bind_eq_ok.mp h
    exact (World.invoke_calls trivial hunwrap).trans (World.invoke_calls trivial hcall)
  · obtain ⟨v, happrove, hcall⟩ := Outcome.bind_eq_ok.mp h
    exact (World.invoke_calls trivial happrove).trans (World.invokeChecked_calls trivial hcall)

/-- The position is edited for the asset that is borrowed, whose market has to be enabled. -/
theorem lever_edits (hcalls : ∀ i, F.calls i)
    (howns : ∀ c, m.borrowCTokenEnabled (m.underlyingToCToken c) = true → F.owns m.address c)
    (h : m.lever w env sendToken receiveToken units minUnits adapterName data = .ok w') :
    World.Edits env F w w' := by
  simp only [lever, Outcome.bind_eq_ok, Prod.exists] at h
  obtain ⟨_, -, info, hinfo, v, hborrow, u, _, htrade, x, hmint, hupdate⟩ := h
  have hmade : World.Calls env (fun _ ↦ True) w x :=
    ((borrow_calls (fun _ (_ : LendingCall m _ sendToken _) ↦ trivial) hborrow).trans
      (tradeLessFee_calls (fun _ _ _ ↦ trivial) (fun _ _ _ ↦ trivial) (fun _ _ ↦ trivial)
        htrade)).trans (mintCToken_calls hmint)
  have henabled := howns sendToken (createAndValidateActionInfo_ok hinfo)
  exact (hmade.mono fun i _ ↦ hcalls i).edits.trans (updateLeverPositions_edits henabled hupdate)

theorem delever_edits (hcalls : ∀ i, F.calls i)
    (howns : ∀ c, m.borrowCTokenEnabled (m.underlyingToCToken c) = true → F.owns m.address c)
    (h : m.delever w env sendToken receiveToken units minUnits adapterName data = .ok w') :
    World.Edits env F w w' := by
  simp only [delever, Outcome.bind_eq_ok, Prod.exists] at h
  obtain ⟨_, -, info, hinfo, v, hredeem, u, _, htrade, x, hrepay, hupdate⟩ := h
  have hmade : World.Calls env (fun _ ↦ True) w x :=
    ((redeemUnderlying_calls hredeem).trans (tradeLessFee_calls (fun _ _ _ ↦ trivial)
      (fun _ _ _ ↦ trivial) (fun _ _ ↦ trivial) htrade)).trans
        (repayBorrow_calls (fun _ _ ↦ trivial) hrepay)
  have henabled := howns receiveToken (createAndValidateActionInfo_ok hinfo)
  exact (hmade.mono fun i _ ↦ hcalls i).edits.trans (updateLeverPositions_edits henabled hupdate)

theorem deleverToZeroBorrowBalance_edits (hcalls : ∀ i, F.calls i)
    (howns : ∀ c, m.borrowCTokenEnabled (m.underlyingToCToken c) = true → F.owns m.address c)
    (h : m.deleverToZeroBorrowBalance w env sendToken receiveToken units adapterName data = .ok w') :
    World.Edits env F w w' := by
  simp only [deleverToZeroBorrowBalance, Outcome.bind_eq_ok, Outcome.require_eq_ok, Prod.exists] at h
  obtain ⟨_, -, _, -, _, henabled, info, -, v, hredeem, u, _, htrade, x, hrepay, y, _, _, _, hdefault,
    hupdate⟩ := h
  have hmade : World.Calls env (fun _ ↦ True) (borrowBalance w env _ true).1 x :=
    ((redeemUnderlying_calls hredeem).trans (executeTrade_calls (fun _ _ _ ↦ trivial)
      (fun _ _ _ ↦ trivial) htrade)).trans (repayBorrow_calls (fun _ _ ↦ trivial) hrepay)
  have hpaid : World.Edits env F w x :=
    (borrowBalance_edits w env _ true).trans (hmade.mono fun i _ ↦ hcalls i).edits
  exact (hpaid.trans (World.calculateAndEditDefaultPosition_edits hdefault)).trans
    (updateLeverPositions_edits (howns receiveToken henabled) hupdate)

end Manager

end CompoundLeverageModule

end SetProtocol
