import SetProtocol.Modules.AaveLeverageModule
import SetProtocol.Modules.CompoundLeverageModule
import SetProtocol.Modules.PerpV2LeverageModuleV2
import SetProtocol.Modules.StakingModule

/-!
# The modules of one Set together

Issuance calls hooks of other modules, and removing a module from the SetToken calls that module
back.  A call goes to whatever contract is at the address, so the modules are put together here with
the dispatch of their hooks.
-/

namespace SetProtocol

open PreciseUnitMath ModuleBase

structure Protocol where
  world : World
  issuance : IssuanceTable
  aave : AaveLeverageModule
  compound : CompoundLeverageModule
  perp : PerpV2LeverageModuleV2
  staking : StakingModule

namespace Protocol

/-- A Set whose other modules have never been used. -/
def idle (w : World) : Protocol where
  world := w
  issuance := fun _ ↦ none
  aave := {
    address := 31
    owner := 1
    lendingPool := 41
    underlyingToReserveTokens := fun _ ↦ ⟨0, 0⟩
    collateralAssetEnabled := fun _ ↦ false
    borrowAssetEnabled := fun _ ↦ false
    collateralAssets := []
    borrowAssets := []
    allowedSetToken := false
    anySetAllowed := true }
  compound := {
    address := 32
    owner := 1
    weth := 42
    cEther := 43
    comptroller := 44
    underlyingToCToken := fun _ ↦ 0
    collateralCTokenEnabled := fun _ ↦ false
    borrowCTokenEnabled := fun _ ↦ false
    collateralCTokens := []
    borrowCTokens := []
    borrowAssets := []
    allowedSetToken := false
    anySetAllowed := true }
  perp := {
    address := 33
    owner := 1
    collateralToken := 45
    collateralDecimals := 6
    perpVault := 46
    perpClearingHouse := 47
    perpQuoter := 48
    maxPerpPositionsPerSet := 2
    positions := []
    allowedSetToken := false
    anySetAllowed := true }
  staking := ⟨34, fun _ ↦ .empty⟩

/-- Run a part of a transaction that only changes the world. -/
def onWorld (P : Protocol) (result : Outcome World) : Outcome Protocol := do
  let w ← result
  pure { P with world := w }

/-- Run a part of a transaction that changes the world and the Perp module. -/
def onPerp (P : Protocol) (result : Outcome (PerpV2LeverageModuleV2 × World)) :
    Outcome Protocol := do
  let (perp, w) ← result
  pure { P with perp := perp, world := w }

/-- Run a part of a transaction that changes the world and the staking module. -/
def onStaking (P : Protocol) (result : Outcome (StakingModule × World)) : Outcome Protocol := do
  let (staking, w) ← result
  pure { P with staking := staking, world := w }

/-! ## Hooks -/

/-- `moduleIssueHook` of the contract at the address `hook`, called by `caller`.  The hook of
`StakingModule` does nothing. -/
def moduleIssueHook (P : Protocol) (env : Env) (caller : Address) (quantity : ℕ)
    (hook : Address) : Outcome Protocol :=
  if hook = P.aave.address then
    P.onWorld (P.aave.moduleIssueHook P.world caller quantity)
  else if hook = P.compound.address then
    P.onWorld (P.compound.moduleIssueHook P.world env caller quantity)
  else if hook = P.perp.address then
    P.onPerp (P.perp.moduleIssueHook P.world env caller quantity)
  else if hook = P.staking.address then
    pure P
  else
    throw "function call to a non-contract account"

/-- `moduleRedeemHook` of the contract at the address `hook`, called by `caller`. -/
def moduleRedeemHook (P : Protocol) (env : Env) (caller : Address) (quantity : ℕ)
    (hook : Address) : Outcome Protocol :=
  if hook = P.aave.address then
    P.onWorld (P.aave.moduleRedeemHook P.world caller quantity)
  else if hook = P.compound.address then
    P.onWorld (P.compound.moduleRedeemHook P.world env caller quantity)
  else if hook = P.perp.address then
    P.onPerp (P.perp.moduleRedeemHook P.world env caller quantity)
  else if hook = P.staking.address then
    pure P
  else
    throw "function call to a non-contract account"

/-- `componentIssueHook` of the contract at the address `hook`, called by `caller`. -/
def componentIssueHook (P : Protocol) (env : Env) (caller : Address) (quantity : ℕ)
    (component : Address) (isEquity : Bool) (w : World) (hook : Address) : Outcome World :=
  if hook = P.aave.address then
    P.aave.componentIssueHook w env caller quantity component isEquity
  else if hook = P.compound.address then
    P.compound.componentIssueHook w env caller quantity component isEquity
  else if hook = P.perp.address then
    P.perp.componentIssueHook w env caller quantity component isEquity
  else if hook = P.staking.address then
    P.staking.componentIssueHook w env caller quantity component isEquity
  else
    throw "function call to a non-contract account"

/-- `componentRedeemHook` of the contract at the address `hook`, called by `caller`. -/
def componentRedeemHook (P : Protocol) (env : Env) (caller : Address) (quantity : ℕ)
    (component : Address) (isEquity : Bool) (w : World) (hook : Address) : Outcome World :=
  if hook = P.aave.address then
    P.aave.componentRedeemHook w env caller quantity component isEquity
  else if hook = P.compound.address then
    P.compound.componentRedeemHook w env caller quantity component isEquity
  else if hook = P.perp.address then
    P.perp.componentRedeemHook w env caller quantity component isEquity
  else if hook = P.staking.address then
    P.staking.componentRedeemHook w env caller quantity component isEquity
  else
    throw "function call to a non-contract account"

end Protocol

/-! ## `DebtIssuanceModule` -/

namespace DebtIssuanceModule

def callModulePreIssueHooks (m : DebtIssuanceModule) (P : Protocol) (env : Env) (quantity : ℕ) :
    Outcome Protocol :=
  m.settings.moduleIssuanceHooks.foldlM
    (fun P hook ↦ P.moduleIssueHook env m.address quantity hook) P

def callModulePreRedeemHooks (m : DebtIssuanceModule) (P : Protocol) (env : Env) (quantity : ℕ) :
    Outcome Protocol :=
  m.settings.moduleIssuanceHooks.foldlM
    (fun P hook ↦ P.moduleRedeemHook env m.address quantity hook) P

/-- Component hooks do not change the storage of their own modules. -/
def executeExternalPositionHooks (m : DebtIssuanceModule) (P : Protocol) (env : Env) (w : World)
    (setTokenQuantity : ℕ) (component : Address) (isIssue isEquity : Bool) : Outcome World :=
  let externalPositionModules := w.setToken.externalPositionModules component
  if isIssue then
    externalPositionModules.foldlM
      (P.componentIssueHook env m.address setTokenQuantity component isEquity) w
  else
    externalPositionModules.foldlM
      (P.componentRedeemHook env m.address setTokenQuantity component isEquity) w

/-- One pass of the loop of `_resolveEquityPositions`, over a component with its equity and debt. -/
def resolveEquityPosition (m : DebtIssuanceModule) (P : Protocol) (env : Env) (quantity : ℕ)
    (recipient : Address) (isIssue : Bool) (w : World) (entry : Address × ℕ × ℕ) :
    Outcome World :=
  let component := entry.1
  let componentQuantity := entry.2.1
  if 0 < componentQuantity then
    if isIssue then do
      let w ← w.explicitTransferFrom component m.address env.sender w.setToken.address
        componentQuantity
      m.executeExternalPositionHooks P env w quantity component true true
    else do
      let w ← m.executeExternalPositionHooks P env w quantity component false true
      w.strictInvokeTransfer env m.address component recipient componentQuantity
  else
    pure w

/-- One pass of the loop of `_resolveDebtPositions`, over a component with its equity and debt. -/
def resolveDebtPosition (m : DebtIssuanceModule) (P : Protocol) (env : Env) (quantity : ℕ)
    (isIssue : Bool) (w : World) (entry : Address × ℕ × ℕ) : Outcome World :=
  let component := entry.1
  let componentQuantity := entry.2.2
  if 0 < componentQuantity then
    if isIssue then do
      let w ← m.executeExternalPositionHooks P env w quantity component true false
      w.strictInvokeTransfer env m.address component env.sender componentQuantity
    else do
      let w ← w.explicitTransferFrom component m.address env.sender w.setToken.address
        componentQuantity
      m.executeExternalPositionHooks P env w quantity component false false
  else
    pure w

def resolveEquityPositions (m : DebtIssuanceModule) (P : Protocol) (env : Env) (w : World)
    (quantity : ℕ) (recipient : Address) (isIssue : Bool) (required : List (Address × ℕ × ℕ)) :
    Outcome World :=
  required.foldlM (m.resolveEquityPosition P env quantity recipient isIssue) w

def resolveDebtPositions (m : DebtIssuanceModule) (P : Protocol) (env : Env) (w : World)
    (quantity : ℕ) (isIssue : Bool) (required : List (Address × ℕ × ℕ)) : Outcome World :=
  required.foldlM (m.resolveDebtPosition P env quantity isIssue) w

/-- The steps of `issue` once the quantities are known: equity comes in before debt goes out. -/
def issueRequired (m : DebtIssuanceModule) (P : Protocol) (env : Env)
    (quantity quantityWithFees managerFee protocolFee : ℕ) (recipient : Address)
    (required : List (Address × ℕ × ℕ)) : Outcome Protocol := do
  let w ← m.resolveEquityPositions P env P.world quantityWithFees recipient true required
  let w ← m.resolveDebtPositions P env w quantityWithFees true required
  let w ← m.resolveFees w managerFee protocolFee
  let w ← w.onSetToken fun s ↦ s.mint w.controller m.address recipient quantity
  pure { P with world := w }

/-- The steps of `redeem` once the quantities are known: debt comes in before equity goes out. -/
def redeemRequired (m : DebtIssuanceModule) (P : Protocol) (env : Env)
    (quantityNetFees managerFee protocolFee : ℕ) (recipient : Address)
    (required : List (Address × ℕ × ℕ)) : Outcome Protocol := do
  let w ← m.resolveDebtPositions P env P.world quantityNetFees false required
  let w ← m.resolveEquityPositions P env w quantityNetFees recipient false required
  let w ← m.resolveFees w managerFee protocolFee
  pure { P with world := w }

/-- Burn the Sets of the caller. -/
def burnQuantity (m : DebtIssuanceModule) (P : Protocol) (env : Env) (quantity : ℕ) :
    Outcome Protocol :=
  P.onWorld (P.world.onSetToken fun s ↦ s.burn P.world.controller m.address env.sender quantity)

def issue (m : DebtIssuanceModule) (P : Protocol) (env : Env) (quantity : ℕ)
    (recipient : Address) : Outcome Protocol := do
  validateOnlyValidAndInitializedSet P.world m.address
  require (0 < quantity) "Issue quantity must be > 0"
  m.callManagerPreIssueHooks env quantity env.sender recipient
  let P ← m.callModulePreIssueHooks P env quantity
  let (quantityWithFees, managerFee, protocolFee) ← m.calculateTotalFees P.world quantity true
  let required ← calculateRequiredComponentIssuanceUnits P.world quantityWithFees true
  m.issueRequired P env quantity quantityWithFees managerFee protocolFee recipient required

def redeem (m : DebtIssuanceModule) (P : Protocol) (env : Env) (quantity : ℕ)
    (recipient : Address) : Outcome Protocol := do
  validateOnlyValidAndInitializedSet P.world m.address
  require (0 < quantity) "Redeem quantity must be > 0"
  let P ← m.callModulePreRedeemHooks P env quantity
  let P ← m.burnQuantity P env quantity
  let (quantityNetFees, managerFee, protocolFee) ← m.calculateTotalFees P.world quantity false
  let required ← calculateRequiredComponentIssuanceUnits P.world quantityNetFees false
  m.redeemRequired P env quantityNetFees managerFee protocolFee recipient required

end DebtIssuanceModule

/-! ## `SlippageIssuanceModule`

It inherits from `DebtIssuanceModule`.  The hooks are called with the quantity after fees. -/

namespace SlippageIssuanceModule

open DebtIssuanceModule

/-- An empty list of limits is not checked for duplicates. -/
def validateInputs (setQuantity : ℕ) (components : List Address) (componentLimits : List ℕ) :
    Outcome Unit := do
  require (0 < setQuantity) "SetToken quantity must be > 0"
  require (components.length = componentLimits.length) "Array length mismatch"
  if 0 < components.length then do
    let duplicate ← AddressArrayUtils.hasDuplicate components
    require (duplicate = false) "Cannot duplicate addresses"
  else
    pure ()

/-- One pass of the loop of `_validateTokenTransferLimits`. -/
def validateTokenTransferLimit (required : List (Address × ℕ × ℕ)) (isIssue : Bool)
    (limit : Address × ℕ) : Outcome Unit :=
  match required.find? fun entry ↦ entry.1 == limit.1 with
  | none => throw "Limit passed for invalid component"
  | some entry =>
    if isIssue then
      require (entry.2.1 ≤ limit.2) "Too many tokens required for issuance"
    else
      require (limit.2 ≤ entry.2.1) "Too few tokens returned for redemption"

def validateTokenTransferLimits (checkedComponents : List Address) (tokenTransferLimits : List ℕ)
    (required : List (Address × ℕ × ℕ)) (isIssue : Bool) : Outcome Unit :=
  forM (checkedComponents.zip tokenTransferLimits) (validateTokenTransferLimit required isIssue)

def issueWithSlippage (m : DebtIssuanceModule) (P : Protocol) (env : Env) (setQuantity : ℕ)
    (checkedComponents : List Address) (maxTokenAmountsIn : List ℕ) (recipient : Address) :
    Outcome Protocol := do
  validateOnlyValidAndInitializedSet P.world m.address
  validateInputs setQuantity checkedComponents maxTokenAmountsIn
  m.callManagerPreIssueHooks env setQuantity env.sender recipient
  let (quantityWithFees, managerFee, protocolFee) ←
    m.calculateTotalFees P.world setQuantity true
  let P ← m.callModulePreIssueHooks P env quantityWithFees
  let required ← calculateRequiredComponentIssuanceUnits P.world quantityWithFees true
  validateTokenTransferLimits checkedComponents maxTokenAmountsIn required true
  m.issueRequired P env setQuantity quantityWithFees managerFee protocolFee recipient required

def redeemWithSlippage (m : DebtIssuanceModule) (P : Protocol) (env : Env) (setQuantity : ℕ)
    (checkedComponents : List Address) (minTokenAmountsOut : List ℕ) (recipient : Address) :
    Outcome Protocol := do
  validateOnlyValidAndInitializedSet P.world m.address
  validateInputs setQuantity checkedComponents minTokenAmountsOut
  let (quantityNetFees, managerFee, protocolFee) ←
    m.calculateTotalFees P.world setQuantity false
  let P ← m.callModulePreRedeemHooks P env quantityNetFees
  let P ← m.burnQuantity P env setQuantity
  let required ← calculateRequiredComponentIssuanceUnits P.world quantityNetFees false
  validateTokenTransferLimits checkedComponents minTokenAmountsOut required false
  m.redeemRequired P env quantityNetFees managerFee protocolFee recipient required

/-- The adjustments of a registered hook.  Only `PerpV2LeverageModuleV2` has the function. -/
def hookAdjustments (P : Protocol) (env : Env) (quantity : ℕ) (isIssue : Bool) (hook : Address) :
    Outcome (Protocol × List ℤ × List ℤ) :=
  if hook = P.perp.address then do
    let (perp, w, adjustments) ← P.perp.getAdjustments P.world env quantity isIssue
    pure ({ P with perp := perp, world := w }, adjustments)
  else
    throw "function selector was not recognized"

/-- Add two arrays of adjustments entry by entry. -/
def addAdjustments (cumulative adjustments : List ℤ) : Outcome (List ℤ) :=
  (cumulative.zip adjustments).mapM fun entry ↦ SignedSafeMath.add entry.1 entry.2

/-- One pass of the loop of `_calculateAdjustments`. -/
def accumulateAdjustments (env : Env) (quantity : ℕ) (isIssue : Bool)
    (state : Protocol × List ℤ × List ℤ) (hook : Address) :
    Outcome (Protocol × List ℤ × List ℤ) := do
  let (P, equityAdjustments, debtAdjustments) ← hookAdjustments state.1 env quantity isIssue hook
  let cumulativeEquity ← addAdjustments state.2.1 equityAdjustments
  let cumulativeDebt ← addAdjustments state.2.2 debtAdjustments
  pure (P, cumulativeEquity, cumulativeDebt)

def calculateAdjustments (m : DebtIssuanceModule) (P : Protocol) (env : Env) (quantity : ℕ)
    (isIssue : Bool) : Outcome (Protocol × List ℤ × List ℤ) :=
  let zeros := P.world.setToken.components.map fun _ ↦ (0 : ℤ)
  m.settings.moduleIssuanceHooks.foldlM (accumulateAdjustments env quantity isIssue)
    (P, zeros, zeros)

/-- One pass of the loop of `_calculateAdjustedComponentIssuanceUnits`. -/
def adjustedQuantities (quantity : ℕ) (isIssue : Bool)
    (entry : (Address × ℕ × ℕ) × ℤ × ℤ) : Outcome (Address × ℕ × ℕ) := do
  let ((component, equityUnits, debtUnits), equityAdjustment, debtAdjustment) := entry
  let equityUnits ← SafeCast.toInt256 equityUnits
  let adjustedEquity ← SignedSafeMath.add equityUnits equityAdjustment
  let adjustedEquityUnits ← SafeCast.toUint256 adjustedEquity
  let equity ← equityQuantity adjustedEquityUnits quantity isIssue
  let debtUnits ← SafeCast.toInt256 debtUnits
  let adjustedDebt ← SignedSafeMath.sub debtUnits debtAdjustment
  let adjustedDebtUnits ← SafeCast.toUint256 adjustedDebt
  let debt ← debtQuantity adjustedDebtUnits quantity isIssue
  pure (component, equity, debt)

def calculateAdjustedComponentIssuanceUnits (w : World) (quantity : ℕ) (isIssue : Bool)
    (equityAdjustments debtAdjustments : List ℤ) : Outcome (List (Address × ℕ × ℕ)) := do
  let units ← getTotalIssuanceUnits w
  (units.zip (equityAdjustments.zip debtAdjustments)).mapM (adjustedQuantities quantity isIssue)

/-- The two getters differ in the direction.  They are called off-chain and change nothing. -/
def getRequiredComponentUnitsOffChain (m : DebtIssuanceModule) (P : Protocol) (env : Env)
    (quantity : ℕ) (isIssue : Bool) : Outcome (List (Address × ℕ × ℕ)) := do
  let fees ← m.calculateTotalFees P.world quantity isIssue
  let (P, equityAdjustments, debtAdjustments) ←
    calculateAdjustments m P env fees.1 isIssue
  calculateAdjustedComponentIssuanceUnits P.world fees.1 isIssue equityAdjustments debtAdjustments

def getRequiredComponentIssuanceUnitsOffChain (m : DebtIssuanceModule) (P : Protocol) (env : Env)
    (quantity : ℕ) : Outcome (List (Address × ℕ × ℕ)) :=
  getRequiredComponentUnitsOffChain m P env quantity true

def getRequiredComponentRedemptionUnitsOffChain (m : DebtIssuanceModule) (P : Protocol)
    (env : Env) (quantity : ℕ) : Outcome (List (Address × ℕ × ℕ)) :=
  getRequiredComponentUnitsOffChain m P env quantity false

end SlippageIssuanceModule

/-! ## Removing a module -/

namespace Protocol

/-- The callback of `SetToken.removeModule` in the contract at an address.  Contracts outside this
model agree to their removal. -/
def removeModuleCallback (P : Protocol) (env : Env) (module : Address) : Outcome Protocol :=
  match P.issuance module with
  | some settings => do
    let m ← (DebtIssuanceModule.mk module settings).removeModule
    pure { P with issuance := Function.update P.issuance module (some m.settings) }
  | none =>
    if module = P.aave.address then do
      let (aave, issuance, w) ← P.aave.removeModule P.issuance P.world env
      pure { P with aave := aave, issuance := issuance, world := w }
    else if module = P.compound.address then do
      let (compound, issuance, w) ← P.compound.removeModule P.issuance P.world env
      pure { P with compound := compound, issuance := issuance, world := w }
    else if module = P.perp.address then do
      let (perp, issuance) ← P.perp.removeModule P.issuance P.world
      pure { P with perp := perp, issuance := issuance }
    else if module = P.staking.address then do
      P.staking.removeModule P.world
      pure P
    else
      pure P

/-- `SetToken.removeModule`, called by the account that sends the transaction. -/
def removeModule (P : Protocol) (env : Env) (module : Address) : Outcome Protocol := do
  P.world.setToken.validateRemoveModule env.sender module
  let P ← P.removeModuleCallback env module
  P.onWorld (P.world.onSetToken fun s ↦ s.clearModule module)

/-! ## Edits of the hooks -/

variable {F : Footprint} {calls : Invocation → Prop} {P P' : Protocol} {env : Env}
  {caller hook component : Address} {quantity : ℕ}

/-- Each lending module edits its own external positions in its borrowed assets; Perp's hooks trade
and write the unit of the collateral token directly. -/
structure Allows (P : Protocol) (F : Footprint) : Prop where
  aave : ∀ c ∈ P.aave.borrowAssets, F.owns P.aave.address c
  compound : ∀ c ∈ P.compound.borrowAssets, F.owns P.compound.address c
  perp : F.writes P.perp.address P.perp.collateralToken
  trades : ∀ action, F.calls (P.perp.tradeCall action false)

/-- The modules keep their contracts and their lists, apart from Perp's list of positions. -/
structure SameModules (P P' : Protocol) : Prop where
  issuance : P'.issuance = P.issuance
  aave : P'.aave = P.aave
  compound : P'.compound = P.compound
  perp : P.perp.SameContracts P'.perp
  staking : P'.staking = P.staking

theorem SameModules.refl (P : Protocol) : P.SameModules P :=
  ⟨rfl, rfl, rfl, .refl _, rfl⟩

theorem SameModules.trans {P₁ P₂ P₃ : Protocol} (h : P₁.SameModules P₂) (h' : P₂.SameModules P₃) :
    P₁.SameModules P₃ where
  issuance := h'.issuance.trans h.issuance
  aave := h'.aave.trans h.aave
  compound := h'.compound.trans h.compound
  perp := h.perp.trans h'.perp
  staking := h'.staking.trans h.staking

theorem SameModules.allows (h : P.SameModules P') (hallows : P.Allows F) : P'.Allows F := by
  constructor
  · rw [h.aave]
    exact hallows.aave
  · rw [h.compound]
    exact hallows.compound
  · rw [h.perp.address, h.perp.collateralToken]
    exact hallows.perp
  · intro action
    rw [h.perp.tradeCall]
    exact hallows.trades action

theorem onWorld_ok {result : Outcome World} (h : P.onWorld result = .ok P') :
    result = .ok P'.world ∧ P' = { P with world := P'.world } := by
  simp only [onWorld, Outcome.bind_eq_ok, Outcome.pure_eq_ok] at h
  obtain ⟨w, hw, rfl⟩ := h
  exact ⟨hw, rfl⟩

theorem onPerp_ok {result : Outcome (PerpV2LeverageModuleV2 × World)}
    (h : P.onPerp result = .ok P') :
    result = .ok (P'.perp, P'.world) ∧ P' = { P with perp := P'.perp, world := P'.world } := by
  simp only [onPerp, Outcome.bind_eq_ok, Outcome.pure_eq_ok, Prod.exists] at h
  obtain ⟨perp, w, hw, rfl⟩ := h
  exact ⟨hw, rfl⟩

theorem sameModules_of_world {w : World} (h : P' = { P with world := w }) : P.SameModules P' := by
  subst h
  exact ⟨rfl, rfl, rfl, .refl _, rfl⟩

/-- The module hook for issuing or for redeeming. -/
def moduleHook (P : Protocol) (env : Env) (caller : Address) (quantity : ℕ) (isIssue : Bool)
    (hook : Address) : Outcome Protocol :=
  if isIssue then P.moduleIssueHook env caller quantity hook
  else P.moduleRedeemHook env caller quantity hook

theorem moduleHook_edits {isIssue : Bool} (hallows : P.Allows F)
    (h : P.moduleHook env caller quantity isIssue hook = .ok P') :
    P.SameModules P' ∧ P.world.Edits env F P'.world := by
  have hperp : P.onPerp (P.perp.moduleHook P.world env caller quantity isIssue) = .ok P' →
      P.SameModules P' ∧ P.world.Edits env F P'.world := by
    intro h
    obtain ⟨hw, hP⟩ := onPerp_ok h
    obtain ⟨hsame, hedits⟩ :=
      PerpV2LeverageModuleV2.moduleHook_edits hallows.trades hallows.perp hw
    rw [hP]
    exact ⟨⟨rfl, rfl, rfl, hsame, rfl⟩, hedits⟩
  have hstay : (pure P : Outcome Protocol) = .ok P' →
      P.SameModules P' ∧ P.world.Edits env F P'.world := by
    intro h
    obtain rfl := Outcome.pure_eq_ok.mp h
    exact ⟨.refl P, .refl P.world⟩
  cases isIssue with
  | true =>
    simp only [moduleHook, if_true, moduleIssueHook] at h
    split_ifs at h
    · obtain ⟨hw, hP⟩ := onWorld_ok h
      exact ⟨sameModules_of_world hP, AaveLeverageModule.moduleIssueHook_edits hallows.aave hw⟩
    · obtain ⟨hw, hP⟩ := onWorld_ok h
      exact ⟨sameModules_of_world hP,
        CompoundLeverageModule.moduleIssueHook_edits hallows.compound hw⟩
    · exact hperp h
    · exact hstay h
  | false =>
    simp only [moduleHook, Bool.false_eq_true, if_false, moduleRedeemHook] at h
    split_ifs at h
    · obtain ⟨hw, hP⟩ := onWorld_ok h
      exact ⟨sameModules_of_world hP, AaveLeverageModule.moduleRedeemHook_edits hallows.aave hw⟩
    · obtain ⟨hw, hP⟩ := onWorld_ok h
      exact ⟨sameModules_of_world hP,
        CompoundLeverageModule.moduleRedeemHook_edits hallows.compound hw⟩
    · exact hperp h
    · exact hstay h

/-- The calls that the component hooks of a module make for a component. -/
structure HookCalls (P : Protocol) (calls : Invocation → Prop) (component hook : Address) :
    Prop where
  aave : hook = P.aave.address → ∀ i, P.aave.LendingCall component i → calls i
  compound : hook = P.compound.address →
    ∀ i, P.compound.LendingCall (P.compound.underlyingToCToken component) component i → calls i
  perp : hook = P.perp.address → ∀ i, P.perp.VaultCall i → calls i
  staking : hook = P.staking.address → ∀ i, StakingModule.StakingCall component i → calls i

/-- The component hook for issuing or for redeeming. -/
def componentHook (P : Protocol) (env : Env) (caller : Address) (quantity : ℕ)
    (component : Address) (isIssue isEquity : Bool) (w : World) (hook : Address) : Outcome World :=
  if isIssue then P.componentIssueHook env caller quantity component isEquity w hook
  else P.componentRedeemHook env caller quantity component isEquity w hook

theorem componentHook_calls {isIssue isEquity : Bool} {w w' : World}
    (hcalls : P.HookCalls calls component hook)
    (h : P.componentHook env caller quantity component isIssue isEquity w hook = .ok w') :
    World.Calls env calls w w' := by
  cases isIssue with
  | true =>
    simp only [componentHook, if_true, componentIssueHook] at h
    split_ifs at h with haave hcompound hperp hstaking
    · exact AaveLeverageModule.componentIssueHook_calls (hcalls.aave haave) h
    · exact CompoundLeverageModule.componentIssueHook_calls (hcalls.compound hcompound) h
    · exact PerpV2LeverageModuleV2.componentIssueHook_calls (hcalls.perp hperp) h
    · exact StakingModule.componentIssueHook_calls (hcalls.staking hstaking) h
  | false =>
    simp only [componentHook, Bool.false_eq_true, if_false, componentRedeemHook] at h
    split_ifs at h with haave hcompound hperp hstaking
    · exact AaveLeverageModule.componentRedeemHook_calls (hcalls.aave haave) h
    · exact CompoundLeverageModule.componentRedeemHook_calls (hcalls.compound hcompound) h
    · exact PerpV2LeverageModuleV2.componentRedeemHook_calls (hcalls.perp hperp) h
    · exact StakingModule.componentRedeemHook_calls (hcalls.staking hstaking) h

end Protocol

namespace DebtIssuanceModule

variable {F : Footprint} {calls : Invocation → Prop} {m : DebtIssuanceModule} {P P' : Protocol}
  {w w' : World} {env : Env} {component recipient : Address} {quantity : ℕ} {isIssue : Bool}
  {required : List (Address × ℕ × ℕ)}

/-- The module hooks called before an issue or a redemption. -/
def callModulePreHooks (m : DebtIssuanceModule) (P : Protocol) (env : Env) (quantity : ℕ)
    (isIssue : Bool) : Outcome Protocol :=
  if isIssue then m.callModulePreIssueHooks P env quantity
  else m.callModulePreRedeemHooks P env quantity

theorem callModulePreHooks_eq : m.callModulePreHooks P env quantity isIssue =
    m.settings.moduleIssuanceHooks.foldlM
      (fun P hook ↦ P.moduleHook env m.address quantity isIssue hook) P := by
  cases isIssue <;> rfl

theorem callModulePreHooks_edits (hallows : P.Allows F)
    (h : m.callModulePreHooks P env quantity isIssue = .ok P') :
    P.SameModules P' ∧ P.world.Edits env F P'.world := by
  rw [callModulePreHooks_eq] at h
  apply Outcome.foldlM_invariant
    (P := fun Q : Protocol ↦ P.SameModules Q ∧ P.world.Edits env F Q.world) ?_ h
    ⟨.refl P, .refl P.world⟩
  intro Q hook Q' hstep ⟨hsame, hedits⟩
  obtain ⟨hsame', hedits'⟩ := Protocol.moduleHook_edits (hsame.allows hallows) hstep
  exact ⟨hsame.trans hsame', hedits.trans hedits'⟩

theorem callModulePreHooks_sameStatus
    (h : m.callModulePreHooks P env quantity isIssue = .ok P') : P.world.SameStatus P'.world := by
  have hany : P.Allows .any :=
    ⟨fun _ _ ↦ trivial, fun _ _ ↦ trivial, trivial, fun _ ↦ trivial⟩
  exact (callModulePreHooks_edits hany h).2.sameStatus

theorem callModulePreIssueHooks_sameStatus
    (h : m.callModulePreIssueHooks P env quantity = .ok P') : P.world.SameStatus P'.world := by
  have hpre : m.callModulePreHooks P env quantity true = .ok P' := h
  exact callModulePreHooks_sameStatus hpre

theorem callModulePreRedeemHooks_sameStatus
    (h : m.callModulePreRedeemHooks P env quantity = .ok P') : P.world.SameStatus P'.world := by
  have hpre : m.callModulePreHooks P env quantity false = .ok P' := h
  exact callModulePreHooks_sameStatus hpre

theorem executeExternalPositionHooks_eq {isEquity : Bool} :
    m.executeExternalPositionHooks P env w quantity component isIssue isEquity =
      (w.setToken.externalPositionModules component).foldlM
        (P.componentHook env m.address quantity component isIssue isEquity) w := by
  cases isIssue <;> rfl

theorem executeExternalPositionHooks_calls {isEquity : Bool}
    (hcalls : ∀ hook ∈ w.setToken.externalPositionModules component,
      P.HookCalls calls component hook)
    (h : m.executeExternalPositionHooks P env w quantity component isIssue isEquity = .ok w') :
    World.Calls env calls w w' := by
  rw [executeExternalPositionHooks_eq] at h
  exact World.Calls.foldlM
    (fun _ hook hhook _ hstep ↦ Protocol.componentHook_calls (hcalls hook hhook) hstep) h

theorem executeExternalPositionHooks_steady {isEquity : Bool}
    (h : m.executeExternalPositionHooks P env w quantity component isIssue isEquity = .ok w') :
    w.Steady w' :=
  (executeExternalPositionHooks_calls (fun _ _ ↦
    (⟨fun _ _ _ ↦ trivial, fun _ _ _ ↦ trivial, fun _ _ _ ↦ trivial, fun _ _ _ ↦ trivial⟩ :
      P.HookCalls (fun _ ↦ True) component _)) h).steady

theorem resolveEquityPosition_steady {entry : Address × ℕ × ℕ}
    (h : m.resolveEquityPosition P env quantity recipient isIssue w entry = .ok w') :
    w.Steady w' := by
  unfold resolveEquityPosition at h
  dsimp only at h
  split_ifs at h
  · obtain ⟨u, htransfer, hhooks⟩ := Outcome.bind_eq_ok.mp h
    exact (World.Steady.of_move (World.explicitTransferFrom_moveStep htransfer).1).trans
      (executeExternalPositionHooks_steady hhooks)
  · obtain ⟨u, hhooks, htransfer⟩ := Outcome.bind_eq_ok.mp h
    exact (executeExternalPositionHooks_steady hhooks).trans
      (.of_move (World.strictInvokeTransfer_moveStep htransfer).1)
  · obtain rfl := Outcome.pure_eq_ok.mp h
    exact .refl w

theorem resolveDebtPosition_steady {entry : Address × ℕ × ℕ}
    (h : m.resolveDebtPosition P env quantity isIssue w entry = .ok w') : w.Steady w' := by
  unfold resolveDebtPosition at h
  dsimp only at h
  split_ifs at h
  · obtain ⟨u, hhooks, htransfer⟩ := Outcome.bind_eq_ok.mp h
    exact (executeExternalPositionHooks_steady hhooks).trans
      (.of_move (World.strictInvokeTransfer_moveStep htransfer).1)
  · obtain ⟨u, htransfer, hhooks⟩ := Outcome.bind_eq_ok.mp h
    exact (World.Steady.of_move (World.explicitTransferFrom_moveStep htransfer).1).trans
      (executeExternalPositionHooks_steady hhooks)
  · obtain rfl := Outcome.pure_eq_ok.mp h
    exact .refl w

theorem resolveEquityPositions_steady
    (h : m.resolveEquityPositions P env w quantity recipient isIssue required = .ok w') :
    w.Steady w' :=
  Outcome.foldlM_invariant (P := w.Steady)
    (fun _ _ _ hstep hs ↦ hs.trans (resolveEquityPosition_steady hstep)) h (.refl w)

theorem resolveDebtPositions_steady
    (h : m.resolveDebtPositions P env w quantity isIssue required = .ok w') : w.Steady w' :=
  Outcome.foldlM_invariant (P := w.Steady)
    (fun _ _ _ hstep hs ↦ hs.trans (resolveDebtPosition_steady hstep)) h (.refl w)

end DebtIssuanceModule

end SetProtocol
