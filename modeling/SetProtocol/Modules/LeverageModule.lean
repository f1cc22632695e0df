import SetProtocol.Core.PositionEdits
import SetProtocol.Modules.DebtIssuanceModule

/-!
# What the leverage modules for lending markets share

`AaveLeverageModule` and `CompoundLeverageModule` borrow on behalf of the SetToken.  The collateral is
a default position in the token of the market and the debt a negative external position in the
borrowed asset.  Both modules trade between the two, recompute the units from the balances, and take
or repay debt from the hooks of issuance.
-/

namespace SetProtocol.LeverageModule

open PreciseUnitMath ModuleBase

/-- Name of the issuance module in the IntegrationRegistry. -/
def defaultIssuanceModuleName : String := "DefaultIssuanceModule"

/-- Index of the fee that is charged on trades. -/
def protocolTradeFeeIndex : ℕ := 0

/-- `collateral` and `borrow` are the underlying assets for Aave and their cTokens for Compound. -/
structure ActionInfo where
  exchangeAdapter : Address
  setTotalSupply : ℕ
  notionalSendQuantity : ℕ
  minNotionalReceiveQuantity : ℕ
  collateral : Address
  borrow : Address
  preTradeReceiveTokenBalance : ℕ

/-- Returns the quantity of the receive token that the trade brought. -/
def executeTrade (w : World) (env : Env) (module : Address) (info : ActionInfo)
    (sendToken receiveToken : Address) (data : List UInt8) : Outcome (World × ℕ) := do
  let adapter := env.exchangeAdapter info.exchangeAdapter
  let w ← w.invokeApprove env module sendToken adapter.getSpender info.notionalSendQuantity
  let (targetExchange, callValue, methodData) ← adapter.getTradeCalldata sendToken receiveToken
    w.setToken.address info.notionalSendQuantity info.minNotionalReceiveQuantity data
  let w ← w.invoke env module ⟨targetExchange, callValue, .raw methodData⟩
  let receiveTokenQuantity ←
    SafeMath.sub (w.balance receiveToken) info.preTradeReceiveTokenBalance
  require (info.minNotionalReceiveQuantity ≤ receiveTokenQuantity) "Slippage too high"
  pure (w, receiveTokenQuantity)

/-- Returns the fee that was paid. -/
def accrueProtocolFee (w : World) (env : Env) (module receiveToken : Address)
    (exchangedQuantity : ℕ) : Outcome (World × ℕ) := do
  let protocolFeeTotal ← getModuleFee w module protocolTradeFeeIndex exchangedQuantity
  let w ← payProtocolFeeFromSetToken w env module receiveToken protocolFeeTotal
  pure (w, protocolFeeTotal)

/-- The quantity left after the fee. -/
def tradeLessFee (w : World) (env : Env) (module : Address) (info : ActionInfo)
    (sendToken receiveToken : Address) (data : List UInt8) : Outcome (World × ℕ) := do
  let (w, postTradeReceiveQuantity) ← executeTrade w env module info sendToken receiveToken data
  let (w, protocolFee) ← accrueProtocolFee w env module receiveToken postTradeReceiveQuantity
  let quantity ← SafeMath.sub postTradeReceiveQuantity protocolFee
  pure (w, quantity)

/-! ## Units -/

def updateCollateralPosition (w : World) (module token : Address) (newPositionUnit : ℕ) :
    Outcome World :=
  w.onSetToken fun s ↦ Position.editDefaultPosition s w.controller module token newPositionUnit

def updateBorrowPosition (w : World) (module underlyingAsset : Address) (newPositionUnit : ℤ) :
    Outcome World :=
  w.onSetToken fun s ↦
    Position.editExternalPosition s w.controller module underlyingAsset module newPositionUnit []

def getCollateralPosition (w : World) (token : Address) (setTotalSupply : ℕ) : Outcome ℕ :=
  preciseDiv (w.balance token) setTotalSupply

/-- The unit of a debt is negative and rounded away from zero. -/
def borrowPosition (borrowNotionalBalance setTotalSupply : ℕ) : Outcome ℤ := do
  let unit ← preciseDivCeil borrowNotionalBalance setTotalSupply
  let unit ← SafeCast.toInt256 unit
  SignedSafeMath.mul unit (-1)

/-- One pass of the loop of `sync` over the collateral. -/
def syncCollateral (w : World) (module token : Address) (setTotalSupply : ℕ) : Outcome World := do
  let previousPositionUnit ← w.setToken.getDefaultPositionRealUnit token
  let previousPositionUnit ← SafeCast.toUint256 previousPositionUnit
  let newPositionUnit ← getCollateralPosition w token setTotalSupply
  if previousPositionUnit ≠ newPositionUnit then
    updateCollateralPosition w module token newPositionUnit
  else
    pure w

/-- One pass of the loop of `sync` over the debts. -/
def syncBorrow (w : World) (module borrowAsset : Address)
    (borrowNotionalBalance setTotalSupply : ℕ) : Outcome World := do
  let previousPositionUnit ← w.setToken.getExternalPositionRealUnit borrowAsset module
  let newPositionUnit ← borrowPosition borrowNotionalBalance setTotalSupply
  if newPositionUnit ≠ previousPositionUnit then
    updateBorrowPosition w module borrowAsset newPositionUnit
  else
    pure w

/-- The debt that a component hook takes on or pays back for a quantity of Sets: rounded down on
issue and up on redeem. -/
def notionalDebt (w : World) (module component : Address) (setTokenQuantity : ℕ)
    (isIssue : Bool) : Outcome ℕ := do
  let componentDebt ← w.setToken.getExternalPositionRealUnit component module
  require (componentDebt < 0) "Component must be negative"
  let negated ← SignedSafeMath.mul componentDebt (-1)
  let unit ← SafeCast.toUint256 negated
  DebtIssuanceModule.debtQuantity unit setTokenQuantity isIssue

/-- `initialize` up to the assets: the module is initialized on the Set and registers its hook with
every issuance module that accepts it. -/
def initializeAndRegister (issuance : IssuanceTable) (w : World) (env : Env) (module : Address) :
    Outcome (IssuanceTable × World) := do
  let w ← w.onSetToken fun s ↦ s.initializeModule module
  let issuanceModule ← getAndValidateAdapter env module defaultIssuanceModuleName
  require (w.setToken.isInitializedModule issuanceModule = true) "Issuance not initialized"
  pure (DebtIssuanceModule.registerToAll issuance w module, w)

/-! ## Edits -/

variable {F : Footprint} {w w' : World} {env : Env}
  {module token sendToken receiveToken : Address} {info : ActionInfo} {data : List UInt8}

theorem executeTrade_calls {calls : Invocation → Prop} {quantity : ℕ}
    (happrovals : ∀ token spender amount, calls ⟨token, 0, .approve spender amount⟩)
    (hraw : ∀ target value data, calls ⟨target, value, .raw data⟩)
    (h : executeTrade w env module info sendToken receiveToken data = .ok (w', quantity)) :
    World.Calls env calls w w' := by
  simp only [executeTrade, Outcome.bind_eq_ok, Outcome.pure_eq_ok, Prod.exists,
    Prod.mk.injEq] at h
  obtain ⟨v, happrove, _, _, _, -, _, hcall, _, -, _, -, rfl, -⟩ := h
  exact (World.invoke_calls (happrovals _ _ _) happrove).trans
    (World.invoke_calls (hraw _ _ _) hcall)

theorem tradeLessFee_calls {calls : Invocation → Prop} {quantity : ℕ}
    (happrovals : ∀ token spender amount, calls ⟨token, 0, .approve spender amount⟩)
    (hraw : ∀ target value data, calls ⟨target, value, .raw data⟩)
    (hfees : ∀ recipient amount, calls ⟨receiveToken, 0, .transfer recipient amount⟩)
    (h : tradeLessFee w env module info sendToken receiveToken data = .ok (w', quantity)) :
    World.Calls env calls w w' := by
  simp only [tradeLessFee, accrueProtocolFee, Outcome.bind_eq_ok, Outcome.pure_eq_ok, Prod.exists,
    Prod.mk.injEq] at h
  obtain ⟨v, _, htrade, _, _, ⟨_, -, _, hpay, rfl, -⟩, _, -, rfl, -⟩ := h
  exact (executeTrade_calls happrovals hraw htrade).trans
    (World.payProtocolFeeFromSetToken_calls (hfees _ _) hpay)

theorem updateCollateralPosition_edits {unit : ℕ}
    (h : updateCollateralPosition w module token unit = .ok w') : World.Edits env F w w' :=
  World.editDefaultPosition_edits h

theorem updateBorrowPosition_edits {unit : ℤ} (howns : F.owns module token)
    (h : updateBorrowPosition w module token unit = .ok w') : World.Edits env F w w' :=
  World.editExternalPosition_edits howns h

theorem syncCollateral_edits {supply : ℕ} (h : syncCollateral w module token supply = .ok w') :
    World.Edits env F w w' := by
  simp only [syncCollateral, Outcome.bind_eq_ok] at h
  obtain ⟨_, -, _, -, _, -, h⟩ := h
  split_ifs at h
  · exact updateCollateralPosition_edits h
  · obtain rfl := Outcome.pure_eq_ok.mp h
    exact .refl w

theorem syncBorrow_edits {balance supply : ℕ} (howns : F.owns module token)
    (h : syncBorrow w module token balance supply = .ok w') : World.Edits env F w w' := by
  simp only [syncBorrow, Outcome.bind_eq_ok] at h
  obtain ⟨_, -, _, -, h⟩ := h
  split_ifs at h
  · exact updateBorrowPosition_edits howns h
  · obtain rfl := Outcome.pure_eq_ok.mp h
    exact .refl w

end SetProtocol.LeverageModule
