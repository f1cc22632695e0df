import SetProtocol.Foundation.Abi
import SetProtocol.Modules.LeverageModule

/-!
# Positions in wrapped fCash

`NotionalTradeModule` mints and redeems wrapped fCash, a token that can be redeemed for more of its
underlying from its maturity on.  Anybody may redeem everything that has matured, and the hooks of issuance
do so before Sets are issued or redeemed.  The positions are listed once; every position that was listed is
redeemed with the whole balance of its component.
-/

namespace SetProtocol

open PreciseUnitMath ModuleBase

/-- What a wrapped fCash token says about itself. -/
structure WrappedfCash where
  /-- The currency and the maturity. -/
  getDecodedID : Outcome (ℕ × ℕ)
  hasMatured : Outcome Bool
  /-- The zero address stands for ether. -/
  getUnderlyingToken : Outcome Address
  getAssetToken : Outcome Address
  getToken : (useUnderlying : Bool) → Outcome Address

structure NotionalTradeModule where
  address : Address
  owner : Address
  weth : Address
  redeemToUnderlying : Bool
  allowedSetToken : Bool
  anySetAllowed : Bool
  /-- Whether there is code at an address. -/
  isContract : Address → Bool
  wrappedfCash : Address → WrappedfCash
  /-- The functions of the factory of wrapped fCash, by currency and maturity. -/
  computeAddress : (currencyId maturity : ℕ) → Outcome Address
  deployWrapper : (currencyId maturity : ℕ) → Outcome Address

namespace NotionalTradeModule

/-- Stands for ether among the tokens of wrapped fCash. -/
def ethAddress : Address := 0

/-- Ether is held as WETH. -/
def heldToken (m : NotionalTradeModule) (token : Address) : Address :=
  if token = ethAddress then m.weth else token

/-- Any failure of the token or of the factory means no. -/
def isWrappedFCash (m : NotionalTradeModule) (fCashPosition : Address) : Bool :=
  m.isContract fCashPosition &&
    match (m.wrappedfCash fCashPosition).getDecodedID with
    | .error _ => false
    | .ok (currencyId, maturity) =>
      match m.computeAddress currencyId maturity with
      | .error _ => false
      | .ok computedAddress => fCashPosition == computedAddress

def getUnderlyingAndAssetTokens (m : NotionalTradeModule) (fCashPosition : Address) :
    Outcome (Address × Address) := do
  let underlyingToken ← (m.wrappedfCash fCashPosition).getUnderlyingToken
  let assetToken ← (m.wrappedfCash fCashPosition).getAssetToken
  pure (m.heldToken underlyingToken, assetToken)

/-- A token that is neither the underlying nor the asset token reverts. -/
def isUnderlying (m : NotionalTradeModule) (fCashPosition paymentToken : Address) :
    Outcome Bool := do
  let (underlyingToken, assetToken) ← m.getUnderlyingAndAssetTokens fCashPosition
  if paymentToken = underlyingToken then
    pure true
  else do
    require (paymentToken = assetToken) "Token is neither asset nor underlying token"
    pure false

def getWrappedfCash (m : NotionalTradeModule) (currencyId maturity : ℕ) : Outcome Address := do
  let wrappedfCashAddress ← m.computeAddress currencyId maturity
  require (m.isContract wrappedfCashAddress = true) "WrappedfCash not deployed for given parameters"
  pure wrappedfCashAddress

/-! ## Calls -/

/-- An allowance that is large enough is left as it is. -/
def approve (m : NotionalTradeModule) (w : World) (env : Env) (fCashPosition sendToken : Address)
    (maxAssetAmount : ℕ) : Outcome World :=
  if (w.erc20 sendToken).allowances w.setToken.address fCashPosition < maxAssetAmount then
    w.invoke env m.address ⟨sendToken, 0, .approve fCashPosition maxAssetAmount⟩
  else
    pure w

/-- The amount of fCash is cut to 88 bits.  The last word is one more than the function takes. -/
def mintCallData (w : World) (maxAssetAmount fCashAmount : ℕ) (fromUnderlying : Bool) :
    List UInt8 :=
  Abi.encodeWithSelector (if fromUnderlying then [0x29, 0xcf, 0x14, 0x05] else [0x0d, 0xb8, 0x48, 0x1c])
    [maxAssetAmount, fCashAmount % 2 ^ 88, w.setToken.address.toNat, 0, fromUnderlying.toNat]

def mint (m : NotionalTradeModule) (w : World) (env : Env) (fCashPosition : Address)
    (maxAssetAmount fCashAmount : ℕ) (fromUnderlying : Bool) : Outcome World :=
  w.invoke env m.address
    ⟨fCashPosition, 0, .raw (mintCallData w maxAssetAmount fCashAmount fromUnderlying)⟩

/-- The greatest implied rate means that any amount may come back. -/
def redeemCallData (setToken : Address) (fCashAmount : ℕ) (toUnderlying : Bool) : List UInt8 :=
  Abi.encodeWithSelector (if toUnderlying then [0x74, 0x5d, 0x08, 0xd9] else [0x3d, 0x31, 0x92, 0xcb])
    [fCashAmount, setToken.toNat, 2 ^ 32 - 1]

def redeem (m : NotionalTradeModule) (w : World) (env : Env) (fCashPosition : Address)
    (fCashAmount : ℕ) (toUnderlying : Bool) : Outcome World :=
  w.invoke env m.address
    ⟨fCashPosition, 0, .raw (redeemCallData w.setToken.address fCashAmount toUnderlying)⟩

/-- Returns what was sent and what was received. -/
def updateSetTokenPositions (m : NotionalTradeModule) (w : World) (sendToken : Address)
    (preTradeSendTokenBalance : ℕ) (receiveToken : Address) (preTradeReceiveTokenBalance : ℕ) :
    Outcome (World × ℕ × ℕ) := do
  let setTotalSupply := w.setToken.totalSupply
  let (w, currentSendTokenBalance, _) ← calculateAndEditDefaultPosition w m.address sendToken
    setTotalSupply preTradeSendTokenBalance
  let (w, currentReceiveTokenBalance, _) ← calculateAndEditDefaultPosition w m.address receiveToken
    setTotalSupply preTradeReceiveTokenBalance
  let sent ← SafeMath.sub preTradeSendTokenBalance currentSendTokenBalance
  let received ← SafeMath.sub currentReceiveTokenBalance preTradeReceiveTokenBalance
  pure (w, sent, received)

/-! ## Minting and redeeming -/

/-- The source calls this function `_mintFCashPosition`.  Returns the amount that was sent. -/
def internalMintFCashPosition (m : NotionalTradeModule) (w : World) (env : Env)
    (fCashPosition sendToken : Address) (fCashAmount maxSendAmount : ℕ) : Outcome (World × ℕ) :=
  if fCashAmount = 0 then
    pure (w, 0)
  else do
    let fromUnderlying ← m.isUnderlying fCashPosition sendToken
    let w ← m.approve w env fCashPosition sendToken maxSendAmount
    let preTradeSendTokenBalance := w.balance sendToken
    let preTradeReceiveTokenBalance := w.balance fCashPosition
    let w ← m.mint w env fCashPosition maxSendAmount fCashAmount fromUnderlying
    let (w, sentAmount, _) ← m.updateSetTokenPositions w sendToken preTradeSendTokenBalance
      fCashPosition preTradeReceiveTokenBalance
    require (sentAmount ≤ maxSendAmount) "Overspent"
    pure (w, sentAmount)

/-- The source calls this function `_redeemFCashPosition`.  Returns the amount that was received. -/
def internalRedeemFCashPosition (m : NotionalTradeModule) (w : World) (env : Env)
    (fCashPosition receiveToken : Address) (fCashAmount minReceiveAmount : ℕ) :
    Outcome (World × ℕ) :=
  if fCashAmount = 0 then
    pure (w, 0)
  else do
    let toUnderlying ← m.isUnderlying fCashPosition receiveToken
    let preTradeReceiveTokenBalance := w.balance receiveToken
    let preTradeSendTokenBalance := w.balance fCashPosition
    let w ← m.redeem w env fCashPosition fCashAmount toUnderlying
    let (w, _, receivedAmount) ← m.updateSetTokenPositions w fCashPosition preTradeSendTokenBalance
      receiveToken preTradeReceiveTokenBalance
    require (minReceiveAmount ≤ receivedAmount) "Not enough received amount"
    pure (w, receivedAmount)

/-- The redemption of a position that has matured, for all that the SetToken holds of it. -/
def redeemWholeBalance (m : NotionalTradeModule) (env : Env) (w : World) (component : Address) :
    Outcome World := do
  let receiveToken ← (m.wrappedfCash component).getToken m.redeemToUnderlying
  let (w, _) ← m.internalRedeemFCashPosition w env component (m.heldToken receiveToken)
    (w.balance component) 0
  pure w

/-- One pass of the loop of `_redeemMaturedPositions`. -/
def redeemMaturedPosition (m : NotionalTradeModule) (env : Env) (w : World)
    (position : PositionEntry) : Outcome World :=
  if 0 < position.unit ∧ m.isWrappedFCash position.component = true then do
    let matured ← (m.wrappedfCash position.component).hasMatured
    if matured then
      m.redeemWholeBalance env w position.component
    else
      pure w
  else
    pure w

/-- The source calls this function `_redeemMaturedPositions`. -/
def internalRedeemMaturedPositions (m : NotionalTradeModule) (w : World) (env : Env) :
    Outcome World := do
  let positions ← w.setToken.getPositions
  positions.foldlM (m.redeemMaturedPosition env) w

def getFCashPositions (m : NotionalTradeModule) (w : World) : Outcome (List Address) := do
  let positions ← w.setToken.getPositions
  pure ((positions.filter fun position ↦
    decide (0 < position.unit) && m.isWrappedFCash position.component).map PositionEntry.component)

/-! ## External functions -/

def mintFCashPosition (m : NotionalTradeModule) (w : World) (env : Env) (currencyId maturity : ℕ)
    (mintAmount : ℕ) (sendToken : Address) (maxSendAmount : ℕ) : Outcome (World × ℕ) := do
  validateOnlyManagerAndValidSet w m.address env.sender
  require (w.setToken.isComponent sendToken = true) "Send token must be an index component"
  let wrappedfCash ← m.deployWrapper currencyId maturity
  m.internalMintFCashPosition w env wrappedfCash sendToken mintAmount maxSendAmount

def redeemFCashPosition (m : NotionalTradeModule) (w : World) (env : Env) (currencyId maturity : ℕ)
    (redeemAmount : ℕ) (receiveToken : Address) (minReceiveAmount : ℕ) : Outcome (World × ℕ) := do
  validateOnlyManagerAndValidSet w m.address env.sender
  let wrappedfCash ← m.getWrappedfCash currencyId maturity
  require (w.setToken.isComponent wrappedfCash = true) "FCash to redeem must be an index component"
  m.internalRedeemFCashPosition w env wrappedfCash receiveToken redeemAmount minReceiveAmount

def redeemMaturedPositions (m : NotionalTradeModule) (w : World) (env : Env) : Outcome World := do
  validateOnlyValidAndInitializedSet w m.address
  m.internalRedeemMaturedPositions w env

/-- Both `moduleIssueHook` and `moduleRedeemHook`, called by `caller`. -/
def moduleHook (m : NotionalTradeModule) (w : World) (env : Env) (caller : Address) :
    Outcome World := do
  validateOnlyModule w caller
  m.internalRedeemMaturedPositions w env

def moduleIssueHook (m : NotionalTradeModule) (w : World) (env : Env) (caller : Address)
    (_setTokenAmount : ℕ) : Outcome World :=
  m.moduleHook w env caller

def moduleRedeemHook (m : NotionalTradeModule) (w : World) (env : Env) (caller : Address)
    (_setTokenAmount : ℕ) : Outcome World :=
  m.moduleHook w env caller

/-- The source calls this function `initialize`. -/
def initializeSetToken (m : NotionalTradeModule) (issuance : IssuanceTable) (w : World) (env : Env) :
    Outcome (IssuanceTable × World) := do
  validateOnlySetManager w env.sender
  validateOnlyValidAndPendingSet w m.address
  if m.anySetAllowed then
    pure ()
  else
    require (m.allowedSetToken = true) "Not allowed SetToken"
  LeverageModule.initializeAndRegister issuance w env m.address

/-- The callback of `SetToken.removeModule`. -/
def removeModule (m : NotionalTradeModule) (issuance : IssuanceTable) (w : World) (env : Env) :
    Outcome (IssuanceTable × World) := do
  validateOnlyValidAndInitializedSet w m.address
  let w ← m.internalRedeemMaturedPositions w env
  pure (DebtIssuanceModule.unregisterFromAll issuance w m.address, w)

def updateAllowedSetToken (m : NotionalTradeModule) (w : World) (env : Env) (status : Bool) :
    Outcome NotionalTradeModule := do
  require (env.sender = m.owner) "Ownable: caller is not the owner"
  require (w.controller.isSet w.setToken.address = true ∨ m.allowedSetToken = true)
    "Invalid SetToken"
  pure { m with allowedSetToken := status }

def updateAnySetAllowed (m : NotionalTradeModule) (env : Env) (anySetAllowed : Bool) :
    Outcome NotionalTradeModule := do
  require (env.sender = m.owner) "Ownable: caller is not the owner"
  pure { m with anySetAllowed := anySetAllowed }

def setRedeemToUnderlying (m : NotionalTradeModule) (w : World) (env : Env) (toUnderlying : Bool) :
    Outcome NotionalTradeModule := do
  validateOnlyManagerAndValidSet w m.address env.sender
  pure { m with redeemToUnderlying := toUnderlying }

end NotionalTradeModule

end SetProtocol
