import SetProtocol.Core.ModuleBase

/-!
# Wrapping components

`WrapModule` and `WrapModuleV2` turn a component into another one at a contract outside the protocol, for
instance a token into its interest-bearing form, and back.  The manager states an amount in units for one
Set, which must be tracked.  The balances of both tokens are read before and after the call and both units
are computed again from them, also when the balance after the call is zero.

The two modules differ in what adapters are told and in that the second one approves the wrapped tokens
before it unwraps them.
-/

namespace SetProtocol

open PreciseUnitMath ModuleBase

/-- An adapter of `WrapModule`. -/
structure WrapAdapter where
  /-- How the external protocol names ether. -/
  ethTokenAddress : Address
  getSpenderAddress : (underlyingToken wrappedToken : Address) → Outcome Address
  getWrapCallData : (underlyingToken wrappedToken : Address) → (underlyingUnits : ℕ) →
    Outcome (Address × ℕ × List UInt8)
  getUnwrapCallData : (underlyingToken wrappedToken : Address) → (wrappedTokenUnits : ℕ) →
    Outcome (Address × ℕ × List UInt8)

/-- An adapter of `WrapModuleV2`, which is also told the SetToken and data of the manager. -/
structure WrapV2Adapter where
  ethTokenAddress : Address
  getSpenderAddress : (underlyingToken wrappedToken : Address) → Outcome Address
  getWrapCallData : (underlyingToken wrappedToken : Address) → (underlyingUnits : ℕ) →
    (receiver : Address) → (wrapData : List UInt8) → Outcome (Address × ℕ × List UInt8)
  getUnwrapCallData : (underlyingToken wrappedToken : Address) → (wrappedTokenUnits : ℕ) →
    (receiver : Address) → (unwrapData : List UInt8) → Outcome (Address × ℕ × List UInt8)

/-- What the adapter encodes in one call of the module. -/
def WrapV2Adapter.bind (adapter : WrapV2Adapter) (receiver : Address) (data : List UInt8) :
    WrapAdapter where
  ethTokenAddress := adapter.ethTokenAddress
  getSpenderAddress := adapter.getSpenderAddress
  getWrapCallData underlying wrapped units := adapter.getWrapCallData underlying wrapped units receiver data
  getUnwrapCallData underlying wrapped units :=
    adapter.getUnwrapCallData underlying wrapped units receiver data

/-! ## The steps that both modules share -/

/-- The storage of either module. -/
structure WrapBase where
  address : Address
  weth : Address
  /-- The ether of the SetToken. -/
  etherBalance : Chain → ℕ

namespace WrapBase

def validateInputs (w : World) (transactPosition : Address) (transactPositionUnits : ℕ) :
    Outcome Unit := do
  require (0 < transactPositionUnits) "Target position units must be > 0"
  let hasPosition ← Position.hasDefaultPosition w.setToken transactPosition
  require (hasPosition = true) "Target default position must be component"
  let sufficient ←
    Position.hasSufficientDefaultUnits w.setToken transactPosition transactPositionUnits
  require (sufficient = true) "Unit cant be greater than existing"

def snapshotTargetAssetsBalance (w : World) (underlyingToken wrappedToken : Address) : ℕ × ℕ :=
  (w.balance underlyingToken, w.balance wrappedToken)

/-- Unlike `calculateAndEditDefaultPosition` this computes the unit in every case. -/
def updatePosition (m : WrapBase) (w : World) (token : Address)
    (preActionTokenBalance postActionTokenBalance : ℕ) : Outcome World := do
  let positionUnit ← w.setToken.getDefaultPositionRealUnit token
  let positionUnit ← SafeCast.toUint256 positionUnit
  let newUnit ← Position.calculateDefaultEditPositionUnit w.setToken.totalSupply
    preActionTokenBalance postActionTokenBalance positionUnit
  w.onSetToken fun s ↦ Position.editDefaultPosition s w.controller m.address token newUnit

/-- The call that an adapter encoded. -/
def invokeCallData (m : WrapBase) (w : World) (env : Env)
    (callData : Outcome (Address × ℕ × List UInt8)) : Outcome World := do
  let (callTarget, callValue, callByteData) ← callData
  w.invoke env m.address ⟨callTarget, callValue, .raw callByteData⟩

def createWrapDataAndInvoke (m : WrapBase) (w : World) (env : Env) (wrapAdapter : WrapAdapter)
    (underlyingToken wrappedToken : Address) (notionalUnderlying : ℕ) : Outcome World :=
  m.invokeCallData w env
    (wrapAdapter.getWrapCallData underlyingToken wrappedToken notionalUnderlying)

def createUnwrapDataAndInvoke (m : WrapBase) (w : World) (env : Env) (wrapAdapter : WrapAdapter)
    (underlyingToken wrappedToken : Address) (notionalWrapped : ℕ) : Outcome World :=
  m.invokeCallData w env
    (wrapAdapter.getUnwrapCallData underlyingToken wrappedToken notionalWrapped)

/-- The name by which the adapter knows the underlying token. -/
def underlyingName (wrapAdapter : WrapAdapter) (underlyingToken : Address) (usesEther : Bool) :
    Address :=
  if usesEther then wrapAdapter.ethTokenAddress else underlyingToken

/-- Before ether is wrapped it is taken out of WETH; tokens are approved. -/
def prepareWrap (m : WrapBase) (w : World) (env : Env) (wrapAdapter : WrapAdapter)
    (underlyingToken wrappedToken : Address) (notionalUnderlying : ℕ) (usesEther : Bool) :
    Outcome World :=
  if usesEther then
    w.invokeUnwrapWETH env m.address m.weth notionalUnderlying
  else do
    let spender ← wrapAdapter.getSpenderAddress underlyingToken wrappedToken
    w.invokeApprove env m.address underlyingToken spender notionalUnderlying

/-- All ether of the SetToken becomes WETH after ether was unwrapped. -/
def finishUnwrap (m : WrapBase) (w : World) (env : Env) (usesEther : Bool) : Outcome World :=
  if usesEther then
    w.invokeWrapWETH env m.address m.weth (m.etherBalance w.chain)
  else
    pure w

/-- The balances after the action are read once, before the two edits. -/
def updatePositions (m : WrapBase) (w : World) (underlyingToken wrappedToken : Address)
    (pre : ℕ × ℕ) : Outcome (World × ℕ × ℕ) := do
  let post := snapshotTargetAssetsBalance w underlyingToken wrappedToken
  let w ← m.updatePosition w underlyingToken pre.1 post.1
  let w ← m.updatePosition w wrappedToken pre.2 post.2
  pure (w, post)

/-- Returns the amounts of both tokens that were wrapped.  The adapter is fetched after the balances. -/
def validateWrapAndUpdate (m : WrapBase) (w : World) (env : Env)
    (getAdapter : Outcome WrapAdapter) (underlyingToken wrappedToken : Address)
    (underlyingUnits : ℕ) (usesEther : Bool) : Outcome (World × ℕ × ℕ) := do
  validateInputs w underlyingToken underlyingUnits
  let pre := snapshotTargetAssetsBalance w underlyingToken wrappedToken
  let notionalUnderlying ←
    Position.getDefaultTotalNotional w.setToken.totalSupply underlyingUnits
  let wrapAdapter ← getAdapter
  let w ← m.prepareWrap w env wrapAdapter underlyingToken wrappedToken notionalUnderlying usesEther
  let w ← m.createWrapDataAndInvoke w env wrapAdapter
    (underlyingName wrapAdapter underlyingToken usesEther) wrappedToken notionalUnderlying
  let (w, post) ← m.updatePositions w underlyingToken wrappedToken pre
  let underlyingSpent ← SafeMath.sub pre.1 post.1
  let wrappedReceived ← SafeMath.sub post.2 pre.2
  pure (w, underlyingSpent, wrappedReceived)

/-- Returns the amounts of both tokens that were unwrapped.  `approve` is what precedes the call. -/
def validateUnwrapAndUpdate (m : WrapBase) (w : World) (env : Env)
    (getAdapter : Outcome WrapAdapter)
    (approve : World → WrapAdapter → ℕ → Outcome World) (underlyingToken wrappedToken : Address)
    (wrappedTokenUnits : ℕ) (usesEther : Bool) : Outcome (World × ℕ × ℕ) := do
  validateInputs w wrappedToken wrappedTokenUnits
  let pre := snapshotTargetAssetsBalance w underlyingToken wrappedToken
  let notionalWrappedToken ←
    Position.getDefaultTotalNotional w.setToken.totalSupply wrappedTokenUnits
  let wrapAdapter ← getAdapter
  let w ← approve w wrapAdapter notionalWrappedToken
  let w ← m.createUnwrapDataAndInvoke w env wrapAdapter
    (underlyingName wrapAdapter underlyingToken usesEther) wrappedToken notionalWrappedToken
  let w ← m.finishUnwrap w env usesEther
  let (w, post) ← m.updatePositions w underlyingToken wrappedToken pre
  let underlyingReceived ← SafeMath.sub post.1 pre.1
  let wrappedSpent ← SafeMath.sub pre.2 post.2
  pure (w, underlyingReceived, wrappedSpent)

end WrapBase

/-! ## The external functions

Each returns the amounts that it emits. -/

structure WrapModule extends WrapBase where
  adapters : Address → WrapAdapter

namespace WrapModule

def getAdapter (m : WrapModule) (env : Env) (integrationName : String) : Outcome WrapAdapter := do
  let adapter ← getAndValidateAdapter env m.address integrationName
  pure (m.adapters adapter)

/-- Both `wrap` and `wrapWithEther`. -/
def wrapToken (m : WrapModule) (w : World) (env : Env) (underlyingToken wrappedToken : Address)
    (underlyingUnits : ℕ) (integrationName : String) (usesEther : Bool) :
    Outcome (World × ℕ × ℕ) := do
  validateOnlyManagerAndValidSet w m.address env.sender
  m.validateWrapAndUpdate w env (m.getAdapter env integrationName) underlyingToken wrappedToken
    underlyingUnits usesEther

def wrap (m : WrapModule) (w : World) (env : Env) (underlyingToken wrappedToken : Address)
    (underlyingUnits : ℕ) (integrationName : String) : Outcome (World × ℕ × ℕ) :=
  m.wrapToken w env underlyingToken wrappedToken underlyingUnits integrationName false

def wrapWithEther (m : WrapModule) (w : World) (env : Env) (wrappedToken : Address)
    (underlyingUnits : ℕ) (integrationName : String) : Outcome (World × ℕ × ℕ) :=
  m.wrapToken w env m.weth wrappedToken underlyingUnits integrationName true

/-- Both `unwrap` and `unwrapWithEther`; nothing is approved. -/
def unwrapToken (m : WrapModule) (w : World) (env : Env) (underlyingToken wrappedToken : Address)
    (wrappedUnits : ℕ) (integrationName : String) (usesEther : Bool) :
    Outcome (World × ℕ × ℕ) := do
  validateOnlyManagerAndValidSet w m.address env.sender
  m.validateUnwrapAndUpdate w env (m.getAdapter env integrationName) (fun w _ _ ↦ pure w)
    underlyingToken wrappedToken wrappedUnits usesEther

def unwrap (m : WrapModule) (w : World) (env : Env) (underlyingToken wrappedToken : Address)
    (wrappedUnits : ℕ) (integrationName : String) : Outcome (World × ℕ × ℕ) :=
  m.unwrapToken w env underlyingToken wrappedToken wrappedUnits integrationName false

def unwrapWithEther (m : WrapModule) (w : World) (env : Env) (wrappedToken : Address)
    (wrappedUnits : ℕ) (integrationName : String) : Outcome (World × ℕ × ℕ) :=
  m.unwrapToken w env m.weth wrappedToken wrappedUnits integrationName true

/-- The source calls this function `initialize`. -/
def initializeSetToken (m : WrapModule) (w : World) (env : Env) : Outcome World := do
  validateOnlySetManager w env.sender
  validateOnlyValidAndPendingSet w m.address
  w.onSetToken fun s ↦ s.initializeModule m.address

end WrapModule

structure WrapModuleV2 extends WrapBase where
  adapters : Address → WrapV2Adapter

namespace WrapModuleV2

def getAdapter (m : WrapModuleV2) (w : World) (env : Env) (integrationName : String)
    (data : List UInt8) : Outcome WrapAdapter := do
  let adapter ← getAndValidateAdapter env m.address integrationName
  pure ((m.adapters adapter).bind w.setToken.address data)

/-- The wrapped tokens are approved before they are unwrapped. -/
def approveWrapped (m : WrapModuleV2) (env : Env) (underlyingToken wrappedToken : Address)
    (w : World) (wrapAdapter : WrapAdapter) (notionalWrappedToken : ℕ) : Outcome World := do
  let spender ← wrapAdapter.getSpenderAddress underlyingToken wrappedToken
  w.invokeApprove env m.address wrappedToken spender notionalWrappedToken

/-- Both `wrap` and `wrapWithEther`. -/
def wrapToken (m : WrapModuleV2) (w : World) (env : Env) (underlyingToken wrappedToken : Address)
    (underlyingUnits : ℕ) (integrationName : String) (wrapData : List UInt8) (usesEther : Bool) :
    Outcome (World × ℕ × ℕ) := do
  validateOnlyManagerAndValidSet w m.address env.sender
  m.validateWrapAndUpdate w env (m.getAdapter w env integrationName wrapData) underlyingToken
    wrappedToken underlyingUnits usesEther

def wrap (m : WrapModuleV2) (w : World) (env : Env) (underlyingToken wrappedToken : Address)
    (underlyingUnits : ℕ) (integrationName : String) (wrapData : List UInt8) :
    Outcome (World × ℕ × ℕ) :=
  m.wrapToken w env underlyingToken wrappedToken underlyingUnits integrationName wrapData false

def wrapWithEther (m : WrapModuleV2) (w : World) (env : Env) (wrappedToken : Address)
    (underlyingUnits : ℕ) (integrationName : String) (wrapData : List UInt8) :
    Outcome (World × ℕ × ℕ) :=
  m.wrapToken w env m.weth wrappedToken underlyingUnits integrationName wrapData true

/-- Both `unwrap` and `unwrapWithEther`. -/
def unwrapToken (m : WrapModuleV2) (w : World) (env : Env) (underlyingToken wrappedToken : Address)
    (wrappedUnits : ℕ) (integrationName : String) (unwrapData : List UInt8) (usesEther : Bool) :
    Outcome (World × ℕ × ℕ) := do
  validateOnlyManagerAndValidSet w m.address env.sender
  m.validateUnwrapAndUpdate w env (m.getAdapter w env integrationName unwrapData)
    (m.approveWrapped env underlyingToken wrappedToken) underlyingToken wrappedToken wrappedUnits
    usesEther

def unwrap (m : WrapModuleV2) (w : World) (env : Env) (underlyingToken wrappedToken : Address)
    (wrappedUnits : ℕ) (integrationName : String) (unwrapData : List UInt8) :
    Outcome (World × ℕ × ℕ) :=
  m.unwrapToken w env underlyingToken wrappedToken wrappedUnits integrationName unwrapData false

def unwrapWithEther (m : WrapModuleV2) (w : World) (env : Env) (wrappedToken : Address)
    (wrappedUnits : ℕ) (integrationName : String) (unwrapData : List UInt8) :
    Outcome (World × ℕ × ℕ) :=
  m.unwrapToken w env m.weth wrappedToken wrappedUnits integrationName unwrapData true

/-- The source calls this function `initialize`. -/
def initializeSetToken (m : WrapModuleV2) (w : World) (env : Env) : Outcome World := do
  validateOnlySetManager w env.sender
  validateOnlyValidAndPendingSet w m.address
  w.onSetToken fun s ↦ s.initializeModule m.address

end WrapModuleV2

end SetProtocol
