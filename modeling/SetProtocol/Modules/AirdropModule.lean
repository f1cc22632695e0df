import SetProtocol.Core.ModuleBase

/-!
# Absorbing airdrops

`AirdropModule` adds tokens that were sent to the SetToken to its default positions.  The airdropped
amount is what the balance exceeds the tracked amount by; a share of it is paid as a fee, from which the
protocol takes its own, and the unit is computed again from what is left of the balance.
-/

namespace SetProtocol

open PreciseUnitMath ModuleBase

structure AirdropSettings where
  airdrops : List Address
  feeRecipient : Address
  airdropFee : ℕ
  anyoneAbsorb : Bool

/-- The zero value of a storage slot. -/
def AirdropSettings.empty : AirdropSettings := ⟨[], 0, 0, false⟩

structure AirdropModule where
  address : Address
  airdropSettings : AirdropSettings
  isAirdrop : Address → Bool

namespace AirdropModule

/-- Index of the protocol's share of the fees. -/
def protocolFeeIndex : ℕ := 0

def isValidCaller (m : AirdropModule) (w : World) (env : Env) : Bool :=
  m.airdropSettings.anyoneAbsorb || isSetManager w env.sender

def getAirdrops (m : AirdropModule) : List Address :=
  m.airdropSettings.airdrops

def isAirdropToken (m : AirdropModule) (token : Address) : Bool :=
  m.isAirdrop token

/-! ## Absorbing -/

/-- The protocol's share is taken from the fee.  Returns what the manager and the protocol get, and both
together. -/
def handleFees (m : AirdropModule) (w : World) (env : Env) (component : Address)
    (amountAirdropped : ℕ) : Outcome (World × ℕ × ℕ × ℕ) :=
  let airdropFee := m.airdropSettings.airdropFee
  if 0 < airdropFee then do
    let totalFees ← preciseMul amountAirdropped airdropFee
    let protocolTake ← getModuleFee w m.address protocolFeeIndex totalFees
    let netManagerTake ← SafeMath.sub totalFees protocolTake
    let w ← w.strictInvokeTransfer env m.address component m.airdropSettings.feeRecipient
      netManagerTake
    let w ← payProtocolFeeFromSetToken w env m.address component protocolTake
    pure (w, netManagerTake, protocolTake, totalFees)
  else
    pure (w, 0, 0, 0)

def getPostAirdropUnit (w : World) (totalComponentBalance totalFeesPaid : ℕ) : Outcome ℕ := do
  let remaining ← SafeMath.sub totalComponentBalance totalFeesPaid
  Position.getDefaultPositionUnit w.setToken.totalSupply remaining

/-- Returns the airdropped amount with what the manager and the protocol get of it. -/
def handleAirdropPosition (m : AirdropModule) (env : Env) (w : World) (token : Address) :
    Outcome (World × ℕ × ℕ × ℕ) := do
  let preFeeTokenBalance := w.balance token
  let tracked ← Position.getDefaultTrackedBalance w.setToken token
  let amountAirdropped ← SafeMath.sub preFeeTokenBalance tracked
  if 0 < amountAirdropped then do
    let (w, managerTake, protocolTake, totalFees) ←
      m.handleFees w env token amountAirdropped
    let newUnit ← getPostAirdropUnit w preFeeTokenBalance totalFees
    let w ← w.onSetToken fun s ↦
      Position.editDefaultPosition s w.controller m.address token newUnit
    pure (w, amountAirdropped, managerTake, protocolTake)
  else
    pure (w, 0, 0, 0)

/-- The source calls this function `_absorb`. -/
def internalAbsorb (m : AirdropModule) (env : Env) (w : World) (token : Address) :
    Outcome World := do
  require (m.isAirdropToken token = true) "Must be approved token."
  let (w, _) ← m.handleAirdropPosition env w token
  pure w

/-- The source calls this function `_batchAbsorb`. -/
def internalBatchAbsorb (m : AirdropModule) (env : Env) (w : World) (tokens : List Address) :
    Outcome World :=
  tokens.foldlM (m.internalAbsorb env) w

def absorb (m : AirdropModule) (w : World) (env : Env) (token : Address) : Outcome World := do
  require (m.isValidCaller w env = true) "Must be valid caller"
  validateOnlyValidAndInitializedSet w m.address
  m.internalAbsorb env w token

def batchAbsorb (m : AirdropModule) (w : World) (env : Env) (tokens : List Address) :
    Outcome World := do
  require (m.isValidCaller w env = true) "Must be valid caller"
  validateOnlyValidAndInitializedSet w m.address
  m.internalBatchAbsorb env w tokens

/-! ## Settings -/

def addAirdrop (m : AirdropModule) (w : World) (env : Env) (airdrop : Address) :
    Outcome AirdropModule := do
  validateOnlyManagerAndValidSet w m.address env.sender
  require (m.isAirdropToken airdrop = false) "Token already added."
  pure { m with
    airdropSettings :=
      { m.airdropSettings with airdrops := m.airdropSettings.airdrops ++ [airdrop] }
    isAirdrop := Function.update m.isAirdrop airdrop true }

def removeAirdrop (m : AirdropModule) (w : World) (env : Env) (airdrop : Address) :
    Outcome AirdropModule := do
  validateOnlyManagerAndValidSet w m.address env.sender
  require (m.isAirdropToken airdrop = true) "Token not added."
  let airdrops ← AddressArrayUtils.removeStorage m.airdropSettings.airdrops airdrop
  pure { m with
    airdropSettings := { m.airdropSettings with airdrops := airdrops }
    isAirdrop := Function.update m.isAirdrop airdrop false }

def updateAnyoneAbsorb (m : AirdropModule) (w : World) (env : Env) (anyoneAbsorb : Bool) :
    Outcome AirdropModule := do
  validateOnlyManagerAndValidSet w m.address env.sender
  pure { m with airdropSettings := { m.airdropSettings with anyoneAbsorb := anyoneAbsorb } }

def updateFeeRecipient (m : AirdropModule) (w : World) (env : Env) (newFeeRecipient : Address) :
    Outcome AirdropModule := do
  validateOnlyManagerAndValidSet w m.address env.sender
  require (newFeeRecipient ≠ 0) "Passed address must be non-zero"
  pure { m with airdropSettings := { m.airdropSettings with feeRecipient := newFeeRecipient } }

/-- Everything outstanding is absorbed at the old fee. -/
def updateAirdropFee (m : AirdropModule) (w : World) (env : Env) (newFee : ℕ) :
    Outcome (AirdropModule × World) := do
  validateOnlySetManager w env.sender
  validateOnlyValidAndInitializedSet w m.address
  require (newFee ≤ preciseUnit) "Airdrop fee can't exceed 100%"
  let w ← m.internalBatchAbsorb env w m.airdropSettings.airdrops
  pure ({ m with airdropSettings := { m.airdropSettings with airdropFee := newFee } }, w)

/-- The checks of the initial settings. -/
def validateSettings (settings : AirdropSettings) : Outcome Unit := do
  require (settings.airdropFee ≤ preciseUnit) "Fee must be <= 100%."
  require (settings.feeRecipient ≠ 0) "Zero fee address passed"
  if 0 < settings.airdrops.length then do
    let duplicate ← AddressArrayUtils.hasDuplicate settings.airdrops
    require (duplicate = false) "Duplicate airdrop token passed"
  else
    pure ()

/-- The source calls this function `initialize`. -/
def initializeSetToken (m : AirdropModule) (w : World) (env : Env) (settings : AirdropSettings) :
    Outcome (AirdropModule × World) := do
  validateOnlySetManager w env.sender
  validateOnlyValidAndPendingSet w m.address
  validateSettings settings
  let isAirdrop := settings.airdrops.foldl
    (fun isAirdrop airdrop ↦ Function.update isAirdrop airdrop true) m.isAirdrop
  let w ← w.onSetToken fun s ↦ s.initializeModule m.address
  pure ({ m with airdropSettings := settings, isAirdrop := isAirdrop }, w)

/-- The callback of `SetToken.removeModule`. -/
def removeModule (m : AirdropModule) : AirdropModule :=
  { m with
    airdropSettings := .empty
    isAirdrop := m.airdropSettings.airdrops.foldl
      (fun isAirdrop airdrop ↦ Function.update isAirdrop airdrop false) m.isAirdrop }

end AirdropModule

end SetProtocol
