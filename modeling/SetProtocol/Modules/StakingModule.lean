import SetProtocol.Core.PositionEdits

/-!
# Staking components

The module stakes a component in any number of staking contracts and keeps for each of them the
units that were staked.  On the SetToken they appear as one external position of the component.
-/

namespace SetProtocol

open PreciseUnitMath ModuleBase

/-- The adapter is known by its name, of which the source stores the hash. -/
structure StakingPosition where
  adapterName : String
  componentPositionUnits : ℕ

/-- The zero value of a storage slot. -/
def StakingPosition.empty : StakingPosition := ⟨"", 0⟩

structure StakedComponent where
  stakingContracts : List Address
  positions : Address → StakingPosition

/-- The zero value of a storage slot. -/
def StakedComponent.empty : StakedComponent := ⟨[], fun _ ↦ .empty⟩

structure StakingModule where
  address : Address
  /-- The staking positions of each component of the Set. -/
  stakingPositions : Address → StakedComponent

namespace StakingModule

def getStakingContracts (m : StakingModule) (component : Address) : List Address :=
  (m.stakingPositions component).stakingContracts

def hasStakingPosition (m : StakingModule) (component stakeContract : Address) : Bool :=
  AddressArrayUtils.contains (m.getStakingContracts component) stakeContract

def getStakingPosition (m : StakingModule) (component stakeContract : Address) : StakingPosition :=
  (m.stakingPositions component).positions stakeContract

def getStakingPositionUnit (m : StakingModule) (component stakeContract : Address) : ℕ :=
  (m.getStakingPosition component stakeContract).componentPositionUnits

/-- Overwrite the contracts of a component and the position in one of them. -/
def setStaking (m : StakingModule) (component : Address) (contracts : List Address)
    (stakeContract : Address) (position : StakingPosition) : StakingModule :=
  let staked : StakedComponent :=
    ⟨contracts, Function.update (m.stakingPositions component).positions stakeContract position⟩
  { m with stakingPositions := Function.update m.stakingPositions component staked }

/-! ## Calls of the staking contracts -/

/-- The source calls this function `_stake`. -/
def invokeStake (m : StakingModule) (w : World) (env : Env) (stakeContract component : Address)
    (adapter : StakingAdapter) (componentPositionUnits setTokenStakeQuantity : ℕ) :
    Outcome World := do
  let notionalStakeQuantity ←
    Position.getDefaultTotalNotional setTokenStakeQuantity componentPositionUnits
  let spender := adapter.getSpenderAddress stakeContract
  let w ← w.invokeApprove env m.address component spender notionalStakeQuantity
  let (target, callValue, methodData) ←
    adapter.getStakeCallData stakeContract notionalStakeQuantity
  w.invoke env m.address ⟨target, callValue, .raw methodData⟩

/-- The source calls this function `_unstake`. -/
def invokeUnstake (m : StakingModule) (w : World) (env : Env) (stakeContract component : Address)
    (adapter : StakingAdapter) (componentPositionUnits setTokenUnstakeQuantity : ℕ) :
    Outcome World := do
  let preActionBalance := w.balance component
  let notionalUnstakeQuantity ←
    Position.getDefaultTotalNotional setTokenUnstakeQuantity componentPositionUnits
  let (target, callValue, methodData) ←
    adapter.getUnstakeCallData stakeContract notionalUnstakeQuantity
  let w ← w.invoke env m.address ⟨target, callValue, .raw methodData⟩
  let expected ← SafeMath.add preActionBalance notionalUnstakeQuantity
  require (expected ≤ w.balance component) "Not enough tokens returned from stake contract"
  pure w

/-! ## Positions -/

/-- Move `componentPositionUnits` between the default position and the external one. -/
def editPositions (m : StakingModule) (w : World) (component : Address)
    (newDefaultTokenUnit : ℕ) (externalUnits : ℤ → Outcome ℤ) : Outcome World := do
  let w ← w.onSetToken fun s ↦
    Position.editDefaultPosition s w.controller m.address component newDefaultTokenUnit
  let externalUnit ← w.setToken.getExternalPositionRealUnit component m.address
  let newExternalTokenUnit ← externalUnits externalUnit
  w.onSetToken fun s ↦ Position.editExternalPosition s w.controller m.address component m.address
    newExternalTokenUnit []

/-- The part of `_updateStakeState` that writes the module's own storage. -/
def addStake (m : StakingModule) (stakeContract component : Address) (adapterName : String)
    (componentPositionUnits : ℕ) : Outcome StakingModule :=
  if m.hasStakingPosition component stakeContract = true then do
    let units ← SafeMath.add componentPositionUnits
      (m.getStakingPositionUnit component stakeContract)
    let position := m.getStakingPosition component stakeContract
    pure (m.setStaking component (m.getStakingContracts component) stakeContract
      ⟨position.adapterName, units⟩)
  else
    pure (m.setStaking component (m.getStakingContracts component ++ [stakeContract])
      stakeContract ⟨adapterName, componentPositionUnits⟩)

def updateStakeState (m : StakingModule) (w : World) (stakeContract component : Address)
    (adapterName : String) (componentPositionUnits : ℕ) : Outcome (StakingModule × World) := do
  let m' ← m.addStake stakeContract component adapterName componentPositionUnits
  let defaultUnit ← w.setToken.getDefaultPositionRealUnit component
  let defaultUnit ← SafeCast.toUint256 defaultUnit
  let newDefaultTokenUnit ← SafeMath.sub defaultUnit componentPositionUnits
  let w ← m.editPositions w component newDefaultTokenUnit fun externalUnit ↦ do
    let units ← SafeCast.toInt256 componentPositionUnits
    SignedSafeMath.add externalUnit units
  pure (m', w)

/-- The part of `_updateUnstakeState` that writes the module's own storage. -/
def removeStake (m : StakingModule) (stakeContract component : Address)
    (componentPositionUnits : ℕ) : Outcome StakingModule := do
  let remainingPositionUnits ←
    SafeMath.sub (m.getStakingPositionUnit component stakeContract) componentPositionUnits
  if 0 < remainingPositionUnits then
    let position := m.getStakingPosition component stakeContract
    pure (m.setStaking component (m.getStakingContracts component) stakeContract
      ⟨position.adapterName, remainingPositionUnits⟩)
  else do
    let contracts ← AddressArrayUtils.remove (m.getStakingContracts component) stakeContract
    pure (m.setStaking component contracts stakeContract .empty)

def updateUnstakeState (m : StakingModule) (w : World) (stakeContract component : Address)
    (componentPositionUnits : ℕ) : Outcome (StakingModule × World) := do
  let m' ← m.removeStake stakeContract component componentPositionUnits
  let defaultUnit ← w.setToken.getDefaultPositionRealUnit component
  let defaultUnit ← SafeCast.toUint256 defaultUnit
  let newTokenUnit ← SafeMath.add defaultUnit componentPositionUnits
  let w ← m.editPositions w component newTokenUnit fun externalUnit ↦ do
    let units ← SafeCast.toInt256 componentPositionUnits
    SignedSafeMath.sub externalUnit units
  pure (m', w)

/-! ## Functions of the manager -/

def stake (m : StakingModule) (w : World) (env : Env) (stakeContract component : Address)
    (adapterName : String) (componentPositionUnits : ℕ) : Outcome (StakingModule × World) := do
  validateOnlyManagerAndValidSet w m.address env.sender
  let sufficient ←
    Position.hasSufficientDefaultUnits w.setToken component componentPositionUnits
  require (sufficient = true) "Not enough component to stake"
  let adapter ← getAndValidateAdapter env m.address adapterName
  let w ← m.invokeStake w env stakeContract component (env.stakingAdapter adapter)
    componentPositionUnits w.setToken.totalSupply
  m.updateStakeState w stakeContract component adapterName componentPositionUnits

def unstake (m : StakingModule) (w : World) (env : Env) (stakeContract component : Address)
    (adapterName : String) (componentPositionUnits : ℕ) : Outcome (StakingModule × World) := do
  validateOnlyManagerAndValidSet w m.address env.sender
  require (componentPositionUnits ≤ m.getStakingPositionUnit component stakeContract)
    "Not enough component tokens staked"
  let adapter ← getAndValidateAdapter env m.address adapterName
  let w ← m.invokeUnstake w env stakeContract component (env.stakingAdapter adapter)
    componentPositionUnits w.setToken.totalSupply
  m.updateUnstakeState w stakeContract component componentPositionUnits

/-- The source calls this function `initialize`. -/
def initializeSetToken (m : StakingModule) (w : World) (env : Env) : Outcome World := do
  validateOnlySetManager w env.sender
  validateOnlyValidAndPendingSet w m.address
  w.onSetToken fun s ↦ s.initializeModule m.address

/-- The callback of `SetToken.removeModule`. -/
def removeModule (m : StakingModule) (w : World) : Outcome Unit :=
  forM w.setToken.components fun component ↦
    require ((m.getStakingContracts component).length = 0) "Open positions must be closed"

/-! ## Hooks -/

/-- One pass of the loop of `componentIssueHook`. -/
def stakeForHook (m : StakingModule) (env : Env) (setTokenQuantity : ℕ) (component : Address)
    (w : World) (stakeContract : Address) : Outcome World := do
  let position := m.getStakingPosition component stakeContract
  let adapter ← getAndValidateAdapter env m.address position.adapterName
  m.invokeStake w env stakeContract component (env.stakingAdapter adapter)
    position.componentPositionUnits setTokenQuantity

/-- One pass of the loop of `componentRedeemHook`. -/
def unstakeForHook (m : StakingModule) (env : Env) (setTokenQuantity : ℕ) (component : Address)
    (w : World) (stakeContract : Address) : Outcome World := do
  let position := m.getStakingPosition component stakeContract
  let adapter ← getAndValidateAdapter env m.address position.adapterName
  m.invokeUnstake w env stakeContract component (env.stakingAdapter adapter)
    position.componentPositionUnits setTokenQuantity

def componentIssueHook (m : StakingModule) (w : World) (env : Env) (caller : Address)
    (setTokenQuantity : ℕ) (component : Address) (_isEquity : Bool) : Outcome World := do
  validateOnlyModule w caller
  (m.getStakingContracts component).foldlM (m.stakeForHook env setTokenQuantity component) w

def componentRedeemHook (m : StakingModule) (w : World) (env : Env) (caller : Address)
    (setTokenQuantity : ℕ) (component : Address) (_isEquity : Bool) : Outcome World := do
  validateOnlyModule w caller
  (m.getStakingContracts component).foldlM (m.unstakeForHook env setTokenQuantity component) w

/-! ## Edits -/

variable {calls : Invocation → Prop} {m : StakingModule} {w w' : World} {env : Env}
  {caller stakeContract component : Address} {adapter : StakingAdapter} {units quantity : ℕ}
  {isEquity : Bool}

/-- The calls that stake or unstake a component: an approval and what the adapter encodes. -/
inductive StakingCall (component : Address) : Invocation → Prop where
  | approve (spender : Address) (amount : ℕ) :
      StakingCall component ⟨component, 0, .approve spender amount⟩
  | raw (target : Address) (value : ℕ) (data : List UInt8) :
      StakingCall component ⟨target, value, .raw data⟩

theorem invokeStake_calls (hcalls : ∀ i, StakingCall component i → calls i)
    (h : m.invokeStake w env stakeContract component adapter units quantity = .ok w') :
    World.Calls env calls w w' := by
  simp only [invokeStake, Outcome.bind_eq_ok, Prod.exists] at h
  obtain ⟨_, -, v, happrove, _, _, _, -, hcall⟩ := h
  exact (World.invoke_calls (hcalls _ (.approve _ _)) happrove).trans
    (World.invoke_calls (hcalls _ (.raw _ _ _)) hcall)

theorem invokeUnstake_calls (hcalls : ∀ i, StakingCall component i → calls i)
    (h : m.invokeUnstake w env stakeContract component adapter units quantity = .ok w') :
    World.Calls env calls w w' := by
  simp only [invokeUnstake, Outcome.bind_eq_ok, Outcome.pure_eq_ok, Prod.exists] at h
  obtain ⟨_, -, _, _, _, -, v, hcall, _, -, _, -, rfl⟩ := h
  exact World.invoke_calls (hcalls _ (.raw _ _ _)) hcall

theorem componentIssueHook_calls (hcalls : ∀ i, StakingCall component i → calls i)
    (h : m.componentIssueHook w env caller quantity component isEquity = .ok w') :
    World.Calls env calls w w' := by
  simp only [componentIssueHook, Outcome.bind_eq_ok] at h
  obtain ⟨_, -, h⟩ := h
  apply World.Calls.foldlM ?_ h
  intro v contract _ v' hstep
  simp only [stakeForHook, Outcome.bind_eq_ok] at hstep
  obtain ⟨_, -, hstake⟩ := hstep
  exact invokeStake_calls hcalls hstake

theorem componentRedeemHook_calls (hcalls : ∀ i, StakingCall component i → calls i)
    (h : m.componentRedeemHook w env caller quantity component isEquity = .ok w') :
    World.Calls env calls w w' := by
  simp only [componentRedeemHook, Outcome.bind_eq_ok] at h
  obtain ⟨_, -, h⟩ := h
  apply World.Calls.foldlM ?_ h
  intro v contract _ v' hstep
  simp only [unstakeForHook, Outcome.bind_eq_ok] at hstep
  obtain ⟨_, -, hunstake⟩ := hstep
  exact invokeUnstake_calls hcalls hunstake

/-! ### Functions of the manager -/

theorem editPositions_edits {F : Footprint} {newUnit : ℕ} {externalUnits : ℤ → Outcome ℤ}
    (howns : F.owns m.address component)
    (h : m.editPositions w component newUnit externalUnits = .ok w') : World.Edits env F w w' := by
  simp only [editPositions, Outcome.bind_eq_ok] at h
  obtain ⟨v, hdefault, _, -, unit, -, hexternal⟩ := h
  exact (World.editDefaultPosition_edits hdefault).trans
    (World.editExternalPosition_edits howns hexternal)

theorem stake_edits {F : Footprint} {m' : StakingModule} {adapterName : String}
    (hcalls : ∀ i, F.calls i) (howns : F.owns m.address component)
    (h : m.stake w env stakeContract component adapterName units = .ok (m', w')) :
    World.Edits env F w w' := by
  simp only [stake, updateStakeState, Outcome.bind_eq_ok, Outcome.pure_eq_ok, Prod.mk.injEq] at h
  obtain ⟨_, -, _, -, _, -, _, -, v, hstake, _, -, _, -, _, -, _, -, u, hedit, -, rfl⟩ := h
  have hmade : World.Edits env F w v := (invokeStake_calls (fun i _ ↦ hcalls i) hstake).edits
  exact hmade.trans (editPositions_edits howns hedit)

theorem unstake_edits {F : Footprint} {m' : StakingModule} {adapterName : String}
    (hcalls : ∀ i, F.calls i) (howns : F.owns m.address component)
    (h : m.unstake w env stakeContract component adapterName units = .ok (m', w')) :
    World.Edits env F w w' := by
  simp only [unstake, updateUnstakeState, Outcome.bind_eq_ok, Outcome.pure_eq_ok,
    Prod.mk.injEq] at h
  obtain ⟨_, -, _, -, _, -, v, hunstake, _, -, _, -, _, -, _, -, u, hedit, -, rfl⟩ := h
  have hmade : World.Edits env F w v := (invokeUnstake_calls (fun i _ ↦ hcalls i) hunstake).edits
  exact hmade.trans (editPositions_edits howns hedit)

end StakingModule

end SetProtocol
