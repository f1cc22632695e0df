import SetProtocol.Foundation.Ledger
import SetProtocol.Foundation.Trace
import SetProtocol.Core.PositionTracking
import SetProtocol.Modules.StakingModule

/-!
# The ledger of staked components

The units that are staked are stored twice: per staking contract in the module, as plain units, and as
one external position on the SetToken, as a virtual unit that is scaled by the position multiplier.
Staking and unstaking update both.  The two agree as long as the multiplier divides what is written to
the SetToken and no edit of the multiplier moves a staked unit: a fee accrual lowers the unit on the
SetToken and leaves the module's alone.
-/

namespace SetProtocol

open PreciseUnitMath ModuleBase

namespace StakingModule

variable {m m' : StakingModule} {w w' : World} {env : Env}
  {caller stakeContract component : Address} {adapterName : String} {units quantity : ℕ}
  {isEquity : Bool}

/-! ## The module's side -/

/-- The units of a component that are staked in all contracts together. -/
def stakedUnits (m : StakingModule) (component : Address) : ℕ :=
  Ledger.total (m.getStakingContracts component) (m.getStakingPositionUnit component)

/-- Contracts are listed once, and units are only kept for listed contracts. -/
structure Orderly (m : StakingModule) : Prop where
  nodup : ∀ c, (m.getStakingContracts c).Nodup
  closed : ∀ c k, k ∉ m.getStakingContracts c → m.getStakingPositionUnit c k = 0

section Storage

variable (contracts : List Address) (position : StakingPosition)

@[simp] theorem setStaking_address :
    (m.setStaking component contracts stakeContract position).address = m.address := rfl

@[simp] theorem setStaking_getStakingContracts (c : Address) :
    (m.setStaking component contracts stakeContract position).getStakingContracts c =
      if c = component then contracts else m.getStakingContracts c := by
  unfold setStaking getStakingContracts
  dsimp only
  rw [Function.update_apply]
  split_ifs <;> rfl

@[simp] theorem setStaking_getStakingPositionUnit (c : Address) :
    (m.setStaking component contracts stakeContract position).getStakingPositionUnit c =
      if c = component then
        Function.update (m.getStakingPositionUnit c) stakeContract position.componentPositionUnits
      else m.getStakingPositionUnit c := by
  funext k
  unfold setStaking getStakingPositionUnit getStakingPosition
  by_cases hc : c = component
  · subst hc
    by_cases hk : k = stakeContract
    · subst hk
      simp
    · simp [hk]
  · simp [hc]

end Storage

/-- A write of one component: what has to be shown of that component. -/
theorem Orderly.setStaking {contracts : List Address} {position : StakingPosition}
    (h : m.Orderly) (hnodup : contracts.Nodup)
    (hclosed : ∀ k, k ∉ contracts →
      Function.update (m.getStakingPositionUnit component) stakeContract
        position.componentPositionUnits k = 0) :
    (m.setStaking component contracts stakeContract position).Orderly := by
  constructor
  · intro c
    rw [setStaking_getStakingContracts]
    split_ifs
    · exact hnodup
    · exact h.nodup c
  · intro c k hk
    rw [setStaking_getStakingContracts] at hk
    rw [setStaking_getStakingPositionUnit]
    split_ifs at hk ⊢ with hc
    · subst hc
      exact hclosed k hk
    · exact h.closed c k hk

/-- The effect of a stake or an unstake on the ledger. -/
structure Restaked (m m' : StakingModule) (component : Address) (total : ℕ) : Prop where
  address : m'.address = m.address
  orderly : m'.Orderly
  stakedUnits : ∀ c, m'.stakedUnits c = if c = component then total else m.stakedUnits c

theorem Restaked.of_setStaking {contracts : List Address} {position : StakingPosition} {total : ℕ}
    (h : m.Orderly) (hnodup : contracts.Nodup)
    (hclosed : ∀ k, k ∉ contracts →
      Function.update (m.getStakingPositionUnit component) stakeContract
        position.componentPositionUnits k = 0)
    (htotal : Ledger.total contracts (Function.update (m.getStakingPositionUnit component)
      stakeContract position.componentPositionUnits) = total) :
    m.Restaked (m.setStaking component contracts stakeContract position) component total := by
  refine ⟨rfl, h.setStaking hnodup hclosed, ?_⟩
  intro c
  unfold StakingModule.stakedUnits
  rw [setStaking_getStakingContracts, setStaking_getStakingPositionUnit]
  split_ifs with hc
  · rw [hc]
    exact htotal
  · rfl

/-- Outside of the listed contracts nothing is kept, also after a listed entry was overwritten. -/
theorem Orderly.update_closed {contracts : List Address} {amount : ℕ} (h : m.Orderly)
    (hsub : m.getStakingContracts component ⊆ contracts) (hmem : stakeContract ∈ contracts)
    (k : Address) (hk : k ∉ contracts) :
    Function.update (m.getStakingPositionUnit component) stakeContract amount k = 0 := by
  rw [Function.update_of_ne (ne_of_mem_of_not_mem hmem hk).symm]
  exact h.closed component k fun hmem ↦ hk (hsub hmem)

theorem addStake_ok (h : m.Orderly)
    (hadd : m.addStake stakeContract component adapterName units = .ok m') :
    m.Restaked m' component (m.stakedUnits component + units) := by
  unfold addStake at hadd
  split_ifs at hadd with hhas
  · have hmem : stakeContract ∈ m.getStakingContracts component :=
      AddressArrayUtils.contains_eq_true.mp hhas
    simp only [Outcome.bind_eq_ok, SafeMath.add_eq_ok, Outcome.pure_eq_ok] at hadd
    obtain ⟨_, ⟨-, rfl⟩, rfl⟩ := hadd
    apply Restaked.of_setStaking h (h.nodup component)
      (h.update_closed (List.Subset.refl _) hmem)
    have htotal := Ledger.total_update (m.getStakingPositionUnit component)
      (units + m.getStakingPositionUnit component stakeContract) (h.nodup component) hmem
    unfold stakedUnits
    dsimp only
    omega
  · have hnot : stakeContract ∉ m.getStakingContracts component := by
      simpa [hasStakingPosition] using hhas
    obtain rfl := Outcome.pure_eq_ok.mp hadd
    apply Restaked.of_setStaking h (Position.nodup_concat hnot (h.nodup component))
      (h.update_closed (List.subset_append_left _ _) (by simp))
    rw [Ledger.total_concat, Ledger.total_update_of_notMem hnot, Function.update_self]
    rfl

theorem removeStake_ok (h : m.Orderly)
    (hremove : m.removeStake stakeContract component units = .ok m') :
    units ≤ m.stakedUnits component ∧
      m.Restaked m' component (m.stakedUnits component - units) := by
  simp only [removeStake, Outcome.bind_eq_ok, SafeMath.sub_eq_ok] at hremove
  obtain ⟨_, ⟨hle, rfl⟩, hremove⟩ := hremove
  split_ifs at hremove with hpos
  · -- the contract keeps some units, so it is a listed one
    have hmem : stakeContract ∈ m.getStakingContracts component := by
      by_contra hnot
      have hclosed := h.closed component stakeContract hnot
      omega
    obtain rfl := Outcome.pure_eq_ok.mp hremove
    have htotal := Ledger.total_update (m.getStakingPositionUnit component)
      (m.getStakingPositionUnit component stakeContract - units) (h.nodup component) hmem
    have hpart := Ledger.total_erase (m.getStakingPositionUnit component) hmem
    unfold stakedUnits
    refine ⟨by omega, ?_⟩
    apply Restaked.of_setStaking h (h.nodup component)
      (h.update_closed (List.Subset.refl _) hmem)
    dsimp only
    omega
  · simp only [Outcome.bind_eq_ok, AddressArrayUtils.remove_eq_ok, Outcome.pure_eq_ok] at hremove
    obtain ⟨_, ⟨hmem, rfl⟩, rfl⟩ := hremove
    have hnot : stakeContract ∉ (m.getStakingContracts component).erase stakeContract :=
      (h.nodup component).not_mem_erase
    have hpart := Ledger.total_erase (m.getStakingPositionUnit component) hmem
    unfold stakedUnits
    refine ⟨by omega, ?_⟩
    apply Restaked.of_setStaking h ((h.nodup component).erase stakeContract)
    · intro k hk
      by_cases hkc : k = stakeContract
      · rw [hkc, Function.update_self]
        rfl
      · rw [Function.update_of_ne hkc]
        exact h.closed component k fun hmem ↦ hk ((List.mem_erase_of_ne hkc).mpr hmem)
    · rw [Ledger.total_update_of_notMem hnot]
      omega

/-! ## The SetToken's side -/

/-- The effect of a stake or an unstake on the external position of the module. -/
structure Recorded (m : StakingModule) (w w' : World) (component : Address) (unit : ℤ) : Prop where
  positionMultiplier : w'.setToken.positionMultiplier = w.setToken.positionMultiplier
  externalRealUnit : ∀ c, w'.setToken.externalRealUnit c m.address =
    if c = component then w.setToken.readBack unit
    else w.setToken.externalRealUnit c m.address

theorem editPositions_ok {newDefaultTokenUnit : ℕ} {externalUnits : ℤ → Outcome ℤ}
    (hm : 0 < w.setToken.positionMultiplier)
    (h : m.editPositions w component newDefaultTokenUnit externalUnits = .ok w') :
    ∃ unit, externalUnits (w.setToken.externalRealUnit component m.address) = .ok unit ∧
      m.Recorded w w' component unit := by
  simp only [editPositions, World.onSetToken, Outcome.bind_eq_ok, Outcome.pure_eq_ok,
    SetToken.getExternalPositionRealUnit_eq_ok] at h
  obtain ⟨_, ⟨s, hdefault, rfl⟩, _, ⟨-, rfl⟩, unit, hunit, s', hexternal, rfl⟩ := h
  have hframe := Position.editDefaultPosition_sameFrame hdefault
  rw [Position.editDefaultPosition_externalRealUnit _ _ hdefault] at hunit
  refine ⟨unit, hunit, ?_, ?_⟩
  · exact (Position.editExternalPosition_sameFrame hexternal).positionMultiplier.trans
      hframe.positionMultiplier
  · intro c
    have hreal := Position.editExternalPosition_externalRealUnit c m.address
      (hm.trans_eq hframe.positionMultiplier.symm) hexternal
    simp only [and_true] at hreal
    rw [hreal, Position.editDefaultPosition_externalRealUnit _ _ hdefault, SetToken.readBack,
      hframe.realUnit, hframe.positionMultiplier]
    rfl

/-- Calls before the positions are edited do not matter. -/
theorem Recorded.of_steady {v : World} {unit : ℤ} (hsteady : w.Steady v)
    (h : m.Recorded v w' component unit) : m.Recorded w w' component unit := by
  have hmultiplier := hsteady.sameStatus.positionMultiplier
  refine ⟨h.positionMultiplier.trans hmultiplier, ?_⟩
  intro c
  rw [h.externalRealUnit c, hsteady.externalRealUnit, SetToken.readBack, SetToken.realUnit,
    hmultiplier]
  rfl

theorem stake_ok (horderly : m.Orderly) (hm : 0 < w.setToken.positionMultiplier)
    (h : m.stake w env stakeContract component adapterName units = .ok (m', w')) :
    m.Restaked m' component (m.stakedUnits component + units) ∧
      m.Recorded w w' component (w.setToken.externalRealUnit component m.address + units) := by
  simp only [stake, updateStakeState, Outcome.bind_eq_ok, Outcome.pure_eq_ok, Prod.mk.injEq] at h
  obtain ⟨_, -, _, -, _, -, _, -, v, hcalls, _, hadd, _, -, _, -, _, -, _, hedit, rfl, rfl⟩ := h
  have hsteady := (invokeStake_calls (fun _ hcall ↦ hcall) hcalls).steady
  refine ⟨addStake_ok horderly hadd, ?_⟩
  obtain ⟨unit, hunit, hrecorded⟩ := editPositions_ok
    (hm.trans_eq hsteady.sameStatus.positionMultiplier.symm) hedit
  simp only [Outcome.bind_eq_ok, SafeCast.toInt256_eq_ok, SignedSafeMath.add_eq_ok,
    hsteady.externalRealUnit] at hunit
  obtain ⟨_, ⟨-, rfl⟩, -, rfl⟩ := hunit
  exact hrecorded.of_steady hsteady

theorem unstake_ok (horderly : m.Orderly) (hm : 0 < w.setToken.positionMultiplier)
    (h : m.unstake w env stakeContract component adapterName units = .ok (m', w')) :
    units ≤ m.stakedUnits component ∧
      m.Restaked m' component (m.stakedUnits component - units) ∧
      m.Recorded w w' component (w.setToken.externalRealUnit component m.address - units) := by
  simp only [unstake, updateUnstakeState, Outcome.bind_eq_ok, Outcome.pure_eq_ok,
    Prod.mk.injEq] at h
  obtain ⟨_, -, _, -, _, -, v, hcalls, _, hremove, _, -, _, -, _, -, _, hedit, rfl, rfl⟩ := h
  have hsteady := (invokeUnstake_calls (fun _ hcall ↦ hcall) hcalls).steady
  obtain ⟨hle, hrestaked⟩ := removeStake_ok horderly hremove
  refine ⟨hle, hrestaked, ?_⟩
  obtain ⟨unit, hunit, hrecorded⟩ := editPositions_ok
    (hm.trans_eq hsteady.sameStatus.positionMultiplier.symm) hedit
  simp only [Outcome.bind_eq_ok, SafeCast.toInt256_eq_ok, SignedSafeMath.sub_eq_ok,
    hsteady.externalRealUnit] at hunit
  obtain ⟨_, ⟨-, rfl⟩, -, rfl⟩ := hunit
  exact hrecorded.of_steady hsteady

/-! ## What the hooks move -/

/-- `_stake` once the amount is known. -/
def stakeNotional (m : StakingModule) (env : Env) (component : Address) (w : World)
    (stakeContract : Address) (adapter : StakingAdapter) (notionalStakeQuantity : ℕ) :
    Outcome World := do
  let spender := adapter.getSpenderAddress stakeContract
  let w ← w.invokeApprove env m.address component spender notionalStakeQuantity
  let (target, callValue, methodData) ←
    adapter.getStakeCallData stakeContract notionalStakeQuantity
  w.invoke env m.address ⟨target, callValue, .raw methodData⟩

/-- `_unstake` once the amount is known. -/
def unstakeNotional (m : StakingModule) (env : Env) (component : Address) (w : World)
    (stakeContract : Address) (adapter : StakingAdapter) (notionalUnstakeQuantity : ℕ) :
    Outcome World := do
  let preActionBalance := w.balance component
  let (target, callValue, methodData) ←
    adapter.getUnstakeCallData stakeContract notionalUnstakeQuantity
  let w ← w.invoke env m.address ⟨target, callValue, .raw methodData⟩
  let expected ← SafeMath.add preActionBalance notionalUnstakeQuantity
  require (expected ≤ w.balance component) "Not enough tokens returned from stake contract"
  pure w

/-- Move given amounts in given contracts, each through the adapter of its position. -/
def moveEach (m : StakingModule)
    (move : World → Address → StakingAdapter → ℕ → Outcome World) (w : World) (env : Env)
    (component : Address) (amounts : List (Address × ℕ)) : Outcome World :=
  amounts.foldlM (fun w entry ↦ do
    let position := m.getStakingPosition component entry.1
    let adapter ← getAndValidateAdapter env m.address position.adapterName
    move w entry.1 (env.stakingAdapter adapter) entry.2) w

/-- What an issue or a redemption of `quantity` Sets moves in each contract. -/
def notionals (m : StakingModule) (quantity : ℕ) (component : Address) : List (Address × ℕ) :=
  (m.getStakingContracts component).map fun k ↦
    (k, quantity * m.getStakingPositionUnit component k / preciseUnit)

/-- Together the contracts move at most the part of the staked units that the quantity is due. -/
theorem notionals_sum_le (m : StakingModule) (quantity : ℕ) (component : Address) :
    ((m.notionals quantity component).map Prod.snd).sum ≤
      quantity * m.stakedUnits component / preciseUnit := by
  unfold notionals
  rw [List.map_map]
  exact Ledger.total_div_le (m.getStakingContracts component)
    (m.getStakingPositionUnit component) quantity preciseUnit

theorem componentIssueHook_stakes
    (h : m.componentIssueHook w env caller quantity component isEquity = .ok w') :
    m.moveEach (m.stakeNotional env component) w env component (m.notionals quantity component) =
      .ok w' := by
  simp only [componentIssueHook, Outcome.bind_eq_ok] at h
  obtain ⟨_, -, h⟩ := h
  unfold moveEach notionals
  rw [List.foldlM_map]
  apply Outcome.foldlM_mono ?_ h
  intro v k _ v' hstep
  simp only [stakeForHook, invokeStake, Position.getDefaultTotalNotional, Outcome.bind_eq_ok,
    preciseMul_eq_ok] at hstep
  obtain ⟨adapter, hadapter, _, ⟨-, rfl⟩, hstep⟩ := hstep
  simp only [Outcome.bind_eq_ok]
  refine ⟨adapter, hadapter, ?_⟩
  simp only [stakeNotional, Outcome.bind_eq_ok]
  exact hstep

theorem componentRedeemHook_unstakes
    (h : m.componentRedeemHook w env caller quantity component isEquity = .ok w') :
    m.moveEach (m.unstakeNotional env component) w env component (m.notionals quantity component) =
      .ok w' := by
  simp only [componentRedeemHook, Outcome.bind_eq_ok] at h
  obtain ⟨_, -, h⟩ := h
  unfold moveEach notionals
  rw [List.foldlM_map]
  apply Outcome.foldlM_mono ?_ h
  intro v k _ v' hstep
  simp only [unstakeForHook, invokeUnstake, Position.getDefaultTotalNotional, Outcome.bind_eq_ok,
    preciseMul_eq_ok] at hstep
  obtain ⟨adapter, hadapter, _, ⟨-, rfl⟩, hstep⟩ := hstep
  simp only [Outcome.bind_eq_ok]
  refine ⟨adapter, hadapter, ?_⟩
  simp only [unstakeNotional, Outcome.bind_eq_ok]
  exact hstep

end StakingModule

/-! ## Runs -/

structure StakingState where
  module : StakingModule
  world : World

/-- What happens to the two ledgers.  A fee accrual is a mint and an edit of the multiplier. -/
inductive StakingAction where
  | stake (env : Env) (stakeContract component : Address) (adapterName : String)
      (componentPositionUnits : ℕ)
  | unstake (env : Env) (stakeContract component : Address) (adapterName : String)
      (componentPositionUnits : ℕ)
  | componentIssueHook (env : Env) (caller : Address) (setTokenQuantity : ℕ) (component : Address)
      (isEquity : Bool)
  | componentRedeemHook (env : Env) (caller : Address) (setTokenQuantity : ℕ) (component : Address)
      (isEquity : Bool)
  | editPositionMultiplier (sender : Address) (newMultiplier : ℤ)
  | mint (sender account : Address) (quantity : ℕ)
  | burn (sender account : Address) (quantity : ℕ)

namespace StakingState

variable {s s' : StakingState} {action : StakingAction}

def perform (s : StakingState) : StakingAction → Outcome StakingState
  | .stake env stakeContract component adapterName units => do
    let (m, w) ← s.module.stake s.world env stakeContract component adapterName units
    pure ⟨m, w⟩
  | .unstake env stakeContract component adapterName units => do
    let (m, w) ← s.module.unstake s.world env stakeContract component adapterName units
    pure ⟨m, w⟩
  | .componentIssueHook env caller quantity component isEquity => do
    let w ← s.module.componentIssueHook s.world env caller quantity component isEquity
    pure ⟨s.module, w⟩
  | .componentRedeemHook env caller quantity component isEquity => do
    let w ← s.module.componentRedeemHook s.world env caller quantity component isEquity
    pure ⟨s.module, w⟩
  | .editPositionMultiplier sender newMultiplier => do
    let w ← s.world.onSetToken fun t ↦
      t.editPositionMultiplier s.world.controller sender newMultiplier
    pure ⟨s.module, w⟩
  | .mint sender account quantity => do
    let w ← s.world.onSetToken fun t ↦ t.mint s.world.controller sender account quantity
    pure ⟨s.module, w⟩
  | .burn sender account quantity => do
    let w ← s.world.onSetToken fun t ↦ t.burn s.world.controller sender account quantity
    pure ⟨s.module, w⟩

/-- The external real unit of a component that the SetToken records for the module. -/
def externalUnit (s : StakingState) (component : Address) : ℤ :=
  s.world.setToken.externalRealUnit component s.module.address

/-- Nothing was staked yet. -/
structure Fresh (s : StakingState) : Prop where
  stakingPositions : ∀ c, s.module.stakingPositions c = .empty
  externalPositions : ∀ c, s.world.setToken.externalPositionVirtualUnit c s.module.address = 0
  positionMultiplier : 0 < s.world.setToken.positionMultiplier

/-- The two ledgers have the same unit for every component. -/
def Matched (s : StakingState) : Prop :=
  ∀ c, s.externalUnit c = s.module.stakedUnits c

/-- A hook stakes or unstakes the notional amount of every contract, and together these are at most
what the external unit gives for the quantity. -/
structure HooksBounded (s : StakingState) : Prop where
  issue : ∀ env caller quantity component isEquity w,
    s.module.componentIssueHook s.world env caller quantity component isEquity = .ok w →
      s.module.moveEach (s.module.stakeNotional env component) s.world env component
          (s.module.notionals quantity component) = .ok w ∧
        (((s.module.notionals quantity component).map Prod.snd).sum : ℤ) ≤
          s.externalUnit component * quantity / preciseUnitInt
  redeem : ∀ env caller quantity component isEquity w,
    s.module.componentRedeemHook s.world env caller quantity component isEquity = .ok w →
      s.module.moveEach (s.module.unstakeNotional env component) s.world env component
          (s.module.notionals quantity component) = .ok w ∧
        (((s.module.notionals quantity component).map Prod.snd).sum : ℤ) ≤
          s.externalUnit component * quantity / preciseUnitInt

/-- The ledgers agree, and the hooks move no more than the SetToken records. -/
structure Agrees (s : StakingState) : Prop where
  matched : s.Matched
  hooksBounded : s.HooksBounded

/-- Whether an action keeps the units on the SetToken exact: the multiplier divides the new unit that
a stake or an unstake writes, and an edit of the multiplier moves no unit. -/
def Exact (s : StakingState) : StakingAction → Prop
  | .stake _ _ component _ units =>
    s.world.setToken.positionMultiplier ∣ (s.externalUnit component + units) * preciseUnitInt
  | .unstake _ _ component _ units =>
    s.world.setToken.positionMultiplier ∣ (s.externalUnit component - units) * preciseUnitInt
  | .editPositionMultiplier _ newMultiplier =>
    ∀ c, (s.world.setMultiplier newMultiplier).setToken.externalRealUnit c s.module.address =
      s.externalUnit c
  | _ => True

/-- What every action preserves, exact or not. -/
structure Sound (s : StakingState) : Prop where
  orderly : s.module.Orderly
  positionMultiplier : 0 < s.world.setToken.positionMultiplier

theorem Fresh.sound (h : s.Fresh) : s.Sound := by
  refine ⟨⟨?_, ?_⟩, h.positionMultiplier⟩
  · intro c
    rw [StakingModule.getStakingContracts, h.stakingPositions]
    exact List.nodup_nil
  · intro c k _
    rw [StakingModule.getStakingPositionUnit, StakingModule.getStakingPosition, h.stakingPositions]
    rfl

theorem Fresh.matched (h : s.Fresh) : s.Matched := by
  intro c
  rw [externalUnit, SetToken.externalRealUnit, h.externalPositions, SetToken.realUnit_zero,
    StakingModule.stakedUnits, StakingModule.getStakingContracts, h.stakingPositions]
  rfl

theorem Matched.hooksBounded (h : s.Matched) : s.HooksBounded := by
  have hle : ∀ quantity component,
      (((s.module.notionals quantity component).map Prod.snd).sum : ℤ) ≤
        s.externalUnit component * quantity / preciseUnitInt := by
    intro quantity component
    have hsum := s.module.notionals_sum_le quantity component
    rw [h component, mul_comm, preciseUnitInt_eq]
    exact_mod_cast hsum
  constructor
  · intro env caller quantity component isEquity w hhook
    exact ⟨StakingModule.componentIssueHook_stakes hhook, hle quantity component⟩
  · intro env caller quantity component isEquity w hhook
    exact ⟨StakingModule.componentRedeemHook_unstakes hhook, hle quantity component⟩

theorem agrees_iff_matched : s.Agrees ↔ s.Matched :=
  ⟨Agrees.matched, fun h ↦ ⟨h, h.hooksBounded⟩⟩

/-! ### One step -/

/-- A unit was staked or unstaked: the ledgers agree afterwards exactly when the new unit survives the
conversion of the SetToken. -/
theorem Matched.restaked_iff {component : Address} {m : StakingModule} {w : World} {total : ℕ}
    {unit : ℤ} (h : s.Matched) (hsound : s.Sound) (hrestaked : s.module.Restaked m component total)
    (hrecorded : s.module.Recorded s.world w component unit) (hunit : unit = total) :
    Matched ⟨m, w⟩ ↔ s.world.setToken.positionMultiplier ∣ unit * preciseUnitInt := by
  rw [← SetToken.readBack_eq_iff hsound.positionMultiplier]
  unfold Matched externalUnit
  simp only [hrestaked.address, hrecorded.externalRealUnit, hrestaked.stakedUnits]
  constructor
  · intro hall
    have hcomponent := hall component
    simp only [if_true] at hcomponent
    rw [hcomponent, hunit]
  · intro hback c
    split_ifs
    · rw [hback, hunit]
    · exact h c

/-- What an action does to the two ledgers. -/
inductive Effect (s : StakingState) (action : StakingAction) : StakingState → Prop where
  /-- A stake or an unstake changes one component in both. -/
  | restaked {component : Address} {total : ℕ} {unit : ℤ} {m : StakingModule} {w : World}
      (hrestaked : s.module.Restaked m component total)
      (hrecorded : s.module.Recorded s.world w component unit)
      (hunit : s.Matched → unit = total)
      (hexact : s.Exact action ↔
        s.world.setToken.positionMultiplier ∣ unit * preciseUnitInt) : Effect s action ⟨m, w⟩
  /-- Hooks, mints and burns change neither. -/
  | steady {w : World}
      (hmultiplier : w.setToken.positionMultiplier = s.world.setToken.positionMultiplier)
      (hunits : ∀ c, w.setToken.externalRealUnit c s.module.address = s.externalUnit c)
      (hexact : s.Exact action) : Effect s action ⟨s.module, w⟩
  /-- An edit of the multiplier changes the SetToken only. -/
  | rescaled {newMultiplier : ℤ} (hpos : 0 < newMultiplier)
      (hexact : s.Exact action ↔ ∀ c,
        (s.world.setMultiplier newMultiplier).setToken.externalRealUnit c s.module.address =
          s.externalUnit c) :
      Effect s action ⟨s.module, s.world.setMultiplier newMultiplier⟩

theorem Effect.of_steady {w : World} (h : s.world.Steady w) (hexact : s.Exact action) :
    Effect s action ⟨s.module, w⟩ :=
  .steady h.sameStatus.positionMultiplier (fun c ↦ h.externalRealUnit c _) hexact

theorem perform_effect (h : s.perform action = .ok s') (hs : s.Sound) : Effect s action s' := by
  obtain ⟨horderly, hm⟩ := hs
  cases action with
  | stake env stakeContract component adapterName units =>
    simp only [perform, Outcome.bind_eq_ok, Outcome.pure_eq_ok, Prod.exists] at h
    obtain ⟨m, w, hcall, rfl⟩ := h
    obtain ⟨hrestaked, hrecorded⟩ := StakingModule.stake_ok horderly hm hcall
    apply Effect.restaked hrestaked hrecorded ?_ Iff.rfl
    intro hmatched
    have hcomponent : s.world.setToken.externalRealUnit component s.module.address = _ :=
      hmatched component
    rw [hcomponent, Nat.cast_add]
  | unstake env stakeContract component adapterName units =>
    simp only [perform, Outcome.bind_eq_ok, Outcome.pure_eq_ok, Prod.exists] at h
    obtain ⟨m, w, hcall, rfl⟩ := h
    obtain ⟨hle, hrestaked, hrecorded⟩ := StakingModule.unstake_ok horderly hm hcall
    apply Effect.restaked hrestaked hrecorded ?_ Iff.rfl
    intro hmatched
    have hcomponent : s.world.setToken.externalRealUnit component s.module.address = _ :=
      hmatched component
    rw [hcomponent, Nat.cast_sub hle]
  | componentIssueHook env caller quantity component isEquity =>
    simp only [perform, Outcome.bind_eq_ok, Outcome.pure_eq_ok] at h
    obtain ⟨w, hcall, rfl⟩ := h
    have hcalls := StakingModule.componentIssueHook_calls (fun _ hcall ↦ hcall) hcall
    exact .of_steady hcalls.steady trivial
  | componentRedeemHook env caller quantity component isEquity =>
    simp only [perform, Outcome.bind_eq_ok, Outcome.pure_eq_ok] at h
    obtain ⟨w, hcall, rfl⟩ := h
    have hcalls := StakingModule.componentRedeemHook_calls (fun _ hcall ↦ hcall) hcall
    exact .of_steady hcalls.steady trivial
  | editPositionMultiplier sender newMultiplier =>
    simp only [perform, World.onSetToken, Outcome.bind_eq_ok, Outcome.pure_eq_ok,
      SetToken.editPositionMultiplier_eq_ok] at h
    obtain ⟨_, ⟨_, ⟨-, hvalid, rfl⟩, rfl⟩, rfl⟩ := h
    obtain ⟨low, -, hlow⟩ := SetToken.validateNewMultiplier_ok hvalid
    exact .rescaled (SetToken.mul_pos_of_ediv_pos hlow).1 Iff.rfl
  | mint sender account quantity =>
    simp only [perform, World.onSetToken, Outcome.bind_eq_ok, Outcome.pure_eq_ok,
      SetToken.mint_eq_ok] at h
    obtain ⟨_, ⟨_, ⟨-, t, -, rfl⟩, rfl⟩, rfl⟩ := h
    exact .steady rfl (fun _ ↦ rfl) trivial
  | burn sender account quantity =>
    simp only [perform, World.onSetToken, Outcome.bind_eq_ok, Outcome.pure_eq_ok,
      SetToken.burn_eq_ok] at h
    obtain ⟨_, ⟨_, ⟨-, t, -, rfl⟩, rfl⟩, rfl⟩ := h
    exact .steady rfl (fun _ ↦ rfl) trivial

theorem step_sound (h : s.perform action = .ok s') (hs : s.Sound) : s'.Sound := by
  cases perform_effect h hs with
  | restaked hrestaked hrecorded =>
    exact ⟨hrestaked.orderly, hs.positionMultiplier.trans_eq hrecorded.positionMultiplier.symm⟩
  | steady hmultiplier => exact ⟨hs.orderly, hs.positionMultiplier.trans_eq hmultiplier.symm⟩
  | rescaled hpos => exact ⟨hs.orderly, hpos⟩

/-- An action keeps the ledgers in agreement exactly when it keeps the units exact. -/
theorem step_matched_iff (h : s.perform action = .ok s') (hsound : s.Sound) (hs : s.Matched) :
    s'.Matched ↔ s.Exact action := by
  cases perform_effect h hsound with
  | restaked hrestaked hrecorded hunit hexact =>
    rw [hexact]
    exact hs.restaked_iff hsound hrestaked hrecorded (hunit hs)
  | steady hmultiplier hunits hexact =>
    apply iff_of_true _ hexact
    intro c
    exact (hunits c).trans (hs c)
  | rescaled hpos hexact =>
    rw [hexact]
    constructor
    · intro hafter c
      exact (hafter c).trans (hs c).symm
    · intro hunits c
      exact (hunits c).trans (hs c)

/-! ### Whole runs -/

/-- From a state in which nothing is staked, the two ledgers agree in every state of a run exactly
when all of its actions keep the units exact. -/
theorem run_agrees_iff {trace : List (StakingState × StakingAction)}
    (h : Trace perform s trace s') (hs : s.Fresh) :
    ((∀ entry ∈ trace, entry.1.Agrees) ∧ s'.Agrees) ↔ ∀ entry ∈ trace, entry.1.Exact entry.2 := by
  simp only [agrees_iff_matched]
  apply h.forall_iff (I := fun s ↦ s.Sound ∧ s.Matched) (P := Matched) (Q := Exact)
  · intro s hs
    exact hs.2
  · intro s a s' hstep hs
    exact step_matched_iff hstep hs.1 hs.2
  · intro s a s' hstep hs hexact
    exact ⟨step_sound hstep hs.1, (step_matched_iff hstep hs.1 hs.2).mpr hexact⟩
  · exact ⟨hs.sound, hs.matched⟩

namespace Sample

/-- The manager 2 sends a transaction.  The adapter 50 encodes amounts below 256 as one byte, and a
staking contract takes the encoded amount of token 45 from the Set 6. -/
def stakingEnv : Env :=
  { Env.plain 2 0 with
    integrationAdapter := fun _ _ ↦ 50
    stakingAdapter := fun _ ↦
      ⟨fun k ↦ k, fun k n ↦ .ok (k, 0, [n.toUInt8]), fun _ _ ↦ .error "no adapter"⟩
    call := fun invocation chain ↦
      match invocation.callData with
      | .raw [n] => do
        let token ← (chain.tokens 45).transferFrom invocation.target 6 invocation.target n.toNat
        pure { chain with tokens := Function.update chain.tokens 45 token }
      | _ => .error "no contract" }

/-- A Set with 200 units of token 45, the staking module 34 and the fee module 35. -/
def start : StakingState where
  module := ⟨34, fun _ ↦ .empty⟩
  world := {
    controller := { Controller.enabling 4 [34, 35] with isSet := fun a ↦ a == 6 }
    setToken := SetToken.launched 6 [45] [200] [34, 35] 2 9 (10 ^ 18)
    chain := { tokens := fun _ ↦ ERC20.holding 18 [(6, 200)] 0 }
    log := [] }

theorem start_fresh : start.Fresh := by
  refine ⟨fun _ ↦ rfl, ?_, by decide⟩
  intro c
  by_cases hc : c = 45
  · subst hc
    rfl
  · have hposition : start.world.setToken.componentPositions c = .empty := by
      change Function.update (fun _ ↦ ComponentPosition.empty) 45 _ c = .empty
      rw [Function.update_of_ne hc]
    rw [SetToken.externalPositionVirtualUnit, hposition]
    rfl

/-- The manager stakes half of the units. -/
def stakeHalf : StakingAction := .stake stakingEnv 51 45 "staking" 100

def staked : StakingState := (start.perform stakeHalf).getD start

/-- A fee of one percent. -/
def accrueFee : StakingAction := .editPositionMultiplier 35 (99 * 10 ^ 16)

def accrued : StakingState := (staked.perform accrueFee).getD start

theorem stakeHalf_ok : start.perform stakeHalf = .ok staked :=
  Outcome.eq_ok_getD start (by decide +kernel)

theorem accrueFee_ok : staked.perform accrueFee = .ok accrued :=
  Outcome.eq_ok_getD start (by decide +kernel)

/-- After the fee the SetToken records 99 units, while the module still stakes 100 of them. -/
theorem accrued_not_agrees :
    start.Fresh ∧ Trace perform start [(start, stakeHalf), (staked, accrueFee)] accrued ∧
      accrued.externalUnit 45 = 99 ∧ accrued.module.stakedUnits 45 = 100 ∧ ¬ accrued.Agrees := by
  have hunit : accrued.externalUnit 45 = 99 := by decide +kernel
  have hstaked : accrued.module.stakedUnits 45 = 100 := by decide +kernel
  refine ⟨start_fresh, .cons stakeHalf_ok (.cons accrueFee_ok (.nil _)), hunit, hstaked, ?_⟩
  intro h
  have hmatched := h.matched 45
  rw [hunit, hstaked] at hmatched
  exact absurd hmatched (by decide)

/-- Before the fee the ledgers agree. -/
theorem staked_agrees : staked.module.stakedUnits 45 = 100 ∧ staked.Agrees := by
  have hrun : Trace perform start [(start, stakeHalf)] staked := .cons stakeHalf_ok (.nil _)
  have hexact : start.world.setToken.positionMultiplier ∣
      (start.externalUnit 45 + 100) * preciseUnitInt := by decide +kernel
  refine ⟨by decide +kernel, ((run_agrees_iff hrun start_fresh).mpr ?_).2⟩
  intro entry hentry
  obtain rfl := List.mem_singleton.mp hentry
  exact hexact

end Sample

end StakingState

end SetProtocol
