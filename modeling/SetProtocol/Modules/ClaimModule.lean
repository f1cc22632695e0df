import SetProtocol.Core.ModuleBase
import SetProtocol.Foundation.Teardown

/-!
# Claiming rewards

The manager adds claims, which are pairs of a reward pool and an integration name.  The module keeps a
register of the pools and, for each pool, a register of the adapters that claim from it.  A name is
resolved to an adapter whenever it is used, so that the adapter under a name may have changed in
between.
-/

namespace SetProtocol

open ModuleBase

/-- An adapter that encodes claims.  The calldata is the target, the value and the data of the call. -/
structure ClaimAdapter where
  getTokenAddress : (rewardPool : Address) → Address
  getRewardsAmount : (setToken rewardPool : Address) → Outcome ℕ
  getClaimCallData : (setToken rewardPool : Address) → Outcome (Address × ℕ × List UInt8)

structure ClaimModule where
  address : Address
  anyoneClaim : Bool
  rewardPoolList : List Address
  rewardPoolStatus : Address → Bool
  /-- The adapters of a reward pool. -/
  claimSettings : Address → List Address
  claimSettingsStatus : Address → Address → Bool

namespace ClaimModule

/-! ## Claiming -/

def isValidCaller (m : ClaimModule) (w : World) (env : Env) : Bool :=
  m.anyoneClaim || isSetManager w env.sender

def isRewardPool (m : ClaimModule) (rewardPool : Address) : Bool :=
  m.rewardPoolStatus rewardPool

def validateBatchArrays (rewardPools : List Address) (integrationNames : List String) :
    Outcome Unit := do
  require (rewardPools.length = integrationNames.length) "Array length mismatch"
  require (0 < rewardPools.length) "Arrays must not be empty"

def getAndValidateIntegrationAdapter (m : ClaimModule) (env : Env) (rewardPool : Address)
    (integrationName : String) : Outcome Address := do
  let adapter ← getAndValidateAdapter env m.address integrationName
  require (m.claimSettingsStatus rewardPool adapter = true) "Adapter integration not present"
  pure adapter

def getRewards (m : ClaimModule) (w : World) (env : Env) (claimAdapter : Address → ClaimAdapter)
    (rewardPool : Address) (integrationName : String) : Outcome ℕ := do
  let adapter ← m.getAndValidateIntegrationAdapter env rewardPool integrationName
  (claimAdapter adapter).getRewardsAmount w.setToken.address rewardPool

/-- The source calls this function `_claim`.  The amount that it returns is emitted there. -/
def internalClaim (m : ClaimModule) (env : Env) (claimAdapter : Address → ClaimAdapter) (w : World)
    (rewardPool : Address) (integrationName : String) : Outcome (World × ℕ) := do
  require (m.isRewardPool rewardPool = true) "RewardPool not present"
  let adapter ← m.getAndValidateIntegrationAdapter env rewardPool integrationName
  let rewardsToken := (claimAdapter adapter).getTokenAddress rewardPool
  let initRewardsBalance := w.balance rewardsToken
  let (callTarget, callValue, callByteData) ←
    (claimAdapter adapter).getClaimCallData w.setToken.address rewardPool
  let w ← w.invoke env m.address ⟨callTarget, callValue, .raw callByteData⟩
  let amount ← SafeMath.sub (w.balance rewardsToken) initRewardsBalance
  pure (w, amount)

/-- One pass of the loop of `batchClaim`. -/
def claimStep (m : ClaimModule) (env : Env) (claimAdapter : Address → ClaimAdapter) (w : World)
    (claim : Address × String) : Outcome World := do
  let (w, _) ← m.internalClaim env claimAdapter w claim.1 claim.2
  pure w

def claim (m : ClaimModule) (w : World) (env : Env) (claimAdapter : Address → ClaimAdapter)
    (rewardPool : Address) (integrationName : String) : Outcome World := do
  validateOnlyValidAndInitializedSet w m.address
  require (m.isValidCaller w env = true) "Must be valid caller"
  m.claimStep env claimAdapter w (rewardPool, integrationName)

def batchClaim (m : ClaimModule) (w : World) (env : Env) (claimAdapter : Address → ClaimAdapter)
    (rewardPools : List Address) (integrationNames : List String) : Outcome World := do
  validateOnlyValidAndInitializedSet w m.address
  require (m.isValidCaller w env = true) "Must be valid caller"
  validateBatchArrays rewardPools integrationNames
  (rewardPools.zip integrationNames).foldlM (m.claimStep env claimAdapter) w

/-! ## Adding and removing claims -/

/-- Write the adapters of a pool and the flag of one of them. -/
def setClaims (m : ClaimModule) (rewardPool : Address) (adapters : List Address) (adapter : Address)
    (added : Bool) : ClaimModule :=
  { m with
    claimSettings := Function.update m.claimSettings rewardPool adapters
    claimSettingsStatus := Function.update m.claimSettingsStatus rewardPool
      (Function.update (m.claimSettingsStatus rewardPool) adapter added) }

/-- Write the pools and the flag of one of them. -/
def setRewardPools (m : ClaimModule) (rewardPools : List Address) (rewardPool : Address)
    (added : Bool) : ClaimModule :=
  { m with
    rewardPoolList := rewardPools
    rewardPoolStatus := Function.update m.rewardPoolStatus rewardPool added }

/-- The source calls this function `_addClaim`. -/
def internalAddClaim (env : Env) (m : ClaimModule) (claim : Address × String) :
    Outcome ClaimModule := do
  let (rewardPool, integrationName) := claim
  let adapter ← getAndValidateAdapter env m.address integrationName
  require (m.claimSettingsStatus rewardPool adapter = false) "Integration names must be unique"
  let m := m.setClaims rewardPool (m.claimSettings rewardPool ++ [adapter]) adapter true
  if m.rewardPoolStatus rewardPool = false then
    pure (m.setRewardPools (m.rewardPoolList ++ [rewardPool]) rewardPool true)
  else
    pure m

/-- The source calls this function `_removeClaim`. -/
def internalRemoveClaim (env : Env) (m : ClaimModule) (claim : Address × String) :
    Outcome ClaimModule := do
  let (rewardPool, integrationName) := claim
  let adapter ← getAndValidateAdapter env m.address integrationName
  require (m.claimSettingsStatus rewardPool adapter = true) "Integration must be added"
  let adapters ← AddressArrayUtils.removeStorage (m.claimSettings rewardPool) adapter
  let m := m.setClaims rewardPool adapters adapter false
  if (m.claimSettings rewardPool).length = 0 then do
    let rewardPools ← AddressArrayUtils.removeStorage m.rewardPoolList rewardPool
    pure (m.setRewardPools rewardPools rewardPool false)
  else
    pure m

/-- The source calls this function `_batchAddClaim`. -/
def internalBatchAddClaim (m : ClaimModule) (env : Env) (rewardPools : List Address)
    (integrationNames : List String) : Outcome ClaimModule := do
  validateBatchArrays rewardPools integrationNames
  (rewardPools.zip integrationNames).foldlM (internalAddClaim env) m

def updateAnyoneClaim (m : ClaimModule) (w : World) (env : Env) (anyoneClaim : Bool) :
    Outcome ClaimModule := do
  validateOnlyManagerAndValidSet w m.address env.sender
  pure { m with anyoneClaim := anyoneClaim }

def addClaim (m : ClaimModule) (w : World) (env : Env) (rewardPool : Address)
    (integrationName : String) : Outcome ClaimModule := do
  validateOnlyManagerAndValidSet w m.address env.sender
  internalAddClaim env m (rewardPool, integrationName)

def batchAddClaim (m : ClaimModule) (w : World) (env : Env) (rewardPools : List Address)
    (integrationNames : List String) : Outcome ClaimModule := do
  validateOnlyManagerAndValidSet w m.address env.sender
  m.internalBatchAddClaim env rewardPools integrationNames

def removeClaim (m : ClaimModule) (w : World) (env : Env) (rewardPool : Address)
    (integrationName : String) : Outcome ClaimModule := do
  validateOnlyManagerAndValidSet w m.address env.sender
  internalRemoveClaim env m (rewardPool, integrationName)

def batchRemoveClaim (m : ClaimModule) (w : World) (env : Env) (rewardPools : List Address)
    (integrationNames : List String) : Outcome ClaimModule := do
  validateOnlyManagerAndValidSet w m.address env.sender
  validateBatchArrays rewardPools integrationNames
  (rewardPools.zip integrationNames).foldlM (internalRemoveClaim env) m

/-! ## Joining and leaving the Set -/

/-- The source calls this function `initialize`. -/
def initializeSetToken (m : ClaimModule) (w : World) (env : Env) (anyoneClaim : Bool)
    (rewardPools : List Address) (integrationNames : List String) :
    Outcome (ClaimModule × World) := do
  validateOnlySetManager w env.sender
  validateOnlyValidAndPendingSet w m.address
  let m ← m.internalBatchAddClaim env rewardPools integrationNames
  let w ← w.onSetToken fun s ↦ s.initializeModule m.address
  pure ({ m with anyoneClaim := anyoneClaim }, w)

/-- One pass of the first loop of `removeModule`: the loop over the adapters of a pool, and the
deletion of their list. -/
def deleteClaims (m : ClaimModule) (rewardPool : Address) : ClaimModule :=
  let cleared :=
    Teardown.clearEntries 0 (m.claimSettings rewardPool) (m.claimSettingsStatus rewardPool)
  { m with
    claimSettings := Function.update m.claimSettings rewardPool []
    claimSettingsStatus := Function.update m.claimSettingsStatus rewardPool cleared.2 }

/-- The callback of `SetToken.removeModule`. -/
def removeModule (m : ClaimModule) : ClaimModule :=
  let m := { m with anyoneClaim := false }
  let m := m.rewardPoolList.foldl deleteClaims m
  let cleared := Teardown.clearEntries 0 m.rewardPoolList m.rewardPoolStatus
  { m with rewardPoolList := [], rewardPoolStatus := cleared.2 }

/-! ## The registers -/

variable {m m' : ClaimModule} {w w' : World} {env : Env} {claim : Address × String}
  {rewardPool adapter : Address} {adapters rewardPools : List Address} {names : List String}
  {added : Bool}

/-- Both levels of the register are in order, and a pool is registered as long as it has claims. -/
structure Registered (m : ClaimModule) : Prop where
  pools : Lists m.rewardPoolList (m.rewardPoolStatus · = true)
  claims : ∀ pool, Lists (m.claimSettings pool) (m.claimSettingsStatus pool · = true)
  status_iff : ∀ pool, m.rewardPoolStatus pool = true ↔ m.claimSettings pool ≠ []

/-- Nothing is registered. -/
structure Clean (m : ClaimModule) : Prop where
  anyoneClaim : m.anyoneClaim = false
  rewardPoolList : m.rewardPoolList = []
  rewardPoolStatus : ∀ pool, m.rewardPoolStatus pool = false
  claimSettings : ∀ pool, m.claimSettings pool = []
  claimSettingsStatus : ∀ pool adapter, m.claimSettingsStatus pool adapter = false

theorem Clean.registered (h : m.Clean) : m.Registered := by
  refine ⟨?_, ?_, ?_⟩
  · rw [h.rewardPoolList]
    exact .nil fun pool ↦ by simp [h.rewardPoolStatus pool]
  · intro pool
    rw [h.claimSettings pool]
    exact .nil fun adapter ↦ by simp [h.claimSettingsStatus pool adapter]
  · intro pool
    simp [h.rewardPoolStatus pool, h.claimSettings pool]

@[simp] theorem setClaims_rewardPoolList :
    (m.setClaims rewardPool adapters adapter added).rewardPoolList = m.rewardPoolList := rfl

@[simp] theorem setClaims_rewardPoolStatus :
    (m.setClaims rewardPool adapters adapter added).rewardPoolStatus = m.rewardPoolStatus := rfl

@[simp] theorem setClaims_claimSettings_self :
    (m.setClaims rewardPool adapters adapter added).claimSettings rewardPool = adapters :=
  Function.update_self _ _ _

theorem setClaims_claims (h : ∀ pool, Lists (m.claimSettings pool) (m.claimSettingsStatus pool · = true))
    (hnew : Lists adapters
      (Function.update (m.claimSettingsStatus rewardPool) adapter added · = true)) (pool : Address) :
    Lists ((m.setClaims rewardPool adapters adapter added).claimSettings pool)
      ((m.setClaims rewardPool adapters adapter added).claimSettingsStatus pool · = true) := by
  by_cases hpool : pool = rewardPool
  · subst hpool
    simp only [setClaims, Function.update_self]
    exact hnew
  · simp only [setClaims, Function.update_of_ne hpool]
    exact h pool

theorem internalAddClaim_registered (h : internalAddClaim env m claim = .ok m')
    (hm : m.Registered) : m'.Registered := by
  obtain ⟨rewardPool, name⟩ := claim
  simp only [internalAddClaim, Outcome.bind_eq_ok, Outcome.require_eq_ok] at h
  obtain ⟨adapter, -, _, hnew, h⟩ := h
  have hclaims := setClaims_claims hm.claims ((hm.claims rewardPool).concat
    (q := fun a ↦ Function.update (m.claimSettingsStatus rewardPool) adapter true a = true)
    (ne_true_of_eq_false hnew) fun a ↦ by by_cases ha : a = adapter <;> simp [ha])
  -- the pool has claims now, and is registered in both cases
  have hiff : ∀ status : Address → Bool, status rewardPool = true →
      (∀ pool, pool ≠ rewardPool → status pool = m.rewardPoolStatus pool) → ∀ pool,
        status pool = true ↔
          (m.setClaims rewardPool (m.claimSettings rewardPool ++ [adapter]) adapter true).claimSettings
            pool ≠ [] := by
    intro status hself hother pool
    by_cases hpool : pool = rewardPool
    · simp [hpool, hself, setClaims]
    · simp only [hother pool hpool, setClaims, Function.update_of_ne hpool]
      exact hm.status_iff pool
  split_ifs at h with hstatus
  · rw [setClaims_rewardPoolStatus] at hstatus
    obtain rfl := Outcome.pure_eq_ok.mp h
    refine ⟨hm.pools.concat (ne_true_of_eq_false hstatus) ?_, hclaims, hiff _ ?_ ?_⟩
    · intro pool
      by_cases hpool : pool = rewardPool <;> simp [setRewardPools, hpool]
    · simp [setRewardPools]
    · intro pool hpool
      simp [setRewardPools, hpool]
  · rw [setClaims_rewardPoolStatus] at hstatus
    obtain rfl := Outcome.pure_eq_ok.mp h
    exact ⟨hm.pools, hclaims, hiff _ (Bool.eq_true_of_not_eq_false hstatus) fun _ _ ↦ rfl⟩

theorem internalRemoveClaim_registered (h : internalRemoveClaim env m claim = .ok m')
    (hm : m.Registered) : m'.Registered := by
  obtain ⟨rewardPool, name⟩ := claim
  simp only [internalRemoveClaim, Outcome.bind_eq_ok, Outcome.require_eq_ok,
    AddressArrayUtils.removeStorage_eq_ok] at h
  obtain ⟨adapter, -, _, hadded, adapters, ⟨hmem, rfl⟩, h⟩ := h
  have hclaims := setClaims_claims hm.claims ((hm.claims rewardPool).swapRemove
    (q := fun a ↦ Function.update (m.claimSettingsStatus rewardPool) adapter false a = true)
    hadded fun a ↦ by by_cases ha : a = adapter <;> simp [ha])
  have hregistered : m.rewardPoolStatus rewardPool = true :=
    (hm.status_iff rewardPool).mpr (List.ne_nil_of_mem hmem)
  have hother : ∀ pool, pool ≠ rewardPool →
      (m.setClaims rewardPool (SwapRemove.swapRemove (m.claimSettings rewardPool) adapter) adapter
        false).claimSettings pool = m.claimSettings pool := by
    intro pool hpool
    simp only [setClaims, Function.update_of_ne hpool]
  split_ifs at h with hlength
  all_goals rw [setClaims_claimSettings_self] at hlength
  · -- the last claim of the pool is gone, and so is the pool
    simp only [Outcome.bind_eq_ok, AddressArrayUtils.removeStorage_eq_ok, Outcome.pure_eq_ok] at h
    obtain ⟨_, ⟨-, rfl⟩, rfl⟩ := h
    refine ⟨hm.pools.swapRemove hregistered ?_, hclaims, ?_⟩
    · intro pool
      by_cases hpool : pool = rewardPool <;> simp [setRewardPools, hpool]
    · intro pool
      by_cases hpool : pool = rewardPool
      · simp [setRewardPools, hpool, List.length_eq_zero_iff.mp hlength]
      · simp only [setRewardPools, Function.update_of_ne hpool, hother pool hpool]
        exact hm.status_iff pool
  · obtain rfl := Outcome.pure_eq_ok.mp h
    refine ⟨hm.pools, hclaims, ?_⟩
    intro pool
    by_cases hpool : pool = rewardPool
    · have hleft := mt List.length_eq_zero_iff.mpr hlength
      simp [hpool, hregistered, hleft]
    · rw [setClaims_rewardPoolStatus, hother pool hpool]
      exact hm.status_iff pool

theorem internalAddClaim_address (h : internalAddClaim env m claim = .ok m') :
    m'.address = m.address := by
  obtain ⟨rewardPool, name⟩ := claim
  simp only [internalAddClaim, Outcome.bind_eq_ok] at h
  obtain ⟨adapter, -, _, -, h⟩ := h
  split_ifs at h <;> rw [← Outcome.pure_eq_ok.mp h] <;> rfl

theorem internalRemoveClaim_address (h : internalRemoveClaim env m claim = .ok m') :
    m'.address = m.address := by
  obtain ⟨rewardPool, name⟩ := claim
  simp only [internalRemoveClaim, Outcome.bind_eq_ok] at h
  obtain ⟨adapter, -, _, -, adapters, -, h⟩ := h
  split_ifs at h
  · simp only [Outcome.bind_eq_ok, Outcome.pure_eq_ok] at h
    obtain ⟨_, -, rfl⟩ := h
    rfl
  · rw [← Outcome.pure_eq_ok.mp h]
    rfl

theorem internalBatchAddClaim_registered
    (h : m.internalBatchAddClaim env rewardPools names = .ok m') (hm : m.Registered) :
    m'.Registered ∧ m'.address = m.address := by
  simp only [internalBatchAddClaim, Outcome.bind_eq_ok] at h
  obtain ⟨_, -, hloop⟩ := h
  apply Outcome.foldlM_invariant (P := fun k ↦ k.Registered ∧ k.address = m.address) ?_ hloop ⟨hm, rfl⟩
  intro k claim k' hstep hk
  exact ⟨internalAddClaim_registered hstep hk.1, (internalAddClaim_address hstep).trans hk.2⟩

theorem batchRemoveClaim_registered (h : m.batchRemoveClaim w env rewardPools names = .ok m')
    (hm : m.Registered) : m'.Registered ∧ m'.address = m.address := by
  simp only [batchRemoveClaim, Outcome.bind_eq_ok] at h
  obtain ⟨_, -, _, -, hloop⟩ := h
  apply Outcome.foldlM_invariant (P := fun k ↦ k.Registered ∧ k.address = m.address) ?_ hloop ⟨hm, rfl⟩
  intro k claim k' hstep hk
  exact ⟨internalRemoveClaim_registered hstep hk.1, (internalRemoveClaim_address hstep).trans hk.2⟩

/-! ### Taking the registers down -/

theorem deleteClaims_claims
    (h : ∀ pool, Lists (m.claimSettings pool) (m.claimSettingsStatus pool · = true)) (pool : Address) :
    Lists ((m.deleteClaims rewardPool).claimSettings pool)
      ((m.deleteClaims rewardPool).claimSettingsStatus pool · = true) := by
  by_cases hpool : pool = rewardPool
  · simp only [deleteClaims, hpool, Function.update_self]
    exact .nil fun adapter ↦ by simp [Teardown.clearEntries_flags (h rewardPool) adapter]
  · simp only [deleteClaims, Function.update_of_ne hpool]
    exact h pool

/-- The first loop deletes the claims of the pools in the list, and no others. -/
theorem foldl_deleteClaims (pools : List Address)
    (h : ∀ pool, Lists (m.claimSettings pool) (m.claimSettingsStatus pool · = true)) :
    (pools.foldl deleteClaims m).anyoneClaim = m.anyoneClaim ∧
      (pools.foldl deleteClaims m).rewardPoolList = m.rewardPoolList ∧
      (pools.foldl deleteClaims m).rewardPoolStatus = m.rewardPoolStatus ∧
      (∀ pool, Lists ((pools.foldl deleteClaims m).claimSettings pool)
        ((pools.foldl deleteClaims m).claimSettingsStatus pool · = true)) ∧
      ∀ pool, (pools.foldl deleteClaims m).claimSettings pool =
        if pool ∈ pools then [] else m.claimSettings pool := by
  induction pools generalizing m with
  | nil => exact ⟨rfl, rfl, rfl, h, fun pool ↦ by simp⟩
  | cons rewardPool pools ih =>
    obtain ⟨hanyone, hlist, hstatus, hclaims, hsettings⟩ := ih (deleteClaims_claims h)
    refine ⟨hanyone, hlist, hstatus, hclaims, ?_⟩
    intro pool
    rw [List.foldl_cons, hsettings]
    by_cases hpool : pool = rewardPool <;> simp [deleteClaims, hpool]

theorem removeModule_clean (hm : m.Registered) : m.removeModule.Clean := by
  obtain ⟨hanyone, hlist, hstatus, hclaims, hsettings⟩ :=
    foldl_deleteClaims (m := { m with anyoneClaim := false }) m.rewardPoolList hm.claims
  -- a pool that is not in the list has no claims
  have hnone : ∀ pool,
      (m.rewardPoolList.foldl deleteClaims { m with anyoneClaim := false }).claimSettings pool =
        [] := by
    intro pool
    rw [hsettings]
    split_ifs with hpool
    · rfl
    · by_contra hclaimed
      exact hpool ((hm.pools.mem_iff pool).mpr ((hm.status_iff pool).mpr hclaimed))
  refine ⟨hanyone, rfl, ?_, hnone, ?_⟩
  · intro pool
    apply Teardown.clearEntries_flags
    dsimp only
    rw [hlist, hstatus]
    exact hm.pools
  · intro pool adapter
    apply Bool.eq_false_of_not_eq_true
    intro hadded
    have hmem := ((hclaims pool).mem_iff adapter).mpr hadded
    rw [hnone] at hmem
    cases hmem

end ClaimModule

end SetProtocol
