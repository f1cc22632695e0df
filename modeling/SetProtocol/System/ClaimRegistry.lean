import SetProtocol.Core.PositionEdits
import SetProtocol.Foundation.Trace
import SetProtocol.Modules.ClaimModule

/-!
# The registers of claims over whole runs

The manager adds and removes claims, one by one or in batches, while the adapters behind the
integration names change.  Reward pools, adapters and their flags agree in every state that is reached,
and nothing is left of them when the module is removed from the Set.
-/

namespace SetProtocol

open ModuleBase

/-- The claim module and the Set. -/
structure ClaimState where
  module : ClaimModule
  world : World

/-- What the manager and others do with the module.  In between, everything else of the Set and its
modules changes in any way. -/
inductive ClaimAction where
  | initializeSetToken (env : Env) (anyoneClaim : Bool) (rewardPools : List Address)
      (integrationNames : List String)
  | addClaim (env : Env) (rewardPool : Address) (integrationName : String)
  | batchAddClaim (env : Env) (rewardPools : List Address) (integrationNames : List String)
  | removeClaim (env : Env) (rewardPool : Address) (integrationName : String)
  | batchRemoveClaim (env : Env) (rewardPools : List Address) (integrationNames : List String)
  | updateAnyoneClaim (env : Env) (anyoneClaim : Bool)
  | claim (env : Env) (claimAdapter : Address → ClaimAdapter) (rewardPool : Address)
      (integrationName : String)
  | batchClaim (env : Env) (claimAdapter : Address → ClaimAdapter) (rewardPools : List Address)
      (integrationNames : List String)
  | addModule (sender module : Address)
  | removePendingModule (sender module : Address)
  /-- Removal of the claim module by `SetToken.removeModule`. -/
  | removeModule (sender : Address)
  | elsewhere (next : World)

namespace ClaimState

variable {s s' : ClaimState} {action : ClaimAction} {env : Env} {sender : Address}

def onModule (s : ClaimState) (result : Outcome ClaimModule) : Outcome ClaimState := do
  let m ← result
  pure { s with module := m }

def onWorld (s : ClaimState) (result : Outcome World) : Outcome ClaimState := do
  let w ← result
  pure { s with world := w }

/-- Replace everything but the state in which the SetToken has the claim module. -/
def setElsewhere (s : ClaimState) (next : World) : ClaimState :=
  let states := Function.update next.setToken.moduleStates s.module.address
    (s.world.setToken.moduleStates s.module.address)
  { s with world := { next with setToken := { next.setToken with moduleStates := states } } }

def perform (s : ClaimState) : ClaimAction → Outcome ClaimState
  | .initializeSetToken env anyoneClaim rewardPools names => do
    let (m, w) ← s.module.initializeSetToken s.world env anyoneClaim rewardPools names
    pure ⟨m, w⟩
  | .addClaim env rewardPool name => s.onModule (s.module.addClaim s.world env rewardPool name)
  | .batchAddClaim env rewardPools names =>
    s.onModule (s.module.batchAddClaim s.world env rewardPools names)
  | .removeClaim env rewardPool name =>
    s.onModule (s.module.removeClaim s.world env rewardPool name)
  | .batchRemoveClaim env rewardPools names =>
    s.onModule (s.module.batchRemoveClaim s.world env rewardPools names)
  | .updateAnyoneClaim env anyoneClaim =>
    s.onModule (s.module.updateAnyoneClaim s.world env anyoneClaim)
  | .claim env claimAdapter rewardPool name =>
    s.onWorld (s.module.claim s.world env claimAdapter rewardPool name)
  | .batchClaim env claimAdapter rewardPools names =>
    s.onWorld (s.module.batchClaim s.world env claimAdapter rewardPools names)
  | .addModule sender module =>
    s.onWorld (s.world.onSetToken fun token ↦ token.addModule s.world.controller sender module)
  | .removePendingModule sender module =>
    s.onWorld (s.world.onSetToken fun token ↦ token.removePendingModule sender module)
  | .removeModule sender => do
    s.world.setToken.validateRemoveModule sender s.module.address
    let m := s.module.removeModule
    let w ← s.world.onSetToken fun token ↦ token.clearModule s.module.address
    pure ⟨m, w⟩
  | .elsewhere next => pure (s.setElsewhere next)

/-- What every action keeps: nothing is registered while the module is not on the Set. -/
structure Ordered (s : ClaimState) : Prop where
  registered : s.module.Registered
  idle : s.world.setToken.moduleStates s.module.address ≠ .initialized → s.module.Clean

/-! ### One step -/

/-- The manager changes the registers of a module that is on the Set. -/
theorem onModule_ordered {result : Outcome ClaimModule}
    (hresult : ∀ m, result = .ok m →
      s.world.setToken.moduleStates s.module.address = .initialized ∧ m.Registered ∧
        m.address = s.module.address)
    (h : s.onModule result = .ok s') : s'.Ordered := by
  simp only [onModule, Outcome.bind_eq_ok, Outcome.pure_eq_ok] at h
  obtain ⟨m, hm, rfl⟩ := h
  obtain ⟨hstate, hregistered, haddress⟩ := hresult m hm
  refine ⟨hregistered, ?_⟩
  intro hother
  rw [haddress] at hother
  exact absurd hstate hother

/-- The SetToken does not initialize the module, nor does it take it off the Set. -/
theorem onWorld_ordered {result : Outcome World}
    (hresult : ∀ w, result = .ok w →
      w.setToken.moduleStates s.module.address ≠ .initialized →
        s.world.setToken.moduleStates s.module.address ≠ .initialized)
    (h : s.onWorld result = .ok s') (hs : s.Ordered) : s'.Ordered := by
  simp only [onWorld, Outcome.bind_eq_ok, Outcome.pure_eq_ok] at h
  obtain ⟨w, hw, rfl⟩ := h
  exact ⟨hs.registered, fun hstate ↦ hs.idle (hresult w hw hstate)⟩

theorem claimStep_sameStatus {m : ClaimModule} {claimAdapter : Address → ClaimAdapter} {w w' : World}
    {claim : Address × String} (h : m.claimStep env claimAdapter w claim = .ok w') :
    w.SameStatus w' := by
  simp only [ClaimModule.claimStep, ClaimModule.internalClaim, Outcome.bind_eq_ok,
    Outcome.pure_eq_ok, Prod.exists, Prod.mk.injEq] at h
  obtain ⟨_, _, ⟨_, -, _, -, _, _, _, -, v, hinvoke, _, -, rfl, -⟩, rfl⟩ := h
  exact (World.invoke_steady hinvoke).sameStatus

theorem initializeSetToken_ordered {m : ClaimModule} {w : World} {anyoneClaim : Bool}
    {rewardPools : List Address} {names : List String}
    (h : s.module.initializeSetToken s.world env anyoneClaim rewardPools names = .ok (m, w))
    (hs : s.Ordered) : ClaimState.Ordered ⟨m, w⟩ := by
  simp only [ClaimModule.initializeSetToken, World.onSetToken, SetToken.initializeModule,
    Outcome.bind_eq_ok, Outcome.pure_eq_ok, Prod.mk.injEq] at h
  obtain ⟨_, -, _, -, k, hbatch, _, ⟨_, ⟨_, -, _, -, rfl⟩, rfl⟩, rfl, rfl⟩ := h
  obtain ⟨hregistered, haddress⟩ := ClaimModule.internalBatchAddClaim_registered hbatch hs.registered
  refine ⟨⟨hregistered.pools, hregistered.claims, hregistered.status_iff⟩, ?_⟩
  intro hstate
  exact absurd (Function.update_self _ _ _) hstate

/-- The module leaves nothing behind. -/
theorem removeModule_clean (h : s.perform (.removeModule sender) = .ok s') (hs : s.Ordered) :
    s'.module.Clean := by
  simp only [perform, Outcome.bind_eq_ok, Outcome.pure_eq_ok] at h
  obtain ⟨_, -, w, -, rfl⟩ := h
  exact ClaimModule.removeModule_clean hs.registered

theorem step_ordered (hstep : s.perform action = .ok s') (hs : s.Ordered) : s'.Ordered := by
  cases action with
  | initializeSetToken env anyoneClaim rewardPools names =>
    simp only [perform, Outcome.bind_eq_ok, Outcome.pure_eq_ok, Prod.exists] at hstep
    obtain ⟨m, w, hcall, rfl⟩ := hstep
    exact initializeSetToken_ordered hcall hs
  | addClaim env rewardPool name =>
    apply onModule_ordered ?_ hstep
    intro m hm
    simp only [ClaimModule.addClaim, Outcome.bind_eq_ok] at hm
    obtain ⟨_, hvalid, hadd⟩ := hm
    exact ⟨initialized_of_validateOnlyManagerAndValidSet hvalid,
      ClaimModule.internalAddClaim_registered hadd hs.registered,
      ClaimModule.internalAddClaim_address hadd⟩
  | batchAddClaim env rewardPools names =>
    apply onModule_ordered ?_ hstep
    intro m hm
    simp only [ClaimModule.batchAddClaim, Outcome.bind_eq_ok] at hm
    obtain ⟨_, hvalid, hbatch⟩ := hm
    exact ⟨initialized_of_validateOnlyManagerAndValidSet hvalid,
      ClaimModule.internalBatchAddClaim_registered hbatch hs.registered⟩
  | removeClaim env rewardPool name =>
    apply onModule_ordered ?_ hstep
    intro m hm
    simp only [ClaimModule.removeClaim, Outcome.bind_eq_ok] at hm
    obtain ⟨_, hvalid, hremove⟩ := hm
    exact ⟨initialized_of_validateOnlyManagerAndValidSet hvalid,
      ClaimModule.internalRemoveClaim_registered hremove hs.registered,
      ClaimModule.internalRemoveClaim_address hremove⟩
  | batchRemoveClaim env rewardPools names =>
    apply onModule_ordered ?_ hstep
    intro m hm
    have hregistered := ClaimModule.batchRemoveClaim_registered hm hs.registered
    simp only [ClaimModule.batchRemoveClaim, Outcome.bind_eq_ok] at hm
    obtain ⟨_, hvalid, -⟩ := hm
    exact ⟨initialized_of_validateOnlyManagerAndValidSet hvalid, hregistered⟩
  | updateAnyoneClaim env anyoneClaim =>
    apply onModule_ordered ?_ hstep
    intro m hm
    simp only [ClaimModule.updateAnyoneClaim, Outcome.bind_eq_ok, Outcome.pure_eq_ok] at hm
    obtain ⟨_, hvalid, rfl⟩ := hm
    exact ⟨initialized_of_validateOnlyManagerAndValidSet hvalid,
      ⟨hs.registered.pools, hs.registered.claims, hs.registered.status_iff⟩, rfl⟩
  | claim env claimAdapter rewardPool name =>
    apply onWorld_ordered ?_ hstep hs
    intro w hw
    simp only [ClaimModule.claim, Outcome.bind_eq_ok] at hw
    obtain ⟨_, -, _, -, hclaim⟩ := hw
    rw [(claimStep_sameStatus hclaim).moduleStates]
    exact id
  | batchClaim env claimAdapter rewardPools names =>
    apply onWorld_ordered ?_ hstep hs
    intro w hw
    simp only [ClaimModule.batchClaim, Outcome.bind_eq_ok] at hw
    obtain ⟨_, -, _, -, _, -, hloop⟩ := hw
    have hsame : s.world.SameStatus w :=
      Outcome.foldlM_invariant (fun _ _ _ hclaim hv ↦ hv.trans (claimStep_sameStatus hclaim)) hloop
        (.refl s.world)
    rw [hsame.moduleStates]
    exact id
  | addModule sender module =>
    apply onWorld_ordered ?_ hstep hs
    intro w hw
    simp only [World.onSetToken, Outcome.bind_eq_ok, Outcome.pure_eq_ok] at hw
    obtain ⟨token, htoken, rfl⟩ := hw
    exact mt (SetToken.addModule_initialized_iff htoken s.module.address).mpr
  | removePendingModule sender module =>
    apply onWorld_ordered ?_ hstep hs
    intro w hw
    simp only [World.onSetToken, Outcome.bind_eq_ok, Outcome.pure_eq_ok] at hw
    obtain ⟨token, htoken, rfl⟩ := hw
    exact mt (SetToken.removePendingModule_initialized_iff htoken s.module.address).mpr
  | removeModule sender =>
    have hclean := removeModule_clean hstep hs
    exact ⟨hclean.registered, fun _ ↦ hclean⟩
  | elsewhere next =>
    obtain rfl := Outcome.pure_eq_ok.mp hstep
    refine ⟨hs.registered, ?_⟩
    intro hstate
    apply hs.idle
    simpa [setElsewhere] using hstate

/-! ### Whole runs -/

/-- The registers agree, nothing is registered unless the module is on the Set, and a removal of the
module leaves nothing registered. -/
structure KeepsClaims (s : ClaimState) : Prop where
  registered : s.module.Registered
  idle : s.world.setToken.moduleStates s.module.address ≠ .initialized → s.module.Clean
  removed : ∀ sender t, s.perform (.removeModule sender) = .ok t → t.module.Clean

theorem Ordered.keepsClaims (hs : s.Ordered) : s.KeepsClaims :=
  ⟨hs.registered, hs.idle, fun _ _ h ↦ removeModule_clean h hs⟩

/-- The registers agree in every state of a run that starts from a module without claims. -/
theorem run_keepsClaims {trace : List (ClaimState × ClaimAction)}
    (h : Trace perform s trace s') (hs : s.module.Clean) :
    (∀ entry ∈ trace, entry.1.KeepsClaims) ∧ s'.KeepsClaims := by
  have hordered : s.Ordered := ⟨hs.registered, fun _ ↦ hs⟩
  obtain ⟨hstates, hlast⟩ :=
    h.invariant (I := Ordered) (fun _ _ _ hstep ↦ step_ordered hstep) hordered
  exact ⟨fun entry hentry ↦ (hstates entry hentry).keepsClaims, hlast.keepsClaims⟩

namespace ClaimSample

/-- The manager 2 sends a transaction; the names `old` and `new` stand for the adapters 71 and 72. -/
def managerEnv : Env :=
  { Env.plain 2 0 with integrationAdapter := fun _ name ↦ if name = "old" then 71 else 72 }

/-- By now `old` stands for the adapter 72 as well. -/
def laterEnv : Env := { managerEnv with integrationAdapter := fun _ _ ↦ 72 }

/-- A Set with the claim module 25 pending. -/
def start : ClaimState where
  module := ⟨25, false, [], fun _ ↦ false, fun _ ↦ [], fun _ _ ↦ false⟩
  world := {
    controller := { Controller.enabling 4 [25] with isSet := fun a ↦ a == 6 }
    setToken := SetToken.new 6 [45] [10] [25] 2
    chain := { tokens := fun _ ↦ ERC20.empty 18 }
    log := [] }

/-- A batch that names the pool 81 twice. -/
def initializing : ClaimAction :=
  .initializeSetToken managerEnv true [81, 82, 81] ["old", "old", "new"]

def initialized : ClaimState := (start.perform initializing).getD start

def removing : ClaimAction := .batchRemoveClaim laterEnv [81] ["old"]

def removed : ClaimState := (initialized.perform removing).getD start

def leaving : ClaimAction := .removeModule 2

def left : ClaimState := (removed.perform leaving).getD start

/-- The name `old` removes the adapter that was added as `new`, and the registers still agree. -/
theorem removed_keepsClaims :
    initialized.module.rewardPoolList = [81, 82] ∧ initialized.module.claimSettings 81 = [71, 72] ∧
      removed.module.claimSettings 81 = [71] ∧ removed.KeepsClaims ∧ left.KeepsClaims := by
  have hinitialize : start.perform initializing = .ok initialized :=
    Outcome.eq_ok_getD start (by decide +kernel)
  have hremove : initialized.perform removing = .ok removed :=
    Outcome.eq_ok_getD start (by decide +kernel)
  have hleave : removed.perform leaving = .ok left :=
    Outcome.eq_ok_getD start (by decide +kernel)
  have hclean : start.module.Clean :=
    ⟨rfl, rfl, fun _ ↦ rfl, fun _ ↦ rfl, fun _ _ ↦ rfl⟩
  have hrun : Trace perform start
      [(start, initializing), (initialized, removing), (removed, leaving)] left :=
    .cons hinitialize (.cons hremove (.cons hleave (.nil left)))
  obtain ⟨hstates, hlast⟩ := run_keepsClaims hrun hclean
  refine ⟨by decide +kernel, by decide +kernel, by decide +kernel, ?_, hlast⟩
  exact hstates (removed, leaving) (by simp)

end ClaimSample

end ClaimState

end SetProtocol
