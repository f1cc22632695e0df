import SetProtocol.Foundation.Trace
import SetProtocol.Modules.IssuanceHooks
import SetProtocol.System.Protocol

/-!
# The register of an issuance module

A module that wants to be called before every issue registers with the issuance module, which pushes it
on a list and sets a flag.  The list is overwritten when the issuance module joins the Set and deleted
when it leaves; the flags are not.  They agree all the same, because the issuance module only leaves
with an empty list.
-/

namespace SetProtocol

open ModuleBase

/-! ## Calling the hooks -/

namespace DebtIssuanceModule

variable {m : DebtIssuanceModule} {P Q : Protocol} {env : Env} {quantity : ℕ} {isIssue : Bool}
  {recipient : Address} {hooks : List Address}

/-- The hooks of the listed modules are called, one after the other. -/
def HookCalls (m : DebtIssuanceModule) (env : Env) (quantity : ℕ) (isIssue : Bool) (P : Protocol)
    (hooks : List Address) (Q : Protocol) : Prop :=
  ∃ trace, Trace (fun P hook ↦ P.moduleHook env m.address quantity isIssue hook) P trace Q ∧
    trace.map Prod.snd = hooks

theorem callModulePreHooks_calls (h : m.callModulePreHooks P env quantity isIssue = .ok Q) :
    m.HookCalls env quantity isIssue P m.settings.moduleIssuanceHooks Q := by
  rw [callModulePreHooks_eq] at h
  exact Trace.of_foldlM h

/-- What is left of `issue` and `redeem` after the hooks of the modules. -/
def afterModuleHooks (m : DebtIssuanceModule) (P : Protocol) (env : Env) (quantity : ℕ)
    (recipient : Address) (isIssue : Bool) : Outcome Protocol :=
  if isIssue then do
    let (quantityWithFees, managerFee, protocolFee) ← m.calculateTotalFees P.world quantity true
    let required ← calculateRequiredComponentIssuanceUnits P.world quantityWithFees true
    m.issueRequired P env quantity quantityWithFees managerFee protocolFee recipient required
  else do
    let P ← m.burnQuantity P env quantity
    let (quantityNetFees, managerFee, protocolFee) ← m.calculateTotalFees P.world quantity false
    let required ← calculateRequiredComponentIssuanceUnits P.world quantityNetFees false
    m.redeemRequired P env quantityNetFees managerFee protocolFee recipient required

/-- Every registered module is called once before Sets are issued or redeemed, and no other module. -/
def CallsEachHook (m : DebtIssuanceModule) (isIssue : Bool) (P : Protocol) (env : Env) (quantity : ℕ)
    (recipient : Address) (Q : Protocol) : Prop :=
  ∃ hooks P₁, m.HookCalls env quantity isIssue P hooks P₁ ∧
    (∀ hook, hooks.count hook = if m.settings.isModuleHook hook = true then 1 else 0) ∧
    m.afterModuleHooks P₁ env quantity recipient isIssue = .ok Q

/-- The register is in order. -/
def Registers (m : DebtIssuanceModule) : Prop :=
  Lists m.settings.moduleIssuanceHooks (m.settings.isModuleHook · = true)

theorem Registers.count (h : m.Registers) (hook : Address) :
    m.settings.moduleIssuanceHooks.count hook =
      if m.settings.isModuleHook hook = true then 1 else 0 := by
  split_ifs with hflag
  · exact List.count_eq_one_of_mem h.nodup ((h.mem_iff hook).mpr hflag)
  · exact List.count_eq_zero_of_not_mem (mt (h.mem_iff hook).mp hflag)

theorem Registers.issue (hm : m.Registers) (h : m.issue P env quantity recipient = .ok Q) :
    m.CallsEachHook true P env quantity recipient Q := by
  simp only [DebtIssuanceModule.issue, Outcome.bind_eq_ok] at h
  obtain ⟨_, -, _, -, _, -, P₁, hpre, fees, hfees, required, hrequired, hrest⟩ := h
  refine ⟨m.settings.moduleIssuanceHooks, P₁, callModulePreHooks_calls hpre, hm.count, ?_⟩
  simp only [afterModuleHooks, if_true, Outcome.bind_eq_ok]
  exact ⟨fees, hfees, required, hrequired, hrest⟩

theorem Registers.redeem (hm : m.Registers) (h : m.redeem P env quantity recipient = .ok Q) :
    m.CallsEachHook false P env quantity recipient Q := by
  simp only [DebtIssuanceModule.redeem, Outcome.bind_eq_ok] at h
  obtain ⟨_, -, _, -, P₁, hpre, P₂, hburn, fees, hfees, required, hrequired, hrest⟩ := h
  refine ⟨m.settings.moduleIssuanceHooks, P₁, callModulePreHooks_calls hpre, hm.count, ?_⟩
  simp only [afterModuleHooks, Bool.false_eq_true, if_false, Outcome.bind_eq_ok]
  exact ⟨P₂, hburn, fees, hfees, required, hrequired, hrest⟩

end DebtIssuanceModule

/-! ## Runs -/

/-- An issuance module and the Set. -/
structure IssuerState where
  module : DebtIssuanceModule
  world : World

/-- What modules, the manager and the SetToken do to the register.  In between, everything else of the
Set and its modules changes in any way. -/
inductive IssuerAction where
  | registerToIssuanceModule (sender : Address)
  | unregisterFromIssuanceModule (sender : Address)
  | initializeSetToken (env : Env) (maxManagerFee managerIssueFee managerRedeemFee : ℕ)
      (feeRecipient managerIssuanceHook : Address)
  | addModule (sender module : Address)
  | removePendingModule (sender module : Address)
  /-- Removal of the issuance module by `SetToken.removeModule`. -/
  | removeModule (sender : Address)
  | updateFeeRecipient (env : Env) (newFeeRecipient : Address)
  | updateIssueFee (env : Env) (newIssueFee : ℕ)
  | updateRedeemFee (env : Env) (newRedeemFee : ℕ)
  | elsewhere (next : World)

namespace IssuerState

variable {s s' : IssuerState} {action : IssuerAction} {env : Env}

def onModule (s : IssuerState) (result : Outcome DebtIssuanceModule) : Outcome IssuerState := do
  let m ← result
  pure { s with module := m }

def onSetToken (s : IssuerState) (f : SetToken → Outcome SetToken) : Outcome IssuerState := do
  let w ← s.world.onSetToken f
  pure { s with world := w }

/-- Replace everything but the state in which the SetToken has the issuance module. -/
def setElsewhere (s : IssuerState) (next : World) : IssuerState :=
  let states := Function.update next.setToken.moduleStates s.module.address
    (s.world.setToken.moduleStates s.module.address)
  { s with world := { next with setToken := { next.setToken with moduleStates := states } } }

def perform (s : IssuerState) : IssuerAction → Outcome IssuerState
  | .registerToIssuanceModule sender =>
    s.onModule (s.module.registerToIssuanceModule s.world sender)
  | .unregisterFromIssuanceModule sender =>
    s.onModule (s.module.unregisterFromIssuanceModule s.world sender)
  | .initializeSetToken env maxFee issueFee redeemFee feeRecipient hook => do
    let (m, w) ←
      s.module.initializeSetToken s.world env maxFee issueFee redeemFee feeRecipient hook
    pure ⟨m, w⟩
  | .addModule sender module =>
    s.onSetToken fun token ↦ token.addModule s.world.controller sender module
  | .removePendingModule sender module =>
    s.onSetToken fun token ↦ token.removePendingModule sender module
  | .removeModule sender => do
    s.world.setToken.validateRemoveModule sender s.module.address
    let m ← s.module.removeModule
    let w ← s.world.onSetToken fun token ↦ token.clearModule s.module.address
    pure ⟨m, w⟩
  | .updateFeeRecipient env newFeeRecipient =>
    s.onModule (s.module.updateFeeRecipient s.world env newFeeRecipient)
  | .updateIssueFee env newIssueFee =>
    s.onModule (s.module.updateIssueFee s.world env newIssueFee)
  | .updateRedeemFee env newRedeemFee =>
    s.onModule (s.module.updateRedeemFee s.world env newRedeemFee)
  | .elsewhere next => pure (s.setElsewhere next)

/-- A Set with which the issuance module has never been used. -/
def Unused (s : IssuerState) : Prop := s.module.settings = .empty

/-- What every action keeps: a register is empty while the issuance module is not on the Set. -/
structure Ordered (s : IssuerState) : Prop where
  registers : s.module.Registers
  idle : s.world.setToken.moduleStates s.module.address ≠ .initialized →
    s.module.settings.moduleIssuanceHooks = []

theorem Unused.ordered (h : s.Unused) : s.Ordered := by
  constructor
  · unfold DebtIssuanceModule.Registers
    rw [h]
    exact .nil fun a ↦ Bool.false_ne_true
  · intro _
    rw [h]
    rfl

/-! ### One step -/

/-- A change of the settings that leaves the register alone. -/
theorem onModule_ordered {result : Outcome DebtIssuanceModule}
    (hresult : ∀ m, result = .ok m → m.address = s.module.address ∧
      m.settings.moduleIssuanceHooks = s.module.settings.moduleIssuanceHooks ∧
      m.settings.isModuleHook = s.module.settings.isModuleHook)
    (h : s.onModule result = .ok s') (hs : s.Ordered) : s'.Ordered := by
  simp only [onModule, Outcome.bind_eq_ok, Outcome.pure_eq_ok] at h
  obtain ⟨m, hm, rfl⟩ := h
  obtain ⟨haddress, hhooks, hflags⟩ := hresult m hm
  constructor
  · unfold DebtIssuanceModule.Registers
    rw [hhooks, hflags]
    exact hs.registers
  · dsimp only
    rw [haddress, hhooks]
    exact hs.idle

/-- The SetToken does not initialize the issuance module. -/
theorem onSetToken_ordered {f : SetToken → Outcome SetToken}
    (hf : ∀ token, f s.world.setToken = .ok token →
      token.moduleStates s.module.address ≠ .initialized →
      s.world.setToken.moduleStates s.module.address ≠ .initialized)
    (h : s.onSetToken f = .ok s') (hs : s.Ordered) : s'.Ordered := by
  simp only [onSetToken, World.onSetToken, Outcome.bind_eq_ok, Outcome.pure_eq_ok] at h
  obtain ⟨_, ⟨token, htoken, rfl⟩, rfl⟩ := h
  exact ⟨hs.registers, fun hstate ↦ hs.idle (hf token htoken hstate)⟩

theorem register_ordered {sender : Address} {m : DebtIssuanceModule}
    (h : s.module.registerToIssuanceModule s.world sender = .ok m) (hs : s.Ordered) :
    IssuerState.Ordered ⟨m, s.world⟩ := by
  obtain ⟨-, hissuer, hnew, rfl⟩ := DebtIssuanceModule.registerToIssuanceModule_ok h
  constructor
  · apply hs.registers.concat (ne_true_of_eq_false hnew)
    intro a
    by_cases ha : a = sender <;> simp [DebtIssuanceModule.setHooks, ha]
  · intro hstate
    exact absurd hissuer hstate

theorem unregister_ordered {sender : Address} {m : DebtIssuanceModule}
    (h : s.module.unregisterFromIssuanceModule s.world sender = .ok m) (hs : s.Ordered) :
    IssuerState.Ordered ⟨m, s.world⟩ := by
  obtain ⟨-, hvalid, hregistered, -, rfl⟩ :=
    DebtIssuanceModule.unregisterFromIssuanceModule_eq_ok.mp h
  constructor
  · apply hs.registers.swapRemove hregistered
    intro a
    by_cases ha : a = sender <;> simp [DebtIssuanceModule.setHooks, ha]
  · intro hstate
    exact absurd (isSetValidAndInitialized_eq_true.mp hvalid).2 hstate

/-- The list is emptied while the flags stay.  The module was pending, so none was set. -/
theorem initializeSetToken_ordered {m : DebtIssuanceModule} {w : World}
    {maxFee issueFee redeemFee : ℕ} {feeRecipient hook : Address}
    (h : s.module.initializeSetToken s.world env maxFee issueFee redeemFee feeRecipient hook =
      .ok (m, w)) (hs : s.Ordered) : IssuerState.Ordered ⟨m, w⟩ := by
  simp only [DebtIssuanceModule.initializeSetToken, World.onSetToken, SetToken.initializeModule,
    Outcome.bind_eq_ok, Outcome.require_eq_ok, Outcome.pure_eq_ok, Prod.mk.injEq] at h
  obtain ⟨_, -, _, -, _, -, _, -, _, ⟨_, ⟨_, -, _, hpending, rfl⟩, rfl⟩, rfl, rfl⟩ := h
  have hnone : s.module.settings.moduleIssuanceHooks = [] := by
    apply hs.idle
    rw [hpending]
    exact ModuleState.noConfusion
  constructor
  · have hregisters := hs.registers
    unfold DebtIssuanceModule.Registers at hregisters ⊢
    rw [hnone] at hregisters
    exact hregisters
  · intro hstate
    exact absurd (Function.update_self _ _ _) hstate

/-- The issuance module leaves with an empty register, whose flags are all cleared. -/
theorem removeModule_ordered {m : DebtIssuanceModule} {w : World}
    (h : s.module.removeModule = .ok m) (hs : s.Ordered) : IssuerState.Ordered ⟨m, w⟩ := by
  simp only [DebtIssuanceModule.removeModule, Outcome.bind_eq_ok, Outcome.require_eq_ok,
    Outcome.pure_eq_ok] at h
  obtain ⟨_, hlength, rfl⟩ := h
  have hregisters := hs.registers
  unfold DebtIssuanceModule.Registers at hregisters
  rw [List.length_eq_zero_iff.mp hlength] at hregisters
  exact ⟨hregisters, fun _ ↦ rfl⟩

theorem step_ordered (hstep : s.perform action = .ok s') (hs : s.Ordered) : s'.Ordered := by
  cases action with
  | registerToIssuanceModule sender =>
    simp only [perform, onModule, Outcome.bind_eq_ok, Outcome.pure_eq_ok] at hstep
    obtain ⟨m, hm, rfl⟩ := hstep
    exact register_ordered hm hs
  | unregisterFromIssuanceModule sender =>
    simp only [perform, onModule, Outcome.bind_eq_ok, Outcome.pure_eq_ok] at hstep
    obtain ⟨m, hm, rfl⟩ := hstep
    exact unregister_ordered hm hs
  | initializeSetToken env maxFee issueFee redeemFee feeRecipient hook =>
    simp only [perform, Outcome.bind_eq_ok, Outcome.pure_eq_ok, Prod.exists] at hstep
    obtain ⟨m, w, hcall, rfl⟩ := hstep
    exact initializeSetToken_ordered hcall hs
  | addModule sender module =>
    apply onSetToken_ordered ?_ hstep hs
    intro token htoken
    exact mt (SetToken.addModule_initialized_iff htoken s.module.address).mpr
  | removePendingModule sender module =>
    apply onSetToken_ordered ?_ hstep hs
    intro token htoken
    exact mt (SetToken.removePendingModule_initialized_iff htoken s.module.address).mpr
  | removeModule sender =>
    simp only [perform, Outcome.bind_eq_ok, Outcome.pure_eq_ok] at hstep
    obtain ⟨_, -, m, hm, w, -, rfl⟩ := hstep
    exact removeModule_ordered hm hs
  | updateFeeRecipient env newFeeRecipient =>
    refine onModule_ordered ?_ hstep hs
    intro m hm
    simp only [DebtIssuanceModule.updateFeeRecipient, Outcome.bind_eq_ok, Outcome.pure_eq_ok] at hm
    obtain ⟨_, -, _, -, _, -, rfl⟩ := hm
    exact ⟨rfl, rfl, rfl⟩
  | updateIssueFee env newIssueFee =>
    refine onModule_ordered ?_ hstep hs
    intro m hm
    simp only [DebtIssuanceModule.updateIssueFee, Outcome.bind_eq_ok, Outcome.pure_eq_ok] at hm
    obtain ⟨_, -, _, -, _, -, rfl⟩ := hm
    exact ⟨rfl, rfl, rfl⟩
  | updateRedeemFee env newRedeemFee =>
    refine onModule_ordered ?_ hstep hs
    intro m hm
    simp only [DebtIssuanceModule.updateRedeemFee, Outcome.bind_eq_ok, Outcome.pure_eq_ok] at hm
    obtain ⟨_, -, _, -, _, -, rfl⟩ := hm
    exact ⟨rfl, rfl, rfl⟩
  | elsewhere next =>
    obtain rfl := Outcome.pure_eq_ok.mp hstep
    refine ⟨hs.registers, ?_⟩
    intro hstate
    apply hs.idle
    simpa [setElsewhere] using hstate

/-! ### Whole runs -/

/-- The register is in order, and issuing and redeeming call each registered module once. -/
structure CallsHooks (s : IssuerState) : Prop where
  registers : s.module.Registers
  issue : ∀ P env quantity recipient Q, s.module.issue P env quantity recipient = .ok Q →
    s.module.CallsEachHook true P env quantity recipient Q
  redeem : ∀ P env quantity recipient Q, s.module.redeem P env quantity recipient = .ok Q →
    s.module.CallsEachHook false P env quantity recipient Q

theorem Ordered.callsHooks (hs : s.Ordered) : s.CallsHooks :=
  ⟨hs.registers, fun _ _ _ _ _ ↦ hs.registers.issue, fun _ _ _ _ _ ↦ hs.registers.redeem⟩

/-- In every state of a run, list and flags of the register agree and each registered module is called
once. -/
theorem run_callsHooks {trace : List (IssuerState × IssuerAction)}
    (h : Trace perform s trace s') (hs : s.Unused) :
    (∀ entry ∈ trace, entry.1.CallsHooks) ∧ s'.CallsHooks := by
  obtain ⟨hstates, hlast⟩ :=
    h.invariant (I := Ordered) (fun _ _ _ hstep ↦ step_ordered hstep) hs.ordered
  exact ⟨fun entry hentry ↦ (hstates entry hentry).callsHooks, hlast.callsHooks⟩

namespace RegisterSample

/-- The manager 2 sends a transaction. -/
def managerEnv : Env := Env.plain 2 0

/-- A Set with the issuance module 20 pending and the module 33 initialized. -/
def start : IssuerState :=
  let created := SetToken.new 6 [45] [10] [20, 33] 2
  { module := ⟨20, .empty⟩
    world := {
      controller := { Controller.enabling 4 [20, 33] with isSet := fun a ↦ a == 6 }
      setToken := (created.initializeModule 33).getD created
      chain := { tokens := fun _ ↦ ERC20.empty 18 }
      log := [] } }

def initializing : IssuerAction := .initializeSetToken managerEnv 0 0 0 9 0

def initialized : IssuerState := (start.perform initializing).getD start

def registered : IssuerState := (initialized.perform (.registerToIssuanceModule 33)).getD start

def unregistered : IssuerState := (registered.perform (.unregisterFromIssuanceModule 33)).getD start

def removed : IssuerState := (unregistered.perform (.removeModule 2)).getD start

def pending : IssuerState := (removed.perform (.addModule 2 20)).getD start

def again : IssuerState := (pending.perform initializing).getD start

/-- A module registers and unregisters, and the issuance module leaves the Set and joins it again. -/
theorem again_callsHooks :
    registered.module.settings.moduleIssuanceHooks = [33] ∧ registered.CallsHooks ∧
      again.CallsHooks := by
  have hinitialize : start.perform initializing = .ok initialized :=
    Outcome.eq_ok_getD start (by decide +kernel)
  have hregister : initialized.perform (.registerToIssuanceModule 33) = .ok registered :=
    Outcome.eq_ok_getD start (by decide +kernel)
  have hunregister : registered.perform (.unregisterFromIssuanceModule 33) = .ok unregistered :=
    Outcome.eq_ok_getD start (by decide +kernel)
  have hremove : unregistered.perform (.removeModule 2) = .ok removed :=
    Outcome.eq_ok_getD start (by decide +kernel)
  have hadd : removed.perform (.addModule 2 20) = .ok pending :=
    Outcome.eq_ok_getD start (by decide +kernel)
  have hagain : pending.perform initializing = .ok again :=
    Outcome.eq_ok_getD start (by decide +kernel)
  have hrun : Trace perform start [(start, initializing),
      (initialized, .registerToIssuanceModule 33), (registered, .unregisterFromIssuanceModule 33),
      (unregistered, .removeModule 2), (removed, .addModule 2 20), (pending, initializing)] again :=
    .cons hinitialize (.cons hregister (.cons hunregister (.cons hremove (.cons hadd
      (.cons hagain (.nil again))))))
  obtain ⟨hstates, hlast⟩ := run_callsHooks hrun rfl
  refine ⟨by decide +kernel, ?_, hlast⟩
  exact hstates (registered, .unregisterFromIssuanceModule 33) (by simp)

end RegisterSample

end IssuerState

end SetProtocol
