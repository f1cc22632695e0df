import SetProtocol.Core.SetTokenLemmas
import SetProtocol.Foundation.Registry

/-!
# The modules and the lock of the SetToken

All functions of the SetToken that change its state, called by any account in any order.  The list of
modules agrees with the states of the modules, and the lock is held by an initialized module.  While
the token is locked, accounts other than the locker can only move Sets between holders and propose
modules.
-/

namespace SetProtocol.SetToken

/-- The functions of the SetToken.  `invoke` and `removeModule` call other contracts; `callee` is what
these do to the SetToken before they return. -/
inductive Function where
  | invoke (callee : SetToken → Outcome SetToken)
  | addComponent (component : Address)
  | removeComponent (component : Address)
  | editDefaultPositionUnit (component : Address) (realUnit : ℤ)
  | addExternalPositionModule (component positionModule : Address)
  | removeExternalPositionModule (component positionModule : Address)
  | editExternalPositionUnit (component positionModule : Address) (realUnit : ℤ)
  | editExternalPositionData (component positionModule : Address) (data : List UInt8)
  | editPositionMultiplier (newMultiplier : ℤ)
  | mint (account : Address) (quantity : ℕ)
  | burn (account : Address) (quantity : ℕ)
  | lock
  | unlock
  | addModule (module : Address)
  | removeModule (module : Address) (callee : SetToken → Outcome SetToken)
  | removePendingModule (module : Address)
  | initializeModule
  | setManager (manager : Address)
  | transfer (recipient : Address) (amount : ℕ)
  | approve (spender : Address) (amount : ℕ)
  | transferFrom (owner recipient : Address) (amount : ℕ)
  | increaseAllowance (spender : Address) (addedValue : ℕ)
  | decreaseAllowance (spender : Address) (subtractedValue : ℕ)
  /-- A payment of ether, which the SetToken does not record. -/
  | receive (value : ℕ)

/-- A transaction: nobody can send one from the address zero. -/
structure Message where
  controller : Controller
  sender : Address
  sender_ne_zero : sender ≠ 0
  function : Function

/-- Run a function of the inherited token. -/
def onErc20 (s : SetToken) (result : Outcome ERC20) : Outcome SetToken := do
  let t ← result
  pure (s.setErc20 t)

def removeModule (s : SetToken) (sender module : Address)
    (callee : SetToken → Outcome SetToken) : Outcome SetToken := do
  s.validateRemoveModule sender module
  let s ← callee s
  s.clearModule module

def receiveMessage (s : SetToken) (message : Message) : Outcome SetToken :=
  let sender := message.sender
  let controller := message.controller
  match message.function with
  | .invoke callee => do
    s.onlyModuleWhenLockedOnlyLocker controller sender
    callee s
  | .addComponent component => s.addComponent controller sender component
  | .removeComponent component => s.removeComponent controller sender component
  | .editDefaultPositionUnit component realUnit =>
    s.editDefaultPositionUnit controller sender component realUnit
  | .addExternalPositionModule component positionModule =>
    s.addExternalPositionModule controller sender component positionModule
  | .removeExternalPositionModule component positionModule =>
    s.removeExternalPositionModule controller sender component positionModule
  | .editExternalPositionUnit component positionModule realUnit =>
    s.editExternalPositionUnit controller sender component positionModule realUnit
  | .editExternalPositionData component positionModule data =>
    s.editExternalPositionData controller sender component positionModule data
  | .editPositionMultiplier newMultiplier =>
    s.editPositionMultiplier controller sender newMultiplier
  | .mint account quantity => s.mint controller sender account quantity
  | .burn account quantity => s.burn controller sender account quantity
  | .lock => s.lock controller sender
  | .unlock => s.unlock controller sender
  | .addModule module => s.addModule controller sender module
  | .removeModule module callee => s.removeModule sender module callee
  | .removePendingModule module => s.removePendingModule sender module
  | .initializeModule => s.initializeModule sender
  | .setManager manager => s.setManager sender manager
  | .transfer recipient amount => s.onErc20 (s.erc20.transfer sender recipient amount)
  | .approve spender amount => s.onErc20 (s.erc20.approve sender spender amount)
  | .transferFrom owner recipient amount =>
    s.onErc20 (s.erc20.transferFrom sender owner recipient amount)
  | .increaseAllowance spender addedValue =>
    s.onErc20 (s.erc20.increaseAllowance sender spender addedValue)
  | .decreaseAllowance spender subtractedValue =>
    s.onErc20 (s.erc20.decreaseAllowance sender spender subtractedValue)
  | .receive _ => pure s

/-- The contracts that a function calls do not call the SetToken back. -/
def Function.NoReentry : Function → Prop
  | .invoke callee => ∀ s s', callee s = .ok s' → s' = s
  | .removeModule _ callee => ∀ s s', callee s = .ok s' → s' = s
  | _ => True

/-! ## The modules and their states -/

variable {s s' : SetToken} {message : Message}

structure RegistryInvariant (s : SetToken) : Prop where
  modules : Lists s.modules (s.moduleStates · = .initialized)
  isLocked_iff : s.isLocked = true ↔ s.locker ≠ 0
  locker_initialized : s.isLocked = true → s.moduleStates s.locker = .initialized

namespace RegistryInvariant

/-- Only the modules, their states and the lock matter. -/
theorem of_same (h : s.RegistryInvariant) (hmodules : s'.modules = s.modules)
    (hstates : s'.moduleStates = s.moduleStates) (hlocker : s'.locker = s.locker)
    (hlocked : s'.isLocked = s.isLocked) : s'.RegistryInvariant := by
  constructor
  · rw [hmodules, hstates]
    exact h.modules
  · rw [hlocker, hlocked]
    exact h.isLocked_iff
  · rw [hlocker, hlocked, hstates]
    exact h.locker_initialized

theorem of_sameFrame (h : s.RegistryInvariant) (hframe : s.SameFrame s') :
    s'.RegistryInvariant :=
  h.of_same hframe.modules hframe.moduleStates hframe.locker hframe.isLocked

theorem onErc20 {result : Outcome ERC20} (h : s.RegistryInvariant)
    (hcall : s.onErc20 result = .ok s') : s'.RegistryInvariant := by
  simp only [SetToken.onErc20, Outcome.bind_eq_ok, Outcome.pure_eq_ok] at hcall
  obtain ⟨t, -, rfl⟩ := hcall
  exact h.of_same rfl rfl rfl rfl

theorem addModule {controller : Controller} {sender module : Address} (h : s.RegistryInvariant)
    (hcall : s.addModule controller sender module = .ok s') : s'.RegistryInvariant := by
  simp only [SetToken.addModule, Outcome.bind_eq_ok, Outcome.require_eq_ok,
    Outcome.pure_eq_ok] at hcall
  obtain ⟨_, -, _, hnone, _, -, rfl⟩ := hcall
  refine ⟨h.modules.congr fun a ↦ ?_, h.isLocked_iff, fun hlocked ↦ ?_⟩
  · by_cases ha : a = module <;> simp [ha, hnone]
  · have hlocker := h.locker_initialized hlocked
    have hne : s.locker ≠ module := by
      intro heq
      rw [heq, hnone] at hlocker
      cases hlocker
    simpa [hne] using hlocker

theorem clearModule {module : Address} (h : s.RegistryInvariant) (hunlocked : s.isLocked = false)
    (hinit : s.moduleStates module = .initialized)
    (hcall : s.clearModule module = .ok s') : s'.RegistryInvariant := by
  simp only [SetToken.clearModule, Outcome.bind_eq_ok, AddressArrayUtils.removeStorage_eq_ok,
    Outcome.pure_eq_ok] at hcall
  obtain ⟨_, ⟨-, rfl⟩, rfl⟩ := hcall
  refine ⟨h.modules.swapRemove hinit fun a ↦ ?_, h.isLocked_iff, fun hlocked ↦ ?_⟩
  · by_cases ha : a = module <;> simp [ha]
  · exact absurd hlocked (by simp [hunlocked])

theorem removePendingModule {sender module : Address} (h : s.RegistryInvariant)
    (hcall : s.removePendingModule sender module = .ok s') : s'.RegistryInvariant := by
  simp only [SetToken.removePendingModule, Outcome.bind_eq_ok, Outcome.require_eq_ok,
    Outcome.pure_eq_ok] at hcall
  obtain ⟨_, -, _, hunlocked, _, hpending, rfl⟩ := hcall
  refine ⟨h.modules.congr fun a ↦ ?_, h.isLocked_iff, fun hlocked ↦ ?_⟩
  · by_cases ha : a = module <;> simp [ha, hpending]
  · exact absurd hlocked (by simp [hunlocked])

theorem initializeModule {sender : Address} (h : s.RegistryInvariant)
    (hcall : s.initializeModule sender = .ok s') : s'.RegistryInvariant := by
  simp only [SetToken.initializeModule, Outcome.bind_eq_ok, Outcome.require_eq_ok,
    Outcome.pure_eq_ok] at hcall
  obtain ⟨_, hunlocked, _, hpending, rfl⟩ := hcall
  refine ⟨h.modules.concat (a := sender) (by simp [hpending]) fun a ↦ ?_, h.isLocked_iff,
    fun hlocked ↦ ?_⟩
  · by_cases ha : a = sender <;> simp [ha]
  · exact absurd hlocked (by simp [hunlocked])

/-- Locking records an account that can send messages, and so a non-zero one. -/
theorem lock {controller : Controller} {sender : Address} (h : s.RegistryInvariant)
    (hsender : sender ≠ 0) (hcall : s.lock controller sender = .ok s') : s'.RegistryInvariant := by
  simp only [SetToken.lock, Outcome.bind_eq_ok, validateOnlyModule_eq_ok,
    Outcome.pure_eq_ok] at hcall
  obtain ⟨_, ⟨hinit, -⟩, _, -, rfl⟩ := hcall
  exact ⟨h.modules, by simpa using hsender, fun _ ↦ hinit⟩

theorem unlock {controller : Controller} {sender : Address} (h : s.RegistryInvariant)
    (hcall : s.unlock controller sender = .ok s') : s'.RegistryInvariant := by
  simp only [SetToken.unlock, Outcome.bind_eq_ok, Outcome.pure_eq_ok] at hcall
  obtain ⟨_, -, _, -, _, -, rfl⟩ := hcall
  exact ⟨h.modules, by simp, by simp⟩

theorem receiveMessage (h : s.RegistryInvariant) (hreentry : message.function.NoReentry)
    (hcall : s.receiveMessage message = .ok s') : s'.RegistryInvariant := by
  obtain ⟨controller, sender, hsender, function⟩ := message
  cases function with
  | invoke callee =>
    simp only [SetToken.receiveMessage, Outcome.bind_eq_ok] at hcall
    obtain ⟨_, -, hcallee⟩ := hcall
    exact hreentry s s' hcallee ▸ h
  | addComponent component =>
    obtain ⟨-, -, rfl⟩ := addComponent_eq_ok.mp hcall
    exact h.of_sameFrame (s.sameFrame_setComponents _)
  | removeComponent component =>
    obtain ⟨-, -, rfl⟩ := removeComponent_eq_ok.mp hcall
    exact h.of_sameFrame (s.sameFrame_setComponents _)
  | editDefaultPositionUnit component realUnit =>
    obtain ⟨-, v, -, rfl⟩ := editDefaultPositionUnit_eq_ok.mp hcall
    exact h.of_sameFrame (s.sameFrame_setDefaultUnit component v)
  | addExternalPositionModule component positionModule =>
    obtain ⟨-, -, rfl⟩ := addExternalPositionModule_eq_ok.mp hcall
    exact h.of_sameFrame (s.sameFrame_setExternalModules component _)
  | removeExternalPositionModule component positionModule =>
    obtain ⟨-, -, rfl⟩ := removeExternalPositionModule_eq_ok.mp hcall
    exact h.of_sameFrame ((s.sameFrame_setExternalModules component _).trans
      (sameFrame_setExternalPosition ..))
  | editExternalPositionUnit component positionModule realUnit =>
    obtain ⟨-, v, -, rfl⟩ := editExternalPositionUnit_eq_ok.mp hcall
    exact h.of_sameFrame (s.sameFrame_setExternalPosition component positionModule _)
  | editExternalPositionData component positionModule data =>
    obtain ⟨-, rfl⟩ := editExternalPositionData_eq_ok.mp hcall
    exact h.of_sameFrame (s.sameFrame_setExternalPosition component positionModule _)
  | editPositionMultiplier newMultiplier =>
    obtain ⟨-, -, rfl⟩ := editPositionMultiplier_eq_ok.mp hcall
    exact h.of_same rfl rfl rfl rfl
  | mint account quantity =>
    obtain ⟨-, t, -, rfl⟩ := mint_eq_ok.mp hcall
    exact h.of_same rfl rfl rfl rfl
  | burn account quantity =>
    obtain ⟨-, t, -, rfl⟩ := burn_eq_ok.mp hcall
    exact h.of_same rfl rfl rfl rfl
  | lock => exact h.lock hsender hcall
  | unlock => exact h.unlock hcall
  | addModule module => exact h.addModule hcall
  | removeModule module callee =>
    simp only [SetToken.receiveMessage, SetToken.removeModule, validateRemoveModule,
      Outcome.bind_eq_ok, Outcome.require_eq_ok] at hcall
    obtain ⟨_, ⟨_, -, _, hunlocked, hinit⟩, t, hcallee, hclear⟩ := hcall
    obtain rfl := hreentry s t hcallee
    exact h.clearModule hunlocked hinit hclear
  | removePendingModule module => exact h.removePendingModule hcall
  | initializeModule => exact h.initializeModule hcall
  | setManager manager =>
    simp only [SetToken.receiveMessage, SetToken.setManager, Outcome.bind_eq_ok,
      Outcome.pure_eq_ok] at hcall
    obtain ⟨_, -, _, -, rfl⟩ := hcall
    exact h.of_same rfl rfl rfl rfl
  | transfer recipient amount => exact h.onErc20 hcall
  | approve spender amount => exact h.onErc20 hcall
  | transferFrom owner recipient amount => exact h.onErc20 hcall
  | increaseAllowance spender addedValue => exact h.onErc20 hcall
  | decreaseAllowance spender subtractedValue => exact h.onErc20 hcall
  | receive value =>
    obtain rfl := Outcome.pure_eq_ok.mp hcall
    exact h

end RegistryInvariant

/-- The constructor leaves modules pending. -/
theorem foldl_pending_ne_initialized (modules : List Address) {states : Address → ModuleState}
    (h : ∀ a, states a ≠ .initialized) (a : Address) :
    modules.foldl (fun states module ↦ Function.update states module .pending) states a ≠
      .initialized := by
  induction modules generalizing states with
  | nil => exact h a
  | cons module modules ih =>
    apply ih
    intro b
    by_cases hb : b = module <;> simp [hb, h]

theorem new_registryInvariant (address : Address) (components : List Address) (units : List ℤ)
    (modules : List Address) (manager : Address) :
    (new address components units modules manager).RegistryInvariant := by
  refine ⟨.nil ?_, by simp [new], by simp [new]⟩
  exact foldl_pending_ne_initialized modules fun _ ↦ ModuleState.noConfusion

/-- The modules and the lock are consistent after every sequence of messages to a new SetToken. -/
theorem registryInvariant_of_run {address manager : Address} {components modules : List Address}
    {units : List ℤ} {messages : List Message}
    (hreentry : ∀ message ∈ messages, message.function.NoReentry)
    (hrun : messages.foldlM receiveMessage (new address components units modules manager) =
      .ok s) :
    s.RegistryInvariant :=
  Outcome.foldlM_invariant_of_mem
    (fun _ message hmem _ hcall hs ↦ hs.receiveMessage (hreentry message hmem) hcall) hrun
    (new_registryInvariant address components units modules manager)

/-- A message to a Set whose Controller enables modules 5 and 6. -/
def sampleMessage (sender : Address) (hsender : sender ≠ 0) (function : Function) : Message :=
  ⟨Controller.enabling 4 [5, 6], sender, hsender, function⟩

/-- Manager 2 adds module 6 and removes module 5, which was given twice to the constructor, and
module 6 locks the token. -/
def sampleMessages : List Message :=
  [sampleMessage 5 (by decide) .initializeModule,
    sampleMessage 2 (by decide) (.addModule 6),
    sampleMessage 6 (by decide) .initializeModule,
    sampleMessage 2 (by decide) (.removeModule 5 pure),
    sampleMessage 6 (by decide) .lock]

theorem sampleMessages_registryInvariant :
    ((sampleMessages.foldlM receiveMessage (new 9 [7] [100] [5, 5] 2)).getD
        (new 9 [] [] [] 0)).modules = [6] ∧
      ((sampleMessages.foldlM receiveMessage (new 9 [7] [100] [5, 5] 2)).getD
        (new 9 [] [] [] 0)).RegistryInvariant := by
  refine ⟨by decide +kernel, ?_⟩
  have hreentry : ∀ message ∈ sampleMessages, message.function.NoReentry := by
    simp [sampleMessages, sampleMessage, Function.NoReentry]
  exact registryInvariant_of_run hreentry (Outcome.eq_ok_getD _ (by decide +kernel))

/-! ## While the token is locked -/

/-- What stays as it is while the token is locked and the locker does nothing. -/
structure LockFrame (s s' : SetToken) : Prop where
  address : s'.address = s.address
  components : s'.components = s.components
  componentPositions : s'.componentPositions = s.componentPositions
  positionMultiplier : s'.positionMultiplier = s.positionMultiplier
  totalSupply : s'.totalSupply = s.totalSupply
  modules : s'.modules = s.modules
  manager : s'.manager = s.manager
  locker : s'.locker = s.locker
  isLocked : s'.isLocked = s.isLocked
  moduleStates : ∀ a, s'.moduleStates a = s.moduleStates a ∨
    (s.moduleStates a = .none ∧ s'.moduleStates a = .pending)

theorem LockFrame.refl (s : SetToken) : s.LockFrame s :=
  ⟨rfl, rfl, rfl, rfl, rfl, rfl, rfl, rfl, rfl, fun _ ↦ Or.inl rfl⟩

theorem LockFrame.trans {s₁ s₂ s₃ : SetToken} (h : s₁.LockFrame s₂) (h' : s₂.LockFrame s₃) :
    s₁.LockFrame s₃ where
  address := h'.address.trans h.address
  components := h'.components.trans h.components
  componentPositions := h'.componentPositions.trans h.componentPositions
  positionMultiplier := h'.positionMultiplier.trans h.positionMultiplier
  totalSupply := h'.totalSupply.trans h.totalSupply
  modules := h'.modules.trans h.modules
  manager := h'.manager.trans h.manager
  locker := h'.locker.trans h.locker
  isLocked := h'.isLocked.trans h.isLocked
  moduleStates := by
    intro a
    rcases h.moduleStates a with hsame | ⟨hnone, hpending⟩
    · rw [← hsame]
      exact h'.moduleStates a
    · rcases h'.moduleStates a with hsame' | ⟨hnone', -⟩
      · exact Or.inr ⟨hnone, hsame'.trans hpending⟩
      · rw [hpending] at hnone'
        cases hnone'

theorem not_authorized_of_locked {controller : Controller} {sender : Address}
    (hlocked : s.isLocked = true) (hsender : sender ≠ s.locker) :
    ¬ s.Authorized controller sender :=
  fun h ↦ hsender (h.locker hlocked)

theorem lockFrame_onErc20 {result : Outcome ERC20}
    (hsupply : ∀ t, result = .ok t → t.totalSupply = s.totalSupply)
    (hcall : s.onErc20 result = .ok s') : s.LockFrame s' := by
  simp only [onErc20, Outcome.bind_eq_ok, Outcome.pure_eq_ok] at hcall
  obtain ⟨t, ht, rfl⟩ := hcall
  exact ⟨rfl, rfl, rfl, rfl, hsupply t ht, rfl, rfl, rfl, rfl, fun _ ↦ Or.inl rfl⟩

theorem lockFrame_addModule {controller : Controller} {sender module : Address}
    (hcall : s.addModule controller sender module = .ok s') : s.LockFrame s' := by
  simp only [addModule, Outcome.bind_eq_ok, Outcome.require_eq_ok, Outcome.pure_eq_ok] at hcall
  obtain ⟨_, -, _, hnone, _, -, rfl⟩ := hcall
  refine ⟨rfl, rfl, rfl, rfl, rfl, rfl, rfl, rfl, rfl, ?_⟩
  intro a
  by_cases ha : a = module
  · exact Or.inr (by simp [ha, hnone])
  · exact Or.inl (by simp [ha])

/-- A message by an account other than the locker, to a locked token. -/
theorem lockFrame_receiveMessage (hlocked : s.isLocked = true)
    (hsender : message.sender ≠ s.locker) (hcall : s.receiveMessage message = .ok s') :
    s.LockFrame s' := by
  obtain ⟨controller, sender, hzero, function⟩ := message
  have hnot : ¬ s.Authorized controller sender := not_authorized_of_locked hlocked hsender
  cases function with
  | invoke callee =>
    simp only [receiveMessage, Outcome.bind_eq_ok, onlyModuleWhenLockedOnlyLocker_eq_ok] at hcall
    obtain ⟨_, hauth, -⟩ := hcall
    exact absurd hauth hnot
  | addComponent component => exact absurd (addComponent_eq_ok.mp hcall).1 hnot
  | removeComponent component => exact absurd (removeComponent_eq_ok.mp hcall).1 hnot
  | editDefaultPositionUnit component realUnit =>
    exact absurd (editDefaultPositionUnit_eq_ok.mp hcall).1 hnot
  | addExternalPositionModule component positionModule =>
    exact absurd (addExternalPositionModule_eq_ok.mp hcall).1 hnot
  | removeExternalPositionModule component positionModule =>
    exact absurd (removeExternalPositionModule_eq_ok.mp hcall).1 hnot
  | editExternalPositionUnit component positionModule realUnit =>
    exact absurd (editExternalPositionUnit_eq_ok.mp hcall).1 hnot
  | editExternalPositionData component positionModule data =>
    exact absurd (editExternalPositionData_eq_ok.mp hcall).1 hnot
  | editPositionMultiplier newMultiplier =>
    exact absurd (editPositionMultiplier_eq_ok.mp hcall).1 hnot
  | mint account quantity => exact absurd (mint_eq_ok.mp hcall).1 hnot
  | burn account quantity => exact absurd (burn_eq_ok.mp hcall).1 hnot
  | lock =>
    simp [receiveMessage, lock, hlocked] at hcall
  | unlock =>
    simp only [receiveMessage, unlock, Outcome.bind_eq_ok, Outcome.require_eq_ok] at hcall
    obtain ⟨_, -, _, -, _, hlocker, -⟩ := hcall
    exact absurd hlocker.symm hsender
  | addModule module => exact lockFrame_addModule hcall
  | removeModule module callee =>
    simp [receiveMessage, removeModule, validateRemoveModule, hlocked] at hcall
  | removePendingModule module =>
    simp [receiveMessage, removePendingModule, hlocked] at hcall
  | initializeModule =>
    simp [receiveMessage, initializeModule, hlocked] at hcall
  | setManager manager =>
    simp [receiveMessage, setManager, hlocked] at hcall
  | transfer recipient amount =>
    exact lockFrame_onErc20 (fun t ht ↦ (ERC20.transfer_ok ht).1) hcall
  | approve spender amount =>
    exact lockFrame_onErc20 (fun t ht ↦ (ERC20.approve_ok ht).1) hcall
  | transferFrom owner recipient amount =>
    refine lockFrame_onErc20 (fun t ht ↦ ?_) hcall
    obtain ⟨moved, hmoved, hsupply, -⟩ := ERC20.transferFrom_ok ht
    exact hsupply.trans (ERC20.transfer_ok hmoved).1
  | increaseAllowance spender addedValue =>
    refine lockFrame_onErc20 (fun t ht ↦ ?_) hcall
    simp only [ERC20.increaseAllowance, Outcome.bind_eq_ok] at ht
    obtain ⟨_, -, happrove⟩ := ht
    exact (ERC20.approve_ok happrove).1
  | decreaseAllowance spender subtractedValue =>
    refine lockFrame_onErc20 (fun t ht ↦ ?_) hcall
    simp only [ERC20.decreaseAllowance, Outcome.bind_eq_ok] at ht
    obtain ⟨_, -, happrove⟩ := ht
    exact (ERC20.approve_ok happrove).1
  | receive value =>
    obtain rfl := Outcome.pure_eq_ok.mp hcall
    exact .refl s

/-- Messages by accounts other than the locker leave a locked token as it is, up to the balances and
allowances of holders and new pending modules. -/
theorem lockFrame_of_run {messages : List Message} (hlocked : s.isLocked = true)
    (hsenders : ∀ message ∈ messages, message.sender ≠ s.locker)
    (hrun : messages.foldlM receiveMessage s = .ok s') : s.LockFrame s' := by
  apply Outcome.foldlM_invariant_of_mem (P := fun t ↦ s.LockFrame t) _ hrun (.refl s)
  intro t message hmem t' hcall hframe
  have hlocked' : t.isLocked = true := hframe.isLocked.trans hlocked
  have hsender : message.sender ≠ t.locker := by
    rw [hframe.locker]
    exact hsenders message hmem
  exact hframe.trans (lockFrame_receiveMessage hlocked' hsender hcall)

/-- The token of the sample, locked by module 6. -/
def lockedSample : SetToken :=
  (sampleMessages.foldlM receiveMessage (new 9 [7] [100] [5, 5] 2)).getD (new 9 [] [] [] 0)

/-- The manager adds module 5 again and holder 11 approves account 12. -/
def lockedMessages : List Message :=
  [sampleMessage 2 (by decide) (.addModule 5), sampleMessage 11 (by decide) (.approve 12 40)]

theorem lockedMessages_lockFrame :
    lockedSample.isLocked = true ∧
      ((lockedMessages.foldlM receiveMessage lockedSample).getD (new 9 [] [] [] 0)).moduleStates 5 =
        .pending ∧
      lockedSample.LockFrame
        ((lockedMessages.foldlM receiveMessage lockedSample).getD (new 9 [] [] [] 0)) := by
  have hlocked : lockedSample.isLocked = true := by decide +kernel
  have hlocker : lockedSample.locker = 6 := by decide +kernel
  have hsenders : ∀ message ∈ lockedMessages, message.sender ≠ lockedSample.locker := by
    rw [hlocker]
    simp [lockedMessages, sampleMessage]
  exact ⟨hlocked, by decide +kernel,
    lockFrame_of_run hlocked hsenders (Outcome.eq_ok_getD _ (by decide +kernel))⟩

end SetProtocol.SetToken
