import SetProtocol.Foundation.Trace
import SetProtocol.Modules.IssuanceHooks
import SetProtocol.System.Protocol

/-!
# Who is called before an issue

Governance enables and disables modules on the Controller, the manager adds and removes modules on the
SetToken, and modules register hooks with the issuance modules.  The hooks of an initialized issuance
module are initialized modules themselves, in every state that is reached, as long as no registered
module is removed from the Set while it is disabled on the Controller.
-/

namespace SetProtocol

open ModuleBase DebtIssuanceModule

/-! ## Runs -/

/-- The modules that register hooks. -/
inductive Leverage where
  | aave
  | compound
  | perp

/-- What governance, the manager and the modules do to the registries.  In between, everything else of
the Set and of the modules changes in any way. -/
inductive RegistryAction where
  | controllerAddModule (sender module : Address)
  | controllerRemoveModule (sender module : Address)
  | addModule (sender module : Address)
  | removePendingModule (sender module : Address)
  | removeModule (env : Env) (module : Address)
  | initializeIssuance (env : Env) (issuer : Address)
      (maxManagerFee managerIssueFee managerRedeemFee : ℕ)
      (feeRecipient managerIssuanceHook : Address)
  | initializeAave (env : Env) (collateralAssets borrowAssets : List Address)
  | initializeCompound (env : Env) (collateralAssets borrowAssets : List Address)
  | initializePerp (env : Env)
  | initializeStaking (env : Env)
  | registerToModule (leverage : Leverage) (sender issuer : Address)
  | elsewhere (chain : Chain) (setToken : SetToken) (aave : AaveLeverageModule)
      (compound : CompoundLeverageModule) (perp : PerpV2LeverageModuleV2) (staking : StakingModule)

namespace Protocol

variable {P Q P' : Protocol} {action : RegistryAction} {table : IssuanceTable} {w : World} {env : Env}
  {module : Address}

def leverageAddress (P : Protocol) : Leverage → Address
  | .aave => P.aave.address
  | .compound => P.compound.address
  | .perp => P.perp.address

def IsLeverage (P : Protocol) (a : Address) : Prop := ∃ leverage, a = P.leverageAddress leverage

/-- Overwrite the Controller. -/
def setController (P : Protocol) (controller : Controller) : Protocol :=
  { P with world := { P.world with controller := controller } }

/-- Overwrite all but the registries: the SetToken keeps its modules and its lock, and the modules
stay where they are. -/
def setElsewhere (P : Protocol) (chain : Chain) (setToken : SetToken) (aave : AaveLeverageModule)
    (compound : CompoundLeverageModule) (perp : PerpV2LeverageModuleV2) (staking : StakingModule) :
    Protocol :=
  let token := { setToken with
    address := P.world.setToken.address
    manager := P.world.setToken.manager
    locker := P.world.setToken.locker
    modules := P.world.setToken.modules
    moduleStates := P.world.setToken.moduleStates
    isLocked := P.world.setToken.isLocked }
  { P with
    world := { P.world with setToken := token, chain := chain }
    aave := { aave with address := P.aave.address }
    compound := { compound with address := P.compound.address }
    perp := { perp with address := P.perp.address }
    staking := { staking with address := P.staking.address } }

def performRegistry (P : Protocol) : RegistryAction → Outcome Protocol
  | .controllerAddModule sender module => do
    let controller ← P.world.controller.addModule sender module
    pure (P.setController controller)
  | .controllerRemoveModule sender module => do
    let controller ← P.world.controller.removeModule sender module
    pure (P.setController controller)
  | .addModule sender module =>
    P.onWorld (P.world.onSetToken fun s ↦ s.addModule P.world.controller sender module)
  | .removePendingModule sender module =>
    P.onWorld (P.world.onSetToken fun s ↦ s.removePendingModule sender module)
  | .removeModule env module => P.removeModule env module
  | .initializeIssuance env issuer maxFee issueFee redeemFee feeRecipient hook =>
    match P.issuance issuer with
    | none => throw "function call to a contract without the function"
    | some settings => do
      let (m, w) ← (DebtIssuanceModule.mk issuer settings).initializeSetToken P.world env maxFee
        issueFee redeemFee feeRecipient hook
      pure { P with issuance := Function.update P.issuance issuer (some m.settings), world := w }
  | .initializeAave env collateralAssets borrowAssets => do
    let (aave, issuance, w) ←
      P.aave.initializeSetToken P.issuance P.world env collateralAssets borrowAssets
    pure { P with aave := aave, issuance := issuance, world := w }
  | .initializeCompound env collateralAssets borrowAssets => do
    let (compound, issuance, w) ←
      P.compound.initializeSetToken P.issuance P.world env collateralAssets borrowAssets
    pure { P with compound := compound, issuance := issuance, world := w }
  | .initializePerp env => do
    let (issuance, w) ← P.perp.initializeSetToken P.issuance P.world env
    pure { P with issuance := issuance, world := w }
  | .initializeStaking env => P.onWorld (P.staking.initializeSetToken P.world env)
  | .registerToModule leverage sender issuer => do
    let issuance ← DebtIssuanceModule.registerToModule P.issuance P.world
      (P.leverageAddress leverage) sender issuer
    pure { P with issuance := issuance }
  | .elsewhere chain setToken aave compound perp staking =>
    pure (P.setElsewhere chain setToken aave compound perp staking)

/-- Every hook of an issuance module that is initialized on the Set is an initialized module. -/
def HooksLive (P : Protocol) : Prop := LiveHooks P.world.setToken.moduleStates P.issuance

/-- The module is enabled on the Controller, if it is registered with an initialized issuance
module. -/
def Removable (P : Protocol) (module : Address) : Prop :=
  ∀ issuer, P.world.setToken.moduleStates issuer = .initialized →
    module ∈ hooksAt P.issuance issuer → P.world.controller.isModule module = true

/-- Only removals of registered modules have a condition. -/
def KeepsHooks (P : Protocol) : RegistryAction → Prop
  | .removeModule _ module => P.Removable module
  | _ => True

/-- What every action preserves. -/
structure Wired (P : Protocol) : Prop where
  registry : P.world.setToken.RegistryInvariant
  table : HookTable P.IsLeverage P.issuance
  /-- Only initialized issuance modules have hooks. -/
  idle : ∀ issuer, P.world.setToken.moduleStates issuer ≠ .initialized →
    hooksAt P.issuance issuer = []
  leverage : ∀ a, P.IsLeverage a → P.issuance a = none
  staking : P.issuance P.staking.address = none

/-- A Set on which no hook was registered yet.  The contracts of the leverage modules and of the
staking module are not issuance modules. -/
structure Unregistered (P : Protocol) : Prop where
  registry : P.world.setToken.RegistryInvariant
  settings : ∀ issuer settings, P.issuance issuer = some settings → settings = .empty
  leverage : ∀ a, P.IsLeverage a → P.issuance a = none
  staking : P.issuance P.staking.address = none

theorem Unregistered.hooksAt (h : P.Unregistered) (issuer : Address) :
    hooksAt P.issuance issuer = [] := by
  unfold DebtIssuanceModule.hooksAt
  split
  · rename_i settings hsettings
    rw [h.settings issuer settings hsettings]
    rfl
  · rfl

theorem Unregistered.wired (h : P.Unregistered) : P.Wired := by
  refine ⟨h.registry, ⟨?_, ?_⟩, fun issuer _ ↦ h.hooksAt issuer, h.leverage, h.staking⟩
  · intro issuer settings hsettings
    rw [h.settings issuer settings hsettings]
    exact .nil fun a ↦ Bool.false_ne_true
  · intro issuer hook hhook
    rw [h.hooksAt] at hhook
    cases hhook

theorem Unregistered.hooksLive (h : P.Unregistered) : P.HooksLive := by
  intro issuer _ hook hhook
  rw [h.hooksAt] at hhook
  cases hhook

/-! ### One step -/

/-- The same contracts, with a new table and a new SetToken. -/
theorem Wired.of_table (h : P.Wired) (hleverage : ∀ l, Q.leverageAddress l = P.leverageAddress l)
    (hstaking : Q.staking.address = P.staking.address)
    (hregistry : Q.world.setToken.RegistryInvariant)
    (htable : HookTable P.IsLeverage Q.issuance)
    (hidle : ∀ issuer, Q.world.setToken.moduleStates issuer ≠ .initialized →
      hooksAt Q.issuance issuer = [])
    (hnone : ∀ a, P.issuance a = none → Q.issuance a = none) : Q.Wired := by
  have hsame : Q.IsLeverage = P.IsLeverage := by
    funext a
    simp only [IsLeverage, hleverage]
  refine ⟨hregistry, hsame ▸ htable, hidle, ?_, ?_⟩
  · intro a ha
    rw [hsame] at ha
    exact hnone a (h.leverage a ha)
  · rw [hstaking]
    exact hnone _ h.staking

theorem initializeModule_states {s s' : SetToken} {a : Address}
    (h : s.initializeModule a = .ok s') :
    s'.moduleStates = Function.update s.moduleStates a .initialized := by
  simp only [SetToken.initializeModule, Outcome.bind_eq_ok, Outcome.pure_eq_ok] at h
  obtain ⟨_, -, _, -, rfl⟩ := h
  rfl

/-- A module that is not initialized before stays out of the way. -/
theorem states_initializeModule {s s' : SetToken} {a b : Address}
    (hcall : s.initializeModule a = .ok s') (hb : s'.moduleStates b ≠ .initialized) :
    s.moduleStates b ≠ .initialized := by
  rw [initializeModule_states hcall] at hb
  by_cases hba : b = a
  · rw [hba, Function.update_self] at hb
    exact absurd rfl hb
  · rwa [Function.update_of_ne hba] at hb

theorem liveHooks_initializeModule {s s' : SetToken} {a : Address}
    (h : LiveHooks s.moduleStates table) (hnone : hooksAt table a = [])
    (hcall : s.initializeModule a = .ok s') : LiveHooks s'.moduleStates table := by
  rw [initializeModule_states hcall]
  apply h.of_states
  · intro b hb
    by_cases hba : b = a
    · rw [hba, Function.update_self]
    · rwa [Function.update_of_ne hba]
  · intro b hb
    by_cases hba : b = a
    · rw [hba]
      exact Or.inr hnone
    · rw [Function.update_of_ne hba] at hb
      exact Or.inl hb

theorem registryInvariant_of_sameStatus {v : World} (h : w.SameStatus v)
    (hw : w.setToken.RegistryInvariant) : v.setToken.RegistryInvariant :=
  hw.of_same h.modules h.moduleStates h.locker h.isLocked

theorem step_joined (h : P.Wired) (hlive : P.HooksLive) (hmodule : P.IsLeverage module)
    (hleverage : ∀ l, Q.leverageAddress l = P.leverageAddress l)
    (hstaking : Q.staking.address = P.staking.address)
    (hjoined : Joined P.issuance P.world module Q.issuance Q.world) : Q.Wired ∧ Q.HooksLive := by
  obtain ⟨s, hs, htable, hsame⟩ := hjoined.initialized
  have hregistry : s.RegistryInvariant := h.registry.initializeModule hs
  constructor
  · apply h.of_table hleverage hstaking (registryInvariant_of_sameStatus hsame hregistry)
    · rw [htable]
      exact registerToAll_hookTable h.table hmodule
    · intro issuer hissuer
      rw [hsame.moduleStates] at hissuer
      rw [htable, hooksAt_registerToAll hissuer]
      exact h.idle issuer (states_initializeModule hs hissuer)
    · intro a ha
      rw [htable]
      exact foldl_attempt_none _ ha
  · have hjoin := liveHooks_initializeModule hlive (hooksAt_of_none (h.leverage module hmodule)) hs
    unfold HooksLive
    rw [htable, hsame.moduleStates]
    exact registerToAll_liveHooks (w := { P.world with setToken := s }) hjoin

/-- A function of the SetToken that initializes no module and removes no initialized one. -/
theorem step_onSetToken {f : SetToken → Outcome SetToken} (h : P.Wired) (hlive : P.HooksLive)
    (hregistry : ∀ s, f P.world.setToken = .ok s → s.RegistryInvariant)
    (hstates : ∀ s, f P.world.setToken = .ok s → ∀ a,
      s.moduleStates a = .initialized ↔ P.world.setToken.moduleStates a = .initialized)
    (hstep : P.onWorld (P.world.onSetToken f) = .ok Q) : Q.Wired ∧ Q.HooksLive := by
  simp only [onWorld, World.onSetToken, Outcome.bind_eq_ok, Outcome.pure_eq_ok] at hstep
  obtain ⟨_, ⟨s, hs, rfl⟩, rfl⟩ := hstep
  have hsame := hstates s hs
  constructor
  · refine h.of_table (fun l ↦ by cases l <;> rfl) rfl (hregistry s hs) h.table ?_ fun _ ha ↦ ha
    intro issuer hissuer
    exact h.idle issuer (mt (hsame issuer).mpr hissuer)
  · intro issuer hissuer hook hhook
    exact (hsame hook).mpr (hlive issuer ((hsame issuer).mp hissuer) hook hhook)

/-- What the callback of a removal does to the table. -/
inductive Removal (P : Protocol) (module : Address) : Protocol → Prop where
  /-- A leverage module takes itself off the lists. -/
  | leverage {Q : Protocol} (hmodule : P.IsLeverage module)
      (hleverage : ∀ l, Q.leverageAddress l = P.leverageAddress l)
      (hstaking : Q.staking.address = P.staking.address)
      (hleft : Left P.issuance P.world module Q.issuance Q.world) : Removal P module Q
  /-- An issuance module without hooks deletes its settings. -/
  | issuance {settings : IssuanceSettings} (hsettings : P.issuance module = some settings)
      (hnone : settings.moduleIssuanceHooks = []) :
      Removal P module { P with
        issuance := Function.update P.issuance module
          (some { IssuanceSettings.empty with isModuleHook := settings.isModuleHook }) }
  /-- Other modules do not touch the table. -/
  | other (hmodule : ¬ P.IsLeverage module) (hnone : P.issuance module = none) :
      Removal P module P

theorem removeModuleCallback_ok (h : P.removeModuleCallback env module = .ok Q) :
    Removal P module Q := by
  unfold removeModuleCallback at h
  split at h
  · rename_i settings hsettings
    simp only [DebtIssuanceModule.removeModule, Outcome.bind_eq_ok, Outcome.require_eq_ok,
      Outcome.pure_eq_ok] at h
    obtain ⟨_, ⟨_, hlength, rfl⟩, rfl⟩ := h
    exact .issuance hsettings (List.length_eq_zero_iff.mp hlength)
  · rename_i hnone
    split_ifs at h with haave hcompound hperp hstaking
    · simp only [Outcome.bind_eq_ok, Outcome.pure_eq_ok, Prod.exists] at h
      obtain ⟨aave, issuance, w, hcall, rfl⟩ := h
      obtain ⟨haddress, hleft⟩ := AaveLeverageModule.removeModule_left hcall
      refine .leverage ⟨.aave, haave⟩ ?_ rfl (haave ▸ hleft)
      rintro (_ | _ | _)
      · exact haddress
      · rfl
      · rfl
    · simp only [Outcome.bind_eq_ok, Outcome.pure_eq_ok, Prod.exists] at h
      obtain ⟨compound, issuance, w, hcall, rfl⟩ := h
      obtain ⟨haddress, hleft⟩ := CompoundLeverageModule.removeModule_left hcall
      refine .leverage ⟨.compound, hcompound⟩ ?_ rfl (hcompound ▸ hleft)
      rintro (_ | _ | _)
      · rfl
      · exact haddress
      · rfl
    · simp only [Outcome.bind_eq_ok, Outcome.pure_eq_ok, Prod.exists] at h
      obtain ⟨perp, issuance, hcall, rfl⟩ := h
      obtain ⟨haddress, hleft⟩ := PerpV2LeverageModuleV2.removeModule_left hcall
      refine .leverage ⟨.perp, hperp⟩ ?_ rfl (hperp ▸ hleft)
      rintro (_ | _ | _)
      · rfl
      · rfl
      · exact haddress
    · simp only [Outcome.bind_eq_ok, Outcome.pure_eq_ok] at h
      obtain ⟨_, -, rfl⟩ := h
      refine Removal.other ?_ hnone
      rintro ⟨(_ | _ | _), hmodule⟩
      · exact haave hmodule
      · exact hcompound hmodule
      · exact hperp hmodule
    · obtain rfl := Outcome.pure_eq_ok.mp h
      refine Removal.other ?_ hnone
      rintro ⟨(_ | _ | _), hmodule⟩
      · exact haave hmodule
      · exact hcompound hmodule
      · exact hperp hmodule

theorem clearModule_states {s s' : SetToken} {a : Address} (h : s.clearModule a = .ok s') :
    s'.moduleStates = Function.update s.moduleStates a .none := by
  simp only [SetToken.clearModule, Outcome.bind_eq_ok, Outcome.pure_eq_ok] at h
  obtain ⟨_, -, rfl⟩ := h
  rfl

/-- What the state after the callback of a removal has to do with the state before. -/
structure Cleared (P : Protocol) (module : Address) (Q : Protocol) : Prop where
  leverage : ∀ l, Q.leverageAddress l = P.leverageAddress l
  staking : Q.staking.address = P.staking.address
  sameStatus : P.world.SameStatus Q.world
  table : HookTable P.IsLeverage Q.issuance
  none : ∀ a, P.issuance a = none → Q.issuance a = none
  subset : ∀ issuer, hooksAt Q.issuance issuer ⊆ hooksAt P.issuance issuer
  own : hooksAt Q.issuance module = []
  unlisted_iff : (∀ issuer, issuer ≠ module →
    P.world.setToken.moduleStates issuer = .initialized → module ∉ hooksAt Q.issuance issuer) ↔
      P.Removable module

theorem cleared_of_left (h : P.Wired) (hmodule : P.IsLeverage module)
    (hinit : P.world.setToken.moduleStates module = .initialized)
    (hleverage : ∀ l, Q.leverageAddress l = P.leverageAddress l)
    (hstaking : Q.staking.address = P.staking.address)
    (hleft : Left P.issuance P.world module Q.issuance Q.world) : P.Cleared module Q := by
  obtain ⟨hset, hsame, htable⟩ := hleft
  refine ⟨hleverage, hstaking, hsame, ?_, ?_, ?_, ?_, ?_⟩
  · rw [htable]
    exact h.table.unregisterEach _ _ _
  · intro a ha
    rw [htable]
    exact foldl_attempt_none _ ha
  · rw [htable]
    exact hooksAt_unregisterFromAll_subset h.table
  · rw [htable]
    exact hooksAt_of_none (foldl_attempt_none _ (h.leverage module hmodule))
  · constructor
    · intro hunlisted issuer hissuer hmem
      by_contra hdisabled
      have hkept : Q.issuance = P.issuance := by
        rw [htable]
        apply unregisterFromAll_of_disabled
        rw [hsame.controller]
        exact Bool.eq_false_of_not_eq_true hdisabled
      have hne : issuer ≠ module := by
        rintro rfl
        rw [hooksAt_of_none (h.leverage issuer hmodule)] at hmem
        cases hmem
      rw [hkept] at hunlisted
      exact hunlisted issuer hne hissuer hmem
    · intro hremovable issuer _ hissuer hmem
      have henabled : Q.world.controller.isModule module = true := by
        rw [hsame.controller]
        apply hremovable issuer hissuer
        rw [htable] at hmem
        exact hooksAt_unregisterFromAll_subset h.table issuer hmem
      have hlisted : issuer ∈ Q.world.setToken.modules := by
        rw [hsame.modules]
        exact (h.registry.modules.mem_iff issuer).mpr hissuer
      have hvalid : isSetValidAndInitialized Q.world issuer = true := by
        rw [isSetValidAndInitialized_eq_true, hsame.controller, hsame.address, hsame.moduleStates]
        exact ⟨hset, hissuer⟩
      rw [htable] at hmem
      exact notMem_unregisterFromAll h.table (by rw [hsame.moduleStates, hinit]) henabled hvalid
        hlisted hmem

/-- A module that is not a leverage module is on no list. -/
theorem cleared_of_not_leverage (h : P.Wired) (hmodule : ¬ P.IsLeverage module)
    (hleverage : ∀ l, Q.leverageAddress l = P.leverageAddress l)
    (hstaking : Q.staking.address = P.staking.address) (hworld : Q.world = P.world)
    (htable : HookTable P.IsLeverage Q.issuance)
    (hnone : ∀ a, P.issuance a = none → Q.issuance a = none)
    (hsubset : ∀ issuer, hooksAt Q.issuance issuer ⊆ hooksAt P.issuance issuer)
    (hown : hooksAt Q.issuance module = []) : P.Cleared module Q := by
  refine ⟨hleverage, hstaking, hworld ▸ .refl _, htable, hnone, hsubset, hown, iff_of_true ?_ ?_⟩
  · intro issuer _ _ hmem
    exact hmodule (htable.leverage issuer module hmem)
  · intro issuer _ hmem
    exact absurd (h.table.leverage issuer module hmem) hmodule

theorem Removal.cleared (hremoval : Removal P module Q) (h : P.Wired)
    (hinit : P.world.setToken.moduleStates module = .initialized) : P.Cleared module Q := by
  cases hremoval with
  | leverage hmodule hleverage hstaking hleft =>
    exact cleared_of_left h hmodule hinit hleverage hstaking hleft
  | @issuance settings hsettings hnone =>
    have hmodule : ¬ P.IsLeverage module := by
      intro hleverage
      rw [h.leverage module hleverage] at hsettings
      cases hsettings
    have hlists := h.table.listed module settings hsettings
    rw [hnone] at hlists
    refine cleared_of_not_leverage h hmodule (fun _ ↦ rfl) rfl rfl ?_ ?_ ?_ ?_
    · exact h.table.update hlists (by simp [IssuanceSettings.empty])
    · intro a ha
      exact update_none hsettings ha
    · intro issuer hook hhook
      rw [hooksAt_update] at hhook
      split_ifs at hhook
      · cases hhook
      · exact hhook
    · rw [hooksAt_update, if_pos rfl]
      rfl
  | other hmodule hnone =>
    exact cleared_of_not_leverage h hmodule (fun _ ↦ rfl) rfl rfl h.table (fun _ ha ↦ ha)
      (fun _ ↦ List.Subset.refl _) (hooksAt_of_none hnone)

theorem step_removeModule (h : P.Wired) (hlive : P.HooksLive)
    (hstep : P.removeModule env module = .ok P') :
    P'.Wired ∧ (P'.HooksLive ↔ P.Removable module) := by
  simp only [removeModule, SetToken.validateRemoveModule, onWorld, World.onSetToken,
    Outcome.bind_eq_ok, Outcome.require_eq_ok, Outcome.pure_eq_ok] at hstep
  obtain ⟨_, ⟨_, -, _, hunlocked, hinit⟩, Q, hcallback, _, ⟨s, hclear, rfl⟩, rfl⟩ := hstep
  have hcleared := (removeModuleCallback_ok hcallback).cleared h hinit
  have hsame := hcleared.sameStatus
  have hregistry : s.RegistryInvariant :=
    (registryInvariant_of_sameStatus hsame h.registry).clearModule
      (hsame.isLocked.trans hunlocked) (hsame.moduleStates ▸ hinit) hclear
  constructor
  · refine h.of_table hcleared.leverage hcleared.staking hregistry hcleared.table ?_ hcleared.none
    intro issuer hissuer
    by_cases hmodule : issuer = module
    · rw [hmodule]
      exact hcleared.own
    · change s.moduleStates issuer ≠ .initialized at hissuer
      rw [clearModule_states hclear, Function.update_of_ne hmodule, hsame.moduleStates] at hissuer
      exact List.eq_nil_of_subset_nil (h.idle issuer hissuer ▸ hcleared.subset issuer)
  rw [← hcleared.unlisted_iff]
  change LiveHooks s.moduleStates Q.issuance ↔ _
  rw [clearModule_states hclear, hsame.moduleStates]
  apply liveHooks_clear_iff
  intro issuer hissuer hook hhook
  exact hlive issuer hissuer hook (hcleared.subset issuer hhook)

theorem step_initializeIssuance {issuer feeRecipient hook : Address} {maxFee issueFee redeemFee : ℕ}
    (h : P.Wired) (hlive : P.HooksLive)
    (hstep : P.performRegistry (.initializeIssuance env issuer maxFee issueFee redeemFee feeRecipient
      hook) = .ok P') : P'.Wired ∧ P'.HooksLive := by
  simp only [performRegistry] at hstep
  split at hstep
  · cases hstep
  · rename_i settings hsettings
    simp only [DebtIssuanceModule.initializeSetToken, validateOnlyValidAndPendingSet,
      isSetPendingInitialization, SetToken.isPendingModule, World.onSetToken, Outcome.bind_eq_ok,
      Outcome.require_eq_ok, Outcome.pure_eq_ok, Prod.exists, Prod.mk.injEq,
      decide_eq_true_eq] at hstep
    obtain ⟨_, _, ⟨_, -, _, ⟨_, -, hpending⟩, _, -, _, -, _, ⟨s, hs, rfl⟩, rfl, rfl⟩, rfl⟩ := hstep
    -- a pending issuance module has no hooks, so its mapping is empty as well
    have hnone : hooksAt P.issuance issuer = [] := h.idle issuer (by simp [hpending])
    have hlists := h.table.listed issuer settings hsettings
    rw [hooksAt_of_some hsettings] at hnone
    rw [hnone] at hlists
    have hnew : ∀ a, hooksAt (Function.update P.issuance issuer (some {
        maxManagerFee := maxFee
        managerIssueFee := issueFee
        managerRedeemFee := redeemFee
        feeRecipient := feeRecipient
        managerIssuanceHook := hook
        moduleIssuanceHooks := []
        isModuleHook := settings.isModuleHook })) a = hooksAt P.issuance a := by
      intro a
      rw [hooksAt_update]
      split_ifs with ha
      · rw [ha, hooksAt_of_some hsettings, hnone]
      · rfl
    have hlive' : LiveHooks s.moduleStates P.issuance :=
      liveHooks_initializeModule hlive (by rw [hooksAt_of_some hsettings, hnone]) hs
    constructor
    · refine h.of_table (fun l ↦ by cases l <;> rfl) rfl (h.registry.initializeModule hs)
        (h.table.update hlists (by simp)) ?_ fun a ha ↦ update_none hsettings ha
      intro a ha
      exact (hnew a).trans (h.idle a (states_initializeModule hs ha))
    · intro a ha b hb
      exact hlive' a ha b (hnew a ▸ hb)

theorem step_registerToModule {leverage : Leverage} {sender issuer : Address} (h : P.Wired)
    (hlive : P.HooksLive)
    (hstep : P.performRegistry (.registerToModule leverage sender issuer) = .ok P') :
    P'.Wired ∧ P'.HooksLive := by
  simp only [performRegistry, DebtIssuanceModule.registerToModule, Outcome.bind_eq_ok,
    Outcome.pure_eq_ok] at hstep
  obtain ⟨_, ⟨_, -, _, -, hcall⟩, rfl⟩ := hstep
  split at hcall
  · cases hcall
  · rename_i settings hsettings
    simp only [Outcome.bind_eq_ok, Outcome.pure_eq_ok] at hcall
    obtain ⟨m, hregister, rfl⟩ := hcall
    refine ⟨?_, hlive.register hsettings hregister⟩
    refine h.of_table (fun l ↦ by cases l <;> rfl) rfl h.registry
      (h.table.register hsettings ⟨leverage, rfl⟩ hregister) ?_ fun a ha ↦ update_none hsettings ha
    intro a ha
    obtain ⟨-, hissuer, -⟩ := registerToIssuanceModule_ok hregister
    have hne : a ≠ issuer := by
      rintro rfl
      exact ha hissuer
    change hooksAt (Function.update P.issuance issuer (some m.settings)) a = []
    rw [hooksAt_update, if_neg hne]
    exact h.idle a ha

theorem step_hooksLive_iff (hstep : P.performRegistry action = .ok P') (h : P.Wired)
    (hlive : P.HooksLive) : P'.Wired ∧ (P'.HooksLive ↔ P.KeepsHooks action) := by
  -- only a removal has a condition
  have hkept : P'.Wired ∧ P'.HooksLive → P'.Wired ∧ (P'.HooksLive ↔ True) :=
    fun hboth ↦ ⟨hboth.1, iff_of_true hboth.2 trivial⟩
  cases action with
  | controllerAddModule sender module =>
    simp only [performRegistry, Outcome.bind_eq_ok, Outcome.pure_eq_ok] at hstep
    obtain ⟨controller, -, rfl⟩ := hstep
    exact hkept ⟨h.of_table (fun l ↦ by cases l <;> rfl) rfl h.registry h.table h.idle
      fun _ ha ↦ ha, hlive⟩
  | controllerRemoveModule sender module =>
    simp only [performRegistry, Outcome.bind_eq_ok, Outcome.pure_eq_ok] at hstep
    obtain ⟨controller, -, rfl⟩ := hstep
    exact hkept ⟨h.of_table (fun l ↦ by cases l <;> rfl) rfl h.registry h.table h.idle
      fun _ ha ↦ ha, hlive⟩
  | addModule sender module =>
    exact hkept (step_onSetToken h hlive (fun _ hs ↦ h.registry.addModule hs)
      (fun _ hs ↦ SetToken.addModule_initialized_iff hs) hstep)
  | removePendingModule sender module =>
    exact hkept (step_onSetToken h hlive (fun _ hs ↦ h.registry.removePendingModule hs)
      (fun _ hs ↦ SetToken.removePendingModule_initialized_iff hs) hstep)
  | removeModule env module => exact step_removeModule h hlive hstep
  | initializeIssuance env issuer maxFee issueFee redeemFee feeRecipient hook =>
    exact hkept (step_initializeIssuance h hlive hstep)
  | initializeAave env collateralAssets borrowAssets =>
    simp only [performRegistry, Outcome.bind_eq_ok, Outcome.pure_eq_ok, Prod.exists] at hstep
    obtain ⟨aave, issuance, w, hcall, rfl⟩ := hstep
    obtain ⟨haddress, hjoined⟩ := AaveLeverageModule.initializeSetToken_joined hcall
    refine hkept (step_joined h hlive ⟨.aave, rfl⟩ ?_ rfl hjoined)
    rintro (_ | _ | _)
    · exact haddress
    · rfl
    · rfl
  | initializeCompound env collateralAssets borrowAssets =>
    simp only [performRegistry, Outcome.bind_eq_ok, Outcome.pure_eq_ok, Prod.exists] at hstep
    obtain ⟨compound, issuance, w, hcall, rfl⟩ := hstep
    obtain ⟨haddress, hjoined⟩ := CompoundLeverageModule.initializeSetToken_joined hcall
    refine hkept (step_joined h hlive ⟨.compound, rfl⟩ ?_ rfl hjoined)
    rintro (_ | _ | _)
    · rfl
    · exact haddress
    · rfl
  | initializePerp env =>
    simp only [performRegistry, Outcome.bind_eq_ok, Outcome.pure_eq_ok, Prod.exists] at hstep
    obtain ⟨issuance, w, hcall, rfl⟩ := hstep
    have hjoined := PerpV2LeverageModuleV2.initializeSetToken_joined hcall
    exact hkept (step_joined h hlive ⟨.perp, rfl⟩ (fun l ↦ by cases l <;> rfl) rfl hjoined)
  | initializeStaking env =>
    simp only [performRegistry, StakingModule.initializeSetToken, onWorld, World.onSetToken,
      Outcome.bind_eq_ok, Outcome.pure_eq_ok] at hstep
    obtain ⟨_, ⟨_, -, _, -, s, hs, rfl⟩, rfl⟩ := hstep
    exact hkept ⟨h.of_table (fun l ↦ by cases l <;> rfl) rfl (h.registry.initializeModule hs) h.table
      (fun issuer hissuer ↦ h.idle issuer (states_initializeModule hs hissuer)) fun _ ha ↦ ha,
      liveHooks_initializeModule hlive (hooksAt_of_none h.staking) hs⟩
  | registerToModule leverage sender issuer =>
    exact hkept (step_registerToModule h hlive hstep)
  | elsewhere chain setToken aave compound perp staking =>
    obtain rfl := Outcome.pure_eq_ok.mp hstep
    exact hkept ⟨h.of_table (fun l ↦ by cases l <;> rfl) rfl (h.registry.of_same rfl rfl rfl rfl)
      h.table h.idle fun _ ha ↦ ha, hlive⟩

/-! ### Whole runs -/

/-- The hooks of the issuance modules are initialized modules in every state of a run exactly when the
Controller enables every registered module that is removed. -/
theorem run_hooksLive_iff {trace : List (Protocol × RegistryAction)}
    (h : Trace performRegistry P trace P') (hP : P.Unregistered) :
    ((∀ entry ∈ trace, entry.1.HooksLive) ∧ P'.HooksLive) ↔
      ∀ entry ∈ trace, entry.1.KeepsHooks entry.2 := by
  apply h.forall_iff (I := fun P ↦ P.Wired ∧ P.HooksLive) (P := HooksLive) (Q := KeepsHooks)
  · intro P hP
    exact hP.2
  · intro P action Q hstep hP
    exact (step_hooksLive_iff hstep hP.1 hP.2).2
  · intro P action Q hstep hP hkeeps
    obtain ⟨hwired, hiff⟩ := step_hooksLive_iff hstep hP.1 hP.2
    exact ⟨hwired, hiff.mpr hkeeps⟩
  · exact ⟨hP.wired, hP.hooksLive⟩

namespace RegistrySample

/-- The manager 2 sends a transaction. -/
def managerEnv : Env :=
  { Env.plain 2 0 with integrationAdapter := fun _ _ ↦ 20 }

/-- A new Set with the issuance module 20 and the Perp module 33 pending. -/
def start : Protocol :=
  let empty := Protocol.idle {
    controller := { Controller.enabling 4 [20, 33] with isSet := fun a ↦ a == 6 }
    setToken := SetToken.new 6 [45] [10] [20, 33] 2
    chain := { tokens := fun _ ↦ ERC20.empty 18 }
    log := [] }
  { empty with issuance := fun a ↦ if a = 20 then some .empty else none }

theorem start_unregistered : start.Unregistered := by
  refine ⟨SetToken.new_registryInvariant _ _ _ _ _, ?_, ?_, rfl⟩
  · intro issuer settings hsettings
    change (if issuer = 20 then some IssuanceSettings.empty else none) = some settings at hsettings
    split_ifs at hsettings
    exact (Option.some.inj hsettings).symm
  · rintro a ⟨(_ | _ | _), rfl⟩
    · rfl
    · rfl
    · rfl

def initializeIssuer : RegistryAction := .initializeIssuance managerEnv 20 0 0 0 9 0

def withIssuer : Protocol := (start.performRegistry initializeIssuer).getD start

def initializePerp : RegistryAction := .initializePerp managerEnv

def withPerp : Protocol := (withIssuer.performRegistry initializePerp).getD start

/-- Sets are issued to account 9. -/
def issuing : RegistryAction :=
  .elsewhere withPerp.world.chain
    (withPerp.world.setToken.setErc20 (ERC20.holding 18 [(9, 10 ^ 18)] 0)) withPerp.aave
    withPerp.compound withPerp.perp withPerp.staking

def issued : Protocol := (withPerp.performRegistry issuing).getD start

/-- Governance disables the Perp module. -/
def disabling : RegistryAction := .controllerRemoveModule 2 33

def disabled : Protocol := (issued.performRegistry disabling).getD start

/-- The manager removes the Perp module. -/
def removing : RegistryAction := .removeModule managerEnv 33

def removed : Protocol := (issued.performRegistry removing).getD start

def removedDisabled : Protocol := (disabled.performRegistry removing).getD start

theorem initializeIssuer_ok : start.performRegistry initializeIssuer = .ok withIssuer :=
  Outcome.eq_ok_getD start (by decide +kernel)

theorem initializePerp_ok : withIssuer.performRegistry initializePerp = .ok withPerp :=
  Outcome.eq_ok_getD start (by decide +kernel)

theorem issuing_ok : withPerp.performRegistry issuing = .ok issued := rfl

theorem disabling_ok : issued.performRegistry disabling = .ok disabled :=
  Outcome.eq_ok_getD start (by decide +kernel)

theorem removing_ok : issued.performRegistry removing = .ok removed :=
  Outcome.eq_ok_getD start (by decide +kernel)

theorem removing_disabled_ok : disabled.performRegistry removing = .ok removedDisabled :=
  Outcome.eq_ok_getD start (by decide +kernel)

/-- The disabled module is gone from the Set and stays registered with the issuance module. -/
theorem removedDisabled_not_hooksLive :
    start.Unregistered ∧
      Trace performRegistry start [(start, initializeIssuer), (withIssuer, initializePerp),
        (withPerp, issuing), (issued, disabling), (disabled, removing)] removedDisabled ∧
      removedDisabled.world.setToken.moduleStates 20 = .initialized ∧
      hooksAt removedDisabled.issuance 20 = [33] ∧
      removedDisabled.world.setToken.moduleStates 33 = .none ∧ ¬ removedDisabled.HooksLive := by
  have hissuer : removedDisabled.world.setToken.moduleStates 20 = .initialized := by
    decide +kernel
  have hhooks : hooksAt removedDisabled.issuance 20 = [33] := by decide +kernel
  have hgone : removedDisabled.world.setToken.moduleStates 33 = .none := by decide +kernel
  refine ⟨start_unregistered, ?_, hissuer, hhooks, hgone, ?_⟩
  · exact .cons initializeIssuer_ok (.cons initializePerp_ok (.cons issuing_ok
      (.cons disabling_ok (.cons removing_disabled_ok (.nil _)))))
  · intro hlive
    have hmem : 33 ∈ hooksAt removedDisabled.issuance 20 := by
      rw [hhooks]
      exact List.mem_singleton_self 33
    have hstate := hlive 20 hissuer 33 hmem
    rw [hgone] at hstate
    cases hstate

/-- While it is enabled, the module leaves the list when it is removed. -/
theorem removed_hooksLive : hooksAt issued.issuance 20 = [33] ∧ removed.HooksLive := by
  have hrun : Trace performRegistry start [(start, initializeIssuer), (withIssuer, initializePerp),
      (withPerp, issuing), (issued, removing)] removed :=
    .cons initializeIssuer_ok (.cons initializePerp_ok (.cons issuing_ok
      (.cons removing_ok (.nil _))))
  have henabled : issued.world.controller.isModule 33 = true := by decide +kernel
  refine ⟨by decide +kernel, ((run_hooksLive_iff hrun start_unregistered).mpr ?_).2⟩
  simp only [List.forall_mem_cons]
  refine ⟨trivial, trivial, trivial, ?_, by simp⟩
  intro _ _ _
  exact henabled

end RegistrySample

end Protocol

end SetProtocol
