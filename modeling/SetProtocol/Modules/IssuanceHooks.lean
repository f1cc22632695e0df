import SetProtocol.Core.ModuleRegistry
import SetProtocol.Modules.AaveLeverageModule
import SetProtocol.Modules.CompoundLeverageModule
import SetProtocol.Modules.PerpV2LeverageModuleV2

/-!
# The hooks of the issuance modules

A leverage module registers with the issuance modules of the Set when it is initialized, and takes
itself off their lists when it is removed.  It does both in a `try` whose failure is ignored, and an
issuance module only listens to modules that the Controller enables.
-/

namespace SetProtocol

open ModuleBase

/-! ## Tables of issuance modules -/

namespace DebtIssuanceModule

variable {table table' : IssuanceTable} {w : World} {module hook issuer : Address}
  {m m' : DebtIssuanceModule} {leverage : Address → Prop} {states : Address → ModuleState}

/-- The hooks that are registered with the issuance module at an address. -/
def hooksAt (table : IssuanceTable) (issuer : Address) : List Address :=
  match table issuer with
  | some settings => settings.moduleIssuanceHooks
  | none => []

theorem hooksAt_of_some {settings : IssuanceSettings} (h : table issuer = some settings) :
    hooksAt table issuer = settings.moduleIssuanceHooks := by
  simp [hooksAt, h]

theorem hooksAt_of_none (h : table issuer = none) : hooksAt table issuer = [] := by
  simp [hooksAt, h]

theorem hooksAt_update (table : IssuanceTable) (issuer : Address) (settings : IssuanceSettings)
    (a : Address) :
    hooksAt (Function.update table issuer (some settings)) a =
      if a = issuer then settings.moduleIssuanceHooks else hooksAt table a := by
  unfold hooksAt
  rw [Function.update_apply]
  split_ifs <;> rfl

/-- The list and the mapping of every issuance module agree, and only leverage modules are hooks. -/
structure HookTable (leverage : Address → Prop) (table : IssuanceTable) : Prop where
  listed : ∀ issuer settings, table issuer = some settings →
    Lists settings.moduleIssuanceHooks (settings.isModuleHook · = true)
  leverage : ∀ issuer, ∀ hook ∈ hooksAt table issuer, leverage hook

/-- The hooks of an initialized issuance module are initialized modules themselves. -/
def LiveHooks (states : Address → ModuleState) (table : IssuanceTable) : Prop :=
  ∀ issuer, states issuer = .initialized →
    ∀ hook ∈ hooksAt table issuer, states hook = .initialized

/-- A write of one entry: what has to be shown of the new settings. -/
theorem HookTable.update {settings : IssuanceSettings} (h : HookTable leverage table)
    (hlisted : Lists settings.moduleIssuanceHooks (settings.isModuleHook · = true))
    (hleverage : ∀ hook ∈ settings.moduleIssuanceHooks, leverage hook) :
    HookTable leverage (Function.update table issuer (some settings)) := by
  constructor
  · intro a settings' ha
    rw [Function.update_apply] at ha
    split_ifs at ha
    · obtain rfl := Option.some.inj ha
      exact hlisted
    · exact h.listed a settings' ha
  · intro a hook hhook
    rw [hooksAt_update] at hhook
    split_ifs at hhook
    · exact hleverage hook hhook
    · exact h.leverage a hook hhook

/-- Modules may join as long as they have no hooks yet. -/
theorem LiveHooks.of_states {states' : Address → ModuleState} (h : LiveHooks states table)
    (hgrow : ∀ a, states a = .initialized → states' a = .initialized)
    (hnew : ∀ a, states' a = .initialized → states a = .initialized ∨ hooksAt table a = []) :
    LiveHooks states' table := by
  intro issuer hissuer hook hhook
  rcases hnew issuer hissuer with hold | hnone
  · exact hgrow hook (h issuer hold hook hhook)
  · rw [hnone] at hhook
    cases hhook

/-- Removing a module from the states leaves the hooks live exactly when the module is on no list of a
remaining issuance module. -/
theorem liveHooks_clear_iff (h : LiveHooks states table) :
    LiveHooks (Function.update states module .none) table ↔
      ∀ issuer, issuer ≠ module → states issuer = .initialized →
        module ∉ hooksAt table issuer := by
  constructor
  · intro hlive issuer hne hissuer hmem
    have hstate := hlive issuer (by rwa [Function.update_of_ne hne]) module hmem
    rw [Function.update_self] at hstate
    cases hstate
  · intro hnot issuer hissuer hook hhook
    have hne : issuer ≠ module := by
      rintro rfl
      rw [Function.update_self] at hissuer
      cases hissuer
    rw [Function.update_of_ne hne] at hissuer
    have hother : hook ≠ module := by
      rintro rfl
      exact hnot issuer hne hissuer hhook
    rw [Function.update_of_ne hother]
    exact h issuer hissuer hook hhook

/-- Overwriting an entry that exists does not create one elsewhere. -/
theorem update_none {settings settings' : IssuanceSettings} {a : Address}
    (hsettings : table issuer = some settings) (ha : table a = none) :
    Function.update table issuer (some settings') a = none := by
  have hne : a ≠ issuer := by
    rintro rfl
    rw [ha] at hsettings
    cases hsettings
  exact (Function.update_of_ne hne _ _).trans ha

/-- What a successful call establishes for a table is established by an attempt. -/
theorem attempt_induct {C : IssuanceTable → Prop}
    {call : DebtIssuanceModule → Outcome DebtIssuanceModule} (hC : C table)
    (hcall : ∀ settings m, table issuer = some settings → call ⟨issuer, settings⟩ = .ok m →
      C (Function.update table issuer (some m.settings))) : C (attempt call table issuer) := by
  unfold attempt
  split
  · exact hC
  · rename_i settings hsettings
    split
    · rename_i m hm
      exact hcall settings m hsettings hm
    · exact hC

/-- What every successful call preserves is preserved by a loop of attempts. -/
theorem foldl_attempt_induct {C : IssuanceTable → Prop}
    {call : DebtIssuanceModule → Outcome DebtIssuanceModule} (modules : List Address)
    (hcall : ∀ table issuer settings m, C table → table issuer = some settings →
      call ⟨issuer, settings⟩ = .ok m → C (Function.update table issuer (some m.settings)))
    (hC : C table) : C (modules.foldl (attempt call) table) := by
  induction modules generalizing table with
  | nil => exact hC
  | cons issuer modules ih =>
    apply ih
    exact attempt_induct hC fun settings m hsettings hm ↦ hcall _ _ _ _ hC hsettings hm

/-- Attempts only write entries that exist. -/
theorem foldl_attempt_none {call : DebtIssuanceModule → Outcome DebtIssuanceModule}
    (modules : List Address) {a : Address} (ha : table a = none) :
    modules.foldl (attempt call) table a = none := by
  apply foldl_attempt_induct (C := fun table ↦ table a = none) modules ?_ ha
  intro table issuer settings m hnone hsettings _
  exact update_none hsettings hnone

/-! ### Registering -/

theorem registerToIssuanceModule_ok (h : m.registerToIssuanceModule w hook = .ok m') :
    w.setToken.moduleStates hook = .initialized ∧
      w.setToken.moduleStates m.address = .initialized ∧ m.settings.isModuleHook hook = false ∧
      m' = m.setHooks (m.settings.moduleIssuanceHooks ++ [hook]) hook true := by
  simp only [registerToIssuanceModule, validateOnlyModule, validateOnlyValidAndInitializedSet,
    isSetValidAndInitialized_eq_true, Outcome.bind_eq_ok, Outcome.require_eq_ok,
    Outcome.pure_eq_ok] at h
  obtain ⟨_, ⟨_, hinit, -⟩, _, ⟨-, hissuer⟩, _, hnot, rfl⟩ := h
  exact ⟨hinit, hissuer, hnot, rfl⟩

theorem HookTable.register {settings : IssuanceSettings} (h : HookTable leverage table)
    (hsettings : table issuer = some settings) (hhook : leverage hook)
    (hcall : registerToIssuanceModule ⟨issuer, settings⟩ w hook = .ok m) :
    HookTable leverage (Function.update table issuer (some m.settings)) := by
  obtain ⟨-, -, hnot, rfl⟩ := registerToIssuanceModule_ok hcall
  apply h.update
  · apply (h.listed issuer settings hsettings).concat
    · exact ne_true_of_eq_false hnot
    · intro a
      by_cases ha : a = hook <;> simp [setHooks, ha]
  · intro a ha
    rcases List.mem_append.mp ha with ha | ha
    · apply h.leverage issuer
      rw [hooksAt_of_some hsettings]
      exact ha
    · rw [List.mem_singleton.mp ha]
      exact hhook

theorem LiveHooks.register {settings : IssuanceSettings}
    (h : LiveHooks w.setToken.moduleStates table) (hsettings : table issuer = some settings)
    (hcall : registerToIssuanceModule ⟨issuer, settings⟩ w hook = .ok m) :
    LiveHooks w.setToken.moduleStates (Function.update table issuer (some m.settings)) := by
  obtain ⟨hinit, -, -, rfl⟩ := registerToIssuanceModule_ok hcall
  intro a hstate b hb
  rw [hooksAt_update] at hb
  split_ifs at hb with ha
  · rcases List.mem_append.mp hb with hb | hb
    · apply h a hstate
      rw [ha, hooksAt_of_some hsettings]
      exact hb
    · rw [List.mem_singleton.mp hb]
      exact hinit
  · exact h a hstate b hb

theorem registerToAll_hookTable (h : HookTable leverage table) (hhook : leverage hook) :
    HookTable leverage (registerToAll table w hook) := by
  apply foldl_attempt_induct (C := HookTable leverage) _ ?_ h
  intro table issuer settings m hC hsettings hcall
  exact hC.register hsettings hhook hcall

theorem registerToAll_liveHooks (h : LiveHooks w.setToken.moduleStates table) :
    LiveHooks w.setToken.moduleStates (registerToAll table w hook) := by
  apply foldl_attempt_induct (C := LiveHooks w.setToken.moduleStates) _ ?_ h
  intro table issuer settings m hC hsettings hcall
  exact hC.register hsettings hcall

/-- Only initialized issuance modules accept registrations. -/
theorem hooksAt_registerToAll {a : Address} (ha : w.setToken.moduleStates a ≠ .initialized) :
    hooksAt (registerToAll table w hook) a = hooksAt table a := by
  apply foldl_attempt_induct (C := fun table' ↦ hooksAt table' a = hooksAt table a) _ ?_ rfl
  intro table' issuer settings m hC _ hcall
  obtain ⟨-, hissuer, -⟩ := registerToIssuanceModule_ok hcall
  have hne : a ≠ issuer := by
    rintro rfl
    exact ha hissuer
  rw [hooksAt_update, if_neg hne]
  exact hC

/-! ### Unregistering -/

theorem unregisterFromIssuanceModule_eq_ok :
    m.unregisterFromIssuanceModule w hook = .ok m' ↔
      (w.setToken.moduleStates hook = .initialized ∧ w.controller.isModule hook = true) ∧
        isSetValidAndInitialized w m.address = true ∧ m.settings.isModuleHook hook = true ∧
        hook ∈ m.settings.moduleIssuanceHooks ∧
        m' = m.setHooks (SwapRemove.swapRemove m.settings.moduleIssuanceHooks hook) hook false := by
  simp only [unregisterFromIssuanceModule, validateOnlyModule, validateOnlyValidAndInitializedSet,
    Outcome.bind_eq_ok, Outcome.require_eq_ok, AddressArrayUtils.removeStorage_eq_ok,
    Outcome.pure_eq_ok, Unique.exists_iff]
  constructor
  · rintro ⟨⟨hinit, henabled⟩, hvalid, hregistered, _, ⟨hmem, rfl⟩, rfl⟩
    exact ⟨⟨hinit, henabled⟩, hvalid, hregistered, hmem, rfl⟩
  · rintro ⟨⟨hinit, henabled⟩, hvalid, hregistered, hmem, rfl⟩
    exact ⟨⟨hinit, henabled⟩, hvalid, hregistered, _, ⟨hmem, rfl⟩, rfl⟩

/-- The hook is on the list of an issuance module only if the mapping says so. -/
theorem HookTable.isModuleHook {settings : IssuanceSettings} (h : HookTable leverage table)
    (hsettings : table issuer = some settings) (hmem : hook ∈ settings.moduleIssuanceHooks) :
    settings.isModuleHook hook = true :=
  ((h.listed issuer settings hsettings).mem_iff hook).mp hmem

theorem HookTable.unregister {settings : IssuanceSettings} (h : HookTable leverage table)
    (hsettings : table issuer = some settings)
    (hcall : unregisterFromIssuanceModule ⟨issuer, settings⟩ w hook = .ok m) :
    HookTable leverage (Function.update table issuer (some m.settings)) ∧
      ∀ a b, b ∈ hooksAt (Function.update table issuer (some m.settings)) a ↔
        b ∈ hooksAt table a ∧ ¬ (a = issuer ∧ b = hook) := by
  obtain ⟨-, -, hregistered, hmem, rfl⟩ := unregisterFromIssuanceModule_eq_ok.mp hcall
  have hlists := h.listed issuer settings hsettings
  have hother : ∀ b, b ∈ SwapRemove.swapRemove settings.moduleIssuanceHooks hook ↔
      b ∈ settings.moduleIssuanceHooks ∧ b ≠ hook := by
    intro b
    rw [SwapRemove.mem_swapRemove hmem hlists.nodup, and_comm]
  constructor
  · apply h.update
    · apply hlists.swapRemove hregistered
      intro a
      by_cases ha : a = hook <;> simp [setHooks, ha]
    · intro b hb
      apply h.leverage issuer
      rw [hooksAt_of_some hsettings]
      exact ((hother b).mp hb).1
  · intro a b
    rw [hooksAt_update]
    split_ifs with ha
    · rw [ha, hooksAt_of_some hsettings]
      simp only [true_and]
      exact hother b
    · simp [ha]

/-- What every unregistration preserves is preserved by a loop of attempts. -/
theorem unregister_induct {C : IssuanceTable → Prop} (modules : List Address)
    (h : HookTable leverage table) (hC : C table)
    (hstep : ∀ table issuer settings m, HookTable leverage table → C table →
      table issuer = some settings →
      unregisterFromIssuanceModule ⟨issuer, settings⟩ w hook = .ok m →
      C (Function.update table issuer (some m.settings))) :
    HookTable leverage
        (modules.foldl (attempt fun m ↦ m.unregisterFromIssuanceModule w hook) table) ∧
      C (modules.foldl (attempt fun m ↦ m.unregisterFromIssuanceModule w hook) table) := by
  apply foldl_attempt_induct (C := fun table ↦ HookTable leverage table ∧ C table) modules ?_ ⟨h, hC⟩
  intro table issuer settings m hboth hsettings hcall
  exact ⟨(hboth.1.unregister hsettings hcall).1, hstep _ _ _ _ hboth.1 hboth.2 hsettings hcall⟩

theorem HookTable.unregisterEach (h : HookTable leverage table) (w : World) (hook : Address)
    (modules : List Address) :
    HookTable leverage
      (modules.foldl (attempt fun m ↦ m.unregisterFromIssuanceModule w hook) table) :=
  (unregister_induct (C := fun _ ↦ True) modules h trivial fun _ _ _ _ _ _ _ _ ↦ trivial).1

/-- A module that the Controller does not enable stays on all lists. -/
theorem unregisterFromAll_of_disabled (hdisabled : w.controller.isModule hook = false) :
    unregisterFromAll table w hook = table := by
  apply foldl_attempt_induct (C := fun table' ↦ table' = table) _ ?_ rfl
  intro table' issuer settings m _ _ hcall
  obtain ⟨⟨-, henabled⟩, -⟩ := unregisterFromIssuanceModule_eq_ok.mp hcall
  rw [hdisabled] at henabled
  cases henabled

theorem hooksAt_unregisterFromAll_subset (h : HookTable leverage table) (issuer : Address) :
    hooksAt (unregisterFromAll table w hook) issuer ⊆ hooksAt table issuer := by
  apply (unregister_induct (C := fun table' ↦ hooksAt table' issuer ⊆ hooksAt table issuer) _ h
    (List.Subset.refl _) ?_).2
  intro table' a settings m htable hC hsettings hcall b hb
  exact hC (((htable.unregister hsettings hcall).2 issuer b).mp hb).1

/-- A pass of the loop over an initialized issuance module takes an enabled module off its list. -/
theorem notMem_attempt_unregister (h : HookTable leverage table)
    (hhook : w.setToken.moduleStates hook = .initialized)
    (henabled : w.controller.isModule hook = true)
    (hvalid : isSetValidAndInitialized w issuer = true) :
    hook ∉ hooksAt (attempt (fun m ↦ m.unregisterFromIssuanceModule w hook) table issuer)
      issuer := by
  unfold attempt
  split
  · rename_i hnone
    simp [hooksAt, hnone]
  · rename_i settings hsettings
    split
    · rename_i m hm
      intro hmem
      exact (((h.unregister hsettings hm).2 issuer hook).mp hmem).2 ⟨rfl, rfl⟩
    · rename_i hfail
      intro hmem
      rw [hooksAt_of_some hsettings] at hmem
      have hok : unregisterFromIssuanceModule ⟨issuer, settings⟩ w hook = .ok _ :=
        unregisterFromIssuanceModule_eq_ok.mpr
          ⟨⟨hhook, henabled⟩, hvalid, h.isModuleHook hsettings hmem, hmem, rfl⟩
      cases hok.symm.trans hfail

/-- An enabled module takes itself off the lists of all initialized issuance modules. -/
theorem notMem_unregisterFromAll (h : HookTable leverage table)
    (hhook : w.setToken.moduleStates hook = .initialized)
    (henabled : w.controller.isModule hook = true)
    (hvalid : isSetValidAndInitialized w issuer = true) (hmem : issuer ∈ w.setToken.modules) :
    hook ∉ hooksAt (unregisterFromAll table w hook) issuer := by
  obtain ⟨before, after, hmodules⟩ := List.append_of_mem hmem
  unfold unregisterFromAll
  rw [hmodules, List.foldl_append, List.foldl_cons]
  have hbefore := h.unregisterEach w hook before
  have hpass := hbefore.unregisterEach w hook [issuer]
  -- once off the list, later passes do not bring the module back
  apply (unregister_induct (C := fun table ↦ hook ∉ hooksAt table issuer) after hpass
    (notMem_attempt_unregister hbefore hhook henabled hvalid) ?_).2
  intro table a settings m htable hC hsettings hcall hmem
  exact hC (((htable.unregister hsettings hcall).2 issuer hook).mp hmem).1

end DebtIssuanceModule

/-! ## What initializing and removing a leverage module does -/

open DebtIssuanceModule

variable {table table' : IssuanceTable} {w w' : World} {env : Env} {module : Address}

/-- The module is initialized on the Set and registered where possible; nothing else of the Set but
balances and positions changes. -/
structure Joined (table : IssuanceTable) (w : World) (module : Address) (table' : IssuanceTable)
    (w' : World) : Prop where
  initialized : ∃ s, w.setToken.initializeModule module = .ok s ∧
    table' = registerToAll table { w with setToken := s } module ∧
    World.SameStatus { w with setToken := s } w'

/-- The module was valid, and was taken off the lists where possible. -/
structure Left (table : IssuanceTable) (w : World) (module : Address) (table' : IssuanceTable)
    (w' : World) : Prop where
  valid : w.controller.isSet w.setToken.address = true
  sameStatus : w.SameStatus w'
  unregistered : table' = unregisterFromAll table w' module

theorem initializeAndRegister_joined
    (h : LeverageModule.initializeAndRegister table w env module = .ok (table', w')) :
    Joined table w module table' w' := by
  simp only [LeverageModule.initializeAndRegister, World.onSetToken, Outcome.bind_eq_ok,
    Outcome.pure_eq_ok, Prod.mk.injEq] at h
  obtain ⟨_, ⟨s, hs, rfl⟩, _, -, _, -, rfl, rfl⟩ := h
  exact ⟨s, hs, rfl, .refl _⟩

theorem Joined.trans {w'' : World} (h : Joined table w module table' w') (h' : w'.SameStatus w'') :
    Joined table w module table' w'' := by
  obtain ⟨s, hs, htable, hsame⟩ := h.initialized
  exact ⟨s, hs, htable, hsame.trans h'⟩

theorem valid_of_validateOnlyValidAndInitializedSet {u : Unit}
    (h : validateOnlyValidAndInitializedSet w module = .ok u) :
    w.controller.isSet w.setToken.address = true := by
  simp only [validateOnlyValidAndInitializedSet, isSetValidAndInitialized_eq_true,
    Outcome.require_eq_ok] at h
  exact h.1

namespace AaveLeverageModule

variable {m m' : AaveLeverageModule}

theorem updateUseReserveAsCollateral_sameStatus {asset : Address} {useAsCollateral : Bool}
    (h : m.updateUseReserveAsCollateral w env asset useAsCollateral = .ok w') : w.SameStatus w' := by
  unfold updateUseReserveAsCollateral at h
  split_ifs at h
  · exact (World.invoke_steady h).sameStatus
  · obtain rfl := Outcome.pure_eq_ok.mp h
    exact .refl w

theorem initializeSetToken_joined {collateralAssets borrowAssets : List Address}
    (h : m.initializeSetToken table w env collateralAssets borrowAssets = .ok (m', table', w')) :
    m'.address = m.address ∧ Joined table w m.address table' w' := by
  simp only [initializeSetToken, Outcome.bind_eq_ok, Outcome.pure_eq_ok, Prod.exists,
    Prod.mk.injEq] at h
  obtain ⟨_, -, _, -, _, -, _, v, hregister, n, u, hcollateral, k, hborrow, rfl, rfl, rfl⟩ := h
  have hfirst : n.address = m.address ∧ v.SameStatus u := by
    apply Outcome.foldlM_invariant
      (P := fun state : AaveLeverageModule × World ↦
        state.1.address = m.address ∧ v.SameStatus state.2) ?_ hcollateral ⟨rfl, .refl v⟩
    intro state asset state' hstep hstate
    simp only [addCollateralAsset, Outcome.bind_eq_ok, Outcome.pure_eq_ok] at hstep
    obtain ⟨_, -, u, hcall, rfl⟩ := hstep
    exact ⟨hstate.1, hstate.2.trans (updateUseReserveAsCollateral_sameStatus hcall)⟩
  have hsecond : k.address = n.address := by
    apply Outcome.foldlM_invariant
      (P := fun x : AaveLeverageModule ↦ x.address = n.address) ?_ hborrow rfl
    intro x asset x' hstep hx
    simp only [addBorrowAsset, Outcome.bind_eq_ok, Outcome.pure_eq_ok] at hstep
    obtain ⟨_, -, rfl⟩ := hstep
    exact hx
  exact ⟨hsecond.trans hfirst.1, (initializeAndRegister_joined hregister).trans hfirst.2⟩

theorem removeModule_left (h : m.removeModule table w env = .ok (m', table', w')) :
    m'.address = m.address ∧ Left table w m.address table' w' := by
  simp only [removeModule, Outcome.bind_eq_ok, Outcome.pure_eq_ok, Prod.mk.injEq] at h
  obtain ⟨_, hvalid, v, hsync, _, -, u, hloop, rfl, rfl, rfl⟩ := h
  have hedits : World.Edits env .any w v := sync_edits (fun _ _ ↦ trivial) hsync
  have hcalls : v.SameStatus u := by
    apply Outcome.foldlM_invariant (P := v.SameStatus) ?_ hloop (.refl v)
    intro x asset x' hstep hx
    exact hx.trans (updateUseReserveAsCollateral_sameStatus hstep)
  exact ⟨rfl, valid_of_validateOnlyValidAndInitializedSet hvalid, hedits.sameStatus.trans hcalls,
    rfl⟩

end AaveLeverageModule

namespace CompoundLeverageModule

variable {m m' : CompoundLeverageModule}

theorem enterUnless_sameStatus {cToken : Address} {entered : Bool}
    (h : m.enterUnless w env cToken entered = .ok w') : w.SameStatus w' := by
  unfold enterUnless at h
  split_ifs at h
  · obtain rfl := Outcome.pure_eq_ok.mp h
    exact .refl w
  · have hcalls : World.Calls env (fun _ ↦ True) w w' := World.invokeChecked_calls trivial h
    exact hcalls.steady.sameStatus

theorem exitUnless_sameStatus {cToken : Address} {needed : Bool}
    (h : m.exitUnless w env cToken needed = .ok w') : w.SameStatus w' := by
  unfold exitUnless at h
  split_ifs at h
  · obtain rfl := Outcome.pure_eq_ok.mp h
    exact .refl w
  · have hcalls : World.Calls env (fun _ ↦ True) w w' := World.invokeChecked_calls trivial h
    exact hcalls.steady.sameStatus

theorem initializeSetToken_joined {collateralAssets borrowAssets : List Address}
    (h : m.initializeSetToken table w env collateralAssets borrowAssets = .ok (m', table', w')) :
    m'.address = m.address ∧ Joined table w m.address table' w' := by
  simp only [initializeSetToken, addCollateralAssets, addBorrowAssets, Outcome.bind_eq_ok,
    Outcome.pure_eq_ok, Prod.exists, Prod.mk.injEq] at h
  obtain ⟨_, -, _, -, _, -, _, v, hregister, n, u, ⟨_, -, hcollateral⟩, k, x, ⟨_, -, hborrow⟩, rfl,
    rfl, rfl⟩ := h
  have hfirst : n.address = m.address ∧ v.SameStatus u := by
    apply Outcome.foldlM_invariant
      (P := fun state : CompoundLeverageModule × World ↦
        state.1.address = m.address ∧ v.SameStatus state.2) ?_ hcollateral ⟨rfl, .refl v⟩
    intro state asset state' hstep hstate
    simp only [addCollateralAsset, Outcome.bind_eq_ok, Outcome.pure_eq_ok] at hstep
    obtain ⟨_, -, _, -, y, hcall, rfl⟩ := hstep
    exact ⟨hstate.1, hstate.2.trans (enterUnless_sameStatus hcall)⟩
  have hsecond : k.address = n.address ∧ u.SameStatus x := by
    apply Outcome.foldlM_invariant
      (P := fun state : CompoundLeverageModule × World ↦
        state.1.address = n.address ∧ u.SameStatus state.2) ?_ hborrow ⟨rfl, .refl u⟩
    intro state asset state' hstep hstate
    simp only [addBorrowAsset, Outcome.bind_eq_ok, Outcome.pure_eq_ok] at hstep
    obtain ⟨_, -, _, -, y, hcall, rfl⟩ := hstep
    exact ⟨hstate.1, hstate.2.trans (enterUnless_sameStatus hcall)⟩
  exact ⟨hsecond.1.trans hfirst.1,
    (initializeAndRegister_joined hregister).trans (hfirst.2.trans hsecond.2)⟩

theorem removeModule_left (h : m.removeModule table w env = .ok (m', table', w')) :
    m'.address = m.address ∧ Left table w m.address table' w' := by
  simp only [removeModule, Outcome.bind_eq_ok, Outcome.pure_eq_ok, Prod.mk.injEq] at h
  obtain ⟨_, hvalid, v, hsync, u, hborrow, x, hcollateral, rfl, rfl, rfl⟩ := h
  have hedits : World.Edits env .any w v := sync_edits (fun _ _ ↦ trivial) hsync
  have hfirst : v.SameStatus u := by
    apply Outcome.foldlM_invariant (P := v.SameStatus) ?_ hborrow (.refl v)
    intro y cToken y' hstep hy
    exact hy.trans (exitUnless_sameStatus hstep)
  have hsecond : u.SameStatus x := by
    apply Outcome.foldlM_invariant (P := u.SameStatus) ?_ hcollateral (.refl u)
    intro y cToken y' hstep hy
    have hcalls : World.Calls env (fun _ ↦ True) y y' := World.invokeChecked_calls trivial hstep
    exact hy.trans hcalls.steady.sameStatus
  exact ⟨rfl, valid_of_validateOnlyValidAndInitializedSet hvalid,
    hedits.sameStatus.trans (hfirst.trans hsecond), rfl⟩

end CompoundLeverageModule

namespace PerpV2LeverageModuleV2

variable {m m' : PerpV2LeverageModuleV2}

theorem initializeSetToken_joined (h : m.initializeSetToken table w env = .ok (table', w')) :
    Joined table w m.address table' w' := by
  simp only [initializeSetToken, Outcome.bind_eq_ok] at h
  obtain ⟨_, -, _, -, _, -, hregister⟩ := h
  exact initializeAndRegister_joined hregister

theorem removeModule_left (h : m.removeModule table w = .ok (m', table')) :
    m'.address = m.address ∧ Left table w m.address table' w := by
  simp only [removeModule, Outcome.bind_eq_ok, Outcome.pure_eq_ok, Prod.mk.injEq] at h
  obtain ⟨_, hvalid, _, -, _, -, _, -, _, -, rfl, rfl⟩ := h
  exact ⟨rfl, valid_of_validateOnlyValidAndInitializedSet hvalid, .refl w, rfl⟩

end PerpV2LeverageModuleV2

end SetProtocol
