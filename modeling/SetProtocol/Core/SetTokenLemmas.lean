import SetProtocol.Core.SetToken

/-!
# What the SetToken's functions do

One lemma for each function: when it succeeds and which state it leaves.  The unit conversions are
stated over the integers; both directions round toward the lesser number.
-/

namespace SetProtocol.SetToken

open PreciseUnitMath

variable {s s' : SetToken} {controller : Controller} {sender component module : Address}

/-! ## Access -/

/-- The callers that pass the modifiers of the privileged functions. -/
structure Authorized (s : SetToken) (controller : Controller) (sender : Address) : Prop where
  initialized : s.moduleStates sender = .initialized
  enabled : controller.isModule sender = true
  locker : s.isLocked = true → sender = s.locker

@[simp] theorem validateOnlyModule_eq_ok {u : Unit} :
    s.validateOnlyModule controller sender = .ok u ↔
      s.moduleStates sender = .initialized ∧ controller.isModule sender = true := by
  simp [validateOnlyModule]

@[simp] theorem validateOnlyManager_eq_ok {u : Unit} :
    s.validateOnlyManager sender = .ok u ↔ sender = s.manager := by
  simp [validateOnlyManager]

@[simp] theorem onlyModuleWhenLockedOnlyLocker_eq_ok {u : Unit} :
    s.onlyModuleWhenLockedOnlyLocker controller sender = .ok u ↔
      s.Authorized controller sender := by
  simp only [onlyModuleWhenLockedOnlyLocker, validateWhenLockedOnlyLocker, Outcome.bind_eq_ok,
    validateOnlyModule_eq_ok]
  constructor
  · rintro ⟨_, ⟨hinit, henabled⟩, hlock⟩
    refine ⟨hinit, henabled, fun hlocked ↦ ?_⟩
    simpa [hlocked] using hlock
  · intro h
    refine ⟨(), ⟨h.initialized, h.enabled⟩, ?_⟩
    split
    case isTrue hlocked => simpa using h.locker hlocked
    case isFalse => simp

@[simp] theorem isComponent_eq_true : s.isComponent component = true ↔ component ∈ s.components := by
  simp [isComponent]

@[simp] theorem isComponent_eq_false :
    s.isComponent component = false ↔ component ∉ s.components := by
  simp [isComponent]

@[simp] theorem isExternalPositionModule_eq_true :
    s.isExternalPositionModule component module = true ↔
      module ∈ s.externalPositionModules component := by
  simp [isExternalPositionModule]

@[simp] theorem isExternalPositionModule_eq_false :
    s.isExternalPositionModule component module = false ↔
      module ∉ s.externalPositionModules component := by
  simp [isExternalPositionModule]

/-! ## Unit conversion -/

/-- The real unit of a virtual unit: the floor of the product with the multiplier. -/
def realUnit (s : SetToken) (virtualUnit : ℤ) : ℤ :=
  virtualUnit * s.positionMultiplier / preciseUnitInt

/-- The real unit of a component's default position. -/
def defaultRealUnit (s : SetToken) (component : Address) : ℤ :=
  s.realUnit (s.defaultPositionVirtualUnit component)

/-- The real unit of a module's external position in a component. -/
def externalRealUnit (s : SetToken) (component module : Address) : ℤ :=
  s.realUnit (s.externalPositionVirtualUnit component module)

@[simp] theorem realUnit_zero : s.realUnit 0 = 0 := by
  simp [realUnit]

theorem realUnit_nonneg {v : ℤ} (hm : 0 < s.positionMultiplier) (hv : 0 ≤ v) :
    0 ≤ s.realUnit v :=
  Int.ediv_nonneg (mul_nonneg hv hm.le) preciseUnitInt_pos.le

theorem realUnit_neg {v : ℤ} (hm : 0 < s.positionMultiplier) (hv : v < 0) :
    s.realUnit v < 0 :=
  Int.ediv_neg_of_neg_of_pos (mul_neg_of_neg_of_pos hv hm) preciseUnitInt_pos

@[simp] theorem convertVirtualToRealUnit_eq_ok {v r : ℤ} :
    s.convertVirtualToRealUnit v = .ok r ↔
      InInt256 (v * s.positionMultiplier) ∧ r = s.realUnit v :=
  conservativePreciseMul_eq_ok

@[simp] theorem getDefaultPositionRealUnit_eq_ok {r : ℤ} :
    s.getDefaultPositionRealUnit component = .ok r ↔
      InInt256 (s.defaultPositionVirtualUnit component * s.positionMultiplier) ∧
        r = s.defaultRealUnit component :=
  convertVirtualToRealUnit_eq_ok

@[simp] theorem getExternalPositionRealUnit_eq_ok {r : ℤ} :
    s.getExternalPositionRealUnit component module = .ok r ↔
      InInt256 (s.externalPositionVirtualUnit component module * s.positionMultiplier) ∧
        r = s.externalRealUnit component module :=
  convertVirtualToRealUnit_eq_ok

theorem convertRealToVirtualUnit_eq_ok {r v : ℤ} :
    s.convertRealToVirtualUnit r = .ok v ↔
      conservativePreciseDiv r s.positionMultiplier = .ok v ∧
        (0 < r → v ≠ 0 ∧ InInt256 (v * s.positionMultiplier) ∧ s.realUnit v ≠ 0) := by
  by_cases hr : 0 < r
  · simp only [convertRealToVirtualUnit, Outcome.bind_eq_ok, hr, if_true, Outcome.require_eq_ok,
      convertVirtualToRealUnit_eq_ok, Outcome.pure_eq_ok, forall_const]
    constructor
    · rintro ⟨_, hdiv, _, hne, _, ⟨hrange, rfl⟩, _, hback, rfl⟩
      exact ⟨hdiv, hne, hrange, hback⟩
    · rintro ⟨hdiv, hne, hrange, hback⟩
      exact ⟨v, hdiv, (), hne, _, ⟨hrange, rfl⟩, (), hback, rfl⟩
  · simp [convertRealToVirtualUnit, hr]

/-- What a stored virtual unit says about the real unit that was written: signs agree, and reading
it back never gives more. -/
structure Stores (s : SetToken) (realUnit virtualUnit : ℤ) : Prop where
  eq_div : virtualUnit = realUnit * preciseUnitInt / s.positionMultiplier
  of_pos : 0 < realUnit → 0 < virtualUnit ∧ 0 < s.realUnit virtualUnit
  of_zero : realUnit = 0 → virtualUnit = 0
  of_neg : realUnit < 0 → virtualUnit < 0
  readBack_le : s.realUnit virtualUnit ≤ realUnit

theorem convertRealToVirtualUnit_stores {r v : ℤ} (hm : 0 < s.positionMultiplier)
    (h : s.convertRealToVirtualUnit r = .ok v) : s.Stores r v := by
  obtain ⟨hdiv, hcond⟩ := convertRealToVirtualUnit_eq_ok.mp h
  obtain ⟨-, hv⟩ := (conservativePreciseDiv_eq_ok hm).mp hdiv
  refine ⟨hv, fun hr ↦ ?_, fun hr ↦ ?_, fun hr ↦ ?_, ?_⟩
  · obtain ⟨hne, -, hback⟩ := hcond hr
    have hnonneg : 0 ≤ v := by
      rw [hv]
      exact Int.ediv_nonneg (mul_nonneg hr.le preciseUnitInt_pos.le) hm.le
    exact ⟨lt_of_le_of_ne hnonneg hne.symm,
      lt_of_le_of_ne (realUnit_nonneg hm hnonneg) hback.symm⟩
  · rw [hv, hr, zero_mul, Int.zero_ediv]
  · rw [hv]
    exact Int.ediv_neg_of_neg_of_pos (mul_neg_of_neg_of_pos hr preciseUnitInt_pos) hm
  · have hmul : v * s.positionMultiplier ≤ r * preciseUnitInt := by
      rw [hv]
      exact Int.ediv_mul_le _ hm.ne'
    exact Int.ediv_le_of_le_mul preciseUnitInt_pos hmul

/-- A stored unit is zero exactly when zero was written. -/
theorem Stores.eq_zero_iff {r v : ℤ} (h : s.Stores r v) : v = 0 ↔ r = 0 := by
  refine ⟨fun hv ↦ ?_, h.of_zero⟩
  rcases lt_trichotomy r 0 with hr | hr | hr
  · exact absurd hv (h.of_neg hr).ne
  · exact hr
  · exact absurd hv (h.of_pos hr).1.ne'

/-- The real unit that is read after `realUnit` was written. -/
def readBack (s : SetToken) (realUnit : ℤ) : ℤ :=
  s.realUnit (realUnit * preciseUnitInt / s.positionMultiplier)

@[simp] theorem readBack_zero : s.readBack 0 = 0 := by
  simp [readBack]

/-- A unit survives the conversion exactly when the multiplier divides it. -/
theorem readBack_eq_iff {r : ℤ} (hm : 0 < s.positionMultiplier) :
    s.readBack r = r ↔ s.positionMultiplier ∣ r * preciseUnitInt := by
  have hsplit := Int.mul_ediv_add_emod (r * preciseUnitInt) s.positionMultiplier
  have hrem := Int.emod_nonneg (r * preciseUnitInt) hm.ne'
  unfold readBack realUnit
  rw [Int.dvd_iff_emod_eq_zero, mul_comm _ s.positionMultiplier]
  constructor
  · intro h
    have hle := Int.ediv_mul_le
      (s.positionMultiplier * (r * preciseUnitInt / s.positionMultiplier)) preciseUnitInt_pos.ne'
    rw [h] at hle
    omega
  · intro h
    rw [h, add_zero] at hsplit
    rw [hsplit, Int.mul_ediv_cancel _ preciseUnitInt_pos.ne']

/-! ## Reading the storage after a write -/

section Writes

variable (s : SetToken) (c c' p p' : Address)

@[simp] theorem setErc20_erc20 (t : ERC20) : (s.setErc20 t).erc20 = t := rfl

@[simp] theorem setErc20_totalSupply (t : ERC20) : (s.setErc20 t).totalSupply = t.totalSupply := rfl

@[simp] theorem setErc20_address (t : ERC20) : (s.setErc20 t).address = s.address := rfl

@[simp] theorem setErc20_components (t : ERC20) : (s.setErc20 t).components = s.components := rfl

@[simp] theorem setErc20_positionMultiplier (t : ERC20) :
    (s.setErc20 t).positionMultiplier = s.positionMultiplier := rfl

@[simp] theorem setErc20_defaultRealUnit (t : ERC20) :
    (s.setErc20 t).defaultRealUnit c = s.defaultRealUnit c := rfl

@[simp] theorem setComponents_components (cs : List Address) :
    (s.setComponents cs).components = cs := rfl

@[simp] theorem setComponents_defaultPositionVirtualUnit (cs : List Address) :
    (s.setComponents cs).defaultPositionVirtualUnit c = s.defaultPositionVirtualUnit c := rfl

@[simp] theorem setComponents_externalPositionModules (cs : List Address) :
    (s.setComponents cs).externalPositionModules c = s.externalPositionModules c := rfl

@[simp] theorem setComponents_externalPositionVirtualUnit (cs : List Address) :
    (s.setComponents cs).externalPositionVirtualUnit c p = s.externalPositionVirtualUnit c p := rfl

@[simp] theorem setDefaultUnit_components (v : ℤ) :
    (s.setDefaultUnit c v).components = s.components := rfl

@[simp] theorem setExternalModules_components (ps : List Address) :
    (s.setExternalModules c ps).components = s.components := rfl

@[simp] theorem setExternalPosition_components (e : ExternalPosition) :
    (s.setExternalPosition c p e).components = s.components := rfl

@[simp] theorem setDefaultUnit_defaultPositionVirtualUnit (v : ℤ) :
    (s.setDefaultUnit c v).defaultPositionVirtualUnit c' =
      if c' = c then v else s.defaultPositionVirtualUnit c' := by
  by_cases h : c' = c
  · subst h
    simp [setDefaultUnit, setComponentPosition, defaultPositionVirtualUnit]
  · simp [setDefaultUnit, setComponentPosition, defaultPositionVirtualUnit, h]

@[simp] theorem setDefaultUnit_externalPositionModules (v : ℤ) :
    (s.setDefaultUnit c v).externalPositionModules c' = s.externalPositionModules c' := by
  by_cases h : c' = c
  · subst h
    simp [setDefaultUnit, setComponentPosition, externalPositionModules]
  · simp [setDefaultUnit, setComponentPosition, externalPositionModules, h]

@[simp] theorem setDefaultUnit_externalPositionVirtualUnit (v : ℤ) :
    (s.setDefaultUnit c v).externalPositionVirtualUnit c' p =
      s.externalPositionVirtualUnit c' p := by
  by_cases h : c' = c
  · subst h
    simp [setDefaultUnit, setComponentPosition, externalPositionVirtualUnit]
  · simp [setDefaultUnit, setComponentPosition, externalPositionVirtualUnit, h]

@[simp] theorem setExternalModules_defaultPositionVirtualUnit (ps : List Address) :
    (s.setExternalModules c ps).defaultPositionVirtualUnit c' =
      s.defaultPositionVirtualUnit c' := by
  by_cases h : c' = c
  · subst h
    simp [setExternalModules, setComponentPosition, defaultPositionVirtualUnit]
  · simp [setExternalModules, setComponentPosition, defaultPositionVirtualUnit, h]

@[simp] theorem setExternalModules_externalPositionModules (ps : List Address) :
    (s.setExternalModules c ps).externalPositionModules c' =
      if c' = c then ps else s.externalPositionModules c' := by
  by_cases h : c' = c
  · subst h
    simp [setExternalModules, setComponentPosition, externalPositionModules]
  · simp [setExternalModules, setComponentPosition, externalPositionModules, h]

@[simp] theorem setExternalModules_externalPositionVirtualUnit (ps : List Address) :
    (s.setExternalModules c ps).externalPositionVirtualUnit c' p =
      s.externalPositionVirtualUnit c' p := by
  by_cases h : c' = c
  · subst h
    simp [setExternalModules, setComponentPosition, externalPositionVirtualUnit]
  · simp [setExternalModules, setComponentPosition, externalPositionVirtualUnit, h]

@[simp] theorem setExternalPosition_defaultPositionVirtualUnit (e : ExternalPosition) :
    (s.setExternalPosition c p e).defaultPositionVirtualUnit c' =
      s.defaultPositionVirtualUnit c' := by
  by_cases h : c' = c
  · subst h
    simp [setExternalPosition, setComponentPosition, defaultPositionVirtualUnit]
  · simp [setExternalPosition, setComponentPosition, defaultPositionVirtualUnit, h]

@[simp] theorem setExternalPosition_externalPositionModules (e : ExternalPosition) :
    (s.setExternalPosition c p e).externalPositionModules c' = s.externalPositionModules c' := by
  by_cases h : c' = c
  · subst h
    simp [setExternalPosition, setComponentPosition, externalPositionModules]
  · simp [setExternalPosition, setComponentPosition, externalPositionModules, h]

@[simp] theorem setExternalPosition_externalPositionVirtualUnit (e : ExternalPosition) :
    (s.setExternalPosition c p e).externalPositionVirtualUnit c' p' =
      if c' = c ∧ p' = p then e.virtualUnit else s.externalPositionVirtualUnit c' p' := by
  by_cases h : c' = c
  · subst h
    by_cases hp : p' = p
    · subst hp
      simp [setExternalPosition, setComponentPosition, externalPositionVirtualUnit]
    · simp [setExternalPosition, setComponentPosition, externalPositionVirtualUnit, hp]
  · simp [setExternalPosition, setComponentPosition, externalPositionVirtualUnit, h]

end Writes

/-- The fields that no position write touches. -/
structure SameFrame (s s' : SetToken) : Prop where
  address : s'.address = s.address
  erc20 : s'.erc20 = s.erc20
  manager : s'.manager = s.manager
  locker : s'.locker = s.locker
  modules : s'.modules = s.modules
  moduleStates : s'.moduleStates = s.moduleStates
  isLocked : s'.isLocked = s.isLocked
  positionMultiplier : s'.positionMultiplier = s.positionMultiplier

theorem SameFrame.refl (s : SetToken) : s.SameFrame s :=
  ⟨rfl, rfl, rfl, rfl, rfl, rfl, rfl, rfl⟩

theorem SameFrame.trans {s₁ s₂ s₃ : SetToken} (h : s₁.SameFrame s₂) (h' : s₂.SameFrame s₃) :
    s₁.SameFrame s₃ where
  address := h'.address.trans h.address
  erc20 := h'.erc20.trans h.erc20
  manager := h'.manager.trans h.manager
  locker := h'.locker.trans h.locker
  modules := h'.modules.trans h.modules
  moduleStates := h'.moduleStates.trans h.moduleStates
  isLocked := h'.isLocked.trans h.isLocked
  positionMultiplier := h'.positionMultiplier.trans h.positionMultiplier

theorem sameFrame_setComponents (s : SetToken) (cs : List Address) :
    s.SameFrame (s.setComponents cs) :=
  ⟨rfl, rfl, rfl, rfl, rfl, rfl, rfl, rfl⟩

theorem sameFrame_setDefaultUnit (s : SetToken) (c : Address) (v : ℤ) :
    s.SameFrame (s.setDefaultUnit c v) :=
  ⟨rfl, rfl, rfl, rfl, rfl, rfl, rfl, rfl⟩

theorem sameFrame_setExternalModules (s : SetToken) (c : Address) (ps : List Address) :
    s.SameFrame (s.setExternalModules c ps) :=
  ⟨rfl, rfl, rfl, rfl, rfl, rfl, rfl, rfl⟩

theorem sameFrame_setExternalPosition (s : SetToken) (c p : Address) (e : ExternalPosition) :
    s.SameFrame (s.setExternalPosition c p e) :=
  ⟨rfl, rfl, rfl, rfl, rfl, rfl, rfl, rfl⟩

theorem SameFrame.realUnit (h : s.SameFrame s') (v : ℤ) : s'.realUnit v = s.realUnit v := by
  simp [SetToken.realUnit, h.positionMultiplier]

/-! ## The privileged functions -/

@[simp] theorem addComponent_eq_ok :
    s.addComponent controller sender component = .ok s' ↔
      s.Authorized controller sender ∧ component ∉ s.components ∧
        s' = s.setComponents (s.components ++ [component]) := by
  simp [addComponent, @eq_comm _ s']

@[simp] theorem removeComponent_eq_ok :
    s.removeComponent controller sender component = .ok s' ↔
      s.Authorized controller sender ∧ component ∈ s.components ∧
        s' = s.setComponents (SwapRemove.swapRemove s.components component) := by
  simp [removeComponent, @eq_comm _ s']

@[simp] theorem editDefaultPositionUnit_eq_ok {r : ℤ} :
    s.editDefaultPositionUnit controller sender component r = .ok s' ↔
      s.Authorized controller sender ∧
        ∃ v, s.convertRealToVirtualUnit r = .ok v ∧ s' = s.setDefaultUnit component v := by
  simp [editDefaultPositionUnit, @eq_comm _ s']

@[simp] theorem addExternalPositionModule_eq_ok :
    s.addExternalPositionModule controller sender component module = .ok s' ↔
      s.Authorized controller sender ∧ module ∉ s.externalPositionModules component ∧
        s' = s.setExternalModules component (s.externalPositionModules component ++ [module]) := by
  simp [addExternalPositionModule, @eq_comm _ s']

@[simp] theorem removeExternalPositionModule_eq_ok :
    s.removeExternalPositionModule controller sender component module = .ok s' ↔
      s.Authorized controller sender ∧ module ∈ s.externalPositionModules component ∧
        s' = (s.setExternalModules component
          (SwapRemove.swapRemove (s.externalPositionModules component) module)).setExternalPosition
            component module ExternalPosition.empty := by
  simp [removeExternalPositionModule, @eq_comm _ s']

@[simp] theorem editExternalPositionUnit_eq_ok {r : ℤ} :
    s.editExternalPositionUnit controller sender component module r = .ok s' ↔
      s.Authorized controller sender ∧
        ∃ v, s.convertRealToVirtualUnit r = .ok v ∧
          s' = s.setExternalPosition component module
            ⟨v, s.externalPositionData component module⟩ := by
  simp [editExternalPositionUnit, @eq_comm _ s']

@[simp] theorem editExternalPositionData_eq_ok {data : List UInt8} :
    s.editExternalPositionData controller sender component module data = .ok s' ↔
      s.Authorized controller sender ∧
        s' = s.setExternalPosition component module
          ⟨s.externalPositionVirtualUnit component module, data⟩ := by
  simp [editExternalPositionData, @eq_comm _ s']

@[simp] theorem editPositionMultiplier_eq_ok {m : ℤ} :
    s.editPositionMultiplier controller sender m = .ok s' ↔
      s.Authorized controller sender ∧ s.validateNewMultiplier m = .ok () ∧
        s' = { s with positionMultiplier := m } := by
  simp [editPositionMultiplier, Unique.exists_iff, @eq_comm _ s']

@[simp] theorem mint_eq_ok {account : Address} {quantity : ℕ} :
    s.mint controller sender account quantity = .ok s' ↔
      s.Authorized controller sender ∧
        ∃ t, s.erc20.mint account quantity = .ok t ∧ s' = s.setErc20 t := by
  simp [mint, @eq_comm _ s']

@[simp] theorem burn_eq_ok {account : Address} {quantity : ℕ} :
    s.burn controller sender account quantity = .ok s' ↔
      s.Authorized controller sender ∧
        ∃ t, s.erc20.burn account quantity = .ok t ∧ s' = s.setErc20 t := by
  simp [burn, @eq_comm _ s']

/-! ## Adding and removing modules

The manager's functions move modules between the other states; only a module initializes itself. -/

theorem update_initialized_iff {states : Address → ModuleState} {state : ModuleState} {a : Address}
    (hold : states a ≠ .initialized) (hnew : state ≠ .initialized) (b : Address) :
    Function.update states a state b = .initialized ↔ states b = .initialized := by
  by_cases hb : b = a
  · rw [hb, Function.update_self]
    exact iff_of_false hnew hold
  · rw [Function.update_of_ne hb]

theorem addModule_initialized_iff (h : s.addModule controller sender module = .ok s') (a : Address) :
    s'.moduleStates a = .initialized ↔ s.moduleStates a = .initialized := by
  simp only [addModule, Outcome.bind_eq_ok, Outcome.require_eq_ok, Outcome.pure_eq_ok] at h
  obtain ⟨_, -, _, hnone, _, -, rfl⟩ := h
  exact update_initialized_iff (by simp [hnone]) (by simp) a

theorem removePendingModule_initialized_iff (h : s.removePendingModule sender module = .ok s')
    (a : Address) : s'.moduleStates a = .initialized ↔ s.moduleStates a = .initialized := by
  simp only [removePendingModule, Outcome.bind_eq_ok, Outcome.require_eq_ok,
    Outcome.pure_eq_ok] at h
  obtain ⟨_, -, _, -, _, hpending, rfl⟩ := h
  exact update_initialized_iff (by simp [hpending]) (by simp) a

end SetProtocol.SetToken
