import SetProtocol.Core.ModulePositions

/-!
# Recorded units

Modules that keep a position in step with a balance edit it when the unit they compute differs from the
unit they read.  A unit is rounded when it is stored, so the two may differ forever; an edit that writes
the unit again then leaves the SetToken as it is.
-/

namespace SetProtocol

open PreciseUnitMath

namespace SetToken

variable {s s' : SetToken} {controller : Controller} {sender module component c p : Address}

theorem SameFrame.totalSupply (h : s.SameFrame s') : s'.totalSupply = s.totalSupply := by
  unfold SetToken.totalSupply
  rw [h.erc20]

theorem SameFrame.authorized (h : s.SameFrame s') (hs : s.Authorized controller sender) :
    s'.Authorized controller sender := by
  refine ⟨?_, hs.enabled, ?_⟩
  · rw [h.moduleStates]
    exact hs.initialized
  · rw [h.isLocked, h.locker]
    exact hs.locker

theorem SameFrame.convertRealToVirtualUnit (h : s.SameFrame s') (unit : ℤ) :
    s'.convertRealToVirtualUnit unit = s.convertRealToVirtualUnit unit := by
  unfold SetToken.convertRealToVirtualUnit convertVirtualToRealUnit
  rw [h.positionMultiplier]

theorem setDefaultUnit_self :
    s.setDefaultUnit component (s.defaultPositionVirtualUnit component) = s := by
  simp [setDefaultUnit, setComponentPosition, defaultPositionVirtualUnit]

theorem setExternalPosition_self : s.setExternalPosition component module
    ((s.componentPositions component).externalPositions module) = s := by
  simp [setExternalPosition, setComponentPosition]

theorem setComponentPosition_of_ne {position : ComponentPosition} (hne : c ≠ component) :
    (s.setComponentPosition component position).componentPositions c = s.componentPositions c :=
  Function.update_of_ne hne _ _

/-! ## Default positions -/

/-- The module wrote the unit of the default position and may write it again. -/
structure DefaultWritten (s : SetToken) (controller : Controller) (module component : Address)
    (unit : ℕ) : Prop where
  authorized : s.Authorized controller module
  unit_pos : 0 < unit
  converted : s.convertRealToVirtualUnit unit = .ok (s.defaultPositionVirtualUnit component)

/-- The unit of the default position is read, or it was written. -/
def RecordsDefault (s : SetToken) (controller : Controller) (module component : Address)
    (unit : ℕ) : Prop :=
  s.getDefaultPositionRealUnit component = .ok (unit : ℤ) ∨
    s.DefaultWritten controller module component unit

variable {unit : ℕ}

/-- A written unit is read back as a positive one. -/
theorem DefaultWritten.read (h : s.DefaultWritten controller module component unit)
    (hm : 0 < s.positionMultiplier) :
    s.getDefaultPositionRealUnit component = .ok (s.defaultRealUnit component) ∧
      0 < s.defaultRealUnit component ∧ s.defaultRealUnit component ≤ unit := by
  have hpos : (0 : ℤ) < unit := Int.natCast_pos.mpr h.unit_pos
  have hstores := convertRealToVirtualUnit_stores hm h.converted
  obtain ⟨-, hback⟩ := convertRealToVirtualUnit_eq_ok.mp h.converted
  obtain ⟨-, hrange, -⟩ := hback hpos
  exact ⟨getDefaultPositionRealUnit_eq_ok.mpr ⟨hrange, rfl⟩, (hstores.of_pos hpos).2,
    hstores.readBack_le⟩

/-- Writing the unit again changes nothing. -/
theorem DefaultWritten.edit (h : s.DefaultWritten controller module component unit)
    (hm : 0 < s.positionMultiplier) :
    Position.editDefaultPosition s controller module component unit = .ok s := by
  obtain ⟨hread, hpos, -⟩ := h.read hm
  obtain ⟨hdiv, -⟩ := convertRealToVirtualUnit_eq_ok.mp h.converted
  obtain ⟨hrange, -⟩ := (conservativePreciseDiv_eq_ok hm).mp hdiv
  have hfits : unit < 2 ^ 255 := by
    have hscaled := hrange.2
    unfold preciseUnitInt maxInt256 at hscaled
    omega
  have hcast : SafeCast.toInt256 unit = .ok (unit : ℤ) :=
    SafeCast.toInt256_eq_ok.mpr ⟨hfits, rfl⟩
  have htrack : Position.trackDefaultComponent s controller module component true unit = .ok s := by
    simp [Position.trackDefaultComponent, h.unit_pos.ne', pure, Except.pure]
  simp only [Position.editDefaultPosition, Position.hasDefaultPosition, Outcome.bind_eq_ok,
    Outcome.pure_eq_ok, editDefaultPositionUnit_eq_ok]
  refine ⟨true, ⟨_, hread, decide_eq_true hpos⟩, s, htrack, unit, hcast, h.authorized, _,
    h.converted, setDefaultUnit_self.symm⟩

/-- What is read is no more than what was recorded. -/
theorem RecordsDefault.read (h : s.RecordsDefault controller module component unit)
    (hm : 0 < s.positionMultiplier) :
    ∃ read : ℕ, s.getDefaultPositionRealUnit component = .ok (read : ℤ) ∧ read ≤ unit := by
  rcases h with hread | hwritten
  · exact ⟨unit, hread, le_rfl⟩
  · obtain ⟨hread, hpos, hle⟩ := hwritten.read hm
    obtain ⟨read, heq⟩ := Int.eq_ofNat_of_zero_le hpos.le
    rw [heq] at hread hle
    exact ⟨read, hread, by exact_mod_cast hle⟩

theorem editDefaultPosition_records (hm : 0 < s.positionMultiplier)
    (h : Position.editDefaultPosition s controller module component unit = .ok s') :
    s'.RecordsDefault controller module component unit := by
  have hframe := Position.editDefaultPosition_sameFrame h
  simp only [Position.editDefaultPosition, Outcome.bind_eq_ok, SafeCast.toInt256_eq_ok,
    editDefaultPositionUnit_eq_ok] at h
  obtain ⟨_, -, t, -, _, ⟨-, rfl⟩, hauthorized, v, hv, rfl⟩ := h
  have hwrite := t.sameFrame_setDefaultUnit component v
  rw [← hwrite.convertRealToVirtualUnit] at hv
  have hvirtual : (t.setDefaultUnit component v).defaultPositionVirtualUnit component = v := by
    rw [setDefaultUnit_defaultPositionVirtualUnit, if_pos rfl]
  have hm' : 0 < (t.setDefaultUnit component v).positionMultiplier := by
    rw [hframe.positionMultiplier]
    exact hm
  rcases Nat.eq_zero_or_pos unit with hzero | hpos
  · have hstores := convertRealToVirtualUnit_stores hm' hv
    have hnone : v = 0 := hstores.of_zero (by exact_mod_cast hzero)
    left
    rw [getDefaultPositionRealUnit_eq_ok, defaultRealUnit, hvirtual, hnone, hzero]
    exact ⟨by simp [InInt256, minInt256, maxInt256], by simp⟩
  · right
    refine ⟨hwrite.authorized hauthorized, hpos, ?_⟩
    rw [hvirtual]
    exact hv

/-- A recorded unit survives whatever keeps it stored. -/
theorem RecordsDefault.of_sameFrame (h : s.RecordsDefault controller module component unit)
    (hframe : s.SameFrame s')
    (hstored : s'.defaultPositionVirtualUnit component = s.defaultPositionVirtualUnit component) :
    s'.RecordsDefault controller module component unit := by
  rcases h with hread | hwritten
  · left
    unfold getDefaultPositionRealUnit convertVirtualToRealUnit at hread ⊢
    rw [hstored, hframe.positionMultiplier]
    exact hread
  · right
    refine ⟨hframe.authorized hwritten.authorized, hwritten.unit_pos, ?_⟩
    rw [hstored, hframe.convertRealToVirtualUnit]
    exact hwritten.converted

theorem RecordsDefault.editDefaultPosition {newUnit : ℕ}
    (h : s.RecordsDefault controller module c unit) (hne : c ≠ component)
    (hedit : Position.editDefaultPosition s controller sender component newUnit = .ok s') :
    s'.RecordsDefault controller module c unit := by
  apply h.of_sameFrame (Position.editDefaultPosition_sameFrame hedit)
  obtain ⟨v, components, -, -, rfl⟩ := Position.editDefaultPosition_ok hedit
  rw [setDefaultUnit_defaultPositionVirtualUnit, if_neg hne,
    setComponents_defaultPositionVirtualUnit]

theorem RecordsDefault.editExternalPosition {newUnit : ℤ} {data : List UInt8}
    (h : s.RecordsDefault controller module c unit) (hs : s.Housed)
    (hedit : Position.editExternalPosition s controller sender component p newUnit data =
      .ok s') : s'.RecordsDefault controller module c unit := by
  apply h.of_sameFrame (Position.editExternalPosition_sameFrame hedit)
  obtain ⟨components, modules, e, -, rfl⟩ := hs.editExternalPosition_relisting hedit
  rw [relist, setExternalPosition_defaultPositionVirtualUnit,
    setExternalModules_defaultPositionVirtualUnit, setComponents_defaultPositionVirtualUnit]

/-! ## External positions -/

/-- The module wrote the unit of its external position, without data, and may write it again. -/
structure ExternalWritten (s : SetToken) (controller : Controller) (module component : Address)
    (unit : ℤ) : Prop where
  authorized : s.Authorized controller module
  unit_ne_zero : unit ≠ 0
  converted : s.convertRealToVirtualUnit unit =
    .ok (s.externalPositionVirtualUnit component module)
  component_mem : component ∈ s.components
  module_mem : module ∈ s.externalPositionModules component
  data_eq : s.externalPositionData component module = []

/-- The unit of the external position is read, or it was written. -/
def RecordsExternal (s : SetToken) (controller : Controller) (module component : Address)
    (unit : ℤ) : Prop :=
  s.getExternalPositionRealUnit component module = .ok unit ∨
    s.ExternalWritten controller module component unit

variable {debt : ℤ}

/-- Writing the unit again changes nothing. -/
theorem ExternalWritten.edit (h : s.ExternalWritten controller module component debt) :
    Position.editExternalPosition s controller module component module debt [] = .ok s := by
  have htrack : Position.trackExternalPosition s controller module component module = .ok s := by
    have hlisted := isComponent_eq_true.mpr h.component_mem
    have hmodule := isExternalPositionModule_eq_true.mpr h.module_mem
    simp [Position.trackExternalPosition, hlisted, hmodule, pure, Except.pure]
  have hunit : s.setExternalPosition component module
      ⟨s.externalPositionVirtualUnit component module, s.externalPositionData component module⟩ =
      s := setExternalPosition_self
  simp only [Position.editExternalPosition, if_pos h.unit_ne_zero, Outcome.bind_eq_ok,
    editExternalPositionUnit_eq_ok, editExternalPositionData_eq_ok]
  refine ⟨s, htrack, s, ⟨h.authorized, _, h.converted, hunit.symm⟩, h.authorized, ?_⟩
  rw [← h.data_eq]
  exact hunit.symm

/-- What is read is no more than what was recorded: a debt is not understated. -/
theorem RecordsExternal.externalRealUnit_le
    (h : s.RecordsExternal controller module component debt) (hm : 0 < s.positionMultiplier) :
    s.externalRealUnit component module ≤ debt := by
  rcases h with hread | hwritten
  · obtain ⟨-, heq⟩ := getExternalPositionRealUnit_eq_ok.mp hread
    exact heq.ge
  · exact (convertRealToVirtualUnit_stores hm hwritten.converted).readBack_le

/-- A module without a debt has no position. -/
theorem RecordsExternal.not_holds {assets : Set Address}
    (h : s.RecordsExternal controller module component 0) (hp : s.Holdings module assets) :
    ¬ s.Holds module component := by
  rcases h with hread | hwritten
  · obtain ⟨-, heq⟩ := getExternalPositionRealUnit_eq_ok.mp hread
    rw [hp.holds_iff, hp.listed_iff, not_not]
    exact (hp.externalRealUnit_eq_zero_iff component).mp heq.symm
  · exact absurd rfl hwritten.unit_ne_zero

theorem editExternalPosition_records (hs : s.Housed)
    (hne : debt ≠ s.externalRealUnit component module)
    (h : Position.editExternalPosition s controller module component module debt [] = .ok s') :
    s'.RecordsExternal controller module component debt := by
  by_cases hunit : debt = 0
  · subst hunit
    have hreal :=
      Position.editExternalPosition_externalRealUnit component module hs.multiplier_pos h
    have hvirtual : s'.externalPositionVirtualUnit component module = 0 := by
      cases Position.editExternalPosition_zero_ok h with
      | nothing hsame => exact absurd hsame.symm hne
      | module =>
        rw [Position.removeModulePosition_externalPositionVirtualUnit, if_pos ⟨rfl, rfl⟩]
      | component =>
        rw [Position.removeModulePosition_externalPositionVirtualUnit, if_pos ⟨rfl, rfl⟩]
    left
    rw [getExternalPositionRealUnit_eq_ok, externalRealUnit, hvirtual]
    exact ⟨by simp [InInt256, minInt256, maxInt256], by simp⟩
  · have hframe := Position.editExternalPosition_sameFrame h
    have hauthorized : s'.Authorized controller module := by
      simp only [Position.editExternalPosition, if_pos hunit, Outcome.bind_eq_ok,
        editExternalPositionData_eq_ok] at h
      obtain ⟨_, -, t, -, ht, rfl⟩ := h
      exact (t.sameFrame_setExternalPosition component module _).authorized ht
    obtain ⟨v, components, modules, hv, hlisting, rfl⟩ :=
      Position.editExternalPosition_ok_of_ne_zero hunit h
    have hlists : component ∈ components ∧ module ∈ modules := by
      cases hlisting with
      | addComponent => exact ⟨by simp, by simp⟩
      | addModule hmem => exact ⟨hmem, by simp⟩
      | keep hmem hmodule => exact ⟨hmem, hmodule⟩
    right
    refine ⟨hauthorized, hunit, ?_, hlists.1, ?_, ?_⟩
    · rw [hframe.convertRealToVirtualUnit, hv, setExternalPosition_externalPositionVirtualUnit,
        if_pos ⟨rfl, rfl⟩]
    · rw [setExternalPosition_externalPositionModules, setExternalModules_externalPositionModules,
        if_pos rfl]
      exact hlists.2
    · simp [externalPositionData, setExternalPosition, setComponentPosition]

/-- A recorded unit survives whatever keeps it stored and its component listed. -/
theorem RecordsExternal.of_sameFrame (h : s.RecordsExternal controller module component debt)
    (hframe : s.SameFrame s')
    (hstored : s'.componentPositions component = s.componentPositions component)
    (hlisted : component ∈ s.components → component ∈ s'.components) :
    s'.RecordsExternal controller module component debt := by
  rcases h with hread | hwritten
  · left
    unfold getExternalPositionRealUnit convertVirtualToRealUnit externalPositionVirtualUnit at *
    rw [hstored, hframe.positionMultiplier]
    exact hread
  · obtain ⟨hauthorized, hunit, hconverted, hcomponent, hmodule, hdata⟩ := hwritten
    right
    refine ⟨hframe.authorized hauthorized, hunit, ?_, hlisted hcomponent, ?_, ?_⟩
    · unfold externalPositionVirtualUnit at *
      rw [hstored, hframe.convertRealToVirtualUnit]
      exact hconverted
    · unfold externalPositionModules at *
      rw [hstored]
      exact hmodule
    · unfold externalPositionData at *
      rw [hstored]
      exact hdata

theorem RecordsExternal.editExternalPosition {newUnit : ℤ} {data : List UInt8}
    (h : s.RecordsExternal controller module c debt) (hs : s.Housed) (hne : c ≠ component)
    (hedit : Position.editExternalPosition s controller sender component p newUnit data =
      .ok s') : s'.RecordsExternal controller module c debt := by
  have hframe := Position.editExternalPosition_sameFrame hedit
  obtain ⟨components, modules, e, hrelisting, rfl⟩ := hs.editExternalPosition_relisting hedit
  apply h.of_sameFrame hframe
  · simp only [relist, setExternalPosition, setExternalModules]
    rw [setComponentPosition_of_ne hne, setComponentPosition_of_ne hne]
    rfl
  · exact (hrelisting.other_components c hne).mpr

end SetToken

end SetProtocol
