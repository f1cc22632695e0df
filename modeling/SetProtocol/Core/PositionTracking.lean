import SetProtocol.Core.SetTokenCreator

/-!
# Positions stay tracked

The list of components, the lists of external position modules and the stored units agree with
each other in every state that a SetToken reaches from its creation through the editing functions
of the `Position` library and edits of the position multiplier.  Real units decide in the library
when a component enters or leaves the list, so the invariant also says that no stored unit loses
its sign when it is read back.
-/

namespace SetProtocol.SetToken

open PreciseUnitMath

variable {s s' : SetToken} {controller : Controller} {sender component module : Address}

/-- The real unit of `v` is non-zero and has the sign of `v`, unless `v` is zero. -/
def KeepsSign (s : SetToken) (v : ℤ) : Prop :=
  v ≠ 0 → s.realUnit v ≠ 0 ∧ (s.realUnit v).sign = v.sign

/-- The agreement of the position store with its lists. -/
structure PositionInvariant (s : SetToken) : Prop where
  components_nodup : s.components.Nodup
  mem_components : ∀ c, c ∈ s.components ↔
    0 < s.defaultPositionVirtualUnit c ∨ s.externalPositionModules c ≠ []
  external_nodup : ∀ c, (s.externalPositionModules c).Nodup
  mem_external : ∀ c p, p ∈ s.externalPositionModules c ↔ s.externalPositionVirtualUnit c p ≠ 0
  multiplier_pos : 0 < s.positionMultiplier
  default_nonneg : ∀ c, 0 ≤ s.defaultPositionVirtualUnit c
  default_sign : ∀ c, s.KeepsSign (s.defaultPositionVirtualUnit c)
  external_sign : ∀ c p, s.KeepsSign (s.externalPositionVirtualUnit c p)

theorem keepsSign_iff {v : ℤ} (hm : 0 < s.positionMultiplier) :
    s.KeepsSign v ↔ (0 < v → 0 < s.realUnit v) := by
  constructor
  · intro h hv
    have hsign := (h hv.ne').2
    rw [Int.sign_eq_one_of_pos hv] at hsign
    exact Int.pos_of_sign_eq_one hsign
  · intro h hv
    rcases lt_or_gt_of_ne hv with hneg | hpos
    · have hreal := realUnit_neg hm hneg
      exact ⟨hreal.ne, by rw [Int.sign_eq_neg_one_of_neg hneg, Int.sign_eq_neg_one_of_neg hreal]⟩
    · have hreal := h hpos
      exact ⟨hreal.ne', by rw [Int.sign_eq_one_of_pos hpos, Int.sign_eq_one_of_pos hreal]⟩

theorem SameFrame.keepsSign_iff (h : s.SameFrame s') {v : ℤ} :
    s'.KeepsSign v ↔ s.KeepsSign v := by
  unfold KeepsSign
  rw [h.realUnit]

theorem Stores.keepsSign {r v : ℤ} (hm : 0 < s.positionMultiplier) (h : s.Stores r v) :
    s.KeepsSign v := by
  rw [keepsSign_iff hm]
  intro hv
  rcases lt_trichotomy r 0 with hr | hr | hr
  · exact absurd (h.of_neg hr) (by omega)
  · exact absurd (h.of_zero hr) (by omega)
  · exact (h.of_pos hr).2

namespace PositionInvariant

/-- The library finds a default position exactly when the virtual unit is positive. -/
theorem defaultRealUnit_pos_iff (h : s.PositionInvariant) (c : Address) :
    0 < s.defaultRealUnit c ↔ 0 < s.defaultPositionVirtualUnit c := by
  refine ⟨fun hreal ↦ ?_, (keepsSign_iff h.multiplier_pos).mp (h.default_sign c)⟩
  rcases (h.default_nonneg c).lt_or_eq with hpos | hzero
  · exact hpos
  · simp [defaultRealUnit, ← hzero] at hreal

/-- The list of components after a default edit is the one the invariant asks for. -/
theorem mem_components_of_listing {newUnit : ℕ} {components : List Address}
    (h : s.PositionInvariant)
    (hlisting : Position.DefaultListing s component newUnit components) :
    component ∈ components ↔ 0 < newUnit ∨ s.externalPositionModules component ≠ [] := by
  have hmem := h.mem_components component
  have hreal := h.defaultRealUnit_pos_iff component
  cases hlisting with
  | add _ hunit _ _ => simp [hunit]
  | remove _ hunit hext hin =>
    simp [SwapRemove.mem_swapRemove hin h.components_nodup, hunit, hext]
  | keepExternal hext => simp [hmem, hext]
  | keepOpen hpos hunit => simp [hmem, hunit, hreal.mp hpos]
  | keepClosed hle hunit =>
    have hnot : ¬ 0 < s.defaultPositionVirtualUnit component := fun hpos ↦
      absurd (hreal.mpr hpos) (not_lt.mpr hle)
    simp [hmem, hunit, hnot]

theorem editDefaultPosition {newUnit : ℕ} (h : s.PositionInvariant)
    (hedit : Position.editDefaultPosition s controller sender component newUnit = .ok s') :
    s'.PositionInvariant := by
  have hframe := Position.editDefaultPosition_sameFrame hedit
  obtain ⟨v, components, hv, hlisting, rfl⟩ := Position.editDefaultPosition_ok hedit
  have hstores := convertRealToVirtualUnit_stores h.multiplier_pos hv
  have hvpos : 0 < v ↔ 0 < newUnit := by
    rcases Nat.eq_zero_or_pos newUnit with hzero | hpos
    · have := hstores.of_zero (by simpa using hzero)
      omega
    · have := (hstores.of_pos (by simpa using hpos)).1
      omega
  refine
    { components_nodup := by simpa using hlisting.nodup h.components_nodup
      mem_components := fun c ↦ ?_
      external_nodup := by simpa using h.external_nodup
      mem_external := by simpa using h.mem_external
      multiplier_pos := h.multiplier_pos
      default_nonneg := fun c ↦ ?_
      default_sign := fun c ↦ ?_
      external_sign := by simpa [hframe.keepsSign_iff] using h.external_sign }
  · by_cases hc : c = component
    · subst hc
      simpa [hvpos] using h.mem_components_of_listing hlisting
    · simpa [hc] using (hlisting.mem_iff_of_ne hc).trans (h.mem_components c)
  · by_cases hc : c = component
    · subst hc
      rcases Nat.eq_zero_or_pos newUnit with hzero | hpos
      · simp [hstores.of_zero (by simpa using hzero)]
      · simpa using (hvpos.mpr hpos).le
    · simpa [hc] using h.default_nonneg c
  · by_cases hc : c = component
    · subst hc
      simpa [hframe.keepsSign_iff] using hstores.keepsSign h.multiplier_pos
    · simpa [hc, hframe.keepsSign_iff] using h.default_sign c

/-- Writing a non-zero external unit lists the module and the component. -/
theorem editExternalPosition_of_ne_zero {newUnit : ℤ} {data : List UInt8}
    (h : s.PositionInvariant) (hunit : newUnit ≠ 0)
    (hedit : Position.editExternalPosition s controller sender component module newUnit data =
      .ok s') : s'.PositionInvariant := by
  have hframe := Position.editExternalPosition_sameFrame hedit
  obtain ⟨v, components, modules, hv, hlisting, rfl⟩ :=
    Position.editExternalPosition_ok_of_ne_zero hunit hedit
  have hstores := convertRealToVirtualUnit_stores h.multiplier_pos hv
  have hvne : v ≠ 0 := mt hstores.eq_zero_iff.mp hunit
  -- In each case the module ends up in the list and the component among the components.
  have hlists : components.Nodup ∧ modules.Nodup ∧ component ∈ components ∧
      (∀ c, c ≠ component → (c ∈ components ↔ c ∈ s.components)) ∧
      ∀ p, p ∈ modules ↔ p = module ∨ p ∈ s.externalPositionModules component := by
    have hnodup := h.external_nodup component
    cases hlisting with
    | addComponent hnot hmodule =>
      refine ⟨Position.nodup_concat hnot h.components_nodup, Position.nodup_concat hmodule hnodup,
        by simp, fun c hc ↦ by simp [hc], fun p ↦ by simp [or_comm]⟩
    | addModule hmem hmodule =>
      exact ⟨h.components_nodup, Position.nodup_concat hmodule hnodup, hmem, fun _ _ ↦ Iff.rfl,
        fun p ↦ by simp [or_comm]⟩
    | keep hmem hmodule =>
      exact ⟨h.components_nodup, hnodup, hmem, fun _ _ ↦ Iff.rfl, fun p ↦ by grind⟩
  obtain ⟨hcnodup, hmnodup, hcmem, hcother, hmiff⟩ := hlists
  have hmne : modules ≠ [] := List.ne_nil_of_mem ((hmiff module).mpr (Or.inl rfl))
  refine
    { components_nodup := by simpa using hcnodup
      mem_components := fun c ↦ ?_
      external_nodup := fun c ↦ ?_
      mem_external := fun c p ↦ ?_
      multiplier_pos := h.multiplier_pos
      default_nonneg := by simpa using h.default_nonneg
      default_sign := by simpa [hframe.keepsSign_iff] using h.default_sign
      external_sign := fun c p ↦ ?_ }
  · by_cases hc : c = component
    · subst hc
      simp [hcmem, hmne]
    · simpa [hc] using (hcother c hc).trans (h.mem_components c)
  · by_cases hc : c = component
    · subst hc
      simpa using hmnodup
    · simpa [hc] using h.external_nodup c
  · by_cases hc : c = component
    · subst hc
      by_cases hp : p = module
      · subst hp
        simp [hvne, hmiff]
      · simpa [hp, hmiff] using h.mem_external c p
    · simpa [hc] using h.mem_external c p
  · by_cases hcp : c = component ∧ p = module
    · simpa [hcp, hframe.keepsSign_iff] using hstores.keepsSign h.multiplier_pos
    · simpa [hcp, hframe.keepsSign_iff] using h.external_sign c p

/-- Dropping a listed module position, with the component when nothing else is left in it. -/
theorem removeModulePosition (components : List Address) (h : s.PositionInvariant)
    (hmodule : module ∈ s.externalPositionModules component)
    (hnodup : components.Nodup)
    (hother : ∀ c, c ≠ component → (c ∈ components ↔ c ∈ s.components))
    (hmem : component ∈ components ↔ 0 < s.defaultPositionVirtualUnit component ∨
      SwapRemove.swapRemove (s.externalPositionModules component) module ≠ []) :
    (Position.removeModulePosition (s.setComponents components) component
      module).PositionInvariant := by
  have hframe : s.SameFrame
      (Position.removeModulePosition (s.setComponents components) component module) :=
    (s.sameFrame_setComponents components).trans (Position.sameFrame_removeModulePosition ..)
  have hnodupModules := h.external_nodup component
  refine
    { components_nodup := by simpa [Position.removeModulePosition] using hnodup
      mem_components := fun c ↦ ?_
      external_nodup := fun c ↦ ?_
      mem_external := fun c p ↦ ?_
      multiplier_pos := h.multiplier_pos
      default_nonneg := by simpa [Position.removeModulePosition] using h.default_nonneg
      default_sign := fun c ↦ ?_
      external_sign := fun c p ↦ ?_ }
  · by_cases hc : c = component
    · subst hc
      simpa [Position.removeModulePosition] using hmem
    · simpa [Position.removeModulePosition, hc] using (hother c hc).trans (h.mem_components c)
  · by_cases hc : c = component
    · subst hc
      simpa [Position.removeModulePosition] using
        SwapRemove.nodup_swapRemove hmodule hnodupModules
    · simpa [Position.removeModulePosition, hc] using h.external_nodup c
  · by_cases hc : c = component
    · subst hc
      by_cases hp : p = module
      · subst hp
        simp [Position.removeModulePosition, SwapRemove.mem_swapRemove hmodule hnodupModules,
          ExternalPosition.empty]
      · simpa [Position.removeModulePosition, SwapRemove.mem_swapRemove hmodule hnodupModules, hp]
          using h.mem_external c p
    · simpa [Position.removeModulePosition, hc] using h.mem_external c p
  · rw [hframe.keepsSign_iff]
    simpa [Position.removeModulePosition] using h.default_sign c
  · rw [hframe.keepsSign_iff]
    by_cases hcp : c = component ∧ p = module
    · simp [Position.removeModulePosition, hcp, KeepsSign, ExternalPosition.empty]
    · simpa [Position.removeModulePosition, hcp] using h.external_sign c p

theorem editExternalPosition {newUnit : ℤ} {data : List UInt8} (h : s.PositionInvariant)
    (hedit : Position.editExternalPosition s controller sender component module newUnit data =
      .ok s') : s'.PositionInvariant := by
  by_cases hunit : newUnit = 0
  · subst hunit
    have hdefault := h.defaultRealUnit_pos_iff component
    cases Position.editExternalPosition_zero_ok hedit with
    | nothing => exact h
    | module hreal hmodule hother =>
      refine h.removeModulePosition s.components hmodule h.components_nodup
        (fun _ _ ↦ Iff.rfl) ?_
      have hmem : component ∈ s.components :=
        (h.mem_components component).mpr (Or.inr (List.ne_nil_of_mem hmodule))
      simp only [hmem, true_iff]
      rcases hother with hpos | hlength
      · left
        have hnonneg : 0 ≤ s.defaultRealUnit component :=
          realUnit_nonneg h.multiplier_pos (h.default_nonneg component)
        exact hdefault.mp (lt_of_le_of_ne hnonneg hpos.symm)
      · right
        intro hnil
        have hperm := (SwapRemove.swapRemove_perm hmodule).length_eq
        rw [hnil, List.length_erase_of_mem hmodule, List.length_nil] at hperm
        have := List.length_pos_of_mem hmodule
        omega
    | component hreal hzero hmodules hmem =>
      refine h.removeModulePosition _ (by simp [hmodules])
        (SwapRemove.nodup_swapRemove hmem h.components_nodup)
        (fun c hc ↦ by simp [SwapRemove.mem_swapRemove hmem h.components_nodup, hc]) ?_
      have hnot : ¬ 0 < s.defaultPositionVirtualUnit component := by
        rw [← hdefault, hzero]
        exact lt_irrefl 0
      simp [SwapRemove.mem_swapRemove hmem h.components_nodup, hnot, hmodules]
  · exact h.editExternalPosition_of_ne_zero hunit hedit

/-- A unit that is written directly has to agree with the list that is not touched. -/
theorem setExternalPosition {realUnit virtualUnit : ℤ} {data : List UInt8}
    (h : s.PositionInvariant) (hstored : s.convertRealToVirtualUnit realUnit = .ok virtualUnit)
    (hlisted : module ∈ s.externalPositionModules component ↔ realUnit ≠ 0) :
    (s.setExternalPosition component module ⟨virtualUnit, data⟩).PositionInvariant := by
  have hframe := s.sameFrame_setExternalPosition component module ⟨virtualUnit, data⟩
  have hstores := convertRealToVirtualUnit_stores h.multiplier_pos hstored
  refine
    { components_nodup := h.components_nodup
      mem_components := fun c ↦ by simpa using h.mem_components c
      external_nodup := fun c ↦ by simpa using h.external_nodup c
      mem_external := fun c p ↦ ?_
      multiplier_pos := hframe.positionMultiplier ▸ h.multiplier_pos
      default_nonneg := fun c ↦ by simpa using h.default_nonneg c
      default_sign := fun c ↦ ?_
      external_sign := fun c p ↦ ?_ }
  · rw [setExternalPosition_externalPositionModules, setExternalPosition_externalPositionVirtualUnit]
    split_ifs with hpos
    · rw [hpos.1, hpos.2, hlisted, ne_eq, ne_eq, hstores.eq_zero_iff]
    · exact h.mem_external c p
  · rw [hframe.keepsSign_iff, setExternalPosition_defaultPositionVirtualUnit]
    exact h.default_sign c
  · rw [hframe.keepsSign_iff, setExternalPosition_externalPositionVirtualUnit]
    split_ifs
    · exact hstores.keepsSign h.multiplier_pos
    · exact h.external_sign c p

end PositionInvariant

/-! ## Editing the multiplier -/

theorem lowerMinimum_le (minimumUnit unit : ℕ) : lowerMinimum minimumUnit unit ≤ minimumUnit := by
  unfold lowerMinimum
  split <;> omega

theorem lowerMinimum_le_unit {unit : ℕ} (minimumUnit : ℕ) (h : 0 < unit) :
    lowerMinimum minimumUnit unit ≤ unit := by
  unfold lowerMinimum
  split <;> omega

theorem absoluteValue_ok {a : ℤ} {n : ℕ} (h : absoluteValue a = .ok n) : n = a.natAbs := by
  unfold absoluteValue negInt256 at h
  split_ifs at h with hnonneg hmin
  · have := SafeCast.toUint256_eq_ok.mp h
    omega
  · have := SafeCast.toUint256_eq_ok.mp h
    omega
  · have := SafeCast.toUint256_eq_ok.mp h
    omega

/-- The inner loop returns a lower bound of the listed external units. -/
theorem foldlM_lowerMinimumExternal_ok {c : Address} {modules : List Address} {low low' : ℕ}
    (h : modules.foldlM (s.lowerMinimumExternal c) low = .ok low') :
    low' ≤ low ∧ ∀ p ∈ modules, s.externalPositionVirtualUnit c p ≠ 0 →
      low' ≤ (s.externalPositionVirtualUnit c p).natAbs := by
  induction modules generalizing low with
  | nil =>
    obtain rfl := Outcome.pure_eq_ok.mp h
    exact ⟨le_rfl, by simp⟩
  | cons p modules ih =>
    simp only [List.foldlM_cons, lowerMinimumExternal, Outcome.bind_eq_ok, Outcome.pure_eq_ok] at h
    obtain ⟨_, ⟨unit, hunit, rfl⟩, hrest⟩ := h
    obtain rfl := absoluteValue_ok hunit
    obtain ⟨hle, hmodules⟩ := ih hrest
    refine ⟨hle.trans (lowerMinimum_le _ _), fun q hq hne ↦ ?_⟩
    rcases List.mem_cons.mp hq with rfl | hq
    · exact hle.trans (lowerMinimum_le_unit _ (Int.natAbs_pos.mpr hne))
    · exact hmodules q hq hne

/-- `low` bounds every non-zero unit of the component from below, and the default unit is not
negative. -/
structure BoundsUnits (s : SetToken) (low : ℕ) (c : Address) : Prop where
  default_nonneg : 0 ≤ s.defaultPositionVirtualUnit c
  default_le : s.defaultPositionVirtualUnit c ≠ 0 → low ≤ (s.defaultPositionVirtualUnit c).natAbs
  external_le : ∀ p ∈ s.externalPositionModules c, s.externalPositionVirtualUnit c p ≠ 0 →
    low ≤ (s.externalPositionVirtualUnit c p).natAbs

theorem BoundsUnits.mono {low low' : ℕ} {c : Address} (h : s.BoundsUnits low c) (hle : low' ≤ low) :
    s.BoundsUnits low' c where
  default_nonneg := h.default_nonneg
  default_le := fun hne ↦ hle.trans (h.default_le hne)
  external_le := fun p hp hne ↦ hle.trans (h.external_le p hp hne)

theorem lowerMinimumComponent_ok {c : Address} {low low' : ℕ}
    (h : s.lowerMinimumComponent low c = .ok low') : low' ≤ low ∧ s.BoundsUnits low' c := by
  simp only [lowerMinimumComponent, Outcome.bind_eq_ok, SafeCast.toUint256_eq_ok] at h
  obtain ⟨defaultUnit, hdefault, hloop⟩ := h
  obtain ⟨hle, hmodules⟩ := foldlM_lowerMinimumExternal_ok hloop
  refine ⟨hle.trans (lowerMinimum_le _ _), by omega, fun hne ↦ ?_, hmodules⟩
  have hpos : 0 < defaultUnit := by omega
  exact (hle.trans (lowerMinimum_le_unit _ hpos)).trans (by omega)

/-- The outer loop returns a lower bound of all units of the listed components. -/
theorem foldlM_lowerMinimumComponent_ok {components : List Address} {low low' : ℕ}
    (h : components.foldlM s.lowerMinimumComponent low = .ok low') :
    low' ≤ low ∧ ∀ c ∈ components, s.BoundsUnits low' c := by
  induction components generalizing low with
  | nil =>
    obtain rfl := Outcome.pure_eq_ok.mp h
    exact ⟨le_rfl, by simp⟩
  | cons c components ih =>
    simp only [List.foldlM_cons, Outcome.bind_eq_ok] at h
    obtain ⟨mid, hmid, hrest⟩ := h
    obtain ⟨hle, hcomponents⟩ := ih hrest
    obtain ⟨hmidle, hbounds⟩ := lowerMinimumComponent_ok hmid
    refine ⟨hle.trans hmidle, fun d hd ↦ ?_⟩
    rcases List.mem_cons.mp hd with rfl | hd
    · exact hbounds.mono hle
    · exact hcomponents d hd

/-- An accepted multiplier keeps the least unit of the token away from zero. -/
theorem validateNewMultiplier_ok {m : ℤ} (h : s.validateNewMultiplier m = .ok ()) :
    ∃ low : ℕ, (∀ c ∈ s.components, s.BoundsUnits low c) ∧ 0 < (low : ℤ) * m / preciseUnitInt := by
  simp only [validateNewMultiplier, getPositionsAbsMinimumVirtualUnit, Outcome.bind_eq_ok,
    SafeCast.toInt256_eq_ok, conservativePreciseMul_eq_ok, Outcome.require_eq_ok] at h
  obtain ⟨_, ⟨low, hloop, -, rfl⟩, _, ⟨-, rfl⟩, hpos⟩ := h
  exact ⟨low, (foldlM_lowerMinimumComponent_ok hloop).2, hpos⟩

theorem mul_pos_of_ediv_pos {low : ℕ} {m : ℤ} (h : 0 < (low : ℤ) * m / preciseUnitInt) :
    0 < m ∧ preciseUnitInt ≤ (low : ℤ) * m := by
  have hunit : preciseUnitInt ≤ (low : ℤ) * m := ediv_preciseUnitInt_pos_iff.mp h
  refine ⟨?_, hunit⟩
  by_contra hm
  have : (low : ℤ) * m ≤ 0 := mul_nonpos_of_nonneg_of_nonpos (Int.natCast_nonneg low) (not_lt.mp hm)
  exact absurd (preciseUnitInt_pos.trans_le hunit) (not_lt.mpr this)

/-- A unit that is at least the least unit keeps its sign: the product reaches one precise unit. -/
theorem keepsSign_of_le {m v : ℤ} {low : ℕ} (hm : 0 < m) (hunit : preciseUnitInt ≤ (low : ℤ) * m)
    (hle : 0 < v → low ≤ v.natAbs) : { s with positionMultiplier := m }.KeepsSign v := by
  rw [SetToken.keepsSign_iff hm]
  intro hpos
  have hlow : (low : ℤ) ≤ v := by
    have := hle hpos
    omega
  have hprod : preciseUnitInt ≤ v * m := hunit.trans (mul_le_mul_of_nonneg_right hlow hm.le)
  exact ediv_preciseUnitInt_pos_iff.mpr hprod

theorem PositionInvariant.editPositionMultiplier {m : ℤ} (h : s.PositionInvariant)
    (hedit : s.editPositionMultiplier controller sender m = .ok s') : s'.PositionInvariant := by
  obtain ⟨-, hvalid, rfl⟩ := editPositionMultiplier_eq_ok.mp hedit
  obtain ⟨low, hbounds, hlow⟩ := validateNewMultiplier_ok hvalid
  obtain ⟨hm, hunit⟩ := mul_pos_of_ediv_pos hlow
  refine
    { components_nodup := h.components_nodup
      mem_components := h.mem_components
      external_nodup := h.external_nodup
      mem_external := h.mem_external
      multiplier_pos := hm
      default_nonneg := h.default_nonneg
      default_sign := fun c ↦ keepsSign_of_le hm hunit fun hpos ↦ ?_
      external_sign := fun c p ↦ keepsSign_of_le hm hunit fun hpos ↦ ?_ }
  · exact (hbounds c ((h.mem_components c).mpr (Or.inl hpos))).default_le hpos.ne'
  · have hlisted : p ∈ s.externalPositionModules c := (h.mem_external c p).mpr hpos.ne'
    have hcomponent : c ∈ s.components :=
      (h.mem_components c).mpr (Or.inr (List.ne_nil_of_mem hlisted))
    exact (hbounds c hcomponent).external_le p hlisted hpos.ne'

/-! ## Runs -/

theorem new_positionInvariant {address manager : Address} {components modules : List Address}
    {units : List ℤ} (hnodup : components.Nodup) (hlength : components.length = units.length)
    (hunits : ∀ entry ∈ components.zip units, 0 < entry.2) :
    (new address components units modules manager).PositionInvariant := by
  have hfst : (components.zip units).map Prod.fst = components :=
    List.map_fst_zip (by omega)
  have hmem (c : Address) (hc : c ∈ components) :
      0 < (new address components units modules manager).defaultPositionVirtualUnit c := by
    obtain ⟨entry, hentry, heq⟩ := foldl_virtualUnit_of_mem (components.zip units)
      (fun _ ↦ ComponentPosition.empty) (c := c) (by rwa [hfst])
    exact (hunits entry hentry).trans_eq heq.symm
  have hnot (c : Address) (hc : c ∉ components) :
      (new address components units modules manager).defaultPositionVirtualUnit c = 0 :=
    foldl_virtualUnit_of_notMem (components.zip units) (fun _ ↦ ComponentPosition.empty)
      (c := c) (by rwa [hfst])
  have hreal (v : ℤ) : (new address components units modules manager).realUnit v = v :=
    Int.mul_ediv_cancel v preciseUnitInt_pos.ne'
  refine
    { components_nodup := hnodup
      mem_components := fun c ↦ ?_
      external_nodup := by simp
      mem_external := by simp
      multiplier_pos := preciseUnitInt_pos
      default_nonneg := fun c ↦ ?_
      default_sign := fun c hne ↦ by simpa [hreal] using hne
      external_sign := fun c p hne ↦ by simp at hne }
  · change c ∈ components ↔ _
    by_cases hc : c ∈ components
    · simpa [hmem c hc] using hc
    · simpa [hnot c hc] using hc
  · by_cases hc : c ∈ components
    · exact (hmem c hc).le
    · exact (hnot c hc).ge

/-- The editing functions, and the functions of the SetToken that leave the positions alone: a
module can only edit after it was initialized, so runs contain both. -/
inductive Action where
  | editDefaultPosition (component : Address) (newUnit : ℕ)
  | editExternalPosition (component module : Address) (newUnit : ℤ) (data : List UInt8)
  | editPositionMultiplier (newMultiplier : ℤ)
  | mint (account : Address) (quantity : ℕ)
  | burn (account : Address) (quantity : ℕ)
  | lock
  | unlock
  | addModule (module : Address)
  | removePendingModule (module : Address)
  | initializeModule
  | setManager (manager : Address)

/-- A call of an action by `sender`, in a state of the Controller. -/
structure Call where
  controller : Controller
  sender : Address
  action : Action

def perform (s : SetToken) (call : Call) : Outcome SetToken :=
  match call.action with
  | .editDefaultPosition component newUnit =>
    Position.editDefaultPosition s call.controller call.sender component newUnit
  | .editExternalPosition component module newUnit data =>
    Position.editExternalPosition s call.controller call.sender component module newUnit data
  | .editPositionMultiplier newMultiplier =>
    s.editPositionMultiplier call.controller call.sender newMultiplier
  | .mint account quantity => s.mint call.controller call.sender account quantity
  | .burn account quantity => s.burn call.controller call.sender account quantity
  | .lock => s.lock call.controller call.sender
  | .unlock => s.unlock call.controller call.sender
  | .addModule module => s.addModule call.controller call.sender module
  | .removePendingModule module => s.removePendingModule call.sender module
  | .initializeModule => s.initializeModule call.sender
  | .setManager manager => s.setManager call.sender manager

/-- The invariant only reads the position store and the multiplier. -/
theorem PositionInvariant.of_same_positions (h : s.PositionInvariant)
    (hcomponents : s'.components = s.components)
    (hpositions : s'.componentPositions = s.componentPositions)
    (hmultiplier : s'.positionMultiplier = s.positionMultiplier) : s'.PositionInvariant := by
  obtain ⟨_, _, _, _, _, _, _, components, positions, multiplier⟩ := s'
  simp only at hcomponents hpositions hmultiplier
  subst hcomponents hpositions hmultiplier
  exact ⟨h.1, h.2, h.3, h.4, h.5, h.6, h.7, h.8⟩

/-- A call edits the positions, or it leaves them as they are. -/
theorem perform_cases {call : Call} (h : s.perform call = .ok s') :
    (∃ component newUnit, Position.editDefaultPosition s call.controller call.sender component
        newUnit = .ok s') ∨
      (∃ component module newUnit data, Position.editExternalPosition s call.controller call.sender
        component module newUnit data = .ok s') ∨
      (∃ newMultiplier, s.editPositionMultiplier call.controller call.sender newMultiplier =
        .ok s') ∨
      s'.components = s.components ∧ s'.componentPositions = s.componentPositions ∧
        s'.positionMultiplier = s.positionMultiplier := by
  obtain ⟨controller, sender, action⟩ := call
  cases action with
  | editDefaultPosition component newUnit => exact Or.inl ⟨component, newUnit, h⟩
  | editExternalPosition component module newUnit data =>
    exact Or.inr (Or.inl ⟨component, module, newUnit, data, h⟩)
  | editPositionMultiplier newMultiplier => exact Or.inr (Or.inr (Or.inl ⟨newMultiplier, h⟩))
  | mint account quantity =>
    obtain ⟨-, t, -, rfl⟩ := mint_eq_ok.mp h
    exact Or.inr (Or.inr (Or.inr ⟨rfl, rfl, rfl⟩))
  | burn account quantity =>
    obtain ⟨-, t, -, rfl⟩ := burn_eq_ok.mp h
    exact Or.inr (Or.inr (Or.inr ⟨rfl, rfl, rfl⟩))
  | lock =>
    simp only [perform, lock, Outcome.bind_eq_ok, Outcome.pure_eq_ok] at h
    obtain ⟨_, -, _, -, rfl⟩ := h
    exact Or.inr (Or.inr (Or.inr ⟨rfl, rfl, rfl⟩))
  | unlock =>
    simp only [perform, unlock, Outcome.bind_eq_ok, Outcome.pure_eq_ok] at h
    obtain ⟨_, -, _, -, _, -, rfl⟩ := h
    exact Or.inr (Or.inr (Or.inr ⟨rfl, rfl, rfl⟩))
  | addModule module =>
    simp only [perform, addModule, Outcome.bind_eq_ok, Outcome.pure_eq_ok] at h
    obtain ⟨_, -, _, -, _, -, rfl⟩ := h
    exact Or.inr (Or.inr (Or.inr ⟨rfl, rfl, rfl⟩))
  | removePendingModule module =>
    simp only [perform, removePendingModule, Outcome.bind_eq_ok, Outcome.pure_eq_ok] at h
    obtain ⟨_, -, _, -, _, -, rfl⟩ := h
    exact Or.inr (Or.inr (Or.inr ⟨rfl, rfl, rfl⟩))
  | initializeModule =>
    simp only [perform, initializeModule, Outcome.bind_eq_ok, Outcome.pure_eq_ok] at h
    obtain ⟨_, -, _, -, rfl⟩ := h
    exact Or.inr (Or.inr (Or.inr ⟨rfl, rfl, rfl⟩))
  | setManager manager =>
    simp only [perform, setManager, Outcome.bind_eq_ok, Outcome.pure_eq_ok] at h
    obtain ⟨_, -, _, -, rfl⟩ := h
    exact Or.inr (Or.inr (Or.inr ⟨rfl, rfl, rfl⟩))

theorem PositionInvariant.perform {call : Call} (h : s.PositionInvariant)
    (hcall : s.perform call = .ok s') : s'.PositionInvariant := by
  rcases perform_cases hcall with ⟨component, newUnit, hedit⟩ |
    ⟨component, module, newUnit, data, hedit⟩ | ⟨newMultiplier, hedit⟩ |
    ⟨hcomponents, hpositions, hmultiplier⟩
  · exact h.editDefaultPosition hedit
  · exact h.editExternalPosition hedit
  · exact h.editPositionMultiplier hedit
  · exact h.of_same_positions hcomponents hpositions hmultiplier

/-- Positions are tracked in every state that a created SetToken reaches. -/
theorem positionInvariant_of_create_of_run {creator : SetTokenCreator}
    {controller controller' : Controller} {sender deployed manager : Address}
    {components modules : List Address} {units : List ℤ} {s s' : SetToken} {calls : List Call}
    (hcreate : creator.create controller sender deployed components units modules manager =
      .ok (controller', s))
    (hrun : calls.foldlM perform s = .ok s') : s'.PositionInvariant := by
  obtain ⟨hnodup, hlength, hunits, rfl⟩ := SetTokenCreator.create_ok hcreate
  exact Outcome.foldlM_invariant (fun _ _ _ hcall hs ↦ hs.perform hcall) hrun
    (new_positionInvariant hnodup hlength hunits)

/-- Module 5 goes through every kind of edit on a token with components 7 and 8. -/
def sampleCalls : List Call :=
  [.initializeModule, .editExternalPosition 8 5 (-3) [1], .editPositionMultiplier (9 * 10 ^ 17),
    .editDefaultPosition 7 0, .editExternalPosition 9 5 40 [], .editDefaultPosition 8 0,
    .editExternalPosition 8 5 0 []].map (⟨Controller.enabling 4 [5], 5, ·⟩)

theorem sampleCalls_positionInvariant :
    ((((SetTokenCreator.mk 4 2).create (Controller.enabling 4 [5]) 2 6 [7, 8] [100, 200] [5] 2).getD
        (Controller.enabling 4 [5], new 6 [7, 8] [100, 200] [5] 2)).2 =
          new 6 [7, 8] [100, 200] [5] 2) ∧
      ((sampleCalls.foldlM perform (new 6 [7, 8] [100, 200] [5] 2)).getD
        (new 6 [] [] [] 0)).components = [9] ∧
      ((sampleCalls.foldlM perform (new 6 [7, 8] [100, 200] [5] 2)).getD
        (new 6 [] [] [] 0)).PositionInvariant :=
  ⟨rfl, by decide +kernel, positionInvariant_of_create_of_run
    (Outcome.eq_ok_getD (x := (SetTokenCreator.mk 4 2).create (Controller.enabling 4 [5]) 2 6
      [7, 8] [100, 200] [5] 2) (Controller.enabling 4 [5], new 6 [7, 8] [100, 200] [5] 2)
      (by decide +kernel)) (Outcome.eq_ok_getD _ (by decide +kernel))⟩

end SetProtocol.SetToken
