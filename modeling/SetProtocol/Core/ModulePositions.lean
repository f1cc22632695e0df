import SetProtocol.Core.PositionEdits
import SetProtocol.Core.PositionTracking

/-!
# The external positions of one module

A unit that is written directly need not agree with the list of modules, so the invariant of the whole
position store does not survive such a write.  For any other module the lists and the units still agree,
as long as that module edits its positions through the `Position` library.
-/

namespace SetProtocol

namespace SetToken

variable {s s' : SetToken} {controller : Controller} {sender component module p : Address}
  {assets : Set Address}

/-- Components and modules are listed once, and a component with an external position is listed. -/
structure Housed (s : SetToken) : Prop where
  components_nodup : s.components.Nodup
  external_nodup : ∀ c, (s.externalPositionModules c).Nodup
  mem_components : ∀ c, s.externalPositionModules c ≠ [] → c ∈ s.components
  multiplier_pos : 0 < s.positionMultiplier

/-- A module is listed exactly where it has a unit, and for the given assets only. -/
structure Holdings (s : SetToken) (p : Address) (assets : Set Address) : Prop where
  listed_iff : ∀ c, p ∈ s.externalPositionModules c ↔ s.externalPositionVirtualUnit c p ≠ 0
  keepsSign : ∀ c, s.KeepsSign (s.externalPositionVirtualUnit c p)
  mem_assets : ∀ c, p ∈ s.externalPositionModules c → c ∈ assets

theorem PositionInvariant.housed (h : s.PositionInvariant) : s.Housed where
  components_nodup := h.components_nodup
  external_nodup := h.external_nodup
  mem_components := fun c hc ↦ (h.mem_components c).mpr (Or.inr hc)
  multiplier_pos := h.multiplier_pos

theorem Holdings.externalRealUnit_eq_zero_iff (h : s.Holdings p assets) (c : Address) :
    s.externalRealUnit c p = 0 ↔ s.externalPositionVirtualUnit c p = 0 := by
  constructor
  · intro hreal
    by_contra hne
    exact (h.keepsSign c hne).1 hreal
  · intro hzero
    rw [externalRealUnit, hzero, realUnit_zero]

/-! ## Edits of the default positions -/

theorem Housed.editDefaultPosition {newUnit : ℕ} (h : s.Housed)
    (hedit : Position.editDefaultPosition s controller sender component newUnit = .ok s') :
    s'.Housed := by
  obtain ⟨v, components, -, hlisting, rfl⟩ := Position.editDefaultPosition_ok hedit
  refine ⟨hlisting.nodup h.components_nodup, ?_, ?_, h.multiplier_pos⟩
  · intro c
    simpa using h.external_nodup c
  · intro c hc
    simp only [setDefaultUnit_externalPositionModules, setComponents_externalPositionModules] at hc
    have hmem := h.mem_components c hc
    by_cases hne : c = component
    · subst hne
      -- a component with an external position is never removed
      cases hlisting with
      | add _ _ hext => exact absurd hext hc
      | remove _ _ hext => exact absurd hext hc
      | keepExternal => exact hmem
      | keepOpen => exact hmem
      | keepClosed => exact hmem
    · exact (hlisting.mem_iff_of_ne hne).mpr hmem

theorem Holdings.editDefaultPosition {newUnit : ℕ} (h : s.Holdings p assets)
    (hedit : Position.editDefaultPosition s controller sender component newUnit = .ok s') :
    s'.Holdings p assets := by
  have hframe := Position.editDefaultPosition_sameFrame hedit
  obtain ⟨v, components, -, -, rfl⟩ := Position.editDefaultPosition_ok hedit
  refine ⟨?_, ?_, ?_⟩
  · intro c
    simpa using h.listed_iff c
  · intro c
    rw [hframe.keepsSign_iff, setDefaultUnit_externalPositionVirtualUnit,
      setComponents_externalPositionVirtualUnit]
    exact h.keepsSign c
  · intro c hc
    simp only [setDefaultUnit_externalPositionModules, setComponents_externalPositionModules] at hc
    exact h.mem_assets c hc

/-! ## External edits -/

/-- Overwrite the lists of a component and the position of a module in it. -/
def relist (s : SetToken) (component module : Address) (components modules : List Address)
    (e : ExternalPosition) : SetToken :=
  ((s.setComponents components).setExternalModules component modules).setExternalPosition component
    module e

/-- What an external edit writes. -/
structure Relisting (s : SetToken) (component module : Address) (components modules : List Address)
    (e : ExternalPosition) : Prop where
  components_nodup : components.Nodup
  modules_nodup : modules.Nodup
  mem_components : modules ≠ [] → component ∈ components
  other_components : ∀ c, c ≠ component → (c ∈ components ↔ c ∈ s.components)
  other_modules : ∀ q, q ≠ module → (q ∈ modules ↔ q ∈ s.externalPositionModules component)
  /-- The module is dropped, listed with a new unit, or left alone. -/
  own : (module ∉ modules ∧ e.virtualUnit = 0) ∨
    (module ∈ modules ∧ e.virtualUnit ≠ 0 ∧ s.KeepsSign e.virtualUnit) ∨
    ((module ∈ modules ↔ module ∈ s.externalPositionModules component) ∧
      e.virtualUnit = s.externalPositionVirtualUnit component module)

section Relist

variable {components modules : List Address} {e : ExternalPosition}

@[simp] theorem relist_components :
    (s.relist component module components modules e).components = components := rfl

@[simp] theorem relist_externalPositionModules (c : Address) :
    (s.relist component module components modules e).externalPositionModules c =
      if c = component then modules else s.externalPositionModules c := by
  simp [relist]

@[simp] theorem relist_externalPositionVirtualUnit (c q : Address) :
    (s.relist component module components modules e).externalPositionVirtualUnit c q =
      if c = component ∧ q = module then e.virtualUnit
      else s.externalPositionVirtualUnit c q := by
  simp [relist]

theorem sameFrame_relist (s : SetToken) (component module : Address)
    (components modules : List Address) (e : ExternalPosition) :
    s.SameFrame (s.relist component module components modules e) :=
  ((s.sameFrame_setComponents components).trans (sameFrame_setExternalModules ..)).trans
    (sameFrame_setExternalPosition ..)

theorem relist_self : s.relist component module s.components (s.externalPositionModules component)
    ((s.componentPositions component).externalPositions module) = s := by
  simp [relist, setComponents, setExternalModules, setExternalPosition, setComponentPosition,
    externalPositionModules]

end Relist

theorem Housed.relisting_of_ne_zero {newUnit : ℤ} {data : List UInt8} (h : s.Housed)
    (hunit : newUnit ≠ 0)
    (hedit : Position.editExternalPosition s controller sender component module newUnit data =
      .ok s') :
    ∃ components modules e, s.Relisting component module components modules e ∧
      s' = s.relist component module components modules e := by
  obtain ⟨v, components, modules, hv, hlisting, rfl⟩ :=
    Position.editExternalPosition_ok_of_ne_zero hunit hedit
  have hstores := convertRealToVirtualUnit_stores h.multiplier_pos hv
  have hvne : v ≠ 0 := mt hstores.eq_zero_iff.mp hunit
  have hsign := hstores.keepsSign h.multiplier_pos
  have hnodup := h.external_nodup component
  refine ⟨components, modules, ⟨v, data⟩, ?_, rfl⟩
  cases hlisting with
  | addComponent hnot hmodule =>
    exact ⟨Position.nodup_concat hnot h.components_nodup, Position.nodup_concat hmodule hnodup,
      fun _ ↦ by simp, fun c hc ↦ by simp [hc], fun q hq ↦ by simp [hq],
      Or.inr (Or.inl ⟨by simp, hvne, hsign⟩)⟩
  | addModule hmem hmodule =>
    exact ⟨h.components_nodup, Position.nodup_concat hmodule hnodup, fun _ ↦ hmem,
      fun _ _ ↦ Iff.rfl, fun q hq ↦ by simp [hq], Or.inr (Or.inl ⟨by simp, hvne, hsign⟩)⟩
  | keep hmem hmodule =>
    exact ⟨h.components_nodup, hnodup, fun _ ↦ hmem, fun _ _ ↦ Iff.rfl, fun _ _ ↦ Iff.rfl,
      Or.inr (Or.inl ⟨hmodule, hvne, hsign⟩)⟩

/-- Dropping a listed module keeps the other ones. -/
theorem Housed.relisting_remove {components : List Address} (h : s.Housed)
    (hmodule : module ∈ s.externalPositionModules component) (hnodup : components.Nodup)
    (hmem : SwapRemove.swapRemove (s.externalPositionModules component) module ≠ [] →
      component ∈ components)
    (hother : ∀ c, c ≠ component → (c ∈ components ↔ c ∈ s.components)) :
    s.Relisting component module components
      (SwapRemove.swapRemove (s.externalPositionModules component) module) .empty where
  components_nodup := hnodup
  modules_nodup := SwapRemove.nodup_swapRemove hmodule (h.external_nodup component)
  mem_components := hmem
  other_components := hother
  other_modules := fun q hq ↦ by
    simp [SwapRemove.mem_swapRemove hmodule (h.external_nodup component), hq]
  own := by
    refine Or.inl ⟨?_, rfl⟩
    simp [SwapRemove.mem_swapRemove hmodule (h.external_nodup component)]

theorem Housed.editExternalPosition_relisting {newUnit : ℤ} {data : List UInt8} (h : s.Housed)
    (hedit : Position.editExternalPosition s controller sender component module newUnit data =
      .ok s') :
    ∃ components modules e, s.Relisting component module components modules e ∧
      s' = s.relist component module components modules e := by
  by_cases hunit : newUnit = 0
  · subst hunit
    cases Position.editExternalPosition_zero_ok hedit with
    | nothing =>
      refine ⟨_, _, _, ?_, relist_self.symm⟩
      exact ⟨h.components_nodup, h.external_nodup component, h.mem_components component,
        fun _ _ ↦ Iff.rfl, fun _ _ ↦ Iff.rfl, Or.inr (Or.inr ⟨Iff.rfl, rfl⟩)⟩
    | module hreal hmodule hother =>
      have hmem := h.mem_components component (List.ne_nil_of_mem hmodule)
      exact ⟨s.components, _, .empty, h.relisting_remove hmodule h.components_nodup (fun _ ↦ hmem)
        (fun _ _ ↦ Iff.rfl), rfl⟩
    | component hreal hdefault hmodules hmem =>
      refine ⟨_, _, .empty, h.relisting_remove (by simp [hmodules])
        (SwapRemove.nodup_swapRemove hmem h.components_nodup) ?_ ?_, rfl⟩
      · -- the module was the only one in the list
        intro hne
        rw [hmodules] at hne
        exact absurd (by simp [SwapRemove.swapRemove]) hne
      · intro c hc
        simp [SwapRemove.mem_swapRemove hmem h.components_nodup, hc]
  · exact h.relisting_of_ne_zero hunit hedit

theorem Housed.editExternalPosition {newUnit : ℤ} {data : List UInt8} (h : s.Housed)
    (hedit : Position.editExternalPosition s controller sender component module newUnit data =
      .ok s') : s'.Housed := by
  obtain ⟨components, modules, e, hrelisting, rfl⟩ := h.editExternalPosition_relisting hedit
  refine ⟨hrelisting.components_nodup, ?_, ?_, h.multiplier_pos⟩
  · intro c
    rw [relist_externalPositionModules]
    split_ifs
    · exact hrelisting.modules_nodup
    · exact h.external_nodup c
  · intro c hc
    rw [relist_externalPositionModules] at hc
    split_ifs at hc with hcomponent
    · rw [hcomponent]
      exact hrelisting.mem_components hc
    · exact (hrelisting.other_components c hcomponent).mpr (h.mem_components c hc)

/-- The module may edit the positions of its assets; other modules may edit theirs. -/
theorem Holdings.editExternalPosition {newUnit : ℤ} {data : List UInt8} (h : s.Holdings p assets)
    (hs : s.Housed) (howns : module = p → component ∈ assets)
    (hedit : Position.editExternalPosition s controller sender component module newUnit data =
      .ok s') : s'.Holdings p assets := by
  obtain ⟨components, modules, e, hrelisting, rfl⟩ := hs.editExternalPosition_relisting hedit
  have hframe := s.sameFrame_relist component module components modules e
  have hlisted := h.listed_iff component
  refine ⟨?_, ?_, ?_⟩
  · intro c
    rw [relist_externalPositionModules, relist_externalPositionVirtualUnit]
    by_cases hc : c = component
    · subst hc
      by_cases hp : p = module
      · subst hp
        rcases hrelisting.own with ⟨hnot, hzero⟩ | ⟨hmem, hne, -⟩ | ⟨hiff, heq⟩
        · simp [hnot, hzero]
        · simp [hmem, hne]
        · simp [hiff, heq, hlisted]
      · simp [hp, hrelisting.other_modules p hp, hlisted]
    · simpa [hc] using h.listed_iff c
  · intro c
    rw [hframe.keepsSign_iff, relist_externalPositionVirtualUnit]
    split_ifs with hpos
    · rcases hrelisting.own with ⟨-, hzero⟩ | ⟨-, -, hsign⟩ | ⟨-, heq⟩
      · rw [hzero]
        exact fun hne ↦ absurd rfl hne
      · exact hsign
      · rw [heq, ← hpos.1, ← hpos.2]
        exact h.keepsSign c
    · exact h.keepsSign c
  · intro c hc
    rw [relist_externalPositionModules] at hc
    by_cases hcomponent : c = component
    · subst hcomponent
      by_cases hp : p = module
      · exact howns hp.symm
      · rw [if_pos rfl, hrelisting.other_modules p hp] at hc
        exact h.mem_assets c hc
    · rw [if_neg hcomponent] at hc
      exact h.mem_assets c hc

/-! ## Units that are written directly -/

theorem Housed.setExternalPosition (h : s.Housed) (e : ExternalPosition) :
    (s.setExternalPosition component module e).Housed := by
  refine ⟨h.components_nodup, ?_, ?_, h.multiplier_pos⟩
  · intro c
    rw [setExternalPosition_externalPositionModules]
    exact h.external_nodup c
  · intro c hc
    rw [setExternalPosition_externalPositionModules] at hc
    exact h.mem_components c hc

theorem Holdings.setExternalPosition (h : s.Holdings p assets) (hne : p ≠ module)
    (e : ExternalPosition) : (s.setExternalPosition component module e).Holdings p assets := by
  have hframe := s.sameFrame_setExternalPosition component module e
  have hunit : ∀ c, (s.setExternalPosition component module e).externalPositionVirtualUnit c p =
      s.externalPositionVirtualUnit c p := by
    intro c
    rw [setExternalPosition_externalPositionVirtualUnit, if_neg fun hpos ↦ hne hpos.2]
  refine ⟨?_, ?_, ?_⟩
  · intro c
    rw [setExternalPosition_externalPositionModules, hunit]
    exact h.listed_iff c
  · intro c
    rw [hframe.keepsSign_iff, hunit]
    exact h.keepsSign c
  · intro c hc
    rw [setExternalPosition_externalPositionModules] at hc
    exact h.mem_assets c hc

/-! ## Positions left by a module -/

/-- The module has a position in the component: it is listed, or it has a unit. -/
def Holds (s : SetToken) (p c : Address) : Prop :=
  p ∈ s.externalPositionModules c ∨ s.externalPositionVirtualUnit c p ≠ 0

/-- The module has no position in any component. -/
def OrphanFree (s : SetToken) (p : Address) : Prop := ∀ c, ¬ s.Holds p c

theorem Holdings.holds_iff (h : s.Holdings p assets) (c : Address) :
    s.Holds p c ↔ p ∈ s.externalPositionModules c := by
  unfold Holds
  rw [← h.listed_iff c, or_self]

theorem Holdings.orphanFree (h : s.Holdings p assets)
    (hzero : ∀ c ∈ assets, s.externalRealUnit c p = 0) : s.OrphanFree p := by
  intro c hholds
  have hlisted : p ∈ s.externalPositionModules c := (h.holds_iff c).mp hholds
  have hreal := hzero c (h.mem_assets c hlisted)
  exact (h.listed_iff c).mp hlisted ((h.externalRealUnit_eq_zero_iff c).mp hreal)

/-- The position store and the multiplier are the same. -/
structure SamePositions (s s' : SetToken) : Prop where
  components : s'.components = s.components
  componentPositions : s'.componentPositions = s.componentPositions
  positionMultiplier : s'.positionMultiplier = s.positionMultiplier

namespace SamePositions

theorem refl (s : SetToken) : s.SamePositions s :=
  ⟨rfl, rfl, rfl⟩

theorem trans {s₁ s₂ s₃ : SetToken} (h : s₁.SamePositions s₂) (h' : s₂.SamePositions s₃) :
    s₁.SamePositions s₃ where
  components := h'.components.trans h.components
  componentPositions := h'.componentPositions.trans h.componentPositions
  positionMultiplier := h'.positionMultiplier.trans h.positionMultiplier

theorem externalPositionModules (h : s.SamePositions s') (c : Address) :
    s'.externalPositionModules c = s.externalPositionModules c := by
  unfold SetToken.externalPositionModules
  rw [h.componentPositions]

theorem externalPositionVirtualUnit (h : s.SamePositions s') (c p : Address) :
    s'.externalPositionVirtualUnit c p = s.externalPositionVirtualUnit c p := by
  unfold SetToken.externalPositionVirtualUnit
  rw [h.componentPositions]

theorem holds_iff (h : s.SamePositions s') (p c : Address) : s'.Holds p c ↔ s.Holds p c := by
  unfold Holds
  rw [h.externalPositionModules, h.externalPositionVirtualUnit]

theorem orphanFree_iff (h : s.SamePositions s') (p : Address) :
    s'.OrphanFree p ↔ s.OrphanFree p := by
  unfold OrphanFree
  simp only [h.holds_iff]

theorem housed (h : s.SamePositions s') (hs : s.Housed) : s'.Housed := by
  refine ⟨?_, ?_, ?_, ?_⟩
  · rw [h.components]
    exact hs.components_nodup
  · intro c
    rw [h.externalPositionModules]
    exact hs.external_nodup c
  · intro c
    rw [h.externalPositionModules, h.components]
    exact hs.mem_components c
  · rw [h.positionMultiplier]
    exact hs.multiplier_pos

theorem holdings (h : s.SamePositions s') (hp : s.Holdings p assets) : s'.Holdings p assets := by
  refine ⟨?_, ?_, ?_⟩
  · intro c
    rw [h.externalPositionModules, h.externalPositionVirtualUnit]
    exact hp.listed_iff c
  · intro c
    unfold KeepsSign realUnit
    rw [h.externalPositionVirtualUnit, h.positionMultiplier]
    exact hp.keepsSign c
  · intro c
    rw [h.externalPositionModules]
    exact hp.mem_assets c

end SamePositions

end SetToken

/-! ## What modules do to the positions of another one -/

namespace World

variable {F : Footprint} {w w' : World} {env : Env} {p : Address} {assets : Set Address}

theorem Steady.samePositions (h : w.Steady w') : w.setToken.SamePositions w'.setToken := by
  obtain ⟨t, ht, -⟩ := h.setToken
  rw [ht]
  exact ⟨rfl, rfl, rfl⟩

theorem mintStep_samePositions {quantity : ℕ} (h : ModuleBase.MintStep w w' quantity) :
    w.setToken.SamePositions w'.setToken := by
  obtain ⟨t, ht, -⟩ := h.setToken
  rw [ht]
  exact ⟨rfl, rfl, rfl⟩

theorem burnStep_samePositions {account : Address} {quantity : ℕ}
    (h : ModuleBase.BurnStep w w' account quantity) : w.setToken.SamePositions w'.setToken := by
  obtain ⟨t, ht, -⟩ := h.setToken
  rw [ht]
  exact ⟨rfl, rfl, rfl⟩

theorem Edit.housed (h : Edit env F w w') (hw : w.setToken.Housed) : w'.setToken.Housed := by
  cases h with
  | invoke module invocation hcalls h => exact (invoke_steady h).samePositions.housed hw
  | accrue cToken => exact hw
  | default module component unit h => exact hw.editDefaultPosition h
  | external module component unit data howns h => exact hw.editExternalPosition h
  | unit module component unit hwrites h =>
    obtain ⟨-, v, -, rfl⟩ := SetToken.editExternalPositionUnit_eq_ok.mp h
    exact hw.setExternalPosition _

/-- The module edits positions of its assets only, and no unit of it is written directly. -/
theorem Edit.holdings (h : Edit env F w w') (hw : w.setToken.Housed)
    (hp : w.setToken.Holdings p assets) (howns : ∀ c, F.owns p c → c ∈ assets)
    (hwrites : ∀ c, ¬ F.writes p c) : w'.setToken.Holdings p assets := by
  cases h with
  | invoke module invocation hcalls h => exact (invoke_steady h).samePositions.holdings hp
  | accrue cToken => exact hp
  | default module component unit h => exact hp.editDefaultPosition h
  | external module component unit data hmodule h =>
    apply hp.editExternalPosition hw ?_ h
    rintro rfl
    exact howns component hmodule
  | unit module component unit hmodule h =>
    obtain ⟨-, v, -, rfl⟩ := SetToken.editExternalPositionUnit_eq_ok.mp h
    apply hp.setExternalPosition
    rintro rfl
    exact hwrites component hmodule

theorem Edits.housed (h : Edits env F w w') (hw : w.setToken.Housed) : w'.setToken.Housed :=
  h.invariant (P := fun v ↦ v.setToken.Housed) (fun _ _ hedit hv ↦ hedit.housed hv) hw

theorem Edits.holdings (h : Edits env F w w') (hw : w.setToken.Housed)
    (hp : w.setToken.Holdings p assets) (howns : ∀ c, F.owns p c → c ∈ assets)
    (hwrites : ∀ c, ¬ F.writes p c) : w'.setToken.Holdings p assets := by
  have hboth : w'.setToken.Housed ∧ w'.setToken.Holdings p assets := by
    apply h.invariant (P := fun v ↦ v.setToken.Housed ∧ v.setToken.Holdings p assets) ?_ ⟨hw, hp⟩
    intro v v' hedit ⟨hv, hvp⟩
    exact ⟨hedit.housed hv, hedit.holdings hv hvp howns hwrites⟩
  exact hboth.2

end World

end SetProtocol
