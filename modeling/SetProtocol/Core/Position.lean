import SetProtocol.Core.SetTokenLemmas

/-!
# The Position library

Editing default and external positions through the low-level functions of the SetToken, and the
conversion between units and total amounts.  The library decides from the real units whether a
component has to be added to or removed from the token's list of components.
-/

namespace SetProtocol.Position

open PreciseUnitMath

def hasDefaultPosition (s : SetToken) (component : Address) : Outcome Bool := do
  let unit ← s.getDefaultPositionRealUnit component
  pure (decide (0 < unit))

def hasExternalPosition (s : SetToken) (component : Address) : Bool :=
  decide (0 < (s.externalPositionModules component).length)

def hasSufficientDefaultUnits (s : SetToken) (component : Address) (unit : ℕ) : Outcome Bool := do
  let current ← s.getDefaultPositionRealUnit component
  let needed ← SafeCast.toInt256 unit
  pure (decide (needed ≤ current))

def hasSufficientExternalUnits (s : SetToken) (component positionModule : Address) (unit : ℕ) :
    Outcome Bool := do
  let current ← s.getExternalPositionRealUnit component positionModule
  let needed ← SafeCast.toInt256 unit
  pure (decide (needed ≤ current))

/-- The branches of `editDefaultPosition` before the unit is written: a component without external
positions enters or leaves the list together with its default position. -/
def trackDefaultComponent (s : SetToken) (controller : Controller) (sender component : Address)
    (isPositionFound : Bool) (newUnit : ℕ) : Outcome SetToken :=
  if isPositionFound = false ∧ 0 < newUnit then
    if hasExternalPosition s component = false then
      s.addComponent controller sender component
    else
      pure s
  else if isPositionFound = true ∧ newUnit = 0 then
    if hasExternalPosition s component = false then
      s.removeComponent controller sender component
    else
      pure s
  else
    pure s

def editDefaultPosition (s : SetToken) (controller : Controller) (sender component : Address)
    (newUnit : ℕ) : Outcome SetToken := do
  let isPositionFound ← hasDefaultPosition s component
  let s ← trackDefaultComponent s controller sender component isPositionFound newUnit
  let unit ← SafeCast.toInt256 newUnit
  s.editDefaultPositionUnit controller sender component unit

/-- The branches of `editExternalPosition` for a non-zero unit before the unit is written. -/
def trackExternalPosition (s : SetToken) (controller : Controller)
    (sender component module : Address) : Outcome SetToken :=
  if s.isComponent component = false then do
    let s ← s.addComponent controller sender component
    s.addExternalPositionModule controller sender component module
  else if s.isExternalPositionModule component module = false then
    s.addExternalPositionModule controller sender component module
  else
    pure s

/-- The component leaves the list when its last position is the external one that goes. -/
def untrackExternalComponent (s : SetToken) (controller : Controller)
    (sender component module : Address) (defaultUnit : ℤ) : Outcome SetToken :=
  let positionModules := s.externalPositionModules component
  if defaultUnit = 0 ∧ positionModules.length = 1 then do
    require (positionModules.head? = some module)
      "External positions must be 0 to remove component"
    s.removeComponent controller sender component
  else
    pure s

def editExternalPosition (s : SetToken) (controller : Controller)
    (sender component module : Address) (newUnit : ℤ) (data : List UInt8) : Outcome SetToken :=
  if newUnit ≠ 0 then do
    let s ← trackExternalPosition s controller sender component module
    let s ← s.editExternalPositionUnit controller sender component module newUnit
    s.editExternalPositionData controller sender component module data
  else do
    require (data.length = 0) "Passed data must be null"
    let currentUnit ← s.getExternalPositionRealUnit component module
    if currentUnit ≠ 0 then do
      let defaultUnit ← s.getDefaultPositionRealUnit component
      let s ← untrackExternalComponent s controller sender component module defaultUnit
      s.removeExternalPositionModule controller sender component module
    else
      pure s

def getDefaultTotalNotional (setTokenSupply positionUnit : ℕ) : Outcome ℕ :=
  preciseMul setTokenSupply positionUnit

def getDefaultPositionUnit (setTokenSupply totalNotional : ℕ) : Outcome ℕ :=
  preciseDiv totalNotional setTokenSupply

def getDefaultTrackedBalance (s : SetToken) (component : Address) : Outcome ℕ := do
  let positionUnit ← s.getDefaultPositionRealUnit component
  let unit ← SafeCast.toUint256 positionUnit
  preciseMul s.totalSupply unit

def calculateDefaultEditPositionUnit
    (setTokenSupply preTotalNotional postTotalNotional prePositionUnit : ℕ) : Outcome ℕ := do
  let tracked ← preciseMul prePositionUnit setTokenSupply
  let airdroppedAmount ← SafeMath.sub preTotalNotional tracked
  let remaining ← SafeMath.sub postTotalNotional airdroppedAmount
  preciseDiv remaining setTokenSupply

/-- The unit that `calculateAndEditDefaultPosition` writes. -/
def newTokenUnit (setTotalSupply componentPreviousBalance currentBalance positionUnit : ℕ) :
    Outcome ℕ :=
  if 0 < currentBalance then
    calculateDefaultEditPositionUnit setTotalSupply componentPreviousBalance currentBalance
      positionUnit
  else
    pure 0

/-- The SetToken's balance of the component is read when the function is called and passed as
`currentBalance`.  Returns the new state with that balance, the previous unit and the new unit. -/
def calculateAndEditDefaultPosition (s : SetToken) (controller : Controller)
    (sender component : Address) (setTotalSupply componentPreviousBalance currentBalance : ℕ) :
    Outcome (SetToken × ℕ × ℕ × ℕ) := do
  let positionUnit ← s.getDefaultPositionRealUnit component
  let positionUnit ← SafeCast.toUint256 positionUnit
  let newUnit ←
    newTokenUnit setTotalSupply componentPreviousBalance currentBalance positionUnit
  let s ← editDefaultPosition s controller sender component newUnit
  pure (s, currentBalance, positionUnit, newUnit)

/-! ## What the edits do -/

variable {s s' : SetToken} {controller : Controller} {sender component module : Address}

/-- How a default edit changes the list of components. -/
inductive DefaultListing (s : SetToken) (component : Address) (newUnit : ℕ) :
    List Address → Prop where
  | add (hreal : s.defaultRealUnit component ≤ 0) (hunit : 0 < newUnit)
      (hext : s.externalPositionModules component = []) (hnot : component ∉ s.components) :
      DefaultListing s component newUnit (s.components ++ [component])
  | remove (hreal : 0 < s.defaultRealUnit component) (hunit : newUnit = 0)
      (hext : s.externalPositionModules component = []) (hmem : component ∈ s.components) :
      DefaultListing s component newUnit (SwapRemove.swapRemove s.components component)
  | keepExternal (hext : s.externalPositionModules component ≠ []) :
      DefaultListing s component newUnit s.components
  | keepOpen (hreal : 0 < s.defaultRealUnit component) (hunit : 0 < newUnit) :
      DefaultListing s component newUnit s.components
  | keepClosed (hreal : s.defaultRealUnit component ≤ 0) (hunit : newUnit = 0) :
      DefaultListing s component newUnit s.components

theorem DefaultListing.mem_iff_of_ne {newUnit : ℕ} {components : List Address} {other : Address}
    (h : DefaultListing s component newUnit components) (hne : other ≠ component) :
    other ∈ components ↔ other ∈ s.components := by
  cases h with
  | add => simp [hne]
  | remove _ _ _ hmem =>
    rw [(SwapRemove.swapRemove_perm hmem).mem_iff, List.mem_erase_of_ne hne]
  | keepExternal => rfl
  | keepOpen => rfl
  | keepClosed => rfl

theorem nodup_concat {components : List Address} (hnot : component ∉ components)
    (h : components.Nodup) : (components ++ [component]).Nodup := by
  rw [List.nodup_append_comm]
  exact List.nodup_cons.mpr ⟨hnot, h⟩

theorem DefaultListing.nodup {newUnit : ℕ} {components : List Address}
    (h : DefaultListing s component newUnit components) (hs : s.components.Nodup) :
    components.Nodup := by
  cases h with
  | add _ _ _ hnot => exact nodup_concat hnot hs
  | remove _ _ _ hmem => exact SwapRemove.nodup_swapRemove hmem hs
  | keepExternal => exact hs
  | keepOpen => exact hs
  | keepClosed => exact hs

theorem trackDefaultComponent_ok {newUnit : ℕ} {t : SetToken}
    (h : trackDefaultComponent s controller sender component
      (decide (0 < s.defaultRealUnit component)) newUnit = .ok t) :
    ∃ components, t = s.setComponents components ∧
      DefaultListing s component newUnit components := by
  have hext : hasExternalPosition s component = false ↔
      s.externalPositionModules component = [] := by
    simp [hasExternalPosition, List.length_eq_zero_iff]
  unfold trackDefaultComponent at h
  simp only [decide_eq_false_iff_not, not_lt, decide_eq_true_eq, hext] at h
  split_ifs at h with hadd hnone hrem hnone'
  · obtain ⟨-, hnot, rfl⟩ := SetToken.addComponent_eq_ok.mp h
    exact ⟨_, rfl, .add hadd.1 hadd.2 hnone hnot⟩
  · exact ⟨_, (Outcome.pure_eq_ok.mp h).symm, .keepExternal hnone⟩
  · obtain ⟨-, hmem, rfl⟩ := SetToken.removeComponent_eq_ok.mp h
    exact ⟨_, rfl, .remove hrem.1 hrem.2 hnone' hmem⟩
  · exact ⟨_, (Outcome.pure_eq_ok.mp h).symm, .keepExternal hnone'⟩
  · refine ⟨_, (Outcome.pure_eq_ok.mp h).symm, ?_⟩
    rcases le_or_gt (s.defaultRealUnit component) 0 with hreal | hreal
    · exact .keepClosed hreal (by omega)
    · exact .keepOpen hreal (by omega)

/-- A default edit writes the virtual unit of the new unit and relists the component. -/
theorem editDefaultPosition_ok {newUnit : ℕ}
    (h : editDefaultPosition s controller sender component newUnit = .ok s') :
    ∃ v components, s.convertRealToVirtualUnit (newUnit : ℤ) = .ok v ∧
      DefaultListing s component newUnit components ∧
      s' = (s.setComponents components).setDefaultUnit component v := by
  simp only [editDefaultPosition, hasDefaultPosition, Outcome.bind_eq_ok,
    SetToken.getDefaultPositionRealUnit_eq_ok, Outcome.pure_eq_ok, SafeCast.toInt256_eq_ok,
    SetToken.editDefaultPositionUnit_eq_ok] at h
  obtain ⟨_, ⟨_, ⟨_, rfl⟩, rfl⟩, t, htrack, _, ⟨_, rfl⟩, -, v, hv, rfl⟩ := h
  obtain ⟨components, rfl, hlisting⟩ := trackDefaultComponent_ok htrack
  exact ⟨v, components, hv, hlisting, rfl⟩

/-- How an external edit with a non-zero unit changes the lists. -/
inductive ExternalListing (s : SetToken) (component module : Address) :
    List Address → List Address → Prop where
  | addComponent (hnot : component ∉ s.components)
      (hmodule : module ∉ s.externalPositionModules component) :
      ExternalListing s component module (s.components ++ [component])
        (s.externalPositionModules component ++ [module])
  | addModule (hmem : component ∈ s.components)
      (hmodule : module ∉ s.externalPositionModules component) :
      ExternalListing s component module s.components
        (s.externalPositionModules component ++ [module])
  | keep (hmem : component ∈ s.components)
      (hmodule : module ∈ s.externalPositionModules component) :
      ExternalListing s component module s.components (s.externalPositionModules component)

theorem setExternalModules_self :
    s.setExternalModules component (s.externalPositionModules component) = s := by
  simp [SetToken.setExternalModules, SetToken.setComponentPosition,
    SetToken.externalPositionModules]

theorem setExternalPosition_setExternalPosition {e e' : ExternalPosition} :
    (s.setExternalPosition component module e).setExternalPosition component module e' =
      s.setExternalPosition component module e' := by
  simp [SetToken.setExternalPosition, SetToken.setComponentPosition]

theorem trackExternalPosition_ok {t : SetToken}
    (h : trackExternalPosition s controller sender component module = .ok t) :
    ∃ components modules, ExternalListing s component module components modules ∧
      t = (s.setComponents components).setExternalModules component modules := by
  unfold trackExternalPosition at h
  simp only [SetToken.isComponent_eq_false, SetToken.isExternalPositionModule_eq_false] at h
  by_cases hmem : component ∈ s.components
  · by_cases hmodule : module ∈ s.externalPositionModules component
    · simp only [hmem, hmodule, not_true_eq_false, if_false] at h
      obtain rfl := Outcome.pure_eq_ok.mp h
      exact ⟨_, _, .keep hmem hmodule, setExternalModules_self.symm⟩
    · simp only [hmem, hmodule, not_true_eq_false, not_false_eq_true, if_false, if_true] at h
      obtain ⟨-, -, rfl⟩ := SetToken.addExternalPositionModule_eq_ok.mp h
      exact ⟨_, _, .addModule hmem hmodule, rfl⟩
  · simp only [hmem, not_false_eq_true, if_true, Outcome.bind_eq_ok, SetToken.addComponent_eq_ok,
      SetToken.addExternalPositionModule_eq_ok] at h
    obtain ⟨_, ⟨-, -, rfl⟩, -, hmodule, rfl⟩ := h
    exact ⟨_, _, .addComponent hmem hmodule, rfl⟩

/-- An external edit with a non-zero unit lists the module and writes its position. -/
theorem editExternalPosition_ok_of_ne_zero {newUnit : ℤ} {data : List UInt8} (hunit : newUnit ≠ 0)
    (h : editExternalPosition s controller sender component module newUnit data = .ok s') :
    ∃ v components modules, s.convertRealToVirtualUnit newUnit = .ok v ∧
      ExternalListing s component module components modules ∧
      s' = ((s.setComponents components).setExternalModules component
        modules).setExternalPosition component module ⟨v, data⟩ := by
  simp only [editExternalPosition, if_pos hunit, Outcome.bind_eq_ok,
    SetToken.editExternalPositionUnit_eq_ok, SetToken.editExternalPositionData_eq_ok] at h
  obtain ⟨_, htrack, _, ⟨-, v, hv, rfl⟩, -, rfl⟩ := h
  obtain ⟨components, modules, hlisting, rfl⟩ := trackExternalPosition_ok htrack
  refine ⟨v, components, modules, hv, hlisting, ?_⟩
  rw [setExternalPosition_setExternalPosition]
  simp

/-- The fields outside the position store survive a default edit. -/
theorem editDefaultPosition_sameFrame {newUnit : ℕ}
    (h : editDefaultPosition s controller sender component newUnit = .ok s') : s.SameFrame s' := by
  obtain ⟨v, components, -, -, rfl⟩ := editDefaultPosition_ok h
  exact (s.sameFrame_setComponents components).trans (SetToken.sameFrame_setDefaultUnit _ _ _)

/-- The edited component reads the unit that comes back from storage, and every other position reads
what it read before. -/
theorem editDefaultPosition_readBack {newUnit : ℕ} (hm : 0 < s.positionMultiplier)
    (h : editDefaultPosition s controller sender component newUnit = .ok s') :
    s'.defaultRealUnit component = s.readBack newUnit ∧
      (∀ c, c ≠ component → s'.defaultRealUnit c = s.defaultRealUnit c) ∧
      ∀ c p, s'.externalRealUnit c p = s.externalRealUnit c p := by
  have hframe := editDefaultPosition_sameFrame h
  obtain ⟨v, components, hv, -, rfl⟩ := editDefaultPosition_ok h
  have hstored := (SetToken.convertRealToVirtualUnit_stores hm hv).eq_div
  refine ⟨?_, fun c hc ↦ ?_, fun c p ↦ ?_⟩
  · unfold SetToken.defaultRealUnit SetToken.readBack
    rw [hframe.realUnit, SetToken.setDefaultUnit_defaultPositionVirtualUnit, if_pos rfl, hstored]
  · simp [SetToken.defaultRealUnit, hframe.realUnit, hc]
  · simp [SetToken.externalRealUnit, hframe.realUnit]

/-- Drop a module from a component's list and clear its external position. -/
def removeModulePosition (s : SetToken) (component module : Address) : SetToken :=
  (s.setExternalModules component
    (SwapRemove.swapRemove (s.externalPositionModules component) module)).setExternalPosition
      component module ExternalPosition.empty

/-- The three outcomes of an external edit with unit zero. -/
inductive ExternalRemoval (s : SetToken) (component module : Address) : SetToken → Prop where
  | nothing (hreal : s.externalRealUnit component module = 0) :
      ExternalRemoval s component module s
  | module (hreal : s.externalRealUnit component module ≠ 0)
      (hmodule : module ∈ s.externalPositionModules component)
      (hother : s.defaultRealUnit component ≠ 0 ∨
        (s.externalPositionModules component).length ≠ 1) :
      ExternalRemoval s component module (removeModulePosition s component module)
  | component (hreal : s.externalRealUnit component module ≠ 0)
      (hdefault : s.defaultRealUnit component = 0)
      (hmodule : s.externalPositionModules component = [module])
      (hmem : component ∈ s.components) :
      ExternalRemoval s component module (removeModulePosition
        (s.setComponents (SwapRemove.swapRemove s.components component)) component module)

theorem editExternalPosition_zero_ok {data : List UInt8}
    (h : editExternalPosition s controller sender component module 0 data = .ok s') :
    ExternalRemoval s component module s' := by
  simp only [editExternalPosition, ne_eq, not_true_eq_false, if_false, Outcome.bind_eq_ok,
    Outcome.require_eq_ok, SetToken.getExternalPositionRealUnit_eq_ok] at h
  obtain ⟨_, -, _, ⟨-, rfl⟩, h⟩ := h
  split_ifs at h with hreal
  · obtain rfl := Outcome.pure_eq_ok.mp h
    exact .nothing hreal
  · simp only [Outcome.bind_eq_ok, SetToken.getDefaultPositionRealUnit_eq_ok,
      SetToken.removeExternalPositionModule_eq_ok, untrackExternalComponent] at h
    obtain ⟨_, ⟨-, rfl⟩, t, htrack, -, hmodule, rfl⟩ := h
    split_ifs at htrack with hlast
    · simp only [Outcome.bind_eq_ok, Outcome.require_eq_ok, SetToken.removeComponent_eq_ok]
        at htrack
      obtain ⟨_, hhead, -, hmem, rfl⟩ := htrack
      have hmodules : s.externalPositionModules component = [module] := by
        obtain ⟨p, hp⟩ := List.length_eq_one_iff.mp hlast.2
        rw [hp] at hhead ⊢
        simpa using hhead
      exact .component hreal hlast.1 hmodules hmem
    · obtain rfl := Outcome.pure_eq_ok.mp htrack
      exact .module hreal hmodule (by tauto)

theorem sameFrame_removeModulePosition (s : SetToken) (component module : Address) :
    s.SameFrame (removeModulePosition s component module) :=
  (s.sameFrame_setExternalModules component _).trans (SetToken.sameFrame_setExternalPosition ..)

/-- The fields outside the position store survive an external edit. -/
theorem editExternalPosition_sameFrame {newUnit : ℤ} {data : List UInt8}
    (h : editExternalPosition s controller sender component module newUnit data = .ok s') :
    s.SameFrame s' := by
  by_cases hunit : newUnit = 0
  · subst hunit
    cases editExternalPosition_zero_ok h with
    | nothing => exact .refl s
    | module => exact sameFrame_removeModulePosition s component module
    | component =>
      exact (s.sameFrame_setComponents _).trans (sameFrame_removeModulePosition _ component module)
  · obtain ⟨v, components, modules, -, -, rfl⟩ := editExternalPosition_ok_of_ne_zero hunit h
    exact ((s.sameFrame_setComponents components).trans
      (SetToken.sameFrame_setExternalModules _ _ modules)).trans
        (SetToken.sameFrame_setExternalPosition ..)

theorem editDefaultPosition_externalRealUnit {newUnit : ℕ} (c p : Address)
    (h : editDefaultPosition s controller sender component newUnit = .ok s') :
    s'.externalRealUnit c p = s.externalRealUnit c p := by
  have hframe := editDefaultPosition_sameFrame h
  obtain ⟨v, components, -, -, rfl⟩ := editDefaultPosition_ok h
  unfold SetToken.externalRealUnit
  rw [hframe.realUnit, SetToken.setDefaultUnit_externalPositionVirtualUnit,
    SetToken.setComponents_externalPositionVirtualUnit]

theorem removeModulePosition_externalPositionVirtualUnit (s : SetToken)
    (component module c p : Address) :
    (removeModulePosition s component module).externalPositionVirtualUnit c p =
      if c = component ∧ p = module then 0 else s.externalPositionVirtualUnit c p := by
  unfold removeModulePosition
  rw [SetToken.setExternalPosition_externalPositionVirtualUnit,
    SetToken.setExternalModules_externalPositionVirtualUnit]
  rfl

/-- An external edit changes one real unit, to what is read back of the unit that it writes. -/
theorem editExternalPosition_externalRealUnit {newUnit : ℤ} {data : List UInt8} (c p : Address)
    (hm : 0 < s.positionMultiplier)
    (h : editExternalPosition s controller sender component module newUnit data = .ok s') :
    s'.externalRealUnit c p =
      if c = component ∧ p = module then s.readBack newUnit else s.externalRealUnit c p := by
  have hframe := editExternalPosition_sameFrame h
  unfold SetToken.externalRealUnit
  rw [hframe.realUnit]
  by_cases hunit : newUnit = 0
  · subst hunit
    rw [SetToken.readBack_zero]
    cases editExternalPosition_zero_ok h with
    | nothing hreal =>
      split_ifs with hpos
      · rw [hpos.1, hpos.2]
        exact hreal
      · rfl
    | module =>
      rw [removeModulePosition_externalPositionVirtualUnit]
      split_ifs
      · exact SetToken.realUnit_zero
      · rfl
    | component =>
      rw [removeModulePosition_externalPositionVirtualUnit,
        SetToken.setComponents_externalPositionVirtualUnit]
      split_ifs
      · exact SetToken.realUnit_zero
      · rfl
  · obtain ⟨v, components, modules, hv, -, rfl⟩ := editExternalPosition_ok_of_ne_zero hunit h
    rw [SetToken.setExternalPosition_externalPositionVirtualUnit,
      SetToken.setExternalModules_externalPositionVirtualUnit,
      SetToken.setComponents_externalPositionVirtualUnit]
    split_ifs
    · have hstores := SetToken.convertRealToVirtualUnit_stores hm hv
      rw [SetToken.readBack, ← hstores.eq_div]
    · rfl

end SetProtocol.Position
