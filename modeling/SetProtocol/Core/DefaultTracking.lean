import SetProtocol.Core.ModuleBase
import SetProtocol.Core.ModulePositions
import SetProtocol.Foundation.Rounding

/-!
# Default positions and airdrops

Modules that write the unit of an external position directly break the agreement of the external
positions with their lists.  The default positions stay tracked nevertheless: a listed component without
external positions has a default position.

`calculateAndEditDefaultPosition` computes a unit from what an action left of the balance, less the part
of the balance that no unit tracked before.  That part stays untracked: the new unit leaves at least as
much out, and no more than one unit of rounding besides.
-/

namespace SetProtocol

open PreciseUnitMath

namespace SetToken

variable {s s' : SetToken} {controller : Controller} {sender component module : Address}

/-- A component is listed for an external position or for a default position. -/
structure DefaultTracked (s : SetToken) : Prop extends s.Housed where
  default_nonneg : ∀ c, 0 ≤ s.defaultRealUnit c
  listed : ∀ c ∈ s.components, s.externalPositionModules c = [] → 0 < s.defaultRealUnit c

theorem PositionInvariant.defaultTracked (h : s.PositionInvariant) : s.DefaultTracked where
  toHoused := h.housed
  default_nonneg := fun c ↦ realUnit_nonneg h.multiplier_pos (h.default_nonneg c)
  listed := by
    intro c hc hext
    rw [h.defaultRealUnit_pos_iff]
    rcases (h.mem_components c).mp hc with hpos | hne
    · exact hpos
    · exact absurd hext hne

namespace DefaultTracked

/-- The invariant reads the position store and the multiplier. -/
theorem of_samePositions (h : s.DefaultTracked) (hsame : s.SamePositions s') :
    s'.DefaultTracked := by
  have hreal : ∀ c, s'.defaultRealUnit c = s.defaultRealUnit c := by
    intro c
    unfold defaultRealUnit realUnit defaultPositionVirtualUnit
    rw [hsame.componentPositions, hsame.positionMultiplier]
  refine ⟨hsame.housed h.toHoused, ?_, ?_⟩
  · intro c
    rw [hreal]
    exact h.default_nonneg c
  · intro c hc hext
    rw [hsame.components] at hc
    rw [hsame.externalPositionModules] at hext
    rw [hreal]
    exact h.listed c hc hext

theorem editDefaultPosition {newUnit : ℕ} (h : s.DefaultTracked)
    (hedit : Position.editDefaultPosition s controller sender component newUnit = .ok s') :
    s'.DefaultTracked := by
  obtain ⟨hown, hother, -⟩ := Position.editDefaultPosition_readBack h.multiplier_pos hedit
  have hhoused := h.toHoused.editDefaultPosition hedit
  obtain ⟨v, components, hv, hlisting, rfl⟩ := Position.editDefaultPosition_ok hedit
  have hstores := convertRealToVirtualUnit_stores h.multiplier_pos hv
  have hback : 0 < newUnit → 0 < s.readBack newUnit := by
    intro hpos
    have := (hstores.of_pos (by exact_mod_cast hpos)).2
    rwa [hstores.eq_div] at this
  have hnonneg : 0 ≤ s.readBack newUnit := by
    rcases Nat.eq_zero_or_pos newUnit with hzero | hpos
    · simp [hzero]
    · exact (hback hpos).le
  refine ⟨hhoused, ?_, ?_⟩
  · intro c
    by_cases hc : c = component
    · rw [hc, hown]
      exact hnonneg
    · rw [hother c hc]
      exact h.default_nonneg c
  · intro c hmem hext
    simp only [setDefaultUnit_components, setComponents_components] at hmem
    simp only [setDefaultUnit_externalPositionModules, setComponents_externalPositionModules] at hext
    by_cases hc : c = component
    · subst hc
      rw [hown]
      cases hlisting with
      | add _ hunit => exact hback hunit
      | remove _ _ _ hin =>
        rw [SwapRemove.mem_swapRemove hin h.components_nodup] at hmem
        exact absurd rfl hmem.1
      | keepExternal hne => exact absurd hext hne
      | keepOpen _ hunit => exact hback hunit
      | keepClosed hreal => exact absurd (h.listed c hmem hext) (not_lt.mpr hreal)
    · rw [hother c hc]
      exact h.listed c ((hlisting.mem_iff_of_ne hc).mp hmem) hext

/-- A component without a default position leaves the list with its last external position. -/
theorem editExternalPosition {newUnit : ℤ} {data : List UInt8} (h : s.DefaultTracked)
    (hedit : Position.editExternalPosition s controller sender component module newUnit data =
      .ok s') : s'.DefaultTracked := by
  have hframe := Position.editExternalPosition_sameFrame hedit
  have hhoused := h.toHoused.editExternalPosition hedit
  obtain ⟨components, modules, e, hrelisting, heq⟩ :=
    h.toHoused.editExternalPosition_relisting hedit
  have hreal : ∀ c, s'.defaultRealUnit c = s.defaultRealUnit c := by
    intro c
    unfold defaultRealUnit
    rw [hframe.realUnit, heq]
    simp [relist]
  refine ⟨hhoused, ?_, ?_⟩
  · intro c
    rw [hreal]
    exact h.default_nonneg c
  · intro c hmem hext
    rw [hreal]
    by_cases hc : c = component
    · subst hc
      by_cases hunit : newUnit = 0
      · subst hunit
        cases Position.editExternalPosition_zero_ok hedit with
        | nothing => exact h.listed c hmem hext
        | module hunit hmodule hother =>
          -- the module was the last one, so the default position keeps the component listed
          have hlength := (SwapRemove.swapRemove_perm hmodule).length_eq
          simp only [Position.removeModulePosition, setExternalPosition_externalPositionModules,
            setExternalModules_externalPositionModules, if_true] at hext
          rw [hext, List.length_erase_of_mem hmodule, List.length_nil] at hlength
          have hpos := List.length_pos_of_mem hmodule
          have hne : s.defaultRealUnit c ≠ 0 := by
            rcases hother with hne | hone
            · exact hne
            · omega
          exact lt_of_le_of_ne (h.default_nonneg c) hne.symm
        | component _ _ _ hin =>
          have hnot := (SwapRemove.mem_swapRemove hin h.components_nodup (b := c)).mp hmem
          exact absurd rfl hnot.1
      · obtain ⟨v, cs, ms, -, hlisting, rfl⟩ :=
          Position.editExternalPosition_ok_of_ne_zero hunit hedit
        simp only [setExternalPosition_externalPositionModules,
          setExternalModules_externalPositionModules, if_true] at hext
        have hmodule : module ∈ ms := by
          cases hlisting with
          | addComponent => exact List.mem_concat_self
          | addModule => exact List.mem_concat_self
          | keep _ hmodule => exact hmodule
        rw [hext] at hmodule
        cases hmodule
    · rw [heq, relist_components] at hmem
      rw [heq, relist_externalPositionModules, if_neg hc] at hext
      exact h.listed c ((hrelisting.other_components c hc).mp hmem) hext

/-- A unit that is written directly changes no list and no default position. -/
theorem editExternalPositionUnit {realUnit : ℤ} (h : s.DefaultTracked)
    (hedit : s.editExternalPositionUnit controller sender component module realUnit = .ok s') :
    s'.DefaultTracked := by
  obtain ⟨-, v, -, rfl⟩ := editExternalPositionUnit_eq_ok.mp hedit
  have hreal : ∀ c e, (s.setExternalPosition component module e).defaultRealUnit c =
      s.defaultRealUnit c := by
    intro c e
    unfold defaultRealUnit
    rw [(s.sameFrame_setExternalPosition component module e).realUnit,
      setExternalPosition_defaultPositionVirtualUnit]
  refine ⟨h.toHoused.setExternalPosition _, ?_, ?_⟩
  · intro c
    rw [hreal]
    exact h.default_nonneg c
  · intro c hmem hext
    rw [setExternalPosition_externalPositionModules] at hext
    rw [hreal]
    exact h.listed c hmem hext

/-- The least unit of the token stays positive under an accepted multiplier, and with it the default
units of all listed components. -/
theorem editPositionMultiplier {multiplier : ℤ} (h : s.DefaultTracked)
    (hedit : s.editPositionMultiplier controller sender multiplier = .ok s') :
    s'.DefaultTracked := by
  obtain ⟨-, hvalid, rfl⟩ := editPositionMultiplier_eq_ok.mp hedit
  obtain ⟨low, hbounds, hlow⟩ := validateNewMultiplier_ok hvalid
  obtain ⟨hm, hunit⟩ := mul_pos_of_ediv_pos hlow
  have hvirtual : ∀ c, 0 ≤ s.defaultPositionVirtualUnit c := by
    intro c
    by_contra hneg
    exact absurd (h.default_nonneg c) (not_le.mpr (realUnit_neg h.multiplier_pos (not_le.mp hneg)))
  refine ⟨⟨h.components_nodup, h.external_nodup, h.mem_components, hm⟩, ?_, ?_⟩
  · intro c
    exact realUnit_nonneg hm (hvirtual c)
  · intro c hmem hext
    have hne : s.defaultPositionVirtualUnit c ≠ 0 := by
      intro hzero
      have hreal := h.listed c hmem hext
      rw [defaultRealUnit, hzero, realUnit_zero] at hreal
      exact absurd hreal (lt_irrefl 0)
    have hpos : 0 < s.defaultPositionVirtualUnit c := lt_of_le_of_ne (hvirtual c) hne.symm
    have hle := (hbounds c hmem).default_le hne
    exact (keepsSign_iff hm).mp (keepsSign_of_le hm hunit fun _ ↦ hle) hpos

end DefaultTracked

/-! ## Runs -/

/-- What a transaction may do to the positions of a SetToken. -/
inductive PositionEdit (s : SetToken) : SetToken → Prop where
  | keep {s' : SetToken} (hsame : s.SamePositions s') : PositionEdit s s'
  | default {s' : SetToken} (controller : Controller) (sender component : Address) (newUnit : ℕ)
      (hedit : Position.editDefaultPosition s controller sender component newUnit = .ok s') :
      PositionEdit s s'
  | external {s' : SetToken} (controller : Controller) (sender component module : Address)
      (newUnit : ℤ) (data : List UInt8)
      (hedit : Position.editExternalPosition s controller sender component module newUnit data =
        .ok s') : PositionEdit s s'
  | unit {s' : SetToken} (controller : Controller) (sender component module : Address)
      (realUnit : ℤ)
      (hedit : s.editExternalPositionUnit controller sender component module realUnit = .ok s') :
      PositionEdit s s'
  | multiplier {s' : SetToken} (controller : Controller) (sender : Address) (newMultiplier : ℤ)
      (hedit : s.editPositionMultiplier controller sender newMultiplier = .ok s') :
      PositionEdit s s'

theorem PositionEdit.defaultTracked (h : s.PositionEdit s') (hs : s.DefaultTracked) :
    s'.DefaultTracked := by
  cases h with
  | keep hsame => exact hs.of_samePositions hsame
  | default controller sender component newUnit hedit => exact hs.editDefaultPosition hedit
  | external controller sender component module newUnit data hedit =>
    exact hs.editExternalPosition hedit
  | unit controller sender component module realUnit hedit =>
    exact hs.editExternalPositionUnit hedit
  | multiplier controller sender newMultiplier hedit => exact hs.editPositionMultiplier hedit

/-- The calls that do not edit a position keep them all. -/
theorem perform_positionEdit {call : Call} (h : s.perform call = .ok s') : s.PositionEdit s' := by
  rcases perform_cases h with ⟨component, newUnit, hedit⟩ |
    ⟨component, module, newUnit, data, hedit⟩ | ⟨newMultiplier, hedit⟩ |
    ⟨hcomponents, hpositions, hmultiplier⟩
  · exact .default call.controller call.sender component newUnit hedit
  · exact .external call.controller call.sender component module newUnit data hedit
  · exact .multiplier call.controller call.sender newMultiplier hedit
  · exact .keep ⟨hcomponents, hpositions, hmultiplier⟩

/-- Default positions are tracked in every state that a created SetToken reaches, whatever modules
write directly. -/
theorem defaultTracked_of_create {creator : SetTokenCreator} {controller controller' : Controller}
    {deployed manager : Address} {components modules : List Address} {units : List ℤ}
    (hcreate : creator.create controller sender deployed components units modules manager =
      .ok (controller', s))
    (hedits : Relation.ReflTransGen PositionEdit s s') : s'.DefaultTracked := by
  obtain ⟨hnodup, hlength, hunits, rfl⟩ := SetTokenCreator.create_ok hcreate
  induction hedits with
  | refl => exact (new_positionInvariant hnodup hlength hunits).defaultTracked
  | tail _ hedit ih => exact hedit.defaultTracked ih

end SetToken

namespace ModuleBase

variable {w w' : World} {module component : Address} {supply previous post unit newUnit : ℕ}

/-- What the edit returns: the balance, the unit that was read, and the unit that was written. -/
theorem calculateAndEditDefaultPosition_returns
    (h : calculateAndEditDefaultPosition w module component supply previous =
      .ok (w', post, unit, newUnit)) :
    post = w.balance component ∧ w.setToken.defaultRealUnit component = unit ∧
      Position.newTokenUnit supply previous post unit = .ok newUnit ∧
      ∃ s, Position.editDefaultPosition w.setToken w.controller module component newUnit = .ok s ∧
        w' = { w with setToken := s } := by
  simp only [calculateAndEditDefaultPosition, Position.calculateAndEditDefaultPosition,
    Outcome.bind_eq_ok, Outcome.pure_eq_ok, Prod.exists, Prod.mk.injEq,
    SetToken.getDefaultPositionRealUnit_eq_ok, SafeCast.toUint256_eq_ok] at h
  obtain ⟨s, _, _, _, ⟨_, ⟨-, rfl⟩, _, hread, _, hunit, _, hedit, rfl, rfl, rfl, rfl⟩, rfl, rfl,
    rfl, rfl⟩ := h
  exact ⟨rfl, hread, hunit, _, hedit, rfl⟩

/-- The unit tracks what the action left of the balance without the untracked part. -/
theorem newTokenUnit_ok (h : Position.newTokenUnit supply previous post unit = .ok newUnit) :
    (post = 0 ∧ newUnit = 0) ∨
      (0 < supply ∧ ∃ airdrop remaining, previous = supply * unit / preciseUnit + airdrop ∧
        post = airdrop + remaining ∧ newUnit = remaining * preciseUnit / supply) := by
  unfold Position.newTokenUnit at h
  split_ifs at h with hpos
  · simp only [Position.calculateDefaultEditPositionUnit, Outcome.bind_eq_ok, preciseMul_eq_ok,
      SafeMath.sub_eq_ok, preciseDiv_eq_ok, Nat.mul_comm unit] at h
    obtain ⟨_, ⟨-, rfl⟩, _, ⟨htracked, rfl⟩, _, ⟨hairdrop, rfl⟩, -, hsupply, rfl⟩ := h
    exact Or.inr ⟨hsupply, _, _, by omega, (Nat.add_sub_of_le hairdrop).symm, rfl⟩
  · obtain rfl := Outcome.pure_eq_ok.mp h
    exact Or.inl ⟨by omega, rfl⟩

/-- A default position that is closed takes its component off the list. -/
theorem not_mem_components_of_closed {s : SetToken} {controller : Controller} {sender : Address}
    {t : SetToken} (h : Position.editDefaultPosition s controller sender component 0 = .ok t)
    (hs : s.DefaultTracked) (hext : s.externalPositionModules component = []) :
    component ∉ t.components := by
  intro hmem
  have ht := hs.editDefaultPosition h
  obtain ⟨hown, -, -⟩ := Position.editDefaultPosition_readBack hs.multiplier_pos h
  obtain ⟨v, components, -, -, rfl⟩ := Position.editDefaultPosition_ok h
  have hreal := ht.listed component hmem (by simpa using hext)
  rw [hown, Nat.cast_zero, SetToken.readBack_zero] at hreal
  exact absurd hreal (lt_irrefl 0)

/-- An edit keeps the airdropped part of a balance out of the position, with at most one unit of
rounding for each Set besides; an action that spends the tracked part closes the position. -/
theorem calculateAndEditDefaultPosition_excludes_airdrops
    (h : calculateAndEditDefaultPosition w module component supply previous =
      .ok (w', post, unit, newUnit)) :
    post = w.balance component ∧ w.setToken.defaultRealUnit component = unit ∧
      (0 < post → ∃ airdrop untracked,
        previous = supply * unit / preciseUnit + airdrop ∧
          post = supply * newUnit / preciseUnit + untracked ∧
          airdrop ≤ untracked ∧
          untracked ≤ airdrop + (supply + preciseUnit - 1) / preciseUnit) ∧
      (supply * unit / preciseUnit + post = previous → newUnit = 0 ∧
        (w.setToken.DefaultTracked → w.setToken.externalPositionModules component = [] →
          component ∉ w'.setToken.components)) := by
  obtain ⟨hpost, hread, hunit, s, hedit, rfl⟩ := calculateAndEditDefaultPosition_returns h
  refine ⟨hpost, hread, ?_, ?_⟩
  · intro hpos
    rcases newTokenUnit_ok hunit with ⟨hzero, -⟩ | ⟨hsupply, airdrop, remaining, hprevious, hsum, rfl⟩
    · omega
    · obtain ⟨hle, hge⟩ := Rounding.tracked_bounds preciseUnit_pos hsupply remaining
      exact ⟨airdrop, post - supply * (remaining * preciseUnit / supply) / preciseUnit, hprevious,
        by omega, by omega, by omega⟩
  · intro hspent
    have hzero : newUnit = 0 := by
      rcases newTokenUnit_ok hunit with ⟨-, hzero⟩ | ⟨-, airdrop, remaining, hprevious, hsum, rfl⟩
      · exact hzero
      · have hremaining : remaining = 0 := by omega
        rw [hremaining, Nat.zero_mul, Nat.zero_div]
    subst hzero
    exact ⟨rfl, not_mem_components_of_closed hedit⟩

namespace Sample

/-- A Set of three tokens with half a unit each in component 7, and 100 airdropped units. -/
def world : World where
  controller := Controller.enabling 4 [5]
  setToken := SetToken.launched 6 [7] [5 * 10 ^ 17] [5] 2 2 (3 * 10 ^ 18)
  chain := { tokens := fun _ ↦ ERC20.holding 18 [(6, 100)] 0 }
  log := []

/-- Module 5 spent everything but the airdrop. -/
def spent : World × ℕ × ℕ × ℕ :=
  (calculateAndEditDefaultPosition world 5 7 (3 * 10 ^ 18) (15 * 10 ^ 17 + 100)).getD
    (world, 0, 0, 0)

theorem spent_excludes_airdrop : spent.2 = (100, 5 * 10 ^ 17, 0) ∧
    (∃ airdrop untracked, 15 * 10 ^ 17 + 100 =
        3 * 10 ^ 18 * (5 * 10 ^ 17) / preciseUnit + airdrop ∧
      100 = 3 * 10 ^ 18 * 0 / preciseUnit + untracked ∧ airdrop ≤ untracked ∧
        untracked ≤ airdrop + (3 * 10 ^ 18 + preciseUnit - 1) / preciseUnit) ∧
      7 ∉ spent.1.setToken.components := by
  have hspent : calculateAndEditDefaultPosition world 5 7 (3 * 10 ^ 18) (15 * 10 ^ 17 + 100) =
      .ok (spent.1, 100, 5 * 10 ^ 17, 0) := by
    have hok : calculateAndEditDefaultPosition world 5 7 (3 * 10 ^ 18) (15 * 10 ^ 17 + 100) =
        .ok spent := Outcome.eq_ok_getD (world, 0, 0, 0) (by decide +kernel)
    have hresult : spent.2 = (100, 5 * 10 ^ 17, 0) := by decide +kernel
    rw [hok, ← hresult]
  have htracked : world.setToken.DefaultTracked :=
    (SetToken.new_positionInvariant (by decide) rfl (by decide)).defaultTracked.of_samePositions
      (s := SetToken.new 6 [7] [5 * 10 ^ 17] [5] 2) ⟨rfl, rfl, rfl⟩
  obtain ⟨-, -, hbounds, hclosed⟩ := calculateAndEditDefaultPosition_excludes_airdrops hspent
  exact ⟨by decide +kernel, hbounds (by decide), (hclosed (by decide)).2 htracked rfl⟩

end Sample

end ModuleBase

end SetProtocol
