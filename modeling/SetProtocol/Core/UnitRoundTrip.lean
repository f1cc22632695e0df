import SetProtocol.Core.SetTokenLemmas

/-!
# Writing a unit and reading it back

A unit is divided by the position multiplier when it is written and multiplied by it when it is read,
and both directions round down.  The unit that is read therefore lies below the unit that was written
by at most the multiplier in precise units, rounded up.  Modules that write back what they just read
lose at most that much each time.
-/

namespace SetProtocol

open PreciseUnitMath

namespace SetToken

variable {s s' : SetToken} {r : ℤ}

theorem SameFrame.readBack (h : s.SameFrame s') (r : ℤ) : s'.readBack r = s.readBack r := by
  unfold SetToken.readBack
  rw [h.realUnit, h.positionMultiplier]

/-- The product of the stored unit with the multiplier stays within one multiplier of the product that
was divided. -/
theorem storedUnit_mul_bounds (hm : 0 < s.positionMultiplier) (r : ℤ) :
    r * preciseUnitInt - s.positionMultiplier <
        r * preciseUnitInt / s.positionMultiplier * s.positionMultiplier ∧
      r * preciseUnitInt / s.positionMultiplier * s.positionMultiplier ≤ r * preciseUnitInt := by
  have hsplit := Int.ediv_mul_add_emod (r * preciseUnitInt) s.positionMultiplier
  have hrem := Int.emod_nonneg (r * preciseUnitInt) hm.ne'
  have hlt := Int.emod_lt_of_pos (r * preciseUnitInt) hm
  constructor <;> omega

theorem readBack_le (hm : 0 < s.positionMultiplier) (r : ℤ) : s.readBack r ≤ r := by
  apply Int.ediv_le_of_le_mul preciseUnitInt_pos
  exact (storedUnit_mul_bounds hm r).2

theorem le_readBack (hm : 0 < s.positionMultiplier) (r : ℤ) :
    r - (s.positionMultiplier + preciseUnitInt - 1) / preciseUnitInt ≤ s.readBack r := by
  have hstored := (storedUnit_mul_bounds hm r).1
  have hceil : s.positionMultiplier ≤
      (s.positionMultiplier + preciseUnitInt - 1) / preciseUnitInt * preciseUnitInt := by
    unfold preciseUnitInt
    omega
  unfold readBack realUnit
  rw [Int.le_ediv_iff_mul_le preciseUnitInt_pos, sub_mul]
  omega

/-- Up to a multiplier of one, at most one unit is lost. -/
theorem readBack_eq_or_eq_sub_one (hm : 0 < s.positionMultiplier)
    (hone : s.positionMultiplier ≤ preciseUnitInt) (r : ℤ) :
    s.readBack r = r ∨ s.readBack r = r - 1 := by
  have hle := readBack_le hm r
  have hge := le_readBack hm r
  have hceil : (s.positionMultiplier + preciseUnitInt - 1) / preciseUnitInt = 1 := by
    unfold preciseUnitInt at *
    omega
  omega

theorem readBack_of_multiplier_eq (hm : s.positionMultiplier = preciseUnitInt) (r : ℤ) :
    s.readBack r = r := by
  apply (readBack_eq_iff (hm ▸ preciseUnitInt_pos)).mpr
  exact hm ▸ Dvd.intro_left r rfl

end SetToken

/-- A place for a unit: the default position of a component, or a module's external position in it. -/
inductive UnitSlot where
  | default (component : Address)
  | external (component module : Address)
deriving DecidableEq

namespace UnitSlot

/-- The function of the SetToken that writes the unit. -/
def edit (slot : UnitSlot) (s : SetToken) (controller : Controller) (sender : Address)
    (realUnit : ℤ) : Outcome SetToken :=
  match slot with
  | default component => s.editDefaultPositionUnit controller sender component realUnit
  | external component module =>
    s.editExternalPositionUnit controller sender component module realUnit

/-- The function of the SetToken that reads the unit. -/
def read (slot : UnitSlot) (s : SetToken) : Outcome ℤ :=
  match slot with
  | default component => s.getDefaultPositionRealUnit component
  | external component module => s.getExternalPositionRealUnit component module

/-- Write back the unit that is read. -/
def rewrite (slot : UnitSlot) (s : SetToken) (caller : Controller × Address) : Outcome SetToken := do
  let unit ← slot.read s
  slot.edit s caller.1 caller.2 unit

/-- The stored unit. -/
def virtualUnit (slot : UnitSlot) (s : SetToken) : ℤ :=
  match slot with
  | default component => s.defaultPositionVirtualUnit component
  | external component module => s.externalPositionVirtualUnit component module

variable {slot : UnitSlot} {s s' : SetToken} {controller : Controller} {sender : Address} {r r' : ℤ}

@[simp] theorem read_eq_ok :
    slot.read s = .ok r ↔
      InInt256 (slot.virtualUnit s * s.positionMultiplier) ∧ r = s.realUnit (slot.virtualUnit s) := by
  cases slot with
  | default component => exact SetToken.getDefaultPositionRealUnit_eq_ok
  | external component module => exact SetToken.getExternalPositionRealUnit_eq_ok

theorem edit_ok (h : slot.edit s controller sender r = .ok s') :
    s.convertRealToVirtualUnit r = .ok (slot.virtualUnit s') ∧
      s'.positionMultiplier = s.positionMultiplier := by
  cases slot with
  | default component =>
    obtain ⟨-, v, hv, rfl⟩ := SetToken.editDefaultPositionUnit_eq_ok.mp h
    simpa [virtualUnit] using ⟨hv, (s.sameFrame_setDefaultUnit component v).positionMultiplier⟩
  | external component module =>
    obtain ⟨-, v, hv, rfl⟩ := SetToken.editExternalPositionUnit_eq_ok.mp h
    simpa [virtualUnit] using
      ⟨hv, (s.sameFrame_setExternalPosition component module _).positionMultiplier⟩

/-- What is read after an edit is the unit that comes back from storage. -/
theorem read_of_edit (hm : 0 < s.positionMultiplier)
    (h : slot.edit s controller sender r = .ok s') (hread : slot.read s' = .ok r') :
    r' = s.readBack r := by
  obtain ⟨hstored, hmultiplier⟩ := edit_ok h
  have hv := (SetToken.convertRealToVirtualUnit_stores hm hstored).eq_div
  obtain ⟨-, rfl⟩ := read_eq_ok.mp hread
  unfold SetToken.readBack SetToken.realUnit
  rw [hv, hmultiplier]

/-- What is written can be read unless the product of the stored unit with the multiplier, which is rounded
down, falls below the least `int256`. -/
theorem exists_read_iff_of_edit (hm : 0 < s.positionMultiplier)
    (h : slot.edit s controller sender r = .ok s') :
    (∃ r', slot.read s' = .ok r') ↔
      minInt256 ≤ r * preciseUnitInt / s.positionMultiplier * s.positionMultiplier := by
  obtain ⟨hstored, hmultiplier⟩ := edit_ok h
  obtain ⟨hdiv, -⟩ := SetToken.convertRealToVirtualUnit_eq_ok.mp hstored
  obtain ⟨hrange, hv⟩ := (conservativePreciseDiv_eq_ok hm).mp hdiv
  have hhigh := (SetToken.storedUnit_mul_bounds hm r).2.trans hrange.2
  simp only [read_eq_ok, hmultiplier, hv, exists_and_left, exists_eq, and_true]
  exact ⟨fun hproduct ↦ hproduct.1, fun hlow ↦ ⟨hlow, hhigh⟩⟩

/-- Only a negative unit can have such a product, and only within a multiplier of the least `int256`. -/
theorem exists_read_of_edit (hm : 0 < s.positionMultiplier)
    (h : slot.edit s controller sender r = .ok s')
    (hr : 0 ≤ r ∨ minInt256 + s.positionMultiplier ≤ r * preciseUnitInt) :
    ∃ r', slot.read s' = .ok r' := by
  apply (exists_read_iff_of_edit hm h).mpr
  rcases hr with hr | hr
  · have hquotient : 0 ≤ r * preciseUnitInt / s.positionMultiplier :=
      Int.ediv_nonneg (mul_nonneg hr preciseUnitInt_pos.le) hm.le
    have hmin : minInt256 ≤ 0 := by decide
    exact hmin.trans (mul_nonneg hquotient hm.le)
  · have hlow := (SetToken.storedUnit_mul_bounds hm r).1
    omega

/-- A unit that is written does not come back as zero unless it is zero. -/
theorem readBack_ne_zero_of_edit (hm : 0 < s.positionMultiplier)
    (h : slot.edit s controller sender r = .ok s') (hr : r ≠ 0) : s.readBack r ≠ 0 := by
  have hstores := SetToken.convertRealToVirtualUnit_stores hm (edit_ok h).1
  rcases lt_or_gt_of_ne hr with hneg | hpos
  · exact ((SetToken.readBack_le hm r).trans_lt hneg).ne
  · have hback := (hstores.of_pos hpos).2
    rw [hstores.eq_div] at hback
    exact hback.ne'

/-- One rewrite at a multiplier of at most one loses at most one unit. -/
theorem read_of_rewrite {caller : Controller × Address} (hm : 0 < s.positionMultiplier)
    (hone : s.positionMultiplier ≤ preciseUnitInt) (h : slot.rewrite s caller = .ok s') :
    s'.positionMultiplier = s.positionMultiplier ∧
      s'.realUnit (slot.virtualUnit s') ≤ s.realUnit (slot.virtualUnit s) ∧
      s.realUnit (slot.virtualUnit s) - 1 ≤ s'.realUnit (slot.virtualUnit s') := by
  simp only [rewrite, Outcome.bind_eq_ok] at h
  obtain ⟨unit, hunit, hedit⟩ := h
  obtain ⟨-, rfl⟩ := read_eq_ok.mp hunit
  obtain ⟨hstored, hmultiplier⟩ := edit_ok hedit
  have hv := (SetToken.convertRealToVirtualUnit_stores hm hstored).eq_div
  have hback : s'.realUnit (slot.virtualUnit s') =
      s.readBack (s.realUnit (slot.virtualUnit s)) := by
    unfold SetToken.readBack
    rw [← hv]
    unfold SetToken.realUnit
    rw [hmultiplier]
  rw [hback]
  refine ⟨hmultiplier, ?_⟩
  rcases SetToken.readBack_eq_or_eq_sub_one hm hone (s.realUnit (slot.virtualUnit s)) with h | h <;>
    omega

/-- A run of rewrites loses at most one unit each time. -/
theorem read_of_rewrites {callers : List (Controller × Address)}
    (hm : 0 < s.positionMultiplier) (hone : s.positionMultiplier ≤ preciseUnitInt)
    (h : callers.foldlM slot.rewrite s = .ok s') :
    s'.realUnit (slot.virtualUnit s') ≤ s.realUnit (slot.virtualUnit s) ∧
      s.realUnit (slot.virtualUnit s) - callers.length ≤ s'.realUnit (slot.virtualUnit s') := by
  induction callers generalizing s with
  | nil =>
    rw [List.foldlM_nil, Outcome.pure_eq_ok] at h
    simp [h]
  | cons caller callers ih =>
    simp only [List.foldlM_cons, Outcome.bind_eq_ok] at h
    obtain ⟨t, ht, h⟩ := h
    obtain ⟨hmultiplier, hle, hge⟩ := read_of_rewrite hm hone ht
    obtain ⟨hle', hge'⟩ := ih (hmultiplier ▸ hm) (hmultiplier ▸ hone) h
    rw [List.length_cons]
    push_cast
    exact ⟨hle'.trans hle, by omega⟩

/-- The unit that is read after an edit is at most the unit that was written, and lies below it by
at most the multiplier in precise units. -/
theorem edit_roundTrip (slot : UnitSlot) (s : SetToken) (hm : 0 < s.positionMultiplier) :
    (∀ controller sender r s', slot.edit s controller sender r = .ok s' →
      ((∃ r', slot.read s' = .ok r') ↔
        minInt256 ≤ r * preciseUnitInt / s.positionMultiplier * s.positionMultiplier) ∧
      (0 ≤ r ∨ minInt256 + s.positionMultiplier ≤ r * preciseUnitInt →
        ∃ r', slot.read s' = .ok r') ∧
      ∀ r', slot.read s' = .ok r' →
        r' ≤ r ∧ r - (s.positionMultiplier + preciseUnitInt - 1) / preciseUnitInt ≤ r' ∧
          (s.positionMultiplier ≤ preciseUnitInt → r' = r ∨ r' = r - 1) ∧
          (r ≠ 0 → r' ≠ 0) ∧ (s.positionMultiplier = preciseUnitInt → r' = r)) ∧
    ∀ (callers : List (Controller × Address)) (r : ℤ) (s' : SetToken) (r' : ℤ),
      s.positionMultiplier ≤ preciseUnitInt → slot.read s = .ok r →
        callers.foldlM slot.rewrite s = .ok s' → slot.read s' = .ok r' →
          r' ≤ r ∧ r - callers.length ≤ r' := by
  constructor
  · intro controller sender r s' h
    refine ⟨exists_read_iff_of_edit hm h, exists_read_of_edit hm h, fun r' hread ↦ ?_⟩
    rw [read_of_edit hm h hread]
    exact ⟨SetToken.readBack_le hm r, SetToken.le_readBack hm r,
      fun hone ↦ SetToken.readBack_eq_or_eq_sub_one hm hone r, readBack_ne_zero_of_edit hm h,
      fun hm1 ↦ SetToken.readBack_of_multiplier_eq hm1 r⟩
  · intro callers r s' r' hone hread h hread'
    obtain ⟨-, rfl⟩ := read_eq_ok.mp hread
    obtain ⟨-, rfl⟩ := read_eq_ok.mp hread'
    exact read_of_rewrites hm hone h

namespace Sample

/-- A Set whose only component had a unit of 100 before its multiplier fell below a third. -/
def token : SetToken :=
  { SetToken.launched 6 [7] [100] [5] 2 2 100 with positionMultiplier := 3 * 10 ^ 17 + 1 }

/-- Module 5 rewrites the unit. -/
def callers (count : ℕ) : List (Controller × Address) :=
  List.replicate count (Controller.enabling 4 [5], 5)

def rewritten : SetToken :=
  ((callers 3).foldlM (UnitSlot.default 7).rewrite token).getD token

theorem rewritten_roundTrip :
    (UnitSlot.default 7).read token = .ok 30 ∧ (UnitSlot.default 7).read rewritten = .ok 27 ∧
      (27 : ℤ) ≤ 30 ∧ (30 : ℤ) - (callers 3).length ≤ 27 := by
  have hread : (UnitSlot.default 7).read token = .ok 30 := by decide +kernel
  have hrewrite : (callers 3).foldlM (UnitSlot.default 7).rewrite token = .ok rewritten :=
    Outcome.eq_ok_getD token (by decide +kernel)
  have hread' : (UnitSlot.default 7).read rewritten = .ok 27 := by decide +kernel
  exact ⟨hread, hread', (edit_roundTrip (.default 7) token (by decide)).2 _ _ _ _ (by decide) hread
    hrewrite hread'⟩

/-- The same component after its multiplier fell by a tenth. -/
def feeToken : SetToken :=
  { SetToken.launched 6 [7] [100] [5] 2 2 100 with positionMultiplier := 9 * 10 ^ 17 }

/-- The least unit whose product with the precise unit is an `int256`. -/
def leastUnit : ℤ :=
  -57896044618658097711785492504343953926634992332820282019728

def edited (slot : UnitSlot) : SetToken :=
  (slot.edit feeToken (Controller.enabling 4 [5]) 5 leastUnit).getD feeToken

/-- Module 5 writes the least unit as the default and as its external unit, and neither can be read. -/
theorem edited_unreadable :
    0 < feeToken.positionMultiplier ∧
      ((UnitSlot.default 7).edit feeToken (Controller.enabling 4 [5]) 5 leastUnit =
          .ok (edited (.default 7)) ∧
        (UnitSlot.default 7).read (edited (.default 7)) =
          .error "SignedSafeMath: multiplication overflow") ∧
      (UnitSlot.external 7 5).edit feeToken (Controller.enabling 4 [5]) 5 leastUnit =
          .ok (edited (.external 7 5)) ∧
        (UnitSlot.external 7 5).read (edited (.external 7 5)) =
          .error "SignedSafeMath: multiplication overflow" :=
  ⟨by decide, ⟨Outcome.eq_ok_getD feeToken (by decide +kernel), by decide +kernel⟩,
    Outcome.eq_ok_getD feeToken (by decide +kernel), by decide +kernel⟩

end Sample

end UnitSlot

end SetProtocol
