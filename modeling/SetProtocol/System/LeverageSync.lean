import SetProtocol.Core.RecordedPositions
import SetProtocol.System.ModuleRemoval

/-!
# Synchronized leverage

The leverage modules recompute the units of what the SetToken has and owes on a lending market.  The unit
of the collateral is rounded down and the unit of a debt away from zero, and both once more when they
are stored, so the SetToken never claims more than it has nor owes more than it says.  Since a unit that
was rounded is not the unit that is computed again, the next synchronization writes it again; this
changes nothing as long as the balances stay.
-/

namespace SetProtocol

open PreciseUnitMath ModuleBase

namespace LeverageModule

variable {w w' : World} {module token asset : Address} {supply debt : ℕ}

/-- The position of the token has the unit that belongs to its balance. -/
def CollateralRecorded (w : World) (module token : Address) (supply : ℕ) : Prop :=
  ∃ unit, getCollateralPosition w token supply = .ok unit ∧
    w.setToken.RecordsDefault w.controller module token unit

/-- The position of the asset has the unit that belongs to the debt. -/
def DebtRecorded (w : World) (module asset : Address) (debt supply : ℕ) : Prop :=
  ∃ unit, borrowPosition debt supply = .ok unit ∧
    w.setToken.RecordsExternal w.controller module asset unit

/-! ## One pass -/

theorem getCollateralPosition_of_balance (h : w'.balance token = w.balance token) :
    getCollateralPosition w' token supply = getCollateralPosition w token supply := by
  unfold getCollateralPosition
  rw [h]

theorem CollateralRecorded.of_same (h : CollateralRecorded w module token supply)
    (hset : w'.setToken = w.setToken) (hcontroller : w'.controller = w.controller)
    (hbalance : w'.balance token = w.balance token) :
    CollateralRecorded w' module token supply := by
  unfold CollateralRecorded at h ⊢
  rw [hset, hcontroller, getCollateralPosition_of_balance hbalance]
  exact h

theorem DebtRecorded.of_same (h : DebtRecorded w module asset debt supply)
    (hset : w'.setToken = w.setToken) (hcontroller : w'.controller = w.controller) :
    DebtRecorded w' module asset debt supply := by
  unfold DebtRecorded at h ⊢
  rw [hset, hcontroller]
  exact h

/-- A pass edits the position, unless it reads the unit already. -/
theorem syncCollateral_ok (h : syncCollateral w module token supply = .ok w') :
    ∃ unit s, getCollateralPosition w token supply = .ok unit ∧ w' = { w with setToken := s } ∧
      (Position.editDefaultPosition w.setToken w.controller module token unit = .ok s ∨
        s = w.setToken ∧ w.setToken.getDefaultPositionRealUnit token = .ok (unit : ℤ)) := by
  simp only [syncCollateral, Outcome.bind_eq_ok, SafeCast.toUint256_eq_ok] at h
  obtain ⟨_, hread, previous, rfl, unit, hunit, h⟩ := h
  split_ifs at h with hne
  · simp only [updateCollateralPosition, World.onSetToken, Outcome.bind_eq_ok,
      Outcome.pure_eq_ok] at h
    obtain ⟨s, hedit, rfl⟩ := h
    exact ⟨unit, s, hunit, rfl, Or.inl hedit⟩
  · obtain rfl := Outcome.pure_eq_ok.mp h
    obtain rfl := not_not.mp hne
    exact ⟨_, w.setToken, hunit, rfl, Or.inr ⟨rfl, hread⟩⟩

theorem syncCollateral_records (hm : 0 < w.setToken.positionMultiplier)
    (h : syncCollateral w module token supply = .ok w') :
    CollateralRecorded w' module token supply := by
  have hsame := (syncCollateral_repositioned h).balance token
  obtain ⟨unit, s, hunit, rfl, hedit | ⟨rfl, hread⟩⟩ := syncCollateral_ok h
  · refine ⟨unit, ?_, SetToken.editDefaultPosition_records hm hedit⟩
    rw [getCollateralPosition_of_balance hsame]
    exact hunit
  · exact ⟨unit, hunit, Or.inl hread⟩

/-- A pass over another token keeps what is recorded of this one. -/
theorem CollateralRecorded.syncCollateral {other : Address}
    (hw : CollateralRecorded w module token supply) (hm : 0 < w.setToken.positionMultiplier)
    (h : syncCollateral w module other supply = .ok w') :
    CollateralRecorded w' module token supply := by
  by_cases hne : token = other
  · subst hne
    exact syncCollateral_records hm h
  · have hsame := (syncCollateral_repositioned h).balance token
    obtain ⟨_, s, -, rfl, hedit | ⟨rfl, -⟩⟩ := syncCollateral_ok h
    · obtain ⟨unit, hunit, hrecords⟩ := hw
      refine ⟨unit, ?_, hrecords.editDefaultPosition hne hedit⟩
      rw [getCollateralPosition_of_balance hsame]
      exact hunit
    · exact hw

/-- What is recorded is not changed by another pass. -/
theorem CollateralRecorded.idle (hw : CollateralRecorded w module token supply)
    (hm : 0 < w.setToken.positionMultiplier) :
    LeverageModule.syncCollateral w module token supply = .ok w := by
  obtain ⟨unit, hunit, hrecords⟩ := hw
  obtain ⟨previous, hread, -⟩ := hrecords.read hm
  simp only [LeverageModule.syncCollateral, Outcome.bind_eq_ok, SafeCast.toUint256_eq_ok]
  refine ⟨previous, hread, previous, rfl, unit, hunit, ?_⟩
  split_ifs with hne
  · rcases hrecords with hsame | hwritten
    · rw [hread] at hsame
      exact absurd (Int.ofNat_inj.mp (Except.ok.inj hsame)) hne
    · simp only [updateCollateralPosition, World.onSetToken, Outcome.bind_eq_ok,
        Outcome.pure_eq_ok]
      exact ⟨w.setToken, hwritten.edit hm, rfl⟩
  · rfl

theorem syncBorrow_ok (h : syncBorrow w module asset debt supply = .ok w') :
    ∃ unit s, borrowPosition debt supply = .ok unit ∧ w' = { w with setToken := s } ∧
      (unit ≠ w.setToken.externalRealUnit asset module ∧
          Position.editExternalPosition w.setToken w.controller module asset module unit [] = .ok s ∨
        s = w.setToken ∧ w.setToken.getExternalPositionRealUnit asset module = .ok unit) := by
  simp only [syncBorrow, Outcome.bind_eq_ok] at h
  obtain ⟨previous, hread, unit, hunit, h⟩ := h
  split_ifs at h with hne
  · obtain ⟨-, rfl⟩ := SetToken.getExternalPositionRealUnit_eq_ok.mp hread
    simp only [updateBorrowPosition, World.onSetToken, Outcome.bind_eq_ok, Outcome.pure_eq_ok] at h
    obtain ⟨s, hedit, rfl⟩ := h
    exact ⟨unit, s, hunit, rfl, Or.inl ⟨hne, hedit⟩⟩
  · obtain rfl := Outcome.pure_eq_ok.mp h
    obtain rfl := not_not.mp hne
    exact ⟨_, w.setToken, hunit, rfl, Or.inr ⟨rfl, hread⟩⟩

theorem syncBorrow_records (hw : w.setToken.Housed)
    (h : syncBorrow w module asset debt supply = .ok w') :
    DebtRecorded w' module asset debt supply := by
  obtain ⟨unit, s, hunit, rfl, ⟨hne, hedit⟩ | ⟨rfl, hread⟩⟩ := syncBorrow_ok h
  · exact ⟨unit, hunit, SetToken.editExternalPosition_records hw hne hedit⟩
  · exact ⟨unit, hunit, Or.inl hread⟩

/-- A pass over another debt keeps what is recorded of this one. -/
theorem DebtRecorded.syncBorrow {other : Address} {debt' : ℕ}
    (hrecorded : DebtRecorded w module asset debt supply) (hw : w.setToken.Housed)
    (hne : asset ≠ other) (h : syncBorrow w module other debt' supply = .ok w') :
    DebtRecorded w' module asset debt supply := by
  obtain ⟨unit, hunit, hrecords⟩ := hrecorded
  obtain ⟨_, s, -, rfl, ⟨-, hedit⟩ | ⟨rfl, -⟩⟩ := syncBorrow_ok h
  · exact ⟨unit, hunit, hrecords.editExternalPosition hw hne hedit⟩
  · exact ⟨unit, hunit, hrecords⟩

theorem CollateralRecorded.syncBorrow (hrecorded : CollateralRecorded w module token supply)
    (hw : w.setToken.Housed) (h : syncBorrow w module asset debt supply = .ok w') :
    CollateralRecorded w' module token supply := by
  have hsame := (syncBorrow_repositioned h).balance token
  obtain ⟨_, s, -, rfl, ⟨-, hedit⟩ | ⟨rfl, -⟩⟩ := syncBorrow_ok h
  · obtain ⟨unit, hunit, hrecords⟩ := hrecorded
    refine ⟨unit, ?_, hrecords.editExternalPosition hw hedit⟩
    rw [getCollateralPosition_of_balance hsame]
    exact hunit
  · exact hrecorded

/-- What is recorded is not changed by another pass, which succeeds when the unit can be read. -/
theorem DebtRecorded.idle_iff (hrecorded : DebtRecorded w module asset debt supply) :
    LeverageModule.syncBorrow w module asset debt supply = .ok w' ↔
      (∃ unit, w.setToken.getExternalPositionRealUnit asset module = .ok unit) ∧ w' = w := by
  obtain ⟨unit, hunit, hrecords⟩ := hrecorded
  simp only [LeverageModule.syncBorrow, Outcome.bind_eq_ok]
  constructor
  · rintro ⟨previous, hread, unit', hunit', h⟩
    obtain rfl : unit' = unit := Except.ok.inj (hunit'.symm.trans hunit)
    refine ⟨⟨previous, hread⟩, ?_⟩
    split_ifs at h with hne
    · rcases hrecords with hsame | hwritten
      · exact absurd (Except.ok.inj (hsame.symm.trans hread)) hne
      · simp only [updateBorrowPosition, World.onSetToken, Outcome.bind_eq_ok,
          Outcome.pure_eq_ok, hwritten.edit] at h
        obtain ⟨s, hs, rfl⟩ := h
        rw [← Except.ok.inj hs]
    · exact (Outcome.pure_eq_ok.mp h).symm
  · rintro ⟨⟨previous, hread⟩, rfl⟩
    refine ⟨previous, hread, unit, hunit, ?_⟩
    split_ifs with hne
    · rcases hrecords with hsame | hwritten
      · exact absurd (Except.ok.inj (hsame.symm.trans hread)) hne
      · simp only [updateBorrowPosition, World.onSetToken, Outcome.bind_eq_ok,
          Outcome.pure_eq_ok]
        exact ⟨w'.setToken, hwritten.edit, rfl⟩
    · rfl

theorem validated_of_sameFrame (hframe : w.setToken.SameFrame w'.setToken)
    (hcontroller : w'.controller = w.controller) :
    validateOnlyValidAndInitializedSet w' module = validateOnlyValidAndInitializedSet w module := by
  unfold validateOnlyValidAndInitializedSet isSetValidAndInitialized SetToken.isInitializedModule
  rw [hcontroller, hframe.address, hframe.moduleStates]

/-! ## The loops over the collateral -/

theorem foldlM_syncCollateral_records {α : Type} {tokenOf : α → Address} {as : List α} {a : α}
    (h : as.foldlM (fun w a ↦ syncCollateral w module (tokenOf a) supply) w = .ok w')
    (hm : 0 < w.setToken.positionMultiplier) (ha : a ∈ as) :
    CollateralRecorded w' module (tokenOf a) supply := by
  apply Outcome.foldlM_establish (P := fun x : World ↦ CollateralRecorded x module (tokenOf a) supply)
    (Q := fun x : World ↦ 0 < x.setToken.positionMultiplier) ha ?_ ?_ ?_ h hm
  · intro x b _ x' hstep hx
    rw [(syncCollateral_repositioned hstep).sameFrame.positionMultiplier]
    exact hx
  · intro x x' hstep hx
    exact syncCollateral_records hx hstep
  · intro x b _ x' hstep hx hrecorded
    exact hrecorded.syncCollateral hx hstep

theorem foldlM_syncCollateral_idle {α : Type} {tokenOf : α → Address} {as : List α}
    (hrecorded : ∀ a ∈ as, CollateralRecorded w module (tokenOf a) supply)
    (hm : 0 < w.setToken.positionMultiplier) :
    as.foldlM (fun w a ↦ syncCollateral w module (tokenOf a) supply) w = .ok w := by
  rw [Outcome.foldlM_idle_iff (R := fun _ ↦ True)]
  · exact ⟨fun _ _ ↦ trivial, rfl⟩
  · intro a ha t
    rw [(hrecorded a ha).idle hm]
    simp [@eq_comm _ t]

/-! ## What recorded units say -/

theorem borrowPosition_eq_of_ok {unit : ℤ} (h : borrowPosition debt supply = .ok unit) :
    0 < supply ∧ unit = -(((debt * preciseUnit + supply - 1) / supply : ℕ) : ℤ) := by
  simp only [borrowPosition, Outcome.bind_eq_ok, SafeCast.toInt256_eq_ok,
    SignedSafeMath.mul_eq_ok] at h
  obtain ⟨quotient, hquotient, _, ⟨-, rfl⟩, -, rfl⟩ := h
  obtain ⟨hpos, rfl⟩ := preciseDivCeil_eq_of_ok hquotient
  exact ⟨hpos, mul_neg_one _⟩

/-- The position claims no more than the balance. -/
theorem CollateralRecorded.unit_mul_le (h : CollateralRecorded w module token supply)
    (hm : 0 < w.setToken.positionMultiplier) :
    ∃ unit : ℕ, w.setToken.getDefaultPositionRealUnit token = .ok (unit : ℤ) ∧
      unit * supply ≤ w.balance token * preciseUnit := by
  obtain ⟨unit, hunit, hrecords⟩ := h
  obtain ⟨-, -, rfl⟩ := preciseDiv_eq_ok.mp hunit
  obtain ⟨read, hread, hle⟩ := hrecords.read hm
  refine ⟨read, hread, ?_⟩
  calc read * supply ≤ w.balance token * preciseUnit / supply * supply :=
        Nat.mul_le_mul_right supply hle
    _ ≤ w.balance token * preciseUnit := Nat.div_mul_le_self _ _

/-- The position covers the debt. -/
theorem DebtRecorded.le_unit_mul (h : DebtRecorded w module asset debt supply)
    (hm : 0 < w.setToken.positionMultiplier) :
    (debt : ℤ) * preciseUnitInt ≤ |w.setToken.externalRealUnit asset module| * supply := by
  obtain ⟨unit, hunit, hrecords⟩ := h
  obtain ⟨hsupply, rfl⟩ := borrowPosition_eq_of_ok hunit
  have hread := hrecords.externalRealUnit_le hm
  have hceil : debt * preciseUnit ≤ (debt * preciseUnit + supply - 1) / supply * supply := by
    have hsplit := Nat.div_add_mod (debt * preciseUnit + supply - 1) supply
    have hlt := Nat.mod_lt (debt * preciseUnit + supply - 1) hsupply
    rw [Nat.mul_comm] at hsplit
    omega
  calc (debt : ℤ) * preciseUnitInt = ((debt * preciseUnit : ℕ) : ℤ) := by
        rw [preciseUnitInt_eq, Nat.cast_mul]
    _ ≤ (((debt * preciseUnit + supply - 1) / supply : ℕ) : ℤ) * supply := by exact_mod_cast hceil
    _ ≤ |w.setToken.externalRealUnit asset module| * supply := by
        apply mul_le_mul_of_nonneg_right ?_ (Int.natCast_nonneg supply)
        exact (le_neg.mp hread).trans (neg_le_abs _)

theorem DebtRecorded.closed {assets : Set Address} (h : DebtRecorded w module asset 0 supply)
    (hp : w.setToken.Holdings module assets) : ¬ w.setToken.Holds module asset := by
  obtain ⟨unit, hunit, hrecords⟩ := h
  obtain rfl := borrowPosition_zero hunit
  exact hrecords.not_holds hp

/-- A debt has a negative unit, and without a debt there is no position. -/
theorem DebtRecorded.negative {assets : Set Address}
    (h : DebtRecorded w module asset debt supply) (hm : 0 < w.setToken.positionMultiplier)
    (hp : w.setToken.Holdings module assets) :
    w.setToken.externalRealUnit asset module < 0 ∨ ¬ w.setToken.Holds module asset := by
  rcases Nat.eq_zero_or_pos debt with rfl | hdebt
  · exact Or.inr (h.closed hp)
  · left
    obtain ⟨unit, hunit, hrecords⟩ := h
    obtain ⟨hsupply, rfl⟩ := borrowPosition_eq_of_ok hunit
    have hquotient : 0 < (debt * preciseUnit + supply - 1) / supply := by
      apply Nat.div_pos ?_ hsupply
      have hscaled := Nat.mul_pos hdebt preciseUnit_pos
      omega
    have hread := hrecords.externalRealUnit_le hm
    omega

/-- The units are on the safe side of what the SetToken has and owes. -/
structure Conservative (s : SetToken) (module : Address) (tokens : List Address)
    (balance : Address → ℕ) (assets : List Address) (debt : Address → ℕ) : Prop where
  collateral_le : ∀ token ∈ tokens, ∃ unit : ℕ,
    s.getDefaultPositionRealUnit token = .ok (unit : ℤ) ∧
      unit * s.totalSupply ≤ balance token * preciseUnit
  debt_le : ∀ asset ∈ assets,
    (debt asset : ℤ) * preciseUnitInt ≤ |s.externalRealUnit asset module| * s.totalSupply
  negative : ∀ asset ∈ assets, s.externalRealUnit asset module < 0 ∨ ¬ s.Holds module asset
  closed : ∀ asset ∈ assets, debt asset = 0 → ¬ s.Holds module asset

/-- The units of all positions belong to the balances and the debts. -/
structure Recorded (w : World) (module : Address) (tokens assets : List Address)
    (debt : Address → ℕ) : Prop where
  collateral : ∀ token ∈ tokens, CollateralRecorded w module token w.setToken.totalSupply
  debts : ∀ asset ∈ assets, DebtRecorded w module asset (debt asset) w.setToken.totalSupply

/-- The units of the debts fit into 256 bits when they are read. -/
def DebtsReadable (s : SetToken) (module : Address) (assets : List Address) : Prop :=
  ∀ asset ∈ assets, ∃ unit, s.getExternalPositionRealUnit asset module = .ok unit

theorem Recorded.conservative {tokens assets : List Address} {debt : Address → ℕ}
    {owned : Set Address} (h : Recorded w module tokens assets debt)
    (hm : 0 < w.setToken.positionMultiplier) (hp : w.setToken.Holdings module owned) :
    Conservative w.setToken module tokens w.balance assets debt where
  collateral_le := fun token ht ↦ (h.collateral token ht).unit_mul_le hm
  debt_le := fun asset ha ↦ (h.debts asset ha).le_unit_mul hm
  negative := fun asset ha ↦ (h.debts asset ha).negative hm hp
  closed := by
    intro asset ha hzero
    have hrecorded := h.debts asset ha
    rw [hzero] at hrecorded
    exact hrecorded.closed hp

end LeverageModule

namespace AaveLeverageModule

open LeverageModule

variable {m : AaveLeverageModule} {w w' v v' : World}

def collateralTokens (m : AaveLeverageModule) : List Address :=
  m.collateralAssets.map fun asset ↦ (m.underlyingToReserveTokens asset).aToken

theorem sync_repositioned (h : m.sync w = .ok w') : w.Repositioned w' := by
  obtain ⟨-, ⟨-, rfl⟩ | ⟨-, v, hcollateral, hborrow⟩⟩ := sync_ok h
  · exact .refl _
  · have hfirst : w.Repositioned v :=
      World.Repositioned.foldlM (fun _ _ _ hstep ↦ syncCollateral_repositioned hstep) hcollateral
    apply hfirst.trans
    exact World.Repositioned.foldlM (fun _ _ _ hstep ↦ syncBorrow_repositioned hstep) hborrow

theorem sync_validated (h : m.sync w = .ok w') :
    validateOnlyValidAndInitializedSet w m.address = .ok () :=
  (sync_ok h).1

theorem sync_records (h : m.sync w = .ok w') (hw : w.setToken.Housed)
    (hsupply : 0 < w.setToken.totalSupply) :
    Recorded w' m.address m.collateralTokens m.borrowAssets (m.borrowBalance w') := by
  have htotal := (sync_repositioned h).sameFrame.totalSupply
  obtain ⟨-, ⟨hidle, -⟩ | ⟨-, v, hcollateral, hborrow⟩⟩ := sync_ok h
  · exact absurd hidle hsupply.ne'
  have hhoused : v.setToken.Housed := by
    have hedits : World.Edits (Env.plain 0 0) (footprint m.address []) w v :=
      World.Edits.foldlM (fun _ _ _ _ hstep ↦ syncCollateral_edits hstep) hcollateral
    exact hedits.housed hw
  -- every pass over a debt leaves the lists of the SetToken in order
  have hinv : ∀ x, ∀ b ∈ m.borrowAssets, ∀ x',
      syncBorrow x m.address b (m.borrowBalance x b) w.setToken.totalSupply = .ok x' →
      x.setToken.Housed → x'.setToken.Housed := by
    intro x b hb x' hstep hx
    have hpass : World.Edits (Env.plain 0 0) (footprint m.address m.borrowAssets) x x' :=
      syncBorrow_edits ⟨rfl, hb⟩ hstep
    exact hpass.housed hx
  constructor
  · intro token htoken
    rw [htotal]
    obtain ⟨asset, hasset, rfl⟩ := List.mem_map.mp htoken
    have hrecorded := foldlM_syncCollateral_records hcollateral hw.multiplier_pos hasset
    refine (Outcome.foldlM_invariant_of_mem (P := fun x : World ↦ x.setToken.Housed ∧
      CollateralRecorded x m.address (m.underlyingToReserveTokens asset).aToken
        w.setToken.totalSupply) ?_ hborrow ⟨hhoused, hrecorded⟩).2
    intro x b hb x' hstep ⟨hx, hkept⟩
    exact ⟨hinv x b hb x' hstep hx, hkept.syncBorrow hx hstep⟩
  · intro asset hasset
    rw [htotal]
    have hbalance : ∀ x x' b, syncBorrow x m.address b (m.borrowBalance x b)
        w.setToken.totalSupply = .ok x' → m.borrowBalance x' asset = m.borrowBalance x asset :=
      fun x x' b hstep ↦ (syncBorrow_repositioned hstep).balance _
    apply Outcome.foldlM_establish (P := fun x : World ↦
        DebtRecorded x m.address asset (m.borrowBalance x asset) w.setToken.totalSupply)
      (Q := fun x : World ↦ x.setToken.Housed) hasset hinv ?_ ?_ hborrow hhoused
    · intro x x' hstep hx
      rw [hbalance x x' asset hstep]
      exact syncBorrow_records hx hstep
    · intro x b _ x' hstep hx hrecorded
      rw [hbalance x x' b hstep]
      by_cases hne : asset = b
      · subst hne
        exact syncBorrow_records hx hstep
      · exact hrecorded.syncBorrow hx hne hstep

/-- The SetToken is the same, and so is what it has and owes. -/
structure SameReadings (m : AaveLeverageModule) (w v : World) : Prop where
  setToken : v.setToken = w.setToken
  controller : v.controller = w.controller
  collateral : ∀ token ∈ m.collateralTokens, v.balance token = w.balance token
  debts : ∀ asset ∈ m.borrowAssets, m.borrowBalance v asset = m.borrowBalance w asset

/-- Synchronizing again changes nothing, and succeeds when the units of the debts can be read. -/
theorem sync_again_iff (h : m.sync w = .ok w') (hw : w.setToken.Housed)
    (hsupply : 0 < w.setToken.totalSupply) (hv : m.SameReadings w' v) :
    m.sync v = .ok v' ↔ DebtsReadable w'.setToken m.address m.borrowAssets ∧ v' = v := by
  have hsame := sync_repositioned h
  have hrecorded := sync_records h hw hsupply
  have hframe : w.setToken.SameFrame v.setToken := by
    rw [hv.setToken]
    exact hsame.sameFrame
  have hm : 0 < v.setToken.positionMultiplier := by
    rw [hframe.positionMultiplier]
    exact hw.multiplier_pos
  have hsupply' : 0 < v.setToken.totalSupply := by
    rw [hframe.totalSupply]
    exact hsupply
  have hvalid : validateOnlyValidAndInitializedSet v m.address = .ok () := by
    rw [validated_of_sameFrame hframe (hv.controller.trans hsame.controller)]
    exact sync_validated h
  have hcollateral : ∀ asset ∈ m.collateralAssets, CollateralRecorded v m.address
      (m.underlyingToReserveTokens asset).aToken v.setToken.totalSupply := by
    intro asset hasset
    have htoken : (m.underlyingToReserveTokens asset).aToken ∈ m.collateralTokens :=
      List.mem_map_of_mem hasset
    rw [hv.setToken]
    exact (hrecorded.collateral _ htoken).of_same hv.setToken hv.controller
      (hv.collateral _ htoken)
  have hdebts : ∀ asset ∈ m.borrowAssets, DebtRecorded v m.address asset (m.borrowBalance v asset)
      v.setToken.totalSupply := by
    intro asset hasset
    rw [hv.debts asset hasset, hv.setToken]
    exact (hrecorded.debts asset hasset).of_same hv.setToken hv.controller
  rw [← hv.setToken]
  simp only [sync, hvalid, Outcome.ok_bind, if_pos hsupply',
    foldlM_syncCollateral_idle hcollateral hm]
  apply Outcome.foldlM_idle_iff
  intro asset hasset t
  exact (hdebts asset hasset).idle_iff

end AaveLeverageModule

namespace CompoundLeverageModule

open LeverageModule

variable {m : CompoundLeverageModule} {w w' v v' : World} {env env' : Env} {accrue accrue' : Bool}
  {cToken other token : Address}

/-- Interest in one market touches neither tokens nor the debts in other markets. -/
structure SeparateMarkets (env : Env) : Prop where
  tokens : ∀ market chain, (env.accrueInterest market chain).tokens = chain.tokens
  others : ∀ market other chain, other ≠ market →
    (env.accrueInterest market chain).borrowBalance other = chain.borrowBalance other
  later : ∀ market other chain, other ≠ market →
    (env.accrueInterest other (env.accrueInterest market chain)).borrowBalance other =
      (env.accrueInterest other chain).borrowBalance other

/-- Each borrowed asset has a market of its own, which holds in every run of the module. -/
structure DistinctMarkets (m : CompoundLeverageModule) : Prop where
  aligned : m.borrowCTokens = m.borrowAssets.map m.underlyingToCToken
  nodup : m.borrowCTokens.Nodup

theorem Parallel.distinctMarkets {cToken : Address → Address} (h : Parallel cToken m w) :
    m.DistinctMarkets := by
  refine ⟨?_, h.borrow.nodup⟩
  rw [h.markets]
  exact h.aligned

/-! ## Reading the debts -/

theorem borrowBalance_balance (henv : SeparateMarkets env) :
    (borrowBalance w env cToken accrue).1.balance token = w.balance token := by
  cases accrue with
  | false => rfl
  | true => simp only [borrowBalance, World.balance, World.erc20, if_true, henv.tokens]

theorem borrowBalance_other (henv : SeparateMarkets env) (hne : other ≠ cToken) :
    (borrowBalance w env cToken accrue).1.chain.borrowBalance other =
      w.chain.borrowBalance other := by
  cases accrue with
  | false => rfl
  | true => exact henv.others cToken other w.chain hne

/-- The debt that is read does not depend on the markets that were read before. -/
theorem borrowBalance_later (henv : SeparateMarkets env) (hne : other ≠ cToken) :
    (borrowBalance (borrowBalance w env cToken accrue).1 env other accrue).2 =
      (borrowBalance w env other accrue).2 := by
  cases accrue with
  | false => rfl
  | true => exact henv.later cToken other w.chain hne

theorem DistinctMarkets.entries_eq (h : m.DistinctMarkets) :
    m.borrowCTokens.zip m.borrowAssets =
      m.borrowAssets.map fun asset ↦ (m.underlyingToCToken asset, asset) := by
  have hzip := List.zip_map' (f := m.underlyingToCToken) (g := id) (l := m.borrowAssets)
  rw [List.map_id, ← h.aligned] at hzip
  exact hzip

theorem DistinctMarkets.nodup_entries (h : m.DistinctMarkets) :
    (m.borrowCTokens.zip m.borrowAssets).Nodup := by
  have hassets : m.borrowAssets.Nodup := by
    apply List.Nodup.of_map m.underlyingToCToken
    rw [← h.aligned]
    exact h.nodup
  rw [h.entries_eq]
  exact hassets.map fun _ _ heq ↦ (Prod.mk.inj heq).2

/-- Different entries differ in the market and in the asset. -/
theorem DistinctMarkets.ne_of_entries (h : m.DistinctMarkets) {entry entry' : Address × Address}
    (hentry : entry ∈ m.borrowCTokens.zip m.borrowAssets)
    (hentry' : entry' ∈ m.borrowCTokens.zip m.borrowAssets) (hne : entry' ≠ entry) :
    entry'.1 ≠ entry.1 ∧ entry'.2 ≠ entry.2 := by
  have hnodup := h.nodup
  rw [h.aligned] at hnodup
  rw [h.entries_eq] at hentry hentry'
  obtain ⟨asset, hasset, rfl⟩ := List.mem_map.mp hentry
  obtain ⟨asset', hasset', rfl⟩ := List.mem_map.mp hentry'
  have hassets : asset' ≠ asset := by
    rintro rfl
    exact hne rfl
  refine ⟨?_, hassets⟩
  intro heq
  exact hassets (List.inj_on_of_nodup_map hnodup hasset' hasset heq)

/-! ## The first synchronization -/

/-- The debts that are stored in the markets of the assets. -/
def storedDebt (m : CompoundLeverageModule) (w : World) (asset : Address) : ℕ :=
  w.chain.borrowBalance (m.underlyingToCToken asset)

theorem syncBorrowCToken_frame {supply : ℕ} {entry : Address × Address}
    (h : m.syncBorrowCToken env supply accrue w entry = .ok w') :
    w.setToken.SameFrame w'.setToken ∧ w'.controller = w.controller :=
  ⟨(syncBorrow_repositioned h).sameFrame, (syncBorrow_repositioned h).controller⟩

theorem sync_validated (h : m.sync w env accrue = .ok w') :
    validateOnlyValidAndInitializedSet w m.address = .ok () :=
  (sync_ok h).1

theorem sync_frame (h : m.sync w env accrue = .ok w') :
    w.setToken.SameFrame w'.setToken ∧ w'.controller = w.controller := by
  obtain ⟨-, ⟨-, rfl⟩ | ⟨-, v, hcollateral, hborrow⟩⟩ := sync_ok h
  · exact ⟨.refl _, rfl⟩
  · have hfirst : w.Repositioned v :=
      World.Repositioned.foldlM (fun _ _ _ hstep ↦ syncCollateral_repositioned hstep) hcollateral
    apply Outcome.foldlM_invariant (P := fun x : World ↦
      w.setToken.SameFrame x.setToken ∧ x.controller = w.controller) ?_ hborrow
      ⟨hfirst.sameFrame, hfirst.controller⟩
    intro x entry x' hstep ⟨hframe, hcontroller⟩
    obtain ⟨hframe', hcontroller'⟩ := syncBorrowCToken_frame hstep
    exact ⟨hframe.trans hframe', hcontroller'.trans hcontroller⟩

theorem sync_records (h : m.sync w env accrue = .ok w') (hw : w.setToken.Housed)
    (hsupply : 0 < w.setToken.totalSupply) (hm : m.DistinctMarkets) (henv : SeparateMarkets env) :
    Recorded w' m.address m.collateralCTokens m.borrowAssets (m.storedDebt w') := by
  have htotal := (sync_frame h).1.totalSupply
  obtain ⟨-, ⟨hidle, -⟩ | ⟨-, v, hcollateral, hborrow⟩⟩ := sync_ok h
  · exact absurd hidle hsupply.ne'
  have hhoused : v.setToken.Housed := by
    have hedits : World.Edits env (footprint m.address []) w v :=
      World.Edits.foldlM (fun _ _ _ _ hstep ↦ syncCollateral_edits hstep) hcollateral
    exact hedits.housed hw
  have hinv : ∀ x, ∀ b ∈ m.borrowCTokens.zip m.borrowAssets, ∀ x',
      m.syncBorrowCToken env w.setToken.totalSupply accrue x b = .ok x' →
      x.setToken.Housed → x'.setToken.Housed := by
    intro x b hb x' hstep hx
    have hpass : World.Edits env (footprint m.address m.borrowAssets) x x' :=
      syncBorrowCToken_edits ⟨rfl, (List.of_mem_zip hb).2⟩ hstep
    exact hpass.housed hx
  constructor
  · intro cToken hcToken
    rw [htotal]
    have hrecorded := foldlM_syncCollateral_records hcollateral hw.multiplier_pos hcToken
    refine (Outcome.foldlM_invariant_of_mem (P := fun x : World ↦ x.setToken.Housed ∧
      CollateralRecorded x m.address cToken w.setToken.totalSupply) ?_ hborrow
      ⟨hhoused, hrecorded⟩).2
    intro x b hb x' hstep ⟨hx, hkept⟩
    have hread : CollateralRecorded (borrowBalance x env b.1 accrue).1 m.address cToken
        w.setToken.totalSupply := hkept.of_same rfl rfl (borrowBalance_balance henv)
    exact ⟨hinv x b hb x' hstep hx, hread.syncBorrow hx hstep⟩
  · intro asset hasset
    rw [htotal]
    have hentry : (m.underlyingToCToken asset, asset) ∈ m.borrowCTokens.zip m.borrowAssets := by
      rw [hm.entries_eq]
      exact List.mem_map_of_mem hasset
    have hset : ∀ x x', m.syncBorrowCToken env w.setToken.totalSupply accrue x
        (m.underlyingToCToken asset, asset) = .ok x' → x.setToken.Housed →
        DebtRecorded x' m.address asset (m.storedDebt x' asset) w.setToken.totalSupply := by
      intro x x' hstep hx
      have hchain := (syncBorrow_repositioned hstep).chain
      have hrecorded := syncBorrow_records (w := (borrowBalance x env _ accrue).1) hx hstep
      unfold storedDebt
      rw [hchain]
      exact hrecorded
    apply Outcome.foldlM_establish (P := fun x : World ↦
        DebtRecorded x m.address asset (m.storedDebt x asset) w.setToken.totalSupply)
      (Q := fun x : World ↦ x.setToken.Housed) hentry hinv hset ?_ hborrow hhoused
    intro x b hb x' hstep hx hrecorded
    by_cases hne : b = (m.underlyingToCToken asset, asset)
    · subst hne
      exact hset x x' hstep hx
    · obtain ⟨hmarket, hasset'⟩ := hm.ne_of_entries hentry hb hne
      have hread : DebtRecorded (borrowBalance x env b.1 accrue).1 m.address asset
          (m.storedDebt x asset) w.setToken.totalSupply := hrecorded
      have hdebt : m.storedDebt x' asset = m.storedDebt x asset := by
        unfold storedDebt
        rw [(syncBorrow_repositioned hstep).chain]
        exact borrowBalance_other henv hmarket.symm
      rw [hdebt]
      exact hread.syncBorrow hx hasset'.symm hstep

/-! ## The second synchronization -/

/-- The SetToken is the same, and so is what it has and what is read of its debts. -/
structure SameReadings (m : CompoundLeverageModule) (w v : World) (env : Env) (accrue : Bool) :
    Prop where
  setToken : v.setToken = w.setToken
  controller : v.controller = w.controller
  collateral : ∀ cToken ∈ m.collateralCTokens, v.balance cToken = w.balance cToken
  debts : ∀ asset ∈ m.borrowAssets,
    (borrowBalance v env (m.underlyingToCToken asset) accrue).2 = m.storedDebt w asset

/-- The markets of all debts have accrued interest. -/
def accrued (m : CompoundLeverageModule) (w : World) (env : Env) (accrue : Bool) : World :=
  (m.borrowCTokens.zip m.borrowAssets).foldl (fun x entry ↦ (borrowBalance x env entry.1 accrue).1) w

theorem accrued_setToken : (m.accrued w env accrue).setToken = w.setToken := by
  apply List.foldlRecOn (motive := fun x : World ↦ x.setToken = w.setToken)
    (m.borrowCTokens.zip m.borrowAssets) _ rfl
  intro x hx entry hentry
  exact hx

/-- Synchronizing again changes nothing but the markets, and succeeds when the units of the debts can be
read. -/
theorem sync_again_iff (h : m.sync w env accrue = .ok w') (hw : w.setToken.Housed)
    (hsupply : 0 < w.setToken.totalSupply) (hm : m.DistinctMarkets) (henv : SeparateMarkets env)
    (henv' : SeparateMarkets env') (hv : m.SameReadings w' v env' accrue') :
    m.sync v env' accrue' = .ok v' ↔
      DebtsReadable w'.setToken m.address m.borrowAssets ∧ v' = m.accrued v env' accrue' := by
  obtain ⟨hsame, hcontroller⟩ := sync_frame h
  have hrecorded := sync_records h hw hsupply hm henv
  have hframe : w.setToken.SameFrame v.setToken := by
    rw [hv.setToken]
    exact hsame
  have hpos : 0 < v.setToken.positionMultiplier := by
    rw [hframe.positionMultiplier]
    exact hw.multiplier_pos
  have hsupply' : 0 < v.setToken.totalSupply := by
    rw [hframe.totalSupply]
    exact hsupply
  have hvalid : validateOnlyValidAndInitializedSet v m.address = .ok () := by
    rw [validated_of_sameFrame hframe (hv.controller.trans hcontroller)]
    exact sync_validated h
  have hcollateral : ∀ cToken ∈ m.collateralCTokens,
      CollateralRecorded v m.address cToken v.setToken.totalSupply := by
    intro cToken hcToken
    rw [hv.setToken]
    exact (hrecorded.collateral _ hcToken).of_same hv.setToken hv.controller
      (hv.collateral _ hcToken)
  have hreadable : DebtsReadable w'.setToken m.address m.borrowAssets ↔
      ∀ entry ∈ m.borrowCTokens.zip m.borrowAssets,
        ∃ unit, w'.setToken.getExternalPositionRealUnit entry.2 m.address = .ok unit := by
    rw [hm.entries_eq]
    simp [DebtsReadable]
  have hidle : m.collateralCTokens.foldlM (fun w cToken ↦
      syncCollateral w m.address cToken v.setToken.totalSupply) v = .ok v :=
    foldlM_syncCollateral_idle hcollateral hpos
  simp only [sync, hvalid, Outcome.ok_bind, if_pos hsupply', hidle]
  rw [hreadable]
  -- the pass over a debt needs it as the first synchronization left it, and leaves the others alone
  apply Outcome.foldlM_checked_iff
    (P := fun x : World ↦ x.setToken = w'.setToken ∧ x.controller = w'.controller)
    (Q := fun x entry ↦ (borrowBalance x env' entry.1 accrue').2 = m.storedDebt w' entry.2)
    hm.nodup_entries
  · rintro x entry hentry ⟨hset, hcontroller'⟩ hdebt t
    have hread : DebtRecorded (borrowBalance x env' entry.1 accrue').1 m.address entry.2
        (borrowBalance x env' entry.1 accrue').2 v.setToken.totalSupply := by
      rw [hdebt, hv.setToken]
      exact (hrecorded.debts entry.2 (List.of_mem_zip hentry).2).of_same hset hcontroller'
    rw [← hset]
    exact hread.idle_iff
  · intro x entry hentry hx hdebt
    refine ⟨hx, ?_⟩
    intro b hb hne hpending
    rw [borrowBalance_later henv' (hm.ne_of_entries hentry hb hne).1]
    exact hpending
  · exact ⟨hv.setToken, hv.controller⟩
  · intro entry hentry
    rw [hm.entries_eq] at hentry
    obtain ⟨asset, hasset, rfl⟩ := List.mem_map.mp hentry
    exact hv.debts asset hasset

end CompoundLeverageModule

namespace LeverageModule

open CompoundLeverageModule (SeparateMarkets)

/-- A synchronization of either module leaves units on the safe side of what the SetToken has and owes,
and another one changes nothing as long as the same is read.  The lists of the SetToken agree with its
units, as they do in every run. -/
theorem sync_conservative_idempotent {w : World} (hw : w.setToken.Housed)
    (hsupply : 0 < w.setToken.totalSupply) :
    (∀ (m : AaveLeverageModule) (w' : World), w.setToken.Holdings m.address Set.univ →
      m.sync w = .ok w' →
      Conservative w'.setToken m.address m.collateralTokens w'.balance m.borrowAssets
        (m.borrowBalance w') ∧
      ∀ v, m.SameReadings w' v →
        (∀ v', m.sync v = .ok v' → v'.setToken = w'.setToken) ∧
        (DebtsReadable w'.setToken m.address m.borrowAssets → ∃ v', m.sync v = .ok v')) ∧
    (∀ (m : CompoundLeverageModule) (env : Env) (accrue : Bool) (w' : World),
      w.setToken.Holdings m.address Set.univ → m.DistinctMarkets → SeparateMarkets env →
      m.sync w env accrue = .ok w' →
      Conservative w'.setToken m.address m.collateralCTokens w'.balance m.borrowAssets
        (m.storedDebt w') ∧
      ∀ v env' accrue', SeparateMarkets env' → m.SameReadings w' v env' accrue' →
        (∀ v', m.sync v env' accrue' = .ok v' → v'.setToken = w'.setToken) ∧
        (DebtsReadable w'.setToken m.address m.borrowAssets →
          ∃ v', m.sync v env' accrue' = .ok v')) := by
  constructor
  · intro m w' hp h
    have hframe := (AaveLeverageModule.sync_repositioned h).sameFrame
    have hedits : World.Edits (Env.plain 0 0) (footprint m.address m.borrowAssets) w w' :=
      AaveLeverageModule.sync_edits (fun c hc ↦ ⟨rfl, hc⟩) h
    have hafter := hedits.holdings hw hp (fun c _ ↦ Set.mem_univ c) (fun _ hwrites ↦ hwrites)
    constructor
    · apply (AaveLeverageModule.sync_records h hw hsupply).conservative ?_ hafter
      rw [hframe.positionMultiplier]
      exact hw.multiplier_pos
    · intro v hv
      have hagain : ∀ v', m.sync v = .ok v' ↔
          DebtsReadable w'.setToken m.address m.borrowAssets ∧ v' = v :=
        fun _ ↦ AaveLeverageModule.sync_again_iff h hw hsupply hv
      constructor
      · intro v' hsync
        rw [((hagain v').mp hsync).2]
        exact hv.setToken
      · intro hreadable
        exact ⟨v, (hagain v).mpr ⟨hreadable, rfl⟩⟩
  · intro m env accrue w' hp hm henv h
    have hframe := (CompoundLeverageModule.sync_frame h).1
    have hedits : World.Edits env (footprint m.address m.borrowAssets) w w' :=
      CompoundLeverageModule.sync_edits (fun c hc ↦ ⟨rfl, hc⟩) h
    have hafter := hedits.holdings hw hp (fun c _ ↦ Set.mem_univ c) (fun _ hwrites ↦ hwrites)
    constructor
    · apply (CompoundLeverageModule.sync_records h hw hsupply hm henv).conservative ?_ hafter
      rw [hframe.positionMultiplier]
      exact hw.multiplier_pos
    · intro v env' accrue' henv' hv
      have hagain : ∀ v', m.sync v env' accrue' = .ok v' ↔
          DebtsReadable w'.setToken m.address m.borrowAssets ∧ v' = m.accrued v env' accrue' :=
        fun _ ↦ CompoundLeverageModule.sync_again_iff h hw hsupply hm henv henv' hv
      constructor
      · intro v' hsync
        rw [((hagain v').mp hsync).2, CompoundLeverageModule.accrued_setToken]
        exact hv.setToken
      · intro hreadable
        exact ⟨_, (hagain _).mpr ⟨hreadable, rfl⟩⟩

namespace SyncSample

/-- Three Sets with a multiplier of seven tenths.  The SetToken has 100 of the collateral token 61, owes
100 of token 52 on Aave by the debt token 72, and 90 on Compound. -/
def world : World where
  controller := { Controller.enabling 4 [31, 32] with isSet := fun a ↦ a == 6 }
  setToken := { SetToken.launched 6 [61] [50] [31, 32] 2 9 (3 * 10 ^ 18) with
    positionMultiplier := 7 * 10 ^ 17 }
  chain := {
    tokens := fun a ↦
      if a = 61 ∨ a = 72 then ERC20.holding 18 [(6, 100)] 0 else ERC20.empty 18
    borrowBalance := fun market ↦ if market = 64 then 90 else 0 }
  log := []

def aave : AaveLeverageModule where
  address := 31
  owner := 8
  lendingPool := 41
  underlyingToReserveTokens := fun asset ↦
    if asset = 51 then ⟨61, 71⟩ else if asset = 52 then ⟨62, 72⟩ else ⟨0, 0⟩
  collateralAssetEnabled := fun asset ↦ asset == 51
  borrowAssetEnabled := fun asset ↦ asset == 52
  collateralAssets := [51]
  borrowAssets := [52]
  allowedSetToken := true
  anySetAllowed := false

def compound : CompoundLeverageModule where
  address := 32
  owner := 8
  weth := 55
  cEther := 65
  comptroller := 42
  underlyingToCToken := fun asset ↦ if asset = 51 then 61 else if asset = 52 then 64 else 0
  collateralCTokenEnabled := fun cToken ↦ cToken == 61
  borrowCTokenEnabled := fun cToken ↦ cToken == 64
  collateralCTokens := [61]
  borrowCTokens := [64]
  borrowAssets := [52]
  allowedSetToken := true
  anySetAllowed := false

/-- The interest of a debt of 90 is 10, and has been paid in once the debt is 100. -/
def env : Env :=
  { Env.plain 9 0 with
    accrueInterest := fun market chain ↦
      { chain with
        borrowBalance := Function.update chain.borrowBalance market
          (if chain.borrowBalance market = 90 then 100 else chain.borrowBalance market) } }

def onAave : World := (aave.sync world).getD world

def onCompound : World := (compound.sync world env true).getD world

theorem world_housed : world.setToken.Housed := by
  have hnew : (SetToken.new 6 [61] [50] [31, 32] 2).Housed :=
    (SetToken.new_positionInvariant (by decide) rfl (by decide)).housed
  exact ⟨hnew.components_nodup, hnew.external_nodup, hnew.mem_components, by decide⟩

theorem world_holdings (module : Address) : world.setToken.Holdings module Set.univ := by
  have hmodules : ∀ c, world.setToken.externalPositionModules c = [] := by
    intro c
    change (SetToken.new 6 [61] [50] [31, 32] 2).externalPositionModules c = []
    simp
  have hunits : ∀ c, world.setToken.externalPositionVirtualUnit c module = 0 := by
    intro c
    change (SetToken.new 6 [61] [50] [31, 32] 2).externalPositionVirtualUnit c module = 0
    simp
  refine ⟨?_, ?_, fun c _ ↦ Set.mem_univ c⟩
  · intro c
    simp [hmodules, hunits]
  · intro c hne
    exact absurd (hunits c) hne

theorem env_separate : SeparateMarkets env where
  tokens := fun _ _ ↦ rfl
  others := fun market other chain hne ↦ Function.update_of_ne hne _ _
  later := by
    intro market other chain hne
    simp [env, Function.update_of_ne hne]

/-- The collateral of 100 is recorded as 32 for each Set, the debts of 100 as 35, also by another
synchronization. -/
theorem synced :
    (onAave.setToken.defaultRealUnit 61 = 32 ∧ onAave.setToken.externalRealUnit 52 31 = -35 ∧
      Conservative onAave.setToken 31 [61] onAave.balance [52] (aave.borrowBalance onAave) ∧
      ∃ v, aave.sync onAave = .ok v ∧ v.setToken = onAave.setToken) ∧
    (onCompound.setToken.defaultRealUnit 61 = 32 ∧
      onCompound.setToken.externalRealUnit 52 32 = -35 ∧
      Conservative onCompound.setToken 32 [61] onCompound.balance [52]
        (compound.storedDebt onCompound) ∧
      ∃ v, compound.sync onCompound env true = .ok v ∧ v.setToken = onCompound.setToken) := by
  obtain ⟨haave, hcompound⟩ := sync_conservative_idempotent world_housed (by decide)
  constructor
  · have hsync : aave.sync world = .ok onAave := Outcome.eq_ok_getD world (by decide +kernel)
    obtain ⟨hconservative, hagain⟩ := haave aave onAave (world_holdings 31) hsync
    obtain ⟨hsame, hok⟩ := hagain onAave ⟨rfl, rfl, fun _ _ ↦ rfl, fun _ _ ↦ rfl⟩
    have hreadable : DebtsReadable onAave.setToken 31 [52] := by
      intro asset hasset
      obtain rfl := List.mem_singleton.mp hasset
      exact ⟨-35, by decide +kernel⟩
    obtain ⟨v, hv⟩ := hok hreadable
    exact ⟨by decide +kernel, by decide +kernel, hconservative, v, hv, hsame v hv⟩
  · have hsync : compound.sync world env true = .ok onCompound :=
      Outcome.eq_ok_getD world (by decide +kernel)
    obtain ⟨hconservative, hagain⟩ := hcompound compound env true onCompound (world_holdings 32)
      ⟨rfl, by decide⟩ env_separate hsync
    have hdebt : (CompoundLeverageModule.borrowBalance onCompound env 64 true).2 =
        compound.storedDebt onCompound 52 := by
      decide +kernel
    obtain ⟨hsame, hok⟩ := hagain onCompound env true env_separate ⟨rfl, rfl, fun _ _ ↦ rfl, by
      intro asset hasset
      obtain rfl := List.mem_singleton.mp hasset
      exact hdebt⟩
    have hreadable : DebtsReadable onCompound.setToken 32 [52] := by
      intro asset hasset
      obtain rfl := List.mem_singleton.mp hasset
      exact ⟨-35, by decide +kernel⟩
    obtain ⟨v, hv⟩ := hok hreadable
    exact ⟨by decide +kernel, by decide +kernel, hconservative, v, hv, hsame v hv⟩

end SyncSample

end LeverageModule

end SetProtocol
