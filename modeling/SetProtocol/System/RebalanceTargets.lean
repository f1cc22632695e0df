import SetProtocol.Modules.GeneralIndexModule
import SetProtocol.Foundation.Trace

/-!
# Targets of a rebalance

What `GeneralIndexModule` decides by comparing current units with targets: whether all targets are met,
whether there is WETH to spend, and which rebalance a target belongs to.  The units and the normalized
targets are stated over the natural numbers, for states in which computing them does not overflow.
-/

namespace SetProtocol.GeneralIndexModule

open PreciseUnitMath ModuleBase

/-! ## Units and targets as numbers -/

def currentUnit (w : World) (component : Address) : ℕ :=
  (w.setToken.defaultRealUnit component).toNat

def normalizedTarget (m : GeneralIndexModule) (w : World) (component : Address) : ℕ :=
  (m.executionInfo component).targetUnit * w.setToken.positionMultiplier.toNat /
    m.rebalanceInfo.positionMultiplier

/-- Neither the unit nor the normalized target of the component overflows. -/
structure Readable (m : GeneralIndexModule) (w : World) (component : Address) : Prop where
  unit_inInt256 : InInt256
    (w.setToken.defaultPositionVirtualUnit component * w.setToken.positionMultiplier)
  unit_nonneg : 0 ≤ w.setToken.defaultRealUnit component
  multiplier_nonneg : 0 ≤ w.setToken.positionMultiplier
  target_le : (m.executionInfo component).targetUnit * w.setToken.positionMultiplier.toNat ≤
    maxUint256
  rebalanceMultiplier_pos : 0 < m.rebalanceInfo.positionMultiplier

variable {m m' : GeneralIndexModule} {w w' : World} {env : Env} {component : Address} {limit : ℕ}

theorem getDefaultPositionRealUnit_eq_ok {unit : ℕ} :
    getDefaultPositionRealUnit w component = .ok unit ↔
      InInt256 (w.setToken.defaultPositionVirtualUnit component * w.setToken.positionMultiplier) ∧
        w.setToken.defaultRealUnit component = unit := by
  simp only [getDefaultPositionRealUnit, Outcome.bind_eq_ok,
    SetToken.getDefaultPositionRealUnit_eq_ok, SafeCast.toUint256_eq_ok]
  constructor
  · rintro ⟨_, ⟨hrange, rfl⟩, hunit⟩
    exact ⟨hrange, hunit⟩
  · rintro ⟨hrange, hunit⟩
    exact ⟨_, ⟨hrange, rfl⟩, hunit⟩

theorem getNormalizedTargetUnit_eq_ok {unit : ℕ} :
    m.getNormalizedTargetUnit w component = .ok unit ↔
      0 ≤ w.setToken.positionMultiplier ∧
        (m.executionInfo component).targetUnit * w.setToken.positionMultiplier.toNat ≤ maxUint256 ∧
        0 < m.rebalanceInfo.positionMultiplier ∧ unit = m.normalizedTarget w component := by
  simp only [getNormalizedTargetUnit, Outcome.bind_eq_ok, SafeCast.toUint256_eq_ok,
    SafeMath.mul_eq_ok, SafeMath.div_eq_ok, normalizedTarget]
  constructor
  · rintro ⟨multiplier, hmultiplier, _, ⟨hle, rfl⟩, hpos, rfl⟩
    rw [hmultiplier, Int.toNat_natCast]
    exact ⟨Int.natCast_nonneg _, hle, hpos, rfl⟩
  · rintro ⟨hnonneg, hle, hpos, rfl⟩
    exact ⟨_, (Int.toNat_of_nonneg hnonneg).symm, _, ⟨hle, rfl⟩, hpos, rfl⟩

theorem Readable.currentUnit_eq (h : Readable m w component) :
    getDefaultPositionRealUnit w component = .ok (currentUnit w component) :=
  getDefaultPositionRealUnit_eq_ok.mpr
    ⟨h.unit_inInt256, (Int.toNat_of_nonneg h.unit_nonneg).symm⟩

theorem Readable.normalizedTarget_eq (h : Readable m w component) :
    m.getNormalizedTargetUnit w component = .ok (m.normalizedTarget w component) :=
  getNormalizedTargetUnit_eq_ok.mpr
    ⟨h.multiplier_nonneg, h.target_le, h.rebalanceMultiplier_pos, rfl⟩

theorem Readable.currentUnit_lt (h : Readable m w component) : currentUnit w component < 2 ^ 255 := by
  have hle : w.setToken.defaultRealUnit component ≤ maxInt256 := by
    unfold SetToken.defaultRealUnit SetToken.realUnit
    obtain ⟨-, hhigh⟩ := h.unit_inInt256
    unfold maxInt256 preciseUnitInt at *
    omega
  unfold currentUnit
  unfold maxInt256 at hle
  have hnonneg := h.unit_nonneg
  omega

/-! ## Whether all targets are met -/

/-- A target of zero is met exactly, another one up to one unit. -/
def Met (m : GeneralIndexModule) (w : World) (component : Address) : Prop :=
  m.normalizedTarget w component = 0 ∧ currentUnit w component = 0 ∨
    0 < m.normalizedTarget w component ∧
      m.normalizedTarget w component ≤ currentUnit w component + 1 ∧
      currentUnit w component ≤ m.normalizedTarget w component + 1

instance (m : GeneralIndexModule) (w : World) (component : Address) :
    Decidable (m.Met w component) :=
  inferInstanceAs (Decidable (_ ∧ _ ∨ _ ∧ _ ∧ _))

/-- A component that is to be bought up to a unit of one, and of which nothing was bought yet. -/
def Unstarted (m : GeneralIndexModule) (w : World) (component : Address) : Prop :=
  component ≠ m.weth ∧ m.normalizedTarget w component = 1 ∧ currentUnit w component = 0

instance (m : GeneralIndexModule) (w : World) (component : Address) :
    Decidable (m.Unstarted w component) :=
  inferInstanceAs (Decidable (_ ∧ _ ∧ _))

/-- A component at which the check of all targets stops. -/
def Unmet (m : GeneralIndexModule) (w : World) (component : Address) : Prop :=
  component ≠ m.weth ∧ ¬ m.Met w component

instance (m : GeneralIndexModule) (w : World) (component : Address) :
    Decidable (m.Unmet w component) :=
  inferInstanceAs (Decidable (_ ∧ _))

/-- The tolerance below the current unit is subtracted whenever the target is at most one above it, and
that fails for a current unit of zero. -/
theorem targetUnmet_eq (h : component ≠ m.weth → Readable m w component) :
    m.targetUnmet w component =
      if m.Unstarted w component then .error "SafeMath: subtraction overflow"
      else .ok (decide (m.Unmet w component)) := by
  unfold targetUnmet
  by_cases hweth : component = m.weth
  · simp [Unstarted, Unmet, hweth, pure, Except.pure]
  · have hreadable := h hweth
    have hlt := hreadable.currentUnit_lt
    have hadd : currentUnit w component + 1 ≤ maxUint256 := by
      unfold maxUint256
      omega
    rw [if_neg hweth, hreadable.normalizedTarget_eq, hreadable.currentUnit_eq]
    simp only [Outcome.ok_bind]
    by_cases htarget : 0 < m.normalizedTarget w component
    · rw [if_pos htarget, approximatelyEquals_one htarget hadd]
      by_cases hunstarted : m.normalizedTarget w component = 1 ∧ currentUnit w component = 0
      · simp [Unstarted, hweth, hunstarted]
      · have hmet : m.Met w component ↔ m.normalizedTarget w component ≤ currentUnit w component + 1 ∧
            currentUnit w component ≤ m.normalizedTarget w component + 1 := by
          unfold Met
          omega
        rw [if_neg hunstarted, if_neg fun h ↦ hunstarted h.2, Outcome.ok_bind]
        simp only [Unmet, hmet, ne_eq, hweth, not_false_eq_true, true_and, decide_not]
        rfl
    · have hzero : m.normalizedTarget w component = 0 := by omega
      simp [Unstarted, Unmet, Met, hweth, hzero, eq_comm, pure, Except.pure]

/-- Every `P` element of the list comes after a `Q` element. -/
def Preceded (P Q : Address → Prop) (components : List Address) : Prop :=
  ∀ before c after, components = before ++ c :: after → P c → ∃ e ∈ before, Q e

theorem preceded_cons {P Q : Address → Prop} {rest : List Address} :
    Preceded P Q (component :: rest) ↔ ¬ P component ∧ (¬ Q component → Preceded P Q rest) := by
  constructor
  · intro h
    refine ⟨fun hP ↦ ?_, fun hQ before c after hsplit hc ↦ ?_⟩
    · obtain ⟨e, he, -⟩ := h [] component rest rfl hP
      cases he
    · obtain ⟨e, he, hQe⟩ := h (component :: before) c after (congrArg (component :: ·) hsplit) hc
      rcases List.mem_cons.mp he with rfl | he
      · exact absurd hQe hQ
      · exact ⟨e, he, hQe⟩
  · rintro ⟨hP, h⟩ before c after hsplit hc
    cases before with
    | nil =>
      obtain ⟨rfl, rfl⟩ := List.cons.inj hsplit
      exact absurd hc hP
    | cons first before =>
      obtain ⟨rfl, htail⟩ := List.cons.inj hsplit
      by_cases hQ : Q component
      · exact ⟨component, List.mem_cons_self, hQ⟩
      · obtain ⟨e, he, hQe⟩ := h hQ before c after htail hc
        exact ⟨e, List.mem_cons_of_mem _ he, hQe⟩

/-- The loop reverts at the first unstarted component, unless it has stopped before at one whose target
is not met. -/
theorem allTargetsMetLoop_exists_iff {components : List Address}
    (h : ∀ c ∈ components, c ≠ m.weth → Readable m w c) :
    (∃ met, m.allTargetsMetLoop w components = .ok met) ↔
      Preceded (m.Unstarted w) (m.Unmet w) components := by
  induction components with
  | nil => simp [allTargetsMetLoop, Preceded]
  | cons component rest ih =>
    have hrest := ih fun c hc ↦ h c (List.mem_cons_of_mem _ hc)
    rw [allTargetsMetLoop, targetUnmet_eq (h component List.mem_cons_self), preceded_cons, ← hrest]
    by_cases hunstarted : m.Unstarted w component
    · simp [hunstarted, bind, Except.bind]
    · by_cases hunmet : m.Unmet w component
      · simp [hunstarted, hunmet]
      · simp [hunstarted, hunmet]

theorem allTargetsMetLoop_eq_true_iff {components : List Address} {met : Bool}
    (h : ∀ c ∈ components, c ≠ m.weth → Readable m w c)
    (hloop : m.allTargetsMetLoop w components = .ok met) :
    met = true ↔ ∀ c ∈ components, c ≠ m.weth → m.Met w c := by
  induction components with
  | nil =>
    obtain rfl := Outcome.pure_eq_ok.mp hloop
    simp
  | cons component rest ih =>
    rw [allTargetsMetLoop, targetUnmet_eq (h component List.mem_cons_self)] at hloop
    simp only [List.forall_mem_cons]
    split_ifs at hloop with hunstarted
    · cases hloop
    · simp only [Outcome.bind_eq_ok, Except.ok.injEq, exists_eq_left'] at hloop
      by_cases hunmet : m.Unmet w component
      · rw [decide_eq_true hunmet, if_pos rfl, Outcome.pure_eq_ok] at hloop
        subst hloop
        exact iff_of_false Bool.false_ne_true fun hall ↦ hunmet.2 (hall.1 hunmet.1)
      · rw [decide_eq_false hunmet, if_neg Bool.false_ne_true] at hloop
        rw [ih (fun c hc ↦ h c (List.mem_cons_of_mem _ hc)) hloop]
        simp only [Unmet, not_and, not_not] at hunmet
        exact (and_iff_right hunmet).symm

/-- The check of all targets returns what it should unless it meets an unstarted component before an
unmet one. -/
theorem allTargetsMet_decides_iff
    (h : ∀ c ∈ m.rebalanceInfo.rebalanceComponents, c ≠ m.weth → Readable m w c) :
    (∃ met, m.allTargetsMet w = .ok met ∧
        (met = true ↔ ∀ c ∈ m.rebalanceInfo.rebalanceComponents, c ≠ m.weth → m.Met w c)) ↔
      Preceded (m.Unstarted w) (m.Unmet w) m.rebalanceInfo.rebalanceComponents := by
  rw [← allTargetsMetLoop_exists_iff h]
  constructor
  · rintro ⟨met, hmet, -⟩
    exact ⟨met, hmet⟩
  · rintro ⟨met, hmet⟩
    exact ⟨met, hmet, allTargetsMetLoop_eq_true_iff h hmet⟩

/-! ## Whether there is WETH to spend -/

/-- The WETH unit passes the comparison in `tradeRemainingWETH`, which takes the target as it was given
to `startRebalance`. -/
def PassesWETHGuard (m : GeneralIndexModule) (w : World) : Prop :=
  ∃ unit, getDefaultPositionRealUnit w m.weth = .ok unit ∧
    (m.executionInfo m.weth).targetUnit < unit

theorem tradeRemainingWETH_passes
    (h : m.tradeRemainingWETH w env component limit = .ok (m', w')) : m.PassesWETHGuard w := by
  simp only [tradeRemainingWETH, Outcome.bind_eq_ok, Outcome.require_eq_ok] at h
  obtain ⟨_, -, _, -, _, -, _, -, unit, hunit, _, hguard, -⟩ := h
  exact ⟨unit, hunit, hguard⟩

/-- A caller who may trade is turned away at the guard, and nowhere before it when there is nothing to
sell. -/
theorem tradeRemainingWETH_of_not_passes (htrader : m.validateOnlyAllowedTrader env = .ok ())
    (horigin : m.validateOnlyEOAIfUnrestricted env = .ok ())
    (hsell : m.noTokensToSell w = .ok true) (hweth : Readable m w m.weth)
    (h : ¬ m.PassesWETHGuard w) :
    m.tradeRemainingWETH w env component limit = .error "WETH is below target unit" := by
  have hguard : ¬ (m.executionInfo m.weth).targetUnit < currentUnit w m.weth :=
    fun hlt ↦ h ⟨_, hweth.currentUnit_eq, hlt⟩
  have hrequire : require ((m.executionInfo m.weth).targetUnit < currentUnit w m.weth)
      "WETH is below target unit" = .error "WETH is below target unit" := if_neg hguard
  rw [tradeRemainingWETH, htrader, horigin, hsell, hweth.currentUnit_eq]
  simp only [Outcome.ok_bind, require, if_true] at hrequire ⊢
  rw [hrequire, Outcome.error_bind]

theorem Readable.normalizedTarget_lt_iff (h : Readable m w component) (unit : ℕ) :
    m.normalizedTarget w component < unit ↔
      (m.executionInfo component).targetUnit * w.setToken.positionMultiplier.toNat <
        unit * m.rebalanceInfo.positionMultiplier :=
  Nat.div_lt_iff_lt_mul h.rebalanceMultiplier_pos

/-- The WETH unit lies between the target that was given and the normalized one: above the former and
not above the latter after the targets were raised, the other way around after fees were accrued. -/
def BetweenTargets (m : GeneralIndexModule) (w : World) : Prop :=
  let target := (m.executionInfo m.weth).targetUnit
  let unit := currentUnit w m.weth
  let multiplier := w.setToken.positionMultiplier.toNat
  let rebalanceMultiplier := m.rebalanceInfo.positionMultiplier
  rebalanceMultiplier < multiplier ∧ target < unit ∧
      unit * rebalanceMultiplier ≤ target * multiplier ∨
    multiplier < rebalanceMultiplier ∧ target * multiplier < unit * rebalanceMultiplier ∧
      unit ≤ target

instance (m : GeneralIndexModule) (w : World) : Decidable (m.BetweenTargets w) :=
  inferInstanceAs (Decidable (_ ∧ _ ∧ _ ∨ _ ∧ _ ∧ _))

/-- The WETH guard agrees with the normalized target exactly when the WETH unit does not lie between
the two targets. -/
theorem passesWETHGuard_agrees_iff (h : Readable m w m.weth) :
    (m.PassesWETHGuard w ↔ m.normalizedTarget w m.weth < currentUnit w m.weth) ↔
      ¬ m.BetweenTargets w := by
  have hpasses : m.PassesWETHGuard w ↔ (m.executionInfo m.weth).targetUnit < currentUnit w m.weth := by
    unfold PassesWETHGuard
    simp only [h.currentUnit_eq, Except.ok.injEq, exists_eq_left']
  rw [hpasses, h.normalizedTarget_lt_iff]
  unfold BetweenTargets
  generalize (m.executionInfo m.weth).targetUnit = target
  generalize currentUnit w m.weth = unit
  generalize w.setToken.positionMultiplier.toNat = multiplier
  have hpos := h.rebalanceMultiplier_pos
  generalize m.rebalanceInfo.positionMultiplier = rebalanceMultiplier at hpos ⊢
  dsimp only
  -- scaling down keeps a unit above the target there, scaling up keeps one below it
  have hdown : multiplier ≤ rebalanceMultiplier → target < unit →
      target * multiplier < unit * rebalanceMultiplier := by
    intro hle hlt
    calc
      target * multiplier ≤ target * rebalanceMultiplier := Nat.mul_le_mul_left target hle
      _ < unit * rebalanceMultiplier := Nat.mul_lt_mul_of_pos_right hlt hpos
  have hup : rebalanceMultiplier ≤ multiplier → unit ≤ target →
      unit * rebalanceMultiplier ≤ target * multiplier :=
    fun hle hunit ↦ Nat.mul_le_mul hunit hle
  rcases lt_trichotomy multiplier rebalanceMultiplier with hlt | heq | hlt
  · have := hdown hlt.le
    omega
  · have := hdown heq.le
    have := hup heq.ge
    omega
  · have := hup hlt.le
    omega

namespace TargetSample

def module : GeneralIndexModule where
  address := 20
  weth := 9
  executionInfo := fun _ ↦ ⟨0, 1000, 0, 0, "", []⟩
  permissionInfo := ⟨true, [], fun _ ↦ false⟩
  rebalanceInfo := ⟨0, 0, []⟩

/-- A Set with 100 units of component 8 and 50 of WETH. -/
def world : World where
  controller := { Controller.enabling 4 [20] with isSet := fun a ↦ a == 6 }
  setToken := SetToken.launched 6 [8, 9] [100, 50] [20] 2 2 (10 ^ 18)
  chain := { tokens := fun _ ↦ ERC20.holding 18 [(6, 100)] 0 }
  log := []

/-- A rebalance that adds one unit of token 7, with a target for component 8. -/
def started (target : ℕ) : Outcome GeneralIndexModule :=
  module.startRebalance world (Env.plain 2 0) [7] [1] [target, 50] (10 ^ 18)

/-- When component 8 is where it should be, the check reaches token 7 and reverts. -/
theorem started_not_decides :
    (started 100).isOk = true ∧ ((started 100).getD module).Met world 7 ∧
      ((started 100).getD module).allTargetsMet world =
        .error "SafeMath: subtraction overflow" :=
  ⟨by decide +kernel, by decide +kernel, by decide +kernel⟩

/-- When component 8 is to be sold first, the check stops there. -/
theorem started_decides :
    ∃ met, ((started 90).getD module).allTargetsMet world = .ok met ∧
      (met = true ↔ ∀ c ∈ ((started 90).getD module).rebalanceInfo.rebalanceComponents,
        c ≠ ((started 90).getD module).weth → ((started 90).getD module).Met world c) := by
  have hcomponents : ((started 90).getD module).rebalanceInfo.rebalanceComponents = [8, 9, 7] := by
    decide +kernel
  have hreadable (c : Address) (hc : c ∈ [(8 : Address), 9, 7]) :
      Readable ((started 90).getD module) world c := by
    simp only [List.mem_cons, List.not_mem_nil, or_false] at hc
    rcases hc with rfl | rfl | rfl
    all_goals
      exact ⟨by decide +kernel, by decide +kernel, by decide +kernel, by decide +kernel,
        by decide +kernel⟩
  have hstarted : ¬ ((started 90).getD module).Unstarted world 8 := by
    decide +kernel
  have hunmet : ((started 90).getD module).Unmet world 8 := by
    decide +kernel
  apply (allTargetsMet_decides_iff fun c hc _ ↦ hreadable c (hcomponents ▸ hc)).mpr
  rw [hcomponents, preceded_cons]
  exact ⟨hstarted, fun h ↦ absurd hunmet h⟩

/-- The multiplier after fees of a tenth were accrued. -/
def accruedWorld : World :=
  world.setMultiplier (9 * 10 ^ 17)

/-- A rebalance that sells nothing, with a target for WETH. -/
def floated (target : ℕ) : Outcome GeneralIndexModule :=
  module.startRebalance world (Env.plain 2 0) [] [] [100, target] (10 ^ 18)

theorem floated_readable (target : ℕ) (h : target ∈ [44, 47]) :
    Readable ((floated target).getD module) accruedWorld 9 := by
  simp only [List.mem_cons, List.not_mem_nil, or_false] at h
  rcases h with rfl | rfl
  all_goals
    exact ⟨by decide +kernel, by decide +kernel, by decide +kernel, by decide +kernel,
      by decide +kernel⟩

/-- Of the target 47 the accrual left 42 while the WETH unit is 45, and the trade is refused. -/
theorem floated_not_agrees :
    (floated 47).isOk = true ∧ ((floated 47).getD module).noTokensToSell accruedWorld = .ok true ∧
      ((floated 47).getD module).normalizedTarget accruedWorld 9 = 42 ∧
      currentUnit accruedWorld 9 = 45 ∧ ¬ ((floated 47).getD module).PassesWETHGuard accruedWorld ∧
      ((floated 47).getD module).tradeRemainingWETH accruedWorld (Env.plain 11 100) 8 0 =
        .error "WETH is below target unit" := by
  have hsell : ((floated 47).getD module).noTokensToSell accruedWorld = .ok true := by
    decide +kernel
  have hunit : getDefaultPositionRealUnit accruedWorld ((floated 47).getD module).weth = .ok 45 := by
    decide +kernel
  have hguard : ¬ ((floated 47).getD module).PassesWETHGuard accruedWorld := by
    rintro ⟨unit, hread, hlt⟩
    obtain rfl : 45 = unit := Except.ok.inj (hunit.symm.trans hread)
    exact absurd hlt (by decide +kernel)
  exact ⟨by decide +kernel, hsell, by decide +kernel, by decide +kernel, hguard,
    tradeRemainingWETH_of_not_passes (by decide +kernel) (by decide +kernel) hsell
      (floated_readable 47 (by simp)) hguard⟩

theorem floated_agrees :
    ((floated 44).getD module).PassesWETHGuard accruedWorld ↔
      ((floated 44).getD module).normalizedTarget accruedWorld ((floated 44).getD module).weth <
        currentUnit accruedWorld ((floated 44).getD module).weth :=
  (passesWETHGuard_agrees_iff (floated_readable 44 (by simp))).mpr (by decide +kernel)

end TargetSample

end SetProtocol.GeneralIndexModule
