import SetProtocol.Foundation.Trace
import SetProtocol.System.Accruals

/-!
# The deadline of a streaming fee

The yearly rate of a streaming fee is below 100%, but anybody or nobody may accrue it, and nothing bounds
the time that has passed since the last accrual.  Once the fee of that time reaches 100% there is nothing
left to divide by: no accrual succeeds any more, and neither does a change of the rate, which accrues
first.  Only a removal of the module forgets the fee.
-/

namespace SetProtocol

open PreciseUnitMath ModuleBase

namespace SetToken

variable {s : SetToken} {t : ERC20} {controller : Controller} {sender : Address} {multiplier : ℤ}

theorem authorized_setErc20_iff :
    (s.setErc20 t).Authorized controller sender ↔ s.Authorized controller sender :=
  ⟨fun h ↦ ⟨h.initialized, h.enabled, h.locker⟩, fun h ↦ ⟨h.initialized, h.enabled, h.locker⟩⟩

theorem setErc20_validateNewMultiplier :
    (s.setErc20 t).validateNewMultiplier multiplier = s.validateNewMultiplier multiplier :=
  rfl

end SetToken

namespace StreamingFeeModule

variable {m m' : StreamingFeeModule} {w w' : World} {env : Env} {newFee : ℕ}

def timeSinceLastFee (m : StreamingFeeModule) (env : Env) : ℕ :=
  env.timestamp - m.feeState.lastStreamingFeeTimestamp

/-- The fee of the time since the last accrual is less than 100%. -/
def WithinDeadline (m : StreamingFeeModule) (env : Env) : Prop :=
  m.timeSinceLastFee env * m.feeState.streamingFeePercentage < preciseUnit * oneYearInSeconds

/-- The yearly rate for the time since the last accrual. -/
def feePercentage (m : StreamingFeeModule) (env : Env) : ℕ :=
  m.timeSinceLastFee env * m.feeState.streamingFeePercentage / oneYearInSeconds

/-- The Sets that dilute the supply by the fee. -/
def feeQuantity (m : StreamingFeeModule) (w : World) (env : Env) : ℕ :=
  m.feePercentage env * w.setToken.totalSupply / (preciseUnit - m.feePercentage env)

/-- The protocol's part of the fee. -/
def protocolAmount (m : StreamingFeeModule) (w : World) (env : Env) : ℕ :=
  m.feeQuantity w env * w.controller.getModuleFee m.address protocolStreamingFeeIndex / preciseUnit

/-- The multiplier that is left by the fee. -/
def deflatedMultiplier (m : StreamingFeeModule) (w : World) (env : Env) : ℤ :=
  (w.setToken.positionMultiplier * ((preciseUnit - m.feePercentage env : ℕ) : ℤ)).tdiv
    preciseUnitInt

/-- The fee of the elapsed time is below 100%, the token mints it, and the SetToken accepts the
multiplier. -/
structure Chargeable (m : StreamingFeeModule) (w : World) (env : Env) : Prop where
  within : m.WithinDeadline env
  authorized : w.setToken.Authorized w.controller m.address
  supply_fits : m.feePercentage env * w.setToken.totalSupply ≤ maxUint256
  protocol_fits : m.feeQuantity w env *
    w.controller.getModuleFee m.address protocolStreamingFeeIndex ≤ maxUint256
  protocol_le : m.protocolAmount w env ≤ m.feeQuantity w env
  minted : ∃ t, w.setToken.erc20.mint m.feeState.feeRecipient
      (m.feeQuantity w env - m.protocolAmount w env) = .ok t ∧
    (0 < m.protocolAmount w env →
      ∃ t', t.mint w.controller.feeRecipient (m.protocolAmount w env) = .ok t')
  multiplier_fits : InInt256
    (w.setToken.positionMultiplier * ((preciseUnit - m.feePercentage env : ℕ) : ℤ))
  accepted : w.setToken.validateNewMultiplier (m.deflatedMultiplier w env) = .ok ()

/-! ## The percentage -/

theorem WithinDeadline.feePercentage_lt (h : m.WithinDeadline env) :
    m.feePercentage env < preciseUnit :=
  (Nat.div_lt_iff_lt_mul (by decide)).mpr h

theorem WithinDeadline.calculateStreamingFee (h : m.WithinDeadline env)
    (htime : m.feeState.lastStreamingFeeTimestamp ≤ env.timestamp) :
    m.calculateStreamingFee env = .ok (m.feePercentage env) := by
  have hbound : preciseUnit * oneYearInSeconds ≤ maxUint256 := by decide
  simp only [StreamingFeeModule.calculateStreamingFee, Outcome.bind_eq_ok, SafeMath.sub_eq_ok,
    SafeMath.mul_eq_ok, SafeMath.div_eq_ok]
  exact ⟨_, ⟨htime, rfl⟩, _, ⟨h.le.trans hbound, rfl⟩, by decide, rfl⟩

/-- The percentage that is computed is below 100% exactly before the deadline. -/
theorem percentage_lt_iff (htime : m.feeState.lastStreamingFeeTimestamp ≤ env.timestamp) :
    (∃ fee, m.calculateStreamingFee env = .ok fee ∧ fee < preciseUnit) ↔ m.WithinDeadline env := by
  constructor
  · rintro ⟨fee, hfee, hlt⟩
    obtain ⟨-, rfl⟩ := calculateStreamingFee_ok hfee
    exact (Nat.div_lt_iff_lt_mul (by decide)).mp hlt
  · intro h
    exact ⟨_, h.calculateStreamingFee htime, h.feePercentage_lt⟩

/-- A deadline that has passed stays passed. -/
theorem WithinDeadline.of_le {env' : Env} (h : m.WithinDeadline env')
    (hle : env.timestamp ≤ env'.timestamp) : m.WithinDeadline env := by
  apply Nat.lt_of_le_of_lt ?_ h
  apply Nat.mul_le_mul_right
  exact Nat.sub_le_sub_right hle _

/-! ## Accruing -/

theorem calculateStreamingFeeInflation_eq_ok {fee quantity : ℕ} :
    calculateStreamingFeeInflation w fee = .ok quantity ↔
      fee * w.setToken.totalSupply ≤ maxUint256 ∧ fee < preciseUnit ∧
        quantity = fee * w.setToken.totalSupply / (preciseUnit - fee) := by
  simp only [calculateStreamingFeeInflation, Outcome.bind_eq_ok, SafeMath.mul_eq_ok,
    SafeMath.sub_eq_ok, SafeMath.div_eq_ok]
  constructor
  · rintro ⟨_, ⟨hfits, rfl⟩, _, ⟨-, rfl⟩, hpos, rfl⟩
    exact ⟨hfits, Nat.lt_of_sub_pos hpos, rfl⟩
  · rintro ⟨hfits, hlt, rfl⟩
    exact ⟨_, ⟨hfits, rfl⟩, _, ⟨hlt.le, rfl⟩, Nat.sub_pos_of_lt hlt, rfl⟩

/-- The multiplier is written when the SetToken accepts it. -/
theorem editPositionMultiplier_isOk_iff {fee : ℕ} (hfee : fee < preciseUnit) :
    (∃ v, m.editPositionMultiplier w fee = .ok v) ↔
      InInt256 (w.setToken.positionMultiplier * ((preciseUnit - fee : ℕ) : ℤ)) ∧
        w.setToken.Authorized w.controller m.address ∧
        w.setToken.validateNewMultiplier ((w.setToken.positionMultiplier *
          ((preciseUnit - fee : ℕ) : ℤ)).tdiv preciseUnitInt) = .ok () := by
  have hshare : preciseUnit - fee < 2 ^ 255 :=
    Nat.lt_of_le_of_lt (Nat.sub_le _ _) (by decide)
  simp only [editPositionMultiplier, World.onSetToken, Outcome.bind_eq_ok, SafeMath.sub_eq_ok,
    SafeCast.toInt256_eq_ok, preciseMulInt, SignedSafeMath.mul_eq_ok, SignedSafeMath.div_eq_ok,
    SetToken.editPositionMultiplier_eq_ok, Outcome.pure_eq_ok]
  constructor
  · rintro ⟨_, _, ⟨-, rfl⟩, _, ⟨-, rfl⟩, _, ⟨_, ⟨hfits, rfl⟩, -, -, rfl⟩, _,
      ⟨hauthorized, hvalid, -⟩, -⟩
    exact ⟨hfits, hauthorized, hvalid⟩
  · rintro ⟨hfits, hauthorized, hvalid⟩
    exact ⟨_, _, ⟨hfee.le, rfl⟩, _, ⟨hshare, rfl⟩, _, ⟨_, ⟨hfits, rfl⟩,
      preciseUnitInt_pos.ne', fun h ↦ absurd h.1 (by decide), rfl⟩, _, ⟨hauthorized, hvalid, rfl⟩, rfl⟩

theorem mintManagerAndProtocolFee_isOk_iff {quantity amount : ℕ}
    (hamount : amount =
      quantity * w.controller.getModuleFee m.address protocolStreamingFeeIndex / preciseUnit) :
    (∃ v, m.mintManagerAndProtocolFee w quantity = .ok v) ↔
      quantity * w.controller.getModuleFee m.address protocolStreamingFeeIndex ≤ maxUint256 ∧
        amount ≤ quantity ∧ w.setToken.Authorized w.controller m.address ∧
        ∃ t, w.setToken.erc20.mint m.feeState.feeRecipient (quantity - amount) = .ok t ∧
          (0 < amount → ∃ t', t.mint w.controller.feeRecipient amount = .ok t') := by
  simp only [mintManagerAndProtocolFee, World.onSetToken, Outcome.bind_eq_ok, preciseMul_eq_ok,
    SafeMath.sub_eq_ok, SetToken.mint_eq_ok, Outcome.pure_eq_ok, ← hamount]
  constructor
  · rintro ⟨v, _, ⟨hfits, rfl⟩, _, ⟨hle, rfl⟩, _, ⟨_, ⟨hauthorized, t, ht, rfl⟩, rfl⟩, hprotocol⟩
    refine ⟨hfits, hle, hauthorized, t, ht, ?_⟩
    intro hpos
    simp only [mintProtocolFee, if_pos hpos, World.onSetToken, Outcome.bind_eq_ok,
      SetToken.mint_eq_ok] at hprotocol
    obtain ⟨_, ⟨-, t', ht', -⟩, -⟩ := hprotocol
    exact ⟨t', ht'⟩
  · rintro ⟨hfits, hle, hauthorized, t, ht, hprotocol⟩
    rcases Nat.eq_zero_or_pos amount with hzero | hpos
    · refine ⟨{ w with setToken := w.setToken.setErc20 t }, _, ⟨hfits, rfl⟩, _, ⟨hle, rfl⟩, _,
        ⟨_, ⟨hauthorized, t, ht, rfl⟩, rfl⟩, ?_⟩
      simp [mintProtocolFee, hzero, pure, Except.pure]
    · obtain ⟨t', ht'⟩ := hprotocol hpos
      refine ⟨{ w with setToken := (w.setToken.setErc20 t).setErc20 t' }, _, ⟨hfits, rfl⟩, _,
        ⟨hle, rfl⟩, _, ⟨_, ⟨hauthorized, t, ht, rfl⟩, rfl⟩, ?_⟩
      simp only [mintProtocolFee, if_pos hpos, World.onSetToken, Outcome.bind_eq_ok,
        SetToken.mint_eq_ok, Outcome.pure_eq_ok]
      exact ⟨_, ⟨SetToken.authorized_setErc20_iff.mpr hauthorized, t', ht', rfl⟩, rfl⟩

/-- The mint changes nothing that the new multiplier depends on. -/
theorem editPositionMultiplier_of_mintStep {quantity fee : ℕ} (h : MintStep w w' quantity)
    (hfee : fee < preciseUnit) :
    (∃ v, m.editPositionMultiplier w' fee = .ok v) ↔
      ∃ v, m.editPositionMultiplier w fee = .ok v := by
  obtain ⟨t, ht, -⟩ := h.setToken
  rw [editPositionMultiplier_isOk_iff hfee, editPositionMultiplier_isOk_iff hfee, ht,
    h.controller, SetToken.authorized_setErc20_iff, SetToken.setErc20_validateNewMultiplier,
    SetToken.setErc20_positionMultiplier]

/-- The fee is charged exactly when it is below 100% and the SetToken takes it. -/
theorem inflate_isOk_iff (htime : m.feeState.lastStreamingFeeTimestamp ≤ env.timestamp) :
    (∃ v, m.inflate w env = .ok v) ↔ m.Chargeable w env := by
  have hamount : m.protocolAmount w env = m.feeQuantity w env *
      w.controller.getModuleFee m.address protocolStreamingFeeIndex / preciseUnit := rfl
  simp only [inflate, Outcome.bind_eq_ok, calculateStreamingFeeInflation_eq_ok]
  constructor
  · rintro ⟨v, fee, hfee, quantity, ⟨hfits, hlt, rfl⟩, u, hmint, hedit⟩
    have hwithin : m.WithinDeadline env := (percentage_lt_iff htime).mp ⟨fee, hfee, hlt⟩
    obtain ⟨-, hfee⟩ := calculateStreamingFee_ok hfee
    obtain rfl : fee = m.feePercentage env := hfee
    have hmultiplier := (editPositionMultiplier_of_mintStep
      (mintManagerAndProtocolFee_mintStep hmint) hlt).mp ⟨v, hedit⟩
    obtain ⟨hinRange, hauthorized, hvalid⟩ := (editPositionMultiplier_isOk_iff hlt).mp hmultiplier
    obtain ⟨hprotocol, hle, -, hminted⟩ :=
      (mintManagerAndProtocolFee_isOk_iff hamount).mp ⟨u, hmint⟩
    exact ⟨hwithin, hauthorized, hfits, hprotocol, hle, hminted, hinRange, hvalid⟩
  · rintro ⟨hwithin, hauthorized, hfits, hprotocol, hle, hminted, hinRange, hvalid⟩
    have hlt := hwithin.feePercentage_lt
    obtain ⟨u, hmint⟩ := (mintManagerAndProtocolFee_isOk_iff hamount).mpr
      ⟨hprotocol, hle, hauthorized, hminted⟩
    obtain ⟨v, hedit⟩ := (editPositionMultiplier_of_mintStep
      (mintManagerAndProtocolFee_mintStep hmint) hlt).mpr
        ((editPositionMultiplier_isOk_iff hlt).mpr ⟨hinRange, hauthorized, hvalid⟩)
    exact ⟨v, _, hwithin.calculateStreamingFee htime, _, ⟨hfits, hlt, rfl⟩, u, hmint, hedit⟩

theorem accrueFee_isOk_iff (htime : m.feeState.lastStreamingFeeTimestamp ≤ env.timestamp)
    (hvalid : isSetValidAndInitialized w m.address = true) :
    (∃ r, m.accrueFee w env = .ok r) ↔
      m.feeState.streamingFeePercentage = 0 ∨ m.Chargeable w env := by
  simp only [accrueFee, inflateIfCharged, validateOnlyValidAndInitializedSet, Outcome.bind_eq_ok,
    Outcome.require_eq_ok, Outcome.pure_eq_ok]
  rw [← inflate_isOk_iff htime]
  by_cases hrate : m.feeState.streamingFeePercentage = 0
  · have hnone : ¬ 0 < m.feeState.streamingFeePercentage := by omega
    simp only [if_neg hnone, Outcome.pure_eq_ok]
    exact iff_of_true ⟨_, (), hvalid, w, rfl, rfl⟩ (Or.inl hrate)
  · have hpos : 0 < m.feeState.streamingFeePercentage := by omega
    simp only [if_pos hpos]
    constructor
    · rintro ⟨-, -, -, v, hinflate, -⟩
      exact Or.inr ⟨v, hinflate⟩
    · rintro (hzero | ⟨v, hinflate⟩)
      · exact absurd hzero hrate
      · exact ⟨_, (), hvalid, v, hinflate, rfl⟩

/-- A change of the rate accrues the fee first. -/
theorem updateStreamingFee_isOk_iff :
    (∃ r, m.updateStreamingFee w env newFee = .ok r) ↔
      isSetManager w env.sender = true ∧ newFee < m.feeState.maxStreamingFeePercentage ∧
        ∃ r, m.accrueFee w env = .ok r := by
  simp only [updateStreamingFee, validateOnlySetManager, validateOnlyValidAndInitializedSet,
    Outcome.bind_eq_ok, Outcome.require_eq_ok, Outcome.pure_eq_ok]
  constructor
  · rintro ⟨-, -, hmanager, -, -, -, hnew, r, haccrue, -⟩
    exact ⟨hmanager, hnew, r, haccrue⟩
  · rintro ⟨hmanager, hnew, r, haccrue⟩
    have hvalid : isSetValidAndInitialized w m.address = true := by
      simp only [accrueFee, validateOnlyValidAndInitializedSet, Outcome.bind_eq_ok,
        Outcome.require_eq_ok] at haccrue
      obtain ⟨-, hvalid, -⟩ := haccrue
      exact hvalid
    exact ⟨_, (), hmanager, (), hvalid, (), hnew, r, haccrue, rfl⟩

/-- The fee can be accrued, and its rate changed to `newFee` by the manager. -/
structure Callable (m : StreamingFeeModule) (w : World) (env : Env) (newFee : ℕ) : Prop where
  percentage : ∃ fee, m.calculateStreamingFee env = .ok fee ∧ fee < preciseUnit
  accrue : ∃ r, m.accrueFee w env = .ok r
  update : ∃ r, m.updateStreamingFee w env newFee = .ok r

/-- Both functions work exactly when there is no fee or it can be charged. -/
theorem callable_iff (htime : m.feeState.lastStreamingFeeTimestamp ≤ env.timestamp)
    (hvalid : isSetValidAndInitialized w m.address = true)
    (hmanager : isSetManager w env.sender = true)
    (hnew : newFee < m.feeState.maxStreamingFeePercentage) :
    m.Callable w env newFee ↔ m.feeState.streamingFeePercentage = 0 ∨ m.Chargeable w env := by
  constructor
  · intro h
    exact (accrueFee_isOk_iff htime hvalid).mp h.accrue
  · intro h
    have haccrue := (accrueFee_isOk_iff htime hvalid).mpr h
    refine ⟨?_, haccrue, updateStreamingFee_isOk_iff.mpr ⟨hmanager, hnew, haccrue⟩⟩
    rw [percentage_lt_iff htime]
    rcases h with hzero | hchargeable
    · unfold WithinDeadline
      rw [hzero, Nat.mul_zero]
      decide
    · exact hchargeable.within

/-- The limits that the rate is checked against. -/
structure RateAccepted (m : StreamingFeeModule) : Prop where
  max_lt : m.feeState.maxStreamingFeePercentage < preciseUnit
  rate_le : m.feeState.streamingFeePercentage ≤ m.feeState.maxStreamingFeePercentage

/-- An accepted rate is no danger within a year. -/
theorem RateAccepted.withinDeadline (h : m.RateAccepted)
    (hyear : m.timeSinceLastFee env ≤ oneYearInSeconds) : m.WithinDeadline env := by
  have hyear_pos : 0 < oneYearInSeconds := by decide
  calc m.timeSinceLastFee env * m.feeState.streamingFeePercentage
      ≤ oneYearInSeconds * m.feeState.streamingFeePercentage := Nat.mul_le_mul_right _ hyear
    _ < oneYearInSeconds * preciseUnit :=
        Nat.mul_lt_mul_of_pos_left (Nat.lt_of_le_of_lt h.rate_le h.max_lt) hyear_pos
    _ = preciseUnit * oneYearInSeconds := Nat.mul_comm _ _

end StreamingFeeModule

/-! ## Histories -/

/-- What happens between two accruals; other modules and accounts may do anything to the world. -/
inductive FeeCall where
  | initializeSetToken (env : Env) (settings : FeeState)
  | accrueFee (env : Env)
  | updateStreamingFee (env : Env) (newFee : ℕ)
  | updateFeeRecipient (env : Env) (newFeeRecipient : Address)
  | removeModule
  | elsewhere (world : World)

structure FeeHistory where
  module : StreamingFeeModule
  world : World
  time : ℕ

namespace FeeHistory

open StreamingFeeModule

/-- A call after a delay. -/
def perform (s : FeeHistory) (entry : ℕ × FeeCall) : Outcome FeeHistory :=
  let time := s.time + entry.1
  match entry.2 with
  | .initializeSetToken env settings => do
    let (m, w) ← s.module.initializeSetToken s.world { env with timestamp := time } settings
    pure ⟨m, w, time⟩
  | .accrueFee env => do
    let (m, w) ← s.module.accrueFee s.world { env with timestamp := time }
    pure ⟨m, w, time⟩
  | .updateStreamingFee env newFee => do
    let (m, w) ← s.module.updateStreamingFee s.world { env with timestamp := time } newFee
    pure ⟨m, w, time⟩
  | .updateFeeRecipient env newFeeRecipient => do
    let m ← s.module.updateFeeRecipient s.world { env with timestamp := time } newFeeRecipient
    pure ⟨m, s.world, time⟩
  | .removeModule => pure ⟨s.module.removeModule, s.world, time⟩
  | .elsewhere world => pure ⟨s.module, world, time⟩

/-- The fee state was accepted, and no accrual lies in the future. -/
structure Accepted (s : FeeHistory) : Prop where
  rate : s.module.RateAccepted
  last_le : s.module.feeState.lastStreamingFeeTimestamp ≤ s.time

theorem accepted_of_empty {s : FeeHistory} (h : s.module.feeState = .empty) : s.Accepted := by
  refine ⟨⟨?_, ?_⟩, ?_⟩
  · rw [h]
    decide
  · rw [h]
    exact le_rfl
  · rw [h]
    exact Nat.zero_le _

theorem perform_accepted {s s' : FeeHistory} {entry : ℕ × FeeCall}
    (h : s.perform entry = .ok s') (hs : s.Accepted) : s'.Accepted := by
  obtain ⟨delay, call⟩ := entry
  cases call with
  | initializeSetToken env settings =>
    simp only [perform, initializeSetToken, Outcome.bind_eq_ok, Outcome.require_eq_ok,
      Outcome.pure_eq_ok] at h
    obtain ⟨_, ⟨-, -, -, -, -, -, -, hmax, -, hrate, -, -, rfl⟩, rfl⟩ := h
    exact ⟨⟨hmax, hrate⟩, le_rfl⟩
  | accrueFee env =>
    simp only [perform, Outcome.bind_eq_ok, Outcome.pure_eq_ok, Prod.exists] at h
    obtain ⟨m, w, haccrue, rfl⟩ := h
    have hstate := (accrueFee_charged haccrue).1
    refine ⟨⟨?_, ?_⟩, ?_⟩
    · rw [hstate]
      exact hs.rate.max_lt
    · rw [hstate]
      exact hs.rate.rate_le
    · rw [hstate]
  | updateStreamingFee env newFee =>
    simp only [perform, updateStreamingFee, Outcome.bind_eq_ok, Outcome.require_eq_ok,
      Outcome.pure_eq_ok, Prod.exists] at h
    obtain ⟨_, _, ⟨-, -, -, -, -, hnew, m, w, haccrue, heq⟩, rfl⟩ := h
    obtain ⟨rfl, rfl⟩ := Prod.mk.inj heq
    have hstate := (accrueFee_charged haccrue).1
    refine ⟨⟨?_, ?_⟩, ?_⟩
    · dsimp only
      rw [hstate]
      exact hs.rate.max_lt
    · dsimp only
      rw [hstate]
      exact hnew.le
    · dsimp only
      rw [hstate]
  | updateFeeRecipient env newFeeRecipient =>
    simp only [perform, updateFeeRecipient, Outcome.bind_eq_ok, Outcome.pure_eq_ok] at h
    obtain ⟨_, ⟨-, -, -, -, -, -, rfl⟩, rfl⟩ := h
    exact ⟨⟨hs.rate.max_lt, hs.rate.rate_le⟩, hs.last_le.trans (Nat.le_add_right _ _)⟩
  | removeModule =>
    obtain rfl := Outcome.pure_eq_ok.mp h
    exact accepted_of_empty rfl
  | elsewhere world =>
    obtain rfl := Outcome.pure_eq_ok.mp h
    exact ⟨hs.rate, hs.last_le.trans (Nat.le_add_right _ _)⟩

/-- After any history, the fee can be accrued and its rate changed exactly when there is no fee or the
SetToken can be charged; the percentage is below 100% exactly before the deadline, which does not pass
within a year. -/
theorem run_callable_iff {s s' : FeeHistory} {trace : List (FeeHistory × (ℕ × FeeCall))}
    {env : Env} {newFee : ℕ} (hrun : Trace perform s trace s') (hs : s.module.feeState = .empty)
    (htime : s'.time ≤ env.timestamp)
    (hvalid : isSetValidAndInitialized s'.world s'.module.address = true)
    (hmanager : isSetManager s'.world env.sender = true)
    (hnew : newFee < s'.module.feeState.maxStreamingFeePercentage) :
    (s'.module.Callable s'.world env newFee ↔
      s'.module.feeState.streamingFeePercentage = 0 ∨ s'.module.Chargeable s'.world env) ∧
    ((∃ fee, s'.module.calculateStreamingFee env = .ok fee ∧ fee < preciseUnit) ↔
      s'.module.WithinDeadline env) ∧
    (s'.module.timeSinceLastFee env ≤ oneYearInSeconds → s'.module.WithinDeadline env) := by
  obtain ⟨-, hs'⟩ := hrun.invariant (I := Accepted) (fun _ _ _ hstep ↦ perform_accepted hstep)
    (accepted_of_empty hs)
  have hlast := hs'.last_le.trans htime
  exact ⟨callable_iff hlast hvalid hmanager hnew, percentage_lt_iff hlast,
    hs'.rate.withinDeadline⟩

namespace DeadlineSample

/-- The module 20 at the address of the Set before it is initialized. -/
def start : FeeHistory := ⟨⟨20, .empty⟩, AccrualSample.pending, 0⟩

/-- A yearly fee of 50%. -/
def initializing : ℕ × FeeCall :=
  (0, .initializeSetToken (Env.plain 2 0) ⟨9, 9 * 10 ^ 17, 5 * 10 ^ 17, 0⟩)

/-- A thousand Sets are issued. -/
def issuing : ℕ × FeeCall := (0, .elsewhere (AccrualSample.world 148500))

def initialized : FeeHistory := (start.perform initializing).getD start

def issued : FeeHistory := (initialized.perform issuing).getD start

theorem issued_run :
    Trace perform start [(start, initializing), (initialized, issuing)] issued :=
  .cons (Outcome.eq_ok_getD start (by decide +kernel))
    (.cons (Outcome.eq_ok_getD start (by decide +kernel)) (.nil issued))

/-- A year after the fee was accepted, it can be accrued and changed. -/
theorem issued_callable : issued.module.Callable issued.world (Env.plain 2 31557600) 0 := by
  obtain ⟨hiff, -, hwithin⟩ := @run_callable_iff _ _ _ (Env.plain 2 31557600) 0 issued_run rfl
    (by decide +kernel) (by decide +kernel) (by decide +kernel) (by decide +kernel)
  have hfree : issued.module.protocolAmount issued.world (Env.plain 2 31557600) = 0 := by
    decide +kernel
  apply hiff.mpr
  right
  constructor
  · exact hwithin (by decide +kernel)
  · exact ⟨by decide +kernel, by decide +kernel, fun h ↦ absurd h (by decide +kernel)⟩
  · decide +kernel
  · decide +kernel
  · decide +kernel
  · refine ⟨_, Outcome.eq_ok_getD (ERC20.empty 18) (by decide +kernel), ?_⟩
    intro hpos
    rw [hfree] at hpos
    exact absurd hpos (lt_irrefl 0)
  · exact ⟨by decide +kernel, by decide +kernel⟩
  · exact Outcome.eq_ok_getD () (by decide +kernel)

/-- Two years after the fee was accepted, and at any later time, it can neither be accrued nor
changed. -/
theorem issued_not_callable :
    Trace perform start [(start, initializing), (initialized, issuing)] issued ∧
      isSetValidAndInitialized issued.world issued.module.address = true ∧
      ∀ (env : Env) (newFee : ℕ), 63115200 ≤ env.timestamp →
        (¬ ∃ fee, issued.module.calculateStreamingFee env = .ok fee ∧ fee < preciseUnit) ∧
        (¬ ∃ r, issued.module.accrueFee issued.world env = .ok r) ∧
        ¬ ∃ r, issued.module.updateStreamingFee issued.world env newFee = .ok r := by
  have hvalid : isSetValidAndInitialized issued.world issued.module.address = true := by
    decide +kernel
  have hrate : issued.module.feeState.streamingFeePercentage = 5 * 10 ^ 17 := by decide +kernel
  have hlast : issued.module.feeState.lastStreamingFeeTimestamp = 0 := by decide +kernel
  refine ⟨issued_run, hvalid, ?_⟩
  intro env newFee htime
  have hlate : ¬ issued.module.WithinDeadline env := by
    unfold WithinDeadline timeSinceLastFee preciseUnit oneYearInSeconds
    rw [hrate, hlast]
    omega
  have hlast_le : issued.module.feeState.lastStreamingFeeTimestamp ≤ env.timestamp := by
    rw [hlast]
    exact Nat.zero_le _
  have haccrue : ¬ ∃ r, issued.module.accrueFee issued.world env = .ok r := by
    rw [accrueFee_isOk_iff hlast_le hvalid]
    rintro (hzero | hchargeable)
    · rw [hrate] at hzero
      cases hzero
    · exact hlate hchargeable.within
  refine ⟨?_, haccrue, ?_⟩
  · rw [percentage_lt_iff hlast_le]
    exact hlate
  · rw [updateStreamingFee_isOk_iff]
    exact fun hupdate ↦ haccrue hupdate.2.2

end DeadlineSample

end FeeHistory

end SetProtocol
