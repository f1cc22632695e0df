import SetProtocol.Core.PositionTracking
import SetProtocol.Core.Swap

/-!
# Streaming fees

`StreamingFeeModule` mints new Sets to the manager and the protocol in proportion to the time since
the last accrual, and lowers the position multiplier so that the larger supply is still backed.
-/

namespace SetProtocol

open PreciseUnitMath ModuleBase

structure FeeState where
  feeRecipient : Address
  maxStreamingFeePercentage : ℕ
  streamingFeePercentage : ℕ
  lastStreamingFeeTimestamp : ℕ

/-- The zero value of a storage slot. -/
def FeeState.empty : FeeState := ⟨0, 0, 0, 0⟩

structure StreamingFeeModule where
  address : Address
  /-- The fee state of the Set. -/
  feeState : FeeState

namespace StreamingFeeModule

/-- 365.25 days. -/
def oneYearInSeconds : ℕ := 31557600

def protocolStreamingFeeIndex : ℕ := 0

def calculateStreamingFee (m : StreamingFeeModule) (env : Env) : Outcome ℕ := do
  let timeSinceLastFee ← SafeMath.sub env.timestamp m.feeState.lastStreamingFeeTimestamp
  let product ← SafeMath.mul timeSinceLastFee m.feeState.streamingFeePercentage
  SafeMath.div product oneYearInSeconds

def calculateStreamingFeeInflation (w : World) (feePercentage : ℕ) : Outcome ℕ := do
  let a ← SafeMath.mul feePercentage w.setToken.totalSupply
  let b ← SafeMath.sub preciseUnit feePercentage
  SafeMath.div a b

/-- The protocol's share is only minted when there is one. -/
def mintProtocolFee (m : StreamingFeeModule) (w : World) (protocolFeeAmount : ℕ) :
    Outcome World :=
  if 0 < protocolFeeAmount then
    w.onSetToken fun s ↦
      s.mint w.controller m.address w.controller.feeRecipient protocolFeeAmount
  else
    pure w

def mintManagerAndProtocolFee (m : StreamingFeeModule) (w : World) (feeQuantity : ℕ) :
    Outcome World := do
  let protocolFee := w.controller.getModuleFee m.address protocolStreamingFeeIndex
  let protocolFeeAmount ← preciseMul feeQuantity protocolFee
  let managerFeeAmount ← SafeMath.sub feeQuantity protocolFeeAmount
  let w ← w.onSetToken fun s ↦
    s.mint w.controller m.address m.feeState.feeRecipient managerFeeAmount
  m.mintProtocolFee w protocolFeeAmount

def editPositionMultiplier (m : StreamingFeeModule) (w : World) (inflationFee : ℕ) :
    Outcome World := do
  let share ← SafeMath.sub preciseUnit inflationFee
  let share ← SafeCast.toInt256 share
  let newMultiplier ← preciseMulInt w.setToken.positionMultiplier share
  w.onSetToken fun s ↦ s.editPositionMultiplier w.controller m.address newMultiplier

/-- The part of `accrueFee` that runs for a positive fee. -/
def inflate (m : StreamingFeeModule) (w : World) (env : Env) : Outcome World := do
  let inflationFeePercentage ← m.calculateStreamingFee env
  let feeQuantity ← calculateStreamingFeeInflation w inflationFeePercentage
  let w ← m.mintManagerAndProtocolFee w feeQuantity
  m.editPositionMultiplier w inflationFeePercentage

/-- Inflate unless the fee is zero. -/
def inflateIfCharged (m : StreamingFeeModule) (w : World) (env : Env) : Outcome World :=
  if 0 < m.feeState.streamingFeePercentage then m.inflate w env else pure w

def accrueFee (m : StreamingFeeModule) (w : World) (env : Env) :
    Outcome (StreamingFeeModule × World) := do
  validateOnlyValidAndInitializedSet w m.address
  let w ← m.inflateIfCharged w env
  let feeState := { m.feeState with lastStreamingFeeTimestamp := env.timestamp }
  pure ({ m with feeState := feeState }, w)

/-- The source calls this function `initialize`. -/
def initializeSetToken (m : StreamingFeeModule) (w : World) (env : Env) (settings : FeeState) :
    Outcome (StreamingFeeModule × World) := do
  validateOnlySetManager w env.sender
  validateOnlyValidAndPendingSet w m.address
  require (settings.feeRecipient ≠ 0) "Fee Recipient must be non-zero address."
  require (settings.maxStreamingFeePercentage < preciseUnit) "Max fee must be < 100%."
  require (settings.streamingFeePercentage ≤ settings.maxStreamingFeePercentage)
    "Fee must be <= max."
  let w ← w.onSetToken fun s ↦ s.initializeModule m.address
  let feeState := { settings with lastStreamingFeeTimestamp := env.timestamp }
  pure ({ m with feeState := feeState }, w)

def removeModule (m : StreamingFeeModule) : StreamingFeeModule :=
  { m with feeState := FeeState.empty }

def updateStreamingFee (m : StreamingFeeModule) (w : World) (env : Env) (newFee : ℕ) :
    Outcome (StreamingFeeModule × World) := do
  validateOnlySetManager w env.sender
  validateOnlyValidAndInitializedSet w m.address
  require (newFee < m.feeState.maxStreamingFeePercentage) "Fee must be less than max"
  let (m, w) ← m.accrueFee w env
  let feeState := { m.feeState with streamingFeePercentage := newFee }
  pure ({ m with feeState := feeState }, w)

def updateFeeRecipient (m : StreamingFeeModule) (w : World) (env : Env)
    (newFeeRecipient : Address) : Outcome StreamingFeeModule := do
  validateOnlySetManager w env.sender
  validateOnlyValidAndInitializedSet w m.address
  require (newFeeRecipient ≠ 0) "Fee Recipient must be non-zero address."
  let feeState := { m.feeState with feeRecipient := newFeeRecipient }
  pure { m with feeState := feeState }

/-! ## Supply and multiplier after an accrual -/

variable {m m' : StreamingFeeModule} {w w' : World} {env : Env}

theorem mintManagerAndProtocolFee_mintStep {quantity : ℕ}
    (h : m.mintManagerAndProtocolFee w quantity = .ok w') : MintStep w w' quantity := by
  simp only [mintManagerAndProtocolFee, Outcome.bind_eq_ok, preciseMul_eq_ok,
    SafeMath.sub_eq_ok] at h
  obtain ⟨fee, ⟨-, -⟩, manager, ⟨hle, rfl⟩, v, hmanager, hprotocol⟩ := h
  have hstep := mint_mintStep hmanager
  unfold mintProtocolFee at hprotocol
  split_ifs at hprotocol with hpos
  · have hstep' := hstep.trans (mint_mintStep hprotocol)
    rwa [Nat.sub_add_cancel hle] at hstep'
  · obtain rfl := Outcome.pure_eq_ok.mp hprotocol
    have hzero : fee = 0 := by omega
    simpa [hzero] using hstep

/-- What an accrual of the percentage `fee` leaves: more supply, a smaller multiplier, the same
virtual units and no smaller balance. -/
structure Accrual (w w' : World) (fee : ℕ) : Prop where
  fee_lt : fee < preciseUnit
  chain : w'.chain = w.chain
  address : w'.setToken.address = w.setToken.address
  components : w'.setToken.components = w.setToken.components
  positions : w'.setToken.componentPositions = w.setToken.componentPositions
  balances : ∀ a, w.setToken.erc20.balances a ≤ w'.setToken.erc20.balances a
  supply : w'.setToken.totalSupply = w.setToken.totalSupply +
    fee * w.setToken.totalSupply / (preciseUnit - fee)
  multiplier : w'.setToken.positionMultiplier =
    (w.setToken.positionMultiplier * ((preciseUnit - fee : ℕ) : ℤ)).tdiv preciseUnitInt
  units_nonneg : ∀ c ∈ w.setToken.components, 0 ≤ w.setToken.defaultPositionVirtualUnit c

theorem inflate_accrual (h : m.inflate w env = .ok w') :
    ∃ fee, m.calculateStreamingFee env = .ok fee ∧ Accrual w w' fee := by
  simp only [inflate, calculateStreamingFeeInflation, editPositionMultiplier, World.onSetToken,
    Outcome.bind_eq_ok, SafeMath.mul_eq_ok, SafeMath.sub_eq_ok, SafeMath.div_eq_ok,
    SafeCast.toInt256_eq_ok, preciseMulInt, SignedSafeMath.mul_eq_ok, SignedSafeMath.div_eq_ok,
    SetToken.editPositionMultiplier_eq_ok, Outcome.pure_eq_ok] at h
  obtain ⟨fee, hfee, quantity, ⟨_, ⟨-, rfl⟩, _, ⟨-, rfl⟩, hshare, rfl⟩, v, hmint, _, ⟨-, rfl⟩, _,
    ⟨-, rfl⟩, multiplier, ⟨_, ⟨-, rfl⟩, -, -, rfl⟩, _, ⟨-, hvalid, rfl⟩, rfl⟩ := h
  have hstep := mintManagerAndProtocolFee_mintStep hmint
  obtain ⟨t, ht, hsupply, hbalances⟩ := hstep.setToken
  obtain ⟨low, hbounds, -⟩ := SetToken.validateNewMultiplier_ok hvalid
  rw [ht] at hbounds
  refine ⟨fee, hfee, ?_⟩
  constructor
  · exact Nat.lt_of_sub_pos hshare
  · exact hstep.chain
  · simp [ht]
  · simp [ht]
  · simp [ht, SetToken.setErc20]
  · simpa [ht] using hbalances
  · rw [ht]
    exact hsupply
  · simp [ht]
  · exact fun c hc ↦ (hbounds c hc).default_nonneg

/-- The new supply, without the division. -/
theorem Accrual.supply_eq {fee : ℕ} (h : Accrual w w' fee) :
    w'.setToken.totalSupply = w.setToken.totalSupply * preciseUnit / (preciseUnit - fee) := by
  have hpos : 0 < preciseUnit - fee := Nat.sub_pos_of_lt h.fee_lt
  have hsum : w.setToken.totalSupply * preciseUnit =
      fee * w.setToken.totalSupply + w.setToken.totalSupply * (preciseUnit - fee) := by
    rw [mul_comm fee, ← mul_add, Nat.add_sub_cancel' h.fee_lt.le]
  rw [h.supply, hsum, Nat.add_mul_div_right _ _ hpos, add_comm]

/-- The supply is inflated by at most what the fee asks for, -/
theorem Accrual.supply_mul_le {fee : ℕ} (h : Accrual w w' fee) :
    (w'.setToken.totalSupply : ℤ) * (preciseUnitInt - fee) ≤
      w.setToken.totalSupply * preciseUnitInt := by
  have hdiv := Nat.div_mul_le_self (w.setToken.totalSupply * preciseUnit) (preciseUnit - fee)
  rw [← h.supply_eq] at hdiv
  rw [preciseUnitInt_eq, ← Nat.cast_sub h.fee_lt.le]
  exact_mod_cast hdiv

/-- and by at least that less one. -/
theorem Accrual.lt_supply_mul {fee : ℕ} (h : Accrual w w' fee) :
    (w.setToken.totalSupply : ℤ) * preciseUnitInt <
      (w'.setToken.totalSupply + 1) * (preciseUnitInt - fee) := by
  have hdiv := Nat.lt_div_mul_add (a := w.setToken.totalSupply * preciseUnit)
    (Nat.sub_pos_of_lt h.fee_lt)
  rw [← h.supply_eq, ← Nat.succ_mul] at hdiv
  rw [preciseUnitInt_eq, ← Nat.cast_sub h.fee_lt.le]
  exact_mod_cast hdiv

/-- The multiplier is deflated by at least what the fee asks for, -/
theorem Accrual.multiplier_mul_le {fee : ℕ} (h : Accrual w w' fee)
    (hm : 0 ≤ w.setToken.positionMultiplier) :
    w'.setToken.positionMultiplier * preciseUnitInt ≤
      w.setToken.positionMultiplier * (preciseUnitInt - fee) := by
  rw [h.multiplier, Int.tdiv_eq_ediv_of_nonneg (mul_nonneg hm (Int.natCast_nonneg _)),
    Nat.cast_sub h.fee_lt.le, ← preciseUnitInt_eq]
  exact Int.ediv_mul_le _ preciseUnitInt_pos.ne'

/-- and by less than one more. -/
theorem Accrual.le_multiplier_mul {fee : ℕ} (h : Accrual w w' fee)
    (hm : 0 ≤ w.setToken.positionMultiplier) :
    w.setToken.positionMultiplier * (preciseUnitInt - fee) - (preciseUnitInt - 1) ≤
      w'.setToken.positionMultiplier * preciseUnitInt := by
  rw [h.multiplier, Int.tdiv_eq_ediv_of_nonneg (mul_nonneg hm (Int.natCast_nonneg _)),
    Nat.cast_sub h.fee_lt.le, ← preciseUnitInt_eq]
  have hdiv := Int.lt_ediv_add_one_mul_self
    (w.setToken.positionMultiplier * (preciseUnitInt - fee)) preciseUnitInt_pos
  rw [add_mul, one_mul] at hdiv
  omega

/-- The product of supply and multiplier does not grow in an accrual. -/
theorem Accrual.product_le {fee : ℕ} (h : Accrual w w' fee)
    (hm : 0 < w.setToken.positionMultiplier) :
    (w'.setToken.totalSupply : ℤ) * w'.setToken.positionMultiplier ≤
      w.setToken.totalSupply * w.setToken.positionMultiplier :=
  Backing.mul_le_mul_of_inflate preciseUnitInt_pos (Int.natCast_nonneg _) hm.le h.supply_mul_le
    (h.multiplier_mul_le hm.le)

/-- An accrual without a fee changes neither supply nor multiplier. -/
theorem Accrual.of_zero (h : Accrual w w' 0) :
    w'.setToken.totalSupply = w.setToken.totalSupply ∧
      w'.setToken.positionMultiplier = w.setToken.positionMultiplier := by
  refine ⟨by simp [h.supply], ?_⟩
  rw [h.multiplier, Nat.sub_zero, ← preciseUnitInt_eq]
  exact Int.mul_tdiv_cancel _ preciseUnitInt_pos.ne'

/-- Either nothing was charged, or the fee of the elapsed time was accrued. -/
theorem accrueFee_ok (h : m.accrueFee w env = .ok (m', w')) :
    (m.feeState.streamingFeePercentage = 0 ∧ w' = w) ∨
      ∃ fee, m.calculateStreamingFee env = .ok fee ∧ Accrual w w' fee := by
  simp only [accrueFee, inflateIfCharged, Outcome.bind_eq_ok, Outcome.pure_eq_ok,
    Prod.mk.injEq] at h
  obtain ⟨_, -, v, hinflate, -, rfl⟩ := h
  split_ifs at hinflate with hpos
  · exact Or.inr (inflate_accrual hinflate)
  · exact Or.inl ⟨by omega, (Outcome.pure_eq_ok.mp hinflate).symm⟩

end StreamingFeeModule

end SetProtocol
