import SetProtocol.Foundation.Compounding
import SetProtocol.System.Rescaling

/-!
# Sequences of fee accruals and net-asset-value trades

Fees and net-asset-value issuance change the supply and the multiplier together and round them
separately.  The product of the two never grows, so that a balance that covers a unit before rounding
goes on covering it through any sequence of these calls.

Anybody may accrue the fee at any time.  Accruing more often compounds smaller fees and rounds more
often; neither takes more from the holders than one accrual at the end, up to one unit of the
multiplier for each extra call.
-/

namespace SetProtocol

open PreciseUnitMath ModuleBase

namespace CustomOracleNAVIssuanceModule

variable {m : CustomOracleNAVIssuanceModule} {w w' : World} {env : Env} {info : ActionInfo}
  {reserveAsset recipient : Address} {quantity minimum : ℕ}

/-- What an issue or a redemption by any account leaves of the positions that it does not rewrite. -/
structure Rescaled (w w' : World) (reserveAsset : Address) : Prop where
  address : w'.setToken.address = w.setToken.address
  multiplier_pos : 0 < w'.setToken.positionMultiplier
  product_le : (w'.setToken.totalSupply : ℤ) * w'.setToken.positionMultiplier ≤
    w.setToken.totalSupply * w.setToken.positionMultiplier
  units_nonneg : ∀ c ∈ w.setToken.components, 0 ≤ w.setToken.defaultPositionVirtualUnit c
  other_unit : ∀ c, c ≠ reserveAsset →
    w'.setToken.defaultPositionVirtualUnit c = w.setToken.defaultPositionVirtualUnit c
  other_mem : ∀ c, c ≠ reserveAsset → (c ∈ w'.setToken.components ↔ c ∈ w.setToken.components)

/-- The supply may be minted or burnt before or after the edit of the positions. -/
theorem rescaled_of_edit {v u : World} {t t' : ERC20} (hbefore : v.setToken = w.setToken.setErc20 t)
    (hedit : m.rescalePositions v reserveAsset info = .ok u)
    (hafter : w'.setToken = u.setToken.setErc20 t')
    (hm : 0 < w.setToken.positionMultiplier)
    (hsupply : w'.setToken.totalSupply = info.newSetTokenSupply)
    (hpos : 0 < info.newSetTokenSupply)
    (hmultiplier : info.newPositionMultiplier =
      (w.setToken.positionMultiplier * w.setToken.totalSupply).tdiv info.newSetTokenSupply) :
    Rescaled w w' reserveAsset := by
  obtain ⟨hpositive, hunits, hdefault, -⟩ := rescalePositions_ok hedit
  have hnew : w'.setToken.positionMultiplier = info.newPositionMultiplier := by
    rw [hafter, SetToken.setErc20_positionMultiplier]
    exact hdefault.frame.positionMultiplier
  have hnonneg : 0 ≤ w.setToken.positionMultiplier * w.setToken.totalSupply :=
    mul_nonneg hm.le (Int.natCast_nonneg _)
  have hne : (info.newSetTokenSupply : ℤ) ≠ 0 := by exact_mod_cast hpos.ne'
  constructor
  · rw [hafter, SetToken.setErc20_address, hdefault.frame.address]
    change v.setToken.address = w.setToken.address
    rw [hbefore, SetToken.setErc20_address]
  · rw [hnew]
    exact hpositive
  · calc (w'.setToken.totalSupply : ℤ) * w'.setToken.positionMultiplier
        = w.setToken.positionMultiplier * w.setToken.totalSupply / info.newSetTokenSupply *
            info.newSetTokenSupply := by
          rw [hnew, hsupply, hmultiplier, Int.tdiv_eq_ediv_of_nonneg hnonneg, mul_comm]
      _ ≤ w.setToken.positionMultiplier * w.setToken.totalSupply := Int.ediv_mul_le _ hne
      _ = w.setToken.totalSupply * w.setToken.positionMultiplier := mul_comm _ _
  · rw [hbefore] at hunits
    exact hunits
  · intro c hc
    rw [hafter]
    refine (hdefault.other_unit c hc).trans ?_
    rw [World.setMultiplier, hbefore]
    rfl
  · intro c hc
    rw [hafter]
    refine (hdefault.other_mem c hc).trans ?_
    rw [World.setMultiplier, hbefore]
    rfl

theorem collectFee_move {fee : ℕ} (h : m.collectFee w env reserveAsset recipient fee = .ok w') :
    w.MoveStep w' reserveAsset := by
  unfold collectFee at h
  split_ifs at h
  · exact (World.explicitTransferFrom_moveStep h).1
  · obtain rfl := Outcome.pure_eq_ok.mp h
    exact .refl w reserveAsset

theorem issue_rescaled (h : m.issue w env reserveAsset quantity minimum recipient = .ok (w', info))
    (hm : 0 < w.setToken.positionMultiplier) :
    Rescaled w w' reserveAsset ∧ ∀ c, c ≠ reserveAsset → w.balance c ≤ w'.balance c := by
  simp only [issue, handleIssueStateUpdates, transferCollateralAndHandleFees, Outcome.bind_eq_ok,
    Outcome.pure_eq_ok, Prod.mk.injEq] at h
  obtain ⟨_, -, _, -, _, -, info, hinfo, _, -, v, ⟨v₁, hdeposit, v₂, hprotocol, hmanager⟩, w',
    ⟨u, hedit, hmint⟩, rfl, rfl⟩ := h
  have hamounts := createIssuanceInfo_ok hinfo
  have hmove : w.MoveStep v reserveAsset :=
    (World.explicitTransferFrom_moveStep hdeposit).1.trans
      ((collectFee_move hprotocol).trans (collectFee_move hmanager))
  obtain ⟨-, -, hdefault, -⟩ := rescalePositions_ok hedit
  obtain ⟨hflow, hminted, hbalance⟩ : Flow u w' reserveAsset ∧ _ := mint_flow hmint
  obtain ⟨t, ht, -⟩ := hmove.setToken
  obtain ⟨t', ht'⟩ := hflow.setToken
  have hsupply : w'.setToken.totalSupply = info.newSetTokenSupply := by
    rw [hminted, hdefault.totalSupply, setMultiplier_totalSupply, hmove.totalSupply,
      hamounts.supply]
  refine ⟨rescaled_of_edit ht hedit ht' hm hsupply hamounts.supply_pos hamounts.multiplier, ?_⟩
  intro c hc
  calc w.balance c = v.balance c := (hmove.balance_of_ne hc).symm
    _ = u.balance c := (hdefault.balance c).symm
    _ ≤ w'.balance c := hbalance c

theorem redeem_rescaled
    (h : m.redeem w env reserveAsset quantity minimum recipient = .ok (w', info))
    (hm : 0 < w.setToken.positionMultiplier) :
    Rescaled w w' reserveAsset ∧ ∀ c, c ≠ reserveAsset →
      (c = w.setToken.address → env.sender ≠ w.setToken.address) → w'.balance c = w.balance c := by
  simp only [redeem, handleRedeemStateUpdates, Outcome.bind_eq_ok, Outcome.pure_eq_ok,
    Prod.mk.injEq] at h
  obtain ⟨_, -, _, -, _, -, info, hinfo, _, -, v, hburn, u, htransfer, t, hfees, w', hedit, rfl,
    rfl⟩ := h
  have hamounts := createRedemptionInfo_ok hinfo
  have hburnt := burn_burnStep hburn
  obtain ⟨s, hs, -⟩ := hburnt.setToken
  have hmove : v.MoveStep t reserveAsset :=
    (World.strictInvokeTransfer_moveStep htransfer).1.trans (handleRedemptionFees_moveStep hfees).1
  obtain ⟨-, -, hdefault, -⟩ := rescalePositions_ok hedit
  obtain ⟨s', hs', -⟩ := hmove.setToken
  have hsupply : w'.setToken.totalSupply = info.newSetTokenSupply := by
    rw [hdefault.totalSupply, setMultiplier_totalSupply, hmove.totalSupply, hamounts.supply]
    exact Nat.eq_sub_of_add_eq hburnt.totalSupply
  have hbefore : t.setToken = w.setToken.setErc20 s' := by
    rw [hs', hs]
    rfl
  have hafter : w'.setToken = w'.setToken.setErc20 w'.setToken.erc20 := rfl
  refine ⟨rescaled_of_edit hbefore hedit hafter hm hsupply hamounts.supply_pos
    hamounts.multiplier, ?_⟩
  intro c hc hself
  calc w'.balance c = t.balance c := hdefault.balance c
    _ = v.balance c := hmove.balance_of_ne hc
    _ = w.balance c := hburnt.balance_eq hself

end CustomOracleNAVIssuanceModule

namespace StreamingFeeModule

variable {m m' : StreamingFeeModule} {w w' : World} {env : Env}

/-- The SetToken accepts positive multipliers only. -/
theorem inflate_multiplier_pos (h : m.inflate w env = .ok w') :
    0 < w'.setToken.positionMultiplier := by
  simp only [inflate, editPositionMultiplier, World.onSetToken, Outcome.bind_eq_ok,
    SetToken.editPositionMultiplier_eq_ok, Outcome.pure_eq_ok] at h
  obtain ⟨_, -, _, -, v, -, _, -, _, -, multiplier, -, _, ⟨-, hvalid, rfl⟩, rfl⟩ := h
  obtain ⟨low, -, hlow⟩ := SetToken.validateNewMultiplier_ok hvalid
  exact (SetToken.mul_pos_of_ediv_pos hlow).1

/-- An accrual with a fee rate charges the fee of the elapsed time and moves the timestamp. -/
theorem accrueFee_charged (h : m.accrueFee w env = .ok (m', w')) :
    m'.feeState = { m.feeState with lastStreamingFeeTimestamp := env.timestamp } ∧
      ((m.feeState.streamingFeePercentage = 0 ∧ w' = w) ∨
        ∃ fee, 0 < m.feeState.streamingFeePercentage ∧ m.calculateStreamingFee env = .ok fee ∧
          Accrual w w' fee ∧ 0 < w'.setToken.positionMultiplier) := by
  simp only [accrueFee, inflateIfCharged, Outcome.bind_eq_ok, Outcome.pure_eq_ok,
    Prod.mk.injEq] at h
  obtain ⟨_, -, v, hinflate, rfl, rfl⟩ := h
  refine ⟨rfl, ?_⟩
  split_ifs at hinflate with hpos
  · obtain ⟨fee, hfee, haccrual⟩ := inflate_accrual hinflate
    exact Or.inr ⟨fee, hpos, hfee, haccrual, inflate_multiplier_pos hinflate⟩
  · exact Or.inl ⟨by omega, (Outcome.pure_eq_ok.mp hinflate).symm⟩

/-! ## Accruing more often -/

/-- Accrue the fee once in each of the environments. -/
def accrueAll (state : StreamingFeeModule × World) (envs : List Env) :
    Outcome (StreamingFeeModule × World) :=
  envs.foldlM (fun state env ↦ state.1.accrueFee state.2 env) state

theorem calculateStreamingFee_ok {fee : ℕ} (h : m.calculateStreamingFee env = .ok fee) :
    m.feeState.lastStreamingFeeTimestamp ≤ env.timestamp ∧
      fee = (env.timestamp - m.feeState.lastStreamingFeeTimestamp) *
        m.feeState.streamingFeePercentage / oneYearInSeconds := by
  simp only [calculateStreamingFee, Outcome.bind_eq_ok, SafeMath.sub_eq_ok, SafeMath.mul_eq_ok,
    SafeMath.div_eq_ok] at h
  obtain ⟨_, ⟨hle, rfl⟩, _, ⟨-, rfl⟩, -, rfl⟩ := h
  exact ⟨hle, rfl⟩

/-- Without a rate nothing is charged, however often. -/
theorem accrueAll_of_rate_zero {envs : List Env}
    (h : accrueAll (m, w) envs = .ok (m', w')) (hrate : m.feeState.streamingFeePercentage = 0) :
    w' = w := by
  apply (Outcome.foldlM_invariant
    (P := fun state : StreamingFeeModule × World ↦
      state.1.feeState.streamingFeePercentage = 0 ∧ state.2 = w) ?_ h ⟨hrate, rfl⟩).2
  rintro ⟨n, v⟩ env ⟨n', v'⟩ hstep ⟨hzero, rfl⟩
  obtain ⟨hstate, ⟨-, rfl⟩ | ⟨fee, hcharged, -⟩⟩ := accrueFee_charged hstep
  · refine ⟨?_, rfl⟩
    exact (congrArg FeeState.streamingFeePercentage hstate).trans hzero
  · exact absurd hzero hcharged.ne'

/-- Where `count` accruals since `(m, w)` have taken the module and the Set.  The fees charged so far
sum to at most the fee of the time since then. -/
structure AccruedSince (m : StreamingFeeModule) (w : World) (count total : ℕ)
    (state : StreamingFeeModule × World) : Prop where
  rate : state.1.feeState.streamingFeePercentage = m.feeState.streamingFeePercentage
  time_le : m.feeState.lastStreamingFeeTimestamp ≤ state.1.feeState.lastStreamingFeeTimestamp
  total_le : total * oneYearInSeconds ≤
    (state.1.feeState.lastStreamingFeeTimestamp - m.feeState.lastStreamingFeeTimestamp) *
      m.feeState.streamingFeePercentage
  compounded : Compounding.Compounded preciseUnitInt w.setToken.totalSupply
    w.setToken.positionMultiplier total count state.2.setToken.totalSupply
    state.2.setToken.positionMultiplier

theorem AccruedSince.start (m : StreamingFeeModule) {w : World}
    (hm : 0 ≤ w.setToken.positionMultiplier) : AccruedSince m w 0 0 (m, w) where
  rate := rfl
  time_le := le_rfl
  total_le := by simp
  compounded := Compounding.Compounded.start hm

theorem AccruedSince.accrue {count total : ℕ} {state state' : StreamingFeeModule × World}
    (h : AccruedSince m w count total state)
    (hstep : state.1.accrueFee state.2 env = .ok state')
    (hrate : m.feeState.streamingFeePercentage ≠ 0)
    (hm : 0 ≤ w.setToken.positionMultiplier) :
    ∃ total', AccruedSince m w (count + 1) total' state' := by
  obtain ⟨n, v⟩ := state
  obtain ⟨n', v'⟩ := state'
  obtain ⟨hstate, ⟨hzero, -⟩ | ⟨fee, -, hfee, haccrual, hpos⟩⟩ := accrueFee_charged hstep
  · exact absurd (h.rate.symm.trans hzero) hrate
  obtain ⟨htime, hfeeEq⟩ := calculateStreamingFee_ok hfee
  dsimp only at htime hfeeEq
  have hstart : m.feeState.lastStreamingFeeTimestamp ≤ n.feeState.lastStreamingFeeTimestamp :=
    h.time_le
  have hsame : n.feeState.streamingFeePercentage = m.feeState.streamingFeePercentage := h.rate
  have hmultiplier : 0 ≤ v.setToken.positionMultiplier := h.compounded.multiplier_nonneg
  have hfeeLe : (fee : ℤ) ≤ preciseUnitInt := by
    rw [preciseUnitInt_eq]
    exact Int.ofNat_le.mpr haccrual.fee_lt.le
  have hcharged : fee * oneYearInSeconds ≤
      (env.timestamp - n.feeState.lastStreamingFeeTimestamp) *
        m.feeState.streamingFeePercentage := by
    rw [hfeeEq, hsame]
    exact Nat.div_mul_le_self _ _
  refine ⟨total + fee, ?_, ?_, ?_, ?_⟩
  · exact (congrArg FeeState.streamingFeePercentage hstate).trans hsame
  · rw [hstate]
    exact hstart.trans htime
  · rw [hstate]
    calc (total + fee) * oneYearInSeconds
        = total * oneYearInSeconds + fee * oneYearInSeconds := add_mul _ _ _
      _ ≤ (n.feeState.lastStreamingFeeTimestamp - m.feeState.lastStreamingFeeTimestamp) *
            m.feeState.streamingFeePercentage +
          (env.timestamp - n.feeState.lastStreamingFeeTimestamp) *
            m.feeState.streamingFeePercentage := add_le_add h.total_le hcharged
      _ = (env.timestamp - m.feeState.lastStreamingFeeTimestamp) *
            m.feeState.streamingFeePercentage := by
          rw [← add_mul]
          congr 1
          omega
  · rw [Nat.cast_add, Nat.cast_add, Nat.cast_one]
    exact h.compounded.charge preciseUnitInt_pos (Int.natCast_nonneg _) hm (Int.natCast_nonneg _)
      (Int.natCast_nonneg _) hfeeLe (Int.natCast_nonneg _) hpos.le haccrual.supply_mul_le
      (haccrual.le_multiplier_mul hmultiplier)

theorem AccruedSince.accrueAll {envs : List Env} {count total : ℕ}
    {state state' : StreamingFeeModule × World} (h : AccruedSince m w count total state)
    (hrun : StreamingFeeModule.accrueAll state envs = .ok state')
    (hrate : m.feeState.streamingFeePercentage ≠ 0)
    (hm : 0 ≤ w.setToken.positionMultiplier) :
    ∃ total', AccruedSince m w (count + envs.length) total' state' := by
  unfold StreamingFeeModule.accrueAll at hrun
  induction envs generalizing state count total with
  | nil =>
    obtain rfl := Outcome.pure_eq_ok.mp hrun
    exact ⟨total, h⟩
  | cons env envs ih =>
    simp only [List.foldlM_cons, Outcome.bind_eq_ok] at hrun
    obtain ⟨next, hstep, hrun⟩ := hrun
    obtain ⟨total', hnext⟩ := h.accrue hstep hrate hm
    rw [List.length_cons, Nat.add_comm envs.length, ← Nat.add_assoc]
    exact ih hnext hrun

/-- The last accrual of a sequence happens at its own time. -/
theorem accrueAll_timestamp {envs : List Env}
    (h : accrueAll (m, w) (envs ++ [env]) = .ok (m', w')) :
    m'.feeState.lastStreamingFeeTimestamp = env.timestamp := by
  simp only [accrueAll, List.foldlM_append, List.foldlM_cons, List.foldlM_nil, Outcome.bind_eq_ok,
    Outcome.pure_eq_ok] at h
  obtain ⟨⟨n, v⟩, -, _, hlast, rfl⟩ := h
  rw [(accrueFee_charged hlast).1]

/-- A multiplier that is positive after an accrual was positive before. -/
theorem Accrual.multiplier_pos_before {fee : ℕ} (h : Accrual w w' fee)
    (hpos : 0 < w'.setToken.positionMultiplier) : 0 < w.setToken.positionMultiplier := by
  by_contra hneg
  have hproduct : w.setToken.positionMultiplier * ((preciseUnit - fee : ℕ) : ℤ) ≤ 0 :=
    mul_nonpos_of_nonpos_of_nonneg (not_lt.mp hneg) (Int.natCast_nonneg _)
  have hdiv := Int.tdiv_nonneg (neg_nonneg.mpr hproduct) preciseUnitInt_pos.le
  rw [Int.neg_tdiv, ← h.multiplier] at hdiv
  omega

/-- Accruing at any times in between and at the end mints at most what one accrual at the end mints,
and lowers the multiplier by at most one more for every extra accrual. -/
theorem accrueAll_le_accrueFee {m₁ m₂ : StreamingFeeModule} {w₁ w₂ : World} {envs : List Env}
    (honce : m.accrueFee w env = .ok (m₁, w₁))
    (hoften : accrueAll (m, w) (envs ++ [env]) = .ok (m₂, w₂)) :
    w₂.setToken.totalSupply ≤ w₁.setToken.totalSupply ∧
      w₁.setToken.positionMultiplier - envs.length ≤ w₂.setToken.positionMultiplier := by
  by_cases hrate : m.feeState.streamingFeePercentage = 0
  · have honce' : accrueAll (m, w) [env] = .ok (m₁, w₁) := by
      simp only [accrueAll, List.foldlM_cons, List.foldlM_nil, Outcome.bind_eq_ok,
        Outcome.pure_eq_ok]
      exact ⟨_, honce, rfl⟩
    rw [accrueAll_of_rate_zero honce' hrate, accrueAll_of_rate_zero hoften hrate]
    exact ⟨le_rfl, by omega⟩
  obtain ⟨-, ⟨hzero, -⟩ | ⟨fee, -, hfee, haccrual, hpos⟩⟩ := accrueFee_charged honce
  · exact absurd hzero hrate
  obtain ⟨-, hfeeEq⟩ := calculateStreamingFee_ok hfee
  have hm : 0 ≤ w.setToken.positionMultiplier := (haccrual.multiplier_pos_before hpos).le
  obtain ⟨total, hsince⟩ := (AccruedSince.start m hm).accrueAll hoften hrate hm
  -- The fee of the whole interval is rounded once, so it is not below the sum of the parts.
  have htotal : total ≤ fee := by
    rw [hfeeEq, Nat.le_div_iff_mul_le (by decide)]
    have hle := hsince.total_le
    rwa [accrueAll_timestamp hoften] at hle
  have htotalInt : (total : ℤ) ≤ fee := Int.ofNat_le.mpr htotal
  have hfeeLt : (fee : ℤ) < preciseUnitInt := by
    rw [preciseUnitInt_eq]
    exact Int.ofNat_lt.mpr haccrual.fee_lt
  have hcompounded := hsince.compounded
  refine ⟨?_, ?_⟩
  · have hsupply := hcompounded.supply_le_single (Int.natCast_nonneg _) htotalInt hfeeLt
      haccrual.lt_supply_mul
    exact Int.ofNat_le.mp hsupply
  · have hmultiplier := hcompounded.single_sub_lt_multiplier preciseUnitInt_pos hm
      (by rw [zero_add, List.length_append, List.length_singleton]; omega) htotalInt
      (haccrual.multiplier_mul_le hm)
    rw [zero_add, List.length_append, List.length_singleton] at hmultiplier
    push_cast at hmultiplier
    omega

namespace AccrualSample

/-- Two accruals within the interval and one at its end. -/
def often : Outcome (StreamingFeeModule × World) :=
  accrueAll (module, world 148500) ([Env.plain 9 500000, Env.plain 4 1000000] ++
    [Env.plain 9 1577880])

theorem often_le_accrued :
    (often.getD (module, world 0)).2.setToken.totalSupply ≤
        ((accrued 148500).getD (module, world 0)).2.setToken.totalSupply ∧
      ((accrued 148500).getD (module, world 0)).2.setToken.positionMultiplier -
          [Env.plain 9 500000, Env.plain 4 1000000].length ≤
        (often.getD (module, world 0)).2.setToken.positionMultiplier := by
  have honce : module.accrueFee (world 148500) (Env.plain 9 1577880) =
      .ok ((accrued 148500).getD (module, world 0)) :=
    Outcome.eq_ok_getD (module, world 0) (by decide +kernel)
  have hoften : often = .ok (often.getD (module, world 0)) :=
    Outcome.eq_ok_getD (module, world 0) (by decide +kernel)
  exact accrueAll_le_accrueFee honce hoften

end AccrualSample

end StreamingFeeModule

/-- A call that changes supply and multiplier together, by any module of its kind in any state. -/
inductive RescaleCall where
  | accrueFee (module : StreamingFeeModule) (env : Env)
  | issue (module : CustomOracleNAVIssuanceModule) (env : Env) (reserveAsset : Address)
      (reserveAssetQuantity minSetTokenReceiveQuantity : ℕ) (recipient : Address)
  | redeem (module : CustomOracleNAVIssuanceModule) (env : Env) (reserveAsset : Address)
      (setTokenQuantity minReserveReceiveQuantity : ℕ) (recipient : Address)

namespace RescaleCall

def execute (w : World) : RescaleCall → Outcome World
  | accrueFee module env => Prod.snd <$> module.accrueFee w env
  | issue module env reserveAsset quantity minimum recipient =>
      Prod.fst <$> module.issue w env reserveAsset quantity minimum recipient
  | redeem module env reserveAsset quantity minimum recipient =>
      Prod.fst <$> module.redeem w env reserveAsset quantity minimum recipient

/-- The call does not rewrite the unit of the component.  A SetToken that is its own component must
not redeem itself either: that burns what it holds of the component. -/
def Spares (setToken component : Address) : RescaleCall → Prop
  | accrueFee _ _ => True
  | issue _ _ reserveAsset _ _ _ => component ≠ reserveAsset
  | redeem _ env reserveAsset _ _ _ =>
      component ≠ reserveAsset ∧ (component = setToken → env.sender ≠ setToken)

variable {w w' : World} {call : RescaleCall}

/-- What one call leaves. -/
structure Step (call : RescaleCall) (w w' : World) : Prop where
  address : w'.setToken.address = w.setToken.address
  multiplier_pos : 0 < w'.setToken.positionMultiplier
  product_le : (w'.setToken.totalSupply : ℤ) * w'.setToken.positionMultiplier ≤
    w.setToken.totalSupply * w.setToken.positionMultiplier
  mem : ∀ c ∈ w.setToken.components, call.Spares w.setToken.address c → c ∈ w'.setToken.components
  exactlyCovered : ∀ c ∈ w.setToken.components, call.Spares w.setToken.address c →
    ExactlyCovered w c → ExactlyCovered w' c

theorem step_of_accrueFee {m m' : StreamingFeeModule} {env : Env}
    (h : m.accrueFee w env = .ok (m', w')) (hm : 0 < w.setToken.positionMultiplier) :
    Step (.accrueFee m env) w w' := by
  obtain ⟨-, ⟨-, rfl⟩ | ⟨fee, -, -, haccrual, hpos⟩⟩ := StreamingFeeModule.accrueFee_charged h
  · exact ⟨rfl, hm, le_rfl, fun _ hc _ ↦ hc, fun _ _ _ hcovered ↦ hcovered⟩
  · refine ⟨haccrual.address, hpos, haccrual.product_le hm, ?_, ?_⟩
    · intro c hc _
      rwa [haccrual.components]
    · intro c hc _ hcovered
      exact hcovered.rescale (haccrual.defaultPositionVirtualUnit c) (haccrual.units_nonneg c hc)
        (haccrual.product_le hm) (haccrual.balance_le c)

/-- A rescaling of the positions that keeps the balances of the spared components. -/
theorem step_of_rescaled {reserveAsset : Address}
    (h : CustomOracleNAVIssuanceModule.Rescaled w w' reserveAsset)
    (hne : ∀ c, call.Spares w.setToken.address c → c ≠ reserveAsset)
    (hbalance : ∀ c, call.Spares w.setToken.address c → w.balance c ≤ w'.balance c) :
    Step call w w' := by
  refine ⟨h.address, h.multiplier_pos, h.product_le, ?_, ?_⟩
  · intro c hc hspares
    exact (h.other_mem c (hne c hspares)).mpr hc
  · intro c hc hspares hcovered
    exact hcovered.rescale (h.other_unit c (hne c hspares)) (h.units_nonneg c hc) h.product_le
      (hbalance c hspares)

theorem execute_step (h : call.execute w = .ok w') (hm : 0 < w.setToken.positionMultiplier) :
    Step call w w' := by
  cases call with
  | accrueFee m env =>
    simp only [execute, Outcome.map_eq_ok, Prod.exists] at h
    obtain ⟨m', _, h, rfl⟩ := h
    exact step_of_accrueFee h hm
  | issue m env reserveAsset quantity minimum recipient =>
    simp only [execute, Outcome.map_eq_ok, Prod.exists] at h
    obtain ⟨_, info, h, rfl⟩ := h
    obtain ⟨hrescaled, hbalance⟩ := CustomOracleNAVIssuanceModule.issue_rescaled h hm
    exact step_of_rescaled hrescaled (fun _ hspares ↦ hspares) hbalance
  | redeem m env reserveAsset quantity minimum recipient =>
    simp only [execute, Outcome.map_eq_ok, Prod.exists] at h
    obtain ⟨_, info, h, rfl⟩ := h
    obtain ⟨hrescaled, hbalance⟩ := CustomOracleNAVIssuanceModule.redeem_rescaled h hm
    exact step_of_rescaled hrescaled (fun _ hspares ↦ hspares.1)
      fun c hspares ↦ (hbalance c hspares.1 hspares.2).ge

/-- Supply times multiplier does not grow over any sequence of calls. -/
theorem product_le_of_calls {calls : List RescaleCall} (h : calls.foldlM execute w = .ok w')
    (hm : 0 < w.setToken.positionMultiplier) :
    (w'.setToken.totalSupply : ℤ) * w'.setToken.positionMultiplier ≤
      w.setToken.totalSupply * w.setToken.positionMultiplier := by
  apply (Outcome.foldlM_invariant
    (P := fun v : World ↦ 0 < v.setToken.positionMultiplier ∧
      (v.setToken.totalSupply : ℤ) * v.setToken.positionMultiplier ≤
        w.setToken.totalSupply * w.setToken.positionMultiplier) ?_ h ⟨hm, le_rfl⟩).2
  intro v call v' hstep ⟨hpos, hle⟩
  have hkept := execute_step hstep hpos
  exact ⟨hkept.multiplier_pos, hkept.product_le.trans hle⟩

theorem exactlyCovered_of_calls {calls : List RescaleCall} (h : calls.foldlM execute w = .ok w')
    (hm : 0 < w.setToken.positionMultiplier) {c : Address} (hc : c ∈ w.setToken.components)
    (hspares : ∀ call ∈ calls, call.Spares w.setToken.address c) (hcovered : ExactlyCovered w c) :
    ExactlyCovered w' c := by
  apply (Outcome.foldlM_invariant_of_mem
    (P := fun v : World ↦ 0 < v.setToken.positionMultiplier ∧
      v.setToken.address = w.setToken.address ∧ c ∈ v.setToken.components ∧ ExactlyCovered v c)
    ?_ h ⟨hm, rfl, hc, hcovered⟩).2.2.2
  intro v call hcall v' hstep ⟨hpos, haddress, hmem, hcovered⟩
  have hkept := execute_step hstep hpos
  have hspared : call.Spares v.setToken.address c := haddress ▸ hspares call hcall
  exact ⟨hkept.multiplier_pos, hkept.address.trans haddress, hkept.mem c hmem hspared,
    hkept.exactlyCovered c hmem hspared hcovered⟩

/-- Supply times multiplier does not grow in a fee accrual, an issue or a redemption at net asset
value, nor in a sequence of these.  A component that none of the calls rewrites stays covered before
rounding. -/
theorem supply_mul_multiplier_le (w : World) (hm : 0 < w.setToken.positionMultiplier) :
    (∀ (call : RescaleCall) (w' : World), call.execute w = .ok w' →
      (w'.setToken.totalSupply : ℤ) * w'.setToken.positionMultiplier ≤
        w.setToken.totalSupply * w.setToken.positionMultiplier) ∧
      ∀ (calls : List RescaleCall) (w' : World), calls.foldlM execute w = .ok w' →
        (w'.setToken.totalSupply : ℤ) * w'.setToken.positionMultiplier ≤
            w.setToken.totalSupply * w.setToken.positionMultiplier ∧
          ∀ c ∈ w.setToken.components, (∀ call ∈ calls, call.Spares w.setToken.address c) →
            w.setToken.totalSupply * (w.setToken.defaultPositionVirtualUnit c *
                w.setToken.positionMultiplier) ≤
              w.balance c * preciseUnitInt * preciseUnitInt →
            w'.setToken.totalSupply * (w'.setToken.defaultPositionVirtualUnit c *
                w'.setToken.positionMultiplier) ≤
              w'.balance c * preciseUnitInt * preciseUnitInt := by
  refine ⟨?_, ?_⟩
  · intro call w' h
    exact (execute_step h hm).product_le
  · intro calls w' h
    refine ⟨product_le_of_calls h hm, ?_⟩
    intro c hc hspares hcovered
    exact exactlyCovered_of_calls h hm hc hspares hcovered

namespace Sample

open CustomOracleNAVIssuanceModule.NavSample

/-- One of two Sets is redeemed at net asset value, and a fee is accrued afterwards. -/
def calls : List RescaleCall :=
  [.redeem module oracleEnv 8 (10 ^ 18) 0 9,
    .accrueFee ⟨20, ⟨9, 5 * 10 ^ 16, 2 * 10 ^ 16, 0⟩⟩ (Env.plain 9 1577880)]

def after : World := (calls.foldlM execute (world 4)).getD (world 4)

theorem calls_supply_mul_multiplier_le :
    0 < (world 4).setToken.positionMultiplier ∧
      (after.setToken.totalSupply : ℤ) * after.setToken.positionMultiplier ≤
        (world 4).setToken.totalSupply * (world 4).setToken.positionMultiplier ∧
      (after.setToken.totalSupply : ℤ) * (after.setToken.defaultPositionVirtualUnit 7 *
          after.setToken.positionMultiplier) ≤
        after.balance 7 * preciseUnitInt * preciseUnitInt := by
  have hm : 0 < (world 4).setToken.positionMultiplier := by decide +kernel
  obtain ⟨hproduct, hcovered⟩ := (supply_mul_multiplier_le (world 4) hm).2 calls after
    (Outcome.eq_ok_getD (world 4) (by decide +kernel))
  refine ⟨hm, hproduct, hcovered 7 (by decide +kernel) ?_ (by decide +kernel)⟩
  intro call hcall
  simp only [calls, List.mem_cons, List.not_mem_nil, or_false] at hcall
  rcases hcall with rfl | rfl
  · exact ⟨by decide +kernel, by decide +kernel⟩
  · trivial

end Sample

end RescaleCall

end SetProtocol
