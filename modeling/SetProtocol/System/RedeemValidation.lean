import SetProtocol.Modules.CustomOracleNAVIssuanceModule

/-!
# Does the validation of a redemption agree with the redemption?

`isRedeemValid` repeats the requirements of `redeem` one by one.  For the available collateral `redeem`
requires what leaves the SetToken, fees included, while `isRedeemValid` looks at what the redeemer
receives.
-/

namespace SetProtocol

open PreciseUnitMath ModuleBase

namespace CustomOracleNAVIssuanceModule

variable {m : CustomOracleNAVIssuanceModule} {w w' : World} {env : Env} {info : ActionInfo}
  {reserveAsset recipient : Address} {quantity minimum : ℕ} {valid : Bool}

/-- What a redemption pays: the quantity before fees, the fees, and the net quantity. -/
structure RedeemPayment (m : CustomOracleNAVIssuanceModule) (w : World) (env : Env)
    (reserveAsset : Address) (quantity preFee protocolFees managerFee net : ℕ) : Prop where
  paid : m.getRedeemReserveQuantity w env reserveAsset quantity = .ok preFee
  fees : m.getFees w preFee m.redeemFees = .ok (protocolFees, managerFee, net)

/-- The requirements of a redemption: the quantity and the reserve asset, the supply that is left, and the
collateral for all that is paid. -/
structure MeetsRequirements (m : CustomOracleNAVIssuanceModule) (w : World) (env : Env)
    (reserveAsset : Address) (quantity : ℕ) : Prop where
  common : m.validateCommon reserveAsset quantity = .ok ()
  supply : ∃ newSupply, SafeMath.sub w.setToken.totalSupply quantity = .ok newSupply ∧
    m.settings.minSetTokenSupply ≤ newSupply
  collateral : ∃ preFee protocolFees managerFee net existing,
    m.RedeemPayment w env reserveAsset quantity preFee protocolFees managerFee net ∧
      existingReserve w reserveAsset w.setToken.totalSupply = .ok existing ∧
      net + protocolFees + managerFee ≤ existing

/-- The collateral is enough for the redeemer, but not for the fees as well. -/
def FeesExceedReserve (m : CustomOracleNAVIssuanceModule) (w : World) (env : Env)
    (reserveAsset : Address) (quantity : ℕ) : Prop :=
  m.validateCommon reserveAsset quantity = .ok () ∧
    m.settings.minSetTokenSupply + quantity ≤ w.setToken.totalSupply ∧
    ∃ preFee protocolFees managerFee net existing,
      m.RedeemPayment w env reserveAsset quantity preFee protocolFees managerFee net ∧
        existingReserve w reserveAsset w.setToken.totalSupply = .ok existing ∧
        net ≤ existing ∧ existing < preFee

/-- The answer of the validation agrees with a redemption in the same state. -/
def Agrees (m : CustomOracleNAVIssuanceModule) (w : World) (env : Env) (reserveAsset : Address)
    (quantity : ℕ) (valid : Bool) : Prop :=
  (valid = true → m.MeetsRequirements w env reserveAsset quantity) ∧
    (valid = false → ¬ m.MeetsRequirements w env reserveAsset quantity ∧
      ∀ recipient result, m.redeem w env reserveAsset quantity 0 recipient ≠ .ok result)

namespace RedeemPayment

variable {preFee preFee' protocolFees protocolFees' managerFee managerFee' net net' : ℕ}

theorem total (h : m.RedeemPayment w env reserveAsset quantity preFee protocolFees managerFee net) :
    net + protocolFees + managerFee = preFee := by
  have hfees := h.fees
  simp only [getFees, Outcome.bind_eq_ok, SafeMath.sub_eq_ok, Outcome.pure_eq_ok,
    Prod.mk.injEq] at hfees
  obtain ⟨_, -, _, -, _, -, _, ⟨hprotocol, rfl⟩, _, ⟨hmanager, rfl⟩, rfl, rfl, rfl⟩ := hfees
  omega

theorem unique (h : m.RedeemPayment w env reserveAsset quantity preFee protocolFees managerFee net)
    (h' : m.RedeemPayment w env reserveAsset quantity preFee' protocolFees' managerFee' net') :
    preFee' = preFee ∧ net' = net := by
  obtain rfl := Except.ok.inj (h.paid.symm.trans h'.paid)
  have hfees := Except.ok.inj (h.fees.symm.trans h'.fees)
  simp only [Prod.mk.injEq] at hfees
  exact ⟨rfl, hfees.2.2.symm⟩

end RedeemPayment

/-! ## The requirements are those of `redeem` -/

/-- A redemption that goes through has met them. -/
theorem redeem_meetsRequirements
    (h : m.redeem w env reserveAsset quantity minimum recipient = .ok (w', info)) :
    m.MeetsRequirements w env reserveAsset quantity := by
  simp only [redeem, validateRedemptionInfo, createRedemptionInfo, getRedeemPositionMultiplier,
    getRedeemPositionUnit, Outcome.bind_eq_ok, Outcome.pure_eq_ok, Outcome.require_eq_ok,
    Prod.exists, Prod.mk.injEq, SafeMath.add_eq_ok] at h
  obtain ⟨_, -, _, hcommon, _, -, info, ⟨preFee, hpreFee, protocolFees, managerFee, net, hfees, _, _,
    ⟨newSupply, hsupply, _, -, rfl, rfl⟩, _, ⟨existing, hexisting, _, ⟨-, rfl⟩, _, ⟨-, rfl⟩, _, hle,
    -⟩, rfl⟩, _, ⟨_, hminimum, -⟩, -⟩ := h
  exact ⟨hcommon, ⟨newSupply, hsupply, hminimum⟩,
    ⟨preFee, protocolFees, managerFee, net, existing, ⟨hpreFee, hfees⟩, hexisting, hle⟩⟩

theorem existingReserve_le {supply existing : ℕ}
    (h : existingReserve w reserveAsset supply = .ok existing) : existing ≤ maxUint256 := by
  simp only [existingReserve, Outcome.bind_eq_ok, preciseMul_eq_ok] at h
  obtain ⟨_, -, unit, -, hle, rfl⟩ := h
  exact (Nat.div_le_self _ _).trans hle

/-- Where they are met, none of the checks stops a redemption without a minimum: those before the hook, the
subtraction and the comparison of the supply, and the comparison of the collateral, after which only the
new unit is computed. -/
theorem MeetsRequirements.passes (h : m.MeetsRequirements w env reserveAsset quantity) :
    m.validateCommon reserveAsset quantity = .ok () ∧
      (∀ info, m.createRedemptionInfo w env reserveAsset quantity = .ok info →
        m.validateRedemptionInfo 0 info = .ok ()) ∧
      ∃ preFee protocolFees managerFee net existing newSupply,
        m.RedeemPayment w env reserveAsset quantity preFee protocolFees managerFee net ∧
          SafeMath.sub w.setToken.totalSupply quantity = .ok newSupply ∧
          ∀ unit, getRedeemPositionUnit w reserveAsset w.setToken.totalSupply net protocolFees managerFee
              newSupply = .ok unit ↔ preciseDiv (existing - preFee) newSupply = .ok unit := by
  obtain ⟨newSupply, hsupply, hminimum⟩ := h.supply
  obtain ⟨preFee, protocolFees, managerFee, net, existing, hpayment, hexisting, hle⟩ := h.collateral
  refine ⟨h.common, ?_, preFee, protocolFees, managerFee, net, existing, newSupply, hpayment, hsupply,
    ?_⟩
  · intro info hinfo
    have hnew := (createRedemptionInfo_ok hinfo).supply
    rw [(SafeMath.sub_eq_ok.mp hsupply).2] at hminimum
    simp only [validateRedemptionInfo, Outcome.bind_eq_ok, Outcome.require_eq_ok, hnew]
    exact ⟨(), hminimum, Nat.zero_le _⟩
  · intro unit
    have hmax : net + protocolFees + managerFee ≤ maxUint256 :=
      hle.trans (existingReserve_le hexisting)
    have hnet : net + protocolFees ≤ maxUint256 := (Nat.le_add_right _ _).trans hmax
    rw [hpayment.total] at hmax hle
    simp only [getRedeemPositionUnit, hexisting, Outcome.bind_eq_ok, SafeMath.add_eq_ok,
      SafeMath.sub_eq_ok, Outcome.require_eq_ok, Except.ok.injEq, exists_eq_left', exists_eq_left,
      exists_const, true_and, hnet, hpayment.total, hmax, hle]

/-! ## The validation -/

theorem validateCommon_ok :
    m.validateCommon reserveAsset quantity = .ok () ↔
      ¬ (quantity = 0 ∨ m.isReserveAsset reserveAsset = false) := by
  simp only [validateCommon, Outcome.bind_eq_ok, Outcome.require_eq_ok, not_or, Bool.not_eq_false,
    exists_const, Nat.pos_iff_ne_zero]

theorem hasRedeemCollateral_ok
    (h : m.hasRedeemCollateral w env reserveAsset quantity = .ok valid) :
    ∃ preFee protocolFees managerFee net existing,
      m.RedeemPayment w env reserveAsset quantity preFee protocolFees managerFee net ∧
        existingReserve w reserveAsset w.setToken.totalSupply = .ok existing ∧
        (valid = true ↔ net ≤ existing) := by
  simp only [hasRedeemCollateral, getExpectedReserveRedeemQuantity, Outcome.bind_eq_ok,
    Outcome.pure_eq_ok, Prod.exists] at h
  obtain ⟨_, ⟨preFee, hpaid, protocolFees, managerFee, net, hfees, rfl⟩, existing, hexisting, rfl⟩ := h
  exact ⟨preFee, protocolFees, managerFee, net, existing, ⟨hpaid, hfees⟩, hexisting,
    decide_eq_true_iff⟩

section Payment

variable {preFee protocolFees managerFee net existing : ℕ}

/-- Once the other requirements are met, the collateral decides. -/
theorem meetsRequirements_iff (hcommon : m.validateCommon reserveAsset quantity = .ok ())
    (hsupply : m.settings.minSetTokenSupply + quantity ≤ w.setToken.totalSupply)
    (hpayment : m.RedeemPayment w env reserveAsset quantity preFee protocolFees managerFee net)
    (hexisting : existingReserve w reserveAsset w.setToken.totalSupply = .ok existing) :
    m.MeetsRequirements w env reserveAsset quantity ↔ preFee ≤ existing := by
  constructor
  · intro h
    obtain ⟨preFee', _, _, _, existing', hpayment', hexisting', hle⟩ := h.collateral
    obtain rfl := Except.ok.inj (hexisting.symm.trans hexisting')
    rwa [hpayment'.total, (hpayment.unique hpayment').1] at hle
  · intro hle
    have hnew : SafeMath.sub w.setToken.totalSupply quantity =
        .ok (w.setToken.totalSupply - quantity) := SafeMath.sub_eq_ok.mpr ⟨by omega, rfl⟩
    refine ⟨hcommon, ⟨_, hnew, by omega⟩, ⟨_, _, _, _, _, hpayment, hexisting, ?_⟩⟩
    rwa [hpayment.total]

theorem feesExceedReserve_iff (hcommon : m.validateCommon reserveAsset quantity = .ok ())
    (hsupply : m.settings.minSetTokenSupply + quantity ≤ w.setToken.totalSupply)
    (hpayment : m.RedeemPayment w env reserveAsset quantity preFee protocolFees managerFee net)
    (hexisting : existingReserve w reserveAsset w.setToken.totalSupply = .ok existing) :
    m.FeesExceedReserve w env reserveAsset quantity ↔ net ≤ existing ∧ existing < preFee := by
  constructor
  · rintro ⟨-, -, _, _, _, _, existing', hpayment', hexisting', hbounds⟩
    obtain rfl := Except.ok.inj (hexisting.symm.trans hexisting')
    obtain ⟨hpreFee, hnet⟩ := hpayment.unique hpayment'
    rwa [hpreFee, hnet] at hbounds
  · intro hbounds
    exact ⟨hcommon, hsupply, _, _, _, _, _, hpayment, hexisting, hbounds⟩

end Payment

/-- Without the requirements no redemption goes through. -/
theorem agrees_false (h : ¬ m.MeetsRequirements w env reserveAsset quantity) :
    m.Agrees w env reserveAsset quantity false := by
  refine ⟨nofun, fun _ ↦ ⟨h, ?_⟩⟩
  intro recipient result hredeem
  exact h (redeem_meetsRequirements hredeem)

/-- Whatever the validation answers, it agrees with the redemption unless the collateral is enough for the
net quantity but not for the fees. -/
theorem isRedeemValid_agrees_iff
    (h : m.isRedeemValid w env reserveAsset quantity = .ok valid) :
    m.Agrees w env reserveAsset quantity valid ↔
      ¬ m.FeesExceedReserve w env reserveAsset quantity := by
  unfold isRedeemValid at h
  split_ifs at h with hinvalid
  · obtain rfl := Outcome.pure_eq_ok.mp h
    have hcommon : m.validateCommon reserveAsset quantity ≠ .ok () :=
      mt validateCommon_ok.mp (not_not.mpr hinvalid)
    exact iff_of_true (agrees_false fun hmeets ↦ hcommon hmeets.common)
      fun hfees ↦ hcommon hfees.1
  · have hcommon := validateCommon_ok.mpr hinvalid
    simp only [Outcome.bind_eq_ok, SafeMath.add_eq_ok] at h
    obtain ⟨_, ⟨-, rfl⟩, h⟩ := h
    split_ifs at h with hsupply
    · obtain rfl := Outcome.pure_eq_ok.mp h
      refine iff_of_true (agrees_false ?_) fun hfees ↦ hfees.2.1.not_gt hsupply
      intro hmeets
      obtain ⟨newSupply, hnew, hminimum⟩ := hmeets.supply
      obtain ⟨hle, rfl⟩ := SafeMath.sub_eq_ok.mp hnew
      omega
    · obtain ⟨preFee, protocolFees, managerFee, net, existing, hpayment, hexisting, hiff⟩ :=
        hasRedeemCollateral_ok h
      have hsupply := not_lt.mp hsupply
      have hmeets := meetsRequirements_iff hcommon hsupply hpayment hexisting
      have hfees := feesExceedReserve_iff hcommon hsupply hpayment hexisting
      cases valid with
      | false =>
        have hshort : existing < net := by simpa using hiff
        have htotal := hpayment.total
        have hnot : ¬ m.MeetsRequirements w env reserveAsset quantity := by
          rw [hmeets]
          omega
        exact iff_of_true (agrees_false hnot) fun hexceed ↦ hshort.not_ge (hfees.mp hexceed).1
      | true =>
        have hnet : net ≤ existing := hiff.mp rfl
        simp only [Agrees, hmeets, hfees, hnet, true_and, not_lt, forall_const, Bool.true_eq_false,
          false_imp_iff, and_true]

namespace ValidationSample

/-- Two Sets with one of component 7 and one of the reserve asset 8 each. -/
def world : World where
  controller := { Controller.enabling 4 [20] with isSet := fun a ↦ a == 6 }
  setToken := SetToken.launched 6 [7, 8] [10 ^ 18, 10 ^ 18] [20] 2 9 (2 * 10 ^ 18)
  chain := { tokens := fun _ ↦ ERC20.holding 18 [(6, 2 * 10 ^ 18)] 0 }
  log := []

/-- A manager fee of ten percent on redemptions, and no premium. -/
def module : CustomOracleNAVIssuanceModule where
  address := 20
  settings := ⟨0, 0, 0, [8], 3, 0, 10 ^ 17, 10 ^ 17, 0, 0, 1⟩
  isReserveAsset := fun a ↦ a == 8

/-- Every token is worth one of the reserve asset. -/
def oracleEnv : Env :=
  { Env.plain 9 0 with priceOracle := ⟨8, fun _ _ ↦ .ok (10 ^ 18)⟩ }

theorem existing_eq : existingReserve world 8 world.setToken.totalSupply = .ok (2 * 10 ^ 18) := by
  decide +kernel

/-- Slightly more than a Set is worth 2.1 of the reserve asset, of which the redeemer gets 1.89.  The
redemption fails with the 2 that the Set has. -/
theorem valid_redeem_fails :
    module.isRedeemValid world oracleEnv 8 (105 * 10 ^ 16) = .ok true ∧
      (module.redeem world oracleEnv 8 (105 * 10 ^ 16) 0 9).map (fun _ ↦ ()) =
        .error "Must be greater than total available collateral" ∧
      ¬ module.Agrees world oracleEnv 8 (105 * 10 ^ 16) true := by
  have hpayment : module.RedeemPayment world oracleEnv 8 (105 * 10 ^ 16) (21 * 10 ^ 17) 0
      (21 * 10 ^ 16) (189 * 10 ^ 16) := ⟨by decide +kernel, by decide +kernel⟩
  have hmeets := meetsRequirements_iff (by decide) (by decide +kernel) hpayment existing_eq
  refine ⟨by decide +kernel, by decide +kernel, ?_⟩
  intro hagrees
  exact absurd (hmeets.mp (hagrees.1 rfl)) (by decide)

/-- One Set can be redeemed. -/
theorem valid_redeem_agrees :
    module.isRedeemValid world oracleEnv 8 (10 ^ 18) = .ok true ∧
      module.MeetsRequirements world oracleEnv 8 (10 ^ 18) := by
  have hpayment : module.RedeemPayment world oracleEnv 8 (10 ^ 18) (2 * 10 ^ 18) 0 (2 * 10 ^ 17)
      (18 * 10 ^ 17) := ⟨by decide +kernel, by decide +kernel⟩
  have hfees := feesExceedReserve_iff (by decide) (by decide +kernel) hpayment existing_eq
  have hvalid : module.isRedeemValid world oracleEnv 8 (10 ^ 18) = .ok true := by
    decide +kernel
  have hagrees := (isRedeemValid_agrees_iff hvalid).mpr fun hexceed ↦
    absurd (hfees.mp hexceed).2 (by decide)
  exact ⟨hvalid, hagrees.1 rfl⟩

end ValidationSample

end CustomOracleNAVIssuanceModule

end SetProtocol
