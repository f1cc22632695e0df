import SetProtocol.Core.ModuleBase

/-!
# Issuing and redeeming against the components

`BasicIssuanceModule` takes the components of the issued quantity from the caller, rounded up, and
pays them out on redemption, rounded down and less a protocol fee.
-/

namespace SetProtocol

open PreciseUnitMath ModuleBase

structure BasicIssuanceModule where
  address : Address
  /-- The hook that the manager registered for the Set, or zero. -/
  managerIssuanceHook : Address
  paused : Bool

namespace BasicIssuanceModule

/-- Index of the fee that is charged by `redeem`. -/
def redeemFeeIndex : ℕ := 0

def callPreIssueHooks (m : BasicIssuanceModule) (env : Env) (quantity : ℕ)
    (caller recipient : Address) : Outcome Address :=
  if m.managerIssuanceHook ≠ 0 then do
    env.invokePreIssueHook m.managerIssuanceHook quantity caller recipient
    pure m.managerIssuanceHook
  else
    pure 0

/-- One pass of the loop of `getRequiredComponentUnitsForIssue`. -/
def componentUnitsForIssue (w : World) (quantity : ℕ) (component : Address) : Outcome ℕ := do
  require (Position.hasExternalPosition w.setToken component = false)
    "Only default positions are supported"
  let unit ← w.setToken.getDefaultPositionRealUnit component
  let unit ← SafeCast.toUint256 unit
  preciseMulCeil unit quantity

def getRequiredComponentUnitsForIssue (m : BasicIssuanceModule) (w : World) (quantity : ℕ) :
    Outcome (List Address × List ℕ) := do
  validateOnlyValidAndInitializedSet w m.address
  let notionalUnits ← w.setToken.components.mapM (componentUnitsForIssue w quantity)
  pure (w.setToken.components, notionalUnits)

/-- One pass of the loop of `getRequiredComponentUnitsForRedeem`: the amount paid out and the
fee. -/
def componentUnitsForRedeem (m : BasicIssuanceModule) (w : World) (quantity : ℕ)
    (component : Address) : Outcome (ℕ × ℕ) := do
  require (Position.hasExternalPosition w.setToken component = false)
    "Only default positions are supported"
  let unit ← w.setToken.getDefaultPositionRealUnit component
  let unit ← SafeCast.toUint256 unit
  let componentQuantity ← preciseMul unit quantity
  let protocolFee ← getModuleFee w m.address redeemFeeIndex componentQuantity
  let notionalUnit ← SafeMath.sub componentQuantity protocolFee
  pure (notionalUnit, protocolFee)

def getRequiredComponentUnitsForRedeem (m : BasicIssuanceModule) (w : World) (quantity : ℕ) :
    Outcome (List Address × List (ℕ × ℕ)) := do
  validateOnlyValidAndInitializedSet w m.address
  let units ← w.setToken.components.mapM (m.componentUnitsForRedeem w quantity)
  pure (w.setToken.components, units)

/-- Take one component from the caller. -/
def collectComponent (m : BasicIssuanceModule) (env : Env) (w : World) (entry : Address × ℕ) :
    Outcome World :=
  w.explicitTransferFrom entry.1 m.address env.sender w.setToken.address entry.2

def issue (m : BasicIssuanceModule) (w : World) (env : Env) (quantity : ℕ) (recipient : Address) :
    Outcome World := do
  validateOnlyValidAndInitializedSet w m.address
  require (m.paused = false) "Pausable: paused"
  require (0 < quantity) "Issue quantity must be > 0"
  let _ ← m.callPreIssueHooks env quantity env.sender recipient
  let required ← m.getRequiredComponentUnitsForIssue w quantity
  let w ← (required.1.zip required.2).foldlM (m.collectComponent env) w
  w.onSetToken fun s ↦ s.mint w.controller m.address recipient quantity

/-- Pay the fee of one component and the rest to the recipient. -/
def payComponent (m : BasicIssuanceModule) (env : Env) (recipient : Address) (w : World)
    (entry : Address × ℕ × ℕ) : Outcome World := do
  let w ← payProtocolFeeFromSetToken w env m.address entry.1 entry.2.2
  w.strictInvokeTransfer env m.address entry.1 recipient entry.2.1

def redeem (m : BasicIssuanceModule) (w : World) (env : Env) (quantity : ℕ)
    (recipient : Address) : Outcome World := do
  validateOnlyValidAndInitializedSet w m.address
  require (0 < quantity) "Redeem quantity must be > 0"
  let w ← w.onSetToken fun s ↦ s.burn w.controller m.address env.sender quantity
  let required ← m.getRequiredComponentUnitsForRedeem w quantity
  (required.1.zip required.2).foldlM (m.payComponent env recipient) w

/-- The source calls this function `initialize`. -/
def initializeSetToken (m : BasicIssuanceModule) (w : World) (env : Env) (preIssueHook : Address) :
    Outcome (BasicIssuanceModule × World) := do
  validateOnlySetManager w env.sender
  validateOnlyValidAndPendingSet w m.address
  let w ← w.onSetToken fun s ↦ s.initializeModule m.address
  pure ({ m with managerIssuanceHook := preIssueHook }, w)

def removeModule : Outcome Unit :=
  throw "The BasicIssuanceModule module cannot be removed"

/-! ## What issuing and redeeming move -/

variable {m : BasicIssuanceModule} {w w' : World} {env : Env} {quantity : ℕ} {recipient : Address}

/-- The amount of a component that an issue collects: the unit times the quantity, rounded up. -/
theorem componentUnitsForIssue_ok {c : Address} {amount : ℕ}
    (h : componentUnitsForIssue w quantity c = .ok amount) :
    (quantity : ℤ) * w.setToken.defaultRealUnit c ≤ (amount : ℤ) * preciseUnitInt := by
  simp only [componentUnitsForIssue, Outcome.bind_eq_ok, Outcome.require_eq_ok,
    SetToken.getDefaultPositionRealUnit_eq_ok, SafeCast.toUint256_eq_ok] at h
  obtain ⟨_, -, _, ⟨-, rfl⟩, unit, hunit, hceil⟩ := h
  have hamount := preciseMulCeil_eq_of_ok hceil
  have hle : unit * quantity ≤ amount * preciseUnit := by
    have hdiv := Nat.div_add_mod (unit * quantity + preciseUnit - 1) preciseUnit
    have hmod := Nat.mod_lt (unit * quantity + preciseUnit - 1) preciseUnit_pos
    rw [← hamount, mul_comm] at hdiv
    omega
  rw [hunit, preciseUnitInt_eq, mul_comm (quantity : ℤ)]
  exact_mod_cast hle

/-- The amounts of a component that a redemption pays in total: the unit times the quantity, rounded
down. -/
theorem componentUnitsForRedeem_ok {c : Address} {amounts : ℕ × ℕ}
    (h : m.componentUnitsForRedeem w quantity c = .ok amounts) :
    ((amounts.1 + amounts.2 : ℕ) : ℤ) * preciseUnitInt ≤
      (quantity : ℤ) * w.setToken.defaultRealUnit c := by
  simp only [componentUnitsForRedeem, getModuleFee, Outcome.bind_eq_ok, Outcome.require_eq_ok,
    SetToken.getDefaultPositionRealUnit_eq_ok, SafeCast.toUint256_eq_ok, preciseMul_eq_ok,
    SafeMath.sub_eq_ok, Outcome.pure_eq_ok] at h
  obtain ⟨_, -, _, ⟨-, rfl⟩, unit, hunit, _, ⟨-, rfl⟩, fee, ⟨-, -⟩, _, ⟨hfee, rfl⟩, rfl⟩ := h
  have hle : unit * quantity / preciseUnit * preciseUnit ≤ unit * quantity :=
    Nat.div_mul_le_self _ _
  rw [hunit, preciseUnitInt_eq, mul_comm (quantity : ℤ), Nat.sub_add_cancel hfee]
  exact_mod_cast hle

/-- Moving amounts of the components one after the other moves each component once. -/
theorem foldlM_components {ν : Type} {step : World → Address × ν → Outcome World}
    {R : ℕ → ν → ℕ → Prop} {f : Address → Outcome ν} {amounts : List ν}
    (hstep : ∀ u u' e, step u e = .ok u' → e.1 ≠ u.setToken.address →
      u.TokenStep u' e.1 ∧ R (u.balance e.1) e.2 (u'.balance e.1))
    (hnodup : w.setToken.components.Nodup)
    (hset : w.setToken.address ∉ w.setToken.components)
    (hamounts : w.setToken.components.mapM f = .ok amounts)
    (hloop : (w.setToken.components.zip amounts).foldlM step w = .ok w') :
    w'.setToken = w.setToken ∧ w'.controller = w.controller ∧
      ∀ c ∈ w.setToken.components, ∃ amount, f c = .ok amount ∧
        R (w.balance c) amount (w'.balance c) := by
  have hkeys := Outcome.map_fst_zip_mapM hamounts
  obtain ⟨⟨hs, hcontroller⟩, hmoved, -⟩ := Outcome.foldlM_pointwise World.balance
    (fun u ↦ u.setToken = w.setToken ∧ u.controller = w.controller) R
    (fun u u' e he hu hframe ↦ by
      have hmem : e.1 ∈ w.setToken.components := (List.of_mem_zip he).1
      have htoken : e.1 ≠ u.setToken.address := by
        rw [hframe.1]
        exact fun heq ↦ hset (heq ▸ hmem)
      obtain ⟨hstep, hR⟩ := hstep u u' e hu htoken
      exact ⟨⟨hstep.setToken.trans hframe.1, hstep.controller.trans hframe.2⟩, hR,
        fun c hc ↦ hstep.balance_of_ne hc⟩)
    (by rwa [hkeys]) hloop ⟨rfl, rfl⟩
  refine ⟨hs, hcontroller, fun c hc ↦ ?_⟩
  obtain ⟨e, he, rfl⟩ := List.mem_map.mp (hkeys.symm ▸ hc)
  exact ⟨e.2, Outcome.zip_mapM_ok hamounts he, hmoved e he⟩

/-- A successful issue mints the quantity, collects every component rounded up and touches nothing
else of the Set. -/
theorem issue_ok (h : m.issue w env quantity recipient = .ok w')
    (hnodup : w.setToken.components.Nodup)
    (hset : w.setToken.address ∉ w.setToken.components) :
    (∃ t, w.setToken.erc20.mint recipient quantity = .ok t ∧
      w'.setToken = w.setToken.setErc20 t) ∧
    ∀ c ∈ w.setToken.components, ∃ amount : ℕ, w'.balance c = w.balance c + amount ∧
      (quantity : ℤ) * w.setToken.defaultRealUnit c ≤ (amount : ℤ) * preciseUnitInt := by
  simp only [issue, getRequiredComponentUnitsForIssue, World.onSetToken, Outcome.bind_eq_ok,
    Outcome.pure_eq_ok, SetToken.mint_eq_ok] at h
  obtain ⟨_, -, _, -, _, -, _, -, _, ⟨_, -, amounts, hamounts, rfl⟩, v, hloop, _,
    ⟨-, t, ht, rfl⟩, rfl⟩ := h
  obtain ⟨hv, -, hmoved⟩ := foldlM_components (R := fun before amount after ↦
      after = before + amount)
    (fun _ _ _ hcollect htoken ↦ World.explicitTransferFrom_balance hcollect htoken)
    hnodup hset hamounts hloop
  refine ⟨⟨t, hv ▸ ht, by rw [hv]⟩, fun c hc ↦ ?_⟩
  obtain ⟨amount, hamount, hbalance⟩ := hmoved c hc
  have hne : c ≠ w.setToken.address := fun heq ↦ hset (heq ▸ hc)
  refine ⟨amount, ?_, componentUnitsForIssue_ok hamount⟩
  rw [← hbalance]
  simp [World.balance, World.erc20, hv, hne]

theorem payComponent_balance {e : Address × ℕ × ℕ} {u u' : World}
    (h : m.payComponent env recipient u e = .ok u') (htoken : e.1 ≠ u.setToken.address) :
    u.TokenStep u' e.1 ∧ e.2.1 + e.2.2 ≤ u.balance e.1 ∧
      u'.balance e.1 = u.balance e.1 - (e.2.1 + e.2.2) := by
  simp only [payComponent, Outcome.bind_eq_ok] at h
  obtain ⟨v, hfee, hpay⟩ := h
  obtain ⟨hstep, hle, hbalance⟩ := payProtocolFeeFromSetToken_balance hfee htoken
  obtain ⟨hstep', hle', hbalance'⟩ :=
    World.strictInvokeTransfer_balance hpay (hstep.setToken.symm ▸ htoken)
  exact ⟨hstep.trans hstep', by omega, by omega⟩

/-- A successful redemption burns the quantity and pays every component rounded down. -/
theorem redeem_ok (h : m.redeem w env quantity recipient = .ok w')
    (hnodup : w.setToken.components.Nodup)
    (hset : w.setToken.address ∉ w.setToken.components) :
    (∃ t, w.setToken.erc20.burn env.sender quantity = .ok t ∧
      w'.setToken = w.setToken.setErc20 t) ∧
    ∀ c ∈ w.setToken.components, ∃ amount : ℕ, amount ≤ w.balance c ∧
      w'.balance c = w.balance c - amount ∧
      (amount : ℤ) * preciseUnitInt ≤ (quantity : ℤ) * w.setToken.defaultRealUnit c := by
  simp only [redeem, getRequiredComponentUnitsForRedeem, World.onSetToken, Outcome.bind_eq_ok,
    Outcome.pure_eq_ok, SetToken.burn_eq_ok] at h
  obtain ⟨_, -, _, -, v, ⟨_, ⟨-, t, ht, rfl⟩, rfl⟩, _, ⟨_, -, amounts, hamounts, rfl⟩, hloop⟩ := h
  obtain ⟨hv, -, hmoved⟩ := foldlM_components (R := fun before amounts after ↦
      amounts.1 + amounts.2 ≤ before ∧ after = before - (amounts.1 + amounts.2))
    (fun _ _ _ hpay htoken ↦ payComponent_balance hpay htoken)
    (w := { w with setToken := w.setToken.setErc20 t }) hnodup hset hamounts hloop
  refine ⟨⟨t, ht, hv⟩, fun c hc ↦ ?_⟩
  obtain ⟨amounts, hamount, hle, hbalance⟩ := hmoved c hc
  have hne : c ≠ w.setToken.address := fun heq ↦ hset (heq ▸ hc)
  have hbefore : World.balance { w with setToken := w.setToken.setErc20 t } c =
      w.balance c := by
    simp [World.balance, World.erc20, hne]
  rw [hbefore] at hle hbalance
  exact ⟨amounts.1 + amounts.2, hle, hbalance, componentUnitsForRedeem_ok hamount⟩

end BasicIssuanceModule

end SetProtocol
