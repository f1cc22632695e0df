import SetProtocol.Core.ModuleBase

/-!
# Issuance with debt positions

`DebtIssuanceModule` keeps the list of modules that have to be called before every issue and redeem,
and computes for each component the equity that the caller brings and the debt that the caller gets.
The loops that move the tokens call hooks of other modules; they are in `System.Protocol`, once all
modules are defined.
-/

namespace SetProtocol

open PreciseUnitMath ModuleBase

structure IssuanceSettings where
  maxManagerFee : ℕ
  managerIssueFee : ℕ
  managerRedeemFee : ℕ
  feeRecipient : Address
  managerIssuanceHook : Address
  moduleIssuanceHooks : List Address
  isModuleHook : Address → Bool

/-- The zero value of a storage slot. -/
def IssuanceSettings.empty : IssuanceSettings := ⟨0, 0, 0, 0, 0, [], fun _ ↦ false⟩

/-- Also the state of `SlippageIssuanceModule`, which inherits from this contract. -/
structure DebtIssuanceModule where
  address : Address
  /-- The settings of the Set. -/
  settings : IssuanceSettings

/-- The issuance modules by their addresses; other contracts have no entry. -/
abbrev IssuanceTable := Address → Option IssuanceSettings

namespace DebtIssuanceModule

/-! ## Registration of hooks -/

def setHooks (m : DebtIssuanceModule) (hooks : List Address) (module : Address) (listed : Bool) :
    DebtIssuanceModule :=
  let settings := { m.settings with
    moduleIssuanceHooks := hooks
    isModuleHook := Function.update m.settings.isModuleHook module listed }
  { m with settings := settings }

def registerToIssuanceModule (m : DebtIssuanceModule) (w : World) (sender : Address) :
    Outcome DebtIssuanceModule := do
  validateOnlyModule w sender
  validateOnlyValidAndInitializedSet w m.address
  require (m.settings.isModuleHook sender = false) "Module already registered."
  pure (m.setHooks (m.settings.moduleIssuanceHooks ++ [sender]) sender true)

def unregisterFromIssuanceModule (m : DebtIssuanceModule) (w : World) (sender : Address) :
    Outcome DebtIssuanceModule := do
  validateOnlyModule w sender
  validateOnlyValidAndInitializedSet w m.address
  require (m.settings.isModuleHook sender = true) "Module not registered."
  let hooks ← AddressArrayUtils.removeStorage m.settings.moduleIssuanceHooks sender
  pure (m.setHooks hooks sender false)

/-- `try … catch`: the module at an address is left as it is when the call reverts, or when there is
no issuance module at the address. -/
def attempt (call : DebtIssuanceModule → Outcome DebtIssuanceModule) (issuance : IssuanceTable)
    (module : Address) : IssuanceTable :=
  match issuance module with
  | none => issuance
  | some settings =>
    match call ⟨module, settings⟩ with
    | .ok m => Function.update issuance module (some m.settings)
    | .error _ => issuance

/-- The loop of `initialize` in the modules that need a hook. -/
def registerToAll (issuance : IssuanceTable) (w : World) (sender : Address) : IssuanceTable :=
  w.setToken.modules.foldl (attempt fun m ↦ m.registerToIssuanceModule w sender) issuance

/-- The loop of `removeModule` in the modules that need a hook. -/
def unregisterFromAll (issuance : IssuanceTable) (w : World) (sender : Address) : IssuanceTable :=
  w.setToken.modules.foldl (attempt fun m ↦ m.unregisterFromIssuanceModule w sender) issuance

/-- `registerToModule` of the modules that need a hook: `sender` is the account that calls the
module, `module` the module that gets registered. -/
def registerToModule (issuance : IssuanceTable) (w : World) (module sender target : Address) :
    Outcome IssuanceTable := do
  validateOnlyManagerAndValidSet w module sender
  require (w.setToken.isInitializedModule target = true) "Issuance not initialized"
  match issuance target with
  | none => throw "function call to a contract without the function"
  | some settings => do
    let m ← (DebtIssuanceModule.mk target settings).registerToIssuanceModule w module
    pure (Function.update issuance target (some m.settings))

/-! ## Settings -/

/-- The source calls this function `initialize`.  The struct is written field by field except for the
mapping of hooks, which keeps its values. -/
def initializeSetToken (m : DebtIssuanceModule) (w : World) (env : Env)
    (maxManagerFee managerIssueFee managerRedeemFee : ℕ)
    (feeRecipient managerIssuanceHook : Address) : Outcome (DebtIssuanceModule × World) := do
  validateOnlySetManager w env.sender
  validateOnlyValidAndPendingSet w m.address
  require (managerIssueFee ≤ maxManagerFee) "Issue fee can't exceed maximum fee"
  require (managerRedeemFee ≤ maxManagerFee) "Redeem fee can't exceed maximum fee"
  let settings : IssuanceSettings := {
    maxManagerFee := maxManagerFee
    managerIssueFee := managerIssueFee
    managerRedeemFee := managerRedeemFee
    feeRecipient := feeRecipient
    managerIssuanceHook := managerIssuanceHook
    moduleIssuanceHooks := []
    isModuleHook := m.settings.isModuleHook }
  let w ← w.onSetToken fun s ↦ s.initializeModule m.address
  pure ({ m with settings := settings }, w)

/-- Deleting a struct does not delete the mapping inside it. -/
def removeModule (m : DebtIssuanceModule) : Outcome DebtIssuanceModule := do
  require (m.settings.moduleIssuanceHooks.length = 0) "Registered modules must be removed."
  let settings := { IssuanceSettings.empty with isModuleHook := m.settings.isModuleHook }
  pure { m with settings := settings }

def updateFeeRecipient (m : DebtIssuanceModule) (w : World) (env : Env)
    (newFeeRecipient : Address) : Outcome DebtIssuanceModule := do
  validateOnlyManagerAndValidSet w m.address env.sender
  require (newFeeRecipient ≠ 0) "Fee Recipient must be non-zero address."
  require (newFeeRecipient ≠ m.settings.feeRecipient) "Same fee recipient passed"
  let settings := { m.settings with feeRecipient := newFeeRecipient }
  pure { m with settings := settings }

def updateIssueFee (m : DebtIssuanceModule) (w : World) (env : Env) (newIssueFee : ℕ) :
    Outcome DebtIssuanceModule := do
  validateOnlyManagerAndValidSet w m.address env.sender
  require (newIssueFee ≤ m.settings.maxManagerFee) "Issue fee can't exceed maximum"
  require (newIssueFee ≠ m.settings.managerIssueFee) "Same issue fee passed"
  let settings := { m.settings with managerIssueFee := newIssueFee }
  pure { m with settings := settings }

def updateRedeemFee (m : DebtIssuanceModule) (w : World) (env : Env) (newRedeemFee : ℕ) :
    Outcome DebtIssuanceModule := do
  validateOnlyManagerAndValidSet w m.address env.sender
  require (newRedeemFee ≤ m.settings.maxManagerFee) "Redeem fee can't exceed maximum"
  require (newRedeemFee ≠ m.settings.managerRedeemFee) "Same redeem fee passed"
  let settings := { m.settings with managerRedeemFee := newRedeemFee }
  pure { m with settings := settings }

/-! ## Fees and units -/

def issuanceModuleProtocolFeeSplitIndex : ℕ := 0

/-- The fees are added on issue and subtracted on redeem. -/
def totalQuantity (quantity totalFee : ℕ) (isIssue : Bool) : Outcome ℕ :=
  if isIssue then SafeMath.add quantity totalFee else SafeMath.sub quantity totalFee

/-- Total quantity, manager fee and protocol fee. -/
def calculateTotalFees (m : DebtIssuanceModule) (w : World) (quantity : ℕ) (isIssue : Bool) :
    Outcome (ℕ × ℕ × ℕ) := do
  let protocolFeeSplit :=
    w.controller.getModuleFee m.address issuanceModuleProtocolFeeSplitIndex
  let totalFeeRate := if isIssue then m.settings.managerIssueFee else m.settings.managerRedeemFee
  let totalFee ← preciseMul totalFeeRate quantity
  let protocolFee ← preciseMul totalFee protocolFeeSplit
  let managerFee ← SafeMath.sub totalFee protocolFee
  let total ← totalQuantity quantity totalFee isIssue
  pure (total, managerFee, protocolFee)

/-- Cumulative equity and debt after one more external position. -/
def addExternalUnit (w : World) (component : Address) (units : ℤ × ℤ) (module : Address) :
    Outcome (ℤ × ℤ) := do
  let externalPositionUnit ← w.setToken.getExternalPositionRealUnit component module
  if 0 < externalPositionUnit then do
    let equity ← SignedSafeMath.add units.1 externalPositionUnit
    pure (equity, units.2)
  else do
    let debt ← SignedSafeMath.add units.2 externalPositionUnit
    pure (units.1, debt)

/-- One pass of the loop of `_getTotalIssuanceUnits`: the component with its equity and debt. -/
def componentIssuanceUnits (w : World) (component : Address) : Outcome (Address × ℕ × ℕ) := do
  let defaultUnit ← w.setToken.getDefaultPositionRealUnit component
  let units ← (w.setToken.externalPositionModules component).foldlM (addExternalUnit w component)
    (defaultUnit, 0)
  let equity ← SafeCast.toUint256 units.1
  let negated ← SignedSafeMath.mul units.2 (-1)
  let debt ← SafeCast.toUint256 negated
  pure (component, equity, debt)

def getTotalIssuanceUnits (w : World) : Outcome (List (Address × ℕ × ℕ)) :=
  w.setToken.components.mapM (componentIssuanceUnits w)

/-- Equity is rounded up on issue and down on redeem. -/
def equityQuantity (units quantity : ℕ) (isIssue : Bool) : Outcome ℕ :=
  if isIssue then preciseMulCeil units quantity else preciseMul units quantity

/-- Debt is rounded down on issue and up on redeem. -/
def debtQuantity (units quantity : ℕ) (isIssue : Bool) : Outcome ℕ :=
  if isIssue then preciseMul units quantity else preciseMulCeil units quantity

def requiredQuantities (quantity : ℕ) (isIssue : Bool) (entry : Address × ℕ × ℕ) :
    Outcome (Address × ℕ × ℕ) := do
  let equity ← equityQuantity entry.2.1 quantity isIssue
  let debt ← debtQuantity entry.2.2 quantity isIssue
  pure (entry.1, equity, debt)

/-- The components, each with its amounts of equity and of debt. -/
def calculateRequiredComponentIssuanceUnits (w : World) (quantity : ℕ) (isIssue : Bool) :
    Outcome (List (Address × ℕ × ℕ)) := do
  let units ← getTotalIssuanceUnits w
  units.mapM (requiredQuantities quantity isIssue)

def getRequiredComponentIssuanceUnits (m : DebtIssuanceModule) (w : World) (quantity : ℕ) :
    Outcome (List (Address × ℕ × ℕ)) := do
  let fees ← m.calculateTotalFees w quantity true
  calculateRequiredComponentIssuanceUnits w fees.1 true

def getRequiredComponentRedemptionUnits (m : DebtIssuanceModule) (w : World) (quantity : ℕ) :
    Outcome (List (Address × ℕ × ℕ)) := do
  let fees ← m.calculateTotalFees w quantity false
  calculateRequiredComponentIssuanceUnits w fees.1 false

/-! ## Fees in Sets -/

/-- The protocol's share of a fee, which is only minted when there is one. -/
def mintProtocolFee (m : DebtIssuanceModule) (w : World) (protocolFee : ℕ) : Outcome World :=
  if 0 < protocolFee then
    w.onSetToken fun s ↦ s.mint w.controller m.address w.controller.feeRecipient protocolFee
  else
    pure w

def resolveFees (m : DebtIssuanceModule) (w : World) (managerFee protocolFee : ℕ) :
    Outcome World :=
  if 0 < managerFee then do
    let w ← w.onSetToken fun s ↦
      s.mint w.controller m.address m.settings.feeRecipient managerFee
    m.mintProtocolFee w protocolFee
  else
    pure w

def callManagerPreIssueHooks (m : DebtIssuanceModule) (env : Env) (quantity : ℕ)
    (caller recipient : Address) : Outcome Unit :=
  if m.settings.managerIssuanceHook ≠ 0 then
    env.invokePreIssueHook m.settings.managerIssuanceHook quantity caller recipient
  else
    pure ()

/-! ## What the fees and the quantities are -/

variable {m : DebtIssuanceModule} {w w' : World} {quantity : ℕ} {isIssue : Bool}

/-- The rate of the manager's fee. -/
def totalFeeRate (m : DebtIssuanceModule) (isIssue : Bool) : ℕ :=
  if isIssue then m.settings.managerIssueFee else m.settings.managerRedeemFee

/-- The fee for a quantity of Sets, in Sets. -/
def totalFee (m : DebtIssuanceModule) (quantity : ℕ) (isIssue : Bool) : ℕ :=
  m.totalFeeRate isIssue * quantity / preciseUnit

/-- The share of the fees that goes to the protocol. -/
def protocolFeeSplit (m : DebtIssuanceModule) (w : World) : ℕ :=
  w.controller.getModuleFee m.address issuanceModuleProtocolFeeSplitIndex

/-- The fee is split without remainder; the total includes it on issue and excludes it on redeem. -/
theorem calculateTotalFees_ok {total managerFee protocolFee : ℕ}
    (h : m.calculateTotalFees w quantity isIssue = .ok (total, managerFee, protocolFee)) :
    managerFee + protocolFee = m.totalFee quantity isIssue ∧
      protocolFee = m.totalFee quantity isIssue * m.protocolFeeSplit w / preciseUnit ∧
      (if isIssue then total = quantity + m.totalFee quantity isIssue
        else total + m.totalFee quantity isIssue = quantity) := by
  simp only [calculateTotalFees, Outcome.bind_eq_ok, preciseMul_eq_ok, SafeMath.sub_eq_ok,
    Outcome.pure_eq_ok, Prod.mk.injEq] at h
  obtain ⟨_, ⟨-, rfl⟩, _, ⟨-, rfl⟩, _, ⟨hle, rfl⟩, _, htotal, rfl, rfl, rfl⟩ := h
  refine ⟨Nat.sub_add_cancel hle, rfl, ?_⟩
  unfold totalQuantity at htotal
  cases isIssue with
  | true =>
    simp only [if_true, SafeMath.add_eq_ok] at htotal ⊢
    exact htotal.2
  | false =>
    simp only [Bool.false_eq_true, if_false, SafeMath.sub_eq_ok] at htotal ⊢
    obtain ⟨hfee, rfl⟩ := htotal
    exact Nat.sub_add_cancel hfee

/-- Without external positions a component has its default unit as equity and no debt. -/
theorem componentIssuanceUnits_of_none {c : Address} {entry : Address × ℕ × ℕ}
    (hext : w.setToken.externalPositionModules c = [])
    (h : componentIssuanceUnits w c = .ok entry) :
    0 ≤ w.setToken.defaultRealUnit c ∧ entry = (c, (w.setToken.defaultRealUnit c).toNat, 0) := by
  simp only [componentIssuanceUnits, hext, List.foldlM_nil, Outcome.bind_eq_ok, Outcome.pure_eq_ok,
    SetToken.getDefaultPositionRealUnit_eq_ok, SafeCast.toUint256_eq_ok,
    SignedSafeMath.mul_eq_ok] at h
  obtain ⟨_, ⟨-, rfl⟩, _, rfl, equity, hequity, _, ⟨-, rfl⟩, debt, hdebt, rfl⟩ := h
  dsimp only at hequity hdebt
  refine ⟨by omega, ?_⟩
  rw [hequity, Int.toNat_natCast]
  congr 2
  omega

theorem debtQuantity_zero {debt : ℕ} (h : debtQuantity 0 quantity isIssue = .ok debt) :
    debt = 0 := by
  cases isIssue with
  | true =>
    simp only [debtQuantity, if_true, preciseMul_eq_ok, zero_mul, Nat.zero_div] at h
    exact h.2
  | false =>
    simp only [debtQuantity, Bool.false_eq_true, if_false, preciseMulCeil, true_or, if_true,
      Outcome.pure_eq_ok] at h
    exact h.symm

/-- A component without external positions among the required quantities. -/
structure DefaultOnly (w : World) (total : ℕ) (isIssue : Bool) (entry : Address × ℕ × ℕ) :
    Prop where
  mem : entry.1 ∈ w.setToken.components
  unit_nonneg : 0 ≤ w.setToken.defaultRealUnit entry.1
  equity : equityQuantity (w.setToken.defaultRealUnit entry.1).toNat total isIssue = .ok entry.2.1
  debt : entry.2.2 = 0

theorem requiredQuantities_of_none {total : ℕ} {c : Address} {units entry : Address × ℕ × ℕ}
    (hext : w.setToken.externalPositionModules c = []) (hc : c ∈ w.setToken.components)
    (hunits : componentIssuanceUnits w c = .ok units)
    (h : requiredQuantities total isIssue units = .ok entry) :
    entry.1 = c ∧ DefaultOnly w total isIssue entry := by
  obtain ⟨hnonneg, rfl⟩ := componentIssuanceUnits_of_none hext hunits
  simp only [requiredQuantities, Outcome.bind_eq_ok, Outcome.pure_eq_ok] at h
  obtain ⟨equity, hequity, debt, hdebt, rfl⟩ := h
  exact ⟨rfl, hc, hnonneg, hequity, debtQuantity_zero hdebt⟩

/-- The required quantities of a Set with default positions only. -/
theorem calculateRequiredComponentIssuanceUnits_of_none {total : ℕ}
    {required : List (Address × ℕ × ℕ)}
    (hext : ∀ c ∈ w.setToken.components, w.setToken.externalPositionModules c = [])
    (h : calculateRequiredComponentIssuanceUnits w total isIssue = .ok required) :
    (∀ entry ∈ required, DefaultOnly w total isIssue entry) ∧
      ∀ c ∈ w.setToken.components, ∃ entry ∈ required, entry.1 = c := by
  simp only [calculateRequiredComponentIssuanceUnits, getTotalIssuanceUnits,
    Outcome.bind_eq_ok] at h
  obtain ⟨units, hunits, hrequired⟩ := h
  refine ⟨?_, ?_⟩
  · intro entry hentry
    obtain ⟨u, hu, hquantities⟩ := Outcome.exists_of_mem_mapM hrequired hentry
    obtain ⟨c, hc, hcu⟩ := Outcome.exists_of_mem_mapM hunits hu
    exact (requiredQuantities_of_none (hext c hc) hc hcu hquantities).2
  · intro c hc
    obtain ⟨u, hu, hcu⟩ := Outcome.mapM_of_mem hunits hc
    obtain ⟨entry, hentry, hquantities⟩ := Outcome.mapM_of_mem hrequired hu
    exact ⟨entry, hentry, (requiredQuantities_of_none (hext c hc) hc hcu hquantities).1⟩

/-- The required quantities come in the order of the components. -/
theorem calculateRequiredComponentIssuanceUnits_fst {total : ℕ}
    {required : List (Address × ℕ × ℕ)}
    (h : calculateRequiredComponentIssuanceUnits w total isIssue = .ok required) :
    required.map Prod.fst = w.setToken.components := by
  simp only [calculateRequiredComponentIssuanceUnits, getTotalIssuanceUnits,
    Outcome.bind_eq_ok] at h
  obtain ⟨units, hunits, hrequired⟩ := h
  have hfirst : units.map Prod.fst = w.setToken.components.map id := by
    apply Outcome.map_eq_of_mapM ?_ hunits
    intro c u hu
    simp only [componentIssuanceUnits, Outcome.bind_eq_ok, Outcome.pure_eq_ok] at hu
    obtain ⟨_, -, _, -, _, -, _, -, _, -, rfl⟩ := hu
    rfl
  have hsecond : required.map Prod.fst = units.map Prod.fst := by
    apply Outcome.map_eq_of_mapM ?_ hrequired
    intro u entry hentry
    simp only [requiredQuantities, Outcome.bind_eq_ok, Outcome.pure_eq_ok] at hentry
    obtain ⟨_, -, _, -, rfl⟩ := hentry
    rfl
  rw [hsecond, hfirst, List.map_id]

theorem calculateRequiredComponentIssuanceUnits_nodup {total : ℕ}
    {required : List (Address × ℕ × ℕ)}
    (h : calculateRequiredComponentIssuanceUnits w total isIssue = .ok required)
    (hnodup : w.setToken.components.Nodup) : (required.map Prod.fst).Nodup := by
  rwa [calculateRequiredComponentIssuanceUnits_fst h]

theorem mem_components_of_required {total : ℕ} {required : List (Address × ℕ × ℕ)}
    {entry : Address × ℕ × ℕ}
    (h : calculateRequiredComponentIssuanceUnits w total isIssue = .ok required)
    (hentry : entry ∈ required) : entry.1 ∈ w.setToken.components := by
  rw [← calculateRequiredComponentIssuanceUnits_fst h]
  exact List.mem_map_of_mem hentry

/-- What rounding adds to a product of precise units on issue, and takes from it on redeem. -/
def rounding (product : ℕ) (isIssue : Bool) : ℕ :=
  if isIssue then (preciseUnit - product % preciseUnit) % preciseUnit else product % preciseUnit

theorem equityQuantity_rounding {units amount : ℕ}
    (h : equityQuantity units quantity isIssue = .ok amount) :
    if isIssue then amount * preciseUnit = units * quantity + rounding (units * quantity) true
    else amount * preciseUnit + rounding (units * quantity) false = units * quantity := by
  have hpos := preciseUnit_pos
  have hdiv := Nat.div_add_mod (units * quantity) preciseUnit
  have hmod := Nat.mod_lt (units * quantity) hpos
  cases isIssue with
  | true =>
    simp only [equityQuantity, if_true] at h ⊢
    rw [preciseMulCeil_eq_of_ok h, rounding, if_pos rfl]
    generalize units * quantity = product at *
    by_cases hexact : product % preciseUnit = 0
    · have hquotient : (product + preciseUnit - 1) / preciseUnit = product / preciseUnit := by
        apply Nat.div_eq_of_lt_le
        · rw [mul_comm]
          omega
        · rw [Nat.succ_mul, mul_comm]
          omega
      rw [hquotient, hexact, Nat.sub_zero, Nat.mod_self, mul_comm]
      omega
    · have hquotient : (product + preciseUnit - 1) / preciseUnit = product / preciseUnit + 1 := by
        apply Nat.div_eq_of_lt_le
        · rw [Nat.succ_mul, mul_comm]
          omega
        · rw [Nat.succ_mul, Nat.succ_mul, mul_comm]
          omega
      rw [hquotient, Nat.mod_eq_of_lt (by omega), Nat.succ_mul, mul_comm]
      omega
  | false =>
    simp only [equityQuantity, Bool.false_eq_true, if_false, preciseMul_eq_ok] at h ⊢
    rw [h.2, rounding, if_neg Bool.false_ne_true, mul_comm]
    exact hdiv

/-- The Sets that `resolveFees` mints: without a manager's fee, the protocol gets nothing either. -/
def mintedFees (managerFee protocolFee : ℕ) : ℕ :=
  if 0 < managerFee then managerFee + protocolFee else 0

theorem resolveFees_mintStep {managerFee protocolFee : ℕ}
    (h : m.resolveFees w managerFee protocolFee = .ok w') :
    MintStep w w' (mintedFees managerFee protocolFee) := by
  unfold resolveFees at h
  unfold mintedFees
  split_ifs at h ⊢ with hmanager
  · obtain ⟨v, hv, hprotocol⟩ := Outcome.bind_eq_ok.mp h
    unfold mintProtocolFee at hprotocol
    split_ifs at hprotocol with hpos
    · exact (mint_mintStep hv).trans (mint_mintStep hprotocol)
    · obtain rfl := Outcome.pure_eq_ok.mp hprotocol
      obtain rfl : protocolFee = 0 := by omega
      exact mint_mintStep hv
  · obtain rfl := Outcome.pure_eq_ok.mp h
    exact ⟨rfl, rfl, _, rfl, rfl, fun _ ↦ le_rfl⟩

theorem mintedFees_le (managerFee protocolFee : ℕ) :
    mintedFees managerFee protocolFee ≤ managerFee + protocolFee := by
  unfold mintedFees
  split_ifs <;> omega

/-- The part of the fee that is charged without being minted: all of it when the protocol takes the
whole fee. -/
def unmintedFee (m : DebtIssuanceModule) (w : World) (quantity : ℕ) (isIssue : Bool) : ℕ :=
  if m.protocolFeeSplit w < preciseUnit then 0 else m.totalFee quantity isIssue

theorem mintedFees_add_unmintedFee {total managerFee protocolFee : ℕ}
    (h : m.calculateTotalFees w quantity isIssue = .ok (total, managerFee, protocolFee)) :
    mintedFees managerFee protocolFee + m.unmintedFee w quantity isIssue =
      m.totalFee quantity isIssue := by
  obtain ⟨hsum, hprotocol, -⟩ := calculateTotalFees_ok h
  unfold mintedFees unmintedFee
  by_cases hsplit : m.protocolFeeSplit w < preciseUnit
  · rw [if_pos hsplit, add_zero]
    split_ifs with hmanager
    · exact hsum
    · by_contra hfee
      have hpos : 0 < m.totalFee quantity isIssue := Nat.pos_of_ne_zero fun hzero ↦ hfee hzero.symm
      have hless : protocolFee < m.totalFee quantity isIssue := by
        rw [hprotocol, Nat.div_lt_iff_lt_mul preciseUnit_pos]
        exact Nat.mul_lt_mul_of_pos_left hsplit hpos
      omega
  · have hall : m.totalFee quantity isIssue ≤ protocolFee := by
      rw [hprotocol, Nat.le_div_iff_mul_le preciseUnit_pos]
      exact Nat.mul_le_mul_left _ (not_lt.mp hsplit)
    have hmanager : ¬ 0 < managerFee := by omega
    rw [if_neg hsplit, if_neg hmanager, zero_add]

/-- Who gets the minted fees. -/
theorem resolveFees_balances {managerFee protocolFee : ℕ}
    (h : m.resolveFees w managerFee protocolFee = .ok w') (a : Address) :
    w'.setToken.erc20.balances a = w.setToken.erc20.balances a +
      if 0 < managerFee then
        (if a = m.settings.feeRecipient then managerFee else 0) +
          if a = w.controller.feeRecipient then protocolFee else 0
      else 0 := by
  unfold resolveFees at h
  by_cases hmanager : 0 < managerFee
  · rw [if_pos hmanager] at h ⊢
    obtain ⟨v, hv, hprotocol⟩ := Outcome.bind_eq_ok.mp h
    have hfirst := mint_balances hv a
    unfold mintProtocolFee at hprotocol
    split_ifs at hprotocol with hpos
    · have hsecond := mint_balances hprotocol a
      rw [(mint_mintStep hv).controller] at hsecond
      rw [hsecond, hfirst, add_assoc]
    · obtain rfl := Outcome.pure_eq_ok.mp hprotocol
      obtain rfl : protocolFee = 0 := by omega
      rw [hfirst, ite_self, add_zero]
  · rw [if_neg hmanager] at h ⊢
    rw [Outcome.pure_eq_ok.mp h, add_zero]

theorem calculateTotalFees_congr (h : w'.controller = w.controller) :
    m.calculateTotalFees w' quantity isIssue = m.calculateTotalFees w quantity isIssue := by
  unfold calculateTotalFees
  rw [h]

end DebtIssuanceModule

end SetProtocol
