import SetProtocol.System.DebtIssuanceModuleV2

/-!
# Conservation of issuance fees

Collateral is collected or paid out for one total quantity, while the Sets are minted in up to three
parts: the manager's fee, the protocol's fee and the quantity itself.  The parts add up to the total
unless the protocol takes the whole of a positive fee; the manager's fee is then zero and nothing of
the fee is minted.
-/

namespace SetProtocol

open PreciseUnitMath ModuleBase

namespace DebtIssuanceModule

variable {m : DebtIssuanceModule} {P P' : Protocol} {env : Env} {quantity : ℕ}
  {recipient : Address}

/-- `issue` up to the fees: returns the state with the manager's and the protocol's fee. -/
def issuePositions (m : DebtIssuanceModule) (P : Protocol) (env : Env) (quantity : ℕ)
    (recipient : Address) : Outcome (Protocol × ℕ × ℕ) := do
  validateOnlyValidAndInitializedSet P.world m.address
  require (0 < quantity) "Issue quantity must be > 0"
  m.callManagerPreIssueHooks env quantity env.sender recipient
  let P ← m.callModulePreIssueHooks P env quantity
  let (quantityWithFees, managerFee, protocolFee) ← m.calculateTotalFees P.world quantity true
  let required ← calculateRequiredComponentIssuanceUnits P.world quantityWithFees true
  let w ← m.resolveEquityPositions P env P.world quantityWithFees recipient true required
  let w ← m.resolveDebtPositions P env w quantityWithFees true required
  pure ({ P with world := w }, managerFee, protocolFee)

/-- `redeem` up to the fees. -/
def redeemPositions (m : DebtIssuanceModule) (P : Protocol) (env : Env) (quantity : ℕ)
    (recipient : Address) : Outcome (Protocol × ℕ × ℕ) := do
  validateOnlyValidAndInitializedSet P.world m.address
  require (0 < quantity) "Redeem quantity must be > 0"
  let P ← m.callModulePreRedeemHooks P env quantity
  let P ← m.burnQuantity P env quantity
  let (quantityNetFees, managerFee, protocolFee) ← m.calculateTotalFees P.world quantity false
  let required ← calculateRequiredComponentIssuanceUnits P.world quantityNetFees false
  let w ← m.resolveDebtPositions P env P.world quantityNetFees false required
  let w ← m.resolveEquityPositions P env w quantityNetFees recipient false required
  pure ({ P with world := w }, managerFee, protocolFee)

/-- The end of an issue: the fees and the quantity are minted. -/
def settleIssue (m : DebtIssuanceModule) (quantity : ℕ) (recipient : Address)
    (state : Protocol × ℕ × ℕ) : Outcome Protocol := do
  let w ← m.resolveFees state.1.world state.2.1 state.2.2
  let w ← w.onSetToken fun s ↦ s.mint w.controller m.address recipient quantity
  pure { state.1 with world := w }

/-- The end of a redemption: the fees are minted. -/
def settleRedeem (m : DebtIssuanceModule) (state : Protocol × ℕ × ℕ) : Outcome Protocol := do
  let w ← m.resolveFees state.1.world state.2.1 state.2.2
  pure { state.1 with world := w }

theorem issue_eq : m.issue P env quantity recipient =
    m.issuePositions P env quantity recipient >>= m.settleIssue quantity recipient := by
  simp only [issue, issuePositions, issueRequired, settleIssue, bind_assoc, pure_bind]

theorem redeem_eq : m.redeem P env quantity recipient =
    m.redeemPositions P env quantity recipient >>= m.settleRedeem := by
  simp only [redeem, redeemPositions, redeemRequired, settleRedeem, bind_assoc, pure_bind]

/-- What the positions leave before the fees are minted: the fees of the quantity, and the supply
before an issue or after the burn of a redemption. -/
structure Resolved (m : DebtIssuanceModule) (P P' : Protocol) (quantity managerFee protocolFee : ℕ)
    (isIssue : Bool) : Prop where
  fees : ∃ total, m.calculateTotalFees P.world quantity isIssue =
    .ok (total, managerFee, protocolFee)
  controller : P'.world.controller = P.world.controller
  supply : if isIssue then P'.world.setToken.totalSupply = P.world.setToken.totalSupply
    else P'.world.setToken.totalSupply + quantity = P.world.setToken.totalSupply

theorem burnQuantity_ok (h : m.burnQuantity P env quantity = .ok P') :
    P'.world.controller = P.world.controller ∧
      P'.world.setToken.totalSupply + quantity = P.world.setToken.totalSupply := by
  obtain ⟨hburn, -⟩ := Protocol.onWorld_ok h
  have hstep := burn_burnStep hburn
  exact ⟨hstep.controller, hstep.totalSupply⟩

theorem resolved_issue {w : World} {total : ℕ} {P₁ : Protocol} {managerFee protocolFee : ℕ}
    (hstatus : P.world.SameStatus w)
    (hfees : m.calculateTotalFees P.world quantity true = .ok (total, managerFee, protocolFee)) :
    Resolved m P { P₁ with world := w } quantity managerFee protocolFee true :=
  ⟨⟨total, hfees⟩, hstatus.controller, hstatus.totalSupply⟩

theorem resolved_redeem {w : World} {total : ℕ} {P₁ P₂ : Protocol} {managerFee protocolFee : ℕ}
    (hstatus : P.world.SameStatus P₁.world) (hburn : m.burnQuantity P₁ env quantity = .ok P₂)
    (hafter : P₂.world.SameStatus w)
    (hfees : m.calculateTotalFees P.world quantity false = .ok (total, managerFee, protocolFee)) :
    Resolved m P { P₂ with world := w } quantity managerFee protocolFee false := by
  obtain ⟨hcontroller, hsupply⟩ := burnQuantity_ok hburn
  refine ⟨⟨total, hfees⟩, ?_, ?_⟩
  · exact hafter.controller.trans (hcontroller.trans hstatus.controller)
  · change w.setToken.totalSupply + quantity = P.world.setToken.totalSupply
    rw [hafter.totalSupply, hsupply, hstatus.totalSupply]

variable {managerFee protocolFee : ℕ}

theorem issuePositions_resolved
    (h : m.issuePositions P env quantity recipient = .ok (P', managerFee, protocolFee)) :
    Resolved m P P' quantity managerFee protocolFee true := by
  simp only [issuePositions, Outcome.bind_eq_ok, Outcome.pure_eq_ok, Prod.exists,
    Prod.mk.injEq] at h
  obtain ⟨_, -, _, -, _, -, P₁, hpre, total, _, _, hfees, required, -, v, hequity, u, hdebt, rfl,
    rfl, rfl⟩ := h
  have hstatus := callModulePreIssueHooks_sameStatus hpre
  rw [calculateTotalFees_congr hstatus.controller] at hfees
  exact resolved_issue (hstatus.trans (((resolveEquityPositions_steady hequity).trans
    (resolveDebtPositions_steady hdebt)).sameStatus)) hfees

theorem redeemPositions_resolved
    (h : m.redeemPositions P env quantity recipient = .ok (P', managerFee, protocolFee)) :
    Resolved m P P' quantity managerFee protocolFee false := by
  simp only [redeemPositions, Outcome.bind_eq_ok, Outcome.pure_eq_ok, Prod.exists,
    Prod.mk.injEq] at h
  obtain ⟨_, -, _, -, P₁, hpre, P₂, hburn, total, _, _, hfees, required, -, v, hdebt, u, hequity,
    rfl, rfl, rfl⟩ := h
  have hstatus := callModulePreRedeemHooks_sameStatus hpre
  rw [calculateTotalFees_congr ((burnQuantity_ok hburn).1.trans hstatus.controller)] at hfees
  exact resolved_redeem hstatus hburn ((resolveDebtPositions_steady hdebt).trans
    (resolveEquityPositions_steady hequity)).sameStatus hfees

end DebtIssuanceModule

/-! ## The entry points of the three issuance modules -/

/-- The issuance module that is called; `SlippageIssuanceModule` takes limits for some components, and
the tokens of `DebtIssuanceModuleV2` may behave as they like. -/
inductive IssuanceEntry where
  | debt
  | debtV2 (tokens : TokenBehaviour)
  | slippage (checkedComponents : List Address) (tokenTransferLimits : List ℕ)

namespace SlippageIssuanceModule

open DebtIssuanceModule

/-- `issueWithSlippage` up to the fees. -/
def issuePositions (m : DebtIssuanceModule) (P : Protocol) (env : Env) (setQuantity : ℕ)
    (checkedComponents : List Address) (maxTokenAmountsIn : List ℕ) (recipient : Address) :
    Outcome (Protocol × ℕ × ℕ) := do
  validateOnlyValidAndInitializedSet P.world m.address
  validateInputs setQuantity checkedComponents maxTokenAmountsIn
  m.callManagerPreIssueHooks env setQuantity env.sender recipient
  let (quantityWithFees, managerFee, protocolFee) ←
    m.calculateTotalFees P.world setQuantity true
  let P ← m.callModulePreIssueHooks P env quantityWithFees
  let required ← calculateRequiredComponentIssuanceUnits P.world quantityWithFees true
  validateTokenTransferLimits checkedComponents maxTokenAmountsIn required true
  let w ← m.resolveEquityPositions P env P.world quantityWithFees recipient true required
  let w ← m.resolveDebtPositions P env w quantityWithFees true required
  pure ({ P with world := w }, managerFee, protocolFee)

/-- `redeemWithSlippage` up to the fees. -/
def redeemPositions (m : DebtIssuanceModule) (P : Protocol) (env : Env) (setQuantity : ℕ)
    (checkedComponents : List Address) (minTokenAmountsOut : List ℕ) (recipient : Address) :
    Outcome (Protocol × ℕ × ℕ) := do
  validateOnlyValidAndInitializedSet P.world m.address
  validateInputs setQuantity checkedComponents minTokenAmountsOut
  let (quantityNetFees, managerFee, protocolFee) ←
    m.calculateTotalFees P.world setQuantity false
  let P ← m.callModulePreRedeemHooks P env quantityNetFees
  let P ← m.burnQuantity P env setQuantity
  let required ← calculateRequiredComponentIssuanceUnits P.world quantityNetFees false
  validateTokenTransferLimits checkedComponents minTokenAmountsOut required false
  let w ← m.resolveDebtPositions P env P.world quantityNetFees false required
  let w ← m.resolveEquityPositions P env w quantityNetFees recipient false required
  pure ({ P with world := w }, managerFee, protocolFee)

variable {m : DebtIssuanceModule} {P : Protocol} {env : Env} {quantity : ℕ}
  {checked : List Address} {limits : List ℕ} {recipient : Address}

theorem issueWithSlippage_eq : issueWithSlippage m P env quantity checked limits recipient =
    issuePositions m P env quantity checked limits recipient >>=
      m.settleIssue quantity recipient := by
  simp only [issueWithSlippage, issuePositions, issueRequired, settleIssue, bind_assoc, pure_bind]

theorem redeemWithSlippage_eq : redeemWithSlippage m P env quantity checked limits recipient =
    redeemPositions m P env quantity checked limits recipient >>= m.settleRedeem := by
  simp only [redeemWithSlippage, redeemPositions, redeemRequired, settleRedeem, bind_assoc,
    pure_bind]

variable {P' : Protocol} {managerFee protocolFee : ℕ}

theorem issuePositions_resolved
    (h : issuePositions m P env quantity checked limits recipient =
      .ok (P', managerFee, protocolFee)) :
    Resolved m P P' quantity managerFee protocolFee true := by
  simp only [issuePositions, Outcome.bind_eq_ok, Outcome.pure_eq_ok, Prod.exists,
    Prod.mk.injEq] at h
  obtain ⟨_, -, _, -, _, -, total, _, _, hfees, P₁, hpre, required, -, _, -, v, hequity, u, hdebt,
    rfl, rfl, rfl⟩ := h
  have hstatus := callModulePreIssueHooks_sameStatus hpre
  exact resolved_issue (hstatus.trans (((resolveEquityPositions_steady hequity).trans
    (resolveDebtPositions_steady hdebt)).sameStatus)) hfees

theorem redeemPositions_resolved
    (h : redeemPositions m P env quantity checked limits recipient =
      .ok (P', managerFee, protocolFee)) :
    Resolved m P P' quantity managerFee protocolFee false := by
  simp only [redeemPositions, Outcome.bind_eq_ok, Outcome.pure_eq_ok, Prod.exists,
    Prod.mk.injEq] at h
  obtain ⟨_, -, _, -, total, _, _, hfees, P₁, hpre, P₂, hburn, required, -, _, -, v, hdebt, u,
    hequity, rfl, rfl, rfl⟩ := h
  have hstatus := callModulePreRedeemHooks_sameStatus hpre
  exact resolved_redeem hstatus hburn ((resolveDebtPositions_steady hdebt).trans
    (resolveEquityPositions_steady hequity)).sameStatus hfees

end SlippageIssuanceModule

namespace DebtIssuanceModuleV2

open DebtIssuanceModule

variable {m : DebtIssuanceModule} {tokens : TokenBehaviour} {P P' : Protocol} {env : Env}
  {quantity managerFee protocolFee : ℕ} {recipient : Address}

theorem issuePositions_resolved
    (h : issuePositions m tokens P env quantity recipient = .ok (P', managerFee, protocolFee)) :
    Resolved m P P' quantity managerFee protocolFee true := by
  simp only [issuePositions, Outcome.bind_eq_ok, Outcome.pure_eq_ok, Prod.exists,
    Prod.mk.injEq] at h
  obtain ⟨_, -, _, -, _, -, P₁, hpre, total, _, _, hfees, required, -, _, -, v, hequity, u, hdebt,
    rfl, rfl, rfl⟩ := h
  have hstatus := callModulePreIssueHooks_sameStatus hpre
  rw [calculateTotalFees_congr hstatus.controller] at hfees
  exact resolved_issue (hstatus.trans ((resolveEquityPositions_steady hequity).trans
    (resolveDebtPositions_steady hdebt)).sameStatus) hfees

theorem redeemPositions_resolved
    (h : redeemPositions m tokens P env quantity recipient = .ok (P', managerFee, protocolFee)) :
    Resolved m P P' quantity managerFee protocolFee false := by
  simp only [redeemPositions, Outcome.bind_eq_ok, Outcome.pure_eq_ok, Prod.exists,
    Prod.mk.injEq] at h
  obtain ⟨_, -, _, -, P₁, hpre, P₂, hburn, total, _, _, hfees, required, -, _, -, v, hdebt, u,
    hequity, rfl, rfl, rfl⟩ := h
  have hstatus := callModulePreRedeemHooks_sameStatus hpre
  rw [calculateTotalFees_congr ((burnQuantity_ok hburn).1.trans hstatus.controller)] at hfees
  exact resolved_redeem hstatus hburn ((resolveDebtPositions_steady hdebt).trans
    (resolveEquityPositions_steady hequity)).sameStatus hfees

end DebtIssuanceModuleV2

namespace IssuanceEntry

/-- The entry point for issuing or for redeeming. -/
def execute (entry : IssuanceEntry) (m : DebtIssuanceModule) (P : Protocol) (env : Env)
    (quantity : ℕ) (recipient : Address) (isIssue : Bool) : Outcome Protocol :=
  match entry, isIssue with
  | debt, true => m.issue P env quantity recipient
  | debt, false => m.redeem P env quantity recipient
  | debtV2 tokens, true => DebtIssuanceModuleV2.issue m tokens P env quantity recipient
  | debtV2 tokens, false => DebtIssuanceModuleV2.redeem m tokens P env quantity recipient
  | slippage checked limits, true =>
      SlippageIssuanceModule.issueWithSlippage m P env quantity checked limits recipient
  | slippage checked limits, false =>
      SlippageIssuanceModule.redeemWithSlippage m P env quantity checked limits recipient

/-- The entry point up to the fees. -/
def positions (entry : IssuanceEntry) (m : DebtIssuanceModule) (P : Protocol) (env : Env)
    (quantity : ℕ) (recipient : Address) (isIssue : Bool) : Outcome (Protocol × ℕ × ℕ) :=
  match entry, isIssue with
  | debt, true => m.issuePositions P env quantity recipient
  | debt, false => m.redeemPositions P env quantity recipient
  | debtV2 tokens, true => DebtIssuanceModuleV2.issuePositions m tokens P env quantity recipient
  | debtV2 tokens, false => DebtIssuanceModuleV2.redeemPositions m tokens P env quantity recipient
  | slippage checked limits, true =>
      SlippageIssuanceModule.issuePositions m P env quantity checked limits recipient
  | slippage checked limits, false =>
      SlippageIssuanceModule.redeemPositions m P env quantity checked limits recipient

/-- The end of the entry point. -/
def settle (m : DebtIssuanceModule) (quantity : ℕ) (recipient : Address) (isIssue : Bool)
    (state : Protocol × ℕ × ℕ) : Outcome Protocol :=
  if isIssue then m.settleIssue quantity recipient state else m.settleRedeem state

variable {entry : IssuanceEntry} {m : DebtIssuanceModule} {P P' : Protocol} {env : Env}
  {quantity managerFee protocolFee : ℕ} {recipient : Address} {isIssue : Bool}

theorem execute_eq : entry.execute m P env quantity recipient isIssue =
    entry.positions m P env quantity recipient isIssue >>= settle m quantity recipient isIssue := by
  cases entry with
  | debt =>
    cases isIssue with
    | true => exact DebtIssuanceModule.issue_eq
    | false => exact DebtIssuanceModule.redeem_eq
  | debtV2 tokens =>
    cases isIssue with
    | true => rfl
    | false => rfl
  | slippage checked limits =>
    cases isIssue with
    | true => exact SlippageIssuanceModule.issueWithSlippage_eq
    | false => exact SlippageIssuanceModule.redeemWithSlippage_eq

theorem positions_resolved
    (h : entry.positions m P env quantity recipient isIssue = .ok (P', managerFee, protocolFee)) :
    m.Resolved P P' quantity managerFee protocolFee isIssue := by
  cases entry with
  | debt =>
    cases isIssue with
    | true => exact DebtIssuanceModule.issuePositions_resolved h
    | false => exact DebtIssuanceModule.redeemPositions_resolved h
  | debtV2 tokens =>
    cases isIssue with
    | true => exact DebtIssuanceModuleV2.issuePositions_resolved h
    | false => exact DebtIssuanceModuleV2.redeemPositions_resolved h
  | slippage checked limits =>
    cases isIssue with
    | true => exact SlippageIssuanceModule.issuePositions_resolved h
    | false => exact SlippageIssuanceModule.redeemPositions_resolved h

/-- A successful entry point moves its positions with the fees that are calculated, and settles them. -/
theorem execute_ok (h : entry.execute m P env quantity recipient isIssue = .ok P') :
    ∃ v managerFee protocolFee,
      entry.positions m P env quantity recipient isIssue = .ok (v, managerFee, protocolFee) ∧
      settle m quantity recipient isIssue (v, managerFee, protocolFee) = .ok P' := by
  rw [execute_eq] at h
  simpa only [Outcome.bind_eq_ok, Prod.exists] using h

theorem execute_ok_of_fees {total : ℕ}
    (h : entry.execute m P env quantity recipient isIssue = .ok P')
    (hfees : m.calculateTotalFees P.world quantity isIssue = .ok (total, managerFee, protocolFee)) :
    ∃ v, entry.positions m P env quantity recipient isIssue = .ok (v, managerFee, protocolFee) ∧
      settle m quantity recipient isIssue (v, managerFee, protocolFee) = .ok P' := by
  obtain ⟨v, managerFee', protocolFee', hpositions, hsettle⟩ := execute_ok h
  obtain ⟨total', hfees'⟩ := (positions_resolved hpositions).fees
  obtain ⟨-, rfl, rfl⟩ : total = total' ∧ managerFee = managerFee' ∧ protocolFee = protocolFee' := by
    simpa [hfees] using hfees'
  exact ⟨v, hpositions, hsettle⟩

/-- The fees are split without remainder, both parts are minted in full to their recipients, and the
supply changes by the total quantity that collateral was moved for. -/
def FeesConserved (entry : IssuanceEntry) (m : DebtIssuanceModule) (P P' : Protocol) (env : Env)
    (quantity : ℕ) (recipient : Address) (isIssue : Bool) : Prop :=
  ∃ (v : Protocol) (total managerFee protocolFee : ℕ),
    entry.positions m P env quantity recipient isIssue = .ok (v, managerFee, protocolFee) ∧
    m.calculateTotalFees P.world quantity isIssue = .ok (total, managerFee, protocolFee) ∧
    managerFee + protocolFee = m.totalFee quantity isIssue ∧
    (if isIssue then P'.world.setToken.totalSupply = P.world.setToken.totalSupply + total
      else P'.world.setToken.totalSupply + total = P.world.setToken.totalSupply) ∧
    ∀ a, P'.world.setToken.erc20.balances a = v.world.setToken.erc20.balances a +
      (if a = m.settings.feeRecipient then managerFee else 0) +
      (if a = P.world.controller.feeRecipient then protocolFee else 0) +
      (if isIssue = true ∧ a = recipient then quantity else 0)

/-- The state after the fees and the quantity are minted. -/
theorem settle_ok {v : Protocol}
    (h : settle m quantity recipient isIssue (v, managerFee, protocolFee) = .ok P') :
    P'.world.setToken.totalSupply = v.world.setToken.totalSupply +
        DebtIssuanceModule.mintedFees managerFee protocolFee + (if isIssue then quantity else 0) ∧
      ∀ a, P'.world.setToken.erc20.balances a = v.world.setToken.erc20.balances a +
        (if 0 < managerFee then
          (if a = m.settings.feeRecipient then managerFee else 0) +
            if a = v.world.controller.feeRecipient then protocolFee else 0
          else 0) + (if isIssue = true ∧ a = recipient then quantity else 0) := by
  unfold settle at h
  cases isIssue with
  | true =>
    simp only [if_true, DebtIssuanceModule.settleIssue, Outcome.bind_eq_ok,
      Outcome.pure_eq_ok] at h
    obtain ⟨u, hfees, w', hmint, rfl⟩ := h
    refine ⟨?_, ?_⟩
    · simp only [if_true]
      rw [(mint_mintStep hmint).totalSupply,
        (DebtIssuanceModule.resolveFees_mintStep hfees).totalSupply]
    · intro a
      simp only [true_and]
      rw [mint_balances hmint, DebtIssuanceModule.resolveFees_balances hfees]
  | false =>
    simp only [Bool.false_eq_true, if_false, DebtIssuanceModule.settleRedeem, Outcome.bind_eq_ok,
      Outcome.pure_eq_ok] at h
    obtain ⟨u, hfees, rfl⟩ := h
    refine ⟨?_, ?_⟩
    · simp only [Bool.false_eq_true, if_false, add_zero]
      rw [(DebtIssuanceModule.resolveFees_mintStep hfees).totalSupply]
    · intro a
      simp only [Bool.false_eq_true, false_and, if_false, add_zero]
      rw [DebtIssuanceModule.resolveFees_balances hfees]

/-- The manager's share of a positive fee is positive exactly when the protocol does not take all. -/
theorem managerFee_pos_iff {total : ℕ}
    (h : m.calculateTotalFees P.world quantity isIssue = .ok (total, managerFee, protocolFee))
    (hsplit : m.protocolFeeSplit P.world ≤ preciseUnit) :
    0 < managerFee ↔
      m.protocolFeeSplit P.world < preciseUnit ∧ 0 < m.totalFee quantity isIssue := by
  obtain ⟨hsum, hprotocol, -⟩ := DebtIssuanceModule.calculateTotalFees_ok h
  constructor
  · intro hpos
    refine ⟨lt_of_le_of_ne hsplit ?_, by omega⟩
    intro hall
    rw [hall, Nat.mul_div_cancel _ preciseUnit_pos] at hprotocol
    omega
  · intro ⟨hlt, hpos⟩
    have hless : protocolFee < m.totalFee quantity isIssue := by
      rw [hprotocol, Nat.div_lt_iff_lt_mul preciseUnit_pos]
      exact Nat.mul_lt_mul_of_pos_left hlt hpos
    omega

/-- The whole fee is minted exactly when the manager gets a share or there is no fee at all. -/
theorem mintedFees_eq_iff {total : ℕ}
    (h : m.calculateTotalFees P.world quantity isIssue = .ok (total, managerFee, protocolFee))
    (hsplit : m.protocolFeeSplit P.world ≤ preciseUnit) :
    DebtIssuanceModule.mintedFees managerFee protocolFee = managerFee + protocolFee ↔
      m.protocolFeeSplit P.world < preciseUnit ∨ m.totalFee quantity isIssue = 0 := by
  obtain ⟨hsum, -, -⟩ := DebtIssuanceModule.calculateTotalFees_ok h
  have hmanager := managerFee_pos_iff h hsplit
  unfold DebtIssuanceModule.mintedFees
  split_ifs with hpos
  · exact iff_of_true rfl (Or.inl (hmanager.mp hpos).1)
  · constructor
    · intro hnone
      exact Or.inr (hsum.symm.trans hnone.symm)
    · rintro (hlt | hfee)
      · have hfee : ¬ 0 < m.totalFee quantity isIssue := fun hpos' ↦ hpos (hmanager.mpr ⟨hlt, hpos'⟩)
        omega
      · omega

namespace FeeSample

/-- A fee of 1% on issue and on redeem, of which the protocol takes the share `split`.  One Set has
unit 5 of component 7. -/
def before (split : ℕ) : Protocol :=
  .idle {
    controller := { Controller.enabling 4 [20] with
      isSet := fun a ↦ a == 6, fees := fun _ _ ↦ split }
    setToken := SetToken.launched 6 [7] [5] [20] 2 9 (2 * 10 ^ 18)
    chain := { tokens := fun _ ↦ ERC20.holding 18 [(6, 10), (9, 100)] 1000 }
    log := [] }

def module : DebtIssuanceModule :=
  ⟨20, { IssuanceSettings.empty with
    maxManagerFee := 10 ^ 17, managerIssueFee := 10 ^ 16, managerRedeemFee := 10 ^ 16,
    feeRecipient := 5 }⟩

def issued (split : ℕ) : Outcome Protocol :=
  execute .debt module (before split) (Env.plain 9 0) (10 ^ 18) 9 true

end FeeSample

end IssuanceEntry

end SetProtocol
