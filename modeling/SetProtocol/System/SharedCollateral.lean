import SetProtocol.System.IssuanceFees

/-!
# A default position that shares its component with a Perp account

The collateral token of Perp may at the same time be a default position.  `SlippageIssuanceModule`
moves the amount for both units together and rounds it once; the component hook of Perp moves its
share into or out of the vault and rounds that again.  What is left for the default position is the
difference of two rounded amounts.
-/

namespace SetProtocol

open PreciseUnitMath ModuleBase

/-- What the contracts outside the protocol do to the balance that the SetToken has of the collateral
token: the vault takes and gives exact amounts, trades are virtual, and interest of a Compound market
is not paid in the token. -/
structure VaultSpec (env : Env) (perp : PerpV2LeverageModuleV2) (setToken : Address) : Prop where
  deposit : ∀ amount chain chain',
    env.call ⟨perp.perpVault, 0, .vaultDeposit perp.collateralToken amount⟩ chain = .ok chain' →
    (chain'.tokens perp.collateralToken).balances setToken + amount =
      (chain.tokens perp.collateralToken).balances setToken
  withdraw : ∀ amount chain chain',
    env.call ⟨perp.perpVault, 0, .vaultWithdraw perp.collateralToken amount⟩ chain = .ok chain' →
    (chain'.tokens perp.collateralToken).balances setToken =
      (chain.tokens perp.collateralToken).balances setToken + amount
  trade : ∀ action,
    World.Leaves env perp.collateralToken setToken (perp.openPositionCall action)
  accrue : ∀ cToken chain,
    ((env.accrueInterest cToken chain).tokens perp.collateralToken).balances setToken =
      (chain.tokens perp.collateralToken).balances setToken

namespace PerpV2LeverageModuleV2

variable {m m' : PerpV2LeverageModuleV2} {w w' : World} {env : Env} {quantity : ℕ}

theorem SameContracts.vaultSpec {setToken : Address} (h : m.SameContracts m')
    (hvault : VaultSpec env m setToken) : VaultSpec env m' setToken := by
  constructor
  · rw [h.perpVault, h.collateralToken]
    exact hvault.deposit
  · rw [h.perpVault, h.collateralToken]
    exact hvault.withdraw
  · intro action
    rw [h.collateralToken, openPositionCall, h.perpClearingHouse]
    exact hvault.trade action
  · rw [h.collateralToken]
    exact hvault.accrue

theorem invokeDeposit_balance (hvault : VaultSpec env m w.setToken.address)
    (hforeign : m.collateralToken ≠ w.setToken.address)
    (h : m.invokeDeposit w env quantity = .ok w') :
    w'.balance m.collateralToken + quantity = w.balance m.collateralToken := by
  simp only [invokeDeposit, Outcome.bind_eq_ok] at h
  obtain ⟨v, happrove, hdeposit⟩ := h
  obtain ⟨hstep, hbalance⟩ := World.invokeApprove_balance happrove hforeign
  simp only [World.invoke, World.execute, Outcome.bind_eq_ok, Outcome.pure_eq_ok] at hdeposit
  obtain ⟨_, -, _, ⟨chain, hchain, rfl⟩, rfl⟩ := hdeposit
  have hmoved := hvault.deposit quantity v.chain chain hchain
  rw [← hbalance]
  simpa only [World.balance, World.erc20, hstep.setToken, hforeign, if_false] using hmoved

theorem invokeWithdraw_balance (hvault : VaultSpec env m w.setToken.address)
    (hforeign : m.collateralToken ≠ w.setToken.address)
    (h : m.invokeWithdraw w env quantity = .ok w') :
    w'.balance m.collateralToken = w.balance m.collateralToken + quantity := by
  unfold invokeWithdraw at h
  split_ifs at h with hzero
  · obtain rfl := Outcome.pure_eq_ok.mp h
    rw [hzero, add_zero]
  · simp only [World.invoke, World.execute, Outcome.bind_eq_ok, Outcome.pure_eq_ok] at h
    obtain ⟨_, -, _, ⟨chain, hchain, rfl⟩, rfl⟩ := h
    have hmoved := hvault.withdraw quantity w.chain chain hchain
    simpa only [World.balance, World.erc20, hforeign, if_false] using hmoved

end PerpV2LeverageModuleV2

/-- A Set whose collateral token has the default unit `d` and Perp's unit `e`, and whose other
components have hooks that do not touch the token. -/
structure SharedCollateral (env : Env) (P : Protocol) (d e : ℕ) : Prop where
  foreign : P.perp.collateralToken ≠ P.world.setToken.address
  aave : P.perp.address ≠ P.aave.address
  compound : P.perp.address ≠ P.compound.address
  component : P.perp.collateralToken ∈ P.world.setToken.components
  nodup : P.world.setToken.components.Nodup
  modules : P.world.setToken.externalPositionModules P.perp.collateralToken = [P.perp.address]
  defaultUnit : P.world.setToken.defaultRealUnit P.perp.collateralToken = d
  externalUnit :
    P.world.setToken.externalRealUnit P.perp.collateralToken P.perp.address = e
  defaultUnit_pos : 0 < d
  externalUnit_pos : 0 < e
  others : ∀ c ∈ P.world.setToken.components, c ≠ P.perp.collateralToken →
    ∀ hook ∈ P.world.setToken.externalPositionModules c, P.HookCalls
      (World.Leaves env P.perp.collateralToken P.world.setToken.address) c hook

namespace SharedCollateral

open DebtIssuanceModule

variable {m : DebtIssuanceModule} {P : Protocol} {env : Env} {d e total : ℕ} {w v v' : World}
  {recipient : Address} {isIssue : Bool} {entry : Address × ℕ × ℕ}
  {required : List (Address × ℕ × ℕ)}

theorem of_erc20 {t : ERC20} (h : SharedCollateral env P d e)
    (hw : w.setToken = P.world.setToken.setErc20 t) :
    SharedCollateral env { P with world := w } d e := by
  obtain ⟨controller, s, chain, log, transfers⟩ := w
  obtain rfl : s = P.world.setToken.setErc20 t := hw
  refine ⟨h.foreign, h.aave, h.compound, h.component, h.nodup, h.modules, h.defaultUnit,
    h.externalUnit, h.defaultUnit_pos, h.externalUnit_pos, ?_⟩
  intro c hc hne hook hhook
  obtain ⟨haave, hcompound, hperp, hstaking⟩ := h.others c hc hne hook hhook
  exact ⟨haave, hcompound, hperp, hstaking⟩

/-- The units of the collateral token are added up. -/
theorem componentIssuanceUnits_eq (h : SharedCollateral env P d e)
    (hunits : componentIssuanceUnits P.world P.perp.collateralToken = .ok entry) :
    entry = (P.perp.collateralToken, d + e, 0) := by
  simp only [componentIssuanceUnits, h.modules, List.foldlM_cons, List.foldlM_nil, addExternalUnit,
    Outcome.bind_eq_ok, Outcome.pure_eq_ok, SetToken.getDefaultPositionRealUnit_eq_ok,
    SetToken.getExternalPositionRealUnit_eq_ok, SafeCast.toUint256_eq_ok,
    SignedSafeMath.mul_eq_ok] at hunits
  obtain ⟨_, ⟨-, rfl⟩, units, ⟨_, ⟨_, ⟨-, rfl⟩, hadd⟩, rfl⟩, equity, hequity, _, ⟨-, rfl⟩, debt,
    hdebt, rfl⟩ := hunits
  have hpos : (0 : ℤ) < e := by exact_mod_cast h.externalUnit_pos
  rw [h.externalUnit, h.defaultUnit, if_pos hpos] at hadd
  simp only [Outcome.bind_eq_ok, SignedSafeMath.add_eq_ok, Outcome.pure_eq_ok] at hadd
  obtain ⟨_, ⟨-, rfl⟩, rfl⟩ := hadd
  dsimp only at hequity hdebt
  have hsum : equity = d + e := by omega
  have hnone : debt = 0 := by omega
  rw [hsum, hnone]

/-- The entry of the collateral token among the required quantities. -/
theorem required_entry (h : SharedCollateral env P d e)
    (hrequired : calculateRequiredComponentIssuanceUnits P.world total isIssue = .ok required) :
    ∃ amount, (P.perp.collateralToken, amount, 0) ∈ required ∧
      equityQuantity (d + e) total isIssue = .ok amount := by
  simp only [calculateRequiredComponentIssuanceUnits, getTotalIssuanceUnits,
    Outcome.bind_eq_ok] at hrequired
  obtain ⟨units, hunits, hrequired⟩ := hrequired
  obtain ⟨u, hu, hcu⟩ := Outcome.mapM_of_mem hunits h.component
  obtain ⟨entry, hentry, hquantities⟩ := Outcome.mapM_of_mem hrequired hu
  rw [h.componentIssuanceUnits_eq hcu] at hquantities
  simp only [requiredQuantities, Outcome.bind_eq_ok, Outcome.pure_eq_ok] at hquantities
  obtain ⟨amount, hamount, debt, hdebt, rfl⟩ := hquantities
  rw [debtQuantity_zero hdebt] at hentry
  exact ⟨amount, hentry, hamount⟩

/-! ## The balance of the collateral token -/

/-- The hook moves the rounded share of Perp's unit. -/
theorem componentHook_balance (h : SharedCollateral env P d e)
    (hvault : VaultSpec env P.perp P.world.setToken.address) (hsteady : P.world.Steady v)
    (hhook : P.componentHook env m.address total P.perp.collateralToken isIssue true v
      P.perp.address = .ok v') :
    ∃ share, equityQuantity total e isIssue = .ok share ∧
      if isIssue then
        v'.balance P.perp.collateralToken + share = v.balance P.perp.collateralToken
      else v'.balance P.perp.collateralToken = v.balance P.perp.collateralToken + share := by
  rw [← hsteady.address] at hvault
  have hforeign : P.perp.collateralToken ≠ v.setToken.address := by
    rw [hsteady.address]
    exact h.foreign
  have hunit : v.setToken.externalRealUnit P.perp.collateralToken P.perp.address = e := by
    rw [hsteady.externalRealUnit, h.externalUnit]
  cases isIssue with
  | true =>
    simp only [Protocol.componentHook, Protocol.componentIssueHook, h.aave, h.compound, if_true,
      if_false, PerpV2LeverageModuleV2.componentIssueHook, Outcome.bind_eq_ok,
      SetToken.getExternalPositionRealUnit_eq_ok, SafeCast.toUint256_eq_ok] at hhook
    obtain ⟨_, -, _, ⟨-, rfl⟩, unit, hcast, share, hshare, hdeposit⟩ := hhook
    rw [hunit] at hcast
    obtain rfl : e = unit := by exact_mod_cast hcast
    exact ⟨share, hshare, PerpV2LeverageModuleV2.invokeDeposit_balance hvault hforeign hdeposit⟩
  | false =>
    simp only [Protocol.componentHook, Protocol.componentRedeemHook, h.aave, h.compound,
      Bool.false_eq_true, if_true, if_false, PerpV2LeverageModuleV2.componentRedeemHook,
      Outcome.bind_eq_ok, SetToken.getExternalPositionRealUnit_eq_ok,
      SafeCast.toUint256_eq_ok] at hhook
    obtain ⟨_, -, _, ⟨-, rfl⟩, unit, hcast, share, hshare, hwithdraw⟩ := hhook
    rw [hunit] at hcast
    obtain rfl : e = unit := by exact_mod_cast hcast
    exact ⟨share, hshare, PerpV2LeverageModuleV2.invokeWithdraw_balance hvault hforeign hwithdraw⟩

/-- How the balance changes from `b` to `b'`: by the default unit's share, up to what the two
roundings differ by. -/
def Change (d e total : ℕ) (isIssue : Bool) (b b' : ℕ) : Prop :=
  if isIssue then
    b' * preciseUnit + rounding (e * total) true =
      b * preciseUnit + d * total + rounding ((d + e) * total) true
  else
    b' * preciseUnit + d * total + rounding (e * total) false =
      b * preciseUnit + rounding ((d + e) * total) false

theorem change_of_amounts {b b' amount share : ℕ}
    (hamount : equityQuantity (d + e) total isIssue = .ok amount)
    (hshare : equityQuantity total e isIssue = .ok share)
    (hbalance : if isIssue then b' + share = b + amount else b' + amount = b + share) :
    Change d e total isIssue b b' := by
  have hboth := equityQuantity_rounding hamount
  have hperp := equityQuantity_rounding hshare
  rw [mul_comm total e] at hperp
  unfold Change
  cases isIssue with
  | true =>
    simp only [if_true] at *
    have hscaled := congrArg (· * preciseUnit) hbalance
    simp only [add_mul] at hscaled hboth ⊢
    omega
  | false =>
    simp only [Bool.false_eq_true, if_false] at *
    have hscaled := congrArg (· * preciseUnit) hbalance
    simp only [add_mul] at hscaled hboth ⊢
    omega

/-- Nothing is moved only if both shares round to nothing. -/
theorem change_of_zero (h : SharedCollateral env P d e)
    (hamount : equityQuantity (d + e) total isIssue = .ok 0) (b : ℕ) :
    Change d e total isIssue b b := by
  have hboth := equityQuantity_rounding hamount
  unfold Change
  cases isIssue with
  | true =>
    simp only [if_true, zero_mul] at hboth ⊢
    have hd := h.defaultUnit_pos
    have htotal : total = 0 := by
      rcases Nat.mul_eq_zero.mp (Nat.eq_zero_of_add_eq_zero_right hboth.symm) with hzero | hzero
      · omega
      · exact hzero
    simp only [htotal, mul_zero, add_zero]
  | false =>
    simp only [Bool.false_eq_true, if_false, zero_mul, zero_add] at hboth ⊢
    have hsmall : (d + e) * total < preciseUnit := by
      rw [← hboth]
      exact Nat.mod_lt _ preciseUnit_pos
    have hshare : rounding (e * total) false = e * total := by
      apply Nat.mod_eq_of_lt
      rw [add_mul] at hsmall
      omega
    rw [hboth, hshare, add_mul]
    omega

theorem resolveEquityPosition_change {amount : ℕ} (h : SharedCollateral env P d e)
    (hvault : VaultSpec env P.perp P.world.setToken.address) (hsteady : P.world.Steady v)
    (hamount : equityQuantity (d + e) total isIssue = .ok amount)
    (hpass : m.resolveEquityPosition P env total recipient isIssue v
      (P.perp.collateralToken, amount, 0) = .ok v') :
    Change d e total isIssue (v.balance P.perp.collateralToken)
      (v'.balance P.perp.collateralToken) := by
  unfold resolveEquityPosition at hpass
  dsimp only at hpass
  split_ifs at hpass with hpos hissue
  · obtain ⟨u, htransfer, hhooks⟩ := Outcome.bind_eq_ok.mp hpass
    have hmoved := World.explicitTransferFrom_received htransfer
    have hu : v.Steady u := .of_move (World.explicitTransferFrom_moveStep htransfer).1
    subst hissue
    rw [executeExternalPositionHooks_eq, (hsteady.trans hu).externalPositionModules,
      h.modules] at hhooks
    simp only [List.foldlM_cons, List.foldlM_nil, Outcome.bind_eq_ok, Outcome.pure_eq_ok] at hhooks
    obtain ⟨_, hhook, rfl⟩ := hhooks
    obtain ⟨share, hshare, hbalance⟩ := h.componentHook_balance hvault (hsteady.trans hu) hhook
    apply change_of_amounts hamount hshare
    rw [if_pos rfl] at hbalance ⊢
    omega
  · obtain ⟨u, hhooks, htransfer⟩ := Outcome.bind_eq_ok.mp hpass
    obtain ⟨-, hle, hmoved⟩ := World.strictInvokeTransfer_moveStep htransfer
    obtain rfl := Bool.eq_false_of_not_eq_true hissue
    rw [executeExternalPositionHooks_eq, hsteady.externalPositionModules, h.modules] at hhooks
    simp only [List.foldlM_cons, List.foldlM_nil, Outcome.bind_eq_ok, Outcome.pure_eq_ok] at hhooks
    obtain ⟨_, hhook, rfl⟩ := hhooks
    obtain ⟨share, hshare, hbalance⟩ := h.componentHook_balance hvault hsteady hhook
    apply change_of_amounts hamount hshare
    rw [if_neg hissue] at hbalance ⊢
    omega
  · obtain rfl := Outcome.pure_eq_ok.mp hpass
    obtain rfl : amount = 0 := by omega
    exact h.change_of_zero hamount _

/-- The hooks of another component do not touch the collateral token. -/
theorem executeExternalPositionHooks_balance {c : Address} {isEquity : Bool}
    (h : SharedCollateral env P d e) (hsteady : P.world.Steady v)
    (hc : c ∈ P.world.setToken.components) (hne : c ≠ P.perp.collateralToken)
    (hhooks : m.executeExternalPositionHooks P env v total c isIssue isEquity = .ok v') :
    v'.balance P.perp.collateralToken = v.balance P.perp.collateralToken := by
  apply (executeExternalPositionHooks_calls ?_ hhooks).balance hsteady.address
  intro hook hhook
  rw [hsteady.externalPositionModules] at hhook
  exact h.others c hc hne hook hhook

theorem resolveEquityPosition_balance (h : SharedCollateral env P d e)
    (hsteady : P.world.Steady v) (hc : entry.1 ∈ P.world.setToken.components)
    (hne : entry.1 ≠ P.perp.collateralToken)
    (hpass : m.resolveEquityPosition P env total recipient isIssue v entry = .ok v') :
    v'.balance P.perp.collateralToken = v.balance P.perp.collateralToken := by
  unfold resolveEquityPosition at hpass
  dsimp only at hpass
  split_ifs at hpass
  · obtain ⟨u, htransfer, hhooks⟩ := Outcome.bind_eq_ok.mp hpass
    have hstep := (World.explicitTransferFrom_moveStep htransfer).1
    rw [h.executeExternalPositionHooks_balance (hsteady.trans (.of_move hstep)) hc hne hhooks]
    exact hstep.balance_of_ne hne.symm
  · obtain ⟨u, hhooks, htransfer⟩ := Outcome.bind_eq_ok.mp hpass
    rw [(World.strictInvokeTransfer_moveStep htransfer).1.balance_of_ne hne.symm]
    exact h.executeExternalPositionHooks_balance hsteady hc hne hhooks
  · rw [Outcome.pure_eq_ok.mp hpass]

theorem resolveDebtPosition_balance (h : SharedCollateral env P d e)
    (hsteady : P.world.Steady v) (hc : entry.1 ∈ P.world.setToken.components)
    (hentry : entry.1 = P.perp.collateralToken → entry.2.2 = 0)
    (hpass : m.resolveDebtPosition P env total isIssue v entry = .ok v') :
    v'.balance P.perp.collateralToken = v.balance P.perp.collateralToken := by
  unfold resolveDebtPosition at hpass
  dsimp only at hpass
  split_ifs at hpass with hpos
  · have hne : entry.1 ≠ P.perp.collateralToken := fun heq ↦ hpos.ne' (hentry heq)
    obtain ⟨u, hhooks, htransfer⟩ := Outcome.bind_eq_ok.mp hpass
    rw [(World.strictInvokeTransfer_moveStep htransfer).1.balance_of_ne hne.symm]
    exact h.executeExternalPositionHooks_balance hsteady hc hne hhooks
  · have hne : entry.1 ≠ P.perp.collateralToken := fun heq ↦ hpos.ne' (hentry heq)
    obtain ⟨u, htransfer, hhooks⟩ := Outcome.bind_eq_ok.mp hpass
    have hstep := (World.explicitTransferFrom_moveStep htransfer).1
    rw [h.executeExternalPositionHooks_balance (hsteady.trans (.of_move hstep)) hc hne hhooks]
    exact hstep.balance_of_ne hne.symm
  · rw [Outcome.pure_eq_ok.mp hpass]

/-- The two loops over the positions, in either order, change the balance by one pass only. -/
theorem resolvePositions_change (h : SharedCollateral env P d e)
    (hvault : VaultSpec env P.perp P.world.setToken.address)
    (hrequired : calculateRequiredComponentIssuanceUnits P.world total isIssue = .ok required) :
    (∀ v v', P.world.Steady v →
      m.resolveEquityPositions P env v total recipient isIssue required = .ok v' →
      Change d e total isIssue (v.balance P.perp.collateralToken)
        (v'.balance P.perp.collateralToken)) ∧
    ∀ v v', P.world.Steady v → m.resolveDebtPositions P env v total isIssue required = .ok v' →
      v'.balance P.perp.collateralToken = v.balance P.perp.collateralToken := by
  obtain ⟨amount, hmem, hamount⟩ := h.required_entry hrequired
  have hnodup := calculateRequiredComponentIssuanceUnits_nodup hrequired h.nodup
  have hcomponent : ∀ b ∈ required, b.1 ∈ P.world.setToken.components := fun b ↦
    mem_components_of_required hrequired
  have hinj : ∀ b ∈ required, b.1 = P.perp.collateralToken →
      b = (P.perp.collateralToken, amount, 0) :=
    fun b hb heq ↦ List.inj_on_of_nodup_map hnodup hb hmem heq
  refine ⟨?_, ?_⟩
  · intro v v' hsteady hloop
    apply Outcome.foldlM_single (Q := P.world.Steady)
      (r := fun u : World ↦ u.balance P.perp.collateralToken) hmem hnodup.of_map ?_ ?_ ?_ hloop
      hsteady
    · intro u b _ u' hu hs
      exact hs.trans (resolveEquityPosition_steady hu)
    · intro u b hb hne u' hu hs
      exact h.resolveEquityPosition_balance hs (hcomponent b hb) (fun heq ↦ hne (hinj b hb heq)) hu
    · intro u u' hu hs
      exact h.resolveEquityPosition_change hvault hs hamount hu
  · intro v v' hsteady hloop
    apply (Outcome.foldlM_invariant_of_mem (P := fun u : World ↦ P.world.Steady u ∧
      u.balance P.perp.collateralToken = v.balance P.perp.collateralToken) ?_ hloop
      ⟨hsteady, rfl⟩).2
    intro u b hb u' hu ⟨hs, hbalance⟩
    refine ⟨hs.trans (resolveDebtPosition_steady hu), ?_⟩
    rw [h.resolveDebtPosition_balance hs (hcomponent b hb) ?_ hu, hbalance]
    intro heq
    rw [hinj b hb heq]

/-! ## Whole operations -/

variable {P₁ P' : Protocol} {quantity managerFee protocolFee : ℕ} {checked : List Address}
  {limits : List ℕ}

/-- The module hooks do not touch the collateral token. -/
theorem callModulePreHooks_balance (hvault : VaultSpec env P.perp P.world.setToken.address)
    (hpre : m.callModulePreHooks P env total isIssue = .ok P₁) :
    P.SameModules P₁ ∧ P.world.SameStatus P₁.world ∧
      P₁.world.balance P.perp.collateralToken = P.world.balance P.perp.collateralToken := by
  let F : Footprint := { Footprint.any with
    calls := World.Leaves env P.perp.collateralToken P.world.setToken.address }
  have hallows : P.Allows F := ⟨fun _ _ ↦ trivial, fun _ _ ↦ trivial, trivial, hvault.trade⟩
  obtain ⟨hsame, hedits⟩ := callModulePreHooks_edits hallows hpre
  exact ⟨hsame, hedits.sameStatus, hedits.balance rfl (fun _ hi ↦ hi) hvault.accrue⟩

/-- The state before the fees are minted: the supply, the unit and the balance. -/
structure Moved (P₁ P' : Protocol) (d e quantity total : ℕ) (isIssue : Bool) : Prop where
  address : P'.world.setToken.address = P₁.world.setToken.address
  supply : P'.world.setToken.totalSupply + (if isIssue then 0 else quantity) =
    P₁.world.setToken.totalSupply
  unit : P'.world.setToken.defaultRealUnit P₁.perp.collateralToken = d
  balance : Change d e total isIssue (P₁.world.balance P₁.perp.collateralToken)
    (P'.world.balance P₁.perp.collateralToken)

theorem issuePositions_moved (hpre : m.callModulePreHooks P env total true = .ok P₁)
    (hfees : m.calculateTotalFees P.world quantity true = .ok (total, managerFee, protocolFee))
    (hshared : SharedCollateral env P₁ d e)
    (hvault : VaultSpec env P₁.perp P₁.world.setToken.address)
    (h : SlippageIssuanceModule.issuePositions m P env quantity checked limits recipient =
      .ok (P', managerFee, protocolFee)) : Moved P₁ P' d e quantity total true := by
  simp only [SlippageIssuanceModule.issuePositions, hfees, Outcome.bind_eq_ok, Except.ok.injEq,
    Outcome.pure_eq_ok, Prod.exists, Prod.mk.injEq] at h
  obtain ⟨_, -, _, -, _, -, _, _, _, ⟨rfl, rfl, rfl⟩, Q, hQ, required, hrequired, _, -, v, hequity,
    u, hdebt, rfl, -, -⟩ := h
  obtain rfl : Q = P₁ := Except.ok.inj (hQ.symm.trans hpre)
  obtain ⟨hchange, hkeep⟩ := hshared.resolvePositions_change hvault hrequired
  have hv := resolveEquityPositions_steady hequity
  have hu := hv.trans (resolveDebtPositions_steady hdebt)
  refine ⟨hu.address, ?_, ?_, ?_⟩
  · rw [if_pos rfl, add_zero]
    exact hu.totalSupply
  · exact (hu.defaultRealUnit _).trans hshared.defaultUnit
  · dsimp only
    rw [hkeep v u hv hdebt]
    exact hchange _ v (.refl _) hequity

theorem redeemPositions_moved (hpre : m.callModulePreHooks P env total false = .ok P₁)
    (hfees : m.calculateTotalFees P.world quantity false = .ok (total, managerFee, protocolFee))
    (hshared : SharedCollateral env P₁ d e)
    (hvault : VaultSpec env P₁.perp P₁.world.setToken.address)
    (h : SlippageIssuanceModule.redeemPositions m P env quantity checked limits recipient =
      .ok (P', managerFee, protocolFee)) : Moved P₁ P' d e quantity total false := by
  simp only [SlippageIssuanceModule.redeemPositions, hfees, Outcome.bind_eq_ok, Except.ok.injEq,
    Outcome.pure_eq_ok, Prod.exists, Prod.mk.injEq] at h
  obtain ⟨_, -, _, -, _, _, _, ⟨rfl, rfl, rfl⟩, Q, hQ, P₂, hburn, required, hrequired, _, -, v,
    hdebt, u, hequity, rfl, -, -⟩ := h
  obtain rfl : Q = P₁ := Except.ok.inj (hQ.symm.trans hpre)
  obtain ⟨hburn, hP₂⟩ := Protocol.onWorld_ok hburn
  have hstep := burn_burnStep hburn
  obtain ⟨t, ht, -⟩ := hstep.setToken
  have hshared₂ : SharedCollateral env P₂ d e := by
    rw [hP₂]
    exact hshared.of_erc20 ht
  have hperp : P₂.perp = Q.perp := by rw [hP₂]
  have hvault₂ : VaultSpec env P₂.perp P₂.world.setToken.address := by
    rw [hperp, hstep.address]
    exact hvault
  obtain ⟨hchange, hkeep⟩ := hshared₂.resolvePositions_change hvault₂ hrequired
  have hv := resolveDebtPositions_steady hdebt
  have hu := hv.trans (resolveEquityPositions_steady hequity)
  have hburnt : P₂.world.balance Q.perp.collateralToken =
      Q.world.balance Q.perp.collateralToken :=
    hstep.balance_eq fun hself ↦ absurd hself hshared.foreign
  refine ⟨hu.address.trans hstep.address, ?_, ?_, ?_⟩
  · dsimp only
    rw [if_neg Bool.false_ne_true, hu.totalSupply]
    exact hstep.totalSupply
  · rw [← hperp]
    exact (hu.defaultRealUnit _).trans hshared₂.defaultUnit
  · dsimp only
    rw [← hburnt, ← hperp, ← hkeep _ v (.refl _) hdebt]
    exact hchange v u hv hequity

/-- Minting does not touch the collateral token. -/
theorem settle_keeps {v : Protocol} {c : Address}
    (h : IssuanceEntry.settle m quantity recipient isIssue (v, managerFee, protocolFee) = .ok P')
    (hc : c ≠ v.world.setToken.address) :
    P'.world.balance c = v.world.balance c ∧
      P'.world.setToken.defaultRealUnit c = v.world.setToken.defaultRealUnit c := by
  unfold IssuanceEntry.settle at h
  split_ifs at h
  · simp only [settleIssue, Outcome.bind_eq_ok, Outcome.pure_eq_ok] at h
    obtain ⟨u, hfees, w', hmint, rfl⟩ := h
    have hstep := (resolveFees_mintStep hfees).trans (mint_mintStep hmint)
    exact ⟨hstep.balance_eq fun hself ↦ absurd hself hc, hstep.defaultRealUnit c⟩
  · simp only [settleRedeem, Outcome.bind_eq_ok, Outcome.pure_eq_ok] at h
    obtain ⟨u, hfees, rfl⟩ := h
    have hstep := resolveFees_mintStep hfees
    exact ⟨hstep.balance_eq fun hself ↦ absurd hself hc, hstep.defaultRealUnit c⟩

/-- After issuing or redeeming with slippage limits the default position is covered exactly if the
surplus before, with what the rounding of the whole amount leaves and the fee that is not minted, makes
up for the rounding of Perp's share. -/
theorem covered_after_iff
    (h : IssuanceEntry.execute (.slippage checked limits) m P env quantity recipient isIssue =
      .ok P')
    (hfees : m.calculateTotalFees P.world quantity isIssue = .ok (total, managerFee, protocolFee))
    (hpre : m.callModulePreHooks P env total isIssue = .ok P₁)
    (hvault : VaultSpec env P.perp P.world.setToken.address)
    (hshared : SharedCollateral env P₁ d e) :
    Covered P'.world P.perp.collateralToken ↔
      P.world.setToken.totalSupply * d + rounding (e * total) isIssue ≤
        P.world.balance P.perp.collateralToken * preciseUnit +
          rounding ((d + e) * total) isIssue + m.unmintedFee P.world quantity isIssue * d := by
  obtain ⟨hsame, hstatus, hbalance⟩ := callModulePreHooks_balance hvault hpre
  have hvault₁ : VaultSpec env P₁.perp P₁.world.setToken.address := by
    rw [hstatus.address]
    exact hsame.perp.vaultSpec hvault
  obtain ⟨v, hpositions, hsettle⟩ := IssuanceEntry.execute_ok_of_fees h hfees
  have hmoved : Moved P₁ v d e quantity total isIssue := by
    cases isIssue with
    | true => exact issuePositions_moved hpre hfees hshared hvault₁ hpositions
    | false => exact redeemPositions_moved hpre hfees hshared hvault₁ hpositions
  have hforeign : P₁.perp.collateralToken ≠ v.world.setToken.address := by
    rw [hmoved.address]
    exact hshared.foreign
  obtain ⟨hfinal, hunit⟩ := settle_keeps hsettle hforeign
  obtain ⟨hsupply, -⟩ := IssuanceEntry.settle_ok hsettle
  have hminted := mintedFees_add_unmintedFee hfees
  obtain ⟨-, -, htotal⟩ := calculateTotalFees_ok hfees
  have hstart := hmoved.supply
  have hchange := hmoved.balance
  rw [hsame.perp.collateralToken] at hfinal hunit hchange
  have hcovered : Covered P'.world P.perp.collateralToken ↔ P'.world.setToken.totalSupply * d ≤
      P'.world.balance P.perp.collateralToken * preciseUnit := by
    have hd := hmoved.unit
    rw [hsame.perp.collateralToken] at hd
    unfold Covered Backing.Backed
    rw [hunit, hd, preciseUnitInt_eq]
    norm_cast
  rw [hcovered, hfinal, ← hbalance]
  rw [hstatus.totalSupply] at hstart
  unfold Change at hchange
  cases isIssue with
  | true =>
    simp only [if_true, add_zero] at hsupply hstart htotal hchange
    have hsum : P'.world.setToken.totalSupply + m.unmintedFee P.world quantity true =
        P.world.setToken.totalSupply + total := by omega
    have hscaled := congrArg (· * d) hsum
    simp only [add_mul, mul_comm total d] at hscaled
    omega
  | false =>
    simp only [Bool.false_eq_true, if_false, add_zero] at hsupply hstart htotal hchange
    have hsum : P'.world.setToken.totalSupply + total + m.unmintedFee P.world quantity false =
        P.world.setToken.totalSupply := by omega
    have hscaled := congrArg (· * d) hsum
    simp only [add_mul, mul_comm total d] at hscaled
    omega

namespace Sample

/-- A transaction of account 9.  The vault 46 takes the token with the allowance of the SetToken 6, and
gives it back. -/
def vaultEnv : Env :=
  { Env.plain 9 0 with
    call := fun invocation chain ↦
      match invocation.callData with
      | .vaultDeposit asset amount =>
        chain.setToken asset <$> (chain.tokens asset).transferFrom 46 6 46 amount
      | .vaultWithdraw asset amount =>
        chain.setToken asset <$> (chain.tokens asset).transfer 46 6 amount
      | _ => .error "no contract" }

/-- Two Sets, each with one unit of token 45 and one more in the vault. -/
def before : Protocol :=
  .idle {
    controller := { Controller.enabling 4 [20, 33] with isSet := fun a ↦ a == 6 }
    setToken := ((SetToken.launched 6 [45] [1] [20, 33] 2 9 (2 * 10 ^ 18)).setExternalModules 45
      [33]).setExternalPosition 45 33 ⟨1, []⟩
    chain := {
      tokens := fun _ ↦ ERC20.holding 6 [(6, 2), (9, 100), (46, 2)] 1000
      perp := { PerpAccount.empty with vaultBalance := 2 } }
    log := [] }

def module : DebtIssuanceModule :=
  ⟨20, { IssuanceSettings.empty with moduleIssuanceHooks := [33] }⟩

def issued (quantity : ℕ) : Outcome Protocol :=
  IssuanceEntry.execute (.slippage [] []) module before vaultEnv quantity 9 true

/-- The state after the module hooks. -/
def hooked (quantity : ℕ) : Protocol :=
  (module.callModulePreHooks before vaultEnv quantity true).getD before

theorem vaultSpec : VaultSpec vaultEnv before.perp before.world.setToken.address := by
  constructor
  · intro amount chain chain' h
    obtain ⟨t, ht, rfl⟩ := Outcome.map_eq_ok.mp h
    obtain ⟨moved, hmoved, -, -, hbalances⟩ := ERC20.transferFrom_ok ht
    obtain ⟨-, -, -, hle, -, hends, -⟩ := ERC20.transfer_ok hmoved
    have hsender : t.balances 6 = (chain.tokens 45).balances 6 - amount := by
      rw [hbalances]
      exact (hends (by decide)).1
    change (Function.update chain.tokens 45 t 45).balances 6 + amount = (chain.tokens 45).balances 6
    rw [Function.update_self, hsender]
    exact Nat.sub_add_cancel hle
  · intro amount chain chain' h
    obtain ⟨t, ht, rfl⟩ := Outcome.map_eq_ok.mp h
    obtain ⟨-, -, -, -, -, hends, -⟩ := ERC20.transfer_ok ht
    change (Function.update chain.tokens 45 t 45).balances 6 = (chain.tokens 45).balances 6 + amount
    rw [Function.update_self]
    exact (hends (by decide)).2
  · intro action w w' _ h
    obtain ⟨_, hcall, -⟩ := Outcome.bind_eq_ok.mp h
    cases hcall
  · intro cToken chain
    rfl

theorem hooked_shared {quantity : ℕ}
    (hperp : (hooked quantity).perp.collateralToken = 45 ∧ (hooked quantity).perp.address = 33)
    (haddresses : (hooked quantity).aave.address = 31 ∧ (hooked quantity).compound.address = 32 ∧
      (hooked quantity).world.setToken.address = 6)
    (hcomponents : (hooked quantity).world.setToken.components = [45])
    (hmodules : (hooked quantity).world.setToken.externalPositionModules 45 = [33])
    (hunits : (hooked quantity).world.setToken.defaultRealUnit 45 = 1 ∧
      (hooked quantity).world.setToken.externalRealUnit 45 33 = 1) :
    SharedCollateral vaultEnv (hooked quantity) 1 1 where
  foreign := by simp [hperp, haddresses]
  aave := by simp [hperp, haddresses]
  compound := by simp [hperp, haddresses]
  component := by simp [hperp, hcomponents]
  nodup := by simp [hcomponents]
  modules := by rw [hperp.1, hperp.2, hmodules]
  defaultUnit := by rw [hperp.1, hunits.1, Nat.cast_one]
  externalUnit := by rw [hperp.1, hperp.2, hunits.2, Nat.cast_one]
  defaultUnit_pos := one_pos
  externalUnit_pos := one_pos
  others := by
    intro c hc hne
    rw [hcomponents, List.mem_singleton] at hc
    exact absurd (hc.trans hperp.1.symm) hne

/-- Half a Set is issued.  One unit comes in for both positions and the vault takes it, so nothing is
left for the default position. -/
theorem issued_not_covered :
    VaultSpec vaultEnv before.perp before.world.setToken.address ∧
      SharedCollateral vaultEnv (hooked (5 * 10 ^ 17)) 1 1 ∧ Covered before.world 45 ∧
      (issued (5 * 10 ^ 17)).isOk = true ∧
      ¬ Covered ((issued (5 * 10 ^ 17)).getD before).world 45 := by
  refine ⟨vaultSpec, ?_, by decide +kernel, by decide +kernel, by decide +kernel⟩
  exact hooked_shared (by decide +kernel) (by decide +kernel) (by decide +kernel)
    (by decide +kernel) (by decide +kernel)

/-- For a whole Set nothing is rounded. -/
theorem issued_covered_iff :
    SharedCollateral vaultEnv (hooked (10 ^ 18)) 1 1 ∧
      (Covered ((issued (10 ^ 18)).getD before).world before.perp.collateralToken ↔
        before.world.setToken.totalSupply * 1 + rounding (1 * 10 ^ 18) true ≤
          before.world.balance before.perp.collateralToken * preciseUnit +
            rounding ((1 + 1) * 10 ^ 18) true +
            module.unmintedFee before.world (10 ^ 18) true * 1) := by
  have hshared : SharedCollateral vaultEnv (hooked (10 ^ 18)) 1 1 :=
    hooked_shared (by decide +kernel) (by decide +kernel) (by decide +kernel)
      (by decide +kernel) (by decide +kernel)
  have hissued : issued (10 ^ 18) = .ok ((issued (10 ^ 18)).getD before) :=
    Outcome.eq_ok_getD before (by decide +kernel)
  have hhooked : module.callModulePreHooks before vaultEnv (10 ^ 18) true =
      .ok (hooked (10 ^ 18)) := Outcome.eq_ok_getD before (by decide +kernel)
  have hfees : module.calculateTotalFees before.world (10 ^ 18) true = .ok (10 ^ 18, 0, 0) := by
    decide +kernel
  exact ⟨hshared, covered_after_iff hissued hfees hhooked vaultSpec hshared⟩

end Sample

end SharedCollateral

end SetProtocol
