import Mathlib.Algebra.BigOperators.Group.List.Basic
import Mathlib.Algebra.Order.BigOperators.Group.List
import SetProtocol.System.IssuanceFees

/-!
# Debt that is replicated by issuance

A lending module holds the debt of a component as a negative external position.  Issuing Sets makes
the module borrow the share of the new Sets and hands it to the caller; redeeming takes it from the
caller and makes the module repay it.  The component hooks run in two loops, for equity and for debt.
The hooks of Aave tell the loops apart and those of Compound do not, so Compound's debt is replicated
once more for every component that also has equity.
-/

namespace SetProtocol

open PreciseUnitMath ModuleBase

/-! ## Reading the log and the transfers -/

/-- The amounts to read off the calls of the SetToken and off the transfers. -/
structure Watch where
  call : Invocation → Option ℕ
  move : Transfer → Option ℕ

namespace Watch

variable {o : Watch} {w w' : World} {env : Env} {F : Footprint} {calls : Invocation → Prop}
  {module token sender recipient spender : Address} {amount : ℕ}

/-- The amounts of all calls and of all transfers so far. -/
def read (o : Watch) (w : World) : List ℕ × List ℕ :=
  (w.log.filterMap o.call, w.transfers.filterMap o.move)

/-- The amounts that were added to the earlier ones. -/
def since (o : Watch) (w w' : World) : List ℕ × List ℕ :=
  ((o.read w').1.drop (o.read w).1.length, (o.read w').2.drop (o.read w).2.length)

theorem since_eq {amounts moves : List ℕ}
    (h : o.read w' = ((o.read w).1 ++ amounts, (o.read w).2 ++ moves)) :
    o.since w w' = (amounts, moves) := by
  unfold since
  rw [h, List.drop_left, List.drop_left]

/-- A call that has no amount and moves no tokens by itself. -/
def Silent (o : Watch) (invocation : Invocation) : Prop :=
  o.call invocation = none ∧ ∀ setToken, invocation.transfers setToken = []

theorem invoke_read {invocation : Invocation} (hmoves : ∀ s, invocation.transfers s = [])
    (h : w.invoke env module invocation = .ok w') :
    o.read w' = ((o.read w).1 ++ (o.call invocation).toList, (o.read w).2) := by
  obtain ⟨-, hlog, htransfers⟩ := World.invoke_ok h
  unfold read
  rw [hlog, htransfers, hmoves, List.append_nil, List.filterMap_append]
  cases hcall : o.call invocation <;> simp [hcall]

theorem invokeChecked_read {invocation : Invocation} {reason : String}
    (hmoves : ∀ s, invocation.transfers s = [])
    (h : w.invokeChecked env module invocation reason = .ok w') :
    o.read w' = ((o.read w).1 ++ (o.call invocation).toList, (o.read w).2) := by
  simp only [World.invokeChecked, Outcome.bind_eq_ok, Outcome.pure_eq_ok] at h
  obtain ⟨v, hv, _, -, rfl⟩ := h
  exact invoke_read hmoves hv

theorem Silent.read {invocation : Invocation} (hsilent : o.Silent invocation)
    (h : w.invoke env module invocation = .ok w') : o.read w' = o.read w := by
  rw [invoke_read hsilent.2 h, hsilent.1, Option.toList_none, List.append_nil]

theorem calls_read (h : World.Calls env o.Silent w w') : o.read w' = o.read w :=
  h.invariant (P := fun v ↦ o.read v = o.read w)
    (fun _ _ _ _ hsilent hstep hv ↦ (hsilent.read hstep).trans hv) rfl

theorem edits_read (hsilent : ∀ i, F.calls i → o.Silent i) (h : World.Edits env F w w') :
    o.read w' = o.read w := by
  apply h.invariant (P := fun v ↦ o.read v = o.read w) ?_ rfl
  intro v v' hedit hv
  cases hedit with
  | invoke module invocation hcalls hstep => exact ((hsilent _ hcalls).read hstep).trans hv
  | accrue cToken => exact hv
  | default module component unit _ => exact hv
  | external module component unit data _ _ => exact hv
  | unit module component unit _ _ => exact hv

theorem onSetToken_read {f : SetToken → Outcome SetToken} (h : w.onSetToken f = .ok w') :
    o.read w' = o.read w := by
  simp only [World.onSetToken, Outcome.bind_eq_ok, Outcome.pure_eq_ok] at h
  obtain ⟨s, -, rfl⟩ := h
  rfl

/-- What an entry of positive amount adds to the transfers. -/
def moved (o : Watch) (entry : Transfer) : List ℕ :=
  if 0 < entry.amount then (o.move entry).toList else []

theorem setErc20_read (w : World) (token : Address) (state : ERC20) :
    o.read (w.setErc20 token state) = o.read w := by
  unfold World.setErc20
  split_ifs <;> rfl

theorem recordTransfer_read (w : World) (entry : Transfer) :
    o.read (w.recordTransfer entry) = ((o.read w).1, (o.read w).2 ++ (o.move entry).toList) := by
  unfold read World.recordTransfer
  rw [List.filterMap_append]
  cases hmove : o.move entry <;> simp [hmove]

/-- The check of the balance makes a transfer to the sender itself revert. -/
theorem explicitTransferFrom_ne (hpos : 0 < amount)
    (h : w.explicitTransferFrom token spender sender w.setToken.address amount = .ok w') :
    sender ≠ w.setToken.address := by
  intro hself
  have hreceived := World.explicitTransferFrom_received h
  simp only [World.explicitTransferFrom, hpos, if_true, World.transferFrom, Outcome.bind_eq_ok,
    Outcome.pure_eq_ok] at h
  obtain ⟨_, ⟨state, hstate, rfl⟩, _, -, _, -, rfl⟩ := h
  obtain ⟨moved, hmoved, hsupply, hdecimals, hbalances⟩ := ERC20.transferFrom_ok hstate
  obtain ⟨hsupply', hdecimals', -, -, hsame, -⟩ := ERC20.transfer_ok hmoved
  have hstep := w.setErc20_moveStep (hsupply.trans hsupply') (hdecimals.trans hdecimals')
  change (w.setErc20 token state).balance token = _ at hreceived
  rw [World.balance, hstep.address, World.erc20_setErc20, hbalances, hsame hself] at hreceived
  unfold World.balance at hreceived
  omega

theorem strictInvokeTransfer_ne (hpos : 0 < amount)
    (h : w.strictInvokeTransfer env module token recipient amount = .ok w') :
    recipient ≠ w.setToken.address := by
  intro hself
  obtain ⟨-, hle, hsent⟩ := World.strictInvokeTransfer_moveStep h
  simp only [World.strictInvokeTransfer, World.invokeTransfer, hpos, if_true, World.invoke,
    World.execute, World.transfer, Outcome.bind_eq_ok, Outcome.pure_eq_ok] at h
  obtain ⟨_, ⟨_, -, _, ⟨state, hstate, rfl⟩, rfl⟩, _, -, _, -, rfl⟩ := h
  obtain ⟨hsupply, hdecimals, -, -, hsame, -⟩ := ERC20.transfer_ok hstate
  have hstep := w.setErc20_moveStep hsupply hdecimals
  change (w.setErc20 token state).balance token = _ at hsent
  rw [World.balance, hstep.address, World.erc20_setErc20, hsame hself.symm] at hsent
  unfold World.balance at hle hsent
  omega

theorem explicitTransferFrom_read
    (h : w.explicitTransferFrom token spender sender w.setToken.address amount = .ok w') :
    o.read w' = ((o.read w).1,
      (o.read w).2 ++ o.moved ⟨token, sender, w.setToken.address, amount⟩) := by
  unfold World.explicitTransferFrom at h
  unfold moved
  split_ifs at h ⊢ with hpos
  · simp only [World.transferFrom, Outcome.bind_eq_ok, Outcome.pure_eq_ok] at h
    obtain ⟨_, ⟨state, -, rfl⟩, _, -, _, -, rfl⟩ := h
    rw [recordTransfer_read, setErc20_read]
  · obtain rfl := Outcome.pure_eq_ok.mp h
    rw [List.append_nil]

theorem strictInvokeTransfer_read (hcall : o.call ⟨token, 0, .transfer recipient amount⟩ = none)
    (h : w.strictInvokeTransfer env module token recipient amount = .ok w') :
    o.read w' = ((o.read w).1,
      (o.read w).2 ++ o.moved ⟨token, w.setToken.address, recipient, amount⟩) := by
  unfold World.strictInvokeTransfer World.invokeTransfer at h
  unfold moved
  split_ifs at h ⊢ with hpos
  · simp only [Outcome.bind_eq_ok, Outcome.pure_eq_ok] at h
    obtain ⟨v, hv, _, -, _, -, rfl⟩ := h
    obtain ⟨-, hlog, htransfers⟩ := World.invoke_ok hv
    unfold read
    rw [hlog, htransfers, List.filterMap_append, List.filterMap_append]
    simp only [Invocation.transfers, List.filterMap_cons, List.filterMap_nil, hcall,
      List.append_nil]
    cases hmove : o.move ⟨token, w.setToken.address, recipient, amount⟩ <;> rfl
  · obtain rfl := Outcome.pure_eq_ok.mp h
    rw [List.append_nil]

/-- Minting the fees and the quantity neither calls a contract nor moves tokens. -/
theorem resolveFees_read {m : DebtIssuanceModule} {managerFee protocolFee : ℕ}
    (h : m.resolveFees w managerFee protocolFee = .ok w') : o.read w' = o.read w := by
  unfold DebtIssuanceModule.resolveFees at h
  split_ifs at h
  · obtain ⟨v, hmanager, hprotocol⟩ := Outcome.bind_eq_ok.mp h
    unfold DebtIssuanceModule.mintProtocolFee at hprotocol
    split_ifs at hprotocol
    · exact (onSetToken_read hprotocol).trans (onSetToken_read hmanager)
    · rw [← Outcome.pure_eq_ok.mp hprotocol]
      exact onSetToken_read hmanager
  · rw [Outcome.pure_eq_ok.mp h]

theorem settle_read {m : DebtIssuanceModule} {P P' : Protocol} {quantity managerFee protocolFee : ℕ}
    {isIssue : Bool}
    (h : IssuanceEntry.settle m quantity recipient isIssue (P, managerFee, protocolFee) = .ok P') :
    o.read P'.world = o.read P.world := by
  unfold IssuanceEntry.settle at h
  split_ifs at h
  · simp only [DebtIssuanceModule.settleIssue, Outcome.bind_eq_ok, Outcome.pure_eq_ok] at h
    obtain ⟨u, hfees, w', hmint, rfl⟩ := h
    exact (onSetToken_read hmint).trans (resolveFees_read hfees)
  · simp only [DebtIssuanceModule.settleRedeem, Outcome.bind_eq_ok, Outcome.pure_eq_ok] at h
    obtain ⟨u, hfees, rfl⟩ := h
    exact resolveFees_read hfees

/-- The amount in a list, or nothing if there is none. -/
def positive (n : ℕ) : List ℕ := if 0 < n then [n] else []

theorem positive_sum (n : ℕ) : (positive n).sum = n := by
  unfold positive
  split_ifs with hpos
  · exact List.sum_singleton
  · exact (Nat.eq_zero_of_not_pos hpos).symm

end Watch

/-! ## Amounts -/

namespace DebtIssuanceModule

variable {w : World} {quantity : ℕ} {isIssue : Bool} {c module : Address}

/-- The share of a debt: rounded down on issue and up on redeem. -/
def debtAmount (units quantity : ℕ) (isIssue : Bool) : ℕ :=
  if isIssue then units * quantity / preciseUnit
  else (units * quantity + preciseUnit - 1) / preciseUnit

/-- The share of equity: rounded up on issue and down on redeem. -/
def equityAmount (units quantity : ℕ) (isIssue : Bool) : ℕ :=
  debtAmount units quantity (!isIssue)

theorem debtQuantity_eq {units amount : ℕ} (h : debtQuantity units quantity isIssue = .ok amount) :
    amount = debtAmount units quantity isIssue := by
  unfold debtQuantity at h
  unfold debtAmount
  split_ifs at h ⊢
  · exact (preciseMul_eq_ok.mp h).2
  · exact preciseMulCeil_eq_of_ok h

theorem equityQuantity_eq {units amount : ℕ}
    (h : equityQuantity units quantity isIssue = .ok amount) :
    amount = equityAmount units quantity isIssue := by
  apply debtQuantity_eq
  cases isIssue <;> exact h

/-- The equity of a component for one Set: its default unit and the positive units of modules. -/
def equityUnit (s : SetToken) (c : Address) : ℤ :=
  s.defaultRealUnit c +
    ((s.externalPositionModules c).map fun p ↦ max 0 (s.externalRealUnit c p)).sum

/-- The debt of a component for one Set: the negative units of modules. -/
def owedUnit (s : SetToken) (c : Address) : ℤ :=
  ((s.externalPositionModules c).map fun p ↦ max 0 (-s.externalRealUnit c p)).sum

theorem owedUnit_nonneg (s : SetToken) (c : Address) : 0 ≤ owedUnit s c := by
  apply List.sum_nonneg
  intro x hx
  obtain ⟨p, -, rfl⟩ := List.mem_map.mp hx
  exact le_max_left 0 _

theorem addExternalUnit_ok {units units' : ℤ × ℤ} (h : addExternalUnit w c units module = .ok units') :
    units' = (units.1 + max 0 (w.setToken.externalRealUnit c module),
      units.2 - max 0 (-w.setToken.externalRealUnit c module)) := by
  simp only [addExternalUnit, Outcome.bind_eq_ok,
    SetToken.getExternalPositionRealUnit_eq_ok] at h
  obtain ⟨_, ⟨-, rfl⟩, h⟩ := h
  split_ifs at h with hpos
  · simp only [Outcome.bind_eq_ok, SignedSafeMath.add_eq_ok, Outcome.pure_eq_ok] at h
    obtain ⟨_, ⟨-, rfl⟩, rfl⟩ := h
    rw [max_eq_right hpos.le, max_eq_left (by omega), sub_zero]
  · simp only [Outcome.bind_eq_ok, SignedSafeMath.add_eq_ok, Outcome.pure_eq_ok] at h
    obtain ⟨_, ⟨-, rfl⟩, rfl⟩ := h
    rw [max_eq_left (not_lt.mp hpos), max_eq_right (by omega), add_zero, sub_neg_eq_add]

theorem foldlM_addExternalUnit_ok {modules : List Address} {units units' : ℤ × ℤ}
    (h : modules.foldlM (addExternalUnit w c) units = .ok units') :
    units' = (units.1 + (modules.map fun p ↦ max 0 (w.setToken.externalRealUnit c p)).sum,
      units.2 - (modules.map fun p ↦ max 0 (-w.setToken.externalRealUnit c p)).sum) := by
  induction modules generalizing units with
  | nil =>
    obtain rfl := Outcome.pure_eq_ok.mp h
    simp
  | cons p modules ih =>
    simp only [List.foldlM_cons, Outcome.bind_eq_ok] at h
    obtain ⟨next, hnext, h⟩ := h
    rw [ih h, addExternalUnit_ok hnext]
    simp only [List.map_cons, List.sum_cons, add_assoc, sub_sub]

theorem componentIssuanceUnits_ok {entry : Address × ℕ × ℕ}
    (h : componentIssuanceUnits w c = .ok entry) :
    entry = (c, (equityUnit w.setToken c).toNat, (owedUnit w.setToken c).toNat) ∧
      0 ≤ equityUnit w.setToken c := by
  simp only [componentIssuanceUnits, Outcome.bind_eq_ok, Outcome.pure_eq_ok,
    SetToken.getDefaultPositionRealUnit_eq_ok, SafeCast.toUint256_eq_ok,
    SignedSafeMath.mul_eq_ok] at h
  obtain ⟨_, ⟨-, rfl⟩, sums, hloop, equity, hequity, _, ⟨-, rfl⟩, debt, hdebt, rfl⟩ := h
  obtain rfl := foldlM_addExternalUnit_ok hloop
  have hequityUnit : equityUnit w.setToken c = equity := hequity
  have howedUnit : owedUnit w.setToken c = debt := by
    unfold owedUnit
    dsimp only at hdebt
    omega
  rw [hequityUnit, howedUnit, Int.toNat_natCast, Int.toNat_natCast]
  exact ⟨rfl, Int.natCast_nonneg equity⟩

/-- The units of all components. -/
theorem getTotalIssuanceUnits_ok {entries : List (Address × ℕ × ℕ)}
    (h : getTotalIssuanceUnits w = .ok entries) :
    entries = w.setToken.components.map (fun c ↦
        (c, (equityUnit w.setToken c).toNat, (owedUnit w.setToken c).toNat)) ∧
      ∀ c ∈ w.setToken.components, 0 ≤ equityUnit w.setToken c := by
  constructor
  · have hmap := Outcome.map_eq_of_mapM (g := id) (fun c entry hc ↦ (componentIssuanceUnits_ok hc).1) h
    rwa [List.map_id] at hmap
  · intro c hc
    obtain ⟨entry, -, hentry⟩ := Outcome.mapM_of_mem h hc
    exact (componentIssuanceUnits_ok hentry).2

/-- The amounts of all components. -/
theorem calculateRequiredComponentIssuanceUnits_ok {total : ℕ}
    {required : List (Address × ℕ × ℕ)}
    (h : calculateRequiredComponentIssuanceUnits w total isIssue = .ok required) :
    required = w.setToken.components.map (fun c ↦
        (c, equityAmount (equityUnit w.setToken c).toNat total isIssue,
          debtAmount (owedUnit w.setToken c).toNat total isIssue)) ∧
      ∀ c ∈ w.setToken.components, 0 ≤ equityUnit w.setToken c := by
  simp only [calculateRequiredComponentIssuanceUnits, Outcome.bind_eq_ok] at h
  obtain ⟨entries, hentries, hrequired⟩ := h
  obtain ⟨rfl, hnonneg⟩ := getTotalIssuanceUnits_ok hentries
  refine ⟨?_, hnonneg⟩
  have hmap : required.map id = (w.setToken.components.map fun c ↦
      (c, (equityUnit w.setToken c).toNat, (owedUnit w.setToken c).toNat)).map fun entry ↦
        (entry.1, equityAmount entry.2.1 total isIssue, debtAmount entry.2.2 total isIssue) := by
    apply Outcome.map_eq_of_mapM ?_ hrequired
    intro entry amounts hamounts
    simp only [requiredQuantities, Outcome.bind_eq_ok, Outcome.pure_eq_ok] at hamounts
    obtain ⟨equity, hequity, debt, hdebt, rfl⟩ := hamounts
    rw [← equityQuantity_eq hequity, ← debtQuantity_eq hdebt, id]
  rwa [List.map_id, List.map_map] at hmap

/-- A module with the only debt of a component, of so many units for one Set. -/
structure OnlyDebtor (s : SetToken) (c module : Address) (units : ℕ) : Prop where
  listed : module ∈ s.externalPositionModules c
  nodup : (s.externalPositionModules c).Nodup
  unit : s.externalRealUnit c module = -units
  units_pos : 0 < units
  others : ∀ p ∈ s.externalPositionModules c, p ≠ module → 0 ≤ s.externalRealUnit c p

theorem OnlyDebtor.owedUnit_eq {s : SetToken} {units : ℕ} (h : OnlyDebtor s c module units) :
    owedUnit s c = units := by
  have hrest : (((s.externalPositionModules c).erase module).map fun p ↦
      max 0 (-s.externalRealUnit c p)).sum = 0 := by
    apply List.sum_eq_zero
    intro x hx
    obtain ⟨p, hp, rfl⟩ := List.mem_map.mp hx
    obtain ⟨hne, hmem⟩ := h.nodup.mem_erase_iff.mp hp
    have hnonneg := h.others p hmem hne
    exact max_eq_left (by omega)
  unfold owedUnit
  rw [← List.sum_map_erase _ h.listed, hrest, h.unit, neg_neg, add_zero]
  exact max_eq_right (Int.natCast_nonneg units)

/-- The entry of the component among the required quantities. -/
theorem OnlyDebtor.required_entry {units total : ℕ} {required : List (Address × ℕ × ℕ)}
    (h : OnlyDebtor w.setToken c module units) (hc : c ∈ w.setToken.components)
    (hrequired : calculateRequiredComponentIssuanceUnits w total isIssue = .ok required) :
    (c, equityAmount (equityUnit w.setToken c).toNat total isIssue,
      debtAmount units total isIssue) ∈ required := by
  rw [(calculateRequiredComponentIssuanceUnits_ok hrequired).1, List.mem_map]
  refine ⟨c, hc, ?_⟩
  rw [h.owedUnit_eq, Int.toNat_natCast]

end DebtIssuanceModule

/-! ## The lending modules -/

inductive Lender where
  | aave
  | compound
deriving DecidableEq

namespace Lender

open DebtIssuanceModule Watch

variable {L : Lender} {P P₁ P' : Protocol} {env : Env} {w v v' : World} {m : DebtIssuanceModule}
  {c caller hook recipient : Address} {isIssue isEquity : Bool} {units quantity total : ℕ}
  {entry : Address × ℕ × ℕ} {required : List (Address × ℕ × ℕ)}

def address (L : Lender) (P : Protocol) : Address :=
  match L with
  | aave => P.aave.address
  | compound => P.compound.address

/-- The amount of a component that a call borrows during an issue, or repays during a redemption. -/
def debtCall (L : Lender) (P : Protocol) (c : Address) (isIssue : Bool) (invocation : Invocation) :
    Option ℕ :=
  match L, isIssue, invocation.callData with
  | aave, true, .aaveBorrow asset amount _ => if asset = c then some amount else none
  | aave, false, .aaveRepay asset amount _ => if asset = c then some amount else none
  | compound, true, .compoundBorrow amount =>
    if invocation.target = P.compound.underlyingToCToken c then some amount else none
  | compound, false, .repayBorrowCToken amount =>
    if invocation.target = P.compound.underlyingToCToken c then some amount else none
  | compound, false, .repayBorrowCEther =>
    if invocation.target = P.compound.underlyingToCToken c then some invocation.value else none
  | _, _, _ => none

/-- The amount of a component that goes from the SetToken to the caller during an issue, or comes from
the caller during a redemption. -/
def debtMove (setToken caller c : Address) (isIssue : Bool) (entry : Transfer) : Option ℕ :=
  let ends := if isIssue then (setToken, caller) else (caller, setToken)
  if entry.token = c ∧ (entry.sender, entry.recipient) = ends then some entry.amount else none

def watch (L : Lender) (P : Protocol) (caller c : Address) (isIssue : Bool) : Watch :=
  ⟨L.debtCall P c isIssue, debtMove P.world.setToken.address caller c isIssue⟩

/-- A component whose only debt is owed by the lending module, in a state after the module hooks.  No
other component of the Set has its debt in the same market. -/
structure Indebted (L : Lender) (P : Protocol) (c : Address) (units : ℕ) : Prop where
  component : c ∈ P.world.setToken.components
  nodup : P.world.setToken.components.Nodup
  debtor : OnlyDebtor P.world.setToken c (L.address P) units
  contracts : P.compound.address ≠ P.aave.address
  markets : L = compound → ∀ c' ∈ P.world.setToken.components, c' ≠ c →
    P.compound.address ∈ P.world.setToken.externalPositionModules c' →
    P.compound.underlyingToCToken c' ≠ P.compound.underlyingToCToken c

/-! ### Hooks -/

/-- What the component hook of the lending module borrows or repays, for a debt of `n`. -/
def hookAmounts (L : Lender) (isEquity : Bool) (n : ℕ) : List ℕ :=
  match L, isEquity with
  | aave, true => []
  | _, _ => [n]

theorem notionalDebt_eq {n : ℕ} (hunit : w.setToken.externalRealUnit c hook = -units)
    (h : LeverageModule.notionalDebt w hook c quantity isIssue = .ok n) :
    n = debtAmount units quantity isIssue := by
  simp only [LeverageModule.notionalDebt, Outcome.bind_eq_ok, Outcome.require_eq_ok,
    SetToken.getExternalPositionRealUnit_eq_ok, SignedSafeMath.mul_eq_ok,
    SafeCast.toUint256_eq_ok] at h
  obtain ⟨_, ⟨-, rfl⟩, _, -, _, ⟨-, rfl⟩, unit, hcast, hquantity⟩ := h
  obtain rfl : unit = units := by omega
  exact debtQuantity_eq hquantity

/-- The hooks of other modules, and those for other components, do not borrow or repay this debt. -/
theorem Indebted.hookCalls {c' : Address} (h : L.Indebted P c units)
    (hc' : c' ∈ P.world.setToken.components)
    (hhook : hook ∈ P.world.setToken.externalPositionModules c')
    (hother : c' ≠ c ∨ hook ≠ L.address P) :
    P.HookCalls (L.watch P caller c isIssue).Silent c' hook := by
  constructor
  · rintro rfl i hcall
    cases L with
    | compound => cases hcall <;> cases isIssue <;> exact ⟨rfl, fun _ ↦ rfl⟩
    | aave =>
      have hne : c' ≠ c := hother.resolve_right fun hne ↦ hne rfl
      cases hcall <;> cases isIssue <;>
        exact ⟨by simp [watch, debtCall, hne], fun _ ↦ rfl⟩
  · rintro rfl i hcall
    cases L with
    | aave => cases hcall <;> cases isIssue <;> exact ⟨rfl, fun _ ↦ rfl⟩
    | compound =>
      have hne : c' ≠ c := hother.resolve_right fun hne ↦ hne rfl
      have hmarket := h.markets rfl c' hc' hne hhook
      cases hcall <;> cases isIssue <;>
        exact ⟨by simp [watch, debtCall, hmarket], fun _ ↦ rfl⟩
  · rintro - i hcall
    cases hcall <;> cases L <;> cases isIssue <;> exact ⟨rfl, fun _ ↦ rfl⟩
  · rintro - i hcall
    cases hcall <;> cases L <;> cases isIssue <;> exact ⟨rfl, fun _ ↦ rfl⟩

theorem aave_componentHook_read (hunit : v.setToken.externalRealUnit c P.aave.address = -units)
    (h : P.componentHook env m.address quantity c isIssue isEquity v P.aave.address = .ok v') :
    (aave.watch P caller c isIssue).read v' =
      (((aave.watch P caller c isIssue).read v).1 ++
        aave.hookAmounts isEquity (debtAmount units quantity isIssue),
        ((aave.watch P caller c isIssue).read v).2) := by
  cases isIssue with
  | true =>
    simp only [Protocol.componentHook, Protocol.componentIssueHook, if_true,
      AaveLeverageModule.componentIssueHook, Outcome.bind_eq_ok] at h
    obtain ⟨_, -, h⟩ := h
    cases isEquity with
    | true =>
      rw [Outcome.pure_eq_ok.mp h]
      simp [hookAmounts]
    | false =>
      simp only [Bool.false_eq_true, if_false, Outcome.bind_eq_ok] at h
      obtain ⟨n, hn, hborrow⟩ := h
      rw [Watch.invoke_read (fun _ ↦ rfl) hborrow, notionalDebt_eq hunit hn]
      simp [watch, debtCall, hookAmounts]
  | false =>
    simp only [Protocol.componentHook, Protocol.componentRedeemHook, Bool.false_eq_true, if_false,
      if_true, AaveLeverageModule.componentRedeemHook, Outcome.bind_eq_ok] at h
    obtain ⟨_, -, h⟩ := h
    cases isEquity with
    | true =>
      rw [Outcome.pure_eq_ok.mp h]
      simp [hookAmounts]
    | false =>
      simp only [Bool.false_eq_true, if_false, AaveLeverageModule.repayBorrow,
        Outcome.bind_eq_ok] at h
      obtain ⟨n, hn, u, happrove, hrepay⟩ := h
      rw [Watch.invoke_read (fun _ ↦ rfl) hrepay, Watch.invoke_read (fun _ ↦ rfl) happrove,
        notionalDebt_eq hunit hn]
      simp [watch, debtCall, hookAmounts]

theorem compound_borrow_read {n : ℕ}
    (h : P.compound.borrow v env (P.compound.underlyingToCToken c) n = .ok v') :
    (compound.watch P caller c true).read v' =
      (((compound.watch P caller c true).read v).1 ++ [n],
        ((compound.watch P caller c true).read v).2) := by
  simp only [CompoundLeverageModule.borrow, Outcome.bind_eq_ok] at h
  obtain ⟨u, hborrow, hwrap⟩ := h
  have hread : (compound.watch P caller c true).read v' =
      (compound.watch P caller c true).read u := by
    unfold CompoundLeverageModule.wrapEther at hwrap
    split_ifs at hwrap
    · exact Watch.Silent.read ⟨rfl, fun _ ↦ rfl⟩ hwrap
    · rw [Outcome.pure_eq_ok.mp hwrap]
  rw [hread, Watch.invokeChecked_read (fun _ ↦ rfl) hborrow]
  simp [watch, debtCall]

theorem compound_repayBorrow_read {n : ℕ}
    (h : P.compound.repayBorrow v env (P.compound.underlyingToCToken c) c n = .ok v') :
    (compound.watch P caller c false).read v' =
      (((compound.watch P caller c false).read v).1 ++ [n],
        ((compound.watch P caller c false).read v).2) := by
  unfold CompoundLeverageModule.repayBorrow at h
  split_ifs at h
  · obtain ⟨u, hunwrap, hrepay⟩ := Outcome.bind_eq_ok.mp h
    rw [Watch.invoke_read (fun _ ↦ rfl) hrepay, Watch.invoke_read (fun _ ↦ rfl) hunwrap]
    simp [watch, debtCall]
  · obtain ⟨u, happrove, hrepay⟩ := Outcome.bind_eq_ok.mp h
    rw [Watch.invokeChecked_read (fun _ ↦ rfl) hrepay, Watch.invoke_read (fun _ ↦ rfl) happrove]
    simp [watch, debtCall]

theorem compound_componentHook_read (hcontracts : P.compound.address ≠ P.aave.address)
    (hunit : v.setToken.externalRealUnit c P.compound.address = -units)
    (h : P.componentHook env m.address quantity c isIssue isEquity v P.compound.address =
      .ok v') :
    (compound.watch P caller c isIssue).read v' =
      (((compound.watch P caller c isIssue).read v).1 ++
        compound.hookAmounts isEquity (debtAmount units quantity isIssue),
        ((compound.watch P caller c isIssue).read v).2) := by
  cases isIssue with
  | true =>
    simp only [Protocol.componentHook, Protocol.componentIssueHook, hcontracts, if_true, if_false,
      CompoundLeverageModule.componentIssueHook, Outcome.bind_eq_ok] at h
    obtain ⟨_, -, n, hn, hborrow⟩ := h
    rw [compound_borrow_read hborrow, notionalDebt_eq hunit hn]
    rfl
  | false =>
    simp only [Protocol.componentHook, Protocol.componentRedeemHook, hcontracts,
      Bool.false_eq_true, if_true, if_false, CompoundLeverageModule.componentRedeemHook,
      Outcome.bind_eq_ok] at h
    obtain ⟨_, -, n, hn, hrepay⟩ := h
    rw [compound_repayBorrow_read hrepay, notionalDebt_eq hunit hn]
    rfl

/-- Among the hooks of the component, that of the lending module borrows or repays. -/
theorem Indebted.executeExternalPositionHooks_read (h : L.Indebted P c units)
    (hsteady : P.world.Steady v)
    (hhooks : m.executeExternalPositionHooks P env v quantity c isIssue isEquity = .ok v') :
    (L.watch P caller c isIssue).read v' =
      (((L.watch P caller c isIssue).read v).1 ++
        L.hookAmounts isEquity (debtAmount units quantity isIssue),
        ((L.watch P caller c isIssue).read v).2) := by
  rw [executeExternalPositionHooks_eq, hsteady.externalPositionModules] at hhooks
  apply Outcome.foldlM_single (Q := P.world.Steady) (r := (L.watch P caller c isIssue).read)
    (R := fun a b : List ℕ × List ℕ ↦
      b = (a.1 ++ L.hookAmounts isEquity (debtAmount units quantity isIssue), a.2))
    h.debtor.listed h.debtor.nodup ?_ ?_ ?_ hhooks hsteady
  · intro u b hb u' hu hs
    have hcalls : World.Calls env (fun _ ↦ True) u u' := Protocol.componentHook_calls
      ⟨fun _ _ _ ↦ trivial, fun _ _ _ ↦ trivial, fun _ _ _ ↦ trivial, fun _ _ _ ↦ trivial⟩ hu
    exact hs.trans hcalls.steady
  · intro u b hb hne u' hu _
    exact Watch.calls_read
      (Protocol.componentHook_calls (h.hookCalls h.component hb (Or.inr hne)) hu)
  · intro u u' hu hs
    have hunit := (hs.externalRealUnit c (L.address P)).trans h.debtor.unit
    cases L with
    | aave => exact aave_componentHook_read hunit hu
    | compound => exact compound_componentHook_read h.contracts hunit hu

theorem Indebted.executeExternalPositionHooks_read_of_ne {c' : Address} {issuing : Bool}
    (h : L.Indebted P c units) (hsteady : P.world.Steady v)
    (hc' : c' ∈ P.world.setToken.components) (hne : c' ≠ c)
    (hhooks : m.executeExternalPositionHooks P env v quantity c' issuing isEquity = .ok v') :
    (L.watch P caller c isIssue).read v' = (L.watch P caller c isIssue).read v := by
  apply Watch.calls_read (executeExternalPositionHooks_calls ?_ hhooks)
  intro hook hhook
  rw [hsteady.externalPositionModules] at hhook
  exact h.hookCalls hc' hhook (Or.inl hne)

/-! ### The loops of issuance -/

theorem watch_transfer (L : Lender) (P : Protocol) (caller c token recipient : Address)
    (isIssue : Bool) (amount : ℕ) :
    (L.watch P caller c isIssue).call ⟨token, 0, .transfer recipient amount⟩ = none := by
  cases L <;> cases isIssue <;> rfl

/-- An entry of another token, or one that goes the other way, is not a transfer of the debt. -/
theorem watch_moved_eq_nil {transfer : Transfer}
    (h : 0 < transfer.amount → transfer.token = c →
      (transfer.sender, transfer.recipient) ≠
        if isIssue then (P.world.setToken.address, caller)
        else (caller, P.world.setToken.address)) :
    (L.watch P caller c isIssue).moved transfer = [] := by
  unfold Watch.moved
  split_ifs with hpos
  · have hnot : ¬ (transfer.token = c ∧ (transfer.sender, transfer.recipient) =
        if isIssue then (P.world.setToken.address, caller)
        else (caller, P.world.setToken.address)) := fun hboth ↦ h hpos hboth.1 hboth.2
    simp only [watch, debtMove, if_neg hnot, Option.toList_none]
  · rfl

theorem watch_moved_issue (L : Lender) (P : Protocol) (caller c : Address) (n : ℕ) :
    (L.watch P caller c true).moved ⟨c, P.world.setToken.address, caller, n⟩ = positive n := by
  simp [Watch.moved, watch, debtMove, positive]

theorem watch_moved_redeem (L : Lender) (P : Protocol) (caller c : Address) (n : ℕ) :
    (L.watch P caller c false).moved ⟨c, caller, P.world.setToken.address, n⟩ = positive n := by
  simp [Watch.moved, watch, debtMove, positive]

/-- What the pass of the equity loop borrows or repays. -/
def equityPass (L : Lender) (equity n : ℕ) : List ℕ :=
  if 0 < equity then L.hookAmounts true n else []

theorem Indebted.resolveEquityPosition_read (h : L.Indebted P c units)
    (hsteady : P.world.Steady v) (hentry : entry.1 = c)
    (hpass : m.resolveEquityPosition P env quantity recipient isIssue v entry = .ok v') :
    (L.watch P env.sender c isIssue).read v' =
      (((L.watch P env.sender c isIssue).read v).1 ++
        L.equityPass entry.2.1 (debtAmount units quantity isIssue),
        ((L.watch P env.sender c isIssue).read v).2) := by
  unfold resolveEquityPosition at hpass
  unfold equityPass
  dsimp only at hpass
  rw [hentry] at hpass
  split_ifs at hpass ⊢ with hpos hissue
  · obtain ⟨u, htransfer, hhooks⟩ := Outcome.bind_eq_ok.mp hpass
    subst hissue
    have hu : v.Steady u := .of_move (World.explicitTransferFrom_moveStep htransfer).1
    have hsender := Watch.explicitTransferFrom_ne hpos htransfer
    rw [h.executeExternalPositionHooks_read (hsteady.trans hu) hhooks,
      Watch.explicitTransferFrom_read htransfer, watch_moved_eq_nil, List.append_nil]
    intro _ _ hends
    rw [if_pos rfl, Prod.mk.injEq] at hends
    exact hsender (hends.1.trans hsteady.address.symm)
  · obtain ⟨u, hhooks, htransfer⟩ := Outcome.bind_eq_ok.mp hpass
    obtain rfl := Bool.eq_false_of_not_eq_true hissue
    have hu := hsteady.trans (executeExternalPositionHooks_steady hhooks)
    have hrecipient := Watch.strictInvokeTransfer_ne hpos htransfer
    rw [Watch.strictInvokeTransfer_read (watch_transfer ..) htransfer, watch_moved_eq_nil,
      List.append_nil, h.executeExternalPositionHooks_read hsteady hhooks]
    intro _ _ hends
    rw [if_neg hissue, Prod.mk.injEq] at hends
    exact hrecipient (hends.2.trans hu.address.symm)
  · rw [Outcome.pure_eq_ok.mp hpass, List.append_nil]

theorem Indebted.resolveDebtPosition_read (h : L.Indebted P c units)
    (hsteady : P.world.Steady v) (hentry : entry.1 = c)
    (hdebt : entry.2.2 = debtAmount units quantity isIssue)
    (hpass : m.resolveDebtPosition P env quantity isIssue v entry = .ok v') :
    (L.watch P env.sender c isIssue).read v' =
      (((L.watch P env.sender c isIssue).read v).1 ++ positive (debtAmount units quantity isIssue),
        ((L.watch P env.sender c isIssue).read v).2 ++
          positive (debtAmount units quantity isIssue)) := by
  have hamounts : L.hookAmounts false (debtAmount units quantity isIssue) =
      [debtAmount units quantity isIssue] := by cases L <;> rfl
  unfold resolveDebtPosition at hpass
  dsimp only at hpass
  rw [hentry, hdebt] at hpass
  split_ifs at hpass with hpos hissue
  · obtain ⟨u, hhooks, htransfer⟩ := Outcome.bind_eq_ok.mp hpass
    subst hissue
    have hu := hsteady.trans (executeExternalPositionHooks_steady hhooks)
    rw [Watch.strictInvokeTransfer_read (watch_transfer ..) htransfer, hu.address,
      watch_moved_issue, h.executeExternalPositionHooks_read hsteady hhooks, hamounts, positive,
      if_pos hpos]
  · obtain ⟨u, htransfer, hhooks⟩ := Outcome.bind_eq_ok.mp hpass
    obtain rfl := Bool.eq_false_of_not_eq_true hissue
    have hu : v.Steady u := .of_move (World.explicitTransferFrom_moveStep htransfer).1
    rw [h.executeExternalPositionHooks_read (hsteady.trans hu) hhooks,
      Watch.explicitTransferFrom_read htransfer, hsteady.address, watch_moved_redeem, hamounts,
      positive, if_pos hpos]
  · rw [Outcome.pure_eq_ok.mp hpass, positive, if_neg hpos, List.append_nil, List.append_nil]

theorem Indebted.resolveEquityPosition_read_of_ne (h : L.Indebted P c units)
    (hsteady : P.world.Steady v) (hc : entry.1 ∈ P.world.setToken.components)
    (hne : entry.1 ≠ c)
    (hpass : m.resolveEquityPosition P env quantity recipient isIssue v entry = .ok v') :
    (L.watch P caller c isIssue).read v' = (L.watch P caller c isIssue).read v := by
  unfold resolveEquityPosition at hpass
  dsimp only at hpass
  split_ifs at hpass
  · obtain ⟨u, htransfer, hhooks⟩ := Outcome.bind_eq_ok.mp hpass
    have hu : v.Steady u := .of_move (World.explicitTransferFrom_moveStep htransfer).1
    rw [h.executeExternalPositionHooks_read_of_ne (hsteady.trans hu) hc hne hhooks,
      Watch.explicitTransferFrom_read htransfer,
      watch_moved_eq_nil fun _ htoken ↦ absurd htoken hne, List.append_nil]
  · obtain ⟨u, hhooks, htransfer⟩ := Outcome.bind_eq_ok.mp hpass
    rw [Watch.strictInvokeTransfer_read (watch_transfer ..) htransfer,
      watch_moved_eq_nil fun _ htoken ↦ absurd htoken hne, List.append_nil,
      h.executeExternalPositionHooks_read_of_ne hsteady hc hne hhooks]
  · rw [Outcome.pure_eq_ok.mp hpass]

theorem Indebted.resolveDebtPosition_read_of_ne (h : L.Indebted P c units)
    (hsteady : P.world.Steady v) (hc : entry.1 ∈ P.world.setToken.components)
    (hne : entry.1 ≠ c)
    (hpass : m.resolveDebtPosition P env quantity isIssue v entry = .ok v') :
    (L.watch P caller c isIssue).read v' = (L.watch P caller c isIssue).read v := by
  unfold resolveDebtPosition at hpass
  dsimp only at hpass
  split_ifs at hpass
  · obtain ⟨u, hhooks, htransfer⟩ := Outcome.bind_eq_ok.mp hpass
    rw [Watch.strictInvokeTransfer_read (watch_transfer ..) htransfer,
      watch_moved_eq_nil fun _ htoken ↦ absurd htoken hne, List.append_nil,
      h.executeExternalPositionHooks_read_of_ne hsteady hc hne hhooks]
  · obtain ⟨u, htransfer, hhooks⟩ := Outcome.bind_eq_ok.mp hpass
    have hu : v.Steady u := .of_move (World.explicitTransferFrom_moveStep htransfer).1
    rw [h.executeExternalPositionHooks_read_of_ne (hsteady.trans hu) hc hne hhooks,
      Watch.explicitTransferFrom_read htransfer,
      watch_moved_eq_nil fun _ htoken ↦ absurd htoken hne, List.append_nil]
  · rw [Outcome.pure_eq_ok.mp hpass]

/-- The two loops over the positions, in either order. -/
theorem Indebted.resolvePositions_read (h : L.Indebted P c units)
    (hrequired : calculateRequiredComponentIssuanceUnits P.world total isIssue = .ok required) :
    (∀ v v', P.world.Steady v →
      m.resolveEquityPositions P env v total recipient isIssue required = .ok v' →
      (L.watch P env.sender c isIssue).read v' =
        (((L.watch P env.sender c isIssue).read v).1 ++
          L.equityPass (equityAmount (equityUnit P.world.setToken c).toNat total isIssue)
            (debtAmount units total isIssue),
          ((L.watch P env.sender c isIssue).read v).2)) ∧
    ∀ v v', P.world.Steady v → m.resolveDebtPositions P env v total isIssue required = .ok v' →
      (L.watch P env.sender c isIssue).read v' =
        (((L.watch P env.sender c isIssue).read v).1 ++ positive (debtAmount units total isIssue),
          ((L.watch P env.sender c isIssue).read v).2 ++
            positive (debtAmount units total isIssue)) := by
  have hmem := h.debtor.required_entry h.component hrequired
  have hnodup := calculateRequiredComponentIssuanceUnits_nodup hrequired h.nodup
  have hcomponent : ∀ b ∈ required, b.1 ∈ P.world.setToken.components := fun b ↦
    mem_components_of_required hrequired
  have hother : ∀ b ∈ required, b ≠ _ → b.1 ≠ c := fun b hb hne heq ↦
    hne (List.inj_on_of_nodup_map hnodup hb hmem heq)
  refine ⟨?_, ?_⟩
  · intro v v' hsteady hloop
    apply Outcome.foldlM_single (Q := P.world.Steady)
      (r := (L.watch P env.sender c isIssue).read) (R := fun a b : List ℕ × List ℕ ↦
        b = (a.1 ++ L.equityPass (equityAmount (equityUnit P.world.setToken c).toNat total isIssue)
          (debtAmount units total isIssue), a.2)) hmem hnodup.of_map ?_ ?_ ?_ hloop hsteady
    · intro u b _ u' hu hs
      exact hs.trans (resolveEquityPosition_steady hu)
    · intro u b hb hne u' hu hs
      exact h.resolveEquityPosition_read_of_ne hs (hcomponent b hb) (hother b hb hne) hu
    · intro u u' hu hs
      exact h.resolveEquityPosition_read hs rfl hu
  · intro v v' hsteady hloop
    apply Outcome.foldlM_single (Q := P.world.Steady)
      (r := (L.watch P env.sender c isIssue).read) (R := fun a b : List ℕ × List ℕ ↦
        b = (a.1 ++ positive (debtAmount units total isIssue),
          a.2 ++ positive (debtAmount units total isIssue)))
      hmem hnodup.of_map ?_ ?_ ?_ hloop hsteady
    · intro u b _ u' hu hs
      exact hs.trans (resolveDebtPosition_steady hu)
    · intro u b hb hne u' hu hs
      exact h.resolveDebtPosition_read_of_ne hs (hcomponent b hb) (hother b hb hne) hu
    · intro u u' hu hs
      exact h.resolveDebtPosition_read hs rfl rfl hu

/-! ### Whole operations -/

variable {managerFee protocolFee : ℕ}

theorem watch_congr (hsame : P.SameModules P₁) (hstatus : P.world.SameStatus P₁.world) :
    L.watch P₁ caller c isIssue = L.watch P caller c isIssue := by
  have hcall : L.debtCall P₁ c isIssue = L.debtCall P c isIssue := by
    funext invocation
    unfold debtCall
    rw [hsame.compound]
  unfold watch
  rw [hcall, hstatus.address]

/-- The module hooks neither borrow nor repay, and move no tokens. -/
theorem callModulePreHooks_read (L : Lender) (caller c : Address)
    (hpre : m.callModulePreHooks P env quantity isIssue = .ok P₁) :
    L.watch P₁ caller c isIssue = L.watch P caller c isIssue ∧
      (L.watch P caller c isIssue).read P₁.world = (L.watch P caller c isIssue).read P.world := by
  let F : Footprint := { Footprint.any with calls := (L.watch P caller c isIssue).Silent }
  have hallows : P.Allows F := by
    refine ⟨fun _ _ ↦ trivial, fun _ _ ↦ trivial, trivial, fun action ↦ ?_⟩
    cases L <;> cases isIssue <;> exact ⟨rfl, fun _ ↦ rfl⟩
  obtain ⟨hsame, hedits⟩ := callModulePreHooks_edits hallows hpre
  exact ⟨watch_congr hsame hedits.sameStatus, Watch.edits_read (fun _ hi ↦ hi) hedits⟩

theorem Indebted.of_erc20 {t : ERC20} (h : L.Indebted P c units)
    (hw : w.setToken = P.world.setToken.setErc20 t) :
    L.Indebted { P with world := w } c units := by
  obtain ⟨controller, s, chain, log, transfers⟩ := w
  obtain rfl : s = P.world.setToken.setErc20 t := hw
  have hdebtor : OnlyDebtor (P.world.setToken.setErc20 t) c (L.address P) units :=
    ⟨h.debtor.listed, h.debtor.nodup, h.debtor.unit, h.debtor.units_pos, h.debtor.others⟩
  exact ⟨h.component, h.nodup, by cases L <;> exact hdebtor, h.contracts, h.markets⟩

theorem issuePositions_read
    (hpre : m.callModulePreHooks P env quantity true = .ok P₁)
    (hfees : m.calculateTotalFees P.world quantity true = .ok (total, managerFee, protocolFee))
    (hdebt : L.Indebted P₁ c units)
    (h : m.issuePositions P env quantity recipient = .ok (P', managerFee, protocolFee)) :
    (L.watch P env.sender c true).read P'.world =
      (((L.watch P env.sender c true).read P.world).1 ++
        (L.equityPass (equityAmount (equityUnit P₁.world.setToken c).toNat total true)
          (debtAmount units total true) ++ positive (debtAmount units total true)),
        ((L.watch P env.sender c true).read P.world).2 ++
          positive (debtAmount units total true)) := by
  obtain ⟨hwatch, hread⟩ := callModulePreHooks_read L env.sender c hpre
  have hstatus := callModulePreHooks_sameStatus hpre
  simp only [issuePositions, Outcome.bind_eq_ok, Outcome.pure_eq_ok, Prod.exists,
    Prod.mk.injEq] at h
  obtain ⟨_, -, _, -, _, -, Q, hQ, total', _, _, hfees', required, hrequired, v, hequity, u, hdebts,
    rfl, rfl, rfl⟩ := h
  obtain rfl : Q = P₁ := Except.ok.inj (hQ.symm.trans hpre)
  rw [calculateTotalFees_congr hstatus.controller, hfees] at hfees'
  obtain ⟨rfl, -⟩ : total = total' ∧ True := by simpa using hfees'
  obtain ⟨hfirst, hsecond⟩ := hdebt.resolvePositions_read hrequired
  have hv := resolveEquityPositions_steady hequity
  rw [← hread, ← hwatch, hsecond v u hv hdebts, hfirst _ v (.refl _) hequity, List.append_assoc]

theorem redeemPositions_read
    (hpre : m.callModulePreHooks P env quantity false = .ok P₁)
    (hfees : m.calculateTotalFees P.world quantity false = .ok (total, managerFee, protocolFee))
    (hdebt : L.Indebted P₁ c units)
    (h : m.redeemPositions P env quantity recipient = .ok (P', managerFee, protocolFee)) :
    (L.watch P env.sender c false).read P'.world =
      (((L.watch P env.sender c false).read P.world).1 ++ (positive (debtAmount units total false) ++
        L.equityPass (equityAmount (equityUnit P₁.world.setToken c).toNat total false)
          (debtAmount units total false)),
        ((L.watch P env.sender c false).read P.world).2 ++
          positive (debtAmount units total false)) := by
  obtain ⟨hwatch, hread⟩ := callModulePreHooks_read L env.sender c hpre
  have hstatus := callModulePreHooks_sameStatus hpre
  simp only [redeemPositions, Outcome.bind_eq_ok, Outcome.pure_eq_ok, Prod.exists,
    Prod.mk.injEq] at h
  obtain ⟨_, -, _, -, Q, hQ, P₂, hburn, total', _, _, hfees', required, hrequired, v, hdebts, u,
    hequity, rfl, rfl, rfl⟩ := h
  obtain rfl : Q = P₁ := Except.ok.inj (hQ.symm.trans hpre)
  obtain ⟨hburnt, hP₂⟩ := Protocol.onWorld_ok hburn
  have hstep := burn_burnStep hburnt
  obtain ⟨t, ht, -⟩ := hstep.setToken
  rw [calculateTotalFees_congr (hstep.controller.trans hstatus.controller), hfees] at hfees'
  obtain ⟨rfl, -⟩ : total = total' ∧ True := by simpa using hfees'
  have hdebt₂ : L.Indebted P₂ c units := by
    rw [hP₂]
    exact hdebt.of_erc20 ht
  have hunit : equityUnit P₂.world.setToken c = equityUnit Q.world.setToken c := by
    rw [ht]
    rfl
  have hwatch₂ : L.watch P₂ env.sender c false = L.watch Q env.sender c false := by
    unfold watch
    rw [hstep.address, hP₂]
    rfl
  obtain ⟨hfirst, hsecond⟩ := hdebt₂.resolvePositions_read hrequired
  have hv := resolveDebtPositions_steady hdebts
  rw [← hread, ← hwatch, ← Watch.onSetToken_read hburnt, ← hwatch₂, hfirst v u hv hequity,
    hsecond _ v (.refl _) hdebts, hunit, List.append_assoc]

/-- The share of a unit rounds to nothing. -/
def Vanishes (units quantity : ℕ) (roundUp : Bool) : Prop :=
  if roundUp then units * quantity = 0 else units * quantity < preciseUnit

instance : Decidable (Vanishes units quantity isIssue) :=
  inferInstanceAs (Decidable (if isIssue then _ else _))

theorem debtAmount_eq_zero_iff :
    debtAmount units quantity isIssue = 0 ↔ Vanishes units quantity (!isIssue) := by
  have hpos := preciseUnit_pos
  unfold debtAmount Vanishes
  cases isIssue with
  | true =>
    simp only [if_true, Bool.not_true, Bool.false_eq_true, if_false]
    rw [Nat.div_eq_zero_iff_lt hpos]
  | false =>
    simp only [Bool.false_eq_true, if_false, Bool.not_false, if_true]
    rw [Nat.div_eq_zero_iff_lt hpos]
    omega

theorem equityAmount_eq_zero_iff :
    equityAmount units quantity isIssue = 0 ↔ Vanishes units quantity isIssue := by
  unfold equityAmount
  rw [debtAmount_eq_zero_iff, Bool.not_not]

/-- Of the amounts that were borrowed or repaid and those that were moved, both are `n`, and the first
in a single call. -/
structure Replicated (record : List ℕ × List ℕ) (n : ℕ) : Prop where
  amount : record.1.sum = n
  once : record.1.length ≤ 1
  caller : record.2.sum = n

/-- A debt is replicated exactly unless both passes run the hook of Compound. -/
theorem replicated_iff_of_perm {record : List ℕ × List ℕ} {equity n : ℕ}
    (hamounts : record.1.Perm (L.equityPass equity n ++ positive n))
    (hmoves : record.2 = positive n) :
    Replicated record n ↔ L = aave ∨ equity = 0 ∨ n = 0 := by
  have hsum : record.1.sum = (L.equityPass equity n).sum + n := by
    rw [hamounts.sum_nat, List.sum_append, positive_sum]
  have hlength : record.1.length = (L.equityPass equity n).length + (positive n).length := by
    rw [hamounts.length_eq, List.length_append]
  constructor
  · intro hreplicated
    have hnone : (L.equityPass equity n).sum = 0 := by
      have hamount := hreplicated.amount
      omega
    cases L with
    | aave => exact Or.inl rfl
    | compound =>
      rw [or_iff_not_imp_left, or_iff_not_imp_left]
      intro _ hequity
      simpa [equityPass, Nat.pos_of_ne_zero hequity, hookAmounts] using hnone
  · intro hcondition
    -- In each of the three cases the equity pass adds nothing to the sum, and a call only if the debt
    -- pass adds none.
    have hpass : (L.equityPass equity n).sum = 0 ∧
        (L.equityPass equity n).length + (positive n).length ≤ 1 := by
      have hpositive : (positive n).length ≤ 1 := by
        unfold positive
        split_ifs <;> simp
      rcases hcondition with rfl | rfl | rfl
      · have hempty : aave.equityPass equity n = [] := by
          unfold equityPass
          split_ifs <;> rfl
        rw [hempty]
        simpa using hpositive
      · simpa [equityPass] using hpositive
      · unfold equityPass positive
        cases L <;> split_ifs <;> simp_all [hookAmounts]
    refine ⟨?_, ?_, ?_⟩
    · rw [hsum, hpass.1, zero_add]
    · rw [hlength]
      exact hpass.2
    · rw [hmoves, positive_sum]

/-- Issuing borrows the share of a debt, and redeeming repays it, once and as much as goes to or comes
from the caller: always on Aave, and on Compound unless the component has equity to move as well. -/
theorem replicated_iff
    (h : IssuanceEntry.execute .debt m P env quantity recipient isIssue = .ok P')
    (hfees : m.calculateTotalFees P.world quantity isIssue = .ok (total, managerFee, protocolFee))
    (hpre : m.callModulePreHooks P env quantity isIssue = .ok P₁)
    (hdebt : L.Indebted P₁ c units) :
    Replicated ((L.watch P env.sender c isIssue).since P.world P'.world)
        (debtAmount units total isIssue) ↔
      L = aave ∨ Vanishes (equityUnit P₁.world.setToken c).toNat total isIssue ∨
        Vanishes units total (!isIssue) := by
  obtain ⟨v, hpositions, hsettle⟩ := IssuanceEntry.execute_ok_of_fees h hfees
  have hsettled := Watch.settle_read (o := L.watch P env.sender c isIssue) hsettle
  rw [← equityAmount_eq_zero_iff, ← debtAmount_eq_zero_iff]
  cases isIssue with
  | true =>
    have hsince := Watch.since_eq
      (hsettled.trans (issuePositions_read hpre hfees hdebt hpositions))
    rw [hsince]
    exact replicated_iff_of_perm (.refl _) rfl
  | false =>
    have hsince := Watch.since_eq
      (hsettled.trans (redeemPositions_read hpre hfees hdebt hpositions))
    rw [hsince]
    exact replicated_iff_of_perm List.perm_append_comm rfl

namespace Sample

/-- A transaction of account 9, in which the market 50 lends its tokens 7 to the SetToken 6. -/
def lendingEnv : Env :=
  { Env.plain 9 0 with
    call := fun invocation chain ↦
      match invocation.callData with
      | .compoundBorrow amount => do
        let t ← (chain.tokens 7).transfer 50 6 amount
        pure { chain with
          tokens := Function.update chain.tokens 7 t
          borrowBalance := Function.update chain.borrowBalance 50 (chain.borrowBalance 50 + amount) }
      | _ => .error "no contract"
    returnData := fun _ _ ↦ [0] }

/-- One Set with 10 units of token 8, `units` units of token 7 and a debt of 2 units of token 7. -/
def before (units : ℕ) : Protocol :=
  let idle : Protocol := .idle {
    controller := { Controller.enabling 4 [20, 32] with isSet := fun a ↦ a == 6 }
    setToken := ((SetToken.launched 6 [8, 7] [10, units] [20, 32] 2 9 (10 ^ 18)).setExternalModules
      7 [32]).setExternalPosition 7 32 ⟨-2, []⟩
    chain := {
      tokens := fun _ ↦ ERC20.holding 18 [(6, 10), (9, 100), (50, 100)] 1000
      borrowBalance := fun cToken ↦ if cToken = 50 then 2 else 0 }
    log := [] }
  let compound := { idle.compound with
    underlyingToCToken := fun asset ↦ if asset = 7 then 50 else 0
    borrowCTokenEnabled := fun cToken ↦ cToken == 50
    borrowCTokens := [50]
    borrowAssets := [7] }
  { idle with compound := compound }

def module : DebtIssuanceModule :=
  ⟨20, { IssuanceSettings.empty with moduleIssuanceHooks := [32] }⟩

def issued (units : ℕ) : Outcome Protocol :=
  IssuanceEntry.execute .debt module (before units) lendingEnv (10 ^ 18) 9 true

/-- The state after the module hooks. -/
def hooked (units : ℕ) : Protocol :=
  (module.callModulePreHooks (before units) lendingEnv (10 ^ 18) true).getD (before units)

theorem hooked_indebted {units : ℕ}
    (hcomponents : (hooked units).world.setToken.components = [8, 7])
    (hmodules : (hooked units).world.setToken.externalPositionModules 8 = [] ∧
      (hooked units).world.setToken.externalPositionModules 7 = [32])
    (haddresses : (hooked units).aave.address = 31 ∧ (hooked units).compound.address = 32)
    (hunit : (hooked units).world.setToken.externalRealUnit 7 32 = -2) :
    compound.Indebted (hooked units) 7 2 := by
  have haddress : compound.address (hooked units) = 32 := haddresses.2
  refine ⟨?_, ?_, ⟨?_, ?_, ?_, two_pos, ?_⟩, ?_, ?_⟩
  · rw [hcomponents]
    decide
  · rw [hcomponents]
    decide
  · rw [haddress, hmodules.2]
    decide
  · rw [hmodules.2]
    decide
  · rw [haddress, hunit]
    rfl
  · intro p hp hne
    rw [hmodules.2, List.mem_singleton] at hp
    exact absurd (hp.trans haddress.symm) hne
  · rw [haddresses.1, haddresses.2]
    decide
  · intro _ c' hc' hne hlisted
    rw [hcomponents, List.mem_cons, List.mem_singleton] at hc'
    obtain rfl := hc'.resolve_right hne
    rw [hmodules.1] at hlisted
    cases hlisted

/-- One more Set is issued.  The Set has a default position in token 7, so the market is asked twice
for the debt of 2, and the caller gets it once. -/
theorem issued_not_replicated :
    compound.Indebted (hooked 5) 7 2 ∧ (issued 5).isOk = true ∧
      (compound.watch (before 5) 9 7 true).since (before 5).world
        ((issued 5).getD (before 5)).world = ([2, 2], [2]) ∧
      ¬ Replicated ((compound.watch (before 5) 9 7 true).since (before 5).world
        ((issued 5).getD (before 5)).world) (debtAmount 2 (10 ^ 18) true) := by
  have hsince : (compound.watch (before 5) 9 7 true).since (before 5).world
      ((issued 5).getD (before 5)).world = ([2, 2], [2]) := by decide +kernel
  refine ⟨?_, by decide +kernel, hsince, ?_⟩
  · exact hooked_indebted (by decide +kernel) (by decide +kernel) (by decide +kernel)
      (by decide +kernel)
  · intro hreplicated
    have honce := hreplicated.once
    rw [hsince] at honce
    exact absurd honce (by decide)

/-- Without the default position the debt is taken once. -/
theorem issued_replicated :
    compound.Indebted (hooked 0) 7 2 ∧ Vanishes (equityUnit (hooked 0).world.setToken 7).toNat
        (10 ^ 18) true ∧
      Replicated ((compound.watch (before 0) 9 7 true).since (before 0).world
        ((issued 0).getD (before 0)).world) (debtAmount 2 (10 ^ 18) true) := by
  have hdebt : compound.Indebted (hooked 0) 7 2 :=
    hooked_indebted (by decide +kernel) (by decide +kernel) (by decide +kernel) (by decide +kernel)
  have hissued : issued 0 = .ok ((issued 0).getD (before 0)) :=
    Outcome.eq_ok_getD (before 0) (by decide +kernel)
  have hhooked : module.callModulePreHooks (before 0) lendingEnv (10 ^ 18) true =
      .ok (hooked 0) := Outcome.eq_ok_getD (before 0) (by decide +kernel)
  have hfees : module.calculateTotalFees (before 0).world (10 ^ 18) true = .ok (10 ^ 18, 0, 0) := by
    decide +kernel
  have hvanishes : Vanishes (equityUnit (hooked 0).world.setToken 7).toNat (10 ^ 18) true := by
    decide +kernel
  refine ⟨hdebt, hvanishes, ?_⟩
  exact (replicated_iff hissued hfees hhooked hdebt).mpr (Or.inr (Or.inl hvanishes))

end Sample

end Lender

end SetProtocol
