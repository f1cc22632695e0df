import SetProtocol.Core.Accounts
import SetProtocol.Foundation.Shares
import SetProtocol.Modules.BasicIssuanceModule

/-!
# Rescuing the assets of a Set

Holders deposit their Sets for shares, which they can claw back until the owner redeems all deposited
Sets at once.  From then on each holder withdraws a part of the recovered tokens in proportion to the
shares.  The Set is the SetToken of the world.
-/

namespace SetProtocol

structure APYRescue where
  address : Address
  owner : Address
  shares : Address → ℕ
  totalShares : ℕ
  recoveredTokens : List Address
  recoveredTokenAmounts : List ℕ
  recoveryExecuted : Bool

namespace APYRescue

/-- What the contract holds of the Set. -/
def apyTokenBalance (r : APYRescue) (w : World) : ℕ :=
  w.balanceOf w.setToken.address r.address

def deposit (r : APYRescue) (w : World) (sender : Address) (amount : ℕ) :
    Outcome (APYRescue × World) := do
  require (r.recoveryExecuted = false) "APYRescue: redemption already initiated"
  let w ← w.transferFrom w.setToken.address r.address sender r.address amount
  let share ← SafeMath.add (r.shares sender) amount
  let totalShares ← SafeMath.add r.totalShares amount
  pure ({ r with shares := Function.update r.shares sender share, totalShares := totalShares }, w)

def recoverAssets (r : APYRescue) (m : BasicIssuanceModule) (w : World) (env : Env) :
    Outcome (APYRescue × World) := do
  require (env.sender = r.owner) "Ownable: caller is not the owner"
  require (r.recoveryExecuted = false) "APYRescue: redemption already initiated"
  let w ← m.redeem w { env with sender := r.address } (r.apyTokenBalance w) r.address
  let amounts := r.recoveredTokens.map fun token ↦ w.balanceOf token r.address
  pure ({ r with
    recoveryExecuted := true
    recoveredTokenAmounts := r.recoveredTokenAmounts ++ amounts }, w)

/-- One pass of the loop of `withdrawRecoveredFunds`, over a recovered token with its amount. -/
def payShare (r : APYRescue) (sender : Address) (callerShares : ℕ) (w : World)
    (entry : Address × ℕ) : Outcome World := do
  let product ← SafeMath.mul callerShares entry.2
  let shareOfRecoveredTokens ← SafeMath.div product r.totalShares
  w.transfer entry.1 r.address sender shareOfRecoveredTokens

/-- The recovered tokens with their amounts. -/
def recovered (r : APYRescue) : List (Address × ℕ) :=
  r.recoveredTokens.zip r.recoveredTokenAmounts

def withdrawRecoveredFunds (r : APYRescue) (w : World) (sender : Address) :
    Outcome (APYRescue × World) := do
  require (r.recoveryExecuted = true) "APYRescue: redemption not initiated"
  let callerShares := r.shares sender
  let r := { r with shares := Function.update r.shares sender 0 }
  let w ← r.recovered.foldlM (r.payShare sender callerShares) w
  pure (r, w)

def clawbackDepositedSets (r : APYRescue) (w : World) (sender : Address) :
    Outcome (APYRescue × World) := do
  require (r.recoveryExecuted = false) "APYRescue: redemption already initiated"
  let depositedShares := r.shares sender
  let totalShares ← SafeMath.sub r.totalShares depositedShares
  let r := { r with shares := Function.update r.shares sender 0, totalShares := totalShares }
  let w ← w.transfer w.setToken.address r.address sender depositedShares
  pure (r, w)

/-! ## What the functions do -/

variable {r r' : APYRescue} {m : BasicIssuanceModule} {w w' : World} {env : Env} {sender : Address}
  {amount callerShares : ℕ} {entry : Address × ℕ}

theorem deposit_ok (h : r.deposit w sender amount = .ok (r', w')) :
    r.recoveryExecuted = false ∧
      r' = { r with
        shares := Function.update r.shares sender (r.shares sender + amount)
        totalShares := r.totalShares + amount } ∧
      w.transferFrom w.setToken.address r.address sender r.address amount = .ok w' := by
  simp only [deposit, Outcome.bind_eq_ok, Outcome.require_eq_ok, SafeMath.add_eq_ok,
    Outcome.pure_eq_ok, Prod.mk.injEq] at h
  obtain ⟨_, hopen, v, hv, _, ⟨-, rfl⟩, _, ⟨-, rfl⟩, rfl, rfl⟩ := h
  exact ⟨hopen, rfl, hv⟩

theorem clawbackDepositedSets_ok (h : r.clawbackDepositedSets w sender = .ok (r', w')) :
    r.recoveryExecuted = false ∧ r.shares sender ≤ r.totalShares ∧
      r' = { r with
        shares := Function.update r.shares sender 0
        totalShares := r.totalShares - r.shares sender } ∧
      w.transfer w.setToken.address r.address sender (r.shares sender) = .ok w' := by
  simp only [clawbackDepositedSets, Outcome.bind_eq_ok, Outcome.require_eq_ok, SafeMath.sub_eq_ok,
    Outcome.pure_eq_ok, Prod.mk.injEq] at h
  obtain ⟨_, hopen, _, ⟨hle, rfl⟩, v, hv, rfl, rfl⟩ := h
  exact ⟨hopen, hle, rfl, hv⟩

/-- Redeeming touches no allowance. -/
theorem redeem_sameAllowances {recipient account : Address}
    (h : m.redeem w env amount recipient = .ok w') : World.SameAllowances account w w' := by
  simp only [BasicIssuanceModule.redeem, Outcome.bind_eq_ok] at h
  obtain ⟨_, -, _, -, v, hburn, _, -, hloop⟩ := h
  apply (World.burn_sameAllowances hburn).trans
  apply Outcome.foldlM_invariant (P := World.SameAllowances account v) ?_ hloop (.refl v)
  intro x entry x' hpay hx
  simp only [BasicIssuanceModule.payComponent, Outcome.bind_eq_ok] at hpay
  obtain ⟨y, hfee, htransfer⟩ := hpay
  exact hx.trans ((World.payProtocolFeeFromSetToken_sameAllowances hfee).trans
    (World.strictInvokeTransfer_sameAllowances htransfer))

theorem recoverAssets_ok (h : r.recoverAssets m w env = .ok (r', w')) :
    r.recoveryExecuted = false ∧ World.SameAllowances r.address w w' ∧
      r' = { r with
        recoveryExecuted := true
        recoveredTokenAmounts := r.recoveredTokenAmounts ++
          r.recoveredTokens.map fun token ↦ w'.balanceOf token r.address } := by
  simp only [recoverAssets, Outcome.bind_eq_ok, Outcome.require_eq_ok, Outcome.pure_eq_ok,
    Prod.mk.injEq] at h
  obtain ⟨_, -, _, hopen, v, hredeem, rfl, rfl⟩ := h
  exact ⟨hopen, redeem_sameAllowances hredeem, rfl⟩

/-- The contract pays the portion of the caller's shares. -/
theorem payShare_ok (h : r.payShare sender callerShares w entry = .ok w') :
    w.transfer entry.1 r.address sender (Shares.portion entry.2 r.totalShares callerShares) =
      .ok w' := by
  simp only [payShare, Outcome.bind_eq_ok, SafeMath.mul_eq_ok, SafeMath.div_eq_ok] at h
  obtain ⟨_, ⟨-, rfl⟩, _, ⟨-, rfl⟩, htransfer⟩ := h
  exact htransfer

/-- What a withdrawal moves: of every recovered token the portion of the caller's shares. -/
structure PaidOut (r : APYRescue) (sender : Address) (w w' : World) : Prop where
  sameAllowances : World.SameAllowances r.address w w'
  paid : ∀ entry ∈ r.recovered, w'.balanceOf entry.1 r.address +
    Shares.portion entry.2 r.totalShares (r.shares sender) = w.balanceOf entry.1 r.address
  received : ∀ entry ∈ r.recovered, w'.balanceOf entry.1 sender =
    w.balanceOf entry.1 sender + Shares.portion entry.2 r.totalShares (r.shares sender)

theorem withdrawRecoveredFunds_ok (h : r.withdrawRecoveredFunds w sender = .ok (r', w'))
    (hnodup : r.recoveredTokens.Nodup)
    (hlength : r.recoveredTokens.length = r.recoveredTokenAmounts.length)
    (hself : sender = r.address → r.shares sender = 0) :
    r.recoveryExecuted = true ∧ r' = { r with shares := Function.update r.shares sender 0 } ∧
      r.PaidOut sender w w' := by
  simp only [withdrawRecoveredFunds, Outcome.bind_eq_ok, Outcome.require_eq_ok, Outcome.pure_eq_ok,
    Prod.mk.injEq] at h
  obtain ⟨_, hclosed, v, hloop, rfl, rfl⟩ := h
  have hpayments : r.recovered.foldlM (r.payShare sender (r.shares sender)) w = .ok v := hloop
  have hdistinct : (r.recovered.map Prod.fst).Nodup := by
    unfold recovered
    rwa [List.map_fst_zip hlength.le]
  -- what is read at a token is the contract's balance and the caller's
  obtain ⟨hsame, hmoved, -⟩ := Outcome.foldlM_pointwise
    (fun x token ↦ (x.balanceOf token r.address, x.balanceOf token sender))
    (World.SameAllowances r.address w)
    (fun before amount after ↦
      after.1 + Shares.portion amount r.totalShares (r.shares sender) = before.1 ∧
        after.2 = before.2 + Shares.portion amount r.totalShares (r.shares sender))
    (fun x x' entry _ hpay hx ↦ by
      have hnone : sender = r.address →
          Shares.portion entry.2 r.totalShares (r.shares sender) = 0 := by
        intro hsender
        rw [hself hsender, Shares.portion_zero]
      obtain ⟨hsame, hother, hpaid, hreceived⟩ := World.transfer_pays (payShare_ok hpay) hnone
      refine ⟨hx.trans hsame, ⟨hpaid, hreceived⟩, ?_⟩
      intro token htoken
      simp only [World.balanceOf, hother token htoken])
    hdistinct hpayments (.refl w)
  exact ⟨hclosed, rfl, hsame, fun entry hentry ↦ (hmoved entry hentry).1,
    fun entry hentry ↦ (hmoved entry hentry).2⟩

end APYRescue

end SetProtocol
