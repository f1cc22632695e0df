import Mathlib.Data.FinEnum
import SetProtocol.Foundation.Trace
import SetProtocol.Product.APYRescue

/-!
# Payouts of a rescue over whole runs

Any users deposit and claw back Sets, the owner redeems them, and users withdraw, in any order, while
other accounts move tokens and the rest of the world changes.  A history records what each user has
deposited and not clawed back, and what each user was paid.  Before the recovery the shares are the
deposits and are covered by Sets; after it every user is paid the portion of the deposit, once.
-/

namespace SetProtocol

/-- The rescue, the module that redeems and the world, with the history of deposits and payments. -/
structure RescueState where
  rescue : APYRescue
  issuer : BasicIssuanceModule
  world : World
  /-- What a user has deposited and not clawed back. -/
  deposited : Address → ℕ
  /-- By how much withdrawals have raised the balance of a token that a user has. -/
  received : Address → Address → ℕ

/-- The functions of the rescue, and what other accounts do with tokens.  In between, everything else
changes in any way that leaves the tokens of the rescue where they are. -/
inductive RescueAction where
  | deposit (sender : Address) (amount : ℕ)
  | recoverAssets (env : Env)
  | withdrawRecoveredFunds (sender : Address)
  | clawbackDepositedSets (sender : Address)
  | transfer (token sender recipient : Address) (amount : ℕ)
  | approve (token owner spender : Address) (amount : ℕ)
  | transferFrom (token spender sender recipient : Address) (amount : ℕ)
  | elsewhere (next : World) (issuer : BasicIssuanceModule)

namespace RescueState

open Shares

variable {s s' : RescueState} {action : RescueAction} {user : Address} {amount : ℕ}

/-- What an account has of a token. -/
def balanceOf (s : RescueState) (token account : Address) : ℕ :=
  s.world.balanceOf token account

def apyToken (s : RescueState) : Address := s.world.setToken.address

/-- Replace a token's state, but let an account keep its tokens and its allowances. -/
def keepAccount (account : Address) (old new : ERC20) : ERC20 :=
  { new with
    balances := Function.update new.balances account
      (max (old.balances account) (new.balances account))
    allowances := Function.update new.allowances account (old.allowances account) }

/-- Replace everything but the address of the Set and the tokens of the rescue. -/
def setElsewhere (s : RescueState) (next : World) (issuer : BasicIssuanceModule) : RescueState :=
  let token := { next.setToken with
    address := s.world.setToken.address
    erc20 := keepAccount s.rescue.address s.world.setToken.erc20 next.setToken.erc20 }
  let tokens := fun t ↦
    keepAccount s.rescue.address (s.world.chain.tokens t) (next.chain.tokens t)
  { s with
    issuer := issuer
    world := { next with setToken := token, chain := { next.chain with tokens := tokens } } }

def perform (s : RescueState) : RescueAction → Outcome RescueState
  | .deposit sender amount => do
    let (rescue, w) ← s.rescue.deposit s.world sender amount
    pure { s with
      rescue := rescue
      world := w
      deposited := Function.update s.deposited sender (s.deposited sender + amount) }
  | .recoverAssets env => do
    let (rescue, w) ← s.rescue.recoverAssets s.issuer s.world env
    pure { s with rescue := rescue, world := w }
  | .withdrawRecoveredFunds sender => do
    let (rescue, w) ← s.rescue.withdrawRecoveredFunds s.world sender
    pure { s with
      rescue := rescue
      world := w
      received := fun token ↦ Function.update (s.received token) sender
        (s.received token sender + (w.balanceOf token sender - s.balanceOf token sender)) }
  | .clawbackDepositedSets sender => do
    let (rescue, w) ← s.rescue.clawbackDepositedSets s.world sender
    pure { s with
      rescue := rescue, world := w, deposited := Function.update s.deposited sender 0 }
  | .transfer token sender recipient amount => do
    require (sender ≠ s.rescue.address) "a call by APYRescue"
    let w ← s.world.transfer token sender recipient amount
    pure { s with world := w }
  | .approve token owner spender amount => do
    require (owner ≠ s.rescue.address) "a call by APYRescue"
    let w ← s.world.approve token owner spender amount
    pure { s with world := w }
  | .transferFrom token spender sender recipient amount => do
    require (spender ≠ s.rescue.address) "a call by APYRescue"
    let w ← s.world.transferFrom token spender sender recipient amount
    pure { s with world := w }
  | .elsewhere next issuer => pure (s.setElsewhere next issuer)

/-! ## Invariants -/

/-- Before the recovery, the shares are the deposits and are covered by the Sets of the rescue. -/
structure Open (s : RescueState) : Prop where
  shares : s.rescue.shares = s.deposited
  totalShares : ∑ user, s.deposited user = s.rescue.totalShares
  covered : s.rescue.totalShares ≤ s.balanceOf s.apyToken s.rescue.address
  amounts : s.rescue.recoveredTokenAmounts = []
  received : ∀ token user, s.received token user = 0

/-- A user has not been paid of the recovered tokens yet. -/
structure Waiting (s : RescueState) (user : Address) : Prop where
  shares : s.rescue.shares user = s.deposited user
  received : ∀ entry ∈ s.rescue.recovered, s.received entry.1 user = 0

/-- A user has been paid the portion of the deposit. -/
structure Paid (s : RescueState) (user : Address) : Prop where
  shares : s.rescue.shares user = 0
  received : ∀ entry ∈ s.rescue.recovered, s.received entry.1 user =
    portion entry.2 s.rescue.totalShares (s.deposited user)

/-- After the recovery, every user is waiting or paid, and the rescue holds what is left. -/
structure Closed (s : RescueState) : Prop where
  totalShares : ∑ user, s.deposited user = s.rescue.totalShares
  amounts : s.rescue.recoveredTokens.length = s.rescue.recoveredTokenAmounts.length
  users : ∀ user, s.Waiting user ∨ s.Paid user
  funded : ∀ entry ∈ s.rescue.recovered,
    entry.2 ≤ s.balanceOf entry.1 s.rescue.address + ∑ user, s.received entry.1 user

/-- What every action keeps.  The rescue neither deposits nor lets others spend its tokens. -/
structure Orderly (s : RescueState) : Prop where
  nodup : s.rescue.recoveredTokens.Nodup
  allowsNobody : s.world.AllowsNobody s.rescue.address
  depositsNothing : s.deposited s.rescue.address = 0
  opened : s.rescue.recoveryExecuted = false → s.Open
  closed : s.rescue.recoveryExecuted = true → s.Closed

/-- A rescue right after its deployment, whose recovered tokens are all different.  It may own tokens
already. -/
structure Deployed (s : RescueState) : Prop where
  nodup : s.rescue.recoveredTokens.Nodup
  allowsNobody : s.world.AllowsNobody s.rescue.address
  recoveryExecuted : s.rescue.recoveryExecuted = false
  shares : ∀ user, s.rescue.shares user = 0
  totalShares : s.rescue.totalShares = 0
  amounts : s.rescue.recoveredTokenAmounts = []
  deposited : ∀ user, s.deposited user = 0
  received : ∀ token user, s.received token user = 0

theorem Deployed.orderly (h : s.Deployed) : s.Orderly := by
  refine ⟨h.nodup, h.allowsNobody, h.deposited _, ?_, ?_⟩
  · intro _
    refine ⟨?_, ?_, ?_, h.amounts, h.received⟩
    · funext user
      rw [h.shares, h.deposited]
    · rw [h.totalShares]
      exact Finset.sum_eq_zero fun user _ ↦ h.deposited user
    · rw [h.totalShares]
      exact Nat.zero_le _
  · intro hclosed
    rw [h.recoveryExecuted] at hclosed
    cases hclosed

theorem Closed.paid_le (h : s.Closed) {entry : Address × ℕ} (hentry : entry ∈ s.rescue.recovered) :
    ∑ user, s.received entry.1 user ≤ entry.2 := by
  apply sum_paid_le h.totalShares
  intro user
  rcases h.users user with hwaiting | hpaid
  · exact Or.inl (hwaiting.received entry hentry)
  · exact Or.inr (hpaid.received entry hentry)

/-- The rescue has no shares of its own. -/
theorem Orderly.own_shares (h : s.Orderly) (hclosed : s.rescue.recoveryExecuted = true) :
    s.rescue.shares s.rescue.address = 0 := by
  rcases (h.closed hclosed).users s.rescue.address with hwaiting | hpaid
  · rw [hwaiting.shares, h.depositsNothing]
  · exact hpaid.shares

/-! ### One step -/

/-- What leaves the tokens of the rescue alone keeps everything else, too. -/
theorem Orderly.of_spares {w : World} {issuer : BasicIssuanceModule} (h : s.Orderly)
    (hspares : World.Spares s.rescue.address s.world w) :
    Orderly { s with world := w, issuer := issuer } := by
  refine ⟨h.nodup, hspares.allowsNobody h.allowsNobody, h.depositsNothing, ?_, ?_⟩
  · intro hopen
    obtain ⟨hshares, htotal, hcovered, hamounts, hreceived⟩ := h.opened hopen
    refine ⟨hshares, htotal, hcovered.trans ?_, hamounts, hreceived⟩
    unfold balanceOf apyToken
    dsimp only
    rw [hspares.address]
    exact hspares.balance _
  · intro hclosed
    obtain ⟨htotal, hamounts, husers, hfunded⟩ := h.closed hclosed
    refine ⟨htotal, hamounts, ?_, ?_⟩
    · intro user
      rcases husers user with hwaiting | hpaid
      · exact Or.inl ⟨hwaiting.shares, hwaiting.received⟩
      · exact Or.inr ⟨hpaid.shares, hpaid.received⟩
    · intro entry hentry
      exact (hfunded entry hentry).trans (Nat.add_le_add_right (hspares.balance entry.1) _)

theorem setElsewhere_spares (s : RescueState) (next : World) (issuer : BasicIssuanceModule) :
    World.Spares s.rescue.address s.world (s.setElsewhere next issuer).world := by
  have htoken : ∀ token, ∃ new, (s.setElsewhere next issuer).world.erc20 token =
      keepAccount s.rescue.address (s.world.erc20 token) new := by
    intro token
    by_cases htoken : token = s.world.setToken.address
    · exact ⟨next.setToken.erc20, by simp [World.erc20, setElsewhere, htoken]⟩
    · exact ⟨next.chain.tokens token, by simp [World.erc20, setElsewhere, htoken]⟩
  refine ⟨⟨rfl, ?_⟩, ?_⟩
  · intro token
    obtain ⟨new, hnew⟩ := htoken token
    simp [hnew, keepAccount]
  · intro token
    obtain ⟨new, hnew⟩ := htoken token
    simp [World.balanceOf, hnew, keepAccount]

theorem deposit_orderly {rescue : APYRescue} {w : World}
    (h : s.rescue.deposit s.world user amount = .ok (rescue, w)) (hs : s.Orderly) :
    Orderly { s with
      rescue := rescue
      world := w
      deposited := Function.update s.deposited user (s.deposited user + amount) } := by
  obtain ⟨hopen, rfl, hmoved⟩ := APYRescue.deposit_ok h
  obtain ⟨hshares, htotal, hcovered, hamounts, hreceived⟩ := hs.opened hopen
  have hspares := World.transferFrom_spares hmoved hs.allowsNobody
  obtain ⟨hbalance, hself⟩ := World.transferFrom_paid hmoved hs.allowsNobody
  refine ⟨hs.nodup, hspares.allowsNobody hs.allowsNobody, ?_, ?_, ?_⟩
  · -- the rescue cannot spend its own Sets
    dsimp only
    by_cases huser : s.rescue.address = user
    · rw [huser, Function.update_self, hself huser.symm, ← huser, hs.depositsNothing]
    · rw [Function.update_of_ne huser, hs.depositsNothing]
  · intro _
    refine ⟨?_, ?_, ?_, hamounts, hreceived⟩
    · dsimp only
      rw [hshares]
    · have hsum := sum_update s.deposited user (s.deposited user + amount)
      dsimp only
      omega
    · unfold balanceOf apyToken at hcovered ⊢
      dsimp only
      rw [hspares.address, hbalance]
      exact Nat.add_le_add_right hcovered amount
  · intro hclosed
    rw [hopen] at hclosed
    cases hclosed

/-- A clawback returns the deposit. -/
theorem clawback_returns {rescue : APYRescue} {w : World}
    (h : s.rescue.clawbackDepositedSets s.world user = .ok (rescue, w)) (hs : s.Orderly) :
    World.SameAllowances s.rescue.address s.world w ∧
      w.balanceOf s.apyToken s.rescue.address + s.deposited user =
        s.balanceOf s.apyToken s.rescue.address ∧
      w.balanceOf s.apyToken user = s.balanceOf s.apyToken user + s.deposited user := by
  obtain ⟨hopen, -, -, hmoved⟩ := APYRescue.clawbackDepositedSets_ok h
  have hshares := (hs.opened hopen).shares
  have hself : user = s.rescue.address → s.rescue.shares user = 0 := by
    rintro rfl
    rw [hshares, hs.depositsNothing]
  obtain ⟨hsame, -, hpaid, hreturned⟩ := World.transfer_pays hmoved hself
  rw [hshares] at hpaid hreturned
  exact ⟨hsame, hpaid, hreturned⟩

theorem clawback_orderly {rescue : APYRescue} {w : World}
    (h : s.rescue.clawbackDepositedSets s.world user = .ok (rescue, w)) (hs : s.Orderly) :
    Orderly { s with
      rescue := rescue, world := w, deposited := Function.update s.deposited user 0 } := by
  obtain ⟨hsame, hpaid, -⟩ := clawback_returns h hs
  obtain ⟨hopen, hle, rfl, -⟩ := APYRescue.clawbackDepositedSets_ok h
  obtain ⟨hshares, htotal, hcovered, hamounts, hreceived⟩ := hs.opened hopen
  rw [hshares] at hle
  refine ⟨hs.nodup, hsame.allowsNobody hs.allowsNobody, ?_, ?_, ?_⟩
  · dsimp only
    rw [Function.update_apply, hs.depositsNothing, ite_self]
  · intro _
    refine ⟨?_, ?_, ?_, hamounts, hreceived⟩
    · dsimp only
      rw [hshares]
    · have hsum := sum_update s.deposited user 0
      dsimp only
      rw [hshares]
      omega
    · unfold balanceOf apyToken at hcovered ⊢
      unfold balanceOf apyToken at hpaid
      dsimp only
      rw [hsame.address, hshares]
      omega
  · intro hclosed
    rw [hopen] at hclosed
    cases hclosed

/-- The recovery records what the rescue has of every recovered token, and nobody has been paid yet. -/
theorem recoverAssets_orderly {rescue : APYRescue} {w : World} {env : Env}
    (h : s.rescue.recoverAssets s.issuer s.world env = .ok (rescue, w)) (hs : s.Orderly) :
    Orderly { s with rescue := rescue, world := w } := by
  obtain ⟨hopen, hsame, rfl⟩ := APYRescue.recoverAssets_ok h
  obtain ⟨hshares, htotal, -, hamounts, hreceived⟩ := hs.opened hopen
  refine ⟨hs.nodup, hsame.allowsNobody hs.allowsNobody, hs.depositsNothing, ?_, ?_⟩
  · intro hopened
    cases hopened
  · intro _
    refine ⟨htotal, ?_, ?_, ?_⟩
    · simp [hamounts]
    · intro user
      exact Or.inl ⟨congrFun hshares user, fun entry _ ↦ hreceived entry.1 user⟩
    · intro entry hentry
      have hrecorded := List.zip_map' (f := id) (l := s.rescue.recoveredTokens)
        (g := fun token ↦ w.balanceOf token s.rescue.address)
      rw [List.map_id] at hrecorded
      simp only [APYRescue.recovered, hamounts, List.nil_append, hrecorded, List.mem_map] at hentry
      obtain ⟨token, -, rfl⟩ := hentry
      exact Nat.le_add_right _ _

/-- Together with what a withdrawal pays, a user has the portion of the deposit. -/
theorem Closed.received_add (h : s.Closed) (user : Address) {entry : Address × ℕ}
    (hentry : entry ∈ s.rescue.recovered) :
    s.received entry.1 user + portion entry.2 s.rescue.totalShares (s.rescue.shares user) =
      portion entry.2 s.rescue.totalShares (s.deposited user) := by
  rcases h.users user with hwaiting | hpaid
  · rw [hwaiting.received entry hentry, hwaiting.shares, Nat.zero_add]
  · rw [hpaid.received entry hentry, hpaid.shares, portion_zero, Nat.add_zero]

/-- What a withdrawal pays: the portion of the shares that the caller has left. -/
theorem withdraw_pays {rescue : APYRescue} {w : World}
    (h : s.rescue.withdrawRecoveredFunds s.world user = .ok (rescue, w)) (hs : s.Orderly) :
    s.rescue.recoveryExecuted = true ∧
      rescue = { s.rescue with shares := Function.update s.rescue.shares user 0 } ∧
      s.rescue.PaidOut user s.world w := by
  -- a successful call comes after the recovery
  have hclosed : s.rescue.recoveryExecuted = true := by
    simp only [APYRescue.withdrawRecoveredFunds, Outcome.bind_eq_ok, Outcome.require_eq_ok] at h
    obtain ⟨_, hclosed, -⟩ := h
    exact hclosed
  apply APYRescue.withdrawRecoveredFunds_ok h hs.nodup (hs.closed hclosed).amounts
  rintro rfl
  exact hs.own_shares hclosed

theorem withdraw_orderly {rescue : APYRescue} {w : World}
    (h : s.rescue.withdrawRecoveredFunds s.world user = .ok (rescue, w)) (hs : s.Orderly) :
    Orderly { s with
      rescue := rescue
      world := w
      received := fun token ↦ Function.update (s.received token) user
        (s.received token user + (w.balanceOf token user - s.balanceOf token user)) } := by
  obtain ⟨hclosed, rfl, hpaidOut⟩ := withdraw_pays h hs
  have hbefore := hs.closed hclosed
  have hraised : ∀ entry ∈ s.rescue.recovered,
      w.balanceOf entry.1 user - s.balanceOf entry.1 user =
        portion entry.2 s.rescue.totalShares (s.rescue.shares user) := by
    intro entry hentry
    rw [hpaidOut.received entry hentry]
    exact Nat.add_sub_cancel_left _ _
  refine ⟨hs.nodup, hpaidOut.sameAllowances.allowsNobody hs.allowsNobody, hs.depositsNothing, ?_, ?_⟩
  · intro hopen
    rw [show s.rescue.recoveryExecuted = false from hopen] at hclosed
    cases hclosed
  · intro _
    refine ⟨hbefore.totalShares, hbefore.amounts, ?_, ?_⟩
    · intro other
      by_cases hother : other = user
      · subst hother
        refine Or.inr ⟨Function.update_self _ _ _, ?_⟩
        intro entry hentry
        dsimp only
        rw [Function.update_self, hraised entry hentry, hbefore.received_add other hentry]
      · rcases hbefore.users other with hwaiting | hpaid
        · refine Or.inl ⟨(Function.update_of_ne hother _ _).trans hwaiting.shares, ?_⟩
          intro entry hentry
          exact (Function.update_of_ne hother _ _).trans (hwaiting.received entry hentry)
        · refine Or.inr ⟨(Function.update_of_ne hother _ _).trans hpaid.shares, ?_⟩
          intro entry hentry
          exact (Function.update_of_ne hother _ _).trans (hpaid.received entry hentry)
    · intro entry hentry
      have hfunded := hbefore.funded entry hentry
      have hpaid := hpaidOut.paid entry hentry
      have hsum := sum_update (s.received entry.1) user
        (s.received entry.1 user + portion entry.2 s.rescue.totalShares (s.rescue.shares user))
      unfold balanceOf at hfunded ⊢
      dsimp only
      rw [← hraised entry hentry] at hpaid hsum
      unfold balanceOf at hpaid hsum
      omega

theorem step_orderly (hstep : s.perform action = .ok s') (hs : s.Orderly) : s'.Orderly := by
  cases action with
  | deposit sender amount =>
    simp only [perform, Outcome.bind_eq_ok, Outcome.pure_eq_ok, Prod.exists] at hstep
    obtain ⟨rescue, w, hcall, rfl⟩ := hstep
    exact deposit_orderly hcall hs
  | recoverAssets env =>
    simp only [perform, Outcome.bind_eq_ok, Outcome.pure_eq_ok, Prod.exists] at hstep
    obtain ⟨rescue, w, hcall, rfl⟩ := hstep
    exact recoverAssets_orderly hcall hs
  | withdrawRecoveredFunds sender =>
    simp only [perform, Outcome.bind_eq_ok, Outcome.pure_eq_ok, Prod.exists] at hstep
    obtain ⟨rescue, w, hcall, rfl⟩ := hstep
    exact withdraw_orderly hcall hs
  | clawbackDepositedSets sender =>
    simp only [perform, Outcome.bind_eq_ok, Outcome.pure_eq_ok, Prod.exists] at hstep
    obtain ⟨rescue, w, hcall, rfl⟩ := hstep
    exact clawback_orderly hcall hs
  | transfer token sender recipient amount =>
    simp only [perform, Outcome.bind_eq_ok, Outcome.require_eq_ok, Outcome.pure_eq_ok] at hstep
    obtain ⟨_, hsender, w, hcall, rfl⟩ := hstep
    exact hs.of_spares (World.transfer_spares hcall hsender)
  | approve token owner spender amount =>
    simp only [perform, Outcome.bind_eq_ok, Outcome.require_eq_ok, Outcome.pure_eq_ok] at hstep
    obtain ⟨_, howner, w, hcall, rfl⟩ := hstep
    exact hs.of_spares (World.approve_spares hcall howner)
  | transferFrom token spender sender recipient amount =>
    simp only [perform, Outcome.bind_eq_ok, Outcome.require_eq_ok, Outcome.pure_eq_ok] at hstep
    obtain ⟨_, -, w, hcall, rfl⟩ := hstep
    exact hs.of_spares (World.transferFrom_spares hcall hs.allowsNobody)
  | elsewhere next issuer =>
    obtain rfl := Outcome.pure_eq_ok.mp hstep
    exact hs.of_spares (s.setElsewhere_spares next issuer)

/-! ### Whole runs -/

/-- The rescue pays out soundly from this state on. -/
structure PaysSoundly (s : RescueState) : Prop where
  /-- Before the recovery the shares are the deposits, and Sets cover them. -/
  opened : s.rescue.recoveryExecuted = false →
    (∀ user, s.rescue.shares user = s.deposited user) ∧
      s.rescue.totalShares = ∑ user, s.rescue.shares user ∧
      s.rescue.totalShares ≤ s.balanceOf s.apyToken s.rescue.address
  /-- A clawback returns what the user has deposited and not clawed back. -/
  clawback : ∀ user t, s.perform (.clawbackDepositedSets user) = .ok t →
    t.balanceOf s.apyToken user = s.balanceOf s.apyToken user + s.deposited user ∧
      t.balanceOf s.apyToken s.rescue.address + s.deposited user =
        s.balanceOf s.apyToken s.rescue.address
  /-- The recovery records the balances, and the deposits stay. -/
  recovery : ∀ env t, s.perform (.recoverAssets env) = .ok t →
    t.rescue.recoveredTokenAmounts =
      t.rescue.recoveredTokens.map (t.balanceOf · t.rescue.address) ∧ t.deposited = s.deposited
  /-- A withdrawal pays the portion of the deposit to a user who is waiting, and nothing to a user who
  was paid, who has received the portion then. -/
  withdrawal : ∀ user t, s.perform (.withdrawRecoveredFunds user) = .ok t →
    t.Paid user ∧ ∀ entry ∈ s.rescue.recovered, t.balanceOf entry.1 user =
      s.balanceOf entry.1 user + portion entry.2 s.rescue.totalShares (s.rescue.shares user)
  /-- After the recovery every user is waiting or paid, the payments do not exceed the recorded amounts,
  and neither deposits nor clawbacks are possible. -/
  closed : s.rescue.recoveryExecuted = true →
    (∀ user, s.Waiting user ∨ s.Paid user) ∧
      (∀ entry ∈ s.rescue.recovered, ∑ user, s.received entry.1 user ≤ entry.2) ∧
      (∀ user amount t, s.perform (.deposit user amount) ≠ .ok t) ∧
      ∀ user t, s.perform (.clawbackDepositedSets user) ≠ .ok t

theorem Orderly.opened_paysSoundly (hs : s.Orderly) (hopen : s.rescue.recoveryExecuted = false) :
    (∀ user, s.rescue.shares user = s.deposited user) ∧
      s.rescue.totalShares = ∑ user, s.rescue.shares user ∧
      s.rescue.totalShares ≤ s.balanceOf s.apyToken s.rescue.address := by
  obtain ⟨hshares, htotal, hcovered, -, -⟩ := hs.opened hopen
  refine ⟨congrFun hshares, ?_, hcovered⟩
  rw [hshares, htotal]

theorem perform_deposit_open {t : RescueState} (h : s.perform (.deposit user amount) = .ok t) :
    s.rescue.recoveryExecuted = false := by
  simp only [perform, Outcome.bind_eq_ok, Prod.exists] at h
  obtain ⟨rescue, w, hcall, -⟩ := h
  exact (APYRescue.deposit_ok hcall).1

theorem perform_clawback_open {t : RescueState}
    (h : s.perform (.clawbackDepositedSets user) = .ok t) : s.rescue.recoveryExecuted = false := by
  simp only [perform, Outcome.bind_eq_ok, Prod.exists] at h
  obtain ⟨rescue, w, hcall, -⟩ := h
  exact (APYRescue.clawbackDepositedSets_ok hcall).1

theorem Orderly.closed_paysSoundly (hs : s.Orderly) (hclosed : s.rescue.recoveryExecuted = true) :
    (∀ user, s.Waiting user ∨ s.Paid user) ∧
      (∀ entry ∈ s.rescue.recovered, ∑ user, s.received entry.1 user ≤ entry.2) ∧
      (∀ user amount t, s.perform (.deposit user amount) ≠ .ok t) ∧
      ∀ user t, s.perform (.clawbackDepositedSets user) ≠ .ok t := by
  have hafter := hs.closed hclosed
  refine ⟨hafter.users, fun entry ↦ hafter.paid_le, ?_, ?_⟩
  · intro user amount t h
    rw [perform_deposit_open h] at hclosed
    cases hclosed
  · intro user t h
    rw [perform_clawback_open h] at hclosed
    cases hclosed

theorem Orderly.withdrawal_paysSoundly (hs : s.Orderly) {t : RescueState}
    (h : s.perform (.withdrawRecoveredFunds user) = .ok t) :
    t.Paid user ∧ ∀ entry ∈ s.rescue.recovered, t.balanceOf entry.1 user =
      s.balanceOf entry.1 user + portion entry.2 s.rescue.totalShares (s.rescue.shares user) := by
  simp only [perform, Outcome.bind_eq_ok, Outcome.pure_eq_ok, Prod.exists] at h
  obtain ⟨rescue, w, hcall, rfl⟩ := h
  obtain ⟨hclosed, rfl, hpaidOut⟩ := withdraw_pays hcall hs
  refine ⟨⟨Function.update_self _ _ _, ?_⟩, hpaidOut.received⟩
  intro entry hentry
  have hraised := hpaidOut.received entry hentry
  dsimp only
  unfold balanceOf at hraised ⊢
  rw [Function.update_self, hraised, Nat.add_sub_cancel_left]
  exact (hs.closed hclosed).received_add user hentry

theorem Orderly.paysSoundly (hs : s.Orderly) : s.PaysSoundly := by
  refine ⟨hs.opened_paysSoundly, ?_, ?_, fun _ _ ↦ hs.withdrawal_paysSoundly, hs.closed_paysSoundly⟩
  · intro user t h
    simp only [perform, Outcome.bind_eq_ok, Outcome.pure_eq_ok, Prod.exists] at h
    obtain ⟨rescue, w, hcall, rfl⟩ := h
    obtain ⟨-, hpaid, hreturned⟩ := clawback_returns hcall hs
    exact ⟨hreturned, hpaid⟩
  · intro env t h
    simp only [perform, Outcome.bind_eq_ok, Outcome.pure_eq_ok, Prod.exists] at h
    obtain ⟨rescue, w, hcall, rfl⟩ := h
    obtain ⟨hopen, -, rfl⟩ := APYRescue.recoverAssets_ok hcall
    refine ⟨?_, rfl⟩
    dsimp only
    rw [(hs.opened hopen).amounts, List.nil_append]
    rfl

/-- A rescue pays out soundly in every state of a run. -/
theorem run_paysSoundly {trace : List (RescueState × RescueAction)} (h : Trace perform s trace s')
    (hs : s.Deployed) : (∀ entry ∈ trace, entry.1.PaysSoundly) ∧ s'.PaysSoundly := by
  obtain ⟨hstates, hlast⟩ :=
    h.invariant (I := Orderly) (fun _ _ _ hstep ↦ step_orderly hstep) hs.orderly
  exact ⟨fun entry hentry ↦ (hstates entry hentry).paysSoundly, hlast.paysSoundly⟩

namespace RescueSample

/-- The users 3 and 4 have Sets, which the rescue 7 may spend. -/
def setToken : SetToken :=
  let created := SetToken.new 6 [45] [10 ^ 18] [20] 2
  { (created.initializeModule 20).getD created with
    erc20 := { ERC20.holding 18 [(3, 100), (4, 50)] 0 with
      allowances := fun owner _ ↦ if owner = 7 then 0 else 150 } }

/-- The token 45 is the only component and the only recovered token. -/
def start : RescueState where
  rescue := ⟨7, 8, fun _ ↦ 0, 0, [45], [], false⟩
  issuer := ⟨20, 0, false⟩
  world := {
    controller := { Controller.enabling 5 [20] with isSet := fun a ↦ a == 6 }
    setToken := setToken
    chain := { tokens := fun _ ↦ ERC20.holding 18 [(6, 150), (9, 2)] 0 }
    log := [] }
  deposited := fun _ ↦ 0
  received := fun _ _ ↦ 0

def first : RescueState := (start.perform (.deposit 3 100)).getD start

def second : RescueState := (first.perform (.deposit 4 50)).getD start

/-- Two tokens are sent to the rescue directly. -/
def donated : RescueState := (second.perform (.transfer 45 9 7 2)).getD start

def recovered : RescueState := (donated.perform (.recoverAssets (Env.plain 8 0))).getD start

def paid : RescueState := (recovered.perform (.withdrawRecoveredFunds 3)).getD start

/-- Of 152 recovered tokens the user 3 is paid two thirds, rounded down. -/
theorem recovered_paysSoundly :
    recovered.rescue.recoveredTokenAmounts = [152] ∧ paid.received 45 3 = 101 ∧
      donated.PaysSoundly ∧ recovered.PaysSoundly ∧ paid.PaysSoundly := by
  have hfirst : start.perform (.deposit 3 100) = .ok first :=
    Outcome.eq_ok_getD start (by decide +kernel)
  have hsecond : first.perform (.deposit 4 50) = .ok second :=
    Outcome.eq_ok_getD start (by decide +kernel)
  have hdonate : second.perform (.transfer 45 9 7 2) = .ok donated :=
    Outcome.eq_ok_getD start (by decide +kernel)
  have hrecover : donated.perform (.recoverAssets (Env.plain 8 0)) = .ok recovered :=
    Outcome.eq_ok_getD start (by decide +kernel)
  have hpay : recovered.perform (.withdrawRecoveredFunds 3) = .ok paid :=
    Outcome.eq_ok_getD start (by decide +kernel)
  have hallowsNobody : start.world.AllowsNobody 7 := by
    intro token spender
    by_cases htoken : token = start.world.setToken.address
    · rw [World.erc20, if_pos htoken]
      rfl
    · rw [World.erc20, if_neg htoken]
      rfl
  have hdeployed : start.Deployed :=
    ⟨by decide, hallowsNobody, rfl, fun _ ↦ rfl, rfl, rfl, fun _ ↦ rfl, fun _ _ ↦ rfl⟩
  have hrun : Trace perform start [(start, .deposit 3 100), (first, .deposit 4 50),
      (second, .transfer 45 9 7 2), (donated, .recoverAssets (Env.plain 8 0)),
      (recovered, .withdrawRecoveredFunds 3)] paid :=
    .cons hfirst (.cons hsecond (.cons hdonate (.cons hrecover (.cons hpay (.nil paid)))))
  obtain ⟨hstates, hlast⟩ := run_paysSoundly hrun hdeployed
  refine ⟨by decide +kernel, by decide +kernel, ?_, ?_, hlast⟩
  · exact hstates (donated, .recoverAssets (Env.plain 8 0)) (by simp)
  · exact hstates (recovered, .withdrawRecoveredFunds 3) (by simp)

end RescueSample

end RescueState

end SetProtocol
