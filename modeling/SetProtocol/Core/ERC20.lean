import Mathlib.Logic.Function.Basic
import SetProtocol.Lib.AddressArrayUtils

/-!
# A standard ERC20 token

The OpenZeppelin token: a supply, the balances and the allowances.  The SetToken inherits from it,
and the components are instances of it.  Transfers between two different accounts move exactly the
amount; a transfer to the sender itself leaves the balances as they are.
-/

namespace SetProtocol

structure ERC20 where
  totalSupply : ℕ
  balances : Address → ℕ
  allowances : Address → Address → ℕ
  decimals : ℕ

namespace ERC20

/-- A token that nobody holds yet. -/
def empty (decimals : ℕ) : ERC20 where
  totalSupply := 0
  balances := fun _ ↦ 0
  allowances := fun _ _ ↦ 0
  decimals := decimals

/-- A token with the given balances, whose holders all allow each other `allowance`. -/
def holding (decimals : ℕ) (holders : List (Address × ℕ)) (allowance : ℕ) : ERC20 where
  totalSupply := (holders.map Prod.snd).sum
  balances := fun a ↦ ((holders.find? (·.1 == a)).map Prod.snd).getD 0
  allowances := fun _ _ ↦ allowance
  decimals := decimals

/-- Overwrite one balance. -/
def setBalance (t : ERC20) (account : Address) (amount : ℕ) : ERC20 :=
  { t with balances := Function.update t.balances account amount }

/-- `_transfer`: the recipient's balance is read after the sender's was lowered. -/
def transfer (t : ERC20) (sender recipient : Address) (amount : ℕ) : Outcome ERC20 := do
  require (sender ≠ 0) "ERC20: transfer from the zero address"
  require (recipient ≠ 0) "ERC20: transfer to the zero address"
  require (amount ≤ t.balances sender) "ERC20: transfer amount exceeds balance"
  let t := t.setBalance sender (t.balances sender - amount)
  let received ← SafeMath.add (t.balances recipient) amount
  pure (t.setBalance recipient received)

def mint (t : ERC20) (account : Address) (amount : ℕ) : Outcome ERC20 := do
  require (account ≠ 0) "ERC20: mint to the zero address"
  let supply ← SafeMath.add t.totalSupply amount
  let balance ← SafeMath.add (t.balances account) amount
  pure ({ t with totalSupply := supply }.setBalance account balance)

def burn (t : ERC20) (account : Address) (amount : ℕ) : Outcome ERC20 := do
  require (account ≠ 0) "ERC20: burn from the zero address"
  require (amount ≤ t.balances account) "ERC20: burn amount exceeds balance"
  let supply ← SafeMath.sub t.totalSupply amount
  pure ({ t with totalSupply := supply }.setBalance account (t.balances account - amount))

def approve (t : ERC20) (owner spender : Address) (amount : ℕ) : Outcome ERC20 := do
  require (owner ≠ 0) "ERC20: approve from the zero address"
  require (spender ≠ 0) "ERC20: approve to the zero address"
  let granted := Function.update (t.allowances owner) spender amount
  pure { t with allowances := Function.update t.allowances owner granted }

/-- `transferFrom` as called by `spender`. -/
def transferFrom (t : ERC20) (spender sender recipient : Address) (amount : ℕ) :
    Outcome ERC20 := do
  let t ← t.transfer sender recipient amount
  require (amount ≤ t.allowances sender spender) "ERC20: transfer amount exceeds allowance"
  t.approve sender spender (t.allowances sender spender - amount)

/-- `increaseAllowance` as called by `owner`. -/
def increaseAllowance (t : ERC20) (owner spender : Address) (addedValue : ℕ) : Outcome ERC20 := do
  let amount ← SafeMath.add (t.allowances owner spender) addedValue
  t.approve owner spender amount

/-- `decreaseAllowance` as called by `owner`. -/
def decreaseAllowance (t : ERC20) (owner spender : Address) (subtractedValue : ℕ) :
    Outcome ERC20 := do
  require (subtractedValue ≤ t.allowances owner spender) "ERC20: decreased allowance below zero"
  t.approve owner spender (t.allowances owner spender - subtractedValue)

/-! ## What the operations do to supply and balances -/

@[simp] theorem setBalance_totalSupply (t : ERC20) (account : Address) (amount : ℕ) :
    (t.setBalance account amount).totalSupply = t.totalSupply := rfl

@[simp] theorem setBalance_decimals (t : ERC20) (account : Address) (amount : ℕ) :
    (t.setBalance account amount).decimals = t.decimals := rfl

@[simp] theorem setBalance_allowances (t : ERC20) (account : Address) (amount : ℕ) :
    (t.setBalance account amount).allowances = t.allowances := rfl

@[simp] theorem setBalance_balances (t : ERC20) (account other : Address) (amount : ℕ) :
    (t.setBalance account amount).balances other =
      if other = account then amount else t.balances other := by
  simp [setBalance, Function.update_apply]

/-- A transfer succeeds only between proper accounts with enough balance. -/
theorem transfer_ok {t t' : ERC20} {sender recipient : Address} {amount : ℕ}
    (h : t.transfer sender recipient amount = .ok t') :
    t'.totalSupply = t.totalSupply ∧ t'.decimals = t.decimals ∧ t'.allowances = t.allowances ∧
      amount ≤ t.balances sender ∧
      (sender = recipient → t'.balances = t.balances) ∧
      (sender ≠ recipient →
        t'.balances sender = t.balances sender - amount ∧
        t'.balances recipient = t.balances recipient + amount) ∧
      ∀ other, other ≠ sender → other ≠ recipient → t'.balances other = t.balances other := by
  simp only [transfer, Outcome.bind_eq_ok, Outcome.require_eq_ok, SafeMath.add_eq_ok,
    Outcome.pure_eq_ok] at h
  obtain ⟨_, _, _, _, _, hle, _, ⟨_, rfl⟩, rfl⟩ := h
  refine ⟨rfl, rfl, rfl, hle, ?_, ?_, ?_⟩
  · rintro rfl
    funext other
    by_cases hother : other = sender
    · subst hother
      simp [hle]
    · simp [hother]
  · intro hne
    simp [hne, hne.symm]
  · intro other hsender hrecipient
    simp [hsender, hrecipient]

theorem mint_ok {t t' : ERC20} {account : Address} {amount : ℕ}
    (h : t.mint account amount = .ok t') :
    t'.totalSupply = t.totalSupply + amount ∧ t'.decimals = t.decimals ∧
      t'.balances account = t.balances account + amount ∧
      ∀ other, other ≠ account → t'.balances other = t.balances other := by
  simp only [mint, Outcome.bind_eq_ok, Outcome.require_eq_ok, SafeMath.add_eq_ok,
    Outcome.pure_eq_ok] at h
  obtain ⟨_, _, _, ⟨_, rfl⟩, _, ⟨_, rfl⟩, rfl⟩ := h
  refine ⟨rfl, rfl, by simp, ?_⟩
  intro other hother
  simp [hother]

theorem transfer_ne_zero {t t' : ERC20} {sender recipient : Address} {amount : ℕ}
    (h : t.transfer sender recipient amount = .ok t') : sender ≠ 0 ∧ recipient ≠ 0 := by
  simp only [transfer, Outcome.bind_eq_ok, Outcome.require_eq_ok] at h
  obtain ⟨_, hsender, _, hrecipient, -⟩ := h
  exact ⟨hsender, hrecipient⟩

/-- What each account has after a transfer, also when both ends are the same account. -/
theorem transfer_balances {t t' : ERC20} {sender recipient : Address} {amount : ℕ}
    (h : t.transfer sender recipient amount = .ok t') (a : Address) :
    t'.balances a + (if a = sender then amount else 0) =
      t.balances a + if a = recipient then amount else 0 := by
  obtain ⟨-, -, -, hle, hself, hends, hother⟩ := transfer_ok h
  by_cases hne : sender = recipient
  · rw [hself hne, hne]
  · obtain ⟨hsender, hrecipient⟩ := hends hne
    by_cases ha : a = sender
    · rw [if_pos ha, if_neg (ha ▸ hne), ha, hsender]
      omega
    · by_cases hb : a = recipient
      · rw [if_neg ha, if_pos hb, hb, hrecipient, Nat.add_zero]
      · rw [if_neg ha, if_neg hb, hother a ha hb]

theorem burn_ok {t t' : ERC20} {account : Address} {amount : ℕ}
    (h : t.burn account amount = .ok t') :
    amount ≤ t.totalSupply ∧ t'.totalSupply = t.totalSupply - amount ∧
      t'.decimals = t.decimals ∧ amount ≤ t.balances account ∧
      t'.balances account = t.balances account - amount ∧
      ∀ other, other ≠ account → t'.balances other = t.balances other := by
  simp only [burn, Outcome.bind_eq_ok, Outcome.require_eq_ok, SafeMath.sub_eq_ok,
    Outcome.pure_eq_ok] at h
  obtain ⟨_, _, _, hbalance, _, ⟨hsupply, rfl⟩, rfl⟩ := h
  refine ⟨hsupply, rfl, rfl, hbalance, by simp, ?_⟩
  intro other hother
  simp [hother]

theorem approve_ok {t t' : ERC20} {owner spender : Address} {amount : ℕ}
    (h : t.approve owner spender amount = .ok t') :
    t'.totalSupply = t.totalSupply ∧ t'.decimals = t.decimals ∧ t'.balances = t.balances := by
  simp only [approve, Outcome.bind_eq_ok, Outcome.require_eq_ok, Outcome.pure_eq_ok] at h
  obtain ⟨_, _, _, _, rfl⟩ := h
  exact ⟨rfl, rfl, rfl⟩

/-- A delegated transfer moves the balances as the transfer it contains. -/
theorem transferFrom_ok {t t' : ERC20} {spender sender recipient : Address} {amount : ℕ}
    (h : t.transferFrom spender sender recipient amount = .ok t') :
    ∃ moved, t.transfer sender recipient amount = .ok moved ∧
      t'.totalSupply = moved.totalSupply ∧ t'.decimals = moved.decimals ∧
      t'.balances = moved.balances := by
  simp only [transferFrom, Outcome.bind_eq_ok, Outcome.require_eq_ok] at h
  obtain ⟨moved, hmoved, _, _, happrove⟩ := h
  exact ⟨moved, hmoved, approve_ok happrove⟩

/-- The spender's allowance covers the amount and is lowered by it. -/
theorem transferFrom_allowances {t t' : ERC20} {spender sender recipient : Address} {amount : ℕ}
    (h : t.transferFrom spender sender recipient amount = .ok t') :
    amount ≤ t.allowances sender spender ∧
      t'.allowances = Function.update t.allowances sender (Function.update (t.allowances sender)
        spender (t.allowances sender spender - amount)) := by
  simp only [transferFrom, approve, Outcome.bind_eq_ok, Outcome.require_eq_ok,
    Outcome.pure_eq_ok] at h
  obtain ⟨moved, hmoved, _, hallowed, _, -, _, -, rfl⟩ := h
  obtain ⟨-, -, hsame, -⟩ := transfer_ok hmoved
  rw [hsame] at hallowed
  exact ⟨hallowed, by rw [hsame]⟩

end ERC20

end SetProtocol
