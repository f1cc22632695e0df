import SetProtocol.Core.ModuleBase

/-!
# What an account holds

Balances and allowances of one account over all tokens, the Set among them.  An account that allows
nobody to spend its tokens loses none by what other accounts do.
-/

namespace SetProtocol

open ModuleBase

namespace World

variable {w w' : World} {env : Env} {amount : ℕ}
  {token account module sender recipient owner spender : Address}

def balanceOf (w : World) (token account : Address) : ℕ :=
  (w.erc20 token).balances account

/-! ## Single operations -/

theorem erc20_setErc20_eq (w : World) (token : Address) (state : ERC20) (t : Address) :
    (w.setErc20 token state).erc20 t = if t = token then state else w.erc20 t := by
  split_ifs with ht
  · rw [ht, erc20_setErc20]
  · exact w.erc20_setErc20_of_ne state ht

theorem setErc20_address (w : World) (token : Address) (state : ERC20) :
    (w.setErc20 token state).setToken.address = w.setToken.address := by
  unfold setErc20
  split_ifs <;> rfl

/-- One token is in a new state. -/
structure TokenWrite (w w' : World) (token : Address) (state : ERC20) : Prop where
  address : w'.setToken.address = w.setToken.address
  erc20 : ∀ t, w'.erc20 t = if t = token then state else w.erc20 t

theorem setErc20_tokenWrite (w : World) (token : Address) (state : ERC20) :
    w.TokenWrite (w.setErc20 token state) token state :=
  ⟨w.setErc20_address token state, w.erc20_setErc20_eq token state⟩

theorem transfer_tokenWrite (h : w.transfer token sender recipient amount = .ok w') :
    ∃ state, (w.erc20 token).transfer sender recipient amount = .ok state ∧
      w.TokenWrite w' token state := by
  simp only [transfer, Outcome.bind_eq_ok, Outcome.pure_eq_ok] at h
  obtain ⟨state, hstate, rfl⟩ := h
  have hwrite := w.setErc20_tokenWrite token state
  exact ⟨state, hstate, hwrite.address, hwrite.erc20⟩

theorem approve_tokenWrite (h : w.approve token owner spender amount = .ok w') :
    ∃ state, (w.erc20 token).approve owner spender amount = .ok state ∧
      w.TokenWrite w' token state := by
  simp only [approve, Outcome.bind_eq_ok, Outcome.pure_eq_ok] at h
  obtain ⟨state, hstate, rfl⟩ := h
  exact ⟨state, hstate, w.setErc20_tokenWrite token state⟩

theorem transferFrom_tokenWrite
    (h : w.transferFrom token spender sender recipient amount = .ok w') :
    ∃ state, (w.erc20 token).transferFrom spender sender recipient amount = .ok state ∧
      w.TokenWrite w' token state := by
  simp only [transferFrom, Outcome.bind_eq_ok, Outcome.pure_eq_ok] at h
  obtain ⟨state, hstate, rfl⟩ := h
  have hwrite := w.setErc20_tokenWrite token state
  exact ⟨state, hstate, hwrite.address, hwrite.erc20⟩

/-! ## Allowances -/

/-- Nobody may spend tokens of the account. -/
def AllowsNobody (w : World) (account : Address) : Prop :=
  ∀ token spender, (w.erc20 token).allowances account spender = 0

/-- The account approves and is spent from by nobody. -/
structure SameAllowances (account : Address) (w w' : World) : Prop where
  address : w'.setToken.address = w.setToken.address
  allowances : ∀ token, (w'.erc20 token).allowances account = (w.erc20 token).allowances account

theorem SameAllowances.refl (w : World) : SameAllowances account w w :=
  ⟨rfl, fun _ ↦ rfl⟩

theorem SameAllowances.trans {w₁ w₂ w₃ : World} (h : SameAllowances account w₁ w₂)
    (h' : SameAllowances account w₂ w₃) : SameAllowances account w₁ w₃ :=
  ⟨h'.address.trans h.address, fun token ↦ (h'.allowances token).trans (h.allowances token)⟩

theorem SameAllowances.allowsNobody (h : SameAllowances account w w') (hw : w.AllowsNobody account) :
    w'.AllowsNobody account := by
  intro token spender
  rw [h.allowances token]
  exact hw token spender

theorem TokenWrite.sameAllowances {state : ERC20} (h : w.TokenWrite w' token state)
    (hstate : state.allowances account = (w.erc20 token).allowances account) :
    SameAllowances account w w' := by
  refine ⟨h.address, ?_⟩
  intro t
  rw [h.erc20 t]
  split_ifs with ht
  · rw [ht, hstate]
  · rfl

theorem transfer_sameAllowances (h : w.transfer token sender recipient amount = .ok w') :
    SameAllowances account w w' := by
  obtain ⟨state, hstate, hwrite⟩ := transfer_tokenWrite h
  obtain ⟨-, -, hallowances, -⟩ := ERC20.transfer_ok hstate
  exact hwrite.sameAllowances (congrFun hallowances account)

theorem strictInvokeTransfer_sameAllowances
    (h : w.strictInvokeTransfer env module token recipient amount = .ok w') :
    SameAllowances account w w' := by
  unfold strictInvokeTransfer invokeTransfer at h
  split_ifs at h
  · simp only [invoke, execute, Outcome.bind_eq_ok, Outcome.pure_eq_ok] at h
    obtain ⟨_, ⟨_, -, v, hv, rfl⟩, _, -, _, -, rfl⟩ := h
    have hsame : SameAllowances account w v := transfer_sameAllowances hv
    exact ⟨hsame.address, hsame.allowances⟩
  · obtain rfl := Outcome.pure_eq_ok.mp h
    exact .refl w

theorem payProtocolFeeFromSetToken_sameAllowances
    (h : payProtocolFeeFromSetToken w env module token amount = .ok w') :
    SameAllowances account w w' := by
  unfold payProtocolFeeFromSetToken at h
  split_ifs at h
  · exact strictInvokeTransfer_sameAllowances h
  · obtain rfl := Outcome.pure_eq_ok.mp h
    exact .refl w

/-- Burning Sets touches no allowance. -/
theorem burn_sameAllowances
    (h : (w.onSetToken fun s ↦ s.burn w.controller module owner amount) = .ok w') :
    SameAllowances account w w' := by
  simp only [onSetToken, SetToken.burn_eq_ok, Outcome.bind_eq_ok, Outcome.pure_eq_ok] at h
  obtain ⟨_, ⟨-, t, ht, rfl⟩, rfl⟩ := h
  simp only [ERC20.burn, Outcome.bind_eq_ok, Outcome.pure_eq_ok] at ht
  obtain ⟨_, -, _, -, _, -, rfl⟩ := ht
  refine ⟨rfl, ?_⟩
  intro token
  by_cases htoken : token = w.setToken.address
  · simp [erc20, htoken]
  · simp [erc20, htoken]

/-! ## Tokens that stay -/

/-- The account keeps its tokens, and perhaps receives more. -/
structure Spares (account : Address) (w w' : World) : Prop extends SameAllowances account w w' where
  balance : ∀ token, w.balanceOf token account ≤ w'.balanceOf token account

theorem TokenWrite.spares {state : ERC20} (h : w.TokenWrite w' token state)
    (hstate : state.allowances account = (w.erc20 token).allowances account)
    (hbalance : w.balanceOf token account ≤ state.balances account) : Spares account w w' := by
  refine ⟨h.sameAllowances hstate, ?_⟩
  intro t
  unfold balanceOf
  rw [h.erc20 t]
  split_ifs with ht
  · rw [ht]
    exact hbalance
  · exact le_rfl

/-- Whoever does not send a transfer loses nothing by it. -/
theorem le_balances_of_transfer {t t' : ERC20} (h : t.transfer sender recipient amount = .ok t')
    (hsender : sender ≠ account) : t.balances account ≤ t'.balances account := by
  obtain ⟨-, -, -, -, hself, hends, hother⟩ := ERC20.transfer_ok h
  by_cases hrecipient : account = recipient
  · by_cases hsame : sender = recipient
    · exact absurd (hsame.trans hrecipient.symm) hsender
    · rw [hrecipient, (hends hsame).2]
      exact Nat.le_add_right _ _
  · rw [hother account hsender.symm hrecipient]

theorem transfer_spares (h : w.transfer token sender recipient amount = .ok w')
    (hsender : sender ≠ account) : Spares account w w' := by
  obtain ⟨state, hstate, hwrite⟩ := transfer_tokenWrite h
  obtain ⟨-, -, hallowances, -⟩ := ERC20.transfer_ok hstate
  exact hwrite.spares (congrFun hallowances account) (le_balances_of_transfer hstate hsender)

theorem approve_spares (h : w.approve token owner spender amount = .ok w')
    (howner : owner ≠ account) : Spares account w w' := by
  obtain ⟨state, hstate, hwrite⟩ := approve_tokenWrite h
  obtain ⟨-, -, hbalances⟩ := ERC20.approve_ok hstate
  simp only [ERC20.approve, Outcome.bind_eq_ok, Outcome.pure_eq_ok] at hstate
  obtain ⟨_, -, _, -, rfl⟩ := hstate
  exact hwrite.spares (Function.update_of_ne howner.symm _ _) (congrFun hbalances account).ge

/-- Tokens are spent by others only as far as they are allowed to. -/
theorem transferFrom_spares (h : w.transferFrom token spender sender recipient amount = .ok w')
    (hnobody : w.AllowsNobody account) : Spares account w w' := by
  obtain ⟨state, hstate, hwrite⟩ := transferFrom_tokenWrite h
  obtain ⟨moved, hmoved, -, -, hbalances⟩ := ERC20.transferFrom_ok hstate
  obtain ⟨hallowed, hallowances⟩ := ERC20.transferFrom_allowances hstate
  by_cases hsender : sender = account
  · -- only nothing can be spent
    subst hsender
    have hzero : amount = 0 := by
      have hnone := hnobody token spender
      omega
    obtain ⟨-, -, -, -, hself, hends, -⟩ := ERC20.transfer_ok hmoved
    apply hwrite.spares
    · rw [hallowances, Function.update_self, hzero, Nat.sub_zero, Function.update_eq_self]
    · unfold balanceOf
      rw [hbalances]
      by_cases hrecipient : sender = recipient
      · rw [hself hrecipient]
      · rw [(hends hrecipient).1, hzero, Nat.sub_zero]
  · apply hwrite.spares
    · rw [hallowances, Function.update_of_ne (Ne.symm hsender)]
    · unfold balanceOf
      rw [hbalances]
      exact le_balances_of_transfer hmoved hsender

/-! ## Payments by the account -/

/-- The account pays another one; to itself it only pays nothing. -/
theorem transfer_pays (h : w.transfer token account recipient amount = .ok w')
    (hself : recipient = account → amount = 0) :
    SameAllowances account w w' ∧ (∀ t, t ≠ token → w'.erc20 t = w.erc20 t) ∧
      w'.balanceOf token account + amount = w.balanceOf token account ∧
      w'.balanceOf token recipient = w.balanceOf token recipient + amount := by
  refine ⟨transfer_sameAllowances h, ?_⟩
  obtain ⟨state, hstate, hwrite⟩ := transfer_tokenWrite h
  obtain ⟨-, -, -, hle, hsame, hends, -⟩ := ERC20.transfer_ok hstate
  refine ⟨fun t ht ↦ (hwrite.erc20 t).trans (if_neg ht), ?_⟩
  unfold balanceOf
  rw [hwrite.erc20 token, if_pos rfl]
  by_cases hrecipient : recipient = account
  · rw [hsame hrecipient.symm, hrecipient, hself hrecipient]
    exact ⟨rfl, rfl⟩
  · obtain ⟨hsender, hreceived⟩ := hends (Ne.symm hrecipient)
    rw [hsender, hreceived]
    exact ⟨Nat.sub_add_cancel hle, rfl⟩

/-- The account is paid out of an allowance.  It pays itself nothing, since it allows nobody. -/
theorem transferFrom_paid (h : w.transferFrom token spender sender account amount = .ok w')
    (hnobody : w.AllowsNobody account) :
    w'.balanceOf token account = w.balanceOf token account + amount ∧
      (sender = account → amount = 0) := by
  obtain ⟨state, hstate, hwrite⟩ := transferFrom_tokenWrite h
  obtain ⟨moved, hmoved, -, -, hbalances⟩ := ERC20.transferFrom_ok hstate
  obtain ⟨hallowed, -⟩ := ERC20.transferFrom_allowances hstate
  obtain ⟨-, -, -, -, hsame, hends, -⟩ := ERC20.transfer_ok hmoved
  have hself : sender = account → amount = 0 := by
    rintro rfl
    have hnone := hnobody token spender
    omega
  refine ⟨?_, hself⟩
  unfold balanceOf
  rw [hwrite.erc20 token, if_pos rfl, hbalances]
  by_cases hsender : sender = account
  · rw [hsame hsender, hself hsender, Nat.add_zero]
  · exact (hends hsender).2

end World

end SetProtocol
