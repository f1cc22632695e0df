import SetProtocol.Core.Accounts
import SetProtocol.Foundation.Bill
import SetProtocol.Product.ExchangeIssuanceZeroEx

/-!
# What issuing takes and redeeming gives

The functions that say what is required for a quantity of Sets list a bill of components.  Issuing collects
exactly this bill from its caller, and redeeming pays at least this bill to the recipient, whether the module
is the basic one or a debt issuance module that only meets default positions.
-/

namespace SetProtocol

open ModuleBase

namespace World

variable {w w' : World} {env : Env} {amount : ℕ} {token module spender recipient account : Address}

/-- The account pays the Set. -/
theorem explicitTransferFrom_debits
    (h : w.explicitTransferFrom token spender account w.setToken.address amount = .ok w')
    (haccount : account ≠ w.setToken.address) (htoken : token ≠ w.setToken.address) :
    w.TokenStep w' token ∧
      ∀ t, w'.balanceOf t account + Bill.entryAt t (token, amount) = w.balanceOf t account := by
  have hstep := (explicitTransferFrom_balance h htoken).1
  refine ⟨hstep, fun t ↦ ?_⟩
  unfold explicitTransferFrom at h
  unfold Bill.entryAt balanceOf
  split_ifs at h with hpos
  · simp only [Outcome.bind_eq_ok, Outcome.pure_eq_ok] at h
    obtain ⟨v, hv, _, -, _, -, rfl⟩ := h
    obtain ⟨state, hstate, hwrite⟩ := transferFrom_tokenWrite hv
    obtain ⟨moved, hmoved, -, -, hbalances⟩ := ERC20.transferFrom_ok hstate
    obtain ⟨-, -, -, hle, -, hends, -⟩ := ERC20.transfer_ok hmoved
    rw [hwrite.erc20 t]
    by_cases ht : t = token
    · subst ht
      rw [if_pos rfl, if_pos rfl, hbalances, (hends haccount).1]
      exact Nat.sub_add_cancel hle
    · rw [if_neg ht, if_neg (Ne.symm ht), Nat.add_zero]
  · obtain rfl := Outcome.pure_eq_ok.mp h
    obtain rfl : amount = 0 := by omega
    rw [ite_self, Nat.add_zero]

/-- A transfer between two accounts is none of the business of a third. -/
theorem transferFrom_bystander {sender : Address}
    (h : w.transferFrom token spender sender recipient amount = .ok w') (hsender : account ≠ sender)
    (hrecipient : account ≠ recipient) (t : Address) :
    w'.balanceOf t account = w.balanceOf t account := by
  obtain ⟨state, hstate, hwrite⟩ := transferFrom_tokenWrite h
  obtain ⟨moved, hmoved, -, -, hbalances⟩ := ERC20.transferFrom_ok hstate
  obtain ⟨-, -, -, -, -, -, hother⟩ := ERC20.transfer_ok hmoved
  unfold balanceOf
  rw [hwrite.erc20 t]
  by_cases ht : t = token
  · rw [if_pos ht, hbalances, hother account hsender hrecipient, ht]
  · rw [if_neg ht]

theorem explicitTransferFrom_bystander {sender : Address}
    (h : w.explicitTransferFrom token spender sender recipient amount = .ok w')
    (hsender : account ≠ sender) (hrecipient : account ≠ recipient) (t : Address) :
    w'.balanceOf t account = w.balanceOf t account := by
  unfold explicitTransferFrom at h
  split_ifs at h with hpos
  · simp only [Outcome.bind_eq_ok, Outcome.pure_eq_ok] at h
    obtain ⟨v, hv, _, -, _, -, rfl⟩ := h
    exact transferFrom_bystander hv hsender hrecipient t
  · rw [Outcome.pure_eq_ok.mp h]

/-- The Set pays an account. -/
theorem strictInvokeTransfer_credits
    (h : w.strictInvokeTransfer env module token recipient amount = .ok w')
    (haccount : account ≠ w.setToken.address) (t : Address) :
    w'.balanceOf t account = w.balanceOf t account +
      if account = recipient then Bill.entryAt t (token, amount) else 0 := by
  unfold strictInvokeTransfer invokeTransfer at h
  unfold Bill.entryAt balanceOf
  split_ifs at h with hpos
  · simp only [invoke, execute, Outcome.bind_eq_ok, Outcome.pure_eq_ok] at h
    obtain ⟨_, ⟨_, -, v, hv, rfl⟩, _, -, _, -, rfl⟩ := h
    obtain ⟨state, hstate, hwrite⟩ := transfer_tokenWrite hv
    obtain ⟨-, -, -, -, -, hends, hother⟩ := ERC20.transfer_ok hstate
    have hread : World.erc20 { v with log := v.log ++ [⟨token, 0, .transfer recipient amount⟩] } t =
        v.erc20 t := rfl
    rw [hread, hwrite.erc20 t]
    by_cases ht : t = token
    · subst ht
      rw [if_pos rfl, if_pos rfl]
      by_cases hrecipient : account = recipient
      · rw [if_pos hrecipient, hrecipient, (hends (hrecipient ▸ haccount.symm)).2]
      · rw [if_neg hrecipient, hother account haccount hrecipient, Nat.add_zero]
    · rw [if_neg ht, if_neg (Ne.symm ht), ite_self, Nat.add_zero]
  · obtain rfl := Outcome.pure_eq_ok.mp h
    obtain rfl : amount = 0 := by omega
    rw [ite_self, ite_self, Nat.add_zero]

theorem balanceOf_self (w : World) (account : Address) :
    w.balanceOf w.setToken.address account = w.setToken.erc20.balances account := by
  simp [balanceOf, erc20]

end World

/-! ## Sets that are minted -/

namespace ModuleBase

variable {w w' : World} {quantity : ℕ}

theorem MintStep.refl (w : World) : MintStep w w 0 :=
  ⟨rfl, rfl, w.setToken.erc20, rfl, (Nat.add_zero _).symm, fun _ ↦ le_rfl⟩

/-- Minting Sets moves no other token. -/
theorem MintStep.balanceOf (h : MintStep w w' quantity) {t : Address} (ht : t ≠ w.setToken.address)
    (account : Address) : w'.balanceOf t account = w.balanceOf t account := by
  unfold World.balanceOf World.erc20
  rw [h.chain, h.address, if_neg ht, if_neg ht]

theorem BurnStep.callStep {owner : Address} (h : BurnStep w w' owner quantity) : w.CallStep w' := by
  obtain ⟨t, ht, -⟩ := h.setToken
  exact ⟨h.controller, t, ht⟩

/-- Burning Sets moves no other token. -/
theorem BurnStep.balanceOf {owner : Address} (h : BurnStep w w' owner quantity) {t : Address}
    (ht : t ≠ w.setToken.address) (account : Address) :
    w'.balanceOf t account = w.balanceOf t account := by
  unfold World.balanceOf World.erc20
  rw [h.chain, h.address, if_neg ht, if_neg ht]

end ModuleBase

/-! ## What issuing takes and redeeming gives -/

namespace IssuanceContract

variable {c : IssuanceContract} {P P' : Protocol} {w w' : World} {env : Env} {quantity : ℕ}
  {isDebtIssuance : Bool} {required : List (Address × ℕ)} {recipient : Address}

/-- The Set has no external positions and no hooks if the module would resolve them. -/
def Plain (c : IssuanceContract) (w : World) : Prop :=
  match c with
  | .basic _ => True
  | .debt m => m.settings.moduleIssuanceHooks = [] ∧
      ∀ component, w.setToken.externalPositionModules component = []

/-- Balances of Sets do not enter the required amounts. -/
theorem getRequiredIssuanceComponents_callStep (h : w.CallStep w') :
    c.getRequiredIssuanceComponents isDebtIssuance w' quantity =
      c.getRequiredIssuanceComponents isDebtIssuance w quantity := by
  obtain ⟨controller, setToken, chain, log, transfers⟩ := w
  obtain ⟨controller', setToken', chain', log', transfers'⟩ := w'
  obtain ⟨hcontroller, t, hset⟩ := h
  dsimp only at hcontroller hset
  subst hcontroller hset
  cases c <;> cases isDebtIssuance <;> rfl

theorem getRequiredRedemptionComponents_callStep (h : w.CallStep w') :
    c.getRequiredRedemptionComponents isDebtIssuance w' quantity =
      c.getRequiredRedemptionComponents isDebtIssuance w quantity := by
  obtain ⟨controller, setToken, chain, log, transfers⟩ := w
  obtain ⟨controller', setToken', chain', log', transfers'⟩ := w'
  obtain ⟨hcontroller, t, hset⟩ := h
  dsimp only at hcontroller hset
  subst hcontroller hset
  cases c <;> cases isDebtIssuance <;> rfl

/-- What issuing does to the account that pays for it, and to the one that gets the Sets. -/
structure Issues (w w' : World) (payer recipient : Address) (quantity : ℕ)
    (required : List (Address × ℕ)) : Prop where
  callStep : w.CallStep w'
  paid : ∀ t, t ≠ w.setToken.address →
    w'.balanceOf t payer + Bill.due required t = w.balanceOf t payer
  bystander : ∀ t, t ≠ w.setToken.address → ∀ a, a ≠ payer → a ≠ w.setToken.address →
    w'.balanceOf t a = w.balanceOf t a
  minted : w.balanceOf w.setToken.address recipient + quantity ≤
    w'.balanceOf w.setToken.address recipient

/-- The bill is collected from the payer, and then Sets are minted. -/
theorem Issues.of_steps {v u : World} {fees : ℕ} {module : Address}
    (hset : v.setToken = w.setToken) (hcontroller : v.controller = w.controller)
    (hpaid : ∀ t, v.balanceOf t env.sender + Bill.due required t = w.balanceOf t env.sender)
    (hbystander : ∀ t a, a ≠ env.sender → a ≠ w.setToken.address →
      v.balanceOf t a = w.balanceOf t a) (hfees : MintStep v u fees)
    (hmint : (u.onSetToken fun s ↦ s.mint u.controller module recipient quantity) = .ok w') :
    Issues w w' env.sender recipient quantity required := by
  have hstep : MintStep v w' (fees + quantity) := hfees.trans (mint_mintStep hmint)
  refine ⟨?_, fun t ht ↦ ?_, fun t ht a hpayer hset' ↦ ?_, ?_⟩
  · obtain ⟨t, ht, -⟩ := hstep.setToken
    exact ⟨hstep.controller.trans hcontroller, t, by rw [ht, hset]⟩
  · rw [MintStep.balanceOf hstep (by rwa [hset]) env.sender]
    exact hpaid t
  · rw [MintStep.balanceOf hstep (by rwa [hset]) a]
    exact hbystander t a hpayer hset'
  · obtain ⟨t, ht, -, hbalances⟩ := hfees.setToken
    have hrecipient := mint_balances hmint recipient
    rw [if_pos rfl, ht, SetToken.setErc20_erc20] at hrecipient
    have haddress : w'.setToken.address = w.setToken.address := by rw [hstep.address, hset]
    rw [World.balanceOf_self, ← haddress, World.balanceOf_self, hrecipient, ← hset]
    exact Nat.add_le_add_right (hbalances recipient) quantity

/-- A bill of components is collected from the caller. -/
theorem collect_pays {α : Type} {as : List α} (item : α → Address × ℕ)
    {step : World → α → Outcome World} (hself : w.setToken.address ∉ w.setToken.components)
    (hkeys : ∀ a ∈ as, (item a).1 ∈ w.setToken.components)
    (hsender : env.sender ≠ w.setToken.address)
    (hstep : ∀ u, ∀ a ∈ as, ∀ u', u.setToken = w.setToken → step u a = .ok u' →
      ∃ module, u.explicitTransferFrom (item a).1 module env.sender u.setToken.address (item a).2 =
        .ok u')
    (h : as.foldlM step w = .ok w') :
    (w'.setToken = w.setToken ∧ w'.controller = w.controller) ∧
      (∀ t, w'.balanceOf t env.sender + Bill.due (as.map item) t = w.balanceOf t env.sender) ∧
      ∀ t a, a ≠ env.sender → a ≠ w.setToken.address → w'.balanceOf t a = w.balanceOf t a := by
  have hloop : ∀ t, (w'.setToken = w.setToken ∧ w'.controller = w.controller) ∧
      w.balanceOf t env.sender + (as.map fun _ ↦ 0).sum =
        w'.balanceOf t env.sender + (as.map fun a ↦ Bill.entryAt t (item a)).sum := by
    intro t
    apply Outcome.foldlM_sum_eq (Q := fun u ↦ u.setToken = w.setToken ∧ u.controller = w.controller)
      (fun u ↦ u.balanceOf t env.sender) _ _ ?_ h ⟨rfl, rfl⟩
    intro u a ha u' hok hu
    obtain ⟨module, htransfer⟩ := hstep u a ha u' hu.1 hok
    have htoken : (item a).1 ≠ u.setToken.address := by
      rw [hu.1]
      exact ne_of_mem_of_not_mem (hkeys a ha) hself
    obtain ⟨htokenStep, hdebits⟩ :=
      World.explicitTransferFrom_debits htransfer (by rwa [hu.1]) htoken
    refine ⟨⟨htokenStep.setToken.trans hu.1, htokenStep.controller.trans hu.2⟩, ?_⟩
    exact (hdebits t).symm
  refine ⟨(hloop w.setToken.address).1, fun t ↦ ?_, fun t a ha haddress ↦ ?_⟩
  · have hsum := (hloop t).2
    rw [List.sum_map_zero, Nat.add_zero] at hsum
    rw [Bill.due, List.map_map]
    exact hsum.symm
  · refine (Outcome.foldlM_invariant_of_mem (P := fun u ↦ u.setToken = w.setToken ∧
      u.balanceOf t a = w.balanceOf t a) ?_ h ⟨rfl, rfl⟩).2
    intro u b hb u' hok hu
    obtain ⟨module, htransfer⟩ := hstep u b hb u' hu.1 hok
    have htoken : (item b).1 ≠ u.setToken.address := by
      rw [hu.1]
      exact ne_of_mem_of_not_mem (hkeys b hb) hself
    refine ⟨(World.explicitTransferFrom_balance htransfer htoken).1.setToken.trans hu.1, ?_⟩
    rw [World.explicitTransferFrom_bystander htransfer ha (by rwa [hu.1]) t, hu.2]

theorem mem_components_of_getRequiredComponentUnitsForIssue {m : BasicIssuanceModule}
    {units : List Address × List ℕ} (h : m.getRequiredComponentUnitsForIssue w quantity = .ok units) :
    ∀ entry ∈ units.1.zip units.2, entry.1 ∈ w.setToken.components := by
  simp only [BasicIssuanceModule.getRequiredComponentUnitsForIssue, Outcome.bind_eq_ok,
    Outcome.pure_eq_ok] at h
  obtain ⟨_, -, amounts, -, rfl⟩ := h
  intro entry hentry
  exact (List.of_mem_zip hentry).1

/-- The basic module collects what it says is required. -/
theorem basic_issue_issues {m : BasicIssuanceModule}
    (h : m.issue w env quantity recipient = .ok w')
    (hrequired : (basic m).getRequiredIssuanceComponents isDebtIssuance w quantity = .ok required)
    (hself : w.setToken.address ∉ w.setToken.components)
    (hsender : env.sender ≠ w.setToken.address) :
    Issues w w' env.sender recipient quantity required := by
  cases isDebtIssuance with
  | true => exact absurd hrequired (Outcome.throw_ne_ok.mp ·)
  | false =>
    simp only [getRequiredIssuanceComponents, Outcome.bind_eq_ok, Outcome.pure_eq_ok] at hrequired
    obtain ⟨units, hunits, rfl⟩ := hrequired
    simp only [BasicIssuanceModule.issue, Outcome.bind_eq_ok] at h
    obtain ⟨_, -, _, -, _, -, _, -, units', hunits', v, hloop, hmint⟩ := h
    obtain rfl := Except.ok.inj (hunits.symm.trans hunits')
    have hkeys := mem_components_of_getRequiredComponentUnitsForIssue hunits
    obtain ⟨⟨hset, hcontroller⟩, hpaid, hbystander⟩ := collect_pays id hself hkeys hsender
      (fun u entry _ u' _ hok ↦ ⟨m.address, hok⟩) hloop
    rw [List.map_id] at hpaid
    exact .of_steps hset hcontroller hpaid hbystander (MintStep.refl v) hmint

/-- Without external positions, equity is taken from the caller and nothing else happens. -/
theorem resolveEquityPosition_collects {m : DebtIssuanceModule} {entry : Address × ℕ × ℕ}
    (hexternal : ∀ component, w.setToken.externalPositionModules component = [])
    (htoken : entry.1 ≠ w.setToken.address)
    (h : m.resolveEquityPosition P env quantity recipient true w entry = .ok w') :
    w.explicitTransferFrom entry.1 m.address env.sender w.setToken.address entry.2.1 = .ok w' := by
  unfold DebtIssuanceModule.resolveEquityPosition at h
  dsimp only at h
  by_cases hpos : 0 < entry.2.1
  · rw [if_pos hpos, if_pos rfl] at h
    obtain ⟨v, hv, hhooks⟩ := Outcome.bind_eq_ok.mp h
    have hset := (World.explicitTransferFrom_balance hv htoken).1.setToken
    unfold DebtIssuanceModule.executeExternalPositionHooks at hhooks
    rw [hset, hexternal] at hhooks
    obtain rfl := Outcome.pure_eq_ok.mp hhooks
    exact hv
  · rw [if_neg hpos] at h
    unfold World.explicitTransferFrom
    rw [if_neg hpos]
    exact h

/-- Where there is no debt, none is resolved. -/
theorem resolveDebtPositions_idle {m : DebtIssuanceModule} {isIssue : Bool}
    {entries : List (Address × ℕ × ℕ)} (hdebt : ∀ entry ∈ entries, entry.2.2 = 0)
    (h : m.resolveDebtPositions P env w quantity isIssue entries = .ok w') : w = w' := by
  apply Outcome.foldlM_invariant_of_mem (P := fun u ↦ w = u) ?_ h rfl
  intro u entry hentry u' hok hu
  unfold DebtIssuanceModule.resolveDebtPosition at hok
  have hzero : ¬ 0 < entry.2.2 := by rw [hdebt entry hentry]; exact Nat.lt_irrefl 0
  rw [if_neg hzero] at hok
  exact hu.trans (Outcome.pure_eq_ok.mp hok)

/-- A debt module that resolves only equity collects what it says is required. -/
theorem debt_issue_issues {m : DebtIssuanceModule} (h : m.issue P env quantity recipient = .ok P')
    (hplain : (debt m).Plain P.world)
    (hrequired : (debt m).getRequiredIssuanceComponents isDebtIssuance P.world quantity =
      .ok required)
    (hself : P.world.setToken.address ∉ P.world.setToken.components)
    (hsender : env.sender ≠ P.world.setToken.address) :
    Issues P.world P'.world env.sender recipient quantity required := by
  obtain ⟨hhooks, hexternal⟩ := hplain
  cases isDebtIssuance with
  | false => exact absurd hrequired (Outcome.throw_ne_ok.mp ·)
  | true =>
    simp only [getRequiredIssuanceComponents, DebtIssuanceModule.getRequiredComponentIssuanceUnits,
      Outcome.bind_eq_ok, Outcome.pure_eq_ok] at hrequired
    obtain ⟨entries, ⟨fees, hfees, hentries⟩, rfl⟩ := hrequired
    simp only [DebtIssuanceModule.issue, DebtIssuanceModule.callModulePreIssueHooks, hhooks,
      List.foldlM_nil, DebtIssuanceModule.issueRequired, Outcome.bind_eq_ok,
      Outcome.pure_eq_ok, Prod.exists] at h
    obtain ⟨_, -, _, -, _, -, _, rfl, total, managerFee, protocolFee, hfees', entries', hentries', v,
      hequity, u, hdebt, x, hresolve, w', hmint, rfl⟩ := h
    obtain rfl := Except.ok.inj (hfees.symm.trans hfees')
    obtain rfl := Except.ok.inj (hentries.symm.trans hentries')
    have hdefault := (DebtIssuanceModule.calculateRequiredComponentIssuanceUnits_of_none
      (fun component _ ↦ hexternal component) hentries).1
    have hkeys : ∀ entry ∈ entries, entry.1 ∈ P.world.setToken.components := fun entry hentry ↦
      (hdefault entry hentry).mem
    obtain ⟨⟨hset, hcontroller⟩, hpaid, hbystander⟩ := collect_pays
      (fun entry : Address × ℕ × ℕ ↦ (entry.1, entry.2.1)) hself hkeys hsender
      (fun a entry hentry a' ha hok ↦ ⟨m.address, resolveEquityPosition_collects
        (by rwa [ha]) (by rw [ha]; exact ne_of_mem_of_not_mem (hkeys entry hentry) hself) hok⟩)
      hequity
    obtain rfl := resolveDebtPositions_idle (fun entry hentry ↦ (hdefault entry hentry).debt) hdebt
    exact .of_steps hset hcontroller hpaid hbystander
      (DebtIssuanceModule.resolveFees_mintStep hresolve) hmint

/-- Issuing takes from the caller what the module says is required. -/
theorem issue_issues (h : c.issue P env quantity recipient = .ok P') (hplain : c.Plain P.world)
    (hrequired : c.getRequiredIssuanceComponents isDebtIssuance P.world quantity = .ok required)
    (hself : P.world.setToken.address ∉ P.world.setToken.components)
    (hsender : env.sender ≠ P.world.setToken.address) :
    Issues P.world P'.world env.sender recipient quantity required := by
  cases c with
  | basic m =>
    simp only [issue, Protocol.onWorld, Outcome.bind_eq_ok, Outcome.pure_eq_ok] at h
    obtain ⟨w', hissue, rfl⟩ := h
    exact basic_issue_issues hissue hrequired hself hsender
  | debt m => exact debt_issue_issues h hplain hrequired hself hsender

/-- What redeeming does for the account that is paid. -/
structure Redeems (w w' : World) (payee : Address) (required : List (Address × ℕ)) : Prop where
  callStep : w.CallStep w'
  received : ∀ t, t ≠ w.setToken.address →
    w.balanceOf t payee + Bill.due required t ≤ w'.balanceOf t payee

/-- Sets are burned, and then the bill is paid. -/
theorem Redeems.of_steps {v u : World} {owner payee : Address} {fees : ℕ}
    (hburn : BurnStep w v owner quantity) (hset : u.setToken = v.setToken)
    (hcontroller : u.controller = v.controller)
    (hpaid : ∀ t, v.balanceOf t payee + Bill.due required t ≤ u.balanceOf t payee)
    (hfees : MintStep u w' fees) : Redeems w w' payee required := by
  have hstep : v.CallStep w' := by
    obtain ⟨t, ht, -⟩ := hfees.setToken
    exact ⟨hfees.controller.trans hcontroller, t, by rw [ht, hset]⟩
  refine ⟨hburn.callStep.trans hstep, fun t ht ↦ ?_⟩
  have haddress : t ≠ u.setToken.address := by rwa [hset, hburn.address]
  calc w.balanceOf t payee + Bill.due required t
      = v.balanceOf t payee + Bill.due required t := by rw [BurnStep.balanceOf hburn ht]
    _ ≤ u.balanceOf t payee := hpaid t
    _ = w'.balanceOf t payee := (MintStep.balanceOf hfees haddress payee).symm

/-- A bill of components is paid to an account. -/
theorem pay_credits {α : Type} {as : List α} (item : α → Address × ℕ)
    {step : World → α → Outcome World} {payee : Address}
    (hself : w.setToken.address ∉ w.setToken.components)
    (hkeys : ∀ a ∈ as, (item a).1 ∈ w.setToken.components)
    (hstep : ∀ u, ∀ a ∈ as, ∀ u', u.setToken = w.setToken → (item a).1 ≠ u.setToken.address →
      step u a = .ok u' → u.TokenStep u' (item a).1 ∧
        ∀ t, u.balanceOf t payee + Bill.entryAt t (item a) ≤ u'.balanceOf t payee)
    (h : as.foldlM step w = .ok w') :
    (w'.setToken = w.setToken ∧ w'.controller = w.controller) ∧
      ∀ t, w.balanceOf t payee + Bill.due (as.map item) t ≤ w'.balanceOf t payee := by
  have hloop : ∀ t, (w'.setToken = w.setToken ∧ w'.controller = w.controller) ∧
      w.balanceOf t payee + (as.map fun a ↦ Bill.entryAt t (item a)).sum ≤
        w'.balanceOf t payee + (as.map fun _ ↦ 0).sum := by
    intro t
    apply Outcome.foldlM_sum_le (Q := fun u ↦ u.setToken = w.setToken ∧ u.controller = w.controller)
      (fun u ↦ u.balanceOf t payee) _ _ ?_ h ⟨rfl, rfl⟩
    intro u a ha u' hok hu
    have htoken : (item a).1 ≠ u.setToken.address := by
      rw [hu.1]
      exact ne_of_mem_of_not_mem (hkeys a ha) hself
    obtain ⟨htokenStep, hcredits⟩ := hstep u a ha u' hu.1 htoken hok
    exact ⟨⟨htokenStep.setToken.trans hu.1, htokenStep.controller.trans hu.2⟩, hcredits t⟩
  refine ⟨(hloop w.setToken.address).1, fun t ↦ ?_⟩
  have hsum := (hloop t).2
  rw [List.sum_map_zero, Nat.add_zero] at hsum
  rwa [Bill.due, List.map_map]

theorem mem_components_of_getRequiredComponentUnitsForRedeem {m : BasicIssuanceModule}
    {units : List Address × List (ℕ × ℕ)}
    (h : m.getRequiredComponentUnitsForRedeem w quantity = .ok units) :
    ∀ entry ∈ units.1.zip units.2, entry.1 ∈ w.setToken.components := by
  simp only [BasicIssuanceModule.getRequiredComponentUnitsForRedeem, Outcome.bind_eq_ok,
    Outcome.pure_eq_ok] at h
  obtain ⟨_, -, amounts, -, rfl⟩ := h
  intro entry hentry
  exact (List.of_mem_zip hentry).1

/-- The protocol's fee is taken from the Set, and the rest is paid. -/
theorem payComponent_credits {m : BasicIssuanceModule} {payee : Address} {entry : Address × ℕ × ℕ}
    (hpayee : payee ≠ w.setToken.address) (htoken : entry.1 ≠ w.setToken.address)
    (h : m.payComponent env payee w entry = .ok w') :
    w.TokenStep w' entry.1 ∧ ∀ t,
      w.balanceOf t payee + Bill.entryAt t (entry.1, entry.2.1) ≤ w'.balanceOf t payee := by
  refine ⟨(BasicIssuanceModule.payComponent_balance h htoken).1, fun t ↦ ?_⟩
  simp only [BasicIssuanceModule.payComponent, Outcome.bind_eq_ok] at h
  obtain ⟨v, hfee, hpay⟩ := h
  have hpayee' : payee ≠ v.setToken.address := by
    rwa [(payProtocolFeeFromSetToken_balance hfee htoken).1.setToken]
  have hcredit := World.strictInvokeTransfer_credits hpay hpayee' t
  rw [if_pos rfl] at hcredit
  rw [hcredit]
  apply Nat.add_le_add_right
  unfold payProtocolFeeFromSetToken at hfee
  split_ifs at hfee
  · rw [World.strictInvokeTransfer_credits hfee hpayee t]
    exact Nat.le_add_right _ _
  · rw [Outcome.pure_eq_ok.mp hfee]

theorem basic_redeem_redeems {m : BasicIssuanceModule} {payee : Address}
    (h : m.redeem w env quantity payee = .ok w')
    (hself : w.setToken.address ∉ w.setToken.components) (hpayee : payee ≠ w.setToken.address) :
    ∃ bill, Redeems w w' payee bill ∧ ∀ isDebtIssuance required,
      (basic m).getRequiredRedemptionComponents isDebtIssuance w quantity = .ok required →
        required = bill := by
  simp only [BasicIssuanceModule.redeem, Outcome.bind_eq_ok] at h
  obtain ⟨_, -, _, -, v, hburn, units, hunits, hloop⟩ := h
  have hstep := burn_burnStep hburn
  have hkeys := mem_components_of_getRequiredComponentUnitsForRedeem hunits
  obtain ⟨t, ht, -⟩ := hstep.setToken
  have hself' : v.setToken.address ∉ v.setToken.components := by rwa [ht]
  have hpayee' : payee ≠ v.setToken.address := by rwa [hstep.address]
  obtain ⟨⟨hset, hcontroller⟩, hpaid⟩ := pay_credits
    (fun entry : Address × ℕ × ℕ ↦ (entry.1, entry.2.1)) hself' hkeys
    (fun u entry _ u' hu htoken hok ↦ payComponent_credits (by rwa [hu]) htoken hok) hloop
  refine ⟨_, .of_steps hstep hset hcontroller hpaid (MintStep.refl w'), ?_⟩
  intro isDebtIssuance required hrequired
  cases isDebtIssuance with
  | true => exact absurd hrequired (Outcome.throw_ne_ok.mp ·)
  | false =>
    rw [← getRequiredRedemptionComponents_callStep hstep.callStep] at hrequired
    simp only [getRequiredRedemptionComponents, hunits, Outcome.ok_bind,
      Outcome.pure_eq_ok] at hrequired
    rw [← hrequired, List.zip_map_right]
    rfl

/-- Without external positions, equity is paid by the Set and nothing else happens. -/
theorem resolveEquityPosition_credits {m : DebtIssuanceModule} {entry : Address × ℕ × ℕ}
    {payee : Address} (hexternal : ∀ component, w.setToken.externalPositionModules component = [])
    (hpayee : payee ≠ w.setToken.address) (htoken : entry.1 ≠ w.setToken.address)
    (h : m.resolveEquityPosition P env quantity payee false w entry = .ok w') :
    w.TokenStep w' entry.1 ∧ ∀ t,
      w.balanceOf t payee + Bill.entryAt t (entry.1, entry.2.1) ≤ w'.balanceOf t payee := by
  unfold DebtIssuanceModule.resolveEquityPosition at h
  dsimp only at h
  by_cases hpos : 0 < entry.2.1
  · rw [if_pos hpos, if_neg Bool.false_ne_true] at h
    obtain ⟨v, hhooks, hpay⟩ := Outcome.bind_eq_ok.mp h
    unfold DebtIssuanceModule.executeExternalPositionHooks at hhooks
    rw [hexternal] at hhooks
    obtain rfl := Outcome.pure_eq_ok.mp hhooks
    refine ⟨(World.strictInvokeTransfer_balance hpay htoken).1, fun t ↦ ?_⟩
    rw [World.strictInvokeTransfer_credits hpay hpayee t, if_pos rfl]
  · rw [if_neg hpos] at h
    obtain rfl := Outcome.pure_eq_ok.mp h
    have hzero : entry.2.1 = 0 := by omega
    refine ⟨.refl w _, fun t ↦ ?_⟩
    rw [hzero, Bill.entryAt, ite_self, Nat.add_zero]

theorem debt_redeem_redeems {m : DebtIssuanceModule} {payee : Address}
    (h : m.redeem P env quantity payee = .ok P') (hplain : (debt m).Plain P.world)
    (hself : P.world.setToken.address ∉ P.world.setToken.components)
    (hpayee : payee ≠ P.world.setToken.address) :
    ∃ bill, Redeems P.world P'.world payee bill ∧ ∀ isDebtIssuance required,
      (debt m).getRequiredRedemptionComponents isDebtIssuance P.world quantity = .ok required →
        required = bill := by
  obtain ⟨hhooks, hexternal⟩ := hplain
  simp only [DebtIssuanceModule.redeem, DebtIssuanceModule.callModulePreRedeemHooks, hhooks,
    List.foldlM_nil, DebtIssuanceModule.burnQuantity, Protocol.onWorld,
    DebtIssuanceModule.redeemRequired, Outcome.bind_eq_ok, Outcome.pure_eq_ok, Prod.exists] at h
  obtain ⟨_, -, _, -, _, rfl, _, ⟨v, hburn, rfl⟩, total, managerFee, protocolFee, hfees, entries,
    hentries, x, hdebt, u, hequity, w', hresolve, rfl⟩ := h
  have hstep := burn_burnStep hburn
  obtain ⟨t, ht, -⟩ := hstep.setToken
  have hexternal' : ∀ component, v.setToken.externalPositionModules component = [] := by
    intro component
    rw [ht]
    exact hexternal component
  have hself' : v.setToken.address ∉ v.setToken.components := by rwa [ht]
  have hpayee' : payee ≠ v.setToken.address := by rwa [hstep.address]
  have hdefault := (DebtIssuanceModule.calculateRequiredComponentIssuanceUnits_of_none
    (fun component _ ↦ hexternal' component) hentries).1
  obtain rfl := resolveDebtPositions_idle (fun entry hentry ↦ (hdefault entry hentry).debt) hdebt
  obtain ⟨⟨hset, hcontroller⟩, hpaid⟩ := pay_credits
    (fun entry : Address × ℕ × ℕ ↦ (entry.1, entry.2.1)) hself'
    (fun entry hentry ↦ (hdefault entry hentry).mem)
    (fun a entry _ a' ha htoken hok ↦ resolveEquityPosition_credits (by rwa [ha]) (by rwa [ha])
      htoken hok) hequity
  refine ⟨_, .of_steps hstep hset hcontroller hpaid
    (DebtIssuanceModule.resolveFees_mintStep hresolve), ?_⟩
  intro isDebtIssuance required hrequired
  cases isDebtIssuance with
  | false => exact absurd hrequired (Outcome.throw_ne_ok.mp ·)
  | true =>
    rw [← getRequiredRedemptionComponents_callStep hstep.callStep] at hrequired
    simp only [getRequiredRedemptionComponents,
      DebtIssuanceModule.getRequiredComponentRedemptionUnits, Outcome.bind_eq_ok,
      Outcome.pure_eq_ok] at hrequired
    obtain ⟨entries', ⟨fees, hfees', hentries'⟩, rfl⟩ := hrequired
    obtain rfl := Except.ok.inj (hfees.symm.trans hfees')
    obtain rfl := Except.ok.inj (hentries.symm.trans hentries')
    rfl

/-- Redeeming gives the recipient what the module says is required. -/
theorem redeem_redeems {payee : Address} (h : c.redeem P env quantity payee = .ok P')
    (hplain : c.Plain P.world) (hself : P.world.setToken.address ∉ P.world.setToken.components)
    (hpayee : payee ≠ P.world.setToken.address) :
    ∃ bill, Redeems P.world P'.world payee bill ∧ ∀ isDebtIssuance required,
      c.getRequiredRedemptionComponents isDebtIssuance P.world quantity = .ok required →
        required = bill := by
  cases c with
  | basic m =>
    simp only [redeem, Protocol.onWorld, Outcome.bind_eq_ok, Outcome.pure_eq_ok] at h
    obtain ⟨w', hredeem, rfl⟩ := h
    exact basic_redeem_redeems hredeem hself hpayee
  | debt m => exact debt_redeem_redeems h hplain hself hpayee

/-- The bill of a redemption has the components in their order. -/
theorem getRequiredRedemptionComponents_fst
    (h : c.getRequiredRedemptionComponents isDebtIssuance w quantity = .ok required) :
    required.map Prod.fst = w.setToken.components := by
  cases c <;> cases isDebtIssuance
  case basic.false m =>
    simp only [getRequiredRedemptionComponents,
      BasicIssuanceModule.getRequiredComponentUnitsForRedeem, Outcome.bind_eq_ok,
      Outcome.pure_eq_ok] at h
    obtain ⟨_, ⟨_, -, amounts, hamounts, rfl⟩, rfl⟩ := h
    rw [List.zip_map_right, List.map_map]
    exact Outcome.map_fst_zip_mapM hamounts
  case debt.true m =>
    simp only [getRequiredRedemptionComponents,
      DebtIssuanceModule.getRequiredComponentRedemptionUnits, Outcome.bind_eq_ok,
      Outcome.pure_eq_ok] at h
    obtain ⟨entries, ⟨fees, -, hentries⟩, rfl⟩ := h
    rw [List.map_map]
    exact DebtIssuanceModule.calculateRequiredComponentIssuanceUnits_fst hentries
  all_goals exact absurd h (Outcome.throw_ne_ok.mp ·)

end IssuanceContract

end SetProtocol
