import SetProtocol.Core.ShareLedger
import SetProtocol.System.IssuanceBills
import SetProtocol.System.VaultRuns

/-!
# Leaving the Set

A Set that covers its units can be redeemed: the holders may leave one after the other and in any order, no
redemption of a positive quantity to an ordinary account fails that the module can quote, and each pays what
was quoted before the first one.  The tokens are standard ones, which create no balances, and the module is
neither disabled nor locked out.
-/

namespace SetProtocol

open PreciseUnitMath ModuleBase

namespace ERC20

variable {t : ERC20} {account sender recipient : Address} {amount : ℕ}

/-- The balances add up to a supply of 256 bits. -/
structure Standard (t : ERC20) : Prop where
  conserved : t.Conserved
  supply_le : t.totalSupply ≤ maxUint256

namespace Standard

/-- No recipient's balance overflows. -/
theorem transfer_succeeds (ht : t.Standard) (hsender : sender ≠ 0) (hrecipient : recipient ≠ 0)
    (hle : amount ≤ t.balances sender) :
    ∃ t', t.transfer sender recipient amount = .ok t' ∧ t'.Standard := by
  have hreceived : (t.setBalance sender (t.balances sender - amount)).balances recipient + amount ≤
      maxUint256 := by
    rw [setBalance_balances]
    split_ifs with hself
    · have hown := ht.conserved.le sender
      have hsupply := ht.supply_le
      omega
    · have hboth := ht.conserved.add_le hself
      have hsupply := ht.supply_le
      omega
  obtain ⟨t', ht'⟩ : ∃ t', t.transfer sender recipient amount = .ok t' := by
    simp only [transfer, Outcome.bind_eq_ok, Outcome.require_eq_ok, SafeMath.add_eq_ok,
      Outcome.pure_eq_ok]
    exact ⟨_, (), hsender, (), hrecipient, (), hle, _, ⟨hreceived, rfl⟩, rfl⟩
  exact ⟨t', ht', ht.conserved.transfer ht', (transfer_ok ht').1.le.trans ht.supply_le⟩

theorem burn_succeeds (ht : t.Standard) (haccount : account ≠ 0) (hle : amount ≤ t.balances account) :
    ∃ t', t.burn account amount = .ok t' ∧ t'.Standard := by
  have hsupply : amount ≤ t.totalSupply := hle.trans (ht.conserved.le account)
  obtain ⟨t', ht'⟩ : ∃ t', t.burn account amount = .ok t' := by
    simp only [burn, Outcome.bind_eq_ok, Outcome.require_eq_ok, SafeMath.sub_eq_ok,
      Outcome.pure_eq_ok]
    exact ⟨_, (), haccount, (), hle, _, ⟨hsupply, rfl⟩, rfl⟩
  have hlowered : t'.totalSupply ≤ t.totalSupply := by
    rw [(burn_ok ht').2.1]
    exact Nat.sub_le _ _
  exact ⟨t', ht', ht.conserved.burn ht', hlowered.trans ht.supply_le⟩

end Standard

end ERC20

/-! ## One payment -/

namespace World

variable {w w' : World} {env : Env} {module token recipient : Address} {amount : ℕ}

/-- The Set may be made to pay a token to the recipient. -/
structure Pays (w : World) (module token recipient : Address) : Prop where
  authorized : w.setToken.Authorized w.controller module
  address_ne_zero : w.setToken.address ≠ 0
  token_ne : token ≠ w.setToken.address
  recipient_ne_zero : recipient ≠ 0
  recipient_ne : recipient ≠ w.setToken.address
  standard : (w.erc20 token).Standard

theorem invokeTransfer_succeeds (env : Env) (h : w.Pays module token recipient) (hpos : 0 < amount)
    (hle : amount ≤ w.balance token) :
    ∃ w' state, w.invokeTransfer env module token recipient amount = .ok w' ∧
      (w.erc20 token).transfer w.setToken.address recipient amount = .ok state ∧ state.Standard ∧
      w.TokenWrite w' token state := by
  obtain ⟨state, hstate, hstandard⟩ :=
    h.standard.transfer_succeeds h.address_ne_zero h.recipient_ne_zero hle
  let v := (w.setErc20 token state).recordTransfer ⟨token, w.setToken.address, recipient, amount⟩
  have hwrite := w.setErc20_tokenWrite token state
  refine ⟨{ v with log := v.log ++ [⟨token, 0, .transfer recipient amount⟩] }, state, ?_, hstate,
    hstandard, hwrite.address, hwrite.erc20⟩
  have hadmitted : w.setToken.onlyModuleWhenLockedOnlyLocker w.controller module = .ok () :=
    SetToken.onlyModuleWhenLockedOnlyLocker_eq_ok.mpr h.authorized
  simp only [invokeTransfer, if_pos hpos, invoke, hadmitted, execute, transfer, hstate]
  rfl

/-- The Set pays what it has. -/
theorem strictInvokeTransfer_succeeds (env : Env) (h : w.Pays module token recipient)
    (hle : amount ≤ w.balance token) :
    ∃ w', w.strictInvokeTransfer env module token recipient amount = .ok w' ∧
      (w'.erc20 token).Standard := by
  unfold strictInvokeTransfer
  split_ifs with hpos
  · obtain ⟨w', state, hw', hstate, hstandard, hwrite⟩ := invokeTransfer_succeeds env h hpos hle
    obtain ⟨-, -, -, -, -, hends, -⟩ := ERC20.transfer_ok hstate
    have htoken : w'.erc20 token = state := by
      rw [hwrite.erc20, if_pos rfl]
    have hbalance : w'.balance token = w.balance token - amount := by
      rw [balance, htoken, hwrite.address]
      exact (hends h.recipient_ne.symm).1
    refine ⟨w', ?_, htoken ▸ hstandard⟩
    simp only [Outcome.bind_eq_ok, SafeMath.sub_eq_ok, Outcome.require_eq_ok, Outcome.pure_eq_ok]
    exact ⟨w', hw', _, ⟨hle, rfl⟩, (), hbalance, rfl⟩
  · exact ⟨w, rfl, h.standard⟩

end World

/-! ## One redemption -/

namespace BasicIssuanceModule

variable {m : BasicIssuanceModule} {w w' u u' : World} {env : Env} {quantity : ℕ}
  {recipient c a : Address} {entry : Address × ℕ × ℕ} {entries : List (Address × ℕ × ℕ)}

/-- The module is in use on a Set of standard tokens, and nothing keeps it from acting. -/
structure Redeemable (m : BasicIssuanceModule) (w : World) : Prop where
  valid : isSetValidAndInitialized w m.address = true
  authorized : w.setToken.Authorized w.controller m.address
  address_ne_zero : w.setToken.address ≠ 0
  feeRecipient_ne_zero : w.controller.feeRecipient ≠ 0
  feeRecipient_ne : w.controller.feeRecipient ≠ w.setToken.address
  shares : w.setToken.erc20.Standard
  components : ∀ c ∈ w.setToken.components, (w.erc20 c).Standard

/-- The Set as it is after some components of a redemption were paid, and what is left to pay. -/
structure Unpaid (w u : World) (entries : List (Address × ℕ × ℕ)) : Prop where
  setToken : u.setToken = w.setToken
  controller : u.controller = w.controller
  components : ∀ c ∈ w.setToken.components, (u.erc20 c).Standard
  nodup : (entries.map Prod.fst).Nodup
  listed : ∀ entry ∈ entries, entry.1 ∈ w.setToken.components
  covered : ∀ entry ∈ entries, entry.2.1 + entry.2.2 ≤ u.balance entry.1

theorem Redeemable.pays {payee : Address} (hw : m.Redeemable w) (hs : u.setToken = w.setToken)
    (hcontroller : u.controller = w.controller) (hc : c ≠ w.setToken.address)
    (hstandard : (u.erc20 c).Standard) (hpayee : payee ≠ 0) (hne : payee ≠ w.setToken.address) :
    u.Pays m.address c payee where
  authorized := by
    rw [hs, hcontroller]
    exact hw.authorized
  address_ne_zero := by
    rw [hs]
    exact hw.address_ne_zero
  token_ne := by rwa [hs]
  recipient_ne_zero := hpayee
  recipient_ne := by rwa [hs]
  standard := hstandard

theorem payComponent_succeeds (env : Env) (hw : m.Redeemable w)
    (hself : w.setToken.address ∉ w.setToken.components) (hrecipient : recipient ≠ 0)
    (hne : recipient ≠ w.setToken.address) (h : Unpaid w u (entry :: entries)) :
    ∃ u', m.payComponent env recipient u entry = .ok u' ∧ Unpaid w u' entries := by
  obtain ⟨hlisted, hlistedRest⟩ := List.forall_mem_cons.mp h.listed
  obtain ⟨hcovered, hcoveredRest⟩ := List.forall_mem_cons.mp h.covered
  obtain ⟨hnot, hnodup⟩ := List.nodup_cons.mp h.nodup
  have hcomponent : entry.1 ≠ w.setToken.address := fun heq ↦ hself (heq ▸ hlisted)
  have htoken : entry.1 ≠ u.setToken.address := by rwa [h.setToken]
  obtain ⟨v, hfee, hstandard⟩ : ∃ v, payProtocolFeeFromSetToken u env m.address entry.1 entry.2.2 =
      .ok v ∧ (v.erc20 entry.1).Standard := by
    unfold payProtocolFeeFromSetToken
    split_ifs
    · apply World.strictInvokeTransfer_succeeds env ?_ (by omega)
      rw [h.controller]
      exact hw.pays h.setToken h.controller hcomponent (h.components _ hlisted)
        hw.feeRecipient_ne_zero hw.feeRecipient_ne
    · exact ⟨u, rfl, h.components _ hlisted⟩
  obtain ⟨hstep, hfeeLe, hbalance⟩ := payProtocolFeeFromSetToken_balance hfee htoken
  have hpays : v.Pays m.address entry.1 recipient :=
    hw.pays (hstep.setToken.trans h.setToken) (hstep.controller.trans h.controller) hcomponent
      hstandard hrecipient hne
  have hrest : entry.2.1 ≤ v.balance entry.1 := by omega
  obtain ⟨u', hpaid, hstandard'⟩ := World.strictInvokeTransfer_succeeds env hpays hrest
  have hok : m.payComponent env recipient u entry = .ok u' := by
    rw [payComponent, hfee]
    exact hpaid
  have hwhole := (payComponent_balance hok htoken).1
  refine ⟨u', hok, hwhole.setToken.trans h.setToken, hwhole.controller.trans h.controller, ?_,
    hnodup, hlistedRest, ?_⟩
  · intro c hc
    by_cases heq : c = entry.1
    · exact heq ▸ hstandard'
    · rw [hwhole.other c heq]
      exact h.components c hc
  · intro later hlater
    have hother : later.1 ≠ entry.1 := by
      intro heq
      exact hnot (heq ▸ List.mem_map_of_mem hlater)
    rw [hwhole.balance_of_ne hother]
    exact hcoveredRest later hlater

/-- Quotes depend on the units and the fees only. -/
theorem quote_eq {t : ERC20} (hs : u.setToken = w.setToken.setErc20 t)
    (hcontroller : u.controller = w.controller) (quantity : ℕ) :
    m.getRequiredComponentUnitsForRedeem u quantity =
        m.getRequiredComponentUnitsForRedeem w quantity ∧
      m.componentUnitsForRedeem u quantity = m.componentUnitsForRedeem w quantity := by
  obtain ⟨controller, setToken, chain, log, transfers⟩ := u
  obtain rfl : setToken = w.setToken.setErc20 t := hs
  obtain rfl : controller = w.controller := hcontroller
  exact ⟨rfl, rfl⟩

/-- A redemption that somebody asks for. -/
structure Redemption where
  env : Env
  quantity : ℕ
  recipient : Address

/-- The module can quote the redemption, and nobody is the zero address or the Set. -/
structure Redemption.Proper (m : BasicIssuanceModule) (w : World) (r : Redemption) : Prop where
  quantity_pos : 0 < r.quantity
  sender_ne_zero : r.env.sender ≠ 0
  recipient_ne_zero : r.recipient ≠ 0
  recipient_ne : r.recipient ≠ w.setToken.address
  quoted : ∃ required, m.getRequiredComponentUnitsForRedeem w r.quantity = .ok required

/-- A covered component covers what a redemption pays. -/
theorem amounts_le {amounts : ℕ × ℕ} (hcovered : Covered w c)
    (hle : quantity ≤ w.setToken.totalSupply)
    (hamounts : m.componentUnitsForRedeem w quantity c = .ok amounts) :
    amounts.1 + amounts.2 ≤ w.balance c := by
  have hquoted := componentUnitsForRedeem_ok hamounts
  have hscale : 0 < preciseUnitInt := preciseUnitInt_pos
  have hbacked : (w.setToken.totalSupply : ℤ) * w.setToken.defaultRealUnit c ≤
      (w.balance c : ℤ) * preciseUnitInt := hcovered
  have hpaid : ((amounts.1 + amounts.2 : ℕ) : ℤ) * preciseUnitInt ≤
      (w.balance c : ℤ) * preciseUnitInt := by
    rcases le_or_gt 0 (w.setToken.defaultRealUnit c) with hunit | hunit
    · calc ((amounts.1 + amounts.2 : ℕ) : ℤ) * preciseUnitInt
          ≤ (quantity : ℤ) * w.setToken.defaultRealUnit c := hquoted
        _ ≤ (w.setToken.totalSupply : ℤ) * w.setToken.defaultRealUnit c :=
            mul_le_mul_of_nonneg_right (by exact_mod_cast hle) hunit
        _ ≤ (w.balance c : ℤ) * preciseUnitInt := hbacked
    · calc ((amounts.1 + amounts.2 : ℕ) : ℤ) * preciseUnitInt
          ≤ (quantity : ℤ) * w.setToken.defaultRealUnit c := hquoted
        _ ≤ 0 := mul_nonpos_of_nonneg_of_nonpos (Int.natCast_nonneg quantity) hunit.le
        _ ≤ (w.balance c : ℤ) * preciseUnitInt :=
            mul_nonneg (Int.natCast_nonneg _) hscale.le
  exact_mod_cast le_of_mul_le_mul_right hpaid hscale

/-- Burning Sets leaves the Set redeemable. -/
theorem Redeemable.of_shares {t : ERC20} (h : m.Redeemable w)
    (hs : u.setToken = w.setToken.setErc20 t) (hcontroller : u.controller = w.controller)
    (ht : t.Standard) (hcomponents : ∀ c ∈ w.setToken.components, (u.erc20 c).Standard) :
    m.Redeemable u := by
  obtain ⟨controller, setToken, chain, log, transfers⟩ := u
  obtain rfl : setToken = w.setToken.setErc20 t := hs
  obtain rfl : controller = w.controller := hcontroller
  have hauthorized : (w.setToken.setErc20 t).Authorized w.controller m.address :=
    ⟨h.authorized.initialized, h.authorized.enabled, h.authorized.locker⟩
  exact ⟨h.valid, hauthorized, h.address_ne_zero, h.feeRecipient_ne_zero, h.feeRecipient_ne, ht,
    hcomponents⟩

/-- A holder can redeem what it has. -/
theorem redeem_succeeds {r : Redemption} (hredeemable : m.Redeemable w) (hw : w.WellFormed)
    (hcovered : w.Collateralized) (hr : r.Proper m w)
    (hle : r.quantity ≤ w.setToken.erc20.balances r.env.sender) :
    ∃ w', m.redeem w r.env r.quantity r.recipient = .ok w' ∧ m.Redeemable w' := by
  obtain ⟨t, ht, hstandard⟩ := hredeemable.shares.burn_succeeds hr.sender_ne_zero hle
  let v : World := { w with setToken := w.setToken.setErc20 t }
  have hburn : (w.onSetToken fun s ↦ s.burn w.controller m.address r.env.sender r.quantity) =
      .ok v := by
    simp only [World.onSetToken, Outcome.bind_eq_ok, SetToken.burn_eq_ok, Outcome.pure_eq_ok]
    exact ⟨_, ⟨hredeemable.authorized, t, ht, rfl⟩, rfl⟩
  have hself : ∀ c ∈ w.setToken.components, c ≠ w.setToken.address := by
    rintro c hc rfl
    exact hw.self_notMem hc
  have hread : ∀ c ∈ w.setToken.components, v.erc20 c = w.erc20 c := by
    intro c hc
    simp [World.erc20, v, hself c hc]
  have hv : m.Redeemable v := by
    have hcomponents : ∀ c ∈ w.setToken.components, (v.erc20 c).Standard := by
      intro c hc
      rw [hread c hc]
      exact hredeemable.components c hc
    exact hredeemable.of_shares (u := v) rfl rfl hstandard hcomponents
  obtain ⟨required, hrequired⟩ := hr.quoted
  have hquote : m.getRequiredComponentUnitsForRedeem v r.quantity = .ok required := hrequired
  simp only [getRequiredComponentUnitsForRedeem, Outcome.bind_eq_ok, Outcome.pure_eq_ok] at hrequired
  obtain ⟨_, hvalid, amounts, hamounts, rfl⟩ := hrequired
  have hkeys := Outcome.map_fst_zip_mapM hamounts
  have hsupply : r.quantity ≤ w.setToken.totalSupply :=
    hle.trans (hredeemable.shares.conserved.le _)
  have hunpaid : Unpaid v v (w.setToken.components.zip amounts) := by
    refine ⟨rfl, rfl, hv.components, ?_, fun entry hentry ↦ (List.of_mem_zip hentry).1, ?_⟩
    · rw [hkeys]
      exact hw.components_nodup
    · intro entry hentry
      have hc := (List.of_mem_zip hentry).1
      have hbalance : v.balance entry.1 = w.balance entry.1 := by
        unfold World.balance
        rw [hread _ hc]
        rfl
      rw [hbalance]
      exact amounts_le (hcovered _ hc) hsupply (Outcome.zip_mapM_ok hamounts hentry)
  obtain ⟨w', hloop, hpaid⟩ := Outcome.foldlM_progress
    (P := Unpaid v) (fun _ _ _ h ↦ payComponent_succeeds r.env hv hw.self_notMem
      hr.recipient_ne_zero hr.recipient_ne h) hunpaid
  refine ⟨w', ?_, hredeemable.of_shares hpaid.setToken hpaid.controller hstandard hpaid.components⟩
  simp only [redeem, Outcome.bind_eq_ok, Outcome.require_eq_ok]
  exact ⟨(), hvalid, (), hr.quantity_pos, v, hburn, _, hquote, hloop⟩

/-- What an account is paid of a component: the recipient the amount, and the protocol its fee. -/
def payout (m : BasicIssuanceModule) (w : World) (r : Redemption) (c a : Address) : ℕ :=
  let amounts := (m.componentUnitsForRedeem w r.quantity c).getD (0, 0)
  (if a = w.controller.feeRecipient then amounts.2 else 0) + if a = r.recipient then amounts.1 else 0

theorem payComponent_pays (h : m.payComponent env recipient u entry = .ok u')
    (htoken : entry.1 ≠ u.setToken.address) (ha : a ≠ u.setToken.address) :
    u'.balanceOf entry.1 a = u.balanceOf entry.1 a +
      ((if a = u.controller.feeRecipient then entry.2.2 else 0) +
        if a = recipient then entry.2.1 else 0) := by
  simp only [payComponent, Outcome.bind_eq_ok] at h
  obtain ⟨v, hfee, hpay⟩ := h
  have hstep := (payProtocolFeeFromSetToken_balance hfee htoken).1
  have hcharged : v.balanceOf entry.1 a =
      u.balanceOf entry.1 a + if a = u.controller.feeRecipient then entry.2.2 else 0 := by
    unfold payProtocolFeeFromSetToken at hfee
    split_ifs at hfee with hpos
    · rw [World.strictInvokeTransfer_credits hfee ha entry.1, Bill.entryAt, if_pos rfl]
    · obtain rfl := Outcome.pure_eq_ok.mp hfee
      have hzero : entry.2.2 = 0 := by omega
      rw [hzero, ite_self, Nat.add_zero]
  rw [World.strictInvokeTransfer_credits hpay (hstep.setToken.symm ▸ ha) entry.1, hcharged,
    Bill.entryAt, if_pos rfl, Nat.add_assoc]

/-- The loop pays each component once. -/
theorem foldlM_payComponent_pays {f : Address → Outcome (ℕ × ℕ)} {amounts : List (ℕ × ℕ)}
    (hw : w.WellFormed) (hamounts : w.setToken.components.mapM f = .ok amounts)
    (hloop : (w.setToken.components.zip amounts).foldlM (m.payComponent env recipient) w = .ok w')
    (ha : a ≠ w.setToken.address) :
    ∀ entry ∈ w.setToken.components.zip amounts,
      w'.balanceOf entry.1 a = w.balanceOf entry.1 a +
        ((if a = w.controller.feeRecipient then entry.2.2 else 0) +
          if a = recipient then entry.2.1 else 0) := by
  have hnodup : ((w.setToken.components.zip amounts).map Prod.fst).Nodup := by
    rw [Outcome.map_fst_zip_mapM hamounts]
    exact hw.components_nodup
  apply (Outcome.foldlM_pointwise (fun u c ↦ u.balanceOf c a)
    (fun u ↦ u.setToken = w.setToken ∧ u.controller = w.controller)
    (fun before amounts after ↦ after = before +
      ((if a = w.controller.feeRecipient then amounts.2 else 0) +
        if a = recipient then amounts.1 else 0)) ?_ hnodup hloop ⟨rfl, rfl⟩).2.1
  rintro u u' entry hentry hok ⟨hs, hcontroller⟩
  have htoken : entry.1 ≠ u.setToken.address := by
    rw [hs]
    intro heq
    exact hw.self_notMem (heq ▸ (List.of_mem_zip hentry).1)
  have hstep := (payComponent_balance hok htoken).1
  have hpays := payComponent_pays hok htoken (by rwa [hs])
  rw [hcontroller] at hpays
  refine ⟨⟨hstep.setToken.trans hs, hstep.controller.trans hcontroller⟩, hpays, fun k hk ↦ ?_⟩
  unfold World.balanceOf
  rw [hstep.other k hk]

/-- A redemption burns the quantity and pays every component as it was quoted. -/
theorem redeem_pays {r : Redemption} (h : m.redeem w r.env r.quantity r.recipient = .ok w')
    (hw : w.WellFormed) :
    (∃ t, w'.setToken = w.setToken.setErc20 t) ∧ w'.controller = w.controller ∧
      (∀ a, w'.setToken.erc20.balances a + Bill.entryAt a (r.env.sender, r.quantity) =
        w.setToken.erc20.balances a) ∧
      ∀ c ∈ w.setToken.components, ∀ a, a ≠ w.setToken.address →
        w'.balanceOf c a = w.balanceOf c a + m.payout w r c a := by
  simp only [redeem, getRequiredComponentUnitsForRedeem, World.onSetToken, Outcome.bind_eq_ok,
    Outcome.pure_eq_ok, SetToken.burn_eq_ok] at h
  obtain ⟨_, -, _, -, v, ⟨_, ⟨-, t, ht, rfl⟩, rfl⟩, _, ⟨_, -, amounts, hamounts, rfl⟩, hloop⟩ := h
  obtain ⟨-, -, -, hle, hburnt, hother⟩ := ERC20.burn_ok ht
  have hv : World.WellFormed { w with setToken := w.setToken.setErc20 t } := hw.of_erc20 rfl
  obtain ⟨hs, hcontroller, -⟩ := foldlM_components (R := fun _ _ _ ↦ True)
    (fun _ _ _ hpay htoken ↦ ⟨(payComponent_balance hpay htoken).1, trivial⟩) hv.components_nodup
    hv.self_notMem hamounts hloop
  refine ⟨⟨t, hs⟩, hcontroller, fun a ↦ ?_, fun c hc a ha ↦ ?_⟩
  · have hread : w'.setToken.erc20.balances a = t.balances a := by
      rw [hs]
      rfl
    unfold Bill.entryAt
    by_cases hsender : r.env.sender = a
    · rw [if_pos hsender, hread, ← hsender, hburnt]
      exact Nat.sub_add_cancel hle
    · rw [if_neg hsender, hread, hother a (Ne.symm hsender), Nat.add_zero]
  · obtain ⟨entry, hentry, rfl⟩ := List.mem_map.mp ((Outcome.map_fst_zip_mapM hamounts).symm ▸ hc)
    have hne : entry.1 ≠ w.setToken.address := fun heq ↦ hw.self_notMem (heq ▸ hc)
    have hbefore : World.balanceOf { w with setToken := w.setToken.setErc20 t } entry.1 a =
        w.balanceOf entry.1 a := by
      simp [World.balanceOf, World.erc20, hne]
    have hquoted : m.componentUnitsForRedeem w r.quantity entry.1 = .ok entry.2 :=
      Outcome.zip_mapM_ok hamounts hentry
    rw [foldlM_payComponent_pays hv hamounts hloop ha entry hentry, hbefore, payout, hquoted]
    rfl

/-! ## Everybody leaves -/

/-- One redemption after the other. -/
def redeemAll (m : BasicIssuanceModule) (w : World) (redemptions : List Redemption) : Outcome World :=
  redemptions.foldlM (fun w r ↦ m.redeem w r.env r.quantity r.recipient) w

/-- What the holders ask to have burnt. -/
def burns (redemptions : List Redemption) : List (Address × ℕ) :=
  redemptions.map fun r ↦ (r.env.sender, r.quantity)

/-- What an account is paid of a component by all redemptions, as quoted in one state. -/
def payouts (m : BasicIssuanceModule) (w : World) (redemptions : List Redemption) (c a : Address) : ℕ :=
  (redemptions.map fun r ↦ m.payout w r c a).sum

/-- The Set as it is after some redemptions, and those that are still to come. -/
structure Leaving (m : BasicIssuanceModule) (redemptions : List Redemption) (w u : World)
    (rest : List Redemption) : Prop where
  redeemable : m.Redeemable u
  wellFormed : u.WellFormed
  collateralized : u.Collateralized
  setToken : ∃ t, u.setToken = w.setToken.setErc20 t
  controller : u.controller = w.controller
  proper : ∀ r ∈ rest, r.Proper m w
  shares : ∀ a, u.setToken.erc20.balances a + Bill.due (burns redemptions) a =
    w.setToken.erc20.balances a + Bill.due (burns rest) a
  paid : ∀ c ∈ w.setToken.components, ∀ a, a ≠ w.setToken.address →
    u.balanceOf c a + m.payouts w rest c a = w.balanceOf c a + m.payouts w redemptions c a

variable {r : Redemption} {rest redemptions : List Redemption}

theorem Leaving.step (h : Leaving m redemptions w u (r :: rest))
    (hburns : ∀ a, Bill.due (burns redemptions) a ≤ w.setToken.erc20.balances a) :
    ∃ u', m.redeem u r.env r.quantity r.recipient = .ok u' ∧ Leaving m redemptions w u' rest := by
  obtain ⟨t, ht⟩ := h.setToken
  obtain ⟨hr, hproper⟩ := List.forall_mem_cons.mp h.proper
  have haddress : u.setToken.address = w.setToken.address := by
    rw [ht]
    rfl
  obtain ⟨hrequired, hunits⟩ := quote_eq (m := m) ht h.controller r.quantity
  have hru : r.Proper m u := by
    refine ⟨hr.quantity_pos, hr.sender_ne_zero, hr.recipient_ne_zero, haddress ▸ hr.recipient_ne, ?_⟩
    rw [hrequired]
    exact hr.quoted
  have hdue : ∀ a, Bill.due (burns (r :: rest)) a =
      Bill.entryAt a (r.env.sender, r.quantity) + Bill.due (burns rest) a := fun _ ↦ rfl
  have hle : r.quantity ≤ u.setToken.erc20.balances r.env.sender := by
    have hshares := h.shares r.env.sender
    have hall := hburns r.env.sender
    have hown : Bill.entryAt r.env.sender (r.env.sender, r.quantity) = r.quantity := if_pos rfl
    rw [hdue, hown] at hshares
    omega
  obtain ⟨u', hu', hredeemable⟩ :=
    redeem_succeeds h.redeemable h.wellFormed h.collateralized hru hle
  obtain ⟨hwell, hcovered⟩ := redeem_collateralized hu' h.wellFormed h.collateralized
  obtain ⟨⟨t', ht'⟩, hcontroller, hshares, hpaid⟩ := redeem_pays hu' h.wellFormed
  refine ⟨u', hu', hredeemable, hwell, hcovered, ⟨t', ?_⟩, hcontroller.trans h.controller, hproper,
    fun a ↦ ?_, fun c hc a ha ↦ ?_⟩
  · rw [ht', ht]
    rfl
  · have hbefore := h.shares a
    have hafter := hshares a
    rw [hdue] at hbefore
    omega
  · have hpayout : m.payout u r c a = m.payout w r c a := by
      unfold payout
      rw [hunits, h.controller]
    have hcomponent : c ∈ u.setToken.components := by rwa [ht]
    have hbefore := h.paid c hc a ha
    have hafter := hpaid c hcomponent a (haddress ▸ ha)
    have hsum : m.payouts w (r :: rest) c a = m.payout w r c a + m.payouts w rest c a := rfl
    rw [hpayout] at hafter
    rw [hsum] at hbefore
    omega

namespace LeavingSample

def module : BasicIssuanceModule := ⟨20, 0, false⟩

/-- Accounts 9 and 11 hold the Sets, each of one unit of token 7; a tenth of what is paid is a fee. -/
def world : World where
  controller := { Controller.enabling 4 [20] with
    isSet := fun a ↦ a == 6, fees := fun _ _ ↦ 10 ^ 17 }
  setToken := { SetToken.launched 6 [7] [10 ^ 18] [20] 2 9 0 with
    erc20 := ERC20.holding 18 [(9, 60), (11, 40)] 0 }
  chain := { tokens := fun _ ↦ ERC20.holding 18 [(6, 100), (9, 5)] 0 }
  log := []

/-- Account 9 sends the Set 5 units for nothing. -/
def donated : World := (world.transfer 7 9 6 5).getD world

/-- Account 11 has its share sent to account 12. -/
def leavers : List Redemption := [⟨Env.plain 11 0, 40, 12⟩, ⟨Env.plain 9 0, 60, 9⟩]

def left : World := (module.redeemAll donated leavers).getD donated

theorem donation : world.transfer 7 9 6 5 = .ok donated :=
  Outcome.eq_ok_getD world (by decide +kernel)

theorem donated_redeemable : module.Redeemable donated where
  valid := by decide +kernel
  authorized := ⟨by decide +kernel, by decide +kernel, fun h ↦ absurd h (by decide +kernel)⟩
  address_ne_zero := by decide +kernel
  feeRecipient_ne_zero := by decide +kernel
  feeRecipient_ne := by decide +kernel
  shares := ⟨ERC20.Conserved.holding 18 0 (by decide +kernel), by decide +kernel⟩
  components := by
    intro c hc
    have hcomponents : donated.setToken.components = [7] := by decide +kernel
    obtain rfl : c = 7 := List.mem_singleton.mp (hcomponents ▸ hc)
    obtain ⟨state, hstate, hwrite⟩ := World.transfer_tokenWrite donation
    have hstandard : (world.erc20 7).Standard :=
      ⟨ERC20.Conserved.holding 18 0 (by decide +kernel), by decide +kernel⟩
    rw [hwrite.erc20, if_pos rfl]
    exact ⟨hstandard.conserved.transfer hstate,
      (ERC20.transfer_ok hstate).1.le.trans hstandard.supply_le⟩

theorem burns_le (a : Address) :
    Bill.due (burns leavers) a ≤ donated.setToken.erc20.balances a := by
  by_cases h9 : a = 9
  · subst h9
    decide +kernel
  by_cases h11 : a = 11
  · subst h11
    decide +kernel
  · have hnothing : Bill.due (burns leavers) a = 0 := by
      change (if (11 : Address) = a then 40 else 0) + ((if (9 : Address) = a then 60 else 0) + 0) = 0
      rw [if_neg (Ne.symm h11), if_neg (Ne.symm h9)]
      rfl
    rw [hnothing]
    exact Nat.zero_le _

end LeavingSample

end BasicIssuanceModule

end SetProtocol
