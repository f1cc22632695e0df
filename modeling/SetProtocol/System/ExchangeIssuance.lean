import SetProtocol.System.IssuanceBills

/-!
# What the exchange issuance contract keeps

Tokens that are left over from earlier trades lie in `ExchangeIssuanceZeroEx` until the owner withdraws them.
Whatever the quotes of a caller do, a call leaves the contract exactly as much of the traded token as
before; and as long as quotes only sell what they are for, no call ever takes anything that the
contract holds.  The Sets have default positions only: the contract would pay debts and module hooks itself.
-/

namespace SetProtocol

open ModuleBase

namespace ExchangeIssuanceZeroEx

variable {x : ExchangeIssuanceZeroEx} {P P' : Protocol} {w w' : World} {env : Env}
  {amount total : ℕ} {token inputToken outputToken : Address} {quote : List UInt8}
  {quotes : List (List UInt8)} {issuance : IssuanceContract} {isDebtIssuance : Bool}

/-- The quote takes no token from the contract but one. -/
def SellsOnly (x : ExchangeIssuanceZeroEx) (token : Address) (quote : List UInt8) : Prop :=
  ∀ chain chain', x.swap quote chain = .ok chain' → ∀ other, other ≠ token →
    (chain.tokens other).balances x.address ≤ (chain'.tokens other).balances x.address

/-! ## Single steps -/

/-- The Set and the Controller are as before. -/
structure SameSet (w w' : World) : Prop where
  setToken : w'.setToken = w.setToken
  controller : w'.controller = w.controller

theorem SameSet.trans {w₁ w₂ w₃ : World} (h : SameSet w₁ w₂) (h' : SameSet w₂ w₃) :
    SameSet w₁ w₃ :=
  ⟨h'.setToken.trans h.setToken, h'.controller.trans h.controller⟩

theorem SameSet.callStep (h : SameSet w w') : w.CallStep w' :=
  ⟨h.controller, w.setToken.erc20, h.setToken⟩

theorem fillQuote_sameSet (h : x.fillQuote w quote = .ok w') : SameSet w w' := by
  simp only [fillQuote, Outcome.bind_eq_ok, Outcome.pure_eq_ok] at h
  obtain ⟨_, -, chain, -, rfl⟩ := h
  exact ⟨rfl, rfl⟩

theorem fillQuote_keeps (h : x.fillQuote w quote = .ok w') (hquote : x.SellsOnly token quote)
    {other : Address} (hother : other ≠ token) :
    w.balanceOf other x.address ≤ w'.balanceOf other x.address := by
  simp only [fillQuote, Outcome.bind_eq_ok, Outcome.pure_eq_ok] at h
  obtain ⟨_, -, chain, hchain, rfl⟩ := h
  unfold World.balanceOf World.erc20
  dsimp only
  split_ifs
  · exact le_rfl
  · exact hquote w.chain chain hchain other hother

/-- Approving moves no balance. -/
theorem safeApprove_ok {spender : Address} (h : x.safeApprove w token spender amount = .ok w')
    (htoken : token ≠ w.setToken.address) :
    SameSet w w' ∧ ∀ t a, w'.balanceOf t a = w.balanceOf t a := by
  unfold safeApprove at h
  dsimp only at h
  split_ifs at h
  · simp only [Outcome.bind_eq_ok] at h
    obtain ⟨granted, -, happrove⟩ := h
    have hstep := (World.approve_moveStep happrove).1.tokenStep htoken
    obtain ⟨state, hstate, hwrite⟩ := World.approve_tokenWrite happrove
    obtain ⟨-, -, hbalances⟩ := ERC20.approve_ok hstate
    refine ⟨⟨hstep.setToken, hstep.controller⟩, fun t a ↦ ?_⟩
    unfold World.balanceOf
    rw [hwrite.erc20 t]
    by_cases ht : t = token
    · rw [if_pos ht, hbalances, ht]
    · rw [if_neg ht]
  · obtain rfl := Outcome.pure_eq_ok.mp h
    exact ⟨⟨rfl, rfl⟩, fun _ _ ↦ rfl⟩

/-- The caller hands over tokens. -/
theorem transferFrom_ok {spender sender recipient : Address}
    (h : w.transferFrom token spender sender recipient amount = .ok w') (hne : sender ≠ recipient) :
    w'.balanceOf token sender + amount = w.balanceOf token sender ∧
      w'.balanceOf token recipient = w.balanceOf token recipient + amount ∧
      ∀ t, t ≠ token → ∀ a, w'.balanceOf t a = w.balanceOf t a := by
  obtain ⟨state, hstate, hwrite⟩ := World.transferFrom_tokenWrite h
  obtain ⟨moved, hmoved, -, -, hbalances⟩ := ERC20.transferFrom_ok hstate
  obtain ⟨-, -, -, hle, -, hends, -⟩ := ERC20.transfer_ok hmoved
  unfold World.balanceOf
  refine ⟨?_, ?_, fun t ht a ↦ ?_⟩
  · rw [hwrite.erc20 token, if_pos rfl, hbalances, (hends hne).1]
    exact Nat.sub_add_cancel hle
  · rw [hwrite.erc20 token, if_pos rfl, hbalances, (hends hne).2]
  · rw [hwrite.erc20 t, if_neg ht]

/-- The contract hands over tokens. -/
theorem transfer_ok {sender recipient : Address}
    (h : w.transfer token sender recipient amount = .ok w') (hne : sender ≠ recipient) :
    w'.balanceOf token sender + amount = w.balanceOf token sender ∧
      w'.balanceOf token recipient = w.balanceOf token recipient + amount ∧
      ∀ t, t ≠ token → ∀ a, w'.balanceOf t a = w.balanceOf t a := by
  obtain ⟨state, hstate, hwrite⟩ := World.transfer_tokenWrite h
  obtain ⟨-, -, -, hle, -, hends, -⟩ := ERC20.transfer_ok hstate
  unfold World.balanceOf
  refine ⟨?_, ?_, fun t ht a ↦ ?_⟩
  · rw [hwrite.erc20 token, if_pos rfl, (hends hne).1]
    exact Nat.sub_add_cancel hle
  · rw [hwrite.erc20 token, if_pos rfl, (hends hne).2]
  · rw [hwrite.erc20 t, if_neg ht]

/-! ## Buying the components -/

/-- What one pass buys: the input token is only counted, and every other component is bought. -/
theorem buyComponent_ok {state state' : World × ℕ} {entry : (Address × ℕ) × ℕ}
    (h : x.buyComponent quotes inputToken state entry = .ok state') :
    SameSet state.1 state'.1 ∧ state'.2 = state.2 + Bill.entryAt inputToken entry.1 ∧
      ((∀ quote ∈ quotes, x.SellsOnly inputToken quote) → ∀ t, t ≠ inputToken →
        state.1.balanceOf t x.address + Bill.entryAt t entry.1 ≤ state'.1.balanceOf t x.address) := by
  obtain ⟨w, sold⟩ := state
  obtain ⟨⟨component, units⟩, i⟩ := entry
  unfold buyComponent at h
  unfold Bill.entryAt
  dsimp only at h ⊢
  by_cases hinput : component = inputToken
  · rw [if_pos hinput] at h
    simp only [Outcome.bind_eq_ok, SafeMath.add_eq_ok, Outcome.pure_eq_ok] at h
    obtain ⟨_, ⟨-, rfl⟩, rfl⟩ := h
    refine ⟨⟨rfl, rfl⟩, by rw [if_pos hinput], fun _ t ht ↦ ?_⟩
    rw [if_neg fun heq ↦ ht (heq.symm.trans hinput), Nat.add_zero]
  · rw [if_neg hinput] at h
    simp only [Outcome.bind_eq_ok, SafeMath.sub_eq_ok, Outcome.require_eq_ok,
      Outcome.pure_eq_ok] at h
    obtain ⟨v, hfill, _, ⟨hle, rfl⟩, _, hbought, rfl⟩ := h
    unfold fillQuoteAt at hfill
    cases hquote : quotes[i]? with
    | none =>
      rw [hquote] at hfill
      exact absurd hfill (Outcome.throw_ne_ok.mp ·)
    | some quote =>
      rw [hquote] at hfill
      dsimp only at hfill
      refine ⟨fillQuote_sameSet hfill, by rw [if_neg hinput, Nat.add_zero], fun hquotes t ht ↦ ?_⟩
      split_ifs with hcomponent
      · subst hcomponent
        change w.balanceOf component x.address + units ≤ v.balanceOf component x.address
        omega
      · exact fillQuote_keeps hfill (hquotes quote (List.mem_of_getElem? hquote)) ht

/-- What the contract has spent and bought once the components are bought. -/
structure Bought (x : ExchangeIssuanceZeroEx) (w w' : World) (inputToken : Address)
    (required : List (Address × ℕ)) (total : ℕ) : Prop where
  sameSet : SameSet w w'
  spent : total + w'.balanceOf inputToken x.address =
    w.balanceOf inputToken x.address + Bill.due required inputToken

theorem buyComponentsForInputToken_ok
    (h : x.buyComponentsForInputToken w amount quotes inputToken issuance isDebtIssuance =
      .ok (w', total)) :
    ∃ required,
      issuance.getRequiredIssuanceComponents isDebtIssuance w amount = .ok required ∧
      x.Bought w w' inputToken required total ∧
      ((∀ quote ∈ quotes, x.SellsOnly inputToken quote) → ∀ t, t ≠ inputToken →
        w.balanceOf t x.address + Bill.due required t ≤ w'.balanceOf t x.address) := by
  simp only [buyComponentsForInputToken, Outcome.bind_eq_ok, SafeMath.sub_eq_ok, SafeMath.add_eq_ok,
    Outcome.pure_eq_ok, Prod.exists, Prod.mk.injEq] at h
  obtain ⟨required, hrequired, v, counted, hloop, _, ⟨hle, rfl⟩, _, ⟨-, rfl⟩, rfl, rfl⟩ := h
  refine ⟨required, hrequired, ?_, ?_⟩
  · obtain ⟨hsame, hcounted⟩ := Outcome.foldlM_sum_eq (Q := fun s ↦ SameSet w s.1)
      (fun s ↦ s.2) (fun entry ↦ Bill.entryAt inputToken entry.1) (fun _ ↦ 0)
      (fun s entry _ s' hok hs ↦
        ⟨hs.trans (buyComponent_ok hok).1, (buyComponent_ok hok).2.1.symm⟩) hloop ⟨rfl, rfl⟩
    rw [Bill.due_zipIdx, List.sum_map_zero] at hcounted
    dsimp only at hcounted hsame
    exact ⟨hsame, by omega⟩
  · intro hquotes t ht
    obtain ⟨-, hbought⟩ := Outcome.foldlM_sum_le (Q := fun _ ↦ True)
      (fun s ↦ s.1.balanceOf t x.address) (fun entry ↦ Bill.entryAt t entry.1) (fun _ ↦ 0)
      (fun s entry _ s' hok _ ↦ ⟨trivial, (buyComponent_ok hok).2.2 hquotes t ht⟩) hloop trivial
    rw [Bill.due_zipIdx, List.sum_map_zero] at hbought
    exact hbought

/-- The quote does not touch a token of an account. -/
def Ignores (x : ExchangeIssuanceZeroEx) (token account : Address) (quote : List UInt8) : Prop :=
  ∀ chain chain', x.swap quote chain = .ok chain' →
    (chain'.tokens token).balances account = (chain.tokens token).balances account

theorem buyComponent_bystander {state state' : World × ℕ} {entry : (Address × ℕ) × ℕ}
    {account : Address} (hquotes : ∀ quote ∈ quotes, x.Ignores token account quote)
    (h : x.buyComponent quotes inputToken state entry = .ok state') :
    state'.1.balanceOf token account = state.1.balanceOf token account := by
  obtain ⟨w, sold⟩ := state
  obtain ⟨⟨component, units⟩, i⟩ := entry
  unfold buyComponent at h
  dsimp only at h
  by_cases hinput : component = inputToken
  · rw [if_pos hinput] at h
    simp only [Outcome.bind_eq_ok, Outcome.pure_eq_ok] at h
    obtain ⟨_, -, rfl⟩ := h
    rfl
  · rw [if_neg hinput] at h
    simp only [Outcome.bind_eq_ok, Outcome.pure_eq_ok] at h
    obtain ⟨v, hfill, _, -, _, -, rfl⟩ := h
    unfold fillQuoteAt at hfill
    cases hquote : quotes[i]? with
    | none =>
      rw [hquote] at hfill
      exact absurd hfill (Outcome.throw_ne_ok.mp ·)
    | some quote =>
      rw [hquote] at hfill
      simp only [fillQuote, Outcome.bind_eq_ok, Outcome.pure_eq_ok] at hfill
      obtain ⟨_, -, chain, hchain, rfl⟩ := hfill
      unfold World.balanceOf World.erc20
      dsimp only
      split_ifs
      · rfl
      · exact hquotes quote (List.mem_of_getElem? hquote) w.chain chain hchain

theorem buyComponentsForInputToken_bystander {account : Address}
    (hquotes : ∀ quote ∈ quotes, x.Ignores token account quote)
    (h : x.buyComponentsForInputToken w amount quotes inputToken issuance isDebtIssuance =
      .ok (w', total)) : w'.balanceOf token account = w.balanceOf token account := by
  simp only [buyComponentsForInputToken, Outcome.bind_eq_ok, Outcome.pure_eq_ok, Prod.exists,
    Prod.mk.injEq] at h
  obtain ⟨required, -, v, counted, hloop, _, -, _, -, rfl, -⟩ := h
  exact Outcome.foldlM_invariant
    (P := fun s : World × ℕ ↦ s.1.balanceOf token account = w.balanceOf token account)
    (fun s entry s' hok hs ↦ (buyComponent_bystander hquotes hok).trans hs) hloop rfl

/-! ## Issuing -/

/-- The Set that is issued or redeemed, and the accounts that have a part in it. -/
structure Parties (x : ExchangeIssuanceZeroEx) (issuance : IssuanceContract) (w : World)
    (caller : Address) : Prop where
  plain : issuance.Plain w
  self_notMem : w.setToken.address ∉ w.setToken.components
  address_ne : x.address ≠ w.setToken.address
  caller_ne : caller ≠ x.address
  caller_ne_set : caller ≠ w.setToken.address

theorem Parties.callStep {caller : Address} (h : x.Parties issuance w caller) (hstep : w.CallStep w') :
    x.Parties issuance w' caller := by
  obtain ⟨hplain, hself, haddress, hcaller, hset⟩ := h
  obtain ⟨t, ht⟩ := hstep.setToken
  refine ⟨?_, by rwa [ht], by rwa [ht], hcaller, by rwa [ht]⟩
  cases issuance with
  | basic m => trivial
  | debt m =>
    refine ⟨hplain.1, fun component ↦ ?_⟩
    rw [ht]
    exact hplain.2 component

/-- The part that both ways of issuing share: components are bought, and the Set is issued. -/
structure Purchased (x : ExchangeIssuanceZeroEx) (w w' : World) (caller inputToken : Address)
    (quotes : List (List UInt8)) (amount total : ℕ) : Prop where
  callStep : w.CallStep w'
  spent : w'.balanceOf inputToken x.address + total = w.balanceOf inputToken x.address
  kept : (∀ quote ∈ quotes, x.SellsOnly inputToken quote) → ∀ t, t ≠ inputToken →
    t ≠ w.setToken.address → w.balanceOf t x.address ≤ w'.balanceOf t x.address
  caller_kept : (∀ quote ∈ quotes, x.Ignores inputToken caller quote) →
    w'.balanceOf inputToken caller = w.balanceOf inputToken caller
  minted : w.balanceOf w.setToken.address caller + amount ≤ w'.balanceOf w.setToken.address caller

theorem purchase_ok {v : World}
    (hbuy : x.buyComponentsForInputToken w amount quotes inputToken issuance isDebtIssuance =
      .ok (v, total))
    (hissue : issuance.issue { P with world := v } (x.ownCalls env) amount env.sender = .ok P')
    (hparties : x.Parties issuance w env.sender) (hinput : inputToken ≠ w.setToken.address) :
    x.Purchased w P'.world env.sender inputToken quotes amount total := by
  obtain ⟨required, hrequired, ⟨hsame, hspent⟩, hbought⟩ := buyComponentsForInputToken_ok hbuy
  have hparties' := hparties.callStep hsame.callStep
  rw [← IssuanceContract.getRequiredIssuanceComponents_callStep hsame.callStep] at hrequired
  obtain ⟨hstep, hpaid, hbystander, hminted⟩ := IssuanceContract.issue_issues hissue hparties'.plain
    hrequired hparties'.self_notMem hparties'.address_ne
  dsimp only [ownCalls] at hstep hpaid hbystander hminted
  have haddress : v.setToken.address = w.setToken.address := by rw [hsame.setToken]
  rw [haddress] at hpaid hbystander hminted
  refine ⟨hsame.callStep.trans hstep, ?_, fun hquotes t ht hset ↦ ?_, fun hquotes ↦ ?_, ?_⟩
  · have hpaid' := hpaid inputToken hinput
    omega
  · have hpaid' := hpaid t hset
    have hbought' := hbought hquotes t ht
    omega
  · rw [hbystander inputToken hinput env.sender hparties.caller_ne hparties.caller_ne_set,
      buyComponentsForInputToken_bystander hquotes hbuy]
  · have hsets : v.balanceOf w.setToken.address env.sender =
        w.balanceOf w.setToken.address env.sender := by
      rw [World.balanceOf_self, ← haddress, World.balanceOf_self, hsame.setToken]
    rwa [hsets] at hminted

theorem CallStep.address (h : w.CallStep w') : w'.setToken.address = w.setToken.address := by
  obtain ⟨t, ht⟩ := h.setToken
  rw [ht, SetToken.setErc20_address]

/-- What a call does to the tokens of the contract. -/
structure Keeps (x : ExchangeIssuanceZeroEx) (w w' : World) : Prop where
  callStep : w.CallStep w'
  kept : ∀ t, t ≠ w.setToken.address → w.balanceOf t x.address ≤ w'.balanceOf t x.address

/-- The caller's tokens come in, and the contract may spend them. -/
theorem receive_ok {v : World}
    (hreceive : w.transferFrom token x.address env.sender x.address amount = .ok v)
    (happrove : x.safeApprove v token x.swapTarget amount = .ok w')
    (htoken : token ≠ w.setToken.address) (hcaller : env.sender ≠ x.address) :
    SameSet w w' ∧ w'.balanceOf token x.address = w.balanceOf token x.address + amount ∧
      w'.balanceOf token env.sender + amount = w.balanceOf token env.sender ∧
      ∀ t, t ≠ token → ∀ a, w'.balanceOf t a = w.balanceOf t a := by
  have hstep := (World.transferFrom_moveStep hreceive).1.tokenStep htoken
  obtain ⟨hpaid, hreceived, hother⟩ := transferFrom_ok hreceive hcaller
  obtain ⟨hsame, hbalances⟩ := safeApprove_ok happrove (by rwa [hstep.setToken])
  refine ⟨⟨hsame.setToken.trans hstep.setToken, hsame.controller.trans hstep.controller⟩, ?_, ?_, ?_⟩
  · rw [hbalances, hreceived]
  · rw [hbalances, hpaid]
  · intro t ht a
    rw [hbalances, hother t ht a]

/-- What is left goes back to the caller. -/
theorem returnExcessInputToken_ok {received spent : ℕ}
    (h : x.returnExcessInputToken w env inputToken received spent = .ok w')
    (hinput : inputToken ≠ w.setToken.address) (hcaller : env.sender ≠ x.address) :
    SameSet w w' ∧ w'.balanceOf inputToken x.address + (received - spent) =
        w.balanceOf inputToken x.address ∧
      w'.balanceOf inputToken env.sender = w.balanceOf inputToken env.sender + (received - spent) ∧
      ∀ t, t ≠ inputToken → ∀ a, w'.balanceOf t a = w.balanceOf t a := by
  simp only [returnExcessInputToken, Outcome.bind_eq_ok, SafeMath.sub_eq_ok] at h
  obtain ⟨_, ⟨-, rfl⟩, h⟩ := h
  split_ifs at h with hpos
  · have hstep := (World.transfer_moveStep h).tokenStep hinput
    obtain ⟨hpaid, hreturned, hother⟩ := transfer_ok h hcaller.symm
    exact ⟨⟨hstep.setToken, hstep.controller⟩, hpaid, hreturned, hother⟩
  · obtain rfl := Outcome.pure_eq_ok.mp h
    have hzero : received - spent = 0 := by omega
    rw [hzero]
    exact ⟨⟨rfl, rfl⟩, rfl, rfl, fun _ _ _ ↦ rfl⟩

/-- An issue consists of a payment by the caller, a purchase and the return of the rest. -/
theorem issueExactSetFromToken_steps {maximum sold : ℕ}
    (h : x.issueExactSetFromToken P env inputToken amount maximum quotes issuance isDebtIssuance =
      .ok (P', sold))
    (hparties : x.Parties issuance P.world env.sender) (hinput : inputToken ≠ P.world.setToken.address) :
    sold ≤ maximum ∧ ∃ w P₁, SameSet P.world w ∧ SameSet P₁ P'.world ∧
      x.Purchased w P₁ env.sender inputToken quotes amount sold ∧
      (w.balanceOf inputToken x.address = P.world.balanceOf inputToken x.address + maximum ∧
        w.balanceOf inputToken env.sender + maximum = P.world.balanceOf inputToken env.sender ∧
        ∀ t, t ≠ inputToken → ∀ a, w.balanceOf t a = P.world.balanceOf t a) ∧
      P'.world.balanceOf inputToken x.address + (maximum - sold) =
        P₁.balanceOf inputToken x.address ∧
      P'.world.balanceOf inputToken env.sender =
        P₁.balanceOf inputToken env.sender + (maximum - sold) ∧
      ∀ t, t ≠ inputToken → ∀ a, P'.world.balanceOf t a = P₁.balanceOf t a := by
  simp only [issueExactSetFromToken, Protocol.onWorld, Outcome.bind_eq_ok, Outcome.require_eq_ok,
    Outcome.pure_eq_ok, Prod.exists, Prod.mk.injEq] at h
  obtain ⟨_, -, v, hreceive, w, happrove, u, total, hbuy, _, hle, P₁, hissue, _, ⟨w', hreturn, rfl⟩,
    rfl, rfl⟩ := h
  obtain ⟨hsame, hreceived⟩ := receive_ok hreceive happrove hinput hparties.caller_ne
  have haddress : w.setToken.address = P.world.setToken.address := by rw [hsame.setToken]
  have hpurchase := purchase_ok hbuy hissue (hparties.callStep hsame.callStep) (by rwa [haddress])
  have haddress₁ : P₁.world.setToken.address = P.world.setToken.address := by
    rw [CallStep.address hpurchase.callStep, haddress]
  obtain ⟨hsame', hreturned⟩ :=
    returnExcessInputToken_ok hreturn (by rwa [haddress₁]) hparties.caller_ne
  exact ⟨hle, w, P₁.world, hsame, hsame', hpurchase, hreceived, hreturned⟩

theorem issueExactSetFromToken_keeps {maximum sold : ℕ}
    (h : x.issueExactSetFromToken P env inputToken amount maximum quotes issuance isDebtIssuance =
      .ok (P', sold))
    (hparties : x.Parties issuance P.world env.sender) (hinput : inputToken ≠ P.world.setToken.address)
    (hquotes : ∀ quote ∈ quotes, x.SellsOnly inputToken quote) : x.Keeps P.world P'.world := by
  obtain ⟨hle, w, P₁, hsame, hsame', ⟨hstep, hspent, hkept, -, -⟩, ⟨hreceived, -, hother⟩, hreturned,
    -, hother'⟩ := issueExactSetFromToken_steps h hparties hinput
  refine ⟨(hsame.callStep.trans hstep).trans hsame'.callStep, fun t ht ↦ ?_⟩
  by_cases htoken : t = inputToken
  · subst htoken
    omega
  · rw [hother' t htoken, ← hother t htoken]
    exact hkept hquotes t htoken (by rwa [hsame.setToken])

theorem setErc20_balances {state : ERC20} {account : Address} (htoken : token ≠ w.setToken.address)
    (hother : ∀ a, a ≠ account → state.balances a = (w.erc20 token).balances a) :
    SameSet w (w.setErc20 token state) ∧
      (w.setErc20 token state).balanceOf token account = state.balances account ∧
      ∀ t a, t ≠ token ∨ a ≠ account →
        (w.setErc20 token state).balanceOf t a = w.balanceOf t a := by
  have hstep := w.setErc20_tokenStep state htoken
  refine ⟨⟨hstep.setToken, hstep.controller⟩, ?_, fun t a hta ↦ ?_⟩
  · rw [World.balanceOf, World.erc20_setErc20]
  · unfold World.balanceOf
    rw [w.erc20_setErc20_eq token state t]
    split_ifs with ht
    · rw [ht, hother a (hta.resolve_left (not_not.mpr ht))]
    · rfl

theorem depositWETH_ok (h : x.depositWETH w amount = .ok w') (hweth : x.weth ≠ w.setToken.address) :
    SameSet w w' ∧ w'.balanceOf x.weth x.address = w.balanceOf x.weth x.address + amount ∧
      ∀ t a, t ≠ x.weth ∨ a ≠ x.address → w'.balanceOf t a = w.balanceOf t a := by
  simp only [depositWETH, Outcome.bind_eq_ok, Outcome.pure_eq_ok] at h
  obtain ⟨state, hstate, rfl⟩ := h
  obtain ⟨-, -, hself, hother⟩ := ERC20.mint_ok hstate
  obtain ⟨hsame, hbalance, hrest⟩ := setErc20_balances hweth hother
  exact ⟨hsame, hbalance.trans hself, hrest⟩

theorem withdrawWETH_ok (h : x.withdrawWETH w amount = .ok w')
    (hweth : x.weth ≠ w.setToken.address) :
    SameSet w w' ∧ w'.balanceOf x.weth x.address + amount = w.balanceOf x.weth x.address ∧
      ∀ t a, t ≠ x.weth ∨ a ≠ x.address → w'.balanceOf t a = w.balanceOf t a := by
  simp only [withdrawWETH, Outcome.bind_eq_ok, Outcome.pure_eq_ok] at h
  obtain ⟨state, hstate, rfl⟩ := h
  obtain ⟨-, -, -, hle, hself, hother⟩ := ERC20.burn_ok hstate
  obtain ⟨hsame, hbalance, hrest⟩ := setErc20_balances hweth hother
  refine ⟨hsame, ?_, hrest⟩
  rw [hbalance, hself]
  exact Nat.sub_add_cancel hle

/-- With ether, the wrapped ether of the contract is as before, and what is not spent is returned. -/
theorem issueExactSetFromETH_ok {value returned : ℕ}
    (h : x.issueExactSetFromETH P env value amount quotes issuance isDebtIssuance = .ok (P', returned))
    (hparties : x.Parties issuance P.world env.sender) (hweth : x.weth ≠ P.world.setToken.address) :
    returned ≤ value ∧
      P'.world.balanceOf x.weth x.address = P.world.balanceOf x.weth x.address ∧
      ((∀ quote ∈ quotes, x.SellsOnly x.weth quote) → x.Keeps P.world P'.world) := by
  simp only [issueExactSetFromETH, Outcome.bind_eq_ok, Outcome.require_eq_ok, SafeMath.sub_eq_ok,
    Prod.exists] at h
  obtain ⟨_, -, _, -, v, hdeposit, w, happrove, u, sold, hbuy, _, hle, P₁, hissue, _, ⟨-, rfl⟩, h⟩ := h
  obtain ⟨hsame, hreceived, hother⟩ := depositWETH_ok hdeposit hweth
  obtain ⟨hsame', hbalances⟩ := safeApprove_ok happrove (by rwa [hsame.setToken])
  have hstart : SameSet P.world w := hsame.trans hsame'
  have haddress : w.setToken.address = P.world.setToken.address := by rw [hstart.setToken]
  obtain ⟨hstep, hspent, hkept, -, -⟩ := purchase_ok hbuy hissue
    (hparties.callStep hstart.callStep) (by rwa [haddress])
  have hend : P'.world.setToken = P₁.world.setToken ∧ P'.world.controller = P₁.world.controller ∧
      returned = value - sold ∧
      P'.world.balanceOf x.weth x.address + (value - sold) =
        P₁.world.balanceOf x.weth x.address ∧
      ∀ t, t ≠ x.weth → P'.world.balanceOf t x.address = P₁.world.balanceOf t x.address := by
    have haddress₁ : P₁.world.setToken.address = P.world.setToken.address := by
      rw [CallStep.address hstep, haddress]
    split_ifs at h with hpos
    · simp only [Outcome.bind_eq_ok, Outcome.pure_eq_ok, Prod.mk.injEq] at h
      obtain ⟨w', hwithdraw, rfl, rfl⟩ := h
      obtain ⟨hsame₁, hpaid, hrest⟩ := withdrawWETH_ok hwithdraw (by rwa [haddress₁])
      exact ⟨hsame₁.setToken, hsame₁.controller, rfl, hpaid, fun t ht ↦ hrest t _ (.inl ht)⟩
    · simp only [Outcome.pure_eq_ok, Prod.mk.injEq] at h
      obtain ⟨rfl, rfl⟩ := h
      exact ⟨rfl, rfl, rfl, by omega, fun _ _ ↦ rfl⟩
  obtain ⟨hset, hcontroller, hreturned, hpaid, hrest⟩ := hend
  rw [hbalances, hreceived] at hspent
  refine ⟨by omega, by omega, fun hquotes ↦ ⟨?_, fun t ht ↦ ?_⟩⟩
  · exact (hstart.callStep.trans hstep).trans ⟨hcontroller, P₁.world.setToken.erc20, hset⟩
  · by_cases htoken : t = x.weth
    · subst htoken
      omega
    · rw [hrest t htoken, ← hother t x.address (.inl htoken), ← hbalances t]
      exact hkept hquotes t htoken (by rwa [haddress])

/-! ## Redeeming -/

/-- The quotes take from the contract the components that stand at their positions. -/
def SellsComponents (x : ExchangeIssuanceZeroEx) (components : List Address)
    (quotes : List (List UInt8)) : Prop :=
  ∀ (i : ℕ) (quote : List UInt8) (component : Address), quotes[i]? = some quote →
    components[i]? = some component → x.SellsOnly component quote

/-- Sets come in and are redeemed for at least the bill. -/
theorem redeemExactSet_ok (h : x.redeemExactSet P env amount issuance = .ok P')
    (hparties : x.Parties issuance P.world env.sender) :
    P.world.CallStep P'.world ∧ ∀ isDebtIssuance required,
      issuance.getRequiredRedemptionComponents isDebtIssuance P'.world amount = .ok required →
        ∀ t, t ≠ P.world.setToken.address →
          P.world.balanceOf t x.address + Bill.due required t ≤ P'.world.balanceOf t x.address := by
  simp only [redeemExactSet, Outcome.bind_eq_ok] at h
  obtain ⟨w, hreceive, hredeem⟩ := h
  have hmove := (World.transferFrom_moveStep hreceive).1.callStep
  obtain ⟨-, -, hother⟩ := transferFrom_ok hreceive hparties.caller_ne
  have hparties' := hparties.callStep hmove
  have haddress : w.setToken.address = P.world.setToken.address := CallStep.address hmove
  obtain ⟨bill, ⟨hstep, hreceived⟩, hbill⟩ := IssuanceContract.redeem_redeems hredeem
    hparties'.plain hparties'.self_notMem hparties'.address_ne
  dsimp only at hstep hreceived hbill
  refine ⟨hmove.trans hstep, fun isDebtIssuance required hrequired t ht ↦ ?_⟩
  rw [IssuanceContract.getRequiredRedemptionComponents_callStep hstep] at hrequired
  rw [hbill isDebtIssuance required hrequired, ← hother t ht]
  exact hreceived t (by rwa [haddress])

/-- What one pass sells: the output token is only counted, and of any other component no more than its
amount is sold. -/
theorem sellComponent_ok {required : List (Address × ℕ)} {state state' : World × ℕ}
    {entry : List UInt8 × ℕ} (hentry : entry ∈ quotes.zipIdx)
    (hkeys : ∀ item ∈ required, item.1 ≠ state.1.setToken.address)
    (h : x.sellComponent required outputToken state entry = .ok state') :
    SameSet state.1 state'.1 ∧ state'.2 = state.2 + Bill.dueAt required outputToken entry.2 ∧
      (x.SellsComponents (required.map Prod.fst) quotes → ∀ t, t ≠ outputToken →
        state.1.balanceOf t x.address ≤
          state'.1.balanceOf t x.address + Bill.dueAt required t entry.2) := by
  obtain ⟨w, bought⟩ := state
  obtain ⟨quote, i⟩ := entry
  have hquote : quotes[i]? = some quote := List.mk_mem_zipIdx_iff_getElem?.mp hentry
  unfold sellComponent at h
  unfold Bill.dueAt
  dsimp only at h hkeys ⊢
  cases hitem : required[i]? with
  | none =>
    rw [hitem] at h
    exact absurd h (Outcome.throw_ne_ok.mp ·)
  | some item =>
    obtain ⟨component, units⟩ := item
    have hcomponent : component ≠ w.setToken.address :=
      hkeys (component, units) (List.mem_of_getElem? hitem)
    rw [hitem] at h
    simp only [Option.map_some, Option.getD_some, Bill.entryAt]
    dsimp only at h
    by_cases houtput : component = outputToken
    · rw [if_pos houtput] at h
      simp only [Outcome.bind_eq_ok, SafeMath.add_eq_ok, Outcome.pure_eq_ok] at h
      obtain ⟨_, ⟨-, rfl⟩, rfl⟩ := h
      exact ⟨⟨rfl, rfl⟩, by rw [if_pos houtput], fun _ t _ ↦ Nat.le_add_right _ _⟩
    · rw [if_neg houtput] at h
      simp only [Outcome.bind_eq_ok, SafeMath.sub_eq_ok, Outcome.require_eq_ok,
        Outcome.pure_eq_ok] at h
      obtain ⟨v, happrove, u, hfill, _, ⟨hle, rfl⟩, _, hsold, rfl⟩ := h
      obtain ⟨hsame, hbalances⟩ := safeApprove_ok happrove hcomponent
      refine ⟨hsame.trans (fillQuote_sameSet hfill), by rw [if_neg houtput, Nat.add_zero], ?_⟩
      intro hquotes t _
      dsimp only
      rw [← hbalances t x.address]
      split_ifs with ht
      · subst ht
        omega
      · have hsells : x.SellsOnly component quote := by
          apply hquotes i quote component hquote
          rw [List.getElem?_map, hitem, Option.map_some]
        exact fillQuote_keeps hfill hsells (Ne.symm ht)

theorem sellComponentsForOutputToken_ok
    (h : x.sellComponentsForOutputToken w amount quotes outputToken issuance isDebtIssuance =
      .ok (w', total))
    (hself : w.setToken.address ∉ w.setToken.components) :
    SameSet w w' ∧ ∃ required,
      issuance.getRequiredRedemptionComponents isDebtIssuance w amount = .ok required ∧
      w.balanceOf outputToken x.address + total ≤
        w'.balanceOf outputToken x.address + Bill.due required outputToken ∧
      (x.SellsComponents w.setToken.components quotes → ∀ t, t ≠ outputToken →
        w.balanceOf t x.address ≤ w'.balanceOf t x.address + Bill.due required t) := by
  simp only [sellComponentsForOutputToken, Outcome.bind_eq_ok, SafeMath.sub_eq_ok,
    SafeMath.add_eq_ok, Outcome.pure_eq_ok, Prod.exists, Prod.mk.injEq] at h
  obtain ⟨required, hrequired, v, counted, hloop, _, ⟨hle, rfl⟩, _, ⟨-, rfl⟩, rfl, rfl⟩ := h
  have hfst := IssuanceContract.getRequiredRedemptionComponents_fst hrequired
  have hkeys : ∀ item ∈ required, item.1 ≠ w.setToken.address := by
    intro item hitem
    apply ne_of_mem_of_not_mem ?_ hself
    rw [← hfst]
    exact List.mem_map_of_mem hitem
  have hsold : ∀ t, (quotes.zipIdx.map fun entry ↦ Bill.dueAt required t entry.2).sum ≤
      Bill.due required t := fun t ↦ Bill.sum_dueAt_le quotes required t 0
  have hkeys' : ∀ s : World × ℕ, SameSet w s.1 →
      ∀ item ∈ required, item.1 ≠ s.1.setToken.address := by
    intro s hs item hitem
    rw [hs.setToken]
    exact hkeys item hitem
  obtain ⟨hsame, hcounted⟩ := Outcome.foldlM_sum_eq (Q := fun s ↦ SameSet w s.1)
    (fun s ↦ s.2) (fun entry ↦ Bill.dueAt required outputToken entry.2) (fun _ ↦ 0)
    (fun s entry hentry s' hok hs ↦ by
      obtain ⟨hstep, hcount, -⟩ := sellComponent_ok hentry (hkeys' s hs) hok
      exact ⟨hs.trans hstep, hcount.symm⟩) hloop ⟨rfl, rfl⟩
  rw [List.sum_map_zero] at hcounted
  dsimp only at hsame hcounted
  refine ⟨hsame, required, hrequired, ?_, fun hquotes t ht ↦ ?_⟩
  · have hbound := hsold outputToken
    omega
  · obtain ⟨-, hkept⟩ := Outcome.foldlM_sum_le (Q := fun s ↦ SameSet w s.1)
      (fun s ↦ s.1.balanceOf t x.address) (fun _ ↦ 0) (fun entry ↦ Bill.dueAt required t entry.2)
      (fun s entry hentry s' hok hs ↦ by
        obtain ⟨hstep, -, hsells⟩ := sellComponent_ok hentry (hkeys' s hs) hok
        exact ⟨hs.trans hstep, hsells (by rwa [hfst]) t ht⟩) hloop ⟨rfl, rfl⟩
    rw [List.sum_map_zero] at hkept
    exact hkept.trans (Nat.add_le_add_left (hsold t) _)

/-- The part that both ways of redeeming share, up to the payment of the output token. -/
theorem sale_ok {P₁ : Protocol} (hredeem : x.redeemExactSet P env amount issuance = .ok P₁)
    (hsell : x.sellComponentsForOutputToken P₁.world amount quotes outputToken issuance
      isDebtIssuance = .ok (w', total))
    (hparties : x.Parties issuance P.world env.sender)
    (houtput : outputToken ≠ P.world.setToken.address) :
    P.world.CallStep w' ∧
      P.world.balanceOf outputToken x.address + total ≤ w'.balanceOf outputToken x.address ∧
      (x.SellsComponents P.world.setToken.components quotes → ∀ t, t ≠ outputToken →
        t ≠ P.world.setToken.address → P.world.balanceOf t x.address ≤ w'.balanceOf t x.address) := by
  obtain ⟨hstep, hreceived⟩ := redeemExactSet_ok hredeem hparties
  have hparties₁ := hparties.callStep hstep
  obtain ⟨hsame, required, hrequired, hbought, hkept⟩ :=
    sellComponentsForOutputToken_ok hsell hparties₁.self_notMem
  have hcomponents : P₁.world.setToken.components = P.world.setToken.components := by
    obtain ⟨t, ht⟩ := hstep.setToken
    rw [ht, SetToken.setErc20_components]
  rw [hcomponents] at hkept
  have hbill := hreceived isDebtIssuance required hrequired
  refine ⟨hstep.trans hsame.callStep, ?_, fun hquotes t ht hset ↦ ?_⟩
  · have hbill' := hbill outputToken houtput
    omega
  · have hbill' := hbill t hset
    have hkept' := hkept hquotes t ht
    omega

/-- Whatever the quotes do, a redemption leaves the contract at least as much of the output token as
before. -/
theorem redeemExactSetForToken_ok {minOutputReceive output : ℕ}
    (h : x.redeemExactSetForToken P env outputToken amount minOutputReceive quotes issuance
      isDebtIssuance = .ok (P', output))
    (hparties : x.Parties issuance P.world env.sender)
    (houtput : outputToken ≠ P.world.setToken.address) :
    minOutputReceive ≤ output ∧
      P.world.balanceOf outputToken x.address ≤ P'.world.balanceOf outputToken x.address ∧
      (x.SellsComponents P.world.setToken.components quotes → x.Keeps P.world P'.world) := by
  simp only [redeemExactSetForToken, Outcome.bind_eq_ok, Outcome.require_eq_ok, Outcome.pure_eq_ok,
    Prod.exists, Prod.mk.injEq] at h
  obtain ⟨_, -, P₁, hredeem, w, total, hsell, _, hmin, w', hpay, rfl, rfl⟩ := h
  obtain ⟨hstep, hbought, hkept⟩ := sale_ok hredeem hsell hparties houtput
  have haddress : w.setToken.address = P.world.setToken.address := CallStep.address hstep
  have hmove := (World.transfer_moveStep hpay).callStep
  obtain ⟨hpaid, -, hother⟩ := transfer_ok hpay hparties.caller_ne.symm
  have hfinal : P.world.balanceOf outputToken x.address ≤ w'.balanceOf outputToken x.address := by
    omega
  refine ⟨hmin, hfinal, fun hquotes ↦ ⟨hstep.trans hmove, fun t ht ↦ ?_⟩⟩
  by_cases htoken : t = outputToken
  · exact htoken ▸ hfinal
  · exact (hkept hquotes t htoken ht).trans (hother t htoken x.address).ge

theorem redeemExactSetForETH_ok {minEthReceive ethAmount : ℕ}
    (h : x.redeemExactSetForETH P env amount minEthReceive quotes issuance isDebtIssuance =
      .ok (P', ethAmount))
    (hparties : x.Parties issuance P.world env.sender) (hweth : x.weth ≠ P.world.setToken.address) :
    minEthReceive ≤ ethAmount ∧
      P.world.balanceOf x.weth x.address ≤ P'.world.balanceOf x.weth x.address ∧
      (x.SellsComponents P.world.setToken.components quotes → x.Keeps P.world P'.world) := by
  simp only [redeemExactSetForETH, Outcome.bind_eq_ok, Outcome.require_eq_ok, Outcome.pure_eq_ok,
    Prod.exists, Prod.mk.injEq] at h
  obtain ⟨_, -, P₁, hredeem, w, total, hsell, _, hmin, w', hpay, rfl, rfl⟩ := h
  obtain ⟨hstep, hbought, hkept⟩ := sale_ok hredeem hsell hparties hweth
  have haddress : w.setToken.address = P.world.setToken.address := CallStep.address hstep
  obtain ⟨hsame, hpaid, hother⟩ := withdrawWETH_ok hpay (by rwa [haddress])
  have hfinal : P.world.balanceOf x.weth x.address ≤ w'.balanceOf x.weth x.address := by
    omega
  refine ⟨hmin, hfinal, fun hquotes ↦ ⟨hstep.trans hsame.callStep, fun t ht ↦ ?_⟩⟩
  by_cases htoken : t = x.weth
  · exact htoken ▸ hfinal
  · exact (hkept hquotes t htoken ht).trans (hother t x.address (.inl htoken)).ge

/-! ## Everything that is called -/

/-- Approvals move no balance, also those of the Set itself. -/
theorem approveToken_keeps {spender : Address} (h : x.approveToken spender w token = .ok w') :
    w.CallStep w' ∧ ∀ t a, w'.balanceOf t a = w.balanceOf t a := by
  simp only [approveToken, safeApprove, Outcome.bind_eq_ok] at h
  obtain ⟨_, -, h⟩ := h
  split_ifs at h
  · obtain ⟨granted, -, happrove⟩ := Outcome.bind_eq_ok.mp h
    obtain ⟨state, hstate, hwrite⟩ := World.approve_tokenWrite happrove
    obtain ⟨-, -, hbalances⟩ := ERC20.approve_ok hstate
    refine ⟨(World.approve_moveStep happrove).1.callStep, fun t a ↦ ?_⟩
    unfold World.balanceOf
    rw [hwrite.erc20 t]
    by_cases ht : t = token
    · rw [if_pos ht, hbalances, ht]
    · rw [if_neg ht]
  · obtain rfl := Outcome.pure_eq_ok.mp h
    exact ⟨⟨rfl, w.setToken.erc20, rfl⟩, fun _ _ ↦ rfl⟩

theorem approveTokens_keeps {tokens : List Address} {spender : Address}
    (h : x.approveTokens w tokens spender = .ok w') : x.Keeps w w' := by
  have hrun : w.CallStep w' ∧ ∀ t a, w'.balanceOf t a = w.balanceOf t a := by
    refine Outcome.foldlM_invariant
      (P := fun u ↦ w.CallStep u ∧ ∀ t a, u.balanceOf t a = w.balanceOf t a) ?_ h
      ⟨⟨rfl, w.setToken.erc20, rfl⟩, fun _ _ ↦ rfl⟩
    intro u token u' hok hu
    obtain ⟨hstep, hbalances⟩ := approveToken_keeps hok
    exact ⟨hu.1.trans hstep, fun t a ↦ (hbalances t a).trans (hu.2 t a)⟩
  exact ⟨hrun.1, fun t _ ↦ (hrun.2 t x.address).ge⟩

/-- The calls of anybody but the owner, and what happens elsewhere without touching the contract. -/
inductive Step (x : ExchangeIssuanceZeroEx) (P : Protocol) : Protocol → Prop where
  | issueFromToken {P' : Protocol} (env : Env) (inputToken : Address) (amount maximum sold : ℕ)
      (quotes : List (List UInt8)) (issuance : IssuanceContract) (isDebtIssuance : Bool)
      (hparties : x.Parties issuance P.world env.sender)
      (hinput : inputToken ≠ P.world.setToken.address)
      (hquotes : ∀ quote ∈ quotes, x.SellsOnly inputToken quote)
      (h : x.issueExactSetFromToken P env inputToken amount maximum quotes issuance isDebtIssuance =
        .ok (P', sold)) : Step x P P'
  | issueFromETH {P' : Protocol} (env : Env) (value amount returned : ℕ)
      (quotes : List (List UInt8)) (issuance : IssuanceContract) (isDebtIssuance : Bool)
      (hparties : x.Parties issuance P.world env.sender) (hweth : x.weth ≠ P.world.setToken.address)
      (hquotes : ∀ quote ∈ quotes, x.SellsOnly x.weth quote)
      (h : x.issueExactSetFromETH P env value amount quotes issuance isDebtIssuance =
        .ok (P', returned)) : Step x P P'
  | redeemForToken {P' : Protocol} (env : Env) (outputToken : Address) (amount minimum output : ℕ)
      (quotes : List (List UInt8)) (issuance : IssuanceContract) (isDebtIssuance : Bool)
      (hparties : x.Parties issuance P.world env.sender)
      (houtput : outputToken ≠ P.world.setToken.address)
      (hquotes : x.SellsComponents P.world.setToken.components quotes)
      (h : x.redeemExactSetForToken P env outputToken amount minimum quotes issuance
        isDebtIssuance = .ok (P', output)) : Step x P P'
  | redeemForETH {P' : Protocol} (env : Env) (amount minimum output : ℕ)
      (quotes : List (List UInt8)) (issuance : IssuanceContract) (isDebtIssuance : Bool)
      (hparties : x.Parties issuance P.world env.sender) (hweth : x.weth ≠ P.world.setToken.address)
      (hquotes : x.SellsComponents P.world.setToken.components quotes)
      (h : x.redeemExactSetForETH P env amount minimum quotes issuance isDebtIssuance =
        .ok (P', output)) : Step x P P'
  | approve {w' : World} (tokens : List Address) (spender : Address)
      (h : x.approveTokens P.world tokens spender = .ok w' ∨
        x.approveSetToken P.world spender = .ok w') : Step x P { P with world := w' }
  | elsewhere {P' : Protocol} (haddress : P'.world.setToken.address = P.world.setToken.address)
      (hkept : ∀ t, P.world.balanceOf t x.address ≤ P'.world.balanceOf t x.address) : Step x P P'

theorem Step.kept (h : x.Step P P') :
    P'.world.setToken.address = P.world.setToken.address ∧ ∀ t, t ≠ P.world.setToken.address →
      P.world.balanceOf t x.address ≤ P'.world.balanceOf t x.address := by
  have hkeeps : ∀ {w'}, x.Keeps P.world w' → w'.setToken.address = P.world.setToken.address ∧
      ∀ t, t ≠ P.world.setToken.address →
        P.world.balanceOf t x.address ≤ w'.balanceOf t x.address := fun hw ↦
    ⟨CallStep.address hw.callStep, hw.kept⟩
  cases h with
  | issueFromToken env inputToken amount maximum sold quotes issuance isDebtIssuance hparties hinput
      hquotes h =>
    exact hkeeps (issueExactSetFromToken_keeps h hparties hinput hquotes)
  | issueFromETH env value amount returned quotes issuance isDebtIssuance hparties hweth hquotes h =>
    exact hkeeps ((issueExactSetFromETH_ok h hparties hweth).2.2 hquotes)
  | redeemForToken env outputToken amount minimum output quotes issuance isDebtIssuance hparties
      houtput hquotes h =>
    exact hkeeps ((redeemExactSetForToken_ok h hparties houtput).2.2 hquotes)
  | redeemForETH env amount minimum output quotes issuance isDebtIssuance hparties hweth hquotes h =>
    exact hkeeps ((redeemExactSetForETH_ok h hparties hweth).2.2 hquotes)
  | approve tokens spender h =>
    rcases h with h | h
    · exact hkeeps (approveTokens_keeps h)
    · exact hkeeps (approveTokens_keeps h)
  | elsewhere haddress hkept => exact ⟨haddress, fun t _ ↦ hkept t⟩

namespace Sample

/-- A Set of one token 7, of which the contract 60 has 5 left over, and 3 of token 30. -/
def world : World where
  controller := { Controller.enabling 4 [20] with isSet := fun a ↦ a == 6 }
  setToken := { SetToken.launched 6 [7] [10 ^ 18] [20] 2 9 100 with
    erc20 := ERC20.holding 18 [(9, 100)] (10 ^ 30) }
  chain := { tokens := fun token ↦
    if token = 7 then ERC20.holding 18 [(6, 100), (60, 5)] (10 ^ 30)
    else ERC20.holding 18 [(9, 1000), (60, 3)] (10 ^ 30) }
  log := []

/-- The contract gives some of one token for some of another one. -/
def exchange (sold bought : Address) (soldAmount boughtAmount : ℕ) (chain : Chain) : Chain :=
  { chain with
    tokens := Function.update
      (Function.update chain.tokens sold
        ((chain.tokens sold).setBalance 60 ((chain.tokens sold).balances 60 - soldAmount)))
      bought ((chain.tokens bought).setBalance 60 ((chain.tokens bought).balances 60 + boughtAmount)) }

/-- Quote 1 buys 42 of token 7 for 50 of token 30, and quote 2 sells 15 of token 7 for 20 of it. -/
def zeroEx : ExchangeIssuanceZeroEx where
  address := 60
  owner := 1
  weth := 31
  swapTarget := 61
  swap := fun quote chain ↦
    if quote = [1] then .ok (exchange 30 7 50 42 chain)
    else if quote = [2] then .ok (exchange 7 30 15 20 chain)
    else .error "unknown quote"

def basicModule : IssuanceContract := .basic ⟨20, 0, false⟩

/-- Account 9 issues 40 units for at most 80 of token 30. -/
def issued : Outcome (Protocol × ℕ) :=
  zeroEx.issueExactSetFromToken (Protocol.idle world) (Env.plain 9 0) 30 40 80 [[1]] basicModule false

def afterIssue : Protocol := (issued.getD (Protocol.idle world, 0)).1

/-- Account 9 redeems 16 units for at least 10 of token 30. -/
def redeemed : Outcome (Protocol × ℕ) :=
  zeroEx.redeemExactSetForToken afterIssue (Env.plain 9 0) 30 16 10 [[2]] basicModule false

def afterRedeem : Protocol := (redeemed.getD (Protocol.idle world, 0)).1

theorem exchange_le {sold bought other : Address} {soldAmount boughtAmount : ℕ} {chain : Chain}
    (hother : other ≠ sold) :
    (chain.tokens other).balances 60 ≤
      ((exchange sold bought soldAmount boughtAmount chain).tokens other).balances 60 := by
  unfold exchange
  dsimp only
  rw [Function.update_apply, Function.update_of_ne hother]
  split_ifs with hbought
  · rw [hbought, ERC20.setBalance_balances, if_pos rfl]
    exact Nat.le_add_right _ _
  · exact le_rfl

theorem buys_sellsOnly : zeroEx.SellsOnly 30 [1] := by
  intro chain chain' hok other hother
  obtain rfl : exchange 30 7 50 42 chain = chain' := Except.ok.inj hok
  exact exchange_le hother

theorem sells_sellsOnly : zeroEx.SellsOnly 7 [2] := by
  intro chain chain' hok other hother
  obtain rfl : exchange 7 30 15 20 chain = chain' := Except.ok.inj hok
  exact exchange_le hother

theorem parties : zeroEx.Parties basicModule world 9 :=
  ⟨trivial, by decide +kernel, by decide +kernel, by decide +kernel, by decide +kernel⟩

theorem parties_afterIssue : zeroEx.Parties basicModule afterIssue.world 9 :=
  ⟨trivial, by decide +kernel, by decide +kernel, by decide +kernel, by decide +kernel⟩

theorem buys_ignores : zeroEx.Ignores 30 9 [1] := by
  intro chain chain' hok
  obtain rfl : exchange 30 7 50 42 chain = chain' := Except.ok.inj hok
  have hne : (9 : Address) ≠ 60 := by decide
  unfold exchange
  dsimp only
  rw [Function.update_of_ne (by decide), Function.update_self, ERC20.setBalance_balances, if_neg hne]

end Sample

end ExchangeIssuanceZeroEx

end SetProtocol
