import SetProtocol.System.SplitTrades

/-!
# Reserves over runs of trades

Trades through the splitter, through the routers and with the pairs themselves may follow each other in any
order, with transfers of tokens in between.  A trade with a pair may call its recipient, which then acts in
the same way before it returns, while the pair is locked.  No pair that is not in the middle of such a trade
ever holds less than its reserves, and the product of the reserves of a pair never falls.
-/

namespace SetProtocol

open UniswapV2PairContract

namespace Market

/-- Every pair trades two tokens and holds its reserves of them, unless it is in the middle of a trade. -/
def Backed (M : Market) : Prop :=
  ∀ a p, M.pairs a = some p → p.token0 ≠ p.token1 ∧
    (p.unlocked = true → p.reserve0 ≤ M.balanceOf p.token0 a ∧ p.reserve1 ≤ M.balanceOf p.token1 a)

/-- No pair comes or goes, and the product of the reserves of none falls. -/
structure Grown (M M' : Market) : Prop where
  none : ∀ a, M.pairs a = none → M'.pairs a = none
  some : ∀ a p, M.pairs a = some p → ∃ p', M'.pairs a = some p' ∧
    p'.token0 = p.token0 ∧ p'.token1 = p.token1 ∧ p.reserve0 * p.reserve1 ≤ p'.reserve0 * p'.reserve1

/-- What is done to the pairs by calls that have returned: a pair that was locked has not been touched, and
no other one is left locked. -/
structure Kept (M M' : Market) : Prop where
  backed : M'.Backed
  grown : M.Grown M'
  locked : ∀ a p, p.unlocked = false → (M'.pairs a = some p ↔ M.pairs a = some p)

variable {M M₁ M' N : Market} {token spender sender recipient pair a : Address}
  {amount reserve0 reserve1 : ℕ} {p q : UniswapV2PairContract}

theorem ne_of_pairs (hnone : M.pairs a = none) (hp : M.pairs pair = some p) : a ≠ pair := by
  rintro rfl
  rw [hp] at hnone
  cases hnone

theorem Grown.refl (M : Market) : M.Grown M :=
  ⟨fun _ h ↦ h, fun _ p hp ↦ ⟨p, hp, rfl, rfl, le_rfl⟩⟩

theorem Grown.trans (h : M.Grown M₁) (h' : M₁.Grown M') : M.Grown M' where
  none a ha := h'.none a (h.none a ha)
  some a p hp := by
    obtain ⟨p₁, hp₁, htoken0, htoken1, hle⟩ := h.some a p hp
    obtain ⟨p', hp', htoken0', htoken1', hle'⟩ := h'.some a p₁ hp₁
    exact ⟨p', hp', htoken0'.trans htoken0, htoken1'.trans htoken1, hle.trans hle'⟩

theorem Grown.of_pairs (h : M'.pairs = M.pairs) : M.Grown M' :=
  ⟨fun _ ha ↦ h ▸ ha, fun _ p hp ↦ ⟨p, h ▸ hp, rfl, rfl, le_rfl⟩⟩

theorem Kept.refl (hM : M.Backed) : M.Kept M :=
  ⟨hM, .refl M, fun _ _ _ ↦ .rfl⟩

theorem Kept.trans (h : M.Kept M₁) (h' : M₁.Kept M') : M.Kept M' :=
  ⟨h'.backed, h.grown.trans h'.grown, fun a p hp ↦ (h'.locked a p hp).trans (h.locked a p hp)⟩

/-- The pairs are as they were, and only the balances of locked ones may have fallen. -/
theorem Kept.of_pairs (hM : M.Backed) (hpairs : M'.pairs = M.pairs)
    (hbalance : ∀ a p, M.pairs a = some p → p.unlocked = true →
      ∀ t, M.balanceOf t a ≤ M'.balanceOf t a) : M.Kept M' where
  backed a p hp := by
    rw [hpairs] at hp
    obtain ⟨hne, hreserves⟩ := hM a p hp
    refine ⟨hne, fun hunlocked ↦ ?_⟩
    obtain ⟨h0, h1⟩ := hreserves hunlocked
    have hle := hbalance a p hp hunlocked
    exact ⟨h0.trans (hle p.token0), h1.trans (hle p.token1)⟩
  grown := .of_pairs hpairs
  locked a p _ := by rw [hpairs]

/-- Only what a pair itself sends lowers its balances. -/
theorem Paid.kept (h : M.Paid M' token sender recipient amount) (hM : M.Backed)
    (hsender : ∀ p, M.pairs sender = some p → p.unlocked = false) : M.Kept M' := by
  refine .of_pairs hM h.pairs fun a p hp hunlocked t ↦ ?_
  have hne : a ≠ sender := by
    rintro rfl
    rw [hsender p hp] at hunlocked
    cases hunlocked
  have hbalance := h.balance t a
  simp only [hne, and_false, if_false, Nat.add_zero] at hbalance
  omega

theorem Paid.kept_of_none (h : M.Paid M' token sender recipient amount) (hM : M.Backed)
    (hsender : M.pairs sender = none) : M.Kept M' := by
  apply h.kept hM
  intro p hp
  rw [hsender] at hp
  cases hp

/-- The state that the body of a locked function runs in. -/
def locking (M : Market) (pair : Address) (p : UniswapV2PairContract) : Market :=
  M.setPair pair { p with unlocked := false }

/-- A pair in the middle of a trade is not asked for its reserves. -/
theorem Backed.locking (hM : M.Backed) (hp : M.pairs pair = some p) : (M.locking pair p).Backed := by
  intro a q hq
  by_cases ha : a = pair
  · rw [ha, Market.locking, setPair_self] at hq
    obtain rfl := Option.some.inj hq
    exact ⟨(hM pair p hp).1, Bool.noConfusion⟩
  · rw [Market.locking, setPair_of_ne M ha] at hq
    exact hM a q hq

/-- What the body leaves stored in the pair is what the lock stored. -/
theorem Kept.stored (h : (M.locking pair p).Kept N) : N.pairs pair = some { p with unlocked := false } :=
  (h.locked pair _ rfl).mpr (setPair_self M pair _)

/-- A locked function ends with reserves that the pair holds and whose product has not fallen. -/
theorem Kept.unlocking (h : (M.locking pair p).Kept N) (hM : M.Backed) (hp : M.pairs pair = some p)
    (hunlocked : p.unlocked = true)
    (hreserves : reserve0 ≤ N.balanceOf p.token0 pair ∧ reserve1 ≤ N.balanceOf p.token1 pair)
    (hproduct : p.reserve0 * p.reserve1 ≤ reserve0 * reserve1) :
    M.Kept (N.setPair pair
      { p with reserve0 := reserve0, reserve1 := reserve1, unlocked := true }) where
  backed a q hq := by
    by_cases ha : a = pair
    · rw [ha, setPair_self] at hq
      obtain rfl := Option.some.inj hq
      exact ⟨(hM pair p hp).1, fun _ ↦ ha ▸ hreserves⟩
    · rw [setPair_of_ne N ha] at hq
      exact h.backed a q hq
  grown := by
    refine ⟨fun a hnone ↦ ?_, fun a q hq ↦ ?_⟩
    · have ha := ne_of_pairs hnone hp
      rw [setPair_of_ne N ha]
      exact h.grown.none a ((setPair_of_ne M ha _).trans hnone)
    · by_cases ha : a = pair
      · subst ha
        obtain rfl := Option.some.inj (hp.symm.trans hq)
        exact ⟨_, setPair_self N a _, rfl, rfl, hproduct⟩
      · rw [setPair_of_ne N ha]
        exact h.grown.some a q ((setPair_of_ne M ha _).trans hq)
  locked a q hq := by
    by_cases ha : a = pair
    · subst ha
      rw [setPair_self, hp]
      constructor
      · intro hstored
        obtain rfl := Option.some.inj hstored
        cases hq
      · intro hstored
        obtain rfl := Option.some.inj hstored
        exact absurd (hunlocked.symm.trans hq) (by decide)
    · rw [setPair_of_ne N ha]
      exact (h.locked a q hq).trans (by rw [Market.locking, setPair_of_ne M ha])

end Market

/-! ## Pairs -/

namespace UniswapV2PairContract

variable {M M' : Market} {token pair recipient : Address} {amount amount0Out amount1Out : ℕ}
  {p : UniswapV2PairContract}

theorem locking_pays (hM : (M.locking pair p).Backed)
    (h : (M.locking pair p).Paid M' token pair recipient amount) : (M.locking pair p).Kept M' := by
  apply h.kept hM
  intro q hq
  rw [Market.locking, Market.setPair_self] at hq
  exact Option.some.inj hq ▸ rfl

/-- A second payment of the locked pair. -/
theorem locking_pays_again {M₁ : Market} (h : (M.locking pair p).Kept M₁)
    (h' : M₁.Paid M' token pair recipient amount) : (M.locking pair p).Kept M' := by
  apply h.trans
  apply h'.kept h.backed
  intro q hq
  rw [h.stored] at hq
  exact Option.some.inj hq ▸ rfl

/-- Whatever the recipient does when it is called, provided that it keeps the pairs, too. -/
theorem swap_kept {uniswapV2Call : Option (Market → Outcome Market)} (hM : M.Backed)
    (hcall : ∀ call, uniswapV2Call = some call → ∀ N N', (∀ a, M.pairs a = none → N.pairs a = none) →
      N.Backed → call N = .ok N' → N.Kept N')
    (h : swap M pair amount0Out amount1Out recipient uniswapV2Call = .ok M') : M.Kept M' := by
  obtain ⟨p, M₁, M₂, N, q, hp, hunlocked, hfirst, hsecond, hcalled, hstored, rfl, hproduct⟩ := swap_ok h
  have hsent := locking_pays_again (locking_pays (hM.locking hp) hfirst) hsecond
  have hreturned : M₂.Kept N := by
    cases uniswapV2Call with
    | none =>
      obtain rfl := Outcome.pure_eq_ok.mp hcalled
      exact .refl hsent.backed
    | some call =>
      refine hcall call rfl M₂ N (fun a ha ↦ hsent.grown.none a ?_) hsent.backed hcalled
      rw [Market.locking, Market.setPair_of_ne M (Market.ne_of_pairs ha hp), ha]
  have hkept := hsent.trans hreturned
  obtain rfl := Option.some.inj (hkept.stored.symm.trans hstored)
  exact hkept.unlocking hM hp hunlocked ⟨le_rfl, le_rfl⟩ hproduct

theorem swap_none_kept (hM : M.Backed)
    (h : swap M pair amount0Out amount1Out recipient none = .ok M') : M.Kept M' :=
  swap_kept hM (fun _ hcall ↦ absurd hcall.symm (Option.some_ne_none _)) h

theorem sync_kept (hM : M.Backed) (h : sync M pair = .ok M') : M.Kept M' := by
  obtain ⟨p, N, q, hp, hunlocked, hbody, hq, rfl⟩ := lock_ok h
  obtain ⟨r, hr, rfl⟩ := update_ok hbody
  have hkept := Market.Kept.refl (hM.locking hp)
  obtain rfl := Option.some.inj (hkept.stored.symm.trans hr)
  rw [Market.setPair_self] at hq
  obtain rfl := Option.some.inj hq
  rw [Market.setPair_setPair]
  obtain ⟨h0, h1⟩ := (hM pair p hp).2 hunlocked
  exact hkept.unlocking hM hp hunlocked ⟨le_rfl, le_rfl⟩ (Nat.mul_le_mul h0 h1)

theorem skim_kept (hM : M.Backed) (h : skim M pair recipient = .ok M') : M.Kept M' := by
  obtain ⟨p, N, q, hp, hunlocked, hbody, hq, rfl⟩ := lock_ok h
  simp only [Outcome.bind_eq_ok, SafeMath.sub_eq_ok] at hbody
  obtain ⟨_, ⟨hle0, rfl⟩, M₁, hfirst, _, ⟨hle1, rfl⟩, hsecond⟩ := hbody
  have hfirst := safeTransfer_paid hfirst
  have hsecond := safeTransfer_paid hsecond
  have hkept := locking_pays_again (locking_pays (hM.locking hp) hfirst) hsecond
  obtain rfl := Option.some.inj (hkept.stored.symm.trans hq)
  have hne := (hM pair p hp).1
  have hb0 := hfirst.balance p.token0 pair
  have hb0' := hsecond.balance p.token0 pair
  have hb1 := hfirst.balance p.token1 pair
  have hb1' := hsecond.balance p.token1 pair
  simp only [hne, hne.symm, true_and, and_true, and_self, false_and, if_false, if_true,
    Nat.add_zero] at hb0 hb0' hb1 hb1'
  have hheld : p.reserve0 ≤ N.balanceOf p.token0 pair ∧ p.reserve1 ≤ N.balanceOf p.token1 pair :=
    ⟨by omega, by omega⟩
  exact hkept.unlocking hM hp hunlocked hheld le_rfl

end UniswapV2PairContract

/-! ## Routers and the splitter -/

namespace UniswapV2Exchange

variable {x : UniswapV2Exchange} {M M' : Market} {sender recipient : Address} {amounts : List ℕ}
  {path : List Address} {timestamp amount limit deadline : ℕ}

theorem swapAlong_kept (hM : M.Backed) (h : x.swapAlong M amounts path recipient = .ok M') :
    M.Kept M' := by
  refine Outcome.foldlM_invariant (P := fun N : Market ↦ M.Kept N) ?_ h (.refl hM)
  intro N i N' hhop hN
  simp only [swapHop, Outcome.bind_eq_ok] at hhop
  obtain ⟨input, -, output, -, tokens, -, amountOut, -, payee, -, pair, -, hswap⟩ := hhop
  exact hN.trans (swap_none_kept hN.backed hswap)

theorem payAndSwap_kept (hM : M.Backed) (hsender : M.pairs sender = none)
    (h : x.payAndSwap M sender amounts path recipient = .ok M') : M.Kept M' := by
  simp only [payAndSwap, Outcome.bind_eq_ok] at h
  obtain ⟨input, -, output, -, pair, -, amount, -, M₁, hpay, hswap⟩ := h
  have hpaid := (Market.transferFrom_paid hpay).kept_of_none hM hsender
  exact hpaid.trans (swapAlong_kept hpaid.backed hswap)

theorem swapExactTokensForTokens_kept (hM : M.Backed) (hsender : M.pairs sender = none)
    (h : x.swapExactTokensForTokens M sender timestamp amount limit path recipient deadline =
      .ok (M', amounts)) : M.Kept M' := by
  simp only [swapExactTokensForTokens, Outcome.bind_eq_ok, Outcome.pure_eq_ok] at h
  obtain ⟨_, -, _, -, _, -, _, -, M₁, hswap, heq⟩ := h
  obtain ⟨rfl, -⟩ := Prod.mk.inj heq
  exact payAndSwap_kept hM hsender hswap

theorem swapTokensForExactTokens_kept (hM : M.Backed) (hsender : M.pairs sender = none)
    (h : x.swapTokensForExactTokens M sender timestamp amount limit path recipient deadline =
      .ok (M', amounts)) : M.Kept M' := by
  simp only [swapTokensForExactTokens, Outcome.bind_eq_ok, Outcome.pure_eq_ok] at h
  obtain ⟨_, -, _, -, _, -, _, -, M₁, hswap, heq⟩ := h
  obtain ⟨rfl, -⟩ := Prod.mk.inj heq
  exact payAndSwap_kept hM hsender hswap

end UniswapV2Exchange

namespace AMMSplitterContract

variable {x : AMMSplitterContract} {exchange : UniswapV2Exchange} {M M' : Market} {path : List Address}
  {sender recipient : Address} {timestamp deadline size : ℕ}

theorem executeTrade_kept {isExactInput : Bool} {amount : ℕ} (hM : M.Backed)
    (haddress : M.pairs x.address = none)
    (h : x.executeTrade exchange M timestamp size path recipient deadline isExactInput =
      .ok (M', amount)) : M.Kept M' := by
  rw [executeTrade] at h
  split at h
  · obtain ⟨rfl, -⟩ := Prod.mk.inj (Outcome.pure_eq_ok.mp h)
    exact .refl hM
  · cases isExactInput with
    | true =>
      simp only [if_true, Outcome.bind_eq_ok, Outcome.pure_eq_ok] at h
      obtain ⟨⟨M₁, amounts⟩, hswap, _, -, hresult⟩ := h
      obtain ⟨rfl, -⟩ := Prod.mk.inj hresult
      exact UniswapV2Exchange.swapExactTokensForTokens_kept hM haddress hswap
    | false =>
      simp only [Bool.false_eq_true, if_false, Outcome.bind_eq_ok, Outcome.pure_eq_ok] at h
      obtain ⟨⟨M₁, amounts⟩, hswap, _, -, hresult⟩ := h
      obtain ⟨rfl, -⟩ := Prod.mk.inj hresult
      exact UniswapV2Exchange.swapTokensForExactTokens_kept hM haddress hswap

/-- The splitter takes the input, approves it and trades twice. -/
theorem trades_kept {M₁ M₂ M₃ : Market} {token : Address}
    {total uniSize uniAmount sushiSize sushiAmount uniApproval sushiApproval : ℕ} {isExactInput : Bool}
    (hM : M.Backed) (hsender : M.pairs sender = none) (haddress : M.pairs x.address = none)
    (htransfer : M.transferFrom token x.address sender x.address total = .ok M₁)
    (happrove : x.checkApprovals M₁ uniApproval sushiApproval token = .ok M₂)
    (huni : x.executeTrade x.uni M₂ timestamp uniSize path recipient deadline isExactInput =
      .ok (M₃, uniAmount))
    (hsushi : x.executeTrade x.sushi M₃ timestamp sushiSize path recipient deadline isExactInput =
      .ok (M', sushiAmount)) : M.Kept M' := by
  have hpaid := (Market.transferFrom_paid htransfer).kept_of_none hM hsender
  obtain ⟨hpairs, hbalance⟩ := checkApprovals_keeps happrove
  have hprepared := hpaid.trans (.of_pairs hpaid.backed hpairs fun a _ _ _ t ↦ by rw [hbalance])
  have haddress₂ := hprepared.grown.none _ haddress
  have hfirst := hprepared.trans (executeTrade_kept hprepared.backed haddress₂ huni)
  have haddress₃ := hfirst.grown.none _ haddress
  exact hfirst.trans (executeTrade_kept hfirst.backed haddress₃ hsushi)

end AMMSplitterContract

/-! ## Runs -/

/-- A call by any account that is no pair: of a token, a router of any exchange or a splitter, or of a pair
to move what it holds and stores. -/
inductive MarketStep (M : Market) : Market → Prop where
  | transfer {M' : Market} (token sender recipient : Address) (amount : ℕ)
      (hsender : M.pairs sender = none) (h : M.transfer token sender recipient amount = .ok M') :
      MarketStep M M'
  | transferFrom {M' : Market} (token spender sender recipient : Address) (amount : ℕ)
      (hsender : M.pairs sender = none)
      (h : M.transferFrom token spender sender recipient amount = .ok M') : MarketStep M M'
  | approve {M' : Market} (token owner spender : Address) (amount : ℕ)
      (h : M.approve token owner spender amount = .ok M') : MarketStep M M'
  | skim {M' : Market} (pair recipient : Address) (h : skim M pair recipient = .ok M') : MarketStep M M'
  | sync {M' : Market} (pair : Address) (h : sync M pair = .ok M') : MarketStep M M'
  | sell {M' : Market} (x : UniswapV2Exchange) (sender recipient : Address)
      (timestamp amountIn amountOutMin deadline : ℕ) (path : List Address) (amounts : List ℕ)
      (hsender : M.pairs sender = none)
      (h : x.swapExactTokensForTokens M sender timestamp amountIn amountOutMin path recipient deadline =
        .ok (M', amounts)) : MarketStep M M'
  | buy {M' : Market} (x : UniswapV2Exchange) (sender recipient : Address)
      (timestamp amountOut amountInMax deadline : ℕ) (path : List Address) (amounts : List ℕ)
      (hsender : M.pairs sender = none)
      (h : x.swapTokensForExactTokens M sender timestamp amountOut amountInMax path recipient deadline =
        .ok (M', amounts)) : MarketStep M M'
  | splitSell {M' : Market} (x : AMMSplitterContract) (sender recipient : Address)
      (timestamp amountIn amountOutMin deadline totalOutput : ℕ) (path : List Address)
      (hsender : M.pairs sender = none) (haddress : M.pairs x.address = none)
      (h : x.swapExactTokensForTokens M sender timestamp amountIn amountOutMin path recipient deadline =
        .ok (M', totalOutput)) : MarketStep M M'
  | splitBuy {M' : Market} (x : AMMSplitterContract) (sender recipient : Address)
      (timestamp amountOut amountInMax deadline totalInput : ℕ) (path : List Address)
      (hsender : M.pairs sender = none) (haddress : M.pairs x.address = none)
      (h : x.swapTokensForExactTokens M sender timestamp amountOut amountInMax path recipient deadline =
        .ok (M', totalInput)) : MarketStep M M'

/-- Calls one after another, and trades with the pairs themselves.  A recipient that is called acts by such
calls in whatever state it is called; addresses that have no pair are known to have none by then. -/
inductive MarketRun : Market → Market → Prop
  | refl (M : Market) : MarketRun M M
  | step {M M₁ M' : Market} (hrun : MarketRun M M₁) (h : MarketStep M₁ M') : MarketRun M M'
  | swap {M M₁ M' : Market} (pair recipient : Address) (amount0Out amount1Out : ℕ)
      (uniswapV2Call : Option (Market → Outcome Market)) (hrun : MarketRun M M₁)
      (hcall : ∀ call, uniswapV2Call = some call →
        ∀ N N', (∀ a, M₁.pairs a = none → N.pairs a = none) → call N = .ok N' → MarketRun N N')
      (h : swap M₁ pair amount0Out amount1Out recipient uniswapV2Call = .ok M') : MarketRun M M'

variable {M M' : Market}

theorem MarketStep.kept (h : MarketStep M M') (hM : M.Backed) : M.Kept M' := by
  cases h with
  | transfer token sender recipient amount hsender h =>
    exact (Market.transfer_paid h).kept_of_none hM hsender
  | transferFrom token spender sender recipient amount hsender h =>
    exact (Market.transferFrom_paid h).kept_of_none hM hsender
  | approve token owner spender amount h =>
    obtain ⟨hpairs, hbalance⟩ := Market.approve_keeps h
    exact .of_pairs hM hpairs fun a _ _ _ t ↦ by rw [hbalance]
  | skim pair recipient h => exact skim_kept hM h
  | sync pair h => exact sync_kept hM h
  | sell x sender recipient timestamp amountIn amountOutMin deadline path amounts hsender h =>
    exact UniswapV2Exchange.swapExactTokensForTokens_kept hM hsender h
  | buy x sender recipient timestamp amountOut amountInMax deadline path amounts hsender h =>
    exact UniswapV2Exchange.swapTokensForExactTokens_kept hM hsender h
  | splitSell x sender recipient timestamp amountIn amountOutMin deadline totalOutput path hsender
      haddress h =>
    simp only [AMMSplitterContract.swapExactTokensForTokens, Outcome.bind_eq_ok, Outcome.pure_eq_ok] at h
    obtain ⟨_, -, input, -, M₁, htransfer, sizes, -, M₂, happrove, ⟨M₃, uniOutput⟩, huni, ⟨M₄, sushiOutput⟩,
      hsushi, _, -, _, -, heq⟩ := h
    obtain ⟨rfl, -⟩ := Prod.mk.inj heq
    exact AMMSplitterContract.trades_kept hM hsender haddress htransfer happrove huni hsushi
  | splitBuy x sender recipient timestamp amountOut amountInMax deadline totalInput path hsender
      haddress h =>
    simp only [AMMSplitterContract.swapTokensForExactTokens, Outcome.bind_eq_ok, Outcome.pure_eq_ok] at h
    obtain ⟨_, -, sizes, -, uniAmounts, -, uniInput, -, sushiAmounts, -, sushiInput, -, _, -, _, -, input, -,
      M₁, htransfer, M₂, happrove, ⟨M₃, uniSpent⟩, huni, ⟨M₄, sushiSpent⟩, hsushi, heq⟩ := h
    obtain ⟨rfl, -⟩ := Prod.mk.inj heq
    exact AMMSplitterContract.trades_kept hM hsender haddress htransfer happrove huni hsushi

/-- Over any run of trades, with calls of recipients nested to any depth, the pairs that are not locked hold
their reserves, the product of the reserves never falls, and no pair is left locked. -/
theorem Market.grown_of_run (hM : M.Backed) (hrun : MarketRun M M') : M.Kept M' := by
  induction hrun with
  | refl => exact .refl hM
  | step _ h ih => exact (ih hM).trans (h.kept (ih hM).backed)
  | swap pair recipient amount0Out amount1Out uniswapV2Call _ _ h ih hnested =>
    apply (ih hM).trans
    apply swap_kept (ih hM).backed ?_ h
    intro call hcall N N' hnone hN hok
    exact hnested call hcall N N' hnone hok hN

namespace PairSample

open AMMSplitterContract.Sample

theorem market_backed : market.Backed := by
  intro a p hp
  simp only [market] at hp
  split at hp
  · next ha =>
    obtain rfl := Option.some.inj hp
    subst ha
    decide +kernel
  · split at hp
    · next ha =>
      obtain rfl := Option.some.inj hp
      subst ha
      decide +kernel
    · cases hp

/-- Account 5 is called back: it sells what it was lent at the other pair and adds what is missing. -/
def repay (M : Market) : Outcome Market := do
  let M ← M.transfer 2 5 102 400
  let M ← swap M 102 398 0 101 none
  M.transfer 1 5 101 6

/-- A trade through the splitter, and then one with a pair that is paid in the callback. -/
def flashed : Market :=
  (swap soldExactly.1 101 0 400 5 (some repay)).toOption.getD soldExactly.1

theorem repay_run {M M' : Market} (haccount : M.pairs 5 = none) (h : repay M = .ok M') :
    MarketRun M M' := by
  simp only [repay, Outcome.bind_eq_ok] at h
  obtain ⟨M₁, hpay, M₂, hswap, hadd⟩ := h
  have hpaid : MarketRun M M₁ := .step (.refl M) (.transfer 2 5 102 400 haccount hpay)
  have hsold : MarketRun M M₂ := by
    apply hpaid.swap 102 101 398 0 none ?_ hswap
    intro call hcall
    exact absurd hcall.symm (Option.some_ne_none call)
  obtain ⟨p, hp, hswapped⟩ := swap_none_ok hswap
  have hpairs := (Market.transfer_paid hpay).pairs
  have hne : (5 : Address) ≠ 102 := by decide
  have haccount₂ : M₂.pairs 5 = none := by rw [hswapped.pairs, Function.update_of_ne hne, hpairs, haccount]
  exact hsold.step (.transfer 1 5 101 6 haccount₂ hadd)

theorem flashed_grown : market.Kept flashed := by
  have hsplit : splitter.swapExactTokensForTokens market 5 0 400 1 [1, 2] 6 0 = .ok soldExactly :=
    Outcome.eq_ok_getD (market, 0) (by decide +kernel)
  have hflash : swap soldExactly.1 101 0 400 5 (some repay) = .ok flashed :=
    Outcome.eq_ok_getD soldExactly.1 (by decide +kernel)
  have hsold : MarketRun market soldExactly.1 :=
    .step (.refl market) (.splitSell splitter 5 6 0 400 1 0 soldExactly.2 [1, 2] rfl rfl hsplit)
  have haccount : soldExactly.1.pairs 5 = none := by decide +kernel
  apply Market.grown_of_run market_backed
  apply hsold.swap 101 5 0 400 (some repay) ?_ hflash
  intro call hcall N N' hnone hok
  obtain rfl := Option.some.inj hcall
  exact repay_run (hnone 5 haccount) hok

end PairSample

end SetProtocol
