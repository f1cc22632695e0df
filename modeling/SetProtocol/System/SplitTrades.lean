import SetProtocol.Product.AMMSplitterTrades

/-!
# What a split trade moves

A trade along a path moves the input from the trader into the first pair and the output from the last pair
to the recipient.  Two deployments do not see each other's trades, so what the splitter was quoted before
is what both exchanges take and give, and the splitter passes on all that it is given.
-/

namespace SetProtocol

open UniswapV3ExchangeAdapterV2 (element element_eq_ok)

/-! ## Transfers -/

namespace Market

variable {M M' : Market} {token spender sender recipient account : Address} {amount : ℕ}

/-- An amount of a token goes from one account to another one. -/
structure Paid (M M' : Market) (token sender recipient : Address) (amount : ℕ) : Prop where
  pairs : M'.pairs = M.pairs
  balance : ∀ t a, M'.balanceOf t a + (if t = token ∧ a = sender then amount else 0) =
    M.balanceOf t a + if t = token ∧ a = recipient then amount else 0

theorem setErc20_balanceOf {state : ERC20} {t : Address} :
    (M.setErc20 token state).balanceOf t account =
      if t = token then state.balances account else M.balanceOf t account := by
  by_cases ht : t = token
  · subst ht
    simp [balanceOf, setErc20]
  · simp [balanceOf, setErc20, ht]

theorem paid_of_balances {state moved : ERC20}
    (hmoved : (M.erc20 token).transfer sender recipient amount = .ok moved)
    (hbalances : state.balances = moved.balances) :
    Paid M (M.setErc20 token state) token sender recipient amount where
  pairs := rfl
  balance t a := by
    rw [setErc20_balanceOf]
    by_cases ht : t = token
    · subst ht
      simp only [true_and, if_true, hbalances]
      exact ERC20.transfer_balances hmoved a
    · simp only [ht, false_and, if_false]

theorem transfer_paid (h : M.transfer token sender recipient amount = .ok M') :
    Paid M M' token sender recipient amount := by
  simp only [transfer, Outcome.bind_eq_ok, Outcome.pure_eq_ok] at h
  obtain ⟨state, hstate, rfl⟩ := h
  exact paid_of_balances hstate rfl

theorem transferFrom_paid (h : M.transferFrom token spender sender recipient amount = .ok M') :
    Paid M M' token sender recipient amount := by
  simp only [transferFrom, Outcome.bind_eq_ok, Outcome.pure_eq_ok] at h
  obtain ⟨state, hstate, rfl⟩ := h
  obtain ⟨moved, hmoved, -, -, hbalances⟩ := ERC20.transferFrom_ok hstate
  exact paid_of_balances hmoved hbalances

/-- Neither end is the zero address, at which the balance of a missing pair is read. -/
theorem transferFrom_ne_zero (h : M.transferFrom token spender sender recipient amount = .ok M') :
    sender ≠ 0 ∧ recipient ≠ 0 := by
  simp only [transferFrom, Outcome.bind_eq_ok] at h
  obtain ⟨_, hstate, -⟩ := h
  obtain ⟨moved, hmoved, -⟩ := ERC20.transferFrom_ok hstate
  exact ERC20.transfer_ne_zero hmoved

theorem approve_keeps (h : M.approve token sender spender amount = .ok M') :
    M'.pairs = M.pairs ∧ M'.balanceOf = M.balanceOf := by
  simp only [approve, Outcome.bind_eq_ok, Outcome.pure_eq_ok] at h
  obtain ⟨state, hstate, rfl⟩ := h
  refine ⟨rfl, ?_⟩
  funext t a
  rw [setErc20_balanceOf, (ERC20.approve_ok hstate).2.2]
  split
  · next ht => rw [ht]; rfl
  · rfl

end Market

/-! ## One pair -/

namespace UniswapV2PairContract

variable {M M' : Market} {pair recipient token : Address} {p : UniswapV2PairContract}
  {amount amount0Out amount1Out : ℕ}

theorem load_eq_ok : load M pair = .ok p ↔ M.pairs pair = some p := by
  rw [load]
  cases M.pairs pair with
  | none => simp
  | some q => simp

theorem safeTransfer_paid (h : safeTransfer M token pair recipient amount = .ok M') :
    M.Paid M' token pair recipient amount := by
  rw [safeTransfer] at h
  split at h
  · next hmoved =>
    obtain rfl := Outcome.pure_eq_ok.mp h
    exact Market.transfer_paid hmoved
  · cases h

theorem sendOut_paid (h : sendOut M token pair recipient amount = .ok M') :
    M.Paid M' token pair recipient amount := by
  rw [sendOut] at h
  split at h
  · exact safeTransfer_paid h
  · next hzero =>
    obtain rfl := Outcome.pure_eq_ok.mp h
    obtain rfl := Nat.eq_zero_of_not_pos hzero
    exact ⟨rfl, fun t a ↦ by simp only [ite_self]⟩

theorem adjusted_le {balance amountIn result : ℕ} (h : adjusted balance amountIn = .ok result) :
    result ≤ balance * 1000 := by
  simp only [adjusted, Outcome.bind_eq_ok, SafeMath.mul_eq_ok, SafeMath.sub_eq_ok] at h
  obtain ⟨_, ⟨-, rfl⟩, _, ⟨-, rfl⟩, -, rfl⟩ := h
  exact Nat.sub_le _ _

/-- The pair was not locked, and is unlocked again at the end. -/
theorem lock_ok {body : UniswapV2PairContract → Market → Outcome Market} (h : lock M pair body = .ok M') :
    ∃ p N q, M.pairs pair = some p ∧ p.unlocked = true ∧
      body p (M.setPair pair { p with unlocked := false }) = .ok N ∧ N.pairs pair = some q ∧
      M' = N.setPair pair { q with unlocked := true } := by
  simp only [lock, Outcome.bind_eq_ok, Outcome.require_eq_ok, load_eq_ok, Outcome.pure_eq_ok] at h
  obtain ⟨p, hp, _, hunlocked, N, hbody, q, hq, rfl⟩ := h
  exact ⟨p, N, q, hp, hunlocked, hbody, hq, rfl⟩

/-- The reserves become the balances in the state `N`, whose product is not below that of the old reserves. -/
structure Closes (N M' : Market) (pair : Address) (p q : UniswapV2PairContract) : Prop where
  stored : N.pairs pair = some q
  result : M' = N.setPair pair
    { q with
      reserve0 := N.balanceOf p.token0 pair, reserve1 := N.balanceOf p.token1 pair, unlocked := true }
  product : p.reserve0 * p.reserve1 ≤ N.balanceOf p.token0 pair * N.balanceOf p.token1 pair

theorem update_ok {balance0 balance1 : ℕ} (h : update M pair balance0 balance1 = .ok M') :
    ∃ p, M.pairs pair = some p ∧
      M' = M.setPair pair { p with reserve0 := balance0, reserve1 := balance1 } := by
  simp only [update, Outcome.bind_eq_ok, Outcome.require_eq_ok, load_eq_ok, Outcome.pure_eq_ok] at h
  obtain ⟨_, -, p, hp, rfl⟩ := h
  exact ⟨p, hp, rfl⟩

/-- The locked pair pays and its recipient is called, before what came in is measured. -/
theorem swap_ok {uniswapV2Call : Option (Market → Outcome Market)}
    (h : swap M pair amount0Out amount1Out recipient uniswapV2Call = .ok M') :
    ∃ p M₁ M₂ N q, M.pairs pair = some p ∧ p.unlocked = true ∧
      (M.setPair pair { p with unlocked := false }).Paid M₁ p.token0 pair recipient amount0Out ∧
      M₁.Paid M₂ p.token1 pair recipient amount1Out ∧
      callRecipient uniswapV2Call M₂ = .ok N ∧ Closes N M' pair p q := by
  obtain ⟨p, L, r, hp, hunlocked, hbody, hr, rfl⟩ := lock_ok h
  simp only [Outcome.bind_eq_ok, Outcome.require_eq_ok, SafeMath.mul_eq_ok] at hbody
  obtain ⟨_, -, _, -, _, -, M₁, hfirst, M₂, hsecond, N, hcall, _, -, adjusted0, hadjusted0, adjusted1,
    hadjusted1, _, ⟨-, rfl⟩, _, ⟨-, rfl⟩, _, ⟨-, rfl⟩, _, hk, hupdate⟩ := hbody
  obtain ⟨q, hq, rfl⟩ := update_ok hupdate
  obtain rfl := Option.some.inj ((Market.setPair_self _ _ _).symm.trans hr)
  refine ⟨p, M₁, M₂, N, q, hp, hunlocked, sendOut_paid hfirst, sendOut_paid hsecond, hcall, hq,
    Market.setPair_setPair _ _ _ _, ?_⟩
  have hle := Nat.mul_le_mul (adjusted_le hadjusted0) (adjusted_le hadjusted1)
  generalize N.balanceOf p.token0 pair = b0 at hle ⊢
  generalize N.balanceOf p.token1 pair = b1 at hle ⊢
  have hscaled : b0 * 1000 * (b1 * 1000) = b0 * b1 * 1000 ^ 2 := by ring
  rw [hscaled] at hle
  exact Nat.le_of_mul_le_mul_right (hk.trans hle) (by decide)

/-- What a trade that calls nobody does. -/
structure Swapped (M M' : Market) (pair recipient : Address) (amount0Out amount1Out : ℕ)
    (p : UniswapV2PairContract) : Prop where
  pairs : M'.pairs = Function.update M.pairs pair (some
    { p with reserve0 := M'.balanceOf p.token0 pair, reserve1 := M'.balanceOf p.token1 pair })
  balance : ∀ t a, M'.balanceOf t a + (if t = p.token0 ∧ a = pair then amount0Out else 0) +
      (if t = p.token1 ∧ a = pair then amount1Out else 0) =
    M.balanceOf t a + (if t = p.token0 ∧ a = recipient then amount0Out else 0) +
      if t = p.token1 ∧ a = recipient then amount1Out else 0

theorem swap_none_ok (h : swap M pair amount0Out amount1Out recipient none = .ok M') :
    ∃ p, M.pairs pair = some p ∧ Swapped M M' pair recipient amount0Out amount1Out p := by
  obtain ⟨p, M₁, M₂, N, q, hp, hunlocked, hfirst, hsecond, hcall, hq, rfl, -⟩ := swap_ok h
  obtain rfl := Outcome.pure_eq_ok.mp hcall
  have hpairs : M₂.pairs = Function.update M.pairs pair (some { p with unlocked := false }) :=
    hsecond.pairs.trans hfirst.pairs
  rw [hpairs, Function.update_self] at hq
  obtain rfl := Option.some.inj hq
  refine ⟨p, hp, ?_, ?_⟩
  · change Function.update M₂.pairs pair _ = _
    rw [hpairs, Function.update_idem, ← hunlocked]
    rfl
  · intro t a
    have hone : _ = M.balanceOf t a + _ := hfirst.balance t a
    have htwo := hsecond.balance t a
    change M₂.balanceOf t a + _ + _ = _
    omega

end UniswapV2PairContract

/-! ## A path -/

namespace UniswapV2Exchange

open UniswapV2PairContract

variable {x : UniswapV2Exchange} {M M' : Market} {amounts : List ℕ} {path : List Address}
  {sender recipient input output : Address} {i amount paid received : ℕ}

/-- The address is one that the factory gives to pairs. -/
def IsPair (x : UniswapV2Exchange) (a : Address) : Prop :=
  ∃ token0 token1, a = x.create2 token0 token1

/-- Every pair trades the two tokens that it was created for. -/
def Deployed (x : UniswapV2Exchange) (M : Market) : Prop :=
  ∀ tokenA tokenB tokens p, UniswapV2Library.sortTokens tokenA tokenB = .ok tokens →
    M.pairs (x.create2 tokens.1 tokens.2) = some p → p.token0 = tokens.1 ∧ p.token1 = tokens.2

/-- What accounts other than the pairs of the exchange and other exchanges see of a trade. -/
structure Traded (x : UniswapV2Exchange) (M M' : Market) (sender recipient input output : Address)
    (paid received : ℕ) : Prop where
  pairs : ∀ a, ¬ x.IsPair a → M'.pairs a = M.pairs a
  deployed : x.Deployed M'
  balance : ∀ t a, ¬ x.IsPair a →
    M'.balanceOf t a + (if t = input ∧ a = sender then paid else 0) =
      M.balanceOf t a + if t = output ∧ a = recipient then received else 0

theorem isPair_of_pairFor {tokenA tokenB pair : Address} (h : x.pairFor tokenA tokenB = .ok pair) :
    x.IsPair pair := by
  simp only [pairFor, Outcome.bind_eq_ok, Outcome.pure_eq_ok] at h
  obtain ⟨tokens, -, rfl⟩ := h
  exact ⟨_, _, rfl⟩

/-- The sorted tokens are the tokens themselves, in one of the two orders. -/
theorem sortTokens_ok {tokenA tokenB : Address} {tokens : Address × Address}
    (h : UniswapV2Library.sortTokens tokenA tokenB = .ok tokens) :
    tokenA ≠ tokenB ∧ (tokens = (tokenA, tokenB) ∨ tokens = (tokenB, tokenA)) := by
  simp only [UniswapV2Library.sortTokens, Outcome.bind_eq_ok, Outcome.require_eq_ok,
    Outcome.pure_eq_ok] at h
  obtain ⟨_, hne, _, -, rfl⟩ := h
  refine ⟨hne, ?_⟩
  split
  · exact .inl rfl
  · exact .inr rfl

theorem Deployed.of_swapped {pair : Address} {p : UniswapV2PairContract} {amount0Out amount1Out : ℕ}
    (h : x.Deployed M) (hp : M.pairs pair = some p)
    (hswapped : Swapped M M' pair recipient amount0Out amount1Out p) : x.Deployed M' := by
  intro tokenA tokenB tokens q htokens hq
  rw [hswapped.pairs] at hq
  by_cases hpair : x.create2 tokens.1 tokens.2 = pair
  · rw [hpair, Function.update_self] at hq
    obtain rfl := Option.some.inj hq
    exact h tokenA tokenB tokens p htokens (hpair ▸ hp)
  · rw [Function.update_of_ne hpair] at hq
    exact h tokenA tokenB tokens q htokens hq

/-- The pair sends the amount of the output token and nothing else. -/
theorem swapHop_ok (hdeployed : x.Deployed M)
    (h : x.swapHop amounts path recipient M i = .ok M') :
    ∃ output amountOut payee, path[i + 1]? = some output ∧ amounts[i + 1]? = some amountOut ∧
      (i < path.length - 2 → x.IsPair payee) ∧ (path.length - 2 ≤ i → payee = recipient) ∧
      x.Traded M M' payee payee output output 0 amountOut := by
  simp only [swapHop, Outcome.bind_eq_ok, element_eq_ok] at h
  obtain ⟨input, hinput, output, houtput, tokens, htokens, amountOut, hamount, payee, hpayee, pair, hpair,
    hswap⟩ := h
  refine ⟨output, amountOut, payee, houtput, hamount, ?_, ?_, ?_⟩
  · intro hinner
    rw [UniswapV2Exchange.payee, if_pos hinner] at hpayee
    obtain ⟨next, -, hnext⟩ := Outcome.bind_eq_ok.mp hpayee
    exact isPair_of_pairFor hnext
  · intro hlast
    rw [UniswapV2Exchange.payee, if_neg (Nat.not_lt.mpr hlast)] at hpayee
    exact (Outcome.pure_eq_ok.mp hpayee).symm
  · simp only [pairFor, Outcome.bind_eq_ok, Outcome.pure_eq_ok] at hpair
    obtain ⟨tokens', htokens', rfl⟩ := hpair
    obtain rfl : tokens = tokens' := Except.ok.inj (htokens.symm.trans htokens')
    obtain ⟨p, hp, hswapped⟩ := swap_none_ok hswap
    obtain ⟨htoken0, htoken1⟩ := hdeployed input output tokens p htokens hp
    refine ⟨?_, hdeployed.of_swapped hp hswapped, ?_⟩
    · intro a ha
      rw [hswapped.pairs, Function.update_of_ne fun heq ↦ ha ⟨_, _, heq⟩]
    · intro t a ha
      have hbalance := hswapped.balance t a
      have hne : a ≠ x.create2 tokens.1 tokens.2 := fun heq ↦ ha ⟨_, _, heq⟩
      obtain ⟨hdiff, htwo⟩ := sortTokens_ok htokens
      simp only [hne, and_false, if_false, Nat.add_zero, htoken0, htoken1] at hbalance
      simp only [ite_self, Nat.add_zero]
      rw [hbalance]
      rcases htwo with rfl | rfl
      · simp
      · simp [hdiff]

/-- Nothing is seen of a payment among pairs. -/
theorem Traded.among_pairs {payee : Address} (h : x.Traded M M' payee payee output output 0 received)
    (hpayee : x.IsPair payee) {a t : Address} (ha : ¬ x.IsPair a) :
    M'.balanceOf t a = M.balanceOf t a := by
  have hne : a ≠ payee := fun heq ↦ ha (heq ▸ hpayee)
  simpa [hne] using h.balance t a ha

/-- Only the last hop pays an account that is not a pair. -/
theorem swapAlong_ok {n : ℕ} (hdeployed : x.Deployed M) (hlength : path.length = n + 2)
    (houtput : path[n + 1]? = some output) (h : x.swapAlong M amounts path recipient = .ok M') :
    ∃ amount, amounts[n + 1]? = some amount ∧
      x.Traded M M' recipient recipient output output 0 amount := by
  have hhops : path.length - 1 = n + 1 := by omega
  rw [swapAlong, hhops, List.range_succ, List.foldlM_append, Outcome.bind_eq_ok] at h
  obtain ⟨M₁, hinner, hlast⟩ := h
  have hquiet : x.Deployed M₁ ∧ ∀ a, ¬ x.IsPair a →
      M₁.pairs a = M.pairs a ∧ ∀ t, M₁.balanceOf t a = M.balanceOf t a := by
    refine Outcome.foldlM_invariant_of_mem
      (P := fun N : Market ↦ x.Deployed N ∧ ∀ a, ¬ x.IsPair a →
        N.pairs a = M.pairs a ∧ ∀ t, N.balanceOf t a = M.balanceOf t a)
      ?_ hinner ⟨hdeployed, fun a _ ↦ ⟨rfl, fun t ↦ rfl⟩⟩
    rintro N i hi N' hhop ⟨hN, hsame⟩
    obtain ⟨output, amount, payee, -, -, hpair, -, htraded⟩ := swapHop_ok hN hhop
    have hinside : i < path.length - 2 := by
      have := List.mem_range.mp hi
      omega
    refine ⟨htraded.deployed, fun a ha ↦ ⟨?_, fun t ↦ ?_⟩⟩
    · rw [htraded.pairs a ha, (hsame a ha).1]
    · rw [htraded.among_pairs (hpair hinside) ha, (hsame a ha).2]
  simp only [List.foldlM_cons, List.foldlM_nil, Outcome.bind_eq_ok, Outcome.pure_eq_ok] at hlast
  obtain ⟨_, hhop, rfl⟩ := hlast
  obtain ⟨output', amount, payee, houtput', hamount, -, hpayee, htraded⟩ := swapHop_ok hquiet.1 hhop
  obtain rfl : payee = recipient := hpayee (by omega)
  obtain rfl : output = output' := Option.some.inj (houtput.symm.trans houtput')
  refine ⟨amount, hamount, ?_, htraded.deployed, ?_⟩
  · intro a ha
    rw [htraded.pairs a ha, (hquiet.2 a ha).1]
  · intro t a ha
    rw [htraded.balance t a ha, (hquiet.2 a ha).2]

/-- The first amount is taken from the sender, the last one goes to the recipient. -/
theorem payAndSwap_ok (hdeployed : x.Deployed M) (hinput : path[0]? = some input)
    (houtput : path[path.length - 1]? = some output)
    (h : x.payAndSwap M sender amounts path recipient = .ok M') :
    ∃ paid received, amounts[0]? = some paid ∧ amounts[path.length - 1]? = some received ∧
      x.Traded M M' sender recipient input output paid received := by
  simp only [payAndSwap, Outcome.bind_eq_ok, element_eq_ok] at h
  obtain ⟨input', hinput', second, hsecond, pair, hpair, paid, hpaid, M₁, htransfer, hswap⟩ := h
  obtain rfl : input = input' := Option.some.inj (hinput.symm.trans hinput')
  have htwo : 1 < path.length := (List.getElem?_eq_some_iff.mp hsecond).1
  obtain ⟨n, hn⟩ : ∃ n, path.length = n + 2 := ⟨path.length - 2, by omega⟩
  have hend : path.length - 1 = n + 1 := by omega
  rw [hend] at houtput ⊢
  have htransfer := Market.transferFrom_paid htransfer
  have hdeployed₁ : x.Deployed M₁ := by
    intro tokenA tokenB tokens p htokens hp
    exact hdeployed tokenA tokenB tokens p htokens (htransfer.pairs ▸ hp)
  obtain ⟨received, hreceived, htraded⟩ := swapAlong_ok hdeployed₁ hn houtput hswap
  refine ⟨paid, received, hpaid, hreceived, ?_, htraded.deployed, ?_⟩
  · intro a ha
    rw [htraded.pairs a ha, htransfer.pairs]
  · intro t a ha
    have hpay := htransfer.balance t a
    have htake := htraded.balance t a ha
    have hne : a ≠ pair := fun heq ↦ ha (heq ▸ isPair_of_pairFor hpair)
    simp only [ite_self, Nat.add_zero] at htake
    simp only [hne, and_false, if_false, Nat.add_zero] at hpay
    omega

/-- What is documented of the quotes: the given amount is the amount at its end of the path. -/
structure Quotes (x : UniswapV2Exchange) : Prop where
  amountsOut : ∀ reserves amountIn path amounts, x.getAmountsOut reserves amountIn path = .ok amounts →
    amounts[0]? = some amountIn
  amountsIn : ∀ reserves amountOut path amounts, x.getAmountsIn reserves amountOut path = .ok amounts →
    amounts[path.length - 1]? = some amountOut

theorem getReserves_congr (h : ∀ a, x.IsPair a → M'.pairs a = M.pairs a) :
    x.getReserves M' = x.getReserves M := by
  funext tokenA tokenB
  simp only [getReserves, load, h _ ⟨_, _, rfl⟩]

end UniswapV2Exchange

/-! ## The splitter -/

namespace AMMSplitterContract

open UniswapV2Exchange

variable {x : AMMSplitterContract} {exchange : UniswapV2Exchange} {M M' : Market} {path : List Address}
  {sender recipient input output : Address} {timestamp deadline size : ℕ} {isExactInput : Bool}

/-- The router as it quotes in a state. -/
def quotes (exchange : UniswapV2Exchange) (M : Market) : UniswapV2Router :=
  ⟨exchange.getAmountsOut (exchange.getReserves M), exchange.getAmountsIn (exchange.getReserves M)⟩

/-- A trade takes and gives the amounts at the ends of the path of its quote. -/
structure QuotedTrade (router : UniswapV2Router) (size : ℕ) (path : List Address) (isExactInput : Bool)
    (amount paid received : ℕ) : Prop where
  quoted : ∃ amounts, AMMSplitter.getTradeInputOrOutput router size path isExactInput = .ok amounts ∧
    amounts[0]? = some paid ∧ amounts[path.length - 1]? = some received
  exactInput : isExactInput = true → paid = size ∧ received = amount
  exactOutput : isExactInput = false → received = size ∧ paid = amount

/-- The splitter trades with an exchange as it is quoted. -/
theorem executeTrade_ok {amount : ℕ} (hquotes : exchange.Quotes) (hdeployed : exchange.Deployed M)
    (hinput : path[0]? = some input) (houtput : path[path.length - 1]? = some output)
    (h : x.executeTrade exchange M timestamp size path recipient deadline isExactInput =
      .ok (M', amount)) :
    ∃ paid received, QuotedTrade (quotes exchange M) size path isExactInput amount paid received ∧
      exchange.Traded M M' x.address recipient input output paid received := by
  rw [executeTrade] at h
  split at h
  · next hzero =>
    obtain ⟨rfl, rfl⟩ := Prod.mk.inj (Outcome.pure_eq_ok.mp h)
    have hpos : 0 < path.length := (List.getElem?_eq_some_iff.mp hinput).1
    refine ⟨0, 0, ⟨⟨List.replicate path.length 0, ?_, ?_, ?_⟩, fun _ ↦ ⟨hzero.symm, rfl⟩,
      fun _ ↦ ⟨hzero.symm, rfl⟩⟩, fun _ _ ↦ rfl, hdeployed, fun t a _ ↦ ?_⟩
    · rw [AMMSplitter.getTradeInputOrOutput, if_pos hzero]
      rfl
    · simp [hpos]
    · simp [hpos]
    · simp only [ite_self]
  · next hzero =>
    cases isExactInput with
    | true =>
      simp only [if_true, UniswapV2Exchange.swapExactTokensForTokens, Outcome.bind_eq_ok,
        Outcome.pure_eq_ok, element_eq_ok] at h
      obtain ⟨⟨M₁, amounts⟩, ⟨_, -, amounts', hamounts, _, -, _, -, M₂, hswap, heq⟩, _, hlast, hresult⟩ := h
      obtain ⟨rfl, rfl⟩ := Prod.mk.inj heq
      obtain ⟨rfl, rfl⟩ := Prod.mk.inj hresult
      have hfirst := hquotes.amountsOut _ _ _ _ hamounts
      obtain ⟨paid, received, hpaid, hreceived, htraded⟩ := payAndSwap_ok hdeployed hinput houtput hswap
      refine ⟨paid, received, ⟨⟨_, ?_, hpaid, hreceived⟩, fun _ ↦ ⟨?_, ?_⟩, Bool.noConfusion⟩, htraded⟩
      · rw [AMMSplitter.getTradeInputOrOutput, if_neg hzero]
        exact hamounts
      · exact Option.some.inj (hpaid.symm.trans hfirst)
      · exact Option.some.inj (hreceived.symm.trans hlast)
    | false =>
      simp only [Bool.false_eq_true, if_false, UniswapV2Exchange.swapTokensForExactTokens,
        Outcome.bind_eq_ok, Outcome.pure_eq_ok, element_eq_ok] at h
      obtain ⟨⟨M₁, amounts⟩, ⟨_, -, amounts', hamounts, _, -, _, -, M₂, hswap, heq⟩, _, hfirst, hresult⟩ := h
      obtain ⟨rfl, rfl⟩ := Prod.mk.inj heq
      obtain ⟨rfl, rfl⟩ := Prod.mk.inj hresult
      have hlast := hquotes.amountsIn _ _ _ _ hamounts
      obtain ⟨paid, received, hpaid, hreceived, htraded⟩ := payAndSwap_ok hdeployed hinput houtput hswap
      refine ⟨paid, received, ⟨⟨_, ?_, hpaid, hreceived⟩, Bool.noConfusion, fun _ ↦ ⟨?_, ?_⟩⟩, htraded⟩
      · rw [AMMSplitter.getTradeInputOrOutput, if_neg hzero]
        exact hamounts
      · exact Option.some.inj (hreceived.symm.trans hlast)
      · exact Option.some.inj (hpaid.symm.trans hfirst)

/-- The two factories give their pairs different addresses. -/
def Apart (x : AMMSplitterContract) : Prop :=
  ∀ a, x.uni.IsPair a → ¬ x.sushi.IsPair a

/-- The account is no pair of either exchange. -/
def Outside (x : AMMSplitterContract) (a : Address) : Prop :=
  ¬ x.uni.IsPair a ∧ ¬ x.sushi.IsPair a

/-- What the accounts outside the exchanges see of a trade: the sender pays, the recipient is paid, and nobody
else's balances change, not even those of the splitter. -/
structure Settled (x : AMMSplitterContract) (M M' : Market) (sender recipient input output : Address)
    (paid received : ℕ) : Prop where
  balance : ∀ t a, x.Outside a →
    M'.balanceOf t a + (if t = input ∧ a = sender then paid else 0) =
      M.balanceOf t a + if t = output ∧ a = recipient then received else 0
  uni : x.uni.Deployed M'
  sushi : x.sushi.Deployed M'

theorem approveIfNeeded_keeps {token spender : Address} {amount : ℕ}
    (h : x.approveIfNeeded M token spender amount = .ok M') :
    M'.pairs = M.pairs ∧ M'.balanceOf = M.balanceOf := by
  rw [approveIfNeeded] at h
  split at h
  · exact Market.approve_keeps h
  · obtain rfl := Outcome.pure_eq_ok.mp h
    exact ⟨rfl, rfl⟩

theorem checkApprovals_keeps {uniAmount sushiAmount : ℕ} {token : Address}
    (h : x.checkApprovals M uniAmount sushiAmount token = .ok M') :
    M'.pairs = M.pairs ∧ M'.balanceOf = M.balanceOf := by
  simp only [checkApprovals, Outcome.bind_eq_ok] at h
  obtain ⟨M₁, huni, hsushi⟩ := h
  obtain ⟨hpairs, hbalance⟩ := approveIfNeeded_keeps huni
  obtain ⟨hpairs', hbalance'⟩ := approveIfNeeded_keeps hsushi
  exact ⟨hpairs'.trans hpairs, hbalance'.trans hbalance⟩

theorem quoting_congr (h : M'.pairs = M.pairs) : x.quoting M' = x.quoting M := by
  simp only [quoting, factory, getReserves_congr (x := x.uni) fun a _ ↦ congrFun h a,
    getReserves_congr (x := x.sushi) fun a _ ↦ congrFun h a, h]

/-- What the sender gives the splitter is what the splitter pays. -/
theorem settled_of_traded {M₁ M₂ M₃ : Market} {total uniPaid uniReceived sushiPaid sushiReceived : ℕ}
    (hpaid : M.Paid M₁ input sender x.address total) (happrove : M₂.balanceOf = M₁.balanceOf)
    (huni : x.uni.Traded M₂ M₃ x.address recipient input output uniPaid uniReceived)
    (hsushi : x.sushi.Traded M₃ M' x.address recipient input output sushiPaid sushiReceived)
    (hapart : x.Apart) (htotal : uniPaid + sushiPaid = total) :
    x.Settled M M' sender recipient input output total (uniReceived + sushiReceived) where
  balance t a ha := by
    have hfirst := hpaid.balance t a
    have hsecond := huni.balance t a ha.1
    have hthird := hsushi.balance t a ha.2
    rw [happrove] at hsecond
    subst htotal
    simp only [ite_add_zero] at hfirst ⊢
    omega
  uni tokenA tokenB tokens p htokens hp := by
    rw [hsushi.pairs _ (hapart _ ⟨_, _, rfl⟩)] at hp
    exact huni.deployed tokenA tokenB tokens p htokens hp
  sushi := hsushi.deployed

/-! ## Quotes before the trade -/

theorem factory_getPair (exchange : UniswapV2Exchange) (M : Market) (tokenA tokenB : Address) :
    (exchange.factory M).getPair tokenA tokenB = 0 ∨
      exchange.IsPair ((exchange.factory M).getPair tokenA tokenB) := by
  simp only [factory]
  split
  · exact .inl rfl
  · next pair hpair =>
    split
    · exact .inr (isPair_of_pairFor hpair)
    · exact .inl rfl

/-- The sizes are computed from balances of pairs, or of the zero address in place of a missing pair. -/
theorem getTradeSizes_congr {balanceOf balanceOf' : Address → Address → ℕ}
    (h : ∀ token a, a = 0 ∨ x.uni.IsPair a ∨ x.sushi.IsPair a →
      balanceOf' token a = balanceOf token a) :
    (x.quoting M).getTradeSizes balanceOf' path size = (x.quoting M).getTradeSizes balanceOf path size := by
  have huni : ∀ tokenA tokenB,
      AMMSplitter.getTokenBalanceInPair balanceOf' (x.quoting M).uniFactory tokenA tokenB =
        AMMSplitter.getTokenBalanceInPair balanceOf (x.quoting M).uniFactory tokenA tokenB := by
    intro tokenA tokenB
    exact h _ _ ((factory_getPair x.uni M tokenA tokenB).imp_right Or.inl)
  have hsushi : ∀ tokenA tokenB,
      AMMSplitter.getTokenBalanceInPair balanceOf' (x.quoting M).sushiFactory tokenA tokenB =
        AMMSplitter.getTokenBalanceInPair balanceOf (x.quoting M).sushiFactory tokenA tokenB := by
    intro tokenA tokenB
    exact h _ _ ((factory_getPair x.sushi M tokenA tokenB).imp_right Or.inr)
  simp only [AMMSplitter.getTradeSizes, huni, hsushi]

/-- What the caller gives the splitter is not seen by the computation of the sizes. -/
theorem getTradeSizes_of_transferFrom {token : Address} {amount : ℕ}
    (h : M.transferFrom token x.address sender x.address amount = .ok M')
    (hsender : x.Outside sender) (haddress : x.Outside x.address) :
    (x.quoting M').getTradeSizes M'.balanceOf path size =
      (x.quoting M).getTradeSizes M.balanceOf path size := by
  have hpaid := Market.transferFrom_paid h
  obtain ⟨hsenderNe, haddressNe⟩ := Market.transferFrom_ne_zero h
  rw [quoting_congr hpaid.pairs]
  apply getTradeSizes_congr
  intro t a ha
  have hne : a ≠ sender ∧ a ≠ x.address := by
    constructor
    · rintro rfl
      exact ha.elim hsenderNe fun hpair ↦ hpair.elim hsender.1 hsender.2
    · rintro rfl
      exact ha.elim haddressNe fun hpair ↦ hpair.elim haddress.1 haddress.2
  simpa [hne] using hpaid.balance t a

/-- The quotes of the splitter are the sums of what both exchanges quote. -/
theorem getAmounts_ends {s : AMMSplitter} {balanceOf : Address → Address → ℕ} {amounts : List ℕ}
    {sizes : AMMSplitter.TradeInfo}
    {uniAmount uniPaid uniReceived sushiAmount sushiPaid sushiReceived : ℕ}
    (h : s.getAmounts balanceOf size path isExactInput = .ok amounts)
    (hsizes : s.getTradeSizes balanceOf path size = .ok sizes)
    (huni : QuotedTrade s.uniRouter sizes.uniSize path isExactInput uniAmount uniPaid uniReceived)
    (hsushi : QuotedTrade s.sushiRouter sizes.sushiSize path isExactInput sushiAmount sushiPaid
      sushiReceived) :
    amounts[0]? = some (uniPaid + sushiPaid) ∧
      amounts[path.length - 1]? = some (uniReceived + sushiReceived) := by
  simp only [AMMSplitter.getAmounts, Outcome.bind_eq_ok, AMMSplitter.checkPath,
    Outcome.require_eq_ok] at h
  obtain ⟨_, hpath, sizes', hsizes', uniAmounts, huniAmounts, sushiAmounts, hsushiAmounts, hloop⟩ := h
  obtain ⟨uniAmounts', huniAmounts', huniFirst, huniLast⟩ := huni.quoted
  obtain ⟨sushiAmounts', hsushiAmounts', hsushiFirst, hsushiLast⟩ := hsushi.quoted
  obtain rfl := Except.ok.inj (hsizes.symm.trans hsizes')
  obtain rfl := Except.ok.inj (huniAmounts.symm.trans huniAmounts')
  obtain rfl := Except.ok.inj (hsushiAmounts.symm.trans hsushiAmounts')
  obtain ⟨hlength, hentries⟩ := AMMSplitter.mapM_addAmounts_ok hloop
  have hsum : ∀ i, i < path.length → ∀ u v, uniAmounts[i]? = some u → sushiAmounts[i]? = some v →
      amounts[i]? = some (u + v) := by
    intro i hi u v hu hv
    obtain ⟨u', v', hu', hv', hadd⟩ := hentries i (hlength ▸ hi)
    obtain rfl := Option.some.inj (hu.symm.trans hu')
    obtain rfl := Option.some.inj (hv.symm.trans hv')
    rw [List.getElem?_eq_getElem (hlength ▸ hi), hadd]
  exact ⟨hsum 0 (by omega) _ _ huniFirst hsushiFirst,
    hsum _ (by omega) _ _ huniLast hsushiLast⟩

/-! ## Whole trades -/

/-- The two exchanges are deployed for themselves and quote as documented. -/
structure Ready (x : AMMSplitterContract) (M : Market) : Prop where
  apart : x.Apart
  uni : x.uni.Deployed M
  sushi : x.sushi.Deployed M
  uniQuotes : x.uni.Quotes
  sushiQuotes : x.sushi.Quotes

/-- Both trades are made as they were quoted before either. -/
theorem executeTrades_ok {M₂ M₃ : Market} {uniSize uniAmount sushiSize sushiAmount : ℕ}
    (hready : x.Ready M) (hpairs : M₂.pairs = M.pairs) (hinput : path[0]? = some input)
    (houtput : path[path.length - 1]? = some output)
    (huni : x.executeTrade x.uni M₂ timestamp uniSize path recipient deadline isExactInput =
      .ok (M₃, uniAmount))
    (hsushi : x.executeTrade x.sushi M₃ timestamp sushiSize path recipient deadline isExactInput =
      .ok (M', sushiAmount)) :
    ∃ uniPaid uniReceived sushiPaid sushiReceived,
      QuotedTrade (x.quoting M).uniRouter uniSize path isExactInput uniAmount uniPaid uniReceived ∧
      QuotedTrade (x.quoting M).sushiRouter sushiSize path isExactInput sushiAmount sushiPaid
        sushiReceived ∧
      x.uni.Traded M₂ M₃ x.address recipient input output uniPaid uniReceived ∧
      x.sushi.Traded M₃ M' x.address recipient input output sushiPaid sushiReceived := by
  have huniDeployed : x.uni.Deployed M₂ := by
    intro tokenA tokenB tokens p htokens hp
    exact hready.uni tokenA tokenB tokens p htokens (hpairs ▸ hp)
  obtain ⟨uniPaid, uniReceived, huniQuoted, huniTraded⟩ :=
    executeTrade_ok hready.uniQuotes huniDeployed hinput houtput huni
  have hsushiPairs : ∀ a, x.sushi.IsPair a → M₃.pairs a = M.pairs a := by
    intro a ha
    rw [huniTraded.pairs a fun hpair ↦ hready.apart a hpair ha, hpairs]
  have hsushiDeployed : x.sushi.Deployed M₃ := by
    intro tokenA tokenB tokens p htokens hp
    exact hready.sushi tokenA tokenB tokens p htokens (hsushiPairs _ ⟨_, _, rfl⟩ ▸ hp)
  obtain ⟨sushiPaid, sushiReceived, hsushiQuoted, hsushiTraded⟩ :=
    executeTrade_ok hready.sushiQuotes hsushiDeployed hinput houtput hsushi
  rw [quotes, getReserves_congr (x := x.uni) fun a _ ↦ congrFun hpairs a] at huniQuoted
  rw [quotes, getReserves_congr hsushiPairs] at hsushiQuoted
  exact ⟨uniPaid, uniReceived, sushiPaid, sushiReceived, huniQuoted, hsushiQuoted, huniTraded,
    hsushiTraded⟩

/-- A trade of an exact input: the caller pays the input and the recipient gets the sum of both outputs, which
is what the splitter quotes in the same state and at least the minimum; the splitter keeps nothing. -/
theorem swapExactTokensForTokens_settled {amountIn amountOutMin totalOutput : ℕ} (hready : x.Ready M)
    (hinput : path[0]? = some input) (houtput : path[path.length - 1]? = some output)
    (hsender : x.Outside sender) (haddress : x.Outside x.address)
    (h : x.swapExactTokensForTokens M sender timestamp amountIn amountOutMin path recipient deadline =
      .ok (M', totalOutput)) :
    x.Settled M M' sender recipient input output amountIn totalOutput ∧ amountOutMin ≤ totalOutput ∧
      ∀ amounts, (x.quoting M).getAmountsOut M.balanceOf amountIn path = .ok amounts →
        amounts[path.length - 1]? = some totalOutput := by
  simp only [AMMSplitterContract.swapExactTokensForTokens, Outcome.bind_eq_ok, Outcome.require_eq_ok,
    SafeMath.add_eq_ok, Outcome.pure_eq_ok, element_eq_ok] at h
  obtain ⟨_, -, input', hinput', M₁, htransfer, sizes, hsizes, M₂, happrove, ⟨M₃, uniOutput⟩, huniTrade,
    ⟨M₄, sushiOutput⟩, hsushiTrade, _, ⟨-, rfl⟩, _, hmin, heq⟩ := h
  obtain ⟨rfl, rfl⟩ := Prod.mk.inj heq
  obtain rfl := Option.some.inj (hinput.symm.trans hinput')
  have hpaid := Market.transferFrom_paid htransfer
  obtain ⟨happrovePairs, happroveBalance⟩ := checkApprovals_keeps happrove
  obtain ⟨uniPaid, uniReceived, sushiPaid, sushiReceived, huniQuoted, hsushiQuoted, huni, hsushi⟩ :=
    executeTrades_ok hready (happrovePairs.trans hpaid.pairs) hinput houtput huniTrade hsushiTrade
  obtain ⟨rfl, rfl⟩ := huniQuoted.exactInput rfl
  obtain ⟨rfl, rfl⟩ := hsushiQuoted.exactInput rfl
  refine ⟨settled_of_traded hpaid happroveBalance huni hsushi hready.apart
    (AMMSplitter.getTradeSizes_sum hsizes), hmin, ?_⟩
  intro amounts hamounts
  rw [getTradeSizes_of_transferFrom htransfer hsender haddress] at hsizes
  exact (getAmounts_ends hamounts hsizes huniQuoted hsushiQuoted).2

/-- A trade for an exact output: the recipient gets the output and the caller pays the sum of both inputs,
which is what the splitter quotes in the same state and at most the maximum; the splitter keeps nothing. -/
theorem swapTokensForExactTokens_settled {amountOut amountInMax totalInput : ℕ} (hready : x.Ready M)
    (hinput : path[0]? = some input) (houtput : path[path.length - 1]? = some output)
    (h : x.swapTokensForExactTokens M sender timestamp amountOut amountInMax path recipient deadline =
      .ok (M', totalInput)) :
    x.Settled M M' sender recipient input output totalInput amountOut ∧ totalInput ≤ amountInMax ∧
      ∀ amounts, (x.quoting M).getAmountsIn M.balanceOf amountOut path = .ok amounts →
        amounts[0]? = some totalInput := by
  simp only [AMMSplitterContract.swapTokensForExactTokens, Outcome.bind_eq_ok, Outcome.require_eq_ok,
    SafeMath.add_eq_ok, Outcome.pure_eq_ok, element_eq_ok] at h
  obtain ⟨_, -, sizes, hsizes, uniAmounts, huniAmounts, uniInput, huniInput, sushiAmounts, hsushiAmounts,
    sushiInput, hsushiInput, _, ⟨-, rfl⟩, _, hmax, input', hinput', M₁, htransfer, M₂, happrove,
    ⟨M₃, uniSpent⟩, huniTrade, ⟨M₄, sushiSpent⟩, hsushiTrade, heq⟩ := h
  obtain ⟨rfl, rfl⟩ := Prod.mk.inj heq
  obtain rfl := Option.some.inj (hinput.symm.trans hinput')
  have hpaid := Market.transferFrom_paid htransfer
  obtain ⟨happrovePairs, happroveBalance⟩ := checkApprovals_keeps happrove
  obtain ⟨uniPaid, uniReceived, sushiPaid, sushiReceived, huniQuoted, hsushiQuoted, huni, hsushi⟩ :=
    executeTrades_ok hready (happrovePairs.trans hpaid.pairs) hinput houtput huniTrade hsushiTrade
  -- what was expected of either exchange is what it takes, since its quote is the same
  obtain ⟨uniAmounts', huniAmounts', huniFirst, -⟩ := huniQuoted.quoted
  obtain ⟨sushiAmounts', hsushiAmounts', hsushiFirst, -⟩ := hsushiQuoted.quoted
  obtain rfl := Except.ok.inj (huniAmounts.symm.trans huniAmounts')
  obtain rfl := Except.ok.inj (hsushiAmounts.symm.trans hsushiAmounts')
  obtain rfl := Option.some.inj (huniInput.symm.trans huniFirst)
  obtain rfl := Option.some.inj (hsushiInput.symm.trans hsushiFirst)
  obtain ⟨rfl, -⟩ := huniQuoted.exactOutput rfl
  obtain ⟨rfl, -⟩ := hsushiQuoted.exactOutput rfl
  have hsettled := settled_of_traded hpaid happroveBalance huni hsushi hready.apart rfl
  rw [AMMSplitter.getTradeSizes_sum hsizes] at hsettled
  exact ⟨hsettled, hmax, fun amounts hamounts ↦
    (getAmounts_ends hamounts hsizes huniQuoted hsushiQuoted).1⟩

/-! ## A trade on two pairs -/

namespace Sample

/-- Constant-product quotes with a fee of three thousandths. -/
def amountsOut (reserves : Address → Address → Outcome (ℕ × ℕ)) : ℕ → List Address → Outcome (List ℕ)
  | _, [] => throw "UniswapV2Library: INVALID_PATH"
  | amountIn, [_] => pure [amountIn]
  | amountIn, token0 :: token1 :: path => do
    let (reserveIn, reserveOut) ← reserves token0 token1
    let rest ← amountsOut reserves
      (amountIn * 997 * reserveOut / (reserveIn * 1000 + amountIn * 997)) (token1 :: path)
    pure (amountIn :: rest)

def amountsIn (reserves : Address → Address → Outcome (ℕ × ℕ)) (amountOut : ℕ) :
    List Address → Outcome (List ℕ)
  | [] => throw "UniswapV2Library: INVALID_PATH"
  | [_] => pure [amountOut]
  | token0 :: token1 :: path => do
    let rest ← amountsIn reserves amountOut (token1 :: path)
    let (reserveIn, reserveOut) ← reserves token0 token1
    let next := rest.headD 0
    pure ((reserveIn * next * 1000 / ((reserveOut - next) * 997) + 1) :: rest)

/-- An exchange with one pair, of the tokens 1 and 2. -/
def deployment (router pair free : Address) : UniswapV2Exchange where
  router := router
  create2 token0 token1 := if token0 = 1 ∧ token1 = 2 then pair else free
  getAmountsOut := amountsOut
  getAmountsIn := amountsIn

def splitter : AMMSplitterContract where
  address := 9
  uni := deployment 11 101 103
  sushi := deployment 12 102 104

/-- Sushiswap has three times the liquidity. -/
def market : Market where
  erc20 token :=
    if token = 1 then .holding 18 [(5, 10 ^ 6), (101, 10 ^ 6), (102, 3 * 10 ^ 6)] (10 ^ 9)
    else .holding 18 [(101, 10 ^ 6), (102, 3 * 10 ^ 6)] (10 ^ 9)
  pairs a :=
    if a = 101 then some ⟨1, 2, 10 ^ 6, 10 ^ 6, true⟩
    else if a = 102 then some ⟨1, 2, 3 * 10 ^ 6, 3 * 10 ^ 6, true⟩
    else none

theorem deployment_quotes (router pair free : Address) : (deployment router pair free).Quotes where
  amountsOut reserves amountIn path amounts h := by
    change amountsOut reserves amountIn path = .ok amounts at h
    unfold amountsOut at h
    split at h
    · cases h
    · obtain rfl := Outcome.pure_eq_ok.mp h
      rfl
    · simp only [Outcome.bind_eq_ok, Outcome.pure_eq_ok] at h
      obtain ⟨_, -, rest, -, rfl⟩ := h
      rfl
  amountsIn reserves amountOut path amounts h := by
    change amountsIn reserves amountOut path = .ok amounts at h
    suffices hends : amounts.length = path.length ∧ amounts[path.length - 1]? = some amountOut from hends.2
    induction path generalizing amounts with
    | nil => cases h
    | cons token0 path ih =>
      cases path with
      | nil =>
        obtain rfl := Outcome.pure_eq_ok.mp h
        exact ⟨rfl, rfl⟩
      | cons token1 path =>
        simp only [amountsIn, Outcome.bind_eq_ok, Outcome.pure_eq_ok] at h
        obtain ⟨rest, hrest, _, -, rfl⟩ := h
        obtain ⟨hlength, hlast⟩ := ih rest hrest
        exact ⟨by simp [hlength], hlast⟩

theorem isPair_iff {router pair free a : Address} :
    (deployment router pair free).IsPair a ↔ a = pair ∨ a = free := by
  constructor
  · rintro ⟨token0, token1, rfl⟩
    simp only [deployment]
    split
    · exact .inl rfl
    · exact .inr rfl
  · rintro (rfl | rfl)
    · exact ⟨1, 2, rfl⟩
    · exact ⟨2, 1, rfl⟩

theorem deployed {M : Market} {router pair free : Address} {p : UniswapV2PairContract}
    (hpair : M.pairs pair = some p) (htokens : p.token0 = 1 ∧ p.token1 = 2) (hfree : M.pairs free = none) :
    (deployment router pair free).Deployed M := by
  intro tokenA tokenB tokens q _ hq
  simp only [deployment] at hq
  split at hq
  · next hsorted =>
    obtain rfl := Option.some.inj (hpair.symm.trans hq)
    rw [hsorted.1, hsorted.2]
    exact htokens
  · rw [hfree] at hq
    cases hq

theorem ready : splitter.Ready market where
  apart a huni hsushi := by
    have huni : a = 101 ∨ a = 103 := isPair_iff.mp huni
    have hsushi : a = 102 ∨ a = 104 := isPair_iff.mp hsushi
    rcases huni with rfl | rfl <;> exact absurd hsushi (by decide)
  uni := deployed rfl ⟨rfl, rfl⟩ rfl
  sushi := deployed rfl ⟨rfl, rfl⟩ rfl
  uniQuotes := deployment_quotes 11 101 103
  sushiQuotes := deployment_quotes 12 102 104

theorem outside {a : Address} (ha : a ≠ 101 ∧ a ≠ 102 ∧ a ≠ 103 ∧ a ≠ 104) : splitter.Outside a :=
  ⟨fun huni ↦ (isPair_iff.mp huni).elim ha.1 ha.2.2.1,
    fun hsushi ↦ (isPair_iff.mp hsushi).elim ha.2.1 ha.2.2.2⟩

/-- A caller trades for another account. -/
def soldExactly : Market × ℕ :=
  (splitter.swapExactTokensForTokens market 5 0 400 1 [1, 2] 6 0).toOption.getD (market, 0)

def boughtExactly : Market × ℕ :=
  (splitter.swapTokensForExactTokens market 5 0 400 500 [1, 2] 6 0).toOption.getD (market, 0)

theorem soldExactly_settled :
    splitter.Settled market soldExactly.1 5 6 1 2 400 soldExactly.2 ∧ 1 ≤ soldExactly.2 ∧
      ∀ amounts, (splitter.quoting market).getAmountsOut market.balanceOf 400 [1, 2] = .ok amounts →
        amounts[1]? = some soldExactly.2 := by
  have hswap : splitter.swapExactTokensForTokens market 5 0 400 1 [1, 2] 6 0 = .ok soldExactly :=
    Outcome.eq_ok_getD (market, 0) (by decide +kernel)
  exact swapExactTokensForTokens_settled ready rfl rfl (outside (by decide)) (outside (by decide)) hswap

theorem boughtExactly_settled :
    splitter.Settled market boughtExactly.1 5 6 1 2 boughtExactly.2 400 ∧ boughtExactly.2 ≤ 500 ∧
      ∀ amounts, (splitter.quoting market).getAmountsIn market.balanceOf 400 [1, 2] = .ok amounts →
        amounts[0]? = some boughtExactly.2 := by
  have hswap : splitter.swapTokensForExactTokens market 5 0 400 500 [1, 2] 6 0 = .ok boughtExactly :=
    Outcome.eq_ok_getD (market, 0) (by decide +kernel)
  exact swapTokensForExactTokens_settled ready rfl rfl hswap

end Sample

end AMMSplitterContract

end SetProtocol
