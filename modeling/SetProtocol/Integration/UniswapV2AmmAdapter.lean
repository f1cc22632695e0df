import SetProtocol.Foundation.Rounding
import SetProtocol.Integration.UniswapV3ExchangeAdapterV2

/-!
# Liquidity of Uniswap V2

The adapter that adds liquidity to a pair of Uniswap V2 and removes it.  Before it encodes the call, the
adapter computes the liquidity that the most tokens to provide pay for, and from that liquidity the least
amounts that the router may take.  The router goes from one amount to the other by its quote instead.
-/

namespace SetProtocol

open UniswapV3ExchangeAdapterV2 (element element_eq_ok)

/-- What the adapter reads from a pool token. -/
structure UniswapV2Pair where
  /-- The factory of the pair; `none` where the call reverts. -/
  factory : Option Address
  token0 : Address
  reserve0 : ℕ
  reserve1 : ℕ
  totalSupply : ℕ
  balanceOf : Address → ℕ

structure AddLiquidityParams where
  tokenA : Address
  tokenB : Address
  amountADesired : ℕ
  amountBDesired : ℕ
  amountAMin : ℕ
  amountBMin : ℕ
  /-- The argument `to` of the source. -/
  recipient : Address
  deadline : ℕ
deriving DecidableEq

structure RemoveLiquidityParams where
  tokenA : Address
  tokenB : Address
  liquidity : ℕ
  amountAMin : ℕ
  amountBMin : ℕ
  /-- The argument `to` of the source. -/
  recipient : Address
  deadline : ℕ
deriving DecidableEq

/-- The calls of the router that the adapter encodes, by their signatures. -/
inductive UniswapV2RouterCall where
  | addLiquidity (params : AddLiquidityParams)
  | removeLiquidity (params : RemoveLiquidityParams)
deriving DecidableEq

/-! ## The router -/

namespace UniswapV2Library

def sortTokens (tokenA tokenB : Address) : Outcome (Address × Address) := do
  require (tokenA ≠ tokenB) "UniswapV2Library: IDENTICAL_ADDRESSES"
  let tokens := if tokenA < tokenB then (tokenA, tokenB) else (tokenB, tokenA)
  require (tokens.1 ≠ 0) "UniswapV2Library: ZERO_ADDRESS"
  pure tokens

end UniswapV2Library

namespace UniswapV2Router02

/-- The amounts that `_addLiquidity` takes on given reserves, with the library's `quote` as a parameter. -/
def addLiquidity (quote : (amountA reserveA reserveB : ℕ) → Outcome ℕ) (reserves : ℕ × ℕ)
    (p : AddLiquidityParams) : Outcome (ℕ × ℕ) :=
  if reserves.1 = 0 ∧ reserves.2 = 0 then
    pure (p.amountADesired, p.amountBDesired)
  else do
    let amountBOptimal ← quote p.amountADesired reserves.1 reserves.2
    if amountBOptimal ≤ p.amountBDesired then do
      require (p.amountBMin ≤ amountBOptimal) "UniswapV2Router: INSUFFICIENT_B_AMOUNT"
      pure (p.amountADesired, amountBOptimal)
    else do
      let amountAOptimal ← quote p.amountBDesired reserves.2 reserves.1
      require (amountAOptimal ≤ p.amountADesired) "assertion"
      require (p.amountAMin ≤ amountAOptimal) "UniswapV2Router: INSUFFICIENT_A_AMOUNT"
      pure (amountAOptimal, p.amountBDesired)

end UniswapV2Router02

/-! ## The adapter -/

structure UniswapV2AmmAdapter where
  router : Address
  factory : Address

namespace UniswapV2AmmAdapter

/-- The reserves of a pair, the one of `tokenA` first. -/
def getReserves (pair : UniswapV2Pair) (tokenA : Address) : ℕ × ℕ :=
  if tokenA = pair.token0 then (pair.reserve0, pair.reserve1) else (pair.reserve1, pair.reserve0)

/-- The least amounts for the most tokens to provide. -/
def amountMinimums (totalSupply : ℕ) (reserves : ℕ × ℕ) (maxTokenA maxTokenB minLiquidity : ℕ) :
    Outcome (ℕ × ℕ) := do
  let liquidityA ← SafeMath.div (← SafeMath.mul maxTokenA totalSupply) reserves.1
  let liquidityB ← SafeMath.div (← SafeMath.mul maxTokenB totalSupply) reserves.2
  let liquidityExpectedFromSuppliedTokens := min liquidityA liquidityB
  require (minLiquidity ≤ liquidityExpectedFromSuppliedTokens)
    "_minLiquidity is too high for input token limit"
  let amountAMin ←
    SafeMath.div (← SafeMath.mul liquidityExpectedFromSuppliedTokens reserves.1) totalSupply
  let amountBMin ←
    SafeMath.div (← SafeMath.mul liquidityExpectedFromSuppliedTokens reserves.2) totalSupply
  pure (amountAMin, amountBMin)

/-- The second quantity is not read when the first one is zero. -/
def getProvideLiquidityCalldata (a : UniswapV2AmmAdapter) (pairs : Address → UniswapV2Pair)
    (timestamp : ℕ) (setToken pool : Address) (components : List Address) (maxTokensIn : List ℕ)
    (minLiquidity : ℕ) : Outcome (Address × ℕ × UniswapV2RouterCall) := do
  let maxTokenA ← element maxTokensIn 0
  require (0 < maxTokenA) "Component quantity must be nonzero"
  let maxTokenB ← element maxTokensIn 1
  require (0 < maxTokenB) "Component quantity must be nonzero"
  let tokenA ← element components 0
  let minimums ← amountMinimums (pairs pool).totalSupply (getReserves (pairs pool) tokenA) maxTokenA
    maxTokenB minLiquidity
  let tokenB ← element components 1
  pure (a.router, 0, .addLiquidity
    ⟨tokenA, tokenB, maxTokenA, maxTokenB, minimums.1, minimums.2, setToken, timestamp⟩)

def getProvideLiquiditySingleAssetCalldata (_setToken _pool _component : Address)
    (_maxTokenIn _minLiquidity : ℕ) : Outcome (Address × ℕ × UniswapV2RouterCall) :=
  throw "Uniswap V2 single asset addition is not supported"

def getRemoveLiquidityCalldata (a : UniswapV2AmmAdapter) (pairs : Address → UniswapV2Pair)
    (timestamp : ℕ) (setToken pool : Address) (components : List Address) (minTokensOut : List ℕ)
    (liquidity : ℕ) : Outcome (Address × ℕ × UniswapV2RouterCall) := do
  let pair := pairs pool
  require (liquidity ≤ pair.balanceOf setToken) "_liquidity must be <= to current balance"
  let tokenA ← element components 0
  let reserves := getReserves pair tokenA
  let ownedA ← SafeMath.div (← SafeMath.mul reserves.1 liquidity) pair.totalSupply
  let ownedB ← SafeMath.div (← SafeMath.mul reserves.2 liquidity) pair.totalSupply
  let minTokenA ← element minTokensOut 0
  require (minTokenA ≤ ownedA) "amounts must be <= ownedTokens"
  let minTokenB ← element minTokensOut 1
  require (minTokenB ≤ ownedB) "amounts must be <= ownedTokens"
  let tokenB ← element components 1
  pure (a.router, 0, .removeLiquidity
    ⟨tokenA, tokenB, liquidity, minTokenA, minTokenB, setToken, timestamp⟩)

def getRemoveLiquiditySingleAssetCalldata (_setToken _pool _component : Address)
    (_minTokenOut _liquidity : ℕ) : Outcome (Address × ℕ × UniswapV2RouterCall) :=
  throw "Uniswap V2 single asset removal is not supported"

def getSpenderAddress (a : UniswapV2AmmAdapter) (_pool : Address) : Address :=
  a.router

/-- `getPair` is the lookup of the adapter's factory. -/
def isValidPool (a : UniswapV2AmmAdapter) (pairs : Address → UniswapV2Pair)
    (getPair : Address → Address → Address) (pool : Address) : List Address → Bool
  | [tokenA, tokenB] => (pairs pool).factory = some a.factory && getPair tokenA tokenB = pool
  | _ => false

/-! ## What the router takes -/

/-- The amounts of the rule of Uniswap V2: all of the first amount with its quote in the second reserve,
as far as the second amount covers the quote, and the other way round beyond. -/
def usedAmounts (reserves : ℕ × ℕ) (amountADesired amountBDesired : ℕ) : ℕ × ℕ :=
  if amountADesired * reserves.2 / reserves.1 ≤ amountBDesired then
    (amountADesired, amountADesired * reserves.2 / reserves.1)
  else (amountBDesired * reserves.1 / reserves.2, amountBDesired)

/-- The amounts that the router uses lie between the least ones and the desired ones. -/
structure Attainable (reserves : ℕ × ℕ) (p : AddLiquidityParams) : Prop where
  amountAMin_le : p.amountAMin ≤ (usedAmounts reserves p.amountADesired p.amountBDesired).1
  amountBMin_le : p.amountBMin ≤ (usedAmounts reserves p.amountADesired p.amountBDesired).2
  le_amountADesired : (usedAmounts reserves p.amountADesired p.amountBDesired).1 ≤ p.amountADesired
  le_amountBDesired : (usedAmounts reserves p.amountADesired p.amountBDesired).2 ≤ p.amountBDesired

variable {reserves amounts minimums : ℕ × ℕ} {maxTokenA maxTokenB minLiquidity totalSupply : ℕ}

theorem amountMinimums_eq_ok
    (h : amountMinimums totalSupply reserves maxTokenA maxTokenB minLiquidity = .ok minimums) :
    0 < reserves.1 ∧ 0 < reserves.2 ∧ 0 < totalSupply ∧ ∃ liquidity,
      liquidity * reserves.1 ≤ maxTokenA * totalSupply ∧
      liquidity * reserves.2 ≤ maxTokenB * totalSupply ∧
      minimums = (liquidity * reserves.1 / totalSupply, liquidity * reserves.2 / totalSupply) := by
  simp only [amountMinimums, Outcome.bind_eq_ok, SafeMath.mul_eq_ok, SafeMath.div_eq_ok,
    Outcome.require_eq_ok, Outcome.pure_eq_ok] at h
  obtain ⟨_, ⟨-, rfl⟩, _, ⟨hA, rfl⟩, _, ⟨-, rfl⟩, _, ⟨hB, rfl⟩, -, -, _, ⟨-, rfl⟩, _, ⟨hsupply, rfl⟩, _,
    ⟨-, rfl⟩, _, ⟨-, rfl⟩, h⟩ := h
  refine ⟨hA, hB, hsupply, _, ?_, ?_, h.symm⟩
  · exact (Nat.le_div_iff_mul_le hA).mp (min_le_left _ _)
  · exact (Nat.le_div_iff_mul_le hB).mp (min_le_right _ _)

/-- The desired amounts cover what the router uses. -/
theorem usedAmounts_le (reserves : ℕ × ℕ) (amountADesired amountBDesired : ℕ) :
    (usedAmounts reserves amountADesired amountBDesired).1 ≤ amountADesired ∧
      (usedAmounts reserves amountADesired amountBDesired).2 ≤ amountBDesired := by
  unfold usedAmounts
  split
  · rename_i hcovered
    exact ⟨le_rfl, hcovered⟩
  · rename_i hcovered
    exact ⟨Rounding.quote_le_of_lt_quote (not_le.mp hcovered), le_rfl⟩

/-- What a share that both amounts pay for is worth does not exceed what the router uses. -/
theorem worth_le_usedAmounts {liquidity : ℕ} (hA : 0 < reserves.1) (hB : 0 < reserves.2)
    (hsupply : 0 < totalSupply) (hliquidityA : liquidity * reserves.1 ≤ maxTokenA * totalSupply)
    (hliquidityB : liquidity * reserves.2 ≤ maxTokenB * totalSupply) :
    liquidity * reserves.1 / totalSupply ≤ (usedAmounts reserves maxTokenA maxTokenB).1 ∧
      liquidity * reserves.2 / totalSupply ≤ (usedAmounts reserves maxTokenA maxTokenB).2 := by
  unfold usedAmounts
  split
  · exact ⟨Rounding.worth_le hA hsupply hliquidityA,
      Rounding.worth_le_quote hA hsupply hliquidityA⟩
  · exact ⟨Rounding.worth_le_quote hB hsupply hliquidityB,
      Rounding.worth_le hB hsupply hliquidityB⟩

theorem amountMinimums_attainable {p : AddLiquidityParams}
    (h : amountMinimums totalSupply reserves p.amountADesired p.amountBDesired minLiquidity =
      .ok (p.amountAMin, p.amountBMin)) : Attainable reserves p := by
  obtain ⟨hA, hB, hsupply, liquidity, hliquidityA, hliquidityB, heq⟩ := amountMinimums_eq_ok h
  obtain ⟨hminA, hminB⟩ := Prod.mk.inj heq
  obtain ⟨hworthA, hworthB⟩ := worth_le_usedAmounts hA hB hsupply hliquidityA hliquidityB
  obtain ⟨hleA, hleB⟩ := usedAmounts_le reserves p.amountADesired p.amountBDesired
  exact ⟨hminA ▸ hworthA, hminB ▸ hworthB, hleA, hleB⟩

/-- The router on attainable amounts: it takes the amounts of the rule, and what fails is a quote. -/
theorem addLiquidity_of_attainable {quote : ℕ → ℕ → ℕ → Outcome ℕ} {p : AddLiquidityParams}
    (hquote : ∀ amountA reserveA reserveB amountB, quote amountA reserveA reserveB = .ok amountB →
      amountB = amountA * reserveB / reserveA)
    (hreserve : 0 < reserves.1) (hattainable : Attainable reserves p) :
    match UniswapV2Router02.addLiquidity quote reserves p with
    | .ok used => used = usedAmounts reserves p.amountADesired p.amountBDesired
    | .error reason => quote p.amountADesired reserves.1 reserves.2 = .error reason ∨
        quote p.amountBDesired reserves.2 reserves.1 = .error reason := by
  obtain ⟨hminA, hminB, hleA, hleB⟩ := hattainable
  have hnonzero : ¬ (reserves.1 = 0 ∧ reserves.2 = 0) := fun hzero ↦ hreserve.ne' hzero.1
  unfold UniswapV2Router02.addLiquidity
  rw [if_neg hnonzero]
  cases hB : quote p.amountADesired reserves.1 reserves.2 with
  | error reason => exact Or.inl rfl
  | ok amountBOptimal =>
    obtain rfl := hquote _ _ _ _ hB
    rw [Outcome.ok_bind]
    by_cases hcovered : p.amountADesired * reserves.2 / reserves.1 ≤ p.amountBDesired
    · rw [usedAmounts, if_pos hcovered] at *
      rw [if_pos hcovered, require, if_pos hminB]
      rfl
    · rw [usedAmounts, if_neg hcovered] at *
      rw [if_neg hcovered]
      cases hA : quote p.amountBDesired reserves.2 reserves.1 with
      | error reason => exact Or.inr rfl
      | ok amountAOptimal =>
        obtain rfl := hquote _ _ _ _ hA
        rw [Outcome.ok_bind, require, if_pos hleA, Outcome.ok_bind, require, if_pos hminA]
        rfl

theorem getProvideLiquidityCalldata_eq_ok {a : UniswapV2AmmAdapter} {pairs : Address → UniswapV2Pair}
    {timestamp value : ℕ} {setToken pool target : Address} {components : List Address}
    {maxTokensIn : List ℕ} {call : UniswapV2RouterCall}
    (h : a.getProvideLiquidityCalldata pairs timestamp setToken pool components maxTokensIn
      minLiquidity = .ok (target, value, call)) :
    ∃ p : AddLiquidityParams, call = .addLiquidity p ∧
      components[0]? = some p.tokenA ∧ components[1]? = some p.tokenB ∧
      maxTokensIn[0]? = some p.amountADesired ∧ maxTokensIn[1]? = some p.amountBDesired ∧
      amountMinimums (pairs pool).totalSupply (getReserves (pairs pool) p.tokenA) p.amountADesired
        p.amountBDesired minLiquidity = .ok (p.amountAMin, p.amountBMin) := by
  simp only [getProvideLiquidityCalldata, Outcome.bind_eq_ok, element_eq_ok, Outcome.require_eq_ok,
    Outcome.pure_eq_ok, Prod.mk.injEq] at h
  obtain ⟨maxTokenA, hmaxA, -, -, maxTokenB, hmaxB, -, -, tokenA, htokenA, minimums, hminimums, tokenB,
    htokenB, -, -, rfl⟩ := h
  exact ⟨_, rfl, htokenA, htokenB, hmaxA, hmaxB, hminimums⟩

/-- The least amounts of a call that the adapter returns lie below what the router uses, the amounts that
it uses below the desired ones, and the router fails only with a quote. -/
theorem getProvideLiquidityCalldata_attainable {a : UniswapV2AmmAdapter}
    {pairs : Address → UniswapV2Pair} {timestamp value : ℕ} {setToken pool target : Address}
    {components : List Address} {maxTokensIn : List ℕ} {call : UniswapV2RouterCall}
    {quote : ℕ → ℕ → ℕ → Outcome ℕ}
    (hquote : ∀ amountA reserveA reserveB amountB, quote amountA reserveA reserveB = .ok amountB →
      amountB = amountA * reserveB / reserveA)
    (h : a.getProvideLiquidityCalldata pairs timestamp setToken pool components maxTokensIn
      minLiquidity = .ok (target, value, call)) :
    ∃ p : AddLiquidityParams, call = .addLiquidity p ∧
      components[0]? = some p.tokenA ∧ components[1]? = some p.tokenB ∧
      maxTokensIn[0]? = some p.amountADesired ∧ maxTokensIn[1]? = some p.amountBDesired ∧
      Attainable (getReserves (pairs pool) p.tokenA) p ∧
      (∀ used, UniswapV2Router02.addLiquidity quote (getReserves (pairs pool) p.tokenA) p = .ok used →
        used = usedAmounts (getReserves (pairs pool) p.tokenA) p.amountADesired p.amountBDesired) ∧
      ∀ reason,
        UniswapV2Router02.addLiquidity quote (getReserves (pairs pool) p.tokenA) p = .error reason →
        quote p.amountADesired (getReserves (pairs pool) p.tokenA).1
            (getReserves (pairs pool) p.tokenA).2 = .error reason ∨
          quote p.amountBDesired (getReserves (pairs pool) p.tokenA).2
            (getReserves (pairs pool) p.tokenA).1 = .error reason := by
  obtain ⟨p, rfl, htokenA, htokenB, hmaxA, hmaxB, hminimums⟩ := getProvideLiquidityCalldata_eq_ok h
  have hattainable : Attainable (getReserves (pairs pool) p.tokenA) p :=
    amountMinimums_attainable hminimums
  have hrouter := addLiquidity_of_attainable hquote (amountMinimums_eq_ok hminimums).1 hattainable
  refine ⟨p, rfl, htokenA, htokenB, hmaxA, hmaxB, hattainable, ?_, ?_⟩
  · intro used hused
    rwa [hused] at hrouter
  · intro reason hreason
    rwa [hreason] at hrouter

namespace Sample

/-- A pair whose first token is the second component. -/
def pair : UniswapV2Pair := ⟨some 9, 2, 7000, 100, 800, fun _ ↦ 0⟩

def quote (amountA reserveA reserveB : ℕ) : Outcome ℕ := do
  require (0 < amountA) "UniswapV2Library: INSUFFICIENT_AMOUNT"
  require (0 < reserveA ∧ 0 < reserveB) "UniswapV2Library: INSUFFICIENT_LIQUIDITY"
  let product ← SafeMath.mul amountA reserveB
  pure (product / reserveA)

theorem quote_eq {amountA reserveA reserveB amountB : ℕ}
    (h : quote amountA reserveA reserveB = .ok amountB) :
    amountB = amountA * reserveB / reserveA := by
  simp only [quote, Outcome.bind_eq_ok, SafeMath.mul_eq_ok, Outcome.pure_eq_ok] at h
  obtain ⟨-, -, -, -, product, ⟨-, rfl⟩, rfl⟩ := h
  rfl

/-- The second quantity is the scarce one, and the least amount of the first token is what the router
uses of it. -/
theorem scarce_attainable :
    Attainable (100, 7000) ⟨1, 2, 10, 650, 9, 647, 3, 60⟩ ∧
      ∀ used, UniswapV2Router02.addLiquidity quote (100, 7000) ⟨1, 2, 10, 650, 9, 647, 3, 60⟩ =
        .ok used → used = (9, 650) := by
  have h : (UniswapV2AmmAdapter.mk 8 9).getProvideLiquidityCalldata (fun _ ↦ pair) 60 3 5 [1, 2]
      [10, 650] 70 = .ok (8, 0, .addLiquidity ⟨1, 2, 10, 650, 9, 647, 3, 60⟩) := by
    decide
  obtain ⟨p, hcall, -, -, -, -, hattainable, hused, -⟩ :=
    getProvideLiquidityCalldata_attainable (fun _ _ _ _ ↦ quote_eq) h
  cases hcall
  exact ⟨hattainable, hused⟩

end Sample

end UniswapV2AmmAdapter

end SetProtocol
