import SetProtocol.Core.ERC20
import SetProtocol.Integration.UniswapV2AmmAdapter
import SetProtocol.Product.AMMSplitter

/-!
# Trades on Uniswap V2

A factory with its pairs and the router that trades along a path.  Uniswap and Sushiswap are two
deployments of this code.  The pairs move tokens, and the reserves that they store are the balances at the
end of their last trade.  A trade may call its recipient before it is paid; the pair is locked meanwhile.
-/

namespace SetProtocol

open UniswapV3ExchangeAdapterV2 (element element_eq_ok)

/-- The storage of a pair.  The accumulated prices are left out: nothing in a trade reads them. -/
structure UniswapV2PairContract where
  token0 : Address
  token1 : Address
  reserve0 : ℕ
  reserve1 : ℕ
  /-- Not in the middle of one of its own functions. -/
  unlocked : Bool

/-- The tokens and the pairs. -/
structure Market where
  erc20 : Address → ERC20
  /-- `none` where there is no pair. -/
  pairs : Address → Option UniswapV2PairContract

/-- The largest value of `uint112`. -/
def maxUint112 : ℕ := 2 ^ 112 - 1

namespace Market

variable (M : Market)

def balanceOf (token account : Address) : ℕ :=
  (M.erc20 token).balances account

def setErc20 (token : Address) (state : ERC20) : Market :=
  { M with erc20 := Function.update M.erc20 token state }

def setPair (pair : Address) (p : UniswapV2PairContract) : Market :=
  { M with pairs := Function.update M.pairs pair (some p) }

def transfer (token sender recipient : Address) (amount : ℕ) : Outcome Market := do
  let state ← (M.erc20 token).transfer sender recipient amount
  pure (M.setErc20 token state)

/-- `transferFrom` called by `spender`. -/
def transferFrom (token spender sender recipient : Address) (amount : ℕ) : Outcome Market := do
  let state ← (M.erc20 token).transferFrom spender sender recipient amount
  pure (M.setErc20 token state)

def approve (token owner spender : Address) (amount : ℕ) : Outcome Market := do
  let state ← (M.erc20 token).approve owner spender amount
  pure (M.setErc20 token state)

@[simp] theorem setPair_self (pair : Address) (p : UniswapV2PairContract) :
    (M.setPair pair p).pairs pair = some p := by
  simp [setPair]

theorem setPair_of_ne {pair a : Address} (ha : a ≠ pair) (p : UniswapV2PairContract) :
    (M.setPair pair p).pairs a = M.pairs a := by
  simp [setPair, ha]

@[simp] theorem setPair_setPair (pair : Address) (p q : UniswapV2PairContract) :
    (M.setPair pair p).setPair pair q = M.setPair pair q := by
  simp [setPair]

end Market

/-! ## The pair -/

namespace UniswapV2PairContract

/-- The pair at an address; calls of an address without code fail. -/
def load (M : Market) (pair : Address) : Outcome UniswapV2PairContract :=
  match M.pairs pair with
  | none => throw "function call to a non-contract account"
  | some p => pure p

def safeTransfer (M : Market) (token pair recipient : Address) (amount : ℕ) : Outcome Market :=
  match M.transfer token pair recipient amount with
  | .ok M => pure M
  | .error _ => throw "UniswapV2: TRANSFER_FAILED"

/-- The optimistic transfers of `swap` are made for positive amounts only. -/
def sendOut (M : Market) (token pair recipient : Address) (amountOut : ℕ) : Outcome Market :=
  if 0 < amountOut then safeTransfer M token pair recipient amountOut else pure M

def update (M : Market) (pair : Address) (balance0 balance1 : ℕ) : Outcome Market := do
  require (balance0 ≤ maxUint112 ∧ balance1 ≤ maxUint112) "UniswapV2: OVERFLOW"
  let p ← load M pair
  pure (M.setPair pair { p with reserve0 := balance0, reserve1 := balance1 })

/-- The modifier `lock`.  The body is also given what the pair stored when it was called. -/
def lock (M : Market) (pair : Address) (body : UniswapV2PairContract → Market → Outcome Market) :
    Outcome Market := do
  let p ← load M pair
  require (p.unlocked = true) "UniswapV2: LOCKED"
  let M ← body p (M.setPair pair { p with unlocked := false })
  let p ← load M pair
  pure (M.setPair pair { p with unlocked := true })

/-- What came in beyond the reserve that is left. -/
def amountIn (balance reserve amountOut : ℕ) : ℕ :=
  if reserve - amountOut < balance then balance - (reserve - amountOut) else 0

/-- The balance in thousandths, less the fee of three thousandths of what came in. -/
def adjusted (balance amountIn : ℕ) : Outcome ℕ := do
  let thousandths ← SafeMath.mul balance 1000
  let fee ← SafeMath.mul amountIn 3
  SafeMath.sub thousandths fee

/-- The recipient is called if there is data; what it then does is its own code. -/
def callRecipient (uniswapV2Call : Option (Market → Outcome Market)) (M : Market) : Outcome Market :=
  match uniswapV2Call with
  | none => pure M
  | some call => call M

/-- `swap`, with what the recipient does when it is called back, or `none` for a trade without data. -/
def swap (M : Market) (pair : Address) (amount0Out amount1Out : ℕ) (recipient : Address)
    (uniswapV2Call : Option (Market → Outcome Market)) : Outcome Market :=
  lock M pair fun p M ↦ do
    require (0 < amount0Out ∨ 0 < amount1Out) "UniswapV2: INSUFFICIENT_OUTPUT_AMOUNT"
    require (amount0Out < p.reserve0 ∧ amount1Out < p.reserve1) "UniswapV2: INSUFFICIENT_LIQUIDITY"
    require (recipient ≠ p.token0 ∧ recipient ≠ p.token1) "UniswapV2: INVALID_TO"
    let M ← sendOut M p.token0 pair recipient amount0Out
    let M ← sendOut M p.token1 pair recipient amount1Out
    let M ← callRecipient uniswapV2Call M
    let balance0 := M.balanceOf p.token0 pair
    let balance1 := M.balanceOf p.token1 pair
    let amount0In := amountIn balance0 p.reserve0 amount0Out
    let amount1In := amountIn balance1 p.reserve1 amount1Out
    require (0 < amount0In ∨ 0 < amount1In) "UniswapV2: INSUFFICIENT_INPUT_AMOUNT"
    let balance0Adjusted ← adjusted balance0 amount0In
    let balance1Adjusted ← adjusted balance1 amount1In
    let product ← SafeMath.mul balance0Adjusted balance1Adjusted
    let reserves ← SafeMath.mul p.reserve0 p.reserve1
    let reservesAdjusted ← SafeMath.mul reserves (1000 ^ 2)
    require (reservesAdjusted ≤ product) "UniswapV2: K"
    update M pair balance0 balance1

/-- `skim`: send what exceeds the reserves. -/
def skim (M : Market) (pair recipient : Address) : Outcome Market :=
  lock M pair fun p M ↦ do
    let excess0 ← SafeMath.sub (M.balanceOf p.token0 pair) p.reserve0
    let M ← safeTransfer M p.token0 pair recipient excess0
    let excess1 ← SafeMath.sub (M.balanceOf p.token1 pair) p.reserve1
    safeTransfer M p.token1 pair recipient excess1

/-- `sync`: take the balances as reserves. -/
def sync (M : Market) (pair : Address) : Outcome Market :=
  lock M pair fun p M ↦ update M pair (M.balanceOf p.token0 pair) (M.balanceOf p.token1 pair)

end UniswapV2PairContract

/-! ## The router -/

/-- A deployment of factory and router.  The quotes of the library are given the reserves that they read. -/
structure UniswapV2Exchange where
  router : Address
  /-- The address of the pair of two sorted tokens. -/
  create2 : Address → Address → Address
  getAmountsOut : (reserves : Address → Address → Outcome (ℕ × ℕ)) → (amountIn : ℕ) →
    (path : List Address) → Outcome (List ℕ)
  getAmountsIn : (reserves : Address → Address → Outcome (ℕ × ℕ)) → (amountOut : ℕ) →
    (path : List Address) → Outcome (List ℕ)

namespace UniswapV2Exchange

variable (x : UniswapV2Exchange)

/-- `UniswapV2Library.pairFor`. -/
def pairFor (tokenA tokenB : Address) : Outcome Address := do
  let tokens ← UniswapV2Library.sortTokens tokenA tokenB
  pure (x.create2 tokens.1 tokens.2)

/-- `UniswapV2Library.getReserves`. -/
def getReserves (M : Market) (tokenA tokenB : Address) : Outcome (ℕ × ℕ) := do
  let tokens ← UniswapV2Library.sortTokens tokenA tokenB
  let p ← UniswapV2PairContract.load M (x.create2 tokens.1 tokens.2)
  pure (if tokenA = tokens.1 then (p.reserve0, p.reserve1) else (p.reserve1, p.reserve0))

/-- The mapping `getPair` has the pairs that were created, for both orders of their tokens. -/
def factory (M : Market) : UniswapV2Factory where
  getPair tokenA tokenB :=
    match x.pairFor tokenA tokenB with
    | .error _ => 0
    | .ok pair => if (M.pairs pair).isSome then pair else 0

/-- The last pair pays the recipient, every other one the next pair. -/
def payee (path : List Address) (recipient output : Address) (i : ℕ) : Outcome Address :=
  if i < path.length - 2 then do
    let next ← element path (i + 2)
    x.pairFor output next
  else
    pure recipient

/-- One pass of the loop of `_swap`, which trades without data. -/
def swapHop (amounts : List ℕ) (path : List Address) (recipient : Address) (M : Market) (i : ℕ) :
    Outcome Market := do
  let input ← element path i
  let output ← element path (i + 1)
  let tokens ← UniswapV2Library.sortTokens input output
  let amountOut ← element amounts (i + 1)
  let amountsOut := if input = tokens.1 then (0, amountOut) else (amountOut, 0)
  let payee ← x.payee path recipient output i
  let pair ← x.pairFor input output
  UniswapV2PairContract.swap M pair amountsOut.1 amountsOut.2 payee none

/-- `_swap`. -/
def swapAlong (M : Market) (amounts : List ℕ) (path : List Address) (recipient : Address) :
    Outcome Market :=
  (List.range (path.length - 1)).foldlM (x.swapHop amounts path recipient) M

/-- Send the input to the first pair and trade, for amounts that were computed before. -/
def payAndSwap (M : Market) (sender : Address) (amounts : List ℕ) (path : List Address)
    (recipient : Address) : Outcome Market := do
  let input ← element path 0
  let output ← element path 1
  let pair ← x.pairFor input output
  let amount ← element amounts 0
  let M ← M.transferFrom input x.router sender pair amount
  x.swapAlong M amounts path recipient

def ensure (timestamp deadline : ℕ) : Outcome Unit :=
  require (timestamp ≤ deadline) "UniswapV2Router: EXPIRED"

def swapExactTokensForTokens (M : Market) (sender : Address) (timestamp amountIn amountOutMin : ℕ)
    (path : List Address) (recipient : Address) (deadline : ℕ) : Outcome (Market × List ℕ) := do
  ensure timestamp deadline
  let amounts ← x.getAmountsOut (x.getReserves M) amountIn path
  let last ← element amounts (amounts.length - 1)
  require (amountOutMin ≤ last) "UniswapV2Router: INSUFFICIENT_OUTPUT_AMOUNT"
  let M ← x.payAndSwap M sender amounts path recipient
  pure (M, amounts)

def swapTokensForExactTokens (M : Market) (sender : Address) (timestamp amountOut amountInMax : ℕ)
    (path : List Address) (recipient : Address) (deadline : ℕ) : Outcome (Market × List ℕ) := do
  ensure timestamp deadline
  let amounts ← x.getAmountsIn (x.getReserves M) amountOut path
  let first ← element amounts 0
  require (first ≤ amountInMax) "UniswapV2Router: EXCESSIVE_INPUT_AMOUNT"
  let M ← x.payAndSwap M sender amounts path recipient
  pure (M, amounts)

end UniswapV2Exchange

end SetProtocol
