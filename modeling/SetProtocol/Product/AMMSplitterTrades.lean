import SetProtocol.Integration.UniswapV2Exchange

/-!
# The trades of the splitter

`AMMSplitter` takes the input from the caller, splits it and trades on both exchanges in turn, which pay the
recipient directly.
-/

namespace SetProtocol

open UniswapV3ExchangeAdapterV2 (element)

/-- The deployed splitter with the code of both exchanges. -/
structure AMMSplitterContract where
  address : Address
  uni : UniswapV2Exchange
  sushi : UniswapV2Exchange

namespace AMMSplitterContract

variable (x : AMMSplitterContract)

/-- What the splitter sees of the exchanges. -/
def quoting (M : Market) : AMMSplitter where
  uniRouter := ⟨x.uni.getAmountsOut (x.uni.getReserves M), x.uni.getAmountsIn (x.uni.getReserves M)⟩
  sushiRouter :=
    ⟨x.sushi.getAmountsOut (x.sushi.getReserves M), x.sushi.getAmountsIn (x.sushi.getReserves M)⟩
  uniFactory := x.uni.factory M
  sushiFactory := x.sushi.factory M

def approveIfNeeded (M : Market) (token spender : Address) (amount : ℕ) : Outcome Market :=
  if (M.erc20 token).allowances x.address spender < amount then
    M.approve token x.address spender maxUint256
  else
    pure M

def checkApprovals (M : Market) (uniAmount sushiAmount : ℕ) (token : Address) : Outcome Market := do
  let M ← x.approveIfNeeded M token x.uni.router uniAmount
  x.approveIfNeeded M token x.sushi.router sushiAmount

def executeTrade (exchange : UniswapV2Exchange) (M : Market) (timestamp size : ℕ) (path : List Address)
    (recipient : Address) (deadline : ℕ) (isExactInput : Bool) : Outcome (Market × ℕ) :=
  if size = 0 then
    pure (M, 0)
  else if isExactInput then do
    let (M, amounts) ←
      exchange.swapExactTokensForTokens M x.address timestamp size 0 path recipient deadline
    let amount ← element amounts (path.length - 1)
    pure (M, amount)
  else do
    let (M, amounts) ←
      exchange.swapTokensForExactTokens M x.address timestamp size maxUint256 path recipient deadline
    let amount ← element amounts 0
    pure (M, amount)

def swapExactTokensForTokens (M : Market) (sender : Address) (timestamp amountIn amountOutMin : ℕ)
    (path : List Address) (recipient : Address) (deadline : ℕ) : Outcome (Market × ℕ) := do
  AMMSplitter.checkPath path
  let inputToken ← element path 0
  let M ← M.transferFrom inputToken x.address sender x.address amountIn
  let tradeInfo ← (x.quoting M).getTradeSizes M.balanceOf path amountIn
  let M ← x.checkApprovals M tradeInfo.uniSize tradeInfo.sushiSize inputToken
  let (M, uniOutput) ←
    x.executeTrade x.uni M timestamp tradeInfo.uniSize path recipient deadline true
  let (M, sushiOutput) ←
    x.executeTrade x.sushi M timestamp tradeInfo.sushiSize path recipient deadline true
  let totalOutput ← SafeMath.add uniOutput sushiOutput
  require (amountOutMin ≤ totalOutput) "AMMSplitter: INSUFFICIENT_OUTPUT_AMOUNT"
  pure (M, totalOutput)

def swapTokensForExactTokens (M : Market) (sender : Address) (timestamp amountOut amountInMax : ℕ)
    (path : List Address) (recipient : Address) (deadline : ℕ) : Outcome (Market × ℕ) := do
  AMMSplitter.checkPath path
  let tradeInfo ← (x.quoting M).getTradeSizes M.balanceOf path amountOut
  let uniAmounts ←
    AMMSplitter.getTradeInputOrOutput (x.quoting M).uniRouter tradeInfo.uniSize path false
  let expectedUniInput ← element uniAmounts 0
  let sushiAmounts ←
    AMMSplitter.getTradeInputOrOutput (x.quoting M).sushiRouter tradeInfo.sushiSize path false
  let expectedSushiInput ← element sushiAmounts 0
  let totalInput ← SafeMath.add expectedUniInput expectedSushiInput
  require (totalInput ≤ amountInMax) "AMMSplitter: INSUFFICIENT_INPUT_AMOUNT"
  let inputToken ← element path 0
  let M ← M.transferFrom inputToken x.address sender x.address totalInput
  let M ← x.checkApprovals M expectedUniInput expectedSushiInput inputToken
  let (M, _) ← x.executeTrade x.uni M timestamp tradeInfo.uniSize path recipient deadline false
  let (M, _) ← x.executeTrade x.sushi M timestamp tradeInfo.sushiSize path recipient deadline false
  pure (M, totalInput)

end AMMSplitterContract

end SetProtocol
