import SetProtocol.Modules.BasicIssuanceModule
import SetProtocol.Core.Accounts
import SetProtocol.System.Protocol

/-!
# Issuing and redeeming against one token

`ExchangeIssuanceZeroEx` buys the components of a Set from a swap target with the caller's tokens, issues
the Set and returns what is left, or redeems a Set and sells the components.  The quotes are calldata for the
swap target that the caller supplies, and what they do is measured by the balances of the contract.
-/

namespace SetProtocol

open ModuleBase

/-- The issuance module that a caller names. -/
inductive IssuanceContract where
  | basic (module : BasicIssuanceModule)
  | debt (module : DebtIssuanceModule)

namespace IssuanceContract

def address : IssuanceContract → Address
  | .basic m => m.address
  | .debt m => m.address

def issue (c : IssuanceContract) (P : Protocol) (env : Env) (quantity : ℕ) (recipient : Address) :
    Outcome Protocol :=
  match c with
  | .basic m => P.onWorld (m.issue P.world env quantity recipient)
  | .debt m => m.issue P env quantity recipient

def redeem (c : IssuanceContract) (P : Protocol) (env : Env) (quantity : ℕ) (recipient : Address) :
    Outcome Protocol :=
  match c with
  | .basic m => P.onWorld (m.redeem P.world env quantity recipient)
  | .debt m => m.redeem P env quantity recipient

/-- Only a debt issuance module has `getRequiredComponentIssuanceUnits`, and it has nothing else.  The
debt is not returned. -/
def getRequiredIssuanceComponents (c : IssuanceContract) (isDebtIssuance : Bool) (w : World)
    (amountSetToken : ℕ) : Outcome (List (Address × ℕ)) :=
  match c, isDebtIssuance with
  | .basic m, false => do
    let (components, positions) ← m.getRequiredComponentUnitsForIssue w amountSetToken
    pure (components.zip positions)
  | .debt m, true => do
    let required ← m.getRequiredComponentIssuanceUnits w amountSetToken
    pure (required.map fun entry ↦ (entry.1, entry.2.1))
  | _, _ => throw "function selector was not recognized"

/-- The fees of a redemption are not returned. -/
def getRequiredRedemptionComponents (c : IssuanceContract) (isDebtIssuance : Bool) (w : World)
    (amountSetToken : ℕ) : Outcome (List (Address × ℕ)) :=
  match c, isDebtIssuance with
  | .basic m, false => do
    let (components, positions) ← m.getRequiredComponentUnitsForRedeem w amountSetToken
    pure (components.zip (positions.map Prod.fst))
  | .debt m, true => do
    let required ← m.getRequiredComponentRedemptionUnits w amountSetToken
    pure (required.map fun entry ↦ (entry.1, entry.2.1))
  | _, _ => throw "function selector was not recognized"

end IssuanceContract

structure ExchangeIssuanceZeroEx where
  address : Address
  owner : Address
  weth : Address
  swapTarget : Address
  /-- What the swap target does when it is called with a quote. -/
  swap : List UInt8 → Chain → Outcome Chain

namespace ExchangeIssuanceZeroEx

/-- Stands for ether among the addresses of tokens. -/
def ethAddress : Address := 0xEeeeeEeeeEeEeeEeEeEeeEEEeeeeEeeeeeeeEEeE

def isValidModule (w : World) (issuanceModule : Address) : Outcome Unit :=
  require (w.controller.isModule issuanceModule = true) "ExchangeIssuance: INVALID ISSUANCE MODULE"

/-- One pass of the loop of `withdrawTokens`.  Ether is not part of the state. -/
def withdrawToken (x : ExchangeIssuanceZeroEx) (recipient : Address) (w : World) (token : Address) :
    Outcome World :=
  if token = ethAddress then
    pure w
  else
    w.transfer token x.address recipient (w.balanceOf token x.address)

def withdrawTokens (x : ExchangeIssuanceZeroEx) (w : World) (env : Env) (tokens : List Address)
    (recipient : Address) : Outcome World := do
  require (env.sender = x.owner) "Ownable: caller is not the owner"
  tokens.foldlM (x.withdrawToken recipient) w

/-- `safeIncreaseAllowance` by what is missing to the largest allowance. -/
def safeApprove (x : ExchangeIssuanceZeroEx) (w : World) (token spender : Address)
    (requiredAllowance : ℕ) : Outcome World :=
  let allowance := (w.erc20 token).allowances x.address spender
  if allowance < requiredAllowance then do
    let amount ← SafeMath.add allowance (maxUint256 - allowance)
    w.approve token x.address spender amount
  else
    pure w

def approveToken (x : ExchangeIssuanceZeroEx) (spender : Address) (w : World) (token : Address) :
    Outcome World := do
  isValidModule w spender
  x.safeApprove w token spender maxUint256

def approveTokens (x : ExchangeIssuanceZeroEx) (w : World) (tokens : List Address)
    (spender : Address) : Outcome World :=
  tokens.foldlM (x.approveToken spender) w

def approveSetToken (x : ExchangeIssuanceZeroEx) (w : World) (issuanceModule : Address) :
    Outcome World :=
  w.setToken.components.foldlM (x.approveToken issuanceModule) w

def fillQuote (x : ExchangeIssuanceZeroEx) (w : World) (quote : List UInt8) : Outcome World := do
  require (0 < quote.length) "ExchangeIssuance: _quote not set"
  let chain ← x.swap quote w.chain
  pure { w with chain := chain }

/-- Call the swap target with the quote at a position. -/
def fillQuoteAt (x : ExchangeIssuanceZeroEx) (w : World) (quotes : List (List UInt8)) (i : ℕ) :
    Outcome World :=
  match quotes[i]? with
  | none => throw "invalid opcode"
  | some quote => x.fillQuote w quote

/-- One pass of the loop of `_buyComponentsForInputToken`, over a component with its units and its
position.  The state has the total of the input token that is not traded. -/
def buyComponent (x : ExchangeIssuanceZeroEx) (quotes : List (List UInt8)) (inputToken : Address)
    (state : World × ℕ) (entry : (Address × ℕ) × ℕ) : Outcome (World × ℕ) := do
  let (w, totalInputTokenSold) := state
  let ((component, units), i) := entry
  if component = inputToken then do
    let totalInputTokenSold ← SafeMath.add totalInputTokenSold units
    pure (w, totalInputTokenSold)
  else do
    let componentBalanceBefore := w.balanceOf component x.address
    let w ← x.fillQuoteAt w quotes i
    let componentAmountBought ←
      SafeMath.sub (w.balanceOf component x.address) componentBalanceBefore
    require (units ≤ componentAmountBought) "ExchangeIssuance: UNDERBOUGHT COMPONENT"
    pure (w, totalInputTokenSold)

def buyComponentsForInputToken (x : ExchangeIssuanceZeroEx) (w : World) (amountSetToken : ℕ)
    (quotes : List (List UInt8)) (inputToken : Address) (issuance : IssuanceContract)
    (isDebtIssuance : Bool) : Outcome (World × ℕ) := do
  let required ← issuance.getRequiredIssuanceComponents isDebtIssuance w amountSetToken
  let inputTokenBalanceBefore := w.balanceOf inputToken x.address
  let (w, totalInputTokenSold) ← required.zipIdx.foldlM (x.buyComponent quotes inputToken) (w, 0)
  let traded ← SafeMath.sub inputTokenBalanceBefore (w.balanceOf inputToken x.address)
  let totalInputTokenSold ← SafeMath.add totalInputTokenSold traded
  pure (w, totalInputTokenSold)

/-- One pass of the loop of `_sellComponentsForOutputToken`, over a swap and its position. -/
def sellComponent (x : ExchangeIssuanceZeroEx) (required : List (Address × ℕ)) (outputToken : Address)
    (state : World × ℕ) (entry : List UInt8 × ℕ) : Outcome (World × ℕ) := do
  let (w, totalOutputTokenBought) := state
  match required[entry.2]? with
  | none => throw "invalid opcode"
  | some (component, maxAmountSell) =>
    if component = outputToken then do
      let totalOutputTokenBought ← SafeMath.add totalOutputTokenBought maxAmountSell
      pure (w, totalOutputTokenBought)
    else do
      let w ← x.safeApprove w component x.swapTarget maxAmountSell
      let componentBalanceBefore := w.balanceOf component x.address
      let w ← x.fillQuote w entry.1
      let componentAmountSold ←
        SafeMath.sub componentBalanceBefore (w.balanceOf component x.address)
      require (componentAmountSold ≤ maxAmountSell) "ExchangeIssuance: OVERSOLD COMPONENT"
      pure (w, totalOutputTokenBought)

def sellComponentsForOutputToken (x : ExchangeIssuanceZeroEx) (w : World) (amountSetToken : ℕ)
    (swaps : List (List UInt8)) (outputToken : Address) (issuance : IssuanceContract)
    (isDebtIssuance : Bool) : Outcome (World × ℕ) := do
  let required ← issuance.getRequiredRedemptionComponents isDebtIssuance w amountSetToken
  let outputTokenBalanceBefore := w.balanceOf outputToken x.address
  let (w, totalOutputTokenBought) ←
    swaps.zipIdx.foldlM (x.sellComponent required outputToken) (w, 0)
  let traded ← SafeMath.sub (w.balanceOf outputToken x.address) outputTokenBalanceBefore
  let totalOutputTokenBought ← SafeMath.add totalOutputTokenBought traded
  pure (w, totalOutputTokenBought)

/-- The contract is the sender of its calls into other contracts. -/
def ownCalls (x : ExchangeIssuanceZeroEx) (env : Env) : Env :=
  { env with sender := x.address }

def redeemExactSet (x : ExchangeIssuanceZeroEx) (P : Protocol) (env : Env) (amount : ℕ)
    (issuance : IssuanceContract) : Outcome Protocol := do
  let w ← P.world.transferFrom P.world.setToken.address x.address env.sender x.address amount
  issuance.redeem { P with world := w } (x.ownCalls env) amount x.address

def returnExcessInputToken (x : ExchangeIssuanceZeroEx) (w : World) (env : Env) (inputToken : Address)
    (receivedAmount spentAmount : ℕ) : Outcome World := do
  let amountTokenReturn ← SafeMath.sub receivedAmount spentAmount
  if 0 < amountTokenReturn then
    w.transfer inputToken x.address env.sender amountTokenReturn
  else
    pure w

def issueExactSetFromToken (x : ExchangeIssuanceZeroEx) (P : Protocol) (env : Env)
    (inputToken : Address) (amountSetToken maxAmountInputToken : ℕ)
    (componentQuotes : List (List UInt8)) (issuance : IssuanceContract) (isDebtIssuance : Bool) :
    Outcome (Protocol × ℕ) := do
  isValidModule P.world issuance.address
  let w ← P.world.transferFrom inputToken x.address env.sender x.address maxAmountInputToken
  let w ← x.safeApprove w inputToken x.swapTarget maxAmountInputToken
  let (w, totalInputTokenSold) ← x.buyComponentsForInputToken w amountSetToken componentQuotes
    inputToken issuance isDebtIssuance
  require (totalInputTokenSold ≤ maxAmountInputToken) "ExchangeIssuance: OVERSPENT TOKEN"
  let P ← issuance.issue { P with world := w } (x.ownCalls env) amountSetToken env.sender
  let P ← P.onWorld (x.returnExcessInputToken P.world env inputToken maxAmountInputToken
    totalInputTokenSold)
  pure (P, totalInputTokenSold)

/-- `deposit` of WETH. -/
def depositWETH (x : ExchangeIssuanceZeroEx) (w : World) (amount : ℕ) : Outcome World := do
  let state ← (w.erc20 x.weth).mint x.address amount
  pure (w.setErc20 x.weth state)

/-- `withdraw` of WETH. -/
def withdrawWETH (x : ExchangeIssuanceZeroEx) (w : World) (amount : ℕ) : Outcome World := do
  let state ← (w.erc20 x.weth).burn x.address amount
  pure (w.setErc20 x.weth state)

/-- The result has the ether that is sent back to the caller. -/
def issueExactSetFromETH (x : ExchangeIssuanceZeroEx) (P : Protocol) (env : Env) (value : ℕ)
    (amountSetToken : ℕ) (componentQuotes : List (List UInt8)) (issuance : IssuanceContract)
    (isDebtIssuance : Bool) : Outcome (Protocol × ℕ) := do
  isValidModule P.world issuance.address
  require (0 < value) "ExchangeIssuance: NO ETH SENT"
  let w ← x.depositWETH P.world value
  let w ← x.safeApprove w x.weth x.swapTarget value
  let (w, totalEthSold) ← x.buyComponentsForInputToken w amountSetToken componentQuotes x.weth
    issuance isDebtIssuance
  require (totalEthSold ≤ value) "ExchangeIssuance: OVERSPENT ETH"
  let P ← issuance.issue { P with world := w } (x.ownCalls env) amountSetToken env.sender
  let amountEthReturn ← SafeMath.sub value totalEthSold
  if 0 < amountEthReturn then do
    let w ← x.withdrawWETH P.world amountEthReturn
    pure ({ P with world := w }, amountEthReturn)
  else
    pure (P, amountEthReturn)

def redeemExactSetForToken (x : ExchangeIssuanceZeroEx) (P : Protocol) (env : Env)
    (outputToken : Address) (amountSetToken minOutputReceive : ℕ)
    (componentQuotes : List (List UInt8)) (issuance : IssuanceContract) (isDebtIssuance : Bool) :
    Outcome (Protocol × ℕ) := do
  isValidModule P.world issuance.address
  let P ← x.redeemExactSet P env amountSetToken issuance
  let (w, outputAmount) ← x.sellComponentsForOutputToken P.world amountSetToken componentQuotes
    outputToken issuance isDebtIssuance
  require (minOutputReceive ≤ outputAmount) "ExchangeIssuance: INSUFFICIENT OUTPUT AMOUNT"
  let w ← w.transfer outputToken x.address env.sender outputAmount
  pure ({ P with world := w }, outputAmount)

/-- The result has the ether that is sent to the caller. -/
def redeemExactSetForETH (x : ExchangeIssuanceZeroEx) (P : Protocol) (env : Env)
    (amountSetToken minEthReceive : ℕ) (componentQuotes : List (List UInt8))
    (issuance : IssuanceContract) (isDebtIssuance : Bool) : Outcome (Protocol × ℕ) := do
  isValidModule P.world issuance.address
  let P ← x.redeemExactSet P env amountSetToken issuance
  let (w, ethAmount) ← x.sellComponentsForOutputToken P.world amountSetToken componentQuotes x.weth
    issuance isDebtIssuance
  require (minEthReceive ≤ ethAmount) "ExchangeIssuance: INSUFFICIENT WETH RECEIVED"
  let w ← x.withdrawWETH w ethAmount
  pure ({ P with world := w }, ethAmount)

end ExchangeIssuanceZeroEx

end SetProtocol
