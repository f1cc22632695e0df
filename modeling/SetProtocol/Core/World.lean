import SetProtocol.Core.SetTokenLemmas

/-!
# One Set in its environment

The state that the modules of one Set read and write: the Controller, the SetToken, the contracts
outside the protocol and the log of calls that the SetToken was made to execute.  A token is looked
up by its address, so a module that is handed the address of the Set itself moves Set balances.

External contracts are not part of the repository.  A call into one of them is a message, and the
environment of a transaction says what the message does to the contracts outside the protocol.
Standard `approve` and `transfer` messages are executed on the token they are sent to.
-/

namespace SetProtocol

/-- A trade on the Perp exchange: of `amount` base tokens, which are the exact input of a sale or the
exact output of a purchase. -/
structure PerpTrade where
  baseToken : Address
  isBaseToQuote : Bool
  isExactInput : Bool
  amount : ℕ
deriving DecidableEq

/-- The messages that modules make the SetToken send. -/
inductive CallData where
  | approve (spender : Address) (amount : ℕ)
  | transfer (recipient : Address) (amount : ℕ)
  /-- Encoded by an adapter. -/
  | raw (data : List UInt8)
  /-- `deposit` of WETH; the amount is the value of the call. -/
  | wrapWETH
  | unwrapWETH (amount : ℕ)
  /-- The functions of the Aave lending pool. -/
  | aaveDeposit (asset : Address) (amount : ℕ)
  | aaveWithdraw (asset : Address) (amount : ℕ)
  | aaveBorrow (asset : Address) (amount rateMode : ℕ)
  | aaveRepay (asset : Address) (amount rateMode : ℕ)
  | setUserUseReserveAsCollateral (asset : Address) (useAsCollateral : Bool)
  /-- The functions of the Compound Comptroller. -/
  | enterMarkets (cToken : Address)
  | exitMarket (cToken : Address)
  /-- The functions of a cToken, and those of cEther, which take the amount as the value of the
  call. -/
  | mintCEther
  | mintCToken (amount : ℕ)
  | redeemUnderlying (amount : ℕ)
  | repayBorrowCEther
  | repayBorrowCToken (amount : ℕ)
  | compoundBorrow (amount : ℕ)
  /-- The functions of the Perp vault. -/
  | vaultDeposit (asset : Address) (amount : ℕ)
  | vaultWithdraw (asset : Address) (amount : ℕ)
  /-- `openPosition` of the Perp clearing house. -/
  | openPosition (trade : PerpTrade) (oppositeAmountBound : ℕ)
  /-- `swap` of the Perp quoter. -/
  | swap (trade : PerpTrade)
deriving DecidableEq

/-- A call executed by the SetToken. -/
structure Invocation where
  target : Address
  value : ℕ
  callData : CallData
deriving DecidableEq

/-- A transfer between two accounts, by `transfer` or `transferFrom` of a token. -/
structure Transfer where
  token : Address
  sender : Address
  recipient : Address
  amount : ℕ
deriving DecidableEq

/-- The transfers that a call of the SetToken amounts to. -/
def Invocation.transfers (invocation : Invocation) (setToken : Address) : List Transfer :=
  match invocation.callData with
  | .transfer recipient amount => [⟨invocation.target, setToken, recipient, amount⟩]
  | _ => []

/-- The SetToken's account at Perp. -/
structure PerpAccount where
  /-- Balance of the vault, in the decimals of the collateral token. -/
  vaultBalance : ℤ
  owedRealizedPnl : ℤ
  /-- The base tokens of the markets, and the funding that the account owes in each of them. -/
  markets : List Address
  pendingFunding : Address → ℤ
  accountValue : ℤ
  base : Address → ℤ
  quote : Address → ℤ

namespace PerpAccount

/-- An account that was never used. -/
def empty : PerpAccount := ⟨0, 0, [], fun _ ↦ 0, 0, fun _ ↦ 0, fun _ ↦ 0⟩

/-- Funding owed by the account in all markets together. -/
def pendingFundingPayment (account : PerpAccount) : ℤ :=
  (account.markets.map account.pendingFunding).sum

end PerpAccount

/-- The contracts outside the protocol, as far as they concern the Set. -/
structure Chain where
  tokens : Address → ERC20
  /-- Whether the SetToken uses an asset as collateral on Aave. -/
  usageAsCollateral : Address → Bool := fun _ ↦ false
  /-- The stored borrow balance of the SetToken in a Compound market. -/
  borrowBalance : Address → ℕ := fun _ ↦ 0
  perp : PerpAccount := .empty

/-- An adapter that encodes trades for `TradeModule` and the leverage modules.  The calldata is the
target, the value and the data of the call. -/
structure ExchangeAdapter where
  getSpender : Address
  getTradeCalldata : (sendToken receiveToken recipient : Address) →
    (sendQuantity minReceiveQuantity : ℕ) → (data : List UInt8) →
    Outcome (Address × ℕ × List UInt8)

/-- An adapter that encodes trades for `GeneralIndexModule`. -/
structure IndexExchangeAdapter where
  getSpender : Address
  getTradeCalldata : (sendToken receiveToken recipient : Address) → (isSendTokenFixed : Bool) →
    (sendQuantity floatingQuantityLimit : ℕ) → (data : List UInt8) →
    Outcome (Address × ℕ × List UInt8)

/-- An adapter that encodes calls of staking contracts. -/
structure StakingAdapter where
  getSpenderAddress : Address → Address
  getStakeCallData : (stakeContract : Address) → (quantity : ℕ) →
    Outcome (Address × ℕ × List UInt8)
  getUnstakeCallData : (stakeContract : Address) → (quantity : ℕ) →
    Outcome (Address × ℕ × List UInt8)

/-- What the data provider of Aave says about an asset. -/
structure AaveReserve where
  aToken : Address
  variableDebtToken : Address
  usageAsCollateralEnabled : Bool
  borrowingEnabled : Bool
  isActive : Bool
  isFrozen : Bool

/-- The oracle of the protocol: prices in precise units. -/
structure PriceOracle where
  masterQuoteAsset : Address
  getPrice : Address → Address → Outcome ℕ

/-- What a transaction reads from outside the state. -/
structure Env where
  /-- `msg.sender` of the call into the module. -/
  sender : Address
  /-- `tx.origin`. -/
  origin : Address
  timestamp : ℕ
  /-- The adapter that the IntegrationRegistry holds for a module under a name. -/
  integrationAdapter : Address → String → Address
  exchangeAdapter : Address → ExchangeAdapter
  indexExchangeAdapter : Address → IndexExchangeAdapter
  stakingAdapter : Address → StakingAdapter
  aaveReserve : Address → AaveReserve
  /-- Whether Perp has a pool for a base token. -/
  perpHasPool : Address → Bool
  /-- Whether a manager's issuance hook, called with the quantity, the caller and the recipient,
  returns or reverts. -/
  invokePreIssueHook : Address → ℕ → Address → Address → Outcome Unit
  /-- The hook of net-asset-value issuance, called with the reserve asset, its quantity, the caller
  and the recipient. -/
  invokePreIssueNAVHook : Address → Address → ℕ → Address → Address → Outcome Unit
  /-- The redemption hook, called with the quantity, the caller and the recipient. -/
  invokePreRedeemHook : Address → ℕ → Address → Address → Outcome Unit
  priceOracle : PriceOracle
  /-- The valuation that a custom valuer returns for the Set in a quote asset. -/
  customSetValuer : Address → Address → Outcome ℕ
  /-- What an external contract does when the SetToken calls it. -/
  call : Invocation → Chain → Outcome Chain
  /-- The words that the external contract returns from the call. -/
  returnData : Invocation → Chain → List ℕ
  /-- What accruing interest in a Compound market does. -/
  accrueInterest : Address → Chain → Chain

/-- A transaction of `sender` in which the SetToken calls nothing but tokens. -/
def Env.plain (sender : Address) (timestamp : ℕ) : Env where
  sender := sender
  origin := sender
  timestamp := timestamp
  integrationAdapter := fun _ _ ↦ 0
  exchangeAdapter := fun _ ↦ ⟨0, fun _ _ _ _ _ _ ↦ .error "no adapter"⟩
  indexExchangeAdapter := fun _ ↦ ⟨0, fun _ _ _ _ _ _ _ ↦ .error "no adapter"⟩
  stakingAdapter := fun _ ↦ ⟨fun _ ↦ 0, fun _ _ ↦ .error "no adapter", fun _ _ ↦ .error "no adapter"⟩
  aaveReserve := fun _ ↦ ⟨0, 0, false, false, false, false⟩
  perpHasPool := fun _ ↦ false
  invokePreIssueHook := fun _ _ _ _ ↦ .ok ()
  invokePreIssueNAVHook := fun _ _ _ _ _ ↦ .ok ()
  invokePreRedeemHook := fun _ _ _ _ ↦ .ok ()
  priceOracle := ⟨0, fun _ _ ↦ .error "no price"⟩
  customSetValuer := fun _ _ ↦ .error "no valuer"
  call := fun _ _ ↦ .error "no contract"
  returnData := fun _ _ ↦ []
  accrueInterest := fun _ chain ↦ chain

structure World where
  controller : Controller
  setToken : SetToken
  chain : Chain
  log : List Invocation
  /-- The transfers made by the contracts of the protocol, oldest first. -/
  transfers : List Transfer := []

namespace World

/-! ## Tokens -/

/-- The token at an address. -/
def erc20 (w : World) (token : Address) : ERC20 :=
  if token = w.setToken.address then w.setToken.erc20 else w.chain.tokens token

/-- Overwrite the state of the token at an address. -/
def setErc20 (w : World) (token : Address) (state : ERC20) : World :=
  if token = w.setToken.address then
    { w with setToken := w.setToken.setErc20 state }
  else
    { w with chain := { w.chain with tokens := Function.update w.chain.tokens token state } }

/-- The SetToken's balance of a token. -/
def balance (w : World) (token : Address) : ℕ :=
  (w.erc20 token).balances w.setToken.address

/-- Enter a transfer into the record of transfers. -/
def recordTransfer (w : World) (entry : Transfer) : World :=
  { w with transfers := w.transfers ++ [entry] }

/-- `transfer` called by `sender`. -/
def transfer (w : World) (token sender recipient : Address) (amount : ℕ) : Outcome World := do
  let state ← (w.erc20 token).transfer sender recipient amount
  pure ((w.setErc20 token state).recordTransfer ⟨token, sender, recipient, amount⟩)

/-- `approve` called by `owner`. -/
def approve (w : World) (token owner spender : Address) (amount : ℕ) : Outcome World := do
  let state ← (w.erc20 token).approve owner spender amount
  pure (w.setErc20 token state)

/-- `transferFrom` called by `spender`. -/
def transferFrom (w : World) (token spender sender recipient : Address) (amount : ℕ) :
    Outcome World := do
  let state ← (w.erc20 token).transferFrom spender sender recipient amount
  pure ((w.setErc20 token state).recordTransfer ⟨token, sender, recipient, amount⟩)

/-! ## Calls executed by the SetToken -/

/-- Run a function of the SetToken. -/
def onSetToken (w : World) (f : SetToken → Outcome SetToken) : Outcome World := do
  let s ← f w.setToken
  pure { w with setToken := s }

/-- Overwrite the position multiplier. -/
def setMultiplier (w : World) (multiplier : ℤ) : World :=
  { w with setToken := { w.setToken with positionMultiplier := multiplier } }

/-- The effect of a call by the SetToken on the contract it goes to. -/
def execute (w : World) (env : Env) (invocation : Invocation) : Outcome World :=
  match invocation.callData with
  | .approve spender amount => w.approve invocation.target w.setToken.address spender amount
  | .transfer recipient amount => w.transfer invocation.target w.setToken.address recipient amount
  | _ => do
    let chain ← env.call invocation w.chain
    pure { w with chain := chain }

/-- `SetToken.invoke` called by a module. -/
def invoke (w : World) (env : Env) (module : Address) (invocation : Invocation) :
    Outcome World := do
  w.setToken.onlyModuleWhenLockedOnlyLocker w.controller module
  let w ← w.execute env invocation
  pure { w with log := w.log ++ [invocation] }

/-- `SetToken.invoke` of a function that returns an error code, where zero is success. -/
def invokeChecked (w : World) (env : Env) (module : Address) (invocation : Invocation)
    (reason : String) : Outcome World := do
  let code := env.returnData invocation w.chain
  let w ← w.invoke env module invocation
  require (code.head? = some 0) reason
  pure w

/-! The library `Invoke` -/

def invokeApprove (w : World) (env : Env) (module token spender : Address) (quantity : ℕ) :
    Outcome World :=
  w.invoke env module ⟨token, 0, .approve spender quantity⟩

def invokeTransfer (w : World) (env : Env) (module token recipient : Address) (quantity : ℕ) :
    Outcome World :=
  if 0 < quantity then
    w.invoke env module ⟨token, 0, .transfer recipient quantity⟩
  else
    pure w

def invokeUnwrapWETH (w : World) (env : Env) (module weth : Address) (quantity : ℕ) :
    Outcome World :=
  w.invoke env module ⟨weth, 0, .unwrapWETH quantity⟩

def invokeWrapWETH (w : World) (env : Env) (module weth : Address) (quantity : ℕ) :
    Outcome World :=
  w.invoke env module ⟨weth, quantity, .wrapWETH⟩

def strictInvokeTransfer (w : World) (env : Env) (module token recipient : Address) (quantity : ℕ) :
    Outcome World :=
  if 0 < quantity then do
    let existingBalance := w.balance token
    let w ← w.invokeTransfer env module token recipient quantity
    let expected ← SafeMath.sub existingBalance quantity
    require (w.balance token = expected) "Invalid post transfer balance"
    pure w
  else
    pure w

/-- The library `ExplicitERC20`: the recipient must receive exactly the quantity. -/
def explicitTransferFrom (w : World) (token spender sender recipient : Address) (quantity : ℕ) :
    Outcome World :=
  if 0 < quantity then do
    let existingBalance := (w.erc20 token).balances recipient
    let w ← w.transferFrom token spender sender recipient quantity
    let expected ← SafeMath.add existingBalance quantity
    require ((w.erc20 token).balances recipient = expected) "Invalid post transfer balance"
    pure w
  else
    pure w

/-! ## What changes and what does not -/

variable {w w' : World} {env : Env} {amount : ℕ}
  {module token other recipient sender spender : Address}

theorem balance_self (w : World) :
    w.balance w.setToken.address = w.setToken.erc20.balances w.setToken.address := by
  simp [balance, erc20]

theorem balance_setToken_setErc20 (w : World) (t : ERC20) (c : Address) :
    balance { w with setToken := w.setToken.setErc20 t } c =
      if c = w.setToken.address then t.balances w.setToken.address else w.balance c := by
  by_cases hc : c = w.setToken.address <;> simp [balance, erc20, hc]

/-- Balances or allowances of one token change.  The token may be the Set itself, whose supply and
positions stay as they are. -/
structure MoveStep (w w' : World) (token : Address) : Prop where
  controller : w'.controller = w.controller
  setToken : ∃ t : ERC20, w'.setToken = w.setToken.setErc20 t ∧
    t.totalSupply = w.setToken.totalSupply
  other : ∀ t, t ≠ token → w'.erc20 t = w.erc20 t
  decimals : ∀ t, (w'.erc20 t).decimals = (w.erc20 t).decimals

theorem MoveStep.refl (w : World) (token : Address) : w.MoveStep w token :=
  ⟨rfl, ⟨_, rfl, rfl⟩, fun _ _ ↦ rfl, fun _ ↦ rfl⟩

theorem MoveStep.address (h : w.MoveStep w' token) :
    w'.setToken.address = w.setToken.address := by
  obtain ⟨t, ht, -⟩ := h.setToken
  simp [ht]

theorem MoveStep.totalSupply (h : w.MoveStep w' token) :
    w'.setToken.totalSupply = w.setToken.totalSupply := by
  obtain ⟨t, ht, hsupply⟩ := h.setToken
  rw [ht, SetToken.setErc20_totalSupply, hsupply]

theorem MoveStep.trans {w₁ w₂ w₃ : World} (h : w₁.MoveStep w₂ token)
    (h' : w₂.MoveStep w₃ token) : w₁.MoveStep w₃ token where
  controller := h'.controller.trans h.controller
  setToken := by
    obtain ⟨t, ht, hsupply⟩ := h.setToken
    obtain ⟨t', ht', hsupply'⟩ := h'.setToken
    refine ⟨t', ?_, ?_⟩
    · rw [ht', ht]
      rfl
    · rw [hsupply', ht, SetToken.setErc20_totalSupply, hsupply]
  other := fun t ht ↦ (h'.other t ht).trans (h.other t ht)
  decimals := fun t ↦ (h'.decimals t).trans (h.decimals t)

theorem MoveStep.balance_of_ne (h : w.MoveStep w' token) (hother : other ≠ token) :
    w'.balance other = w.balance other := by
  unfold balance
  rw [h.address, h.other other hother]

theorem erc20_setErc20 (w : World) (token : Address) (state : ERC20) :
    (w.setErc20 token state).erc20 token = state := by
  by_cases h : token = w.setToken.address <;> simp [setErc20, erc20, h]

theorem erc20_setErc20_of_ne (w : World) (state : ERC20) (h : other ≠ token) :
    (w.setErc20 token state).erc20 other = w.erc20 other := by
  by_cases htoken : token = w.setToken.address
  · have hother : other ≠ w.setToken.address := htoken ▸ h
    simp [setErc20, erc20, htoken, hother]
  · simp [setErc20, erc20, htoken, h]

/-- Overwriting a token with a state of the same supply and decimals. -/
theorem setErc20_moveStep (w : World) {state : ERC20}
    (hsupply : state.totalSupply = (w.erc20 token).totalSupply)
    (hdecimals : state.decimals = (w.erc20 token).decimals) :
    w.MoveStep (w.setErc20 token state) token where
  controller := by
    unfold setErc20
    split_ifs <;> rfl
  setToken := by
    unfold setErc20
    unfold erc20 at hsupply
    split_ifs at hsupply ⊢
    · exact ⟨state, rfl, hsupply⟩
    · exact ⟨w.setToken.erc20, rfl, rfl⟩
  other := fun t ht ↦ w.erc20_setErc20_of_ne state ht
  decimals := by
    intro t
    by_cases ht : t = token
    · rw [ht, erc20_setErc20, hdecimals]
    · rw [w.erc20_setErc20_of_ne state ht]

theorem MoveStep.recordTransfer (h : w.MoveStep w' token) (entry : Transfer) :
    w.MoveStep (w'.recordTransfer entry) token :=
  ⟨h.controller, h.setToken, h.other, h.decimals⟩

theorem transfer_moveStep (h : w.transfer token sender recipient amount = .ok w') :
    w.MoveStep w' token := by
  simp only [transfer, Outcome.bind_eq_ok, Outcome.pure_eq_ok] at h
  obtain ⟨state, hstate, rfl⟩ := h
  obtain ⟨hsupply, hdecimals, -⟩ := ERC20.transfer_ok hstate
  exact (w.setErc20_moveStep hsupply hdecimals).recordTransfer _

/-- Nobody but the sender loses in a transfer made on its behalf. -/
theorem transferFrom_moveStep
    (h : w.transferFrom token spender sender recipient amount = .ok w') :
    w.MoveStep w' token ∧
      (sender ≠ w.setToken.address → w.balance token ≤ w'.balance token) := by
  simp only [transferFrom, Outcome.bind_eq_ok, Outcome.pure_eq_ok] at h
  obtain ⟨state, hstate, rfl⟩ := h
  obtain ⟨moved, hmoved, hsupply, hdecimals, hbalances⟩ := ERC20.transferFrom_ok hstate
  obtain ⟨hsupply', hdecimals', -, -, -, hends, hrest⟩ := ERC20.transfer_ok hmoved
  have hstep := w.setErc20_moveStep (hsupply.trans hsupply') (hdecimals.trans hdecimals')
  refine ⟨hstep.recordTransfer _, ?_⟩
  intro hsender
  change w.balance token ≤ (w.setErc20 token state).balance token
  unfold balance
  rw [hstep.address, w.erc20_setErc20, hbalances]
  by_cases hrecipient : w.setToken.address = recipient
  · rw [hrecipient, (hends (hrecipient ▸ hsender)).2]
    exact Nat.le_add_right _ _
  · exact (hrest _ hsender.symm hrecipient).ge

theorem approve_moveStep (h : w.approve token sender spender amount = .ok w') :
    w.MoveStep w' token ∧ w'.balance token = w.balance token := by
  simp only [approve, Outcome.bind_eq_ok, Outcome.pure_eq_ok] at h
  obtain ⟨state, hstate, rfl⟩ := h
  obtain ⟨hsupply, hdecimals, hbalances⟩ := ERC20.approve_ok hstate
  have hstep := w.setErc20_moveStep hsupply hdecimals
  refine ⟨hstep, ?_⟩
  unfold balance
  rw [hstep.address, w.erc20_setErc20, hbalances]

theorem invokeTransfer_moveStep
    (h : w.invokeTransfer env module token recipient amount = .ok w') : w.MoveStep w' token := by
  unfold invokeTransfer at h
  split_ifs at h
  · simp only [invoke, execute, Outcome.bind_eq_ok, Outcome.pure_eq_ok] at h
    obtain ⟨_, -, v, hv, rfl⟩ := h
    have hstep := transfer_moveStep hv
    exact ⟨hstep.controller, hstep.setToken, hstep.other, hstep.decimals⟩
  · obtain rfl := Outcome.pure_eq_ok.mp h
    exact .refl w token

/-- A strict transfer lowers the SetToken's balance by exactly the quantity. -/
theorem strictInvokeTransfer_moveStep
    (h : w.strictInvokeTransfer env module token recipient amount = .ok w') :
    w.MoveStep w' token ∧ amount ≤ w.balance token ∧
      w'.balance token = w.balance token - amount := by
  unfold strictInvokeTransfer at h
  split_ifs at h with hpos
  · simp only [Outcome.bind_eq_ok, SafeMath.sub_eq_ok, Outcome.require_eq_ok,
      Outcome.pure_eq_ok] at h
    obtain ⟨v, hv, _, ⟨hle, rfl⟩, _, hbalance, rfl⟩ := h
    exact ⟨invokeTransfer_moveStep hv, hle, hbalance⟩
  · obtain rfl := Outcome.pure_eq_ok.mp h
    exact ⟨.refl w token, by omega, by omega⟩

theorem explicitTransferFrom_moveStep
    (h : w.explicitTransferFrom token spender sender recipient amount = .ok w') :
    w.MoveStep w' token ∧
      (sender ≠ w.setToken.address → w.balance token ≤ w'.balance token) := by
  unfold explicitTransferFrom at h
  split_ifs at h with hpos
  · simp only [Outcome.bind_eq_ok, Outcome.require_eq_ok, Outcome.pure_eq_ok] at h
    obtain ⟨v, hv, _, -, _, -, rfl⟩ := h
    exact transferFrom_moveStep hv
  · obtain rfl := Outcome.pure_eq_ok.mp h
    exact ⟨.refl w token, fun _ ↦ le_rfl⟩

/-- An explicit transfer to the SetToken raises its balance by exactly the quantity. -/
theorem explicitTransferFrom_received
    (h : w.explicitTransferFrom token spender sender w.setToken.address amount = .ok w') :
    w'.balance token = w.balance token + amount := by
  unfold explicitTransferFrom at h
  split_ifs at h with hpos
  · simp only [Outcome.bind_eq_ok, SafeMath.add_eq_ok, Outcome.require_eq_ok,
      Outcome.pure_eq_ok] at h
    obtain ⟨v, hv, _, ⟨-, rfl⟩, _, hbalance, rfl⟩ := h
    unfold balance
    rw [(transferFrom_moveStep hv).1.address]
    exact hbalance
  · obtain rfl := Outcome.pure_eq_ok.mp h
    omega

/-! ## Calls by the SetToken -/

/-- Contracts outside the Set change.  Of the Set itself, balances and allowances may change. -/
structure CallStep (w w' : World) : Prop where
  controller : w'.controller = w.controller
  setToken : ∃ t : ERC20, w'.setToken = w.setToken.setErc20 t

theorem CallStep.trans {w₁ w₂ w₃ : World} (h : w₁.CallStep w₂) (h' : w₂.CallStep w₃) :
    w₁.CallStep w₃ := by
  obtain ⟨t, ht⟩ := h.setToken
  obtain ⟨t', ht'⟩ := h'.setToken
  refine ⟨h'.controller.trans h.controller, t', ?_⟩
  rw [ht', ht]
  rfl

theorem MoveStep.callStep (h : w.MoveStep w' token) : w.CallStep w' := by
  obtain ⟨t, ht, -⟩ := h.setToken
  exact ⟨h.controller, t, ht⟩

theorem execute_ok {invocation : Invocation} (h : w.execute env invocation = .ok w') :
    w.CallStep w' ∧ w'.log = w.log ∧
      w'.transfers = w.transfers ++ invocation.transfers w.setToken.address := by
  unfold execute at h
  unfold Invocation.transfers
  split at h
  case h_1 hdata =>
    have hstep := (approve_moveStep h).1.callStep
    simp only [approve, Outcome.bind_eq_ok, Outcome.pure_eq_ok] at h
    obtain ⟨state, -, rfl⟩ := h
    refine ⟨hstep, ?_⟩
    unfold setErc20
    split_ifs <;> simp [hdata]
  case h_2 hdata =>
    have hstep := (transfer_moveStep h).callStep
    simp only [transfer, Outcome.bind_eq_ok, Outcome.pure_eq_ok] at h
    obtain ⟨state, -, rfl⟩ := h
    refine ⟨hstep, ?_⟩
    unfold recordTransfer setErc20
    split_ifs <;> simp [hdata]
  case h_3 htransfer =>
    simp only [Outcome.bind_eq_ok, Outcome.pure_eq_ok] at h
    obtain ⟨chain, -, rfl⟩ := h
    refine ⟨⟨rfl, _, rfl⟩, rfl, ?_⟩
    split
    case h_1 hdata => exact absurd hdata (htransfer _ _)
    case h_2 => simp

/-- A call is entered into the log; only a transfer moves tokens by itself. -/
theorem invoke_ok {invocation : Invocation} (h : w.invoke env module invocation = .ok w') :
    w.CallStep w' ∧ w'.log = w.log ++ [invocation] ∧
      w'.transfers = w.transfers ++ invocation.transfers w.setToken.address := by
  simp only [invoke, Outcome.bind_eq_ok, Outcome.pure_eq_ok] at h
  obtain ⟨_, -, v, hv, rfl⟩ := h
  obtain ⟨hstep, hlog, htransfers⟩ := execute_ok hv
  exact ⟨⟨hstep.controller, hstep.setToken⟩, by simp [hlog], htransfers⟩

/-- A step of a token other than the Set: the SetToken is as before, and so are all other
tokens. -/
structure TokenStep (w w' : World) (token : Address) : Prop where
  controller : w'.controller = w.controller
  setToken : w'.setToken = w.setToken
  other : ∀ t, t ≠ token → w'.erc20 t = w.erc20 t

theorem MoveStep.tokenStep (h : w.MoveStep w' token) (htoken : token ≠ w.setToken.address) :
    w.TokenStep w' token := by
  obtain ⟨t, ht, -⟩ := h.setToken
  have herc20 : t = w.setToken.erc20 := by
    have hself := h.other w.setToken.address htoken.symm
    simpa [erc20, ht] using hself
  refine ⟨h.controller, ?_, h.other⟩
  rw [ht, herc20]
  rfl

theorem TokenStep.refl (w : World) (token : Address) : w.TokenStep w token :=
  ⟨rfl, rfl, fun _ _ ↦ rfl⟩

theorem TokenStep.trans {w₁ w₂ w₃ : World} (h : w₁.TokenStep w₂ token)
    (h' : w₂.TokenStep w₃ token) : w₁.TokenStep w₃ token where
  controller := h'.controller.trans h.controller
  setToken := h'.setToken.trans h.setToken
  other := fun t ht ↦ (h'.other t ht).trans (h.other t ht)

theorem TokenStep.balance_of_ne (h : w.TokenStep w' token) (hother : other ≠ token) :
    w'.balance other = w.balance other := by
  unfold balance
  rw [h.setToken, h.other other hother]

theorem setErc20_tokenStep (w : World) (state : ERC20) (h : token ≠ w.setToken.address) :
    w.TokenStep (w.setErc20 token state) token := by
  refine ⟨?_, ?_, fun t ht ↦ w.erc20_setErc20_of_ne state ht⟩
  all_goals simp [setErc20, h]

/-- An approval moves no balance. -/
theorem invokeApprove_balance
    (h : w.invokeApprove env module token spender amount = .ok w')
    (htoken : token ≠ w.setToken.address) :
    w.TokenStep w' token ∧ w'.balance token = w.balance token := by
  simp only [invokeApprove, invoke, execute, Outcome.bind_eq_ok, Outcome.pure_eq_ok] at h
  obtain ⟨_, -, v, hv, rfl⟩ := h
  obtain ⟨hmove, hbalance⟩ := approve_moveStep hv
  have hstep := hmove.tokenStep htoken
  exact ⟨⟨hstep.controller, hstep.setToken, hstep.other⟩, hbalance⟩

theorem strictInvokeTransfer_balance
    (h : w.strictInvokeTransfer env module token recipient amount = .ok w')
    (htoken : token ≠ w.setToken.address) :
    w.TokenStep w' token ∧ amount ≤ w.balance token ∧
      w'.balance token = w.balance token - amount := by
  obtain ⟨hmove, hbalance⟩ := strictInvokeTransfer_moveStep h
  exact ⟨hmove.tokenStep htoken, hbalance⟩

theorem explicitTransferFrom_balance
    (h : w.explicitTransferFrom token spender sender w.setToken.address amount = .ok w')
    (htoken : token ≠ w.setToken.address) :
    w.TokenStep w' token ∧ w'.balance token = w.balance token + amount :=
  ⟨(explicitTransferFrom_moveStep h).1.tokenStep htoken, explicitTransferFrom_received h⟩

/-! ## Contracts that tokens and positions do not touch -/

theorem setErc20_perp (w : World) (token : Address) (state : ERC20) :
    (w.setErc20 token state).chain.perp = w.chain.perp := by
  unfold setErc20
  split_ifs <;> rfl

theorem invokeTransfer_perp
    (h : w.invokeTransfer env module token recipient amount = .ok w') :
    w'.chain.perp = w.chain.perp := by
  unfold invokeTransfer at h
  split_ifs at h
  · simp only [invoke, execute, transfer, Outcome.bind_eq_ok, Outcome.pure_eq_ok] at h
    obtain ⟨_, -, _, ⟨state, -, rfl⟩, rfl⟩ := h
    exact w.setErc20_perp token state
  · rw [Outcome.pure_eq_ok.mp h]

theorem strictInvokeTransfer_perp
    (h : w.strictInvokeTransfer env module token recipient amount = .ok w') :
    w'.chain.perp = w.chain.perp := by
  unfold strictInvokeTransfer at h
  split_ifs at h
  · simp only [Outcome.bind_eq_ok, Outcome.pure_eq_ok] at h
    obtain ⟨v, hv, _, -, _, -, rfl⟩ := h
    exact invokeTransfer_perp hv
  · rw [Outcome.pure_eq_ok.mp h]

theorem onSetToken_chain {f : SetToken → Outcome SetToken} (h : w.onSetToken f = .ok w') :
    w'.chain = w.chain := by
  simp only [onSetToken, Outcome.bind_eq_ok, Outcome.pure_eq_ok] at h
  obtain ⟨s, -, rfl⟩ := h
  rfl

end World

end SetProtocol
