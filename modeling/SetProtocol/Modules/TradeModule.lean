import SetProtocol.Core.Swap

/-!
# Trading one component for another

`TradeModule` lets the SetToken approve and call an exchange, takes an optional protocol fee from
what was received and then recomputes the units of both tokens from the balances.
-/

namespace SetProtocol

open PreciseUnitMath ModuleBase

structure TradeModule where
  address : Address
  operators : List Address

namespace TradeModule

/-- Index of the fee that is charged by `trade`. -/
def protocolFeeIndex : ℕ := 0

structure TradeInfo where
  exchangeAdapter : Address
  sendToken : Address
  receiveToken : Address
  setTotalSupply : ℕ
  totalSendQuantity : ℕ
  totalMinReceiveQuantity : ℕ
  preTradeSendTokenBalance : ℕ
  preTradeReceiveTokenBalance : ℕ

def createTradeInfo (m : TradeModule) (w : World) (env : Env) (exchangeName : String)
    (sendToken receiveToken : Address) (sendQuantity minReceiveQuantity : ℕ) :
    Outcome TradeInfo := do
  let exchangeAdapter ← getAndValidateAdapter env m.address exchangeName
  let setTotalSupply := w.setToken.totalSupply
  let totalSendQuantity ← Position.getDefaultTotalNotional setTotalSupply sendQuantity
  let totalMinReceiveQuantity ← Position.getDefaultTotalNotional setTotalSupply minReceiveQuantity
  pure {
    exchangeAdapter := exchangeAdapter
    sendToken := sendToken
    receiveToken := receiveToken
    setTotalSupply := setTotalSupply
    totalSendQuantity := totalSendQuantity
    totalMinReceiveQuantity := totalMinReceiveQuantity
    preTradeSendTokenBalance := w.balance sendToken
    preTradeReceiveTokenBalance := w.balance receiveToken }

def validatePreTradeData (w : World) (info : TradeInfo) (sendQuantity : ℕ) : Outcome Unit := do
  require (0 < info.totalSendQuantity) "Token to sell must be nonzero"
  let sufficient ← Position.hasSufficientDefaultUnits w.setToken info.sendToken sendQuantity
  require (sufficient = true) "Unit cant be greater than existing"

def executeTrade (m : TradeModule) (w : World) (env : Env) (info : TradeInfo)
    (data : List UInt8) : Outcome World := do
  let adapter := env.exchangeAdapter info.exchangeAdapter
  let w ← w.invokeApprove env m.address info.sendToken adapter.getSpender info.totalSendQuantity
  let (targetExchange, callValue, methodData) ← adapter.getTradeCalldata info.sendToken
    info.receiveToken w.setToken.address info.totalSendQuantity info.totalMinReceiveQuantity data
  w.invoke env m.address ⟨targetExchange, callValue, .raw methodData⟩

def validatePostTrade (w : World) (info : TradeInfo) : Outcome ℕ := do
  let exchangedQuantity ←
    SafeMath.sub (w.balance info.receiveToken) info.preTradeReceiveTokenBalance
  require (info.totalMinReceiveQuantity ≤ exchangedQuantity) "Slippage greater than allowed"
  pure exchangedQuantity

def accrueProtocolFee (m : TradeModule) (w : World) (env : Env) (info : TradeInfo)
    (exchangedQuantity : ℕ) : Outcome World := do
  let protocolFeeTotal ← getModuleFee w m.address protocolFeeIndex exchangedQuantity
  payProtocolFeeFromSetToken w env m.address info.receiveToken protocolFeeTotal

/-- The fee is only taken when the caller asks for it. -/
def collectFee (m : TradeModule) (w : World) (env : Env) (info : TradeInfo)
    (exchangedQuantity : ℕ) (isCollectFee : Bool) : Outcome World :=
  if isCollectFee then m.accrueProtocolFee w env info exchangedQuantity else pure w

def updateSetTokenPositions (m : TradeModule) (w : World) (info : TradeInfo) :
    Outcome World := do
  let (w, currentSendTokenBalance, _) ← calculateAndEditDefaultPosition w m.address
    info.sendToken info.setTotalSupply info.preTradeSendTokenBalance
  let (w, currentReceiveTokenBalance, _) ← calculateAndEditDefaultPosition w m.address
    info.receiveToken info.setTotalSupply info.preTradeReceiveTokenBalance
  let _ ← SafeMath.sub info.preTradeSendTokenBalance currentSendTokenBalance
  let _ ← SafeMath.sub currentReceiveTokenBalance info.preTradeReceiveTokenBalance
  pure w

def trade (m : TradeModule) (w : World) (env : Env) (exchangeName : String)
    (sendToken : Address) (sendQuantity : ℕ) (receiveToken : Address) (minReceiveQuantity : ℕ)
    (isCollectFee : Bool) (data : List UInt8) : Outcome World := do
  validateOnlyManagerOrOperatorAndValidSet w m.address env.sender m.operators
  let info ← m.createTradeInfo w env exchangeName sendToken receiveToken sendQuantity
    minReceiveQuantity
  validatePreTradeData w info sendQuantity
  let w ← m.executeTrade w env info data
  let exchangedQuantity ← validatePostTrade w info
  let w ← m.collectFee w env info exchangedQuantity isCollectFee
  m.updateSetTokenPositions w info

/-- The source calls this function `initialize`. -/
def initializeSetToken (m : TradeModule) (w : World) (env : Env) : Outcome World := do
  validateOnlyValidAndPendingSet w m.address
  validateOnlySetManager w env.sender
  w.onSetToken fun s ↦ s.initializeModule m.address

/-! ## A trade is a swap followed by two edits -/

variable {m : TradeModule} {w w' : World} {env : Env} {info : TradeInfo}

theorem createTradeInfo_ok {exchangeName : String} {send receive : Address} {sold bought : ℕ}
    (h : m.createTradeInfo w env exchangeName send receive sold bought = .ok info) :
    info.sendToken = send ∧ info.receiveToken = receive ∧
      info.setTotalSupply = w.setToken.totalSupply := by
  simp only [createTradeInfo, Outcome.bind_eq_ok, Outcome.pure_eq_ok] at h
  obtain ⟨_, -, _, -, _, -, rfl⟩ := h
  exact ⟨rfl, rfl, rfl⟩

theorem executeTrade_swapStep {data : List UInt8}
    (h : m.executeTrade w env info data = .ok w')
    (henv : env.LowersOnly w.setToken.address fun _ ↦ {info.sendToken, info.receiveToken})
    (hsend : info.sendToken ≠ w.setToken.address) :
    SwapStep w w' info.sendToken info.receiveToken := by
  simp only [executeTrade, Outcome.bind_eq_ok, Prod.exists] at h
  obtain ⟨u, happrove, target, value, data, -, hinvoke⟩ := h
  have hstep := (World.invokeApprove_balance happrove hsend).1
  apply (SwapStep.of_send hstep).trans
  exact SwapStep.of_invoke hinvoke (hstep.setToken.symm ▸ henv)

theorem collectFee_swapStep {quantity : ℕ} {isCollectFee : Bool}
    (h : m.collectFee w env info quantity isCollectFee = .ok w')
    (hreceive : info.receiveToken ≠ w.setToken.address) :
    SwapStep w w' info.sendToken info.receiveToken := by
  unfold collectFee at h
  split_ifs at h
  · simp only [accrueProtocolFee, Outcome.bind_eq_ok] at h
    obtain ⟨fee, -, hpay⟩ := h
    exact .of_receive (payProtocolFeeFromSetToken_balance hpay hreceive).1
  · obtain rfl := Outcome.pure_eq_ok.mp h
    exact .of_receive (.refl w _)

/-- A trade of components other than the Set keeps every component covered. -/
theorem trade_collateralized {exchangeName : String} {send receive : Address} {sold bought : ℕ}
    {isCollectFee : Bool} {data : List UInt8}
    (h : m.trade w env exchangeName send sold receive bought isCollectFee data = .ok w')
    (henv : env.LowersOnly w.setToken.address fun _ ↦ {send, receive})
    (hsend : send ≠ w.setToken.address) (hreceive : receive ≠ w.setToken.address)
    (hw : w.WellFormed) (hcovered : w.Collateralized) : w'.WellFormed ∧ w'.Collateralized := by
  simp only [trade, updateSetTokenPositions, Outcome.bind_eq_ok, Prod.exists,
    Outcome.pure_eq_ok] at h
  obtain ⟨_, -, info, hinfo, _, -, u, hexecute, _, -, v, hfee, edited, b, r, n, hedit, edited',
    b', r', n', hedit', _, -, _, -, rfl⟩ := h
  obtain ⟨rfl, rfl, hsupply⟩ := createTradeInfo_ok hinfo
  have hswap := executeTrade_swapStep hexecute henv hsend
  have hswap' := collectFee_swapStep hfee (hswap.setToken.symm ▸ hreceive)
  rw [hsupply] at hedit hedit'
  exact (hswap.trans hswap').collateralized hedit hedit' hsend hreceive hw hcovered

end TradeModule

end SetProtocol
