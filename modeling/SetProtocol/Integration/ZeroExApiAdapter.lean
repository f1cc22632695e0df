import Mathlib.Algebra.Order.BigOperators.Group.List
import Mathlib.Algebra.Order.Ring.Nat
import SetProtocol.Foundation.Abi
import SetProtocol.Integration.UniswapV3Path
import SetProtocol.Lib.Memory

/-!
# Trades by the API of 0x

The manager gets the calldata for a trade from the API; the adapter forwards it as it is, after it decoded
the tokens, the amounts and, where the function has one, the recipient, and compared them with the trade.
The amounts of a batch of orders are summed up without checks for overflow, and its tokens are those of the
first order.
-/

namespace SetProtocol

open BytesLib Memory
open UniswapV3ExchangeAdapterV2 (element element_eq_ok)

structure RfqOrder where
  makerToken : Address
  takerToken : Address
  makerAmount : ℕ
  takerAmount : ℕ
  maker : Address
  taker : Address
  txOrigin : Address
  pool : ℕ
  expiry : ℕ
  salt : ℕ
deriving DecidableEq

structure ZeroExApiAdapter where
  zeroExAddress : Address
  wethAddress : Address
  getSpender : Address

namespace ZeroExApiAdapter

/-- The contract that holds the tokens also takes them. -/
def new (zeroExAddress wethAddress : Address) : ZeroExApiAdapter :=
  ⟨zeroExAddress, wethAddress, zeroExAddress⟩

/-- The pseudo-token for Ether. -/
def ethAddress : Address := 0xEeeeeEeeeEeEeeEeEeEeeEEEeeeeEeeeeeeeEEeE

def uniswapV3PathAddressSize : ℕ := 20

def uniswapV3PathFeeSize : ℕ := 3

def uniswapV3SingleHopPathSize : ℕ :=
  uniswapV3PathAddressSize + uniswapV3PathFeeSize + uniswapV3PathAddressSize

def uniswapV3SingleHopOffsetSize : ℕ := uniswapV3PathAddressSize + uniswapV3PathFeeSize

def rfqOrder : Abi.Codec RfqOrder :=
  (Abi.Fields.struct <|
    .cons Abi.address <| .cons Abi.address <| .cons (Abi.uint 128) <| .cons (Abi.uint 128) <|
    .cons Abi.address <| .cons Abi.address <| .cons Abi.address <| .cons Abi.bytes32 <|
    .cons (Abi.uint 64) <| .last (Abi.uint 256)).map
  fun (makerToken, takerToken, makerAmount, takerAmount, maker, taker, txOrigin, pool, expiry, salt) ↦
    ⟨makerToken, takerToken, makerAmount, takerAmount, maker, taker, txOrigin, pool, expiry, salt⟩

/-- The type of a signature, `v`, `r` and `s`. -/
def signature : Abi.Codec (ℕ × ℕ × ℕ × ℕ) :=
  Abi.Fields.struct <| .cons (Abi.uint 8) <| .cons (Abi.uint 8) <| .cons Abi.bytes32 <| .last Abi.bytes32

def transformERC20Args : Abi.Fields (Address × Address × ℕ × ℕ) :=
  .cons Abi.address <| .cons Abi.address <| .cons (Abi.uint 256) <| .last (Abi.uint 256)

def sellToLiquidityProviderArgs :
    Abi.Fields (Address × Address × Address × Address × ℕ × ℕ) :=
  .cons Abi.address <| .cons Abi.address <| .cons Abi.address <| .cons Abi.address <|
  .cons (Abi.uint 256) <| .last (Abi.uint 256)

def sellToUniswapArgs : Abi.Fields (List Address × ℕ × ℕ) :=
  .cons (Abi.array Abi.address) <| .cons (Abi.uint 256) <| .last (Abi.uint 256)

def fillRfqOrderArgs : Abi.Fields (RfqOrder × (ℕ × ℕ × ℕ × ℕ) × ℕ) :=
  .cons rfqOrder <| .cons signature <| .last (Abi.uint 128)

/-- The offset of the signatures is decoded as a number. -/
def batchFillRfqOrdersArgs : Abi.Fields (List RfqOrder × ℕ × List ℕ × Bool) :=
  .cons (Abi.array rfqOrder) <| .cons (Abi.uint 256) <| .cons (Abi.array (Abi.uint 128)) <|
  .last Abi.bool

def sellTokenForTokenToUniswapV3Args : Abi.Fields (List UInt8 × ℕ × ℕ × Address) :=
  .cons Abi.bytes <| .cons (Abi.uint 256) <| .cons (Abi.uint 256) <| .last Abi.address

def multiplexBatchSellTokenForTokenArgs : Abi.Fields (Address × Address × ℕ × ℕ × ℕ) :=
  .cons Abi.address <| .cons Abi.address <| .cons (Abi.uint 256) <| .cons (Abi.uint 256) <|
  .last (Abi.uint 256)

def multiplexMultiHopSellTokenForTokenArgs : Abi.Fields (List Address × ℕ × ℕ × ℕ) :=
  .cons (Abi.array Abi.address) <| .cons (Abi.uint 256) <| .cons (Abi.uint 256) <|
  .last (Abi.uint 256)

/-- What the maker gives for a part of the order.  The product of the amounts is not checked. -/
def getRfqOrderMakerFillAmount (order : RfqOrder) (takerTokenFillAmount : ℕ) : ℕ :=
  if order.takerAmount = 0 ∨ order.makerAmount = 0 ∨ takerTokenFillAmount = 0 then 0
  else order.makerAmount * takerTokenFillAmount % 2 ^ 256 / order.takerAmount

/-- One pass of the loop over the orders of a batch; the sums are not checked. -/
def addOrder (orders : List RfqOrder) (takerTokenFillAmounts : List ℕ) (amounts : ℕ × ℕ) (i : ℕ) :
    Outcome (ℕ × ℕ) := do
  let takerTokenFillAmount ← element takerTokenFillAmounts i
  let order ← element orders i
  pure ((amounts.1 + takerTokenFillAmount) % 2 ^ 256,
    (amounts.2 + getRfqOrderMakerFillAmount order takerTokenFillAmount) % 2 ^ 256)

/-- Words are loaded from the first byte of the path and from where the last whole hop ends. -/
def decodeTokensFromUniswapV3EncodedPath (behind : Behind) (encodedPath : List UInt8) :
    Outcome (Address × Address) := do
  require (uniswapV3SingleHopPathSize ≤ encodedPath.length) "UniswapV3 token path too short"
  let numHops := (encodedPath.length - uniswapV3PathAddressSize) / uniswapV3SingleHopOffsetSize
  let lastTokenOffset := numHops * uniswapV3SingleHopOffsetSize
  let inputToken := BitVec.ofNat 160 (mload behind encodedPath 0 >>> 96)
  let outputToken := BitVec.ofNat 160 (mload behind encodedPath lastTokenOffset >>> 96)
  pure (inputToken, outputToken)

/-- What is decoded of a trade, with the defaults of what the function does not have. -/
structure DecodedTrade where
  inputToken : Address
  outputToken : Address
  recipient : Address := 0
  supportsRecipient : Bool := false
  inputTokenAmount : ℕ
  minOutputTokenAmount : ℕ

def decodeTrade (behind : Behind) (destinationAddress : Address) (data : List UInt8) :
    Outcome DecodedTrade := do
  require (4 ≤ data.length) "Invalid calldata"
  let selector := bytes4 behind data
  let args := data.drop 4
  if selector = 0x415565b0 ∨ selector = 0x8182b61f then
    -- transformERC20(), transformERC20Staging()
    let (inputToken, outputToken, inputTokenAmount, minOutputTokenAmount) ←
      Abi.decode transformERC20Args args
    pure { inputToken, outputToken, inputTokenAmount, minOutputTokenAmount }
  else if selector = 0xf7fcd384 then
    -- sellToLiquidityProvider()
    let (inputToken, outputToken, _, recipient, inputTokenAmount, minOutputTokenAmount) ←
      Abi.decode sellToLiquidityProviderArgs args
    let recipient := if recipient = 0 then destinationAddress else recipient
    pure ⟨inputToken, outputToken, recipient, true, inputTokenAmount, minOutputTokenAmount⟩
  else if selector = 0xd9627aa4 then
    -- sellToUniswap()
    let (path, inputTokenAmount, minOutputTokenAmount) ← Abi.decode sellToUniswapArgs args
    require (1 < path.length) "Uniswap token path too short"
    let inputToken ← element path 0
    let outputToken ← element path (path.length - 1)
    pure { inputToken, outputToken, inputTokenAmount, minOutputTokenAmount }
  else if selector = 0xaa77476c then
    -- fillRfqOrder()
    let (order, _, takerTokenFillAmount) ← Abi.decode fillRfqOrderArgs args
    let inputTokenAmount := takerTokenFillAmount
    let inputToken := order.takerToken
    let outputToken := order.makerToken
    let minOutputTokenAmount := getRfqOrderMakerFillAmount order inputTokenAmount
    pure { inputToken, outputToken, inputTokenAmount, minOutputTokenAmount }
  else if selector = 0x75103cb9 then
    -- batchFillRfqOrders()
    let (orders, _, takerTokenFillAmounts, revertIfIncomplete) ←
      Abi.decode batchFillRfqOrdersArgs args
    require (0 < orders.length) "Empty RFQ orders"
    require revertIfIncomplete "batchFillRfqOrder must be all or nothing"
    let first ← element orders 0
    let inputToken := first.takerToken
    let outputToken := first.makerToken
    let (inputTokenAmount, minOutputTokenAmount) ←
      (List.range orders.length).foldlM (addOrder orders takerTokenFillAmounts) (0, 0)
    pure { inputToken, outputToken, inputTokenAmount, minOutputTokenAmount }
  else if selector = 0x6af479b2 then
    -- sellTokenForTokenToUniswapV3()
    let (encodedPath, inputTokenAmount, minOutputTokenAmount, recipient) ←
      Abi.decode sellTokenForTokenToUniswapV3Args args
    let recipient := if recipient = 0 then destinationAddress else recipient
    let (inputToken, outputToken) ← decodeTokensFromUniswapV3EncodedPath behind encodedPath
    pure ⟨inputToken, outputToken, recipient, true, inputTokenAmount, minOutputTokenAmount⟩
  else if selector = 0x7a1eb1b9 then
    -- multiplexBatchSellTokenForToken()
    let (inputToken, outputToken, _, inputTokenAmount, minOutputTokenAmount) ←
      Abi.decode multiplexBatchSellTokenForTokenArgs args
    pure { inputToken, outputToken, inputTokenAmount, minOutputTokenAmount }
  else if selector = 0x0f3b31b2 then
    -- multiplexMultiHopSellTokenForToken()
    let (tokens, _, inputTokenAmount, minOutputTokenAmount) ←
      Abi.decode multiplexMultiHopSellTokenForTokenArgs args
    require (1 < tokens.length) "Multihop token path too short"
    let inputToken ← element tokens 0
    let outputToken ← element tokens (tokens.length - 1)
    pure { inputToken, outputToken, inputTokenAmount, minOutputTokenAmount }
  else
    throw "Unsupported 0xAPI function selector"

/-- The target, the value and the calldata of the call; `behind` are the bytes that follow a byte string
where it was copied to. -/
def getTradeCalldata (a : ZeroExApiAdapter) (behind : Behind)
    (sourceToken destinationToken destinationAddress : Address)
    (sourceQuantity minDestinationQuantity : ℕ) (data : List UInt8) :
    Outcome (Address × ℕ × List UInt8) := do
  let trade ← decodeTrade behind destinationAddress data
  require (trade.inputToken ≠ ethAddress ∧ trade.outputToken ≠ ethAddress) "ETH not supported"
  require (trade.inputToken = sourceToken) "Mismatched input token"
  require (trade.outputToken = destinationToken) "Mismatched output token"
  require (¬ trade.supportsRecipient ∨ trade.recipient = destinationAddress) "Mismatched recipient"
  require (trade.inputTokenAmount = sourceQuantity) "Mismatched input token quantity"
  require (minDestinationQuantity ≤ trade.minOutputTokenAmount) "Mismatched output token quantity"
  pure (a.zeroExAddress, 0, data)

/-! ## The tokens of a path -/

variable {behind : Behind} {encodedPath : List UInt8}

theorem mload_address {offset : ℕ} (h : offset + 20 ≤ encodedPath.length) :
    BitVec.ofNat 160 (mload behind encodedPath offset >>> 96) = addressAt encodedPath offset := by
  have hload : mload behind encodedPath offset >>> (8 * (32 - 20)) =
      BigEndian.decode (BigEndian.slice encodedPath offset 20) :=
    mload_shiftRight (by decide) h
  exact congrArg (BitVec.ofNat 160) hload

theorem decodeTokensFromUniswapV3EncodedPath_eq (h : 43 ≤ encodedPath.length) :
    decodeTokensFromUniswapV3EncodedPath behind encodedPath =
      .ok (addressAt encodedPath 0,
        addressAt encodedPath ((encodedPath.length - 20) / 23 * 23)) := by
  have hlong : uniswapV3SingleHopPathSize ≤ encodedPath.length := h
  have hoffset : (encodedPath.length - 20) / 23 * 23 + 20 ≤ encodedPath.length := by omega
  simp only [decodeTokensFromUniswapV3EncodedPath, require, if_pos hlong, Outcome.ok_bind,
    uniswapV3PathAddressSize, uniswapV3SingleHopOffsetSize, uniswapV3PathFeeSize, Nat.reduceAdd]
  rw [mload_address (by omega), mload_address hoffset]
  rfl

/-- The tokens that are decoded of a path are those between which the walk over its hops trades, and do
not depend on what the memory holds behind the path. -/
theorem decodeTokensFromUniswapV3EncodedPath_connects :
    (∀ encodedPath : List UInt8, 43 ≤ encodedPath.length →
      ∃ inputToken outputToken,
        (∀ behind, decodeTokensFromUniswapV3EncodedPath behind encodedPath =
          .ok (inputToken, outputToken)) ∧
        inputToken = addressAt encodedPath 0 ∧
        UniswapV3Path.Connects encodedPath inputToken outputToken) ∧
    ∀ (tokens : List Address) (fees : List UInt24), 2 ≤ tokens.length →
      fees.length = tokens.length - 1 →
      ∃ first last, tokens.head? = some first ∧ tokens.getLast? = some last ∧
        ∀ behind, decodeTokensFromUniswapV3EncodedPath behind
          (UniswapV3ExchangeAdapterV2.pathBytes tokens fees) = .ok (first, last) := by
  constructor
  · intro encodedPath hlength
    exact ⟨_, _, fun behind ↦ decodeTokensFromUniswapV3EncodedPath_eq hlength, rfl,
      UniswapV3Path.decodePools_connects hlength⟩
  · intro tokens fees htokens hfees
    obtain ⟨hlength, first, last, hfirst, hlast, hconnects⟩ :=
      UniswapV3Path.connects_pathBytes htokens hfees
    obtain ⟨rfl, rfl⟩ := (UniswapV3Path.connects_iff hlength).mp hconnects
    exact ⟨_, _, hfirst, hlast, fun behind ↦ decodeTokensFromUniswapV3EncodedPath_eq hlength⟩

namespace Sample

/-- The path of two hops with three bytes behind it, and the path itself. -/
theorem decoded_connects :
    (∀ behind, decodeTokensFromUniswapV3EncodedPath behind
        (UniswapV3ExchangeAdapterV2.pathBytes [1, 2, 3] [500, 3000] ++ [7, 8, 9]) = .ok (1, 3)) ∧
      ∀ behind, decodeTokensFromUniswapV3EncodedPath behind
        (UniswapV3ExchangeAdapterV2.pathBytes [1, 2, 3] [500, 3000]) = .ok (1, 3) := by
  obtain ⟨hpath, htokens⟩ := decodeTokensFromUniswapV3EncodedPath_connects
  constructor
  · obtain ⟨inputToken, outputToken, hok, -, hconnects⟩ :=
      hpath (UniswapV3ExchangeAdapterV2.pathBytes [1, 2, 3] [500, 3000] ++ [7, 8, 9]) (by decide)
    obtain ⟨rfl, rfl⟩ := (UniswapV3Path.connects_iff (by decide)).mp hconnects
    intro behind
    rw [hok]
    decide +kernel
  · obtain ⟨first, last, hfirst, hlast, hok⟩ := htokens [1, 2, 3] [500, 3000] (by decide) rfl
    obtain rfl := Option.some.inj hfirst
    obtain rfl := Option.some.inj hlast
    exact hok

end Sample

/-! ## Batches of orders -/

variable {orders : List RfqOrder} {takerTokenFillAmounts : List ℕ}

/-- What the makers of orders give for the parts that are filled. -/
def makerFillAmounts (orders : List RfqOrder) (takerTokenFillAmounts : List ℕ) : List ℕ :=
  (orders.zip takerTokenFillAmounts).map fun fill ↦
    fill.1.makerAmount * fill.2 / fill.1.takerAmount

theorem rfqOrder_makerAmount_lt {data : List UInt8} {base pos : ℕ} {order : RfqOrder}
    (h : rfqOrder.field data base pos = .ok order) : order.makerAmount < 2 ^ 128 := by
  simp only [rfqOrder, Abi.Codec.map_field_eq_ok] at h
  obtain ⟨⟨makerToken, takerToken, makerAmount, rest⟩, hfields, rfl⟩ := h
  have hread := Abi.struct_field_ok hfields
  simp only [Abi.Fields.cons_read_eq_ok, Abi.uint_field_eq_ok] at hread
  obtain ⟨-, -, ⟨hlt, rfl⟩, -⟩ := hread
  exact hlt

/-- The product of two amounts of 128 bits fits. -/
theorem getRfqOrderMakerFillAmount_eq {order : RfqOrder} {takerTokenFillAmount : ℕ}
    (hmaker : order.makerAmount < 2 ^ 128) (hfill : takerTokenFillAmount < 2 ^ 128) :
    getRfqOrderMakerFillAmount order takerTokenFillAmount =
      order.makerAmount * takerTokenFillAmount / order.takerAmount := by
  unfold getRfqOrderMakerFillAmount
  split_ifs with hzero
  · rcases hzero with hzero | hzero | hzero <;> simp [hzero]
  · have hproduct : order.makerAmount * takerTokenFillAmount < 2 ^ 256 :=
      (Nat.mul_lt_mul'' hmaker hfill).trans_eq (pow_add 2 128 128).symm
    rw [Nat.mod_eq_of_lt hproduct]

/-- The sums of the loop, modulo `2 ^ 256`. -/
theorem foldlM_addOrder_ok {n inputTokenAmount minOutputTokenAmount : ℕ}
    (h : (List.range n).foldlM (addOrder orders takerTokenFillAmounts) (0, 0) =
      .ok (inputTokenAmount, minOutputTokenAmount)) :
    n ≤ takerTokenFillAmounts.length ∧
      inputTokenAmount = (takerTokenFillAmounts.take n).sum % 2 ^ 256 ∧
      minOutputTokenAmount = (((orders.zip takerTokenFillAmounts).take n).map fun fill ↦
        getRfqOrderMakerFillAmount fill.1 fill.2).sum % 2 ^ 256 := by
  induction n generalizing inputTokenAmount minOutputTokenAmount with
  | zero =>
    obtain ⟨rfl, rfl⟩ := Prod.mk.inj (Outcome.pure_eq_ok.mp h)
    simp
  | succ n ih =>
    simp only [List.range_succ, List.foldlM_append, List.foldlM_cons, List.foldlM_nil,
      Outcome.bind_eq_ok, Outcome.pure_eq_ok, addOrder, element_eq_ok, Prod.exists,
      Prod.mk.injEq] at h
    obtain ⟨inputBefore, minimumBefore, hbefore, _, _, ⟨fill, hfill, order, horder, rfl, rfl⟩, rfl,
      rfl⟩ := h
    obtain ⟨-, rfl, rfl⟩ := ih hbefore
    have hentry : (orders.zip takerTokenFillAmounts)[n]? = some (order, fill) :=
      List.getElem?_zip_eq_some.mpr ⟨horder, hfill⟩
    have hlt := (List.getElem?_eq_some_iff.mp hfill).1
    refine ⟨hlt, ?_, ?_⟩
    · rw [List.take_add_one, hfill, List.sum_append, Nat.mod_add_mod]
      rfl
    · rw [List.take_add_one, hentry, List.map_append, List.sum_append, Nat.mod_add_mod]
      rfl

/-- The calldata fills a batch of orders. -/
def BatchFills (data : List UInt8) (orders : List RfqOrder) (takerTokenFillAmounts : List ℕ) : Prop :=
  StartsWith 0x75103cb9 data ∧ ∃ signatures revertIfIncomplete,
    Abi.decode batchFillRfqOrdersArgs (data.drop 4) =
      .ok (orders, signatures, takerTokenFillAmounts, revertIfIncomplete)

/-- The orders that are filled are for the tokens of the trade and add up to its amounts. -/
structure OrdersValidated (orders : List RfqOrder) (takerTokenFillAmounts : List ℕ)
    (sourceToken destinationToken : Address) (sourceQuantity minDestinationQuantity : ℕ) : Prop where
  tokens : ∀ fill ∈ orders.zip takerTokenFillAmounts, fill.2 ≠ 0 →
    fill.1.takerToken = sourceToken ∧ fill.1.makerToken = destinationToken
  length_eq : takerTokenFillAmounts.length = orders.length
  sum_eq : takerTokenFillAmounts.sum = sourceQuantity
  le_sum : minDestinationQuantity ≤ (makerFillAmounts orders takerTokenFillAmounts).sum

variable {a : ZeroExApiAdapter} {data : List UInt8} {result : Address × ℕ × List UInt8}
  {sourceToken destinationToken destinationAddress : Address}
  {sourceQuantity minDestinationQuantity : ℕ}

theorem BatchFills.bounds (h : BatchFills data orders takerTokenFillAmounts) :
    (∀ order ∈ orders, order.makerAmount < 2 ^ 128) ∧
      takerTokenFillAmounts.length ≤ Abi.maxLength ∧
      ∀ amount ∈ takerTokenFillAmounts, amount < 2 ^ 128 := by
  obtain ⟨-, signatures, revertIfIncomplete, hdecode⟩ := h
  simp only [batchFillRfqOrdersArgs, Abi.decode_eq_ok, Abi.Fields.cons_read_eq_ok] at hdecode
  obtain ⟨-, horders, -, hfills, -⟩ := hdecode
  obtain ⟨-, horder⟩ := Abi.array_field_ok horders
  obtain ⟨hlength, hfill⟩ := Abi.array_field_ok hfills
  refine ⟨?_, hlength, ?_⟩
  · intro order hmem
    obtain ⟨base, pos, hfield⟩ := horder order hmem
    exact rfqOrder_makerAmount_lt hfield
  · intro amount hmem
    obtain ⟨base, pos, hfield⟩ := hfill amount hmem
    obtain ⟨hlt, rfl⟩ := Abi.uint_field_eq_ok.mp hfield
    exact hlt

/-- No calldata has enough amounts for the sum to overflow. -/
theorem BatchFills.sum_lt (h : BatchFills data orders takerTokenFillAmounts) :
    takerTokenFillAmounts.sum < 2 ^ 256 := by
  obtain ⟨-, hlength, hfill⟩ := h.bounds
  have hsum : takerTokenFillAmounts.sum ≤ takerTokenFillAmounts.length * 2 ^ 128 := by
    have hle := List.sum_le_card_nsmul takerTokenFillAmounts (2 ^ 128)
      fun amount hmem ↦ (hfill amount hmem).le
    rwa [nsmul_eq_mul] at hle
  calc takerTokenFillAmounts.sum ≤ takerTokenFillAmounts.length * 2 ^ 128 := hsum
    _ ≤ Abi.maxLength * 2 ^ 128 := Nat.mul_le_mul_right _ hlength
    _ < 2 ^ 256 := by decide

theorem BatchFills.makerFillAmounts_eq (h : BatchFills data orders takerTokenFillAmounts) :
    (orders.zip takerTokenFillAmounts).map
        (fun fill ↦ getRfqOrderMakerFillAmount fill.1 fill.2) =
      makerFillAmounts orders takerTokenFillAmounts := by
  obtain ⟨horder, -, hfill⟩ := h.bounds
  apply List.map_congr_left
  intro fill hmem
  obtain ⟨hmemOrder, hmemFill⟩ := List.of_mem_zip hmem
  exact getRfqOrderMakerFillAmount_eq (horder _ hmemOrder) (hfill _ hmemFill)

/-- What the adapter computes of a batch. -/
theorem getTradeCalldata_batch_ok (hdata : BatchFills data orders takerTokenFillAmounts)
    (h : a.getTradeCalldata behind sourceToken destinationToken destinationAddress sourceQuantity
      minDestinationQuantity data = .ok result) :
    (∃ first, orders[0]? = some first ∧ first.takerToken = sourceToken ∧
      first.makerToken = destinationToken) ∧
    ∃ minOutputTokenAmount, (List.range orders.length).foldlM
        (addOrder orders takerTokenFillAmounts) (0, 0) =
      .ok (sourceQuantity, minOutputTokenAmount) ∧
      minDestinationQuantity ≤ minOutputTokenAmount := by
  obtain ⟨hselector, signatures, revertIfIncomplete, hdecode⟩ := hdata
  have hbytes : bytes4 behind data = 0x75103cb9 := (bytes4_eq_iff hselector.1).mpr hselector
  simp only [getTradeCalldata, decodeTrade, hbytes, hdecode, Outcome.ok_bind, Outcome.bind_eq_ok,
    Outcome.require_eq_ok, Outcome.pure_eq_ok] at h
  obtain ⟨trade, ⟨_, -, htrade⟩, _, -, _, hsource, _, hdestination, _, -, _, hquantity, _, hmin, -⟩ := h
  simp only [BitVec.reduceEq, or_self, if_false, if_true, Outcome.bind_eq_ok, Outcome.require_eq_ok,
    Outcome.pure_eq_ok, element_eq_ok, Prod.exists] at htrade
  obtain ⟨_, -, _, -, first, hfirst, inputTokenAmount, minOutputTokenAmount, hloop, rfl⟩ := htrade
  obtain rfl := hquantity
  exact ⟨⟨first, hfirst, hsource, hdestination⟩, minOutputTokenAmount, hloop, hmin⟩

/-- A batch that is accepted is validated order by order exactly when it has one fill amount for each
order and every order that is filled is for the tokens of the first one. -/
theorem getTradeCalldata_ordersValidated_iff (hdata : BatchFills data orders takerTokenFillAmounts)
    (h : a.getTradeCalldata behind sourceToken destinationToken destinationAddress sourceQuantity
      minDestinationQuantity data = .ok result) :
    OrdersValidated orders takerTokenFillAmounts sourceToken destinationToken sourceQuantity
        minDestinationQuantity ↔
      takerTokenFillAmounts.length = orders.length ∧
        ∀ first, orders[0]? = some first → ∀ fill ∈ orders.zip takerTokenFillAmounts, fill.2 ≠ 0 →
          fill.1.takerToken = first.takerToken ∧ fill.1.makerToken = first.makerToken := by
  obtain ⟨⟨first, hfirst, rfl, rfl⟩, minOutputTokenAmount, hloop, hmin⟩ :=
    getTradeCalldata_batch_ok hdata h
  constructor
  · intro hvalidated
    refine ⟨hvalidated.length_eq, ?_⟩
    intro first' hfirst'
    obtain rfl := Option.some.inj (hfirst'.symm.trans hfirst)
    exact hvalidated.tokens
  · rintro ⟨hlength, htokens⟩
    obtain ⟨-, hinput, houtput⟩ := foldlM_addOrder_ok hloop
    have hzip : (orders.zip takerTokenFillAmounts).length ≤ orders.length := by
      rw [List.length_zip]
      exact Nat.min_le_left _ _
    rw [← hlength, List.take_length, Nat.mod_eq_of_lt hdata.sum_lt] at hinput
    rw [List.take_of_length_le hzip, hdata.makerFillAmounts_eq] at houtput
    refine ⟨htokens first hfirst, hlength, hinput.symm, hmin.trans ?_⟩
    -- a sum that wraps is only smaller
    rw [houtput]
    exact Nat.mod_le _ _

namespace Sample

/-- The words of an order of maker 9. -/
def orderWords (makerToken takerToken makerAmount takerAmount : ℕ) : List ℕ :=
  [makerToken, takerToken, makerAmount, takerAmount, 9, 0, 0, 0, 0, 0]

/-- A batch of an order of token 1 for token 3, of which 70 are filled, and another order, of which 30
are filled. -/
def batch (second : List ℕ) : List UInt8 :=
  BigEndian.encode 4 0x75103cb9 ++
    Abi.words ([128, 0, 800, 1, 2] ++ orderWords 3 1 60 70 ++ second ++ [2, 70, 30])

def order (makerToken takerToken : Address) (makerAmount takerAmount : ℕ) : RfqOrder :=
  ⟨makerToken, takerToken, makerAmount, takerAmount, 9, 0, 0, 0, 0, 0⟩

theorem mixed_not_ordersValidated :
    BatchFills (batch (orderWords 4 2 15 30)) [order 3 1 60 70, order 4 2 15 30] [70, 30] ∧
      (new 5 6).getTradeCalldata (fun _ _ ↦ 0) 1 3 7 100 75 (batch (orderWords 4 2 15 30)) =
        .ok (5, 0, batch (orderWords 4 2 15 30)) ∧
      ¬ OrdersValidated [order 3 1 60 70, order 4 2 15 30] [70, 30] 1 3 100 75 := by
  refine ⟨⟨⟨by decide +kernel, by decide +kernel⟩, 0, true, by decide +kernel⟩, by decide +kernel, ?_⟩
  intro hvalidated
  have htokens := hvalidated.tokens (order 4 2 15 30, 30) (by decide) (by decide)
  exact absurd htokens.1 (by decide)

theorem same_ordersValidated :
    OrdersValidated [order 3 1 60 70, order 3 1 15 30] [70, 30] 1 3 100 75 := by
  have hdata : BatchFills (batch (orderWords 3 1 15 30)) [order 3 1 60 70, order 3 1 15 30] [70, 30] :=
    ⟨⟨by decide +kernel, by decide +kernel⟩, 0, true, by decide +kernel⟩
  have hok : (new 5 6).getTradeCalldata (fun _ _ ↦ 0) 1 3 7 100 75 (batch (orderWords 3 1 15 30)) =
      .ok (5, 0, batch (orderWords 3 1 15 30)) := by
    decide +kernel
  refine (getTradeCalldata_ordersValidated_iff hdata hok).mpr ⟨rfl, ?_⟩
  rintro _ ⟨⟩
  decide

end Sample

end ZeroExApiAdapter

end SetProtocol
