import SetProtocol.Foundation.Abi
import SetProtocol.Lib.BytesLib
import SetProtocol.Lib.Memory

/-!
# Trades by the second version of the API of 0x

The manager's data are the address to call and the calldata of `exec`, which takes an amount of a token for
an operator and calls a target with the bytes that are its last argument.  The adapter decodes the token and
the amount from the arguments.  The bytes of the inner call it reads at a fixed position, where an encoder
puts them; the contract that is called finds them at the offset that stands in the arguments.
-/

namespace SetProtocol

open BytesLib Memory

structure ZeroExApiV2Adapter where
  wethAddress : Address
  getSpender : Address

namespace ZeroExApiV2Adapter

def new (allowanceHolderAddress wethAddress : Address) : Outcome ZeroExApiV2Adapter := do
  require (allowanceHolderAddress ≠ 0) "AllowanceHolder address is zero"
  require (wethAddress ≠ 0) "WETH address is zero"
  pure ⟨wethAddress, allowanceHolderAddress⟩

/-- The pseudo-token for Ether. -/
def ethAddress : Address := 0xEeeeeEeeeEeEeeEeEeEeeEEEeeeeEeeeeeeeEEeE

structure TradeParams where
  /-- The field `to` of the source. -/
  target : Address
  data : List UInt8
  inputToken : Address
  outputToken : Address
  recipient : Address
  inputTokenAmount : ℕ
  minOutputTokenAmount : ℕ

def generateDataParam (target : Address) (data : List UInt8) : List UInt8 :=
  packAddress target ++ data

def getSelector (behind : Behind) (data : List UInt8) : Outcome (BitVec 32) := do
  require (4 ≤ data.length) "Insufficient data for function selector"
  pure (bytes4 behind data)

def getToAddress (behind : Behind) (data : List UInt8) : Address :=
  BitVec.ofNat 160 (mload behind data 0 >>> 96)

/-- The rest of the calldata from a position on. -/
def sliceFrom (data : List UInt8) (start : ℕ) : Outcome (List UInt8) := do
  require (start ≤ data.length) ""
  pure (data.drop start)

/-- The operator, the token, the amount, the target and the bytes that it is called with. -/
def execArgs : Abi.Fields (Address × Address × ℕ × Address × List UInt8) :=
  .cons Abi.address <| .cons Abi.address <| .cons (Abi.uint 256) <| .cons Abi.address <|
  .last Abi.bytes

/-- The recipient, the token to buy, its least amount, the actions and an identifier. -/
def executeArgs : Abi.Fields (Address × Address × ℕ × List (List UInt8) × ℕ) :=
  .cons Abi.address <| .cons Abi.address <| .cons (Abi.uint 256) <|
  .cons (Abi.array Abi.bytes) <| .last Abi.bytes32

/-- The head of the arguments of `exec` has 160 bytes, and the length of the inner call is expected behind
it. -/
def decodeExecAndInnerData (behind : Behind) (execData : List UInt8) :
    Outcome (Address × ℕ × Address × Address × ℕ) := do
  let selector ← getSelector behind execData
  require (selector = 0x2213bc0b) "Invalid exec selector"
  let execDataWithoutSelector ← sliceFrom execData 4
  let innerData ← sliceFrom execData 196
  let (_, inputToken, inputTokenAmount, _, _) ← Abi.decode execArgs execDataWithoutSelector
  let innerSelector ← getSelector behind innerData
  require (innerSelector = 0x1fff991f) "Invalid execute selector"
  let innerDataWithoutSelector ← sliceFrom innerData 4
  let (recipient, outputToken, minAmountOut, _, _) ←
    Abi.decode executeArgs innerDataWithoutSelector
  pure (inputToken, inputTokenAmount, outputToken, recipient, minAmountOut)

def decodeTradeParams (behind : Behind) (data : List UInt8) : Outcome TradeParams := do
  require (20 ≤ data.length) "Insufficient data for 'to' address"
  let actualTo := getToAddress behind data
  let execData ← sliceFrom data 20
  let (inputToken, inputTokenAmount, outputToken, recipient, minAmountOut) ←
    decodeExecAndInnerData behind execData
  pure ⟨actualTo, execData, inputToken, outputToken, recipient, inputTokenAmount, minAmountOut⟩

/-- The target, the value and the calldata of the call; `behind` are the bytes that follow a byte string
where it was copied to. -/
def getTradeCalldata (behind : Behind)
    (sourceToken destinationToken destinationAddress : Address)
    (sourceQuantity minDestinationQuantity : ℕ) (data : List UInt8) :
    Outcome (Address × ℕ × List UInt8) := do
  let params ← decodeTradeParams behind data
  require (params.target ≠ 0) "To address is zero"
  require (params.inputToken ≠ ethAddress ∧ params.outputToken ≠ ethAddress) "ETH not supported"
  require (params.inputToken = sourceToken) "Mismatched input token"
  require (params.outputToken = destinationToken) "Mismatched output token"
  require (params.recipient = destinationAddress) "Mismatched recipient"
  require (params.inputTokenAmount = sourceQuantity) "Mismatched input token quantity"
  require (minDestinationQuantity ≤ params.minOutputTokenAmount) "Mismatched output token quantity"
  pure (params.target, 0, params.data)

/-! ## What is executed -/

/-- The call that `exec` makes is a call of `execute` whose arguments, when they can be decoded, have the
property. -/
def InnerCall (P : Address → Address → ℕ → Prop) (inner : List UInt8) : Prop :=
  StartsWith 0x1fff991f inner ∧
    ∀ recipient buyToken minAmountOut actions zidAndAffiliate,
      Abi.decode executeArgs (inner.drop 4) =
        .ok (recipient, buyToken, minAmountOut, actions, zidAndAffiliate) →
      P recipient buyToken minAmountOut

/-- The call of `exec`, as the contract that is called decodes it, takes the source token for the
destination token. -/
def Executes (callData : List UInt8) (sourceToken destinationToken destinationAddress : Address)
    (sourceQuantity minDestinationQuantity : ℕ) : Prop :=
  ∃ operator target inner,
    Abi.decode execArgs (callData.drop 4) =
      .ok (operator, sourceToken, sourceQuantity, target, inner) ∧
    InnerCall (fun recipient buyToken minAmountOut ↦ recipient = destinationAddress ∧
      buyToken = destinationToken ∧ minDestinationQuantity ≤ minAmountOut) inner

/-- The offset leads behind the head, to a call that has a selector. -/
def Canonical (callData : List UInt8) : Prop :=
  Abi.word callData 132 = 160 ∧ 4 ≤ Abi.word callData 164

/-- The offset leads to a call for the recipient and the token that stand at the fixed position, with at
least the amount that stands there. -/
def Coincides (callData : List UInt8) : Prop :=
  ∃ operator token amount target inner,
    Abi.decode execArgs (callData.drop 4) = .ok (operator, token, amount, target, inner) ∧
    InnerCall (fun recipient buyToken minAmountOut ↦
      recipient = BitVec.ofNat 160 (Abi.word callData 200) ∧
      buyToken = BitVec.ofNat 160 (Abi.word callData 232) ∧
      Abi.word callData 264 ≤ minAmountOut) inner

/-! ## What is accepted -/

variable {behind : Behind} {data callData inner : List UInt8} {value sourceQuantity : ℕ}
  {minDestinationQuantity : ℕ} {sourceToken destinationToken destinationAddress target : Address}

/-- What the adapter requires of the calldata that it forwards. -/
def Validates (callData : List UInt8) (sourceToken destinationToken destinationAddress : Address)
    (sourceQuantity minDestinationQuantity : ℕ) : Prop :=
  (∃ operator target inner, Abi.decode execArgs (callData.drop 4) =
    .ok (operator, sourceToken, sourceQuantity, target, inner)) ∧
  StartsWith 0x1fff991f (callData.drop 196) ∧
  ∃ minAmountOut actions zidAndAffiliate,
    Abi.decode executeArgs (callData.drop 200) =
      .ok (destinationAddress, destinationToken, minAmountOut, actions, zidAndAffiliate) ∧
    minDestinationQuantity ≤ minAmountOut

theorem getSelector_eq_ok {selector : BitVec 32} :
    getSelector behind data = .ok selector ↔ StartsWith selector data := by
  simp only [getSelector, Outcome.bind_eq_ok, Outcome.require_eq_ok, Outcome.pure_eq_ok]
  constructor
  · rintro ⟨_, hlength, hselector⟩
    exact (bytes4_eq_iff hlength).mp hselector
  · intro hselector
    exact ⟨(), hselector.1, (bytes4_eq_iff hselector.1).mpr hselector⟩

theorem sliceFrom_eq_ok {start : ℕ} {rest : List UInt8} :
    sliceFrom data start = .ok rest ↔ start ≤ data.length ∧ rest = data.drop start := by
  simp [sliceFrom, Unique.exists_iff, @eq_comm _ rest]

theorem decodeExecAndInnerData_eq_ok {token bought recipient : Address} {amount minAmountOut : ℕ} :
    decodeExecAndInnerData behind callData = .ok (token, amount, bought, recipient, minAmountOut) ↔
      (StartsWith 0x2213bc0b callData ∧ 196 ≤ callData.length) ∧
        (∃ operator target inner, Abi.decode execArgs (callData.drop 4) =
          .ok (operator, token, amount, target, inner)) ∧
        StartsWith 0x1fff991f (callData.drop 196) ∧
        ∃ actions zidAndAffiliate, Abi.decode executeArgs (callData.drop 200) =
          .ok (recipient, bought, minAmountOut, actions, zidAndAffiliate) := by
  have hdrop : (callData.drop 196).drop 4 = callData.drop 200 := List.drop_drop
  simp only [decodeExecAndInnerData, Outcome.bind_eq_ok, Outcome.require_eq_ok,
    Outcome.pure_eq_ok, getSelector_eq_ok, sliceFrom_eq_ok, Prod.exists, Prod.mk.injEq]
  constructor
  · rintro ⟨_, hexec, _, rfl, _, ⟨-, rfl⟩, _, ⟨hinside, rfl⟩, operator, _, _, target, inner, hargs, _,
      hinner, _, rfl, _, ⟨-, rfl⟩, _, _, _, actions, zidAndAffiliate, hexecute, rfl, rfl, rfl, rfl,
      rfl⟩
    rw [hdrop] at hexecute
    exact ⟨⟨hexec, hinside⟩, ⟨operator, target, inner, hargs⟩, hinner, actions, zidAndAffiliate,
      hexecute⟩
  · rintro ⟨⟨hexec, hinside⟩, ⟨operator, target, inner, hargs⟩, hinner, actions, zidAndAffiliate,
      hexecute⟩
    rw [← hdrop] at hexecute
    exact ⟨_, hexec, (), rfl, _, ⟨hexec.1, rfl⟩, _, ⟨hinside, rfl⟩, operator, _, _, target, inner,
      hargs, _, hinner, (), rfl, _, ⟨hinner.1, rfl⟩, _, _, _, actions, zidAndAffiliate, hexecute, rfl,
      rfl, rfl, rfl, rfl⟩

/-- The calldata is accepted for the trades that are validated against it; the other requirements are
about the address to call, the selector of `exec` and the pseudo-token. -/
theorem getTradeCalldata_eq_ok :
    getTradeCalldata behind sourceToken destinationToken destinationAddress sourceQuantity
        minDestinationQuantity data = .ok (target, value, callData) ↔
      (20 ≤ data.length ∧ target = getToAddress behind data ∧ value = 0 ∧
        callData = data.drop 20 ∧ target ≠ 0 ∧ sourceToken ≠ ethAddress ∧
        destinationToken ≠ ethAddress ∧ StartsWith 0x2213bc0b callData ∧ 196 ≤ callData.length) ∧
      Validates callData sourceToken destinationToken destinationAddress sourceQuantity
        minDestinationQuantity := by
  simp only [getTradeCalldata, decodeTradeParams, Outcome.bind_eq_ok, Outcome.require_eq_ok,
    Outcome.pure_eq_ok, sliceFrom_eq_ok, Prod.exists, Prod.mk.injEq, decodeExecAndInnerData_eq_ok]
  constructor
  · rintro ⟨_, ⟨_, hlength, _, ⟨-, rfl⟩, _, _, _, _, minAmountOut, ⟨⟨hexec, hinside⟩, hargs, hinner,
      actions, zidAndAffiliate, hexecute⟩, rfl⟩, _, hto, _, heth, _, rfl, _, rfl, _, rfl, _, rfl, _,
      hmin, rfl, rfl, rfl⟩
    exact ⟨⟨hlength, rfl, rfl, rfl, hto, heth.1, heth.2, hexec, hinside⟩, hargs, hinner,
      minAmountOut, actions, zidAndAffiliate, hexecute, hmin⟩
  · rintro ⟨⟨hlength, rfl, rfl, rfl, hto, hsource, hdestination, hexec, hinside⟩, hargs, hinner,
      minAmountOut, actions, zidAndAffiliate, hexecute, hmin⟩
    exact ⟨_, ⟨(), hlength, _, ⟨hlength, rfl⟩, _, _, _, _, minAmountOut, ⟨⟨hexec, hinside⟩, hargs,
      hinner, actions, zidAndAffiliate, hexecute⟩, rfl⟩, (), hto, (), ⟨hsource, hdestination⟩, (),
      rfl, (), rfl, (), rfl, (), rfl, (), hmin, rfl, rfl, rfl⟩

/-- The first words of the arguments of `execute`. -/
theorem decode_executeArgs_ok {recipient buyToken : Address} {minAmountOut : ℕ}
    {actions : List (List UInt8)} {zidAndAffiliate : ℕ}
    (h : Abi.decode executeArgs data =
      .ok (recipient, buyToken, minAmountOut, actions, zidAndAffiliate)) :
    160 ≤ data.length ∧ recipient = BitVec.ofNat 160 (Abi.word data 0) ∧
      buyToken = BitVec.ofNat 160 (Abi.word data 32) ∧ minAmountOut = Abi.word data 64 := by
  simp only [executeArgs, Abi.decode_eq_ok, Abi.Fields.cons_read_eq_ok,
    Abi.address_field_eq_ok, Abi.uint_field_eq_ok] at h
  obtain ⟨hlength, ⟨-, hrecipient⟩, ⟨-, hbuy⟩, ⟨-, hmin⟩, -⟩ := h
  exact ⟨hlength, hrecipient, hbuy, hmin⟩

/-- The bytes behind the head of `exec` are the last argument when the offset leads there. -/
theorem Canonical.inner_eq {operator token target' : Address} {amount : ℕ}
    (h : Canonical callData)
    (hargs : Abi.decode execArgs (callData.drop 4) = .ok (operator, token, amount, target', inner)) :
    inner = BigEndian.slice callData 196 (Abi.word callData 164) ∧
      196 + Abi.word callData 164 ≤ callData.length := by
  have hoffset : Abi.word (callData.drop 4) 128 = 160 := (Abi.word_drop callData 4 128).trans h.1
  have hinnerLength : Abi.word (callData.drop 4) 160 = Abi.word callData 164 :=
    Abi.word_drop callData 4 160
  simp only [execArgs, Abi.decode_eq_ok, Abi.Fields.cons_read_eq_ok, Abi.Fields.last_read,
    Abi.bytes_field_eq_ok, Abi.address_headSize, Abi.uint_headSize, Nat.reduceAdd, hoffset,
    hinnerLength, List.length_drop] at hargs
  obtain ⟨-, -, -, -, -, -, -, -, hinside, rfl⟩ := hargs
  rw [BigEndian.slice_drop]
  exact ⟨rfl, by omega⟩

/-- The canonical layout makes the call that stands at the fixed position. -/
theorem Canonical.innerCall {operator token target' : Address} {amount : ℕ}
    (h : Canonical callData)
    (hargs : Abi.decode execArgs (callData.drop 4) = .ok (operator, token, amount, target', inner))
    (hinner : StartsWith 0x1fff991f (callData.drop 196)) :
    InnerCall (fun recipient buyToken minAmountOut ↦
      recipient = BitVec.ofNat 160 (Abi.word callData 200) ∧
      buyToken = BitVec.ofNat 160 (Abi.word callData 232) ∧
      minAmountOut = Abi.word callData 264) inner := by
  obtain ⟨rfl, hinside⟩ := h.inner_eq hargs
  have hlength := BigEndian.length_slice hinside
  constructor
  · constructor
    · rw [hlength]
      exact h.2
    · have hselector := hinner.2
      rw [BigEndian.slice_drop] at hselector
      rw [BigEndian.slice_slice h.2]
      exact hselector
  · intro recipient buyToken minAmountOut actions zidAndAffiliate hexecute
    obtain ⟨hhead, hrecipient, hbuy, hmin⟩ := decode_executeArgs_ok hexecute
    rw [List.length_drop, hlength] at hhead
    rw [Abi.word_drop, Abi.word_slice (by omega)] at hrecipient hbuy hmin
    exact ⟨hrecipient, hbuy, hmin⟩

theorem InnerCall.mono {P Q : Address → Address → ℕ → Prop} (h : InnerCall P inner)
    (himp : ∀ recipient buyToken minAmountOut, P recipient buyToken minAmountOut →
      Q recipient buyToken minAmountOut) : InnerCall Q inner := by
  refine ⟨h.1, ?_⟩
  intro recipient buyToken minAmountOut actions zidAndAffiliate hexecute
  exact himp _ _ _ (h.2 _ _ _ _ _ hexecute)

/-- What the adapter validates is what stands at the fixed position. -/
theorem Validates.executeArgs_eq
    (h : Validates callData sourceToken destinationToken destinationAddress sourceQuantity
      minDestinationQuantity) :
    destinationAddress = BitVec.ofNat 160 (Abi.word callData 200) ∧
      destinationToken = BitVec.ofNat 160 (Abi.word callData 232) ∧
      minDestinationQuantity ≤ Abi.word callData 264 := by
  obtain ⟨-, -, minAmountOut, actions, zidAndAffiliate, hexecute, hmin⟩ := h
  obtain ⟨-, hrecipient, hbuy, rfl⟩ := decode_executeArgs_ok hexecute
  simp only [Abi.word_drop] at hrecipient hbuy hmin
  exact ⟨hrecipient, hbuy, hmin⟩

/-- Calldata that is accepted for some trade executes every trade for which it is accepted exactly when
the offset of the inner call leads behind the head, or to another call for the same recipient and token
and at least the same amount. -/
theorem getTradeCalldata_executes_iff
    (h : getTradeCalldata behind sourceToken destinationToken destinationAddress sourceQuantity
      minDestinationQuantity data = .ok (target, value, callData)) :
    (∀ behind' sourceToken' destinationToken' destinationAddress' sourceQuantity'
        minDestinationQuantity' result',
      getTradeCalldata behind' sourceToken' destinationToken' destinationAddress' sourceQuantity'
        minDestinationQuantity' data = .ok result' →
      Executes result'.2.2 sourceToken' destinationToken' destinationAddress' sourceQuantity'
        minDestinationQuantity') ↔
      Canonical callData ∨ Coincides callData := by
  obtain ⟨hframe, hvalid⟩ := getTradeCalldata_eq_ok.mp h
  constructor
  · intro hall
    -- the largest amount for which the calldata is accepted is the one at the fixed position
    have hlargest : Validates callData sourceToken destinationToken destinationAddress
        sourceQuantity (Abi.word callData 264) := by
      obtain ⟨hargs, hinner, minAmountOut, actions, zidAndAffiliate, hexecute, -⟩ := hvalid
      have hmin := (decode_executeArgs_ok hexecute).2.2.2
      rw [Abi.word_drop] at hmin
      exact ⟨hargs, hinner, minAmountOut, actions, zidAndAffiliate, hexecute, hmin.ge⟩
    obtain ⟨operator, target', inner, hargs, hcall⟩ :=
      hall behind _ _ _ _ _ _ (getTradeCalldata_eq_ok.mpr ⟨hframe, hlargest⟩)
    obtain ⟨hrecipient, hbuy, -⟩ := hvalid.executeArgs_eq
    rw [hrecipient, hbuy] at hcall
    exact Or.inr ⟨operator, sourceToken, sourceQuantity, target', inner, hargs, hcall⟩
  · rintro hlayout behind' source' destination' recipient' quantity' minimum' ⟨target', value',
      callData'⟩ h'
    obtain ⟨hframe', hvalid'⟩ := getTradeCalldata_eq_ok.mp h'
    obtain rfl : callData' = callData := hframe'.2.2.2.1.trans hframe.2.2.2.1.symm
    obtain ⟨hrecipient, hbuy, hmin⟩ := hvalid'.executeArgs_eq
    obtain ⟨⟨operator, target', inner, hargs⟩, hinner, -⟩ := hvalid'
    refine ⟨operator, target', inner, hargs, ?_⟩
    rw [hrecipient, hbuy]
    rcases hlayout with hcanonical | ⟨_, _, _, _, inner', hargs', hcall⟩
    · apply (hcanonical.innerCall hargs hinner).mono
      rintro recipient buyToken _ ⟨hr, hb, rfl⟩
      exact ⟨hr, hb, hmin⟩
    · obtain rfl : inner' = inner := by
        rw [hargs] at hargs'
        simp only [Except.ok.injEq, Prod.mk.injEq] at hargs'
        exact hargs'.2.2.2.2.symm
      apply hcall.mono
      rintro recipient buyToken minAmountOut ⟨hr, hb, hle⟩
      exact ⟨hr, hb, hmin.trans hle⟩

namespace Sample

/-- A call of `execute` without actions. -/
def executeCall (recipient buyToken minAmountOut : ℕ) : List UInt8 :=
  BigEndian.encode 4 0x1fff991f ++ Abi.words [recipient, buyToken, minAmountOut, 160, 0, 0]

/-- A call of `exec` at address 5 with 70 of token 1, and the length of an inner call of 196 bytes behind
the head. -/
def execCall (offset : ℕ) (inner : List UInt8) : List UInt8 :=
  packAddress 5 ++ BigEndian.encode 4 0x2213bc0b ++ Abi.words [0, 1, 70, 0, offset, 196] ++ inner

/-- At least 60 of token 3 for account 6. -/
def canonical : List UInt8 := execCall 160 (executeCall 6 3 60)

/-- The offset leads behind these bytes, to a call for account 9 that need not give anything. -/
def redirected : List UInt8 :=
  execCall 388 (executeCall 6 3 60 ++ Abi.words [196] ++ executeCall 9 3 0)

set_option synthInstance.maxSize 400 in
theorem redirected_not_executes :
    getTradeCalldata (fun _ _ ↦ 0) 1 3 6 70 60 redirected = .ok (5, 0, redirected.drop 20) ∧
      ¬ Executes (redirected.drop 20) 1 3 6 70 60 := by
  refine ⟨by decide +kernel, ?_⟩
  rintro ⟨operator, target, inner, hargs, -, hcall⟩
  have hdecoded : Abi.decode execArgs ((redirected.drop 20).drop 4) =
      .ok (0, 1, 70, 0, executeCall 9 3 0) := by
    decide +kernel
  obtain rfl : inner = executeCall 9 3 0 := by
    rw [hdecoded] at hargs
    simp only [Except.ok.injEq, Prod.mk.injEq] at hargs
    exact hargs.2.2.2.2.symm
  have hinner : Abi.decode executeArgs ((executeCall 9 3 0).drop 4) = .ok (9, 3, 0, [], 0) := by
    decide +kernel
  exact absurd (hcall 9 3 0 [] 0 hinner).1 (by decide)

theorem canonical_executes : Executes (canonical.drop 20) 1 3 6 70 60 := by
  have hok : getTradeCalldata (fun _ _ ↦ 0) 1 3 6 70 60 canonical =
      .ok (5, 0, canonical.drop 20) := by
    decide +kernel
  have hcanonical : Canonical (canonical.drop 20) := ⟨by decide +kernel, by decide +kernel⟩
  have hall := (getTradeCalldata_executes_iff hok).mpr (Or.inl hcanonical)
  exact hall (fun _ _ ↦ 0) 1 3 6 70 60 (5, 0, canonical.drop 20) hok

end Sample

end ZeroExApiV2Adapter

end SetProtocol
