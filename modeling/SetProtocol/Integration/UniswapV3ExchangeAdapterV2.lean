import Mathlib.Data.List.Induction
import SetProtocol.Lib.BytesLib

/-!
# Trades on Uniswap V3

The adapter for the router of Uniswap V3.  The manager's data is a path of tokens with the fees of the
pools between them, followed by a flag that says whether the input of the trade is fixed.  The adapter
reads the flag from the last byte and the two ends of the path from fixed distances to either end of the
data; the path of a trade with a fixed output is reversed.
-/

namespace SetProtocol

open BytesLib

structure ExactInputParams where
  path : List UInt8
  recipient : Address
  deadline : ℕ
  amountIn : ℕ
  amountOutMinimum : ℕ
deriving DecidableEq

structure ExactOutputParams where
  path : List UInt8
  recipient : Address
  deadline : ℕ
  amountOut : ℕ
  amountInMaximum : ℕ
deriving DecidableEq

/-- The calls of `ISwapRouter` that the adapter encodes, by their selectors. -/
inductive SwapRouterCall where
  | exactInput (params : ExactInputParams)
  | exactOutput (params : ExactOutputParams)
deriving DecidableEq

structure UniswapV3ExchangeAdapterV2 where
  swapRouter : Address

namespace UniswapV3ExchangeAdapterV2

def getTradeCalldata (a : UniswapV3ExchangeAdapterV2) (timestamp : ℕ)
    (sourceToken destinationToken destinationAddress : Address)
    (sourceQuantity destinationQuantity : ℕ) (data : List UInt8) :
    Outcome (Address × ℕ × SwapRouterCall) := do
  require (44 ≤ data.length) "Invalid data"
  let fixInput ← toBool data (data.length - 1)
  let sourceFromPath ← toAddress data (if fixInput then 0 else data.length - 21)
  let destinationFromPath ← toAddress data (if fixInput then data.length - 21 else 0)
  require (sourceToken = sourceFromPath) "Source token path mismatch"
  require (destinationToken = destinationFromPath) "Destination token path mismatch"
  let pathData ← slice data 0 (data.length - 1)
  let callData := if fixInput then
      .exactInput
        ⟨pathData, destinationAddress, timestamp, sourceQuantity, destinationQuantity⟩
    else
      .exactOutput
        ⟨pathData, destinationAddress, timestamp, destinationQuantity, sourceQuantity⟩
  pure (a.swapRouter, 0, callData)

def getSpender (a : UniswapV3ExchangeAdapterV2) : Address :=
  a.swapRouter

/-- Read an array. -/
def element {α : Type} (xs : List α) (i : ℕ) : Outcome α :=
  match xs[i]? with
  | some x => .ok x
  | none => .error "index out of bounds"

/-- One pass of the loop of `generateDataParam`. -/
def packHop (path : List Address) (fees : List UInt24) (data : List UInt8) (i : ℕ) :
    Outcome (List UInt8) := do
  let token ← element path i
  let fee ← element fees i
  pure (data ++ packAddress token ++ packUint24 fee)

/-- For an empty path the source counts down from zero and reads a token that is not there. -/
def generateDataParam (path : List Address) (fees : List UInt24) (fixIn : Bool) :
    Outcome (List UInt8) := do
  let data ← (List.range (path.length - 1)).foldlM (packHop path fees) []
  let last ← element path (path.length - 1)
  pure (data ++ packAddress last ++ packBool fixIn)

/-- Tokens and fees alternate in the bytes of a path. -/
def pathBytes : List Address → List UInt24 → List UInt8
  | [], _ => []
  | token :: path, [] => packAddress token ++ pathBytes path []
  | token :: path, fee :: fees => packAddress token ++ packUint24 fee ++ pathBytes path fees

/-! ## The bytes of a path -/

variable {path : List Address} {fees : List UInt24} {first last : Address}

theorem element_eq_ok {α : Type} {xs : List α} {i : ℕ} {x : α} :
    element xs i = .ok x ↔ xs[i]? = some x := by
  unfold element
  split <;> simp_all

theorem element_append {α : Type} (xs : List α) (x : α) (ys : List α) :
    element (xs ++ x :: ys) xs.length = .ok x := by
  simp [element]

/-- A pass over an entry of both arrays. -/
theorem packHop_append {tokens rest : List Address} {paid unpaid : List UInt24} {token : Address}
    {fee : UInt24} (hlength : tokens.length = paid.length) (data : List UInt8) :
    packHop (tokens ++ token :: rest) (paid ++ fee :: unpaid) data tokens.length =
      .ok (data ++ packAddress token ++ packUint24 fee) := by
  unfold packHop
  rw [element_append, Outcome.ok_bind, hlength, element_append, Outcome.ok_bind]
  rfl

/-- The bytes of the hops that were made, before the token that they lead to. -/
theorem pathBytes_append {tokens : List Address} {paid : List UInt24}
    (hlength : tokens.length = paid.length) (rest : List Address) (unpaid : List UInt24) :
    pathBytes (tokens ++ rest) (paid ++ unpaid) =
      pathBytes tokens paid ++ pathBytes rest unpaid := by
  induction tokens generalizing paid with
  | nil =>
    obtain rfl := List.length_eq_zero_iff.mp hlength.symm
    rfl
  | cons token tokens ih =>
    cases paid with
    | nil => cases hlength
    | cons fee paid =>
      simp only [List.cons_append, pathBytes]
      rw [ih (Nat.succ.inj hlength), List.append_assoc _ (pathBytes tokens paid)]

theorem foldlM_packHop (tokens : List Address) (paid : List UInt24)
    (hlength : tokens.length = paid.length) (rest : List Address) (unpaid : List UInt24) :
    (List.range tokens.length).foldlM (packHop (tokens ++ rest) (paid ++ unpaid)) [] =
      .ok (pathBytes tokens paid) := by
  induction tokens using List.reverseRecOn generalizing paid rest unpaid with
  | nil =>
    obtain rfl := List.length_eq_zero_iff.mp hlength.symm
    rfl
  | append_singleton tokens token ih =>
    obtain ⟨paid, fee, rfl⟩ : ∃ start fee, paid = start ++ [fee] := by
      rw [← List.dropLast_append_getLast (l := paid) (by grind)]
      exact ⟨_, _, rfl⟩
    have hlength' : tokens.length = paid.length := by simpa using hlength
    rw [List.length_append, List.length_singleton, List.range_succ, List.foldlM_append,
      List.append_assoc, List.append_assoc, ih paid hlength', Outcome.ok_bind,
      List.foldlM_cons, List.singleton_append, List.singleton_append, packHop_append hlength',
      pathBytes_append hlength']
    simp [pathBytes]

theorem length_pathBytes {tokens : List Address} {paid : List UInt24}
    (hlength : tokens.length = paid.length) : (pathBytes tokens paid).length = 23 * paid.length := by
  induction tokens generalizing paid with
  | nil =>
    obtain rfl := List.length_eq_zero_iff.mp hlength.symm
    rfl
  | cons token tokens ih =>
    cases paid with
    | nil => cases hlength
    | cons fee paid =>
      simp only [pathBytes, List.length_append, length_packAddress, length_packUint24,
        List.length_cons, ih (Nat.succ.inj hlength)]
      omega

/-- A path begins and ends with a token, and each fee adds a hop. -/
theorem pathBytes_ends (hpath : 2 ≤ path.length) (hfees : fees.length = path.length - 1) :
    ∃ first middle last, path.head? = some first ∧ path.getLast? = some last ∧
      pathBytes path fees = packAddress first ++ middle ++ packAddress last ∧
      middle.length + 20 = 23 * fees.length := by
  obtain ⟨first, tokens, last, rfl⟩ : ∃ first tokens last, path = first :: (tokens ++ [last]) := by
    obtain ⟨first, rest, rfl⟩ := List.exists_cons_of_length_pos (l := path) (by omega)
    rcases List.eq_nil_or_concat rest with rfl | ⟨tokens, last, rfl⟩
    · simp at hpath
    · exact ⟨first, tokens, last, by simp⟩
  obtain ⟨fee, paid, rfl⟩ := List.exists_cons_of_length_pos (l := fees) (by grind)
  have hlength : tokens.length = paid.length := by simpa using hfees.symm
  refine ⟨first, packUint24 fee ++ pathBytes tokens paid, last, rfl, ?_, ?_, ?_⟩
  · rw [← List.cons_append, List.getLast?_concat]
  · have hrest := pathBytes_append hlength [last] []
    rw [List.append_nil] at hrest
    rw [pathBytes, hrest]
    simp [pathBytes]
  · rw [List.length_append, length_packUint24, length_pathBytes hlength, List.length_cons]
    omega

/-- The data ends with the last token and the flag. -/
theorem generateDataParam_eq {tokens : List Address} (hlength : tokens.length = fees.length)
    (last : Address) (fixIn : Bool) :
    generateDataParam (tokens ++ [last]) fees fixIn =
      .ok (pathBytes (tokens ++ [last]) fees ++ packBool fixIn) := by
  have hloop := foldlM_packHop tokens fees hlength [last] []
  have hbytes := pathBytes_append hlength [last] []
  rw [List.append_nil] at hloop hbytes
  unfold generateDataParam
  rw [List.length_append, List.length_singleton, Nat.add_sub_cancel, hloop, Outcome.ok_bind,
    element_append, Outcome.ok_bind, hbytes, pathBytes, pathBytes, List.append_nil]
  rfl

/-- The call of the router for a path. -/
def routerCall (timestamp : ℕ) (destinationAddress : Address)
    (sourceQuantity destinationQuantity : ℕ) (path : List UInt8) (fixIn : Bool) : SwapRouterCall :=
  if fixIn then
    .exactInput ⟨path, destinationAddress, timestamp, sourceQuantity, destinationQuantity⟩
  else
    .exactOutput ⟨path, destinationAddress, timestamp, destinationQuantity, sourceQuantity⟩

/-- On a path with a token at either end, the adapter compares these tokens with those of the trade. -/
theorem getTradeCalldata_eq (a : UniswapV3ExchangeAdapterV2)
    (timestamp : ℕ) (sourceToken destinationToken destinationAddress : Address)
    (sourceQuantity destinationQuantity : ℕ) {middle : List UInt8} (hmiddle : 3 ≤ middle.length)
    (first last : Address) (fixIn : Bool) :
    a.getTradeCalldata timestamp sourceToken destinationToken destinationAddress sourceQuantity
        destinationQuantity (packAddress first ++ middle ++ packAddress last ++ packBool fixIn) =
      (do
        require (sourceToken = if fixIn then first else last) "Source token path mismatch"
        require (destinationToken = if fixIn then last else first)
          "Destination token path mismatch"
        pure (a.swapRouter, 0, routerCall timestamp destinationAddress sourceQuantity
          destinationQuantity (packAddress first ++ middle ++ packAddress last) fixIn)) := by
  have hpath : (packAddress first ++ middle ++ packAddress last).length = middle.length + 40 := by
    simp only [List.length_append, length_packAddress]
    omega
  have hdata : (packAddress first ++ middle ++ packAddress last ++ packBool fixIn).length =
      middle.length + 41 := by
    rw [List.length_append, hpath, length_packBool]
  have hflag : toBool (packAddress first ++ middle ++ packAddress last ++ packBool fixIn)
      (middle.length + 40) = .ok fixIn := toBool_append fixIn hpath
  have hfirst : toAddress ([] ++ packAddress first ++ (middle ++ packAddress last ++ packBool fixIn))
      0 = .ok first := toAddress_append first rfl
  have hlast : toAddress (packAddress first ++ middle ++ packAddress last ++ packBool fixIn)
      (middle.length + 20) = .ok last := toAddress_append last (by simp [Nat.add_comm])
  have hslice : slice (packAddress first ++ middle ++ packAddress last ++ packBool fixIn) 0
      (middle.length + 40) = .ok (packAddress first ++ middle ++ packAddress last) :=
    slice_prefix hpath
  simp only [List.nil_append, ← List.append_assoc] at hfirst
  unfold getTradeCalldata routerCall
  have hflagIndex : middle.length + 41 - 1 = middle.length + 40 := rfl
  have hlastIndex : middle.length + 41 - 21 = middle.length + 20 := rfl
  rw [hdata, require, if_pos (by omega), Outcome.ok_bind, hflagIndex, hlastIndex, hflag,
    Outcome.ok_bind, hslice]
  cases fixIn
  · simp only [Bool.false_eq_true, if_false, hfirst, hlast, Outcome.ok_bind]
  · simp only [if_true, hfirst, hlast, Outcome.ok_bind]

/-- Data that `generateDataParam` packs is accepted exactly for the trade between the ends of the path,
in the direction of the flag, and the router gets the bytes of the path with the quantities in the order
of its function. -/
theorem getTradeCalldata_generateDataParam (a : UniswapV3ExchangeAdapterV2) (timestamp : ℕ)
    (sourceToken destinationToken destinationAddress : Address)
    (sourceQuantity destinationQuantity : ℕ) (fixIn : Bool) (hpath : 2 ≤ path.length)
    (hfees : fees.length = path.length - 1) :
    ∃ data, generateDataParam path fees fixIn = .ok data ∧
      ((∃ result, a.getTradeCalldata timestamp sourceToken destinationToken destinationAddress
          sourceQuantity destinationQuantity data = .ok result) ↔
        path.head? = some (if fixIn then sourceToken else destinationToken) ∧
          path.getLast? = some (if fixIn then destinationToken else sourceToken)) ∧
      ∀ result, a.getTradeCalldata timestamp sourceToken destinationToken destinationAddress
          sourceQuantity destinationQuantity data = .ok result →
        result = (a.swapRouter, 0,
          if fixIn then .exactInput ⟨pathBytes path fees, destinationAddress, timestamp,
            sourceQuantity, destinationQuantity⟩
          else .exactOutput ⟨pathBytes path fees, destinationAddress, timestamp,
            destinationQuantity, sourceQuantity⟩) := by
  obtain ⟨first, middle, last, hfirst, hlast, hbytes, hmiddle⟩ := pathBytes_ends hpath hfees
  obtain ⟨tokens, last', rfl⟩ : ∃ tokens last', path = tokens ++ [last'] := by
    rcases List.eq_nil_or_concat path with rfl | ⟨tokens, last', rfl⟩
    · simp at hpath
    · exact ⟨tokens, last', by simp⟩
  have hlength : tokens.length = fees.length := by simpa using hfees.symm
  have hlong : 3 ≤ middle.length := by
    rw [List.length_append, List.length_singleton] at hpath
    omega
  refine ⟨_, generateDataParam_eq hlength last' fixIn, ?_⟩
  rw [hbytes, getTradeCalldata_eq a _ _ _ _ _ _ hlong, hfirst, hlast]
  simp only [Outcome.bind_eq_ok, Outcome.require_eq_ok, Outcome.pure_eq_ok, Option.some.injEq,
    routerCall]
  constructor
  · cases fixIn <;> grind
  · rintro result ⟨_, -, _, -, rfl⟩
    rfl

namespace Sample

/-- A trade of token 3 for a fixed output of token 1 takes the path from token 1 to token 3. -/
theorem reversed_path_accepted :
    ∃ data result, generateDataParam [1, 2, 3] [500, 3000] false = .ok data ∧
      (UniswapV3ExchangeAdapterV2.mk 9).getTradeCalldata 100 3 1 6 70 60 data = .ok result ∧
      result = (9, 0, .exactOutput ⟨pathBytes [1, 2, 3] [500, 3000], 6, 100, 60, 70⟩) := by
  have hpath : 2 ≤ ([1, 2, 3] : List Address).length := by decide
  have hfees : ([500, 3000] : List (BitVec 24)).length = ([1, 2, 3] : List Address).length - 1 := rfl
  obtain ⟨data, hdata, hiff, hresult⟩ := getTradeCalldata_generateDataParam ⟨9⟩ 100 3 1 6 70 60 false
    hpath hfees
  obtain ⟨result, hok⟩ := hiff.mpr ⟨rfl, rfl⟩
  exact ⟨data, result, hdata, hok, hresult result hok⟩

end Sample

end UniswapV3ExchangeAdapterV2

end SetProtocol
