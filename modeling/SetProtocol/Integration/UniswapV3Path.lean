import SetProtocol.Integration.UniswapV3ExchangeAdapterV2

/-!
# Paths of Uniswap V3

The router walks a path from the front.  A hop is a token and the fee of the pool that follows it; as
long as another pool follows, the walk skips a hop, and what is left over behind the last pool is ignored.
The walk arrives at the token behind the last whole hop, while the adapter for the router compares the
last bytes of the path with the token that the trade is for.
-/

namespace SetProtocol

open BytesLib

namespace UniswapV3Path

variable {path : List UInt8} {first last : Address}

/-- A pool between two tokens of a path. -/
structure Pool where
  tokenA : Address
  fee : UInt24
  tokenB : Address

def decodeFirstPool (path : List UInt8) : Outcome Pool := do
  let tokenA ← toAddress path 0
  let fee ← toUint24 path 20
  let tokenB ← toAddress path 23
  pure ⟨tokenA, fee, tokenB⟩

/-- The pools that the router trades with, one after the other. -/
def decodePools (path : List UInt8) : Outcome (List Pool) := do
  let pool ← decodeFirstPool path
  if 66 ≤ path.length then
    let pools ← decodePools (path.drop 23)
    pure (pool :: pools)
  else
    pure [pool]
termination_by path.length
decreasing_by
  rw [List.length_drop]
  omega

/-- The walk over the path starts from the first token and arrives at the last one. -/
def Connects (path : List UInt8) (first last : Address) : Prop :=
  ∃ pools, decodePools path = .ok pools ∧ pools.head?.map Pool.tokenA = some first ∧
    pools.getLast?.map Pool.tokenB = some last

theorem decodeFirstPool_eq (h : 43 ≤ path.length) :
    ∃ fee, decodeFirstPool path = .ok ⟨addressAt path 0, fee, addressAt path 23⟩ := by
  have hA : toAddress path 0 = .ok (addressAt path 0) := toAddress_eq_ok.mpr ⟨by omega, rfl⟩
  have hB : toAddress path 23 = .ok (addressAt path 23) := toAddress_eq_ok.mpr ⟨by omega, rfl⟩
  have hfee : 20 + 3 ≤ path.length := by omega
  simp only [decodeFirstPool, hA, hB, toUint24, require, if_pos hfee, if_pos (Nat.le_add_right 20 3),
    Outcome.ok_bind]
  exact ⟨_, rfl⟩

/-- The last token stands behind as many whole hops as fit before it. -/
theorem decodePools_connects (h : 43 ≤ path.length) :
    Connects path (addressAt path 0) (addressAt path ((path.length - 20) / 23 * 23)) := by
  induction hlength : path.length using Nat.strong_induction_on generalizing path with
  | _ length ih =>
    subst hlength
    obtain ⟨fee, hfirst⟩ := decodeFirstPool_eq h
    unfold Connects
    rw [decodePools, hfirst, Outcome.ok_bind]
    split_ifs with hmore
    · have hdrop : (path.drop 23).length = path.length - 23 := List.length_drop
      obtain ⟨pools, hpools, -, hlast⟩ := ih (path.drop 23).length (by omega) (by omega) rfl
      rw [hpools]
      refine ⟨_, rfl, rfl, ?_⟩
      have hne : pools ≠ [] := by
        rintro rfl
        cases hlast
      have hhops : 23 + (path.length - 23 - 20) / 23 * 23 = (path.length - 20) / 23 * 23 := by
        omega
      rw [List.getLast?_cons_of_ne_nil hne, hlast, addressAt_drop, hdrop, hhops]
    · have hhops : (path.length - 20) / 23 * 23 = 23 := by omega
      rw [hhops]
      exact ⟨_, rfl, rfl, rfl⟩

theorem connects_iff (h : 43 ≤ path.length) :
    Connects path first last ↔
      first = addressAt path 0 ∧ last = addressAt path ((path.length - 20) / 23 * 23) := by
  obtain ⟨pools, hpools, hfirst, hlast⟩ := decodePools_connects h
  unfold Connects
  rw [hpools]
  constructor
  · rintro ⟨_, hok, hfirst', hlast'⟩
    obtain rfl := Except.ok.inj hok
    rw [hfirst] at hfirst'
    rw [hlast] at hlast'
    exact ⟨(Option.some.inj hfirst').symm, (Option.some.inj hlast').symm⟩
  · rintro ⟨rfl, rfl⟩
    exact ⟨pools, rfl, hfirst, hlast⟩

/-- The walk over a path of tokens arrives at the last one. -/
theorem connects_pathBytes {tokens : List Address} {fees : List UInt24} (htokens : 2 ≤ tokens.length)
    (hfees : fees.length = tokens.length - 1) :
    43 ≤ (UniswapV3ExchangeAdapterV2.pathBytes tokens fees).length ∧
      ∃ first last, tokens.head? = some first ∧ tokens.getLast? = some last ∧
        Connects (UniswapV3ExchangeAdapterV2.pathBytes tokens fees) first last := by
  obtain ⟨first, middle, last, hfirst, hlast, hbytes, hmiddle⟩ :=
    UniswapV3ExchangeAdapterV2.pathBytes_ends htokens hfees
  have hlength : (packAddress first ++ middle ++ packAddress last).length = middle.length + 40 := by
    simp only [List.length_append, length_packAddress]
    omega
  have hlong : 43 ≤ (packAddress first ++ middle ++ packAddress last).length := by omega
  have hfirst' : addressAt ([] ++ packAddress first ++ (middle ++ packAddress last)) 0 = first :=
    addressAt_append first rfl
  have hlast' : addressAt (packAddress first ++ middle ++ packAddress last ++ [])
      (middle.length + 20) = last := by
    apply addressAt_append
    rw [List.length_append, length_packAddress, Nat.add_comm]
  have hhops : (middle.length + 40 - 20) / 23 * 23 = middle.length + 20 := by omega
  rw [List.nil_append, ← List.append_assoc] at hfirst'
  rw [List.append_nil] at hlast'
  rw [hbytes]
  refine ⟨hlong, first, last, hfirst, hlast, (connects_iff hlong).mpr ⟨hfirst'.symm, ?_⟩⟩
  rw [hlength, hhops, hlast']

end UniswapV3Path

open UniswapV3Path

/-- The router takes the source token for the destination token.  The path of a fixed output leads back
from the destination. -/
def SwapRouterCall.Trades (call : SwapRouterCall) (sourceToken destinationToken : Address) : Prop :=
  match call with
  | .exactInput params => Connects params.path sourceToken destinationToken
  | .exactOutput params => Connects params.path destinationToken sourceToken

namespace UniswapV3ExchangeAdapterV2

variable {a : UniswapV3ExchangeAdapterV2} {timestamp sourceQuantity destinationQuantity value : ℕ}
  {sourceToken destinationToken destinationAddress target : Address} {data : List UInt8}
  {call : SwapRouterCall}

/-- What the adapter compares, and the path that it forwards. -/
theorem getTradeCalldata_ok
    (h : a.getTradeCalldata timestamp sourceToken destinationToken destinationAddress sourceQuantity
      destinationQuantity data = .ok (target, value, call)) :
    44 ≤ data.length ∧ ∃ fixInput : Bool,
      sourceToken = addressAt data (if fixInput then 0 else data.length - 21) ∧
      destinationToken = addressAt data (if fixInput then data.length - 21 else 0) ∧
      call = routerCall timestamp destinationAddress sourceQuantity destinationQuantity
        (data.take (data.length - 1)) fixInput := by
  simp only [getTradeCalldata, Outcome.bind_eq_ok, Outcome.require_eq_ok, Outcome.pure_eq_ok,
    toAddress_eq_ok, slice_eq_ok, Prod.mk.injEq] at h
  obtain ⟨_, hlength, fixInput, -, _, ⟨-, rfl⟩, _, ⟨-, rfl⟩, _, hsource, _, hdestination, _, ⟨-, rfl⟩,
    -, -, rfl⟩ := h
  refine ⟨hlength, fixInput, hsource, hdestination, ?_⟩
  cases fixInput <;> rfl

/-- The router trades between the tokens that the adapter checked exactly when the path is a whole
number of hops, unless the bytes behind the last whole hop repeat the token at the end of the path. -/
theorem getTradeCalldata_trades_iff
    (h : a.getTradeCalldata timestamp sourceToken destinationToken destinationAddress sourceQuantity
      destinationQuantity data = .ok (target, value, call)) :
    call.Trades sourceToken destinationToken ↔
      23 ∣ data.length - 44 ∨
        addressAt data (data.length - 21) = addressAt data ((data.length - 21) / 23 * 23) := by
  obtain ⟨hlength, fixInput, hsource, hdestination, rfl⟩ := getTradeCalldata_ok h
  have hpath : (data.take (data.length - 1)).length = data.length - 1 := by
    rw [List.length_take]
    omega
  have hbefore : data.length - 1 - 20 = data.length - 21 := by omega
  have hfirst : addressAt (data.take (data.length - 1)) 0 = addressAt data 0 :=
    addressAt_take (by omega)
  have hlast : addressAt (data.take (data.length - 1)) ((data.length - 21) / 23 * 23) =
      addressAt data ((data.length - 21) / 23 * 23) :=
    addressAt_take (by omega)
  have hwhole : 23 ∣ data.length - 44 →
      addressAt data (data.length - 21) = addressAt data ((data.length - 21) / 23 * 23) := by
    intro hdvd
    have hhops : (data.length - 21) / 23 * 23 = data.length - 21 := by
      apply Nat.div_mul_cancel
      omega
    rw [hhops]
  rw [or_iff_right_of_imp hwhole]
  cases fixInput with
  | true =>
    simp only [routerCall, if_true, SwapRouterCall.Trades] at hsource hdestination ⊢
    rw [connects_iff (by omega), hpath, hbefore, hfirst, hlast, hsource, hdestination]
    exact and_iff_right rfl
  | false =>
    simp only [routerCall, Bool.false_eq_true, if_false, SwapRouterCall.Trades]
      at hsource hdestination ⊢
    rw [connects_iff (by omega), hpath, hbefore, hfirst, hlast, hsource, hdestination]
    exact and_iff_right rfl

namespace Sample

/-- The path from token 1 to token 7 with one byte behind it. -/
def trailing : List UInt8 :=
  packAddress 1 ++ packUint24 500 ++ packAddress 7 ++ [2] ++ packBool true

/-- The adapter takes the path for one to token 1794, to which the router does not trade. -/
theorem trailing_not_trades :
    ∃ target value call, (UniswapV3ExchangeAdapterV2.mk 9).getTradeCalldata 100 1 1794 6 70 60
        trailing = .ok (target, value, call) ∧ ¬ call.Trades 1 1794 := by
  refine ⟨9, 0, .exactInput ⟨trailing.take 44, 6, 100, 70, 60⟩, by decide +kernel, ?_⟩
  intro htrades
  have hends := (connects_iff (by decide)).mp htrades
  exact absurd hends.2 (by decide +kernel)

/-- Two hops from token 1 to token 3. -/
def twoHops : List UInt8 :=
  packAddress 1 ++ packUint24 500 ++ packAddress 2 ++ packUint24 3000 ++ packAddress 3 ++
    packBool true

theorem twoHops_trades :
    SwapRouterCall.Trades (.exactInput ⟨twoHops.take 66, 6, 100, 70, 60⟩) 1 3 := by
  have hok : (UniswapV3ExchangeAdapterV2.mk 9).getTradeCalldata 100 1 3 6 70 60 twoHops =
      .ok (9, 0, .exactInput ⟨twoHops.take 66, 6, 100, 70, 60⟩) := by
    decide +kernel
  exact (getTradeCalldata_trades_iff hok).mpr (Or.inl (by decide))

end Sample

end UniswapV3ExchangeAdapterV2

end SetProtocol
