import SetProtocol.Integration.UniswapV3ExchangeAdapterV2
import SetProtocol.Lib.PreciseUnitMath

/-!
# Splitting a trade between two exchanges

`AMMSplitter` sends a trade to Uniswap and to Sushiswap in proportion to their liquidity along the path,
which has one hop or two.  The liquidity of a hop is the balance that the pair holds of the second token of
the path.  For a pair that does not exist the factory returns the zero address, and the balance of the zero
address counts as liquidity.
-/

namespace SetProtocol

open PreciseUnitMath
open UniswapV3ExchangeAdapterV2 (element element_eq_ok)

structure UniswapV2Factory where
  getPair : Address → Address → Address

/-- The quotes of a router: the amounts along a path. -/
structure UniswapV2Router where
  getAmountsOut : (amountIn : ℕ) → (path : List Address) → Outcome (List ℕ)
  getAmountsIn : (amountOut : ℕ) → (path : List Address) → Outcome (List ℕ)

structure AMMSplitter where
  uniRouter : UniswapV2Router
  sushiRouter : UniswapV2Router
  uniFactory : UniswapV2Factory
  sushiFactory : UniswapV2Factory

namespace AMMSplitter

structure TradeInfo where
  uniSize : ℕ
  sushiSize : ℕ
deriving DecidableEq

/-- `balanceOf` gives the balances of a token by its holders. -/
def getTokenBalanceInPair (balanceOf : Address → Address → ℕ) (factory : UniswapV2Factory)
    (pairedToken balanceToken : Address) : ℕ :=
  balanceOf balanceToken (factory.getPair pairedToken balanceToken)

def calculateTwoHopRatio (uniLiqPoolA uniLiqPoolB sushiLiqPoolA sushiLiqPoolB : ℕ) : Outcome ℕ := do
  let sushiLiquidity ← SafeMath.add sushiLiqPoolA sushiLiqPoolB
  let uniLiquidity ← SafeMath.add uniLiqPoolA uniLiqPoolB
  let a ← preciseDiv sushiLiquidity uniLiquidity
  let b ← preciseDiv uniLiqPoolA sushiLiqPoolA
  let c ← preciseDiv uniLiqPoolB sushiLiqPoolB
  preciseMul (← preciseMul a b) c

/-- The last two assignments of `_getTradeSizes`. -/
def splitSize (size uniPercentage : ℕ) : Outcome TradeInfo := do
  let uniSize ← preciseMul size uniPercentage
  let sushiSize ← SafeMath.sub size uniSize
  pure ⟨uniSize, sushiSize⟩

def getTradeSizes (s : AMMSplitter) (balanceOf : Address → Address → ℕ) (path : List Address)
    (size : ℕ) : Outcome TradeInfo :=
  if path.length = 2 then do
    let token0 ← element path 0
    let token1 ← element path 1
    let uniLiqPool := getTokenBalanceInPair balanceOf s.uniFactory token0 token1
    let sushiLiqPool := getTokenBalanceInPair balanceOf s.sushiFactory token0 token1
    let liquidity ← SafeMath.add uniLiqPool sushiLiqPool
    let uniPercentage ← preciseDiv uniLiqPool liquidity
    splitSize size uniPercentage
  else do
    let token0 ← element path 0
    let token1 ← element path 1
    let token2 ← element path 2
    let uniLiqPoolA := getTokenBalanceInPair balanceOf s.uniFactory token0 token1
    let uniLiqPoolB := getTokenBalanceInPair balanceOf s.uniFactory token2 token1
    if uniLiqPoolA = 0 ∨ uniLiqPoolB = 0 then
      pure ⟨0, size⟩
    else do
      let sushiLiqPoolA := getTokenBalanceInPair balanceOf s.sushiFactory token0 token1
      let sushiLiqPoolB := getTokenBalanceInPair balanceOf s.sushiFactory token2 token1
      if sushiLiqPoolA = 0 ∨ sushiLiqPoolB = 0 then
        pure ⟨size, 0⟩
      else do
        let ratio ← calculateTwoHopRatio uniLiqPoolA uniLiqPoolB sushiLiqPoolA sushiLiqPoolB
        let shares ← SafeMath.add ratio preciseUnit
        let uniPercentage ← preciseDiv ratio shares
        splitSize size uniPercentage

def checkPath (path : List Address) : Outcome Unit :=
  require (path.length = 2 ∨ path.length = 3) "AMMSplitter: incorrect path length"

/-- For a size of zero the router is not called. -/
def getTradeInputOrOutput (router : UniswapV2Router) (size : ℕ) (path : List Address)
    (isExactInput : Bool) : Outcome (List ℕ) :=
  if size = 0 then
    pure (List.replicate path.length 0)
  else if isExactInput then
    router.getAmountsOut size path
  else
    router.getAmountsIn size path

/-- One pass of the loop of `_getAmounts`. -/
def addAmounts (uniTradeResults sushiTradeResults : List ℕ) (i : ℕ) : Outcome ℕ := do
  let uniAmount ← element uniTradeResults i
  let sushiAmount ← element sushiTradeResults i
  SafeMath.add uniAmount sushiAmount

def getAmounts (s : AMMSplitter) (balanceOf : Address → Address → ℕ) (size : ℕ)
    (path : List Address) (isExactInput : Bool) : Outcome (List ℕ) := do
  checkPath path
  let tradeInfo ← s.getTradeSizes balanceOf path size
  let uniTradeResults ← getTradeInputOrOutput s.uniRouter tradeInfo.uniSize path isExactInput
  let sushiTradeResults ← getTradeInputOrOutput s.sushiRouter tradeInfo.sushiSize path isExactInput
  (List.range path.length).mapM (addAmounts uniTradeResults sushiTradeResults)

def getAmountsOut (s : AMMSplitter) (balanceOf : Address → Address → ℕ) (amountIn : ℕ)
    (path : List Address) : Outcome (List ℕ) :=
  s.getAmounts balanceOf amountIn path true

def getAmountsIn (s : AMMSplitter) (balanceOf : Address → Address → ℕ) (amountOut : ℕ)
    (path : List Address) : Outcome (List ℕ) :=
  s.getAmounts balanceOf amountOut path false

/-! ## What an exchange has of a path -/

/-- The pairs along a path, each by the token that is paired with the second token of the path. -/
def hops : List Address → List (Address × Address)
  | [token0, token1] => [(token0, token1)]
  | [token0, token1, token2] => [(token0, token1), (token2, token1)]
  | _ => []

section

variable (balanceOf : Address → Address → ℕ) (factory : UniswapV2Factory) (path : List Address)

/-- What is measured of every hop is positive. -/
def Liquid : Prop :=
  ∀ hop ∈ hops path, 0 < getTokenBalanceInPair balanceOf factory hop.1 hop.2

/-- Every pair of the path exists and has liquidity. -/
def Complete : Prop :=
  ∀ hop ∈ hops path, factory.getPair hop.1 hop.2 ≠ 0 ∧
    0 < getTokenBalanceInPair balanceOf factory hop.1 hop.2

/-- A pair of the path is missing, and the zero address hides it: every balance is positive. -/
def Masked : Prop :=
  Liquid balanceOf factory path ∧ ¬ Complete balanceOf factory path

instance : Decidable (Liquid balanceOf factory path) :=
  List.decidableBAll _ (hops path)

instance : Decidable (Complete balanceOf factory path) :=
  List.decidableBAll _ (hops path)

instance : Decidable (Masked balanceOf factory path) :=
  inferInstanceAs (Decidable (_ ∧ _))

end

/-- The ratio of the trades on two hops, each factor rounded down. -/
def twoHopRatio (uniA uniB sushiA sushiB : ℕ) : ℕ :=
  (sushiA + sushiB) * preciseUnit / (uniA + uniB) * (uniA * preciseUnit / sushiA) / preciseUnit *
    (uniB * preciseUnit / sushiB) / preciseUnit

/-- The share of Uniswap in precise units, from the measured balances. -/
def uniShare (s : AMMSplitter) (balanceOf : Address → Address → ℕ) (path : List Address) : ℕ :=
  match (hops path).map fun hop ↦
    (getTokenBalanceInPair balanceOf s.uniFactory hop.1 hop.2,
      getTokenBalanceInPair balanceOf s.sushiFactory hop.1 hop.2) with
  | [(uni, sushi)] => uni * preciseUnit / (uni + sushi)
  | [(uniA, sushiA), (uniB, sushiB)] =>
    twoHopRatio uniA uniB sushiA sushiB * preciseUnit /
      (twoHopRatio uniA uniB sushiA sushiB + preciseUnit)
  | _ => 0

/-- The trade is split when both exchanges seem to have the path, and is left whole otherwise. -/
def sizesByLiquidity (s : AMMSplitter) (balanceOf : Address → Address → ℕ) (path : List Address)
    (size : ℕ) : TradeInfo :=
  if ¬ Liquid balanceOf s.uniFactory path then ⟨0, size⟩
  else if ¬ Liquid balanceOf s.sushiFactory path then ⟨size, 0⟩
  else ⟨size * s.uniShare balanceOf path / preciseUnit,
    size - size * s.uniShare balanceOf path / preciseUnit⟩

variable {s : AMMSplitter} {balanceOf : Address → Address → ℕ} {path : List Address} {size : ℕ}

theorem Complete.liquid {factory : UniswapV2Factory} (h : Complete balanceOf factory path) :
    Liquid balanceOf factory path := fun hop hhop ↦ (h hop hhop).2

theorem liquid_one_iff {factory : UniswapV2Factory} {token0 token1 : Address} :
    Liquid balanceOf factory [token0, token1] ↔
      0 < getTokenBalanceInPair balanceOf factory token0 token1 := by
  simp [Liquid, hops]

theorem liquid_two_iff {factory : UniswapV2Factory} {token0 token1 token2 : Address} :
    Liquid balanceOf factory [token0, token1, token2] ↔
      0 < getTokenBalanceInPair balanceOf factory token0 token1 ∧
        0 < getTokenBalanceInPair balanceOf factory token2 token1 := by
  simp [Liquid, hops]

theorem mul_share_le {share : ℕ} (h : share ≤ preciseUnit) (size : ℕ) :
    size * share / preciseUnit ≤ size := by
  apply Nat.div_le_of_le_mul
  rw [Nat.mul_comm preciseUnit]
  exact Nat.mul_le_mul_left size h

/-! ## The sizes that are returned -/

theorem calculateTwoHopRatio_ensures {uniA uniB sushiA sushiB : ℕ} (huni : 0 < uniA)
    (hsushiA : 0 < sushiA) (hsushiB : 0 < sushiB) :
    Outcome.Ensures SafeMath.Overflow (· = twoHopRatio uniA uniB sushiA sushiB)
      (calculateTwoHopRatio uniA uniB sushiA sushiB) := by
  apply (SafeMath.add_ensures _ _).bind
  rintro _ rfl
  apply (SafeMath.add_ensures _ _).bind
  rintro _ rfl
  apply (preciseDiv_ensures _ (Nat.add_pos_left huni uniB)).bind
  rintro _ rfl
  apply (preciseDiv_ensures _ hsushiA).bind
  rintro _ rfl
  apply (preciseDiv_ensures _ hsushiB).bind
  rintro _ rfl
  apply (preciseMul_ensures _ _).bind
  rintro _ rfl
  exact preciseMul_ensures _ _

theorem splitSize_ensures {share : ℕ} (h : share ≤ preciseUnit) (size : ℕ) :
    Outcome.Ensures SafeMath.Overflow
      (· = ⟨size * share / preciseUnit, size - size * share / preciseUnit⟩) (splitSize size share) := by
  apply (preciseMul_ensures _ _).bind
  rintro _ rfl
  apply (SafeMath.sub_ensures (mul_share_le h size)).bind
  rintro _ rfl
  exact .ok rfl

theorem splitSize_sum {share : ℕ} {sizes : TradeInfo} (h : splitSize size share = .ok sizes) :
    sizes.uniSize + sizes.sushiSize = size := by
  simp only [splitSize, Outcome.bind_eq_ok, SafeMath.sub_eq_ok, Outcome.pure_eq_ok] at h
  obtain ⟨uniSize, -, _, ⟨hle, rfl⟩, rfl⟩ := h
  exact Nat.add_sub_cancel' hle

theorem share_le {part whole : ℕ} (h : part ≤ whole) : part * preciseUnit / whole ≤ preciseUnit := by
  apply Nat.div_le_of_le_mul
  exact Nat.mul_le_mul_right preciseUnit h

theorem share_lt {part whole : ℕ} (h : part < whole) : part * preciseUnit / whole < preciseUnit := by
  apply Nat.div_lt_of_lt_mul
  exact Nat.mul_lt_mul_of_pos_right h preciseUnit_pos

/-- One hop: the formula gives the whole size to the only exchange with liquidity. -/
theorem getTradeSizes_one_ensures {token0 token1 : Address}
    (h : Liquid balanceOf s.uniFactory [token0, token1] ∨
      Liquid balanceOf s.sushiFactory [token0, token1]) :
    Outcome.Ensures SafeMath.Overflow (· = s.sizesByLiquidity balanceOf [token0, token1] size)
      (s.getTradeSizes balanceOf [token0, token1] size) := by
  unfold sizesByLiquidity
  simp only [liquid_one_iff] at *
  change Outcome.Ensures _ _ (do
    let liquidity ← SafeMath.add (getTokenBalanceInPair balanceOf s.uniFactory token0 token1)
      (getTokenBalanceInPair balanceOf s.sushiFactory token0 token1)
    let uniPercentage ←
      preciseDiv (getTokenBalanceInPair balanceOf s.uniFactory token0 token1) liquidity
    splitSize size uniPercentage)
  have hshare : s.uniShare balanceOf [token0, token1] =
      getTokenBalanceInPair balanceOf s.uniFactory token0 token1 * preciseUnit /
        (getTokenBalanceInPair balanceOf s.uniFactory token0 token1 +
          getTokenBalanceInPair balanceOf s.sushiFactory token0 token1) := rfl
  rw [hshare]
  generalize getTokenBalanceInPair balanceOf s.uniFactory token0 token1 = uni at *
  generalize getTokenBalanceInPair balanceOf s.sushiFactory token0 token1 = sushi at *
  apply (SafeMath.add_ensures _ _).bind
  rintro _ rfl
  apply (preciseDiv_ensures _ (by omega)).bind
  rintro _ rfl
  have hsplit := splitSize_ensures (share_le (Nat.le_add_right uni sushi)) size
  rcases Nat.eq_zero_or_pos uni with rfl | huni
  · simpa using hsplit
  · rcases Nat.eq_zero_or_pos sushi with rfl | hsushi
    · have hone : uni * preciseUnit / (uni + 0) = preciseUnit := Nat.mul_div_cancel_left _ huni
      rw [hone, Nat.mul_div_cancel _ preciseUnit_pos, Nat.sub_self] at hsplit
      simpa [hone, huni] using hsplit
    · simpa [huni, hsushi] using hsplit

/-- Two hops: the early returns leave the size whole. -/
theorem getTradeSizes_two_ensures {token0 token1 token2 : Address} :
    Outcome.Ensures SafeMath.Overflow
      (· = s.sizesByLiquidity balanceOf [token0, token1, token2] size)
      (s.getTradeSizes balanceOf [token0, token1, token2] size) := by
  unfold sizesByLiquidity
  simp only [liquid_two_iff]
  change Outcome.Ensures _ _ (
    if getTokenBalanceInPair balanceOf s.uniFactory token0 token1 = 0 ∨
        getTokenBalanceInPair balanceOf s.uniFactory token2 token1 = 0 then pure ⟨0, size⟩
    else
      if getTokenBalanceInPair balanceOf s.sushiFactory token0 token1 = 0 ∨
          getTokenBalanceInPair balanceOf s.sushiFactory token2 token1 = 0 then pure ⟨size, 0⟩
      else do
        let ratio ← calculateTwoHopRatio _ _ _ _
        let shares ← SafeMath.add ratio preciseUnit
        let uniPercentage ← preciseDiv ratio shares
        splitSize size uniPercentage)
  have hshare : s.uniShare balanceOf [token0, token1, token2] =
      twoHopRatio (getTokenBalanceInPair balanceOf s.uniFactory token0 token1)
        (getTokenBalanceInPair balanceOf s.uniFactory token2 token1)
        (getTokenBalanceInPair balanceOf s.sushiFactory token0 token1)
        (getTokenBalanceInPair balanceOf s.sushiFactory token2 token1) * preciseUnit /
      (twoHopRatio (getTokenBalanceInPair balanceOf s.uniFactory token0 token1)
        (getTokenBalanceInPair balanceOf s.uniFactory token2 token1)
        (getTokenBalanceInPair balanceOf s.sushiFactory token0 token1)
        (getTokenBalanceInPair balanceOf s.sushiFactory token2 token1) + preciseUnit) := rfl
  rw [hshare]
  generalize getTokenBalanceInPair balanceOf s.uniFactory token0 token1 = uniA
  generalize getTokenBalanceInPair balanceOf s.uniFactory token2 token1 = uniB
  generalize getTokenBalanceInPair balanceOf s.sushiFactory token0 token1 = sushiA
  generalize getTokenBalanceInPair balanceOf s.sushiFactory token2 token1 = sushiB
  by_cases huni : 0 < uniA ∧ 0 < uniB
  · have hcontinue : ¬ (uniA = 0 ∨ uniB = 0) := by omega
    rw [if_neg hcontinue, if_neg (not_not.mpr huni)]
    by_cases hsushi : 0 < sushiA ∧ 0 < sushiB
    · have hcontinue : ¬ (sushiA = 0 ∨ sushiB = 0) := by omega
      rw [if_neg hcontinue, if_neg (not_not.mpr hsushi)]
      apply (calculateTwoHopRatio_ensures huni.1 hsushi.1 hsushi.2).bind
      rintro _ rfl
      apply (SafeMath.add_ensures _ _).bind
      rintro _ rfl
      apply (preciseDiv_ensures _ (Nat.add_pos_right _ preciseUnit_pos)).bind
      rintro _ rfl
      have hle : twoHopRatio uniA uniB sushiA sushiB * preciseUnit /
          (twoHopRatio uniA uniB sushiA sushiB + preciseUnit) ≤ preciseUnit :=
        share_le (Nat.le_add_right _ _)
      exact splitSize_ensures hle size
    · have hreturn : sushiA = 0 ∨ sushiB = 0 := by omega
      rw [if_pos hreturn, if_pos hsushi]
      exact .ok rfl
  · have hreturn : uniA = 0 ∨ uniB = 0 := by omega
    rw [if_pos hreturn, if_pos huni]
    exact .ok rfl

theorem getTradeSizes_ensures (hpath : checkPath path = .ok ())
    (h : Liquid balanceOf s.uniFactory path ∨ Liquid balanceOf s.sushiFactory path) :
    Outcome.Ensures SafeMath.Overflow (· = s.sizesByLiquidity balanceOf path size)
      (s.getTradeSizes balanceOf path size) := by
  rw [checkPath, Outcome.require_eq_ok, List.length_eq_two, List.length_eq_three] at hpath
  obtain ⟨token0, token1, rfl⟩ | ⟨token0, token1, token2, rfl⟩ := hpath
  · exact getTradeSizes_one_ensures h
  · exact getTradeSizes_two_ensures

/-- The sizes add up, whatever the balances are. -/
theorem getTradeSizes_sum {sizes : TradeInfo} (h : s.getTradeSizes balanceOf path size = .ok sizes) :
    sizes.uniSize + sizes.sushiSize = size := by
  unfold getTradeSizes at h
  split at h
  · simp only [Outcome.bind_eq_ok] at h
    obtain ⟨token0, -, token1, -, liquidity, -, share, -, hsplit⟩ := h
    exact splitSize_sum hsplit
  · simp only [Outcome.bind_eq_ok] at h
    obtain ⟨token0, -, token1, -, token2, -, h⟩ := h
    split at h
    · cases h
      exact Nat.zero_add size
    · split at h
      · cases h
        exact Nat.add_zero size
      · simp only [Outcome.bind_eq_ok] at h
        obtain ⟨ratio, -, shares, -, share, -, hsplit⟩ := h
        exact splitSize_sum hsplit

/-- Next to liquidity on Sushiswap the share of Uniswap is not the whole. -/
theorem uniShare_lt (hpath : checkPath path = .ok ()) (h : Liquid balanceOf s.sushiFactory path) :
    s.uniShare balanceOf path < preciseUnit := by
  rw [checkPath, Outcome.require_eq_ok, List.length_eq_two, List.length_eq_three] at hpath
  obtain ⟨token0, token1, rfl⟩ | ⟨token0, token1, token2, rfl⟩ := hpath
  · exact share_lt (Nat.lt_add_of_pos_right (liquid_one_iff.mp h))
  · exact share_lt (Nat.lt_add_of_pos_right preciseUnit_pos)

/-! ## Missing pairs -/

/-- What the sizes are to be. -/
structure Routes (s : AMMSplitter) (balanceOf : Address → Address → ℕ) (path : List Address)
    (size : ℕ) (sizes : TradeInfo) : Prop where
  sum : sizes.uniSize + sizes.sushiSize = size
  onlyUni : Complete balanceOf s.uniFactory path → ¬ Complete balanceOf s.sushiFactory path →
    sizes = ⟨size, 0⟩
  onlySushi : ¬ Complete balanceOf s.uniFactory path → Complete balanceOf s.sushiFactory path →
    sizes = ⟨0, size⟩
  both : Complete balanceOf s.uniFactory path → Complete balanceOf s.sushiFactory path →
    sizes.uniSize ≤ size ∧ sizes.sushiSize ≤ size

theorem eq_size_zero_iff {share : ℕ} (h : share < preciseUnit) :
    (⟨size * share / preciseUnit, size - size * share / preciseUnit⟩ : TradeInfo) = ⟨size, 0⟩ ↔
      size = 0 := by
  rw [TradeInfo.mk.injEq]
  constructor
  · rintro ⟨huni, -⟩
    by_contra hsize
    apply absurd huni
    apply Nat.ne_of_lt
    apply Nat.div_lt_of_lt_mul
    rw [Nat.mul_comm preciseUnit]
    exact Nat.mul_lt_mul_of_pos_left h (Nat.pos_of_ne_zero hsize)
  · rintro rfl
    simp

theorem eq_zero_size_iff {share : ℕ} :
    (⟨size * share / preciseUnit, size - size * share / preciseUnit⟩ : TradeInfo) = ⟨0, size⟩ ↔
      size * share < preciseUnit := by
  rw [TradeInfo.mk.injEq, Nat.div_eq_zero_iff_lt preciseUnit_pos]
  constructor
  · exact And.left
  · intro hlt
    refine ⟨hlt, ?_⟩
    rw [Nat.div_eq_of_lt hlt, Nat.sub_zero]

section

variable {sizes : TradeInfo} (hpath : checkPath path = .ok ())
  (hsizes : s.getTradeSizes balanceOf path size = .ok sizes)

include hpath hsizes

theorem eq_sizesByLiquidity
    (h : Complete balanceOf s.uniFactory path ∨ Complete balanceOf s.sushiFactory path) :
    sizes = s.sizesByLiquidity balanceOf path size :=
  (getTradeSizes_ensures hpath (h.imp Complete.liquid Complete.liquid)).of_ok hsizes

/-- Uniswap next to liquidity of the zero address. -/
theorem onlyUni_of_masked_iff (huni : Complete balanceOf s.uniFactory path)
    (hmasked : Masked balanceOf s.sushiFactory path) : sizes = ⟨size, 0⟩ ↔ size = 0 := by
  rw [eq_sizesByLiquidity hpath hsizes (Or.inl huni), sizesByLiquidity,
    if_neg (not_not.mpr huni.liquid), if_neg (not_not.mpr hmasked.1)]
  exact eq_size_zero_iff (uniShare_lt hpath hmasked.1)

/-- Sushiswap next to liquidity of the zero address. -/
theorem onlySushi_of_masked_iff (hmasked : Masked balanceOf s.uniFactory path)
    (hsushi : Complete balanceOf s.sushiFactory path) :
    sizes = ⟨0, size⟩ ↔ size * s.uniShare balanceOf path < preciseUnit := by
  rw [eq_sizesByLiquidity hpath hsizes (Or.inr hsushi), sizesByLiquidity,
    if_neg (not_not.mpr hmasked.1), if_neg (not_not.mpr hsushi.liquid)]
  exact eq_zero_size_iff

/-- Uniswap alone: what is measured of Sushiswap is zero somewhere. -/
theorem onlyUni_of_not_liquid (huni : Complete balanceOf s.uniFactory path)
    (hsushi : ¬ Liquid balanceOf s.sushiFactory path) : sizes = ⟨size, 0⟩ := by
  rw [eq_sizesByLiquidity hpath hsizes (Or.inl huni), sizesByLiquidity,
    if_neg (not_not.mpr huni.liquid), if_pos hsushi]

theorem onlySushi_of_not_liquid (huni : ¬ Liquid balanceOf s.uniFactory path)
    (hsushi : Complete balanceOf s.sushiFactory path) : sizes = ⟨0, size⟩ := by
  rw [eq_sizesByLiquidity hpath hsizes (Or.inr hsushi), sizesByLiquidity, if_pos huni]

theorem routes_of_masked
    (hmaskedSushi : Complete balanceOf s.uniFactory path → Masked balanceOf s.sushiFactory path →
      sizes = ⟨size, 0⟩)
    (hmaskedUni : Masked balanceOf s.uniFactory path → Complete balanceOf s.sushiFactory path →
      sizes = ⟨0, size⟩) : Routes s balanceOf path size sizes := by
  have hsum := getTradeSizes_sum hsizes
  refine ⟨hsum, ?_, ?_, fun _ _ ↦ by omega⟩
  · intro huni hsushi
    by_cases hliquid : Liquid balanceOf s.sushiFactory path
    · exact hmaskedSushi huni ⟨hliquid, hsushi⟩
    · exact onlyUni_of_not_liquid hpath hsizes huni hliquid
  · intro huni hsushi
    by_cases hliquid : Liquid balanceOf s.uniFactory path
    · exact hmaskedUni ⟨hliquid, huni⟩ hsushi
    · exact onlySushi_of_not_liquid hpath hsizes hliquid hsushi

end

/-- A missing pair is hidden by what the zero address holds of the second token. -/
theorem Masked.zero_balance {factory : UniswapV2Factory} (h : Masked balanceOf factory path) :
    ∃ hop ∈ hops path, factory.getPair hop.1 hop.2 = 0 ∧ 0 < balanceOf hop.2 0 := by
  obtain ⟨hliquid, hcomplete⟩ := h
  unfold Complete at hcomplete
  push Not at hcomplete
  obtain ⟨hop, hhop, himp⟩ := hcomplete
  have hpos := hliquid hop hhop
  have hmissing : factory.getPair hop.1 hop.2 = 0 := by
    by_contra hne
    exact absurd (himp hne) (not_le.mpr hpos)
  refine ⟨hop, hhop, hmissing, ?_⟩
  rwa [getTokenBalanceInPair, hmissing] at hpos

/-- As long as the zero address holds no token, missing pairs are routed around. -/
theorem routes_of_zero_balance (hpath : checkPath path = .ok ()) (hzero : ∀ token, balanceOf token 0 = 0)
    {sizes : TradeInfo} (hsizes : s.getTradeSizes balanceOf path size = .ok sizes) :
    Routes s balanceOf path size sizes := by
  have hnever : ∀ factory, ¬ Masked balanceOf factory path := by
    intro factory hmasked
    obtain ⟨hop, -, -, hpos⟩ := hmasked.zero_balance
    exact absurd (hzero hop.2) hpos.ne'
  exact routes_of_masked hpath hsizes (fun _ hmasked ↦ absurd hmasked (hnever _))
    (fun hmasked ↦ absurd hmasked (hnever _))

/-- The sizes are as they are to be unless the zero address hides a missing pair: with Uniswap complete
nothing must be traded, with Sushiswap complete less than one unit may fall to Uniswap.  A trade over a
complete exchange fails only for an overflow. -/
theorem getTradeSizes_routes_iff (hpath : checkPath path = .ok ()) :
    (∀ reason, s.getTradeSizes balanceOf path size = .error reason →
      Complete balanceOf s.uniFactory path ∨ Complete balanceOf s.sushiFactory path →
      SafeMath.Overflow reason) ∧
    ∀ sizes, s.getTradeSizes balanceOf path size = .ok sizes →
      (Routes s balanceOf path size sizes ↔
        (Complete balanceOf s.uniFactory path → Masked balanceOf s.sushiFactory path → size = 0) ∧
        (Masked balanceOf s.uniFactory path → Complete balanceOf s.sushiFactory path →
          size * s.uniShare balanceOf path < preciseUnit)) := by
  constructor
  · intro reason hreason hcomplete
    exact (getTradeSizes_ensures hpath
      (hcomplete.imp Complete.liquid Complete.liquid)).of_error hreason
  · intro sizes hsizes
    constructor
    · intro hroutes
      constructor
      · intro huni hmasked
        exact (onlyUni_of_masked_iff hpath hsizes huni hmasked).mp (hroutes.onlyUni huni hmasked.2)
      · intro hmasked hsushi
        exact (onlySushi_of_masked_iff hpath hsizes hmasked hsushi).mp
          (hroutes.onlySushi hmasked.2 hsushi)
    · rintro ⟨hmaskedSushi, hmaskedUni⟩
      apply routes_of_masked hpath hsizes
      · intro huni hmasked
        exact (onlyUni_of_masked_iff hpath hsizes huni hmasked).mpr (hmaskedSushi huni hmasked)
      · intro hmasked hsushi
        exact (onlySushi_of_masked_iff hpath hsizes hmasked hsushi).mpr (hmaskedUni hmasked hsushi)

namespace Sample

/-- Uniswap has the pairs of tokens 1 and 3 with token 2 at addresses 7 and 8; Sushiswap has no pair. -/
def splitter : AMMSplitter where
  uniRouter := ⟨fun _ _ ↦ throw "unused", fun _ _ ↦ throw "unused"⟩
  sushiRouter := ⟨fun _ _ ↦ throw "unused", fun _ _ ↦ throw "unused"⟩
  uniFactory := ⟨fun token _ ↦ if token = 1 then 7 else 8⟩
  sushiFactory := ⟨fun _ _ ↦ 0⟩

/-- Balances of 300 in the pairs, and of `burned` at the zero address. -/
def balances (burned : ℕ) (_token account : Address) : ℕ :=
  if account = 0 then burned else 300

theorem burned_not_routes :
    splitter.getTradeSizes (balances 100) [1, 2] 1000 = .ok ⟨750, 250⟩ ∧
      ¬ Routes splitter (balances 100) [1, 2] 1000 ⟨750, 250⟩ := by
  refine ⟨by decide, fun hroutes ↦ ?_⟩
  have hwhole := hroutes.onlyUni (by decide) (by decide)
  exact absurd hwhole (by decide)

theorem unburned_routes : Routes splitter (balances 0) [1, 2, 3] 1000 ⟨1000, 0⟩ := by
  have hpath : checkPath [1, 2, 3] = .ok () := by decide
  have hsizes : splitter.getTradeSizes (balances 0) [1, 2, 3] 1000 = .ok ⟨1000, 0⟩ := by decide
  apply ((getTradeSizes_routes_iff hpath).2 _ hsizes).mpr
  constructor
  · intro _ hmasked
    exact absurd hmasked (by decide)
  · intro hmasked
    exact absurd hmasked (by decide)

end Sample

/-! ## Quotes -/

/-- The loop of `_getAmounts` adds the two quotes entry by entry. -/
theorem mapM_addAmounts_ok {n : ℕ} {uniResults sushiResults amounts : List ℕ}
    (h : (List.range n).mapM (addAmounts uniResults sushiResults) = .ok amounts) :
    amounts.length = n ∧ ∀ i (hi : i < amounts.length), ∃ uniAmount sushiAmount,
      uniResults[i]? = some uniAmount ∧ sushiResults[i]? = some sushiAmount ∧
        amounts[i] = uniAmount + sushiAmount := by
  have hpairs := Outcome.mapM_forall₂ h
  have hlength : amounts.length = n := by
    rw [← hpairs.length_eq, List.length_range]
  refine ⟨hlength, ?_⟩
  intro i hi
  have hentry := List.forall₂_iff_get.mp hpairs
  have hstep := hentry.2 i (by rwa [List.length_range, ← hlength]) hi
  simp only [List.get_eq_getElem, List.getElem_range, addAmounts, Outcome.bind_eq_ok, element_eq_ok,
    SafeMath.add_eq_ok] at hstep
  obtain ⟨uniAmount, huni, sushiAmount, hsushi, -, hsum⟩ := hstep
  exact ⟨uniAmount, sushiAmount, huni, hsushi, hsum⟩

end AMMSplitter

end SetProtocol
