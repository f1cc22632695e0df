import SetProtocol.Core.PriceOracle
import SetProtocol.Foundation.Rates
import SetProtocol.Foundation.Trace

/-!
# Prices around a circle

As long as every oracle quotes an asset against the master quote asset, and no pair has two oracles, changing
assets in a circle at the prices of `getPrice` never gains, whatever the oracles read.
-/

namespace SetProtocol.PriceOracleContract

open PreciseUnitMath Rates

/-- What a call of the owner or of anybody else asks for. -/
inductive PairCall where
  | addPair (assetOne assetTwo oracle : Address)
  | editPair (assetOne assetTwo oracle : Address)
  | removePair (assetOne assetTwo : Address)
  | removeAdapter (adapter : Address)

/-- A call by an account. -/
def performPairCall (o : PriceOracleContract) (call : Address × PairCall) :
    Outcome PriceOracleContract :=
  match call.2 with
  | .addPair assetOne assetTwo oracle => o.addPair call.1 assetOne assetTwo oracle
  | .editPair assetOne assetTwo oracle => o.editPair call.1 assetOne assetTwo oracle
  | .removePair assetOne assetTwo => o.removePair call.1 assetOne assetTwo
  | .removeAdapter adapter => o.removeAdapter call.1 adapter

/-- A new pair has the master quote asset on one side and no oracle for its inverse. -/
def PairCall.KeepsHub (o : PriceOracleContract) : PairCall → Prop
  | .addPair assetOne assetTwo _ =>
    (assetOne = o.masterQuoteAsset ∨ assetTwo = o.masterQuoteAsset) ∧
      (assetOne ≠ assetTwo → o.oracles assetTwo assetOne = 0)
  | _ => True

/-- Every oracle is of an asset and the master quote asset, in one of the two directions.  The master quote
asset may have an oracle in units of itself. -/
structure HubAndSpoke (o : PriceOracleContract) : Prop where
  hub : ∀ a b, o.oracles a b ≠ 0 → a = o.masterQuoteAsset ∨ b = o.masterQuoteAsset
  one_direction : ∀ a b, a ≠ b → o.oracles a b ≠ 0 → o.oracles b a = 0
  no_adapter : o.adapters = []

/-- An oracle of the master quote asset in units of itself reads at most one. -/
def AtPar (o : PriceOracleContract) (feed : PriceFeed) : Prop :=
  ∀ reading, o.oracles o.masterQuoteAsset o.masterQuoteAsset ≠ 0 →
    feed.read (o.oracles o.masterQuoteAsset o.masterQuoteAsset) = .ok reading → reading ≤ preciseUnit

variable {o o' : PriceOracleContract} {feed : PriceFeed} {a b assetOne assetTwo oracle : Address}

theorem setOracle_apply : (o.setOracle assetOne assetTwo oracle).oracles a b =
    if a = assetOne ∧ b = assetTwo then oracle else o.oracles a b := by
  by_cases ha : a = assetOne
  · subst ha
    by_cases hb : b = assetTwo <;> simp [setOracle, hb]
  · simp [setOracle, ha]

/-! ## Calls of the owner -/

theorem HubAndSpoke.setOracle (h : o.HubAndSpoke)
    (hhub : assetOne = o.masterQuoteAsset ∨ assetTwo = o.masterQuoteAsset)
    (hinverse : assetOne ≠ assetTwo → o.oracles assetTwo assetOne = 0) :
    (o.setOracle assetOne assetTwo oracle).HubAndSpoke where
  hub a b hne := by
    rw [setOracle_apply] at hne
    split at hne
    · next heq =>
      rw [heq.1, heq.2]
      exact hhub
    · exact h.hub a b hne
  one_direction a b hab hne := by
    rw [setOracle_apply] at hne ⊢
    split at hne
    · next heq =>
      rw [heq.1, heq.2] at hab ⊢
      rw [if_neg fun hsame ↦ hab hsame.2]
      exact hinverse hab
    · split
      · next heq =>
        rw [heq.1, heq.2] at hab hne
        exact absurd (hinverse hab.symm) hne
      · exact h.one_direction a b hab hne
  no_adapter := h.no_adapter

theorem HubAndSpoke.of_call {call : Address × PairCall} (h : o.HubAndSpoke)
    (hcall : o.performPairCall call = .ok o') (hkeeps : call.2.KeepsHub o) : o'.HubAndSpoke := by
  obtain ⟨sender, call⟩ := call
  cases call with
  | addPair assetOne assetTwo oracle =>
    simp only [performPairCall, addPair, Outcome.bind_eq_ok, Outcome.pure_eq_ok]
      at hcall
    obtain ⟨_, -, _, -, rfl⟩ := hcall
    exact h.setOracle hkeeps.1 hkeeps.2
  | editPair assetOne assetTwo oracle =>
    simp only [performPairCall, editPair, Outcome.bind_eq_ok,
      Outcome.require_eq_ok, Outcome.pure_eq_ok] at hcall
    obtain ⟨_, -, _, hpair, rfl⟩ := hcall
    exact h.setOracle (h.hub _ _ hpair) fun hne ↦ h.one_direction _ _ hne hpair
  | removePair assetOne assetTwo =>
    simp only [performPairCall, removePair, Outcome.bind_eq_ok,
      Outcome.require_eq_ok, Outcome.pure_eq_ok] at hcall
    obtain ⟨_, -, _, hpair, rfl⟩ := hcall
    exact h.setOracle (h.hub _ _ hpair) fun hne ↦ h.one_direction _ _ hne hpair
  | removeAdapter adapter =>
    simp only [performPairCall, removeAdapter, Outcome.bind_eq_ok,
      AddressArrayUtils.remove_eq_ok, Outcome.pure_eq_ok] at hcall
    obtain ⟨_, -, _, -, _, ⟨hmem, -⟩, -⟩ := hcall
    rw [h.no_adapter] at hmem
    exact absurd hmem List.not_mem_nil

/-- All oracles quote in the master quote asset itself. -/
structure QuotesMaster (o : PriceOracleContract) : Prop where
  quotes : ∀ a b, o.oracles a b ≠ 0 → b = o.masterQuoteAsset
  no_adapter : o.adapters = []

theorem QuotesMaster.hubAndSpoke (h : o.QuotesMaster) : o.HubAndSpoke where
  hub a b hne := .inr (h.quotes a b hne)
  one_direction a b hab hne := by
    by_contra hinverse
    exact hab ((h.quotes b a hinverse).trans (h.quotes a b hne).symm)
  no_adapter := h.no_adapter

theorem QuotesMaster.setOracle (h : o.QuotesMaster) (hquote : assetTwo = o.masterQuoteAsset) :
    (o.setOracle assetOne assetTwo oracle).QuotesMaster where
  quotes a b hne := by
    rw [setOracle_apply] at hne
    split at hne
    · next heq => exact heq.2.trans hquote
    · exact h.quotes a b hne
  no_adapter := h.no_adapter

/-- A deployment whose oracles all quote in the master quote asset, without adapters. -/
theorem HubAndSpoke.of_new {owner masterQuoteAsset : Address} {assetOnes assetTwos oracles : List Address}
    (hnew : new owner masterQuoteAsset [] assetOnes assetTwos oracles = .ok o)
    (hquotes : ∀ asset ∈ assetTwos, asset = masterQuoteAsset) : o.HubAndSpoke := by
  simp only [new, Outcome.bind_eq_ok, Outcome.pure_eq_ok] at hnew
  obtain ⟨_, -, rfl⟩ := hnew
  refine QuotesMaster.hubAndSpoke
    (List.foldlRecOn _ _
      (motive := fun o : PriceOracleContract ↦ o.QuotesMaster ∧ o.masterQuoteAsset = masterQuoteAsset)
      ⟨⟨fun _ _ hne ↦ absurd rfl hne, rfl⟩, rfl⟩ ?_).1
  rintro o ⟨ho, hmaster⟩ entry hentry
  have hquote := hquotes _ (List.of_mem_zip (List.of_mem_zip hentry).1).2
  exact ⟨ho.setOracle (hquote.trans hmaster.symm), hmaster⟩

/-! ## Prices follow values -/

/-- What an asset is worth in the master quote asset; zero if there is no price. -/
def value (o : PriceOracleContract) (feed : PriceFeed) (a : Address) : ℕ :=
  if a = o.masterQuoteAsset then preciseUnit
  else (((o.getDirectOrInversePrice feed a o.masterQuoteAsset).toOption).join).getD 0

theorem value_masterQuoteAsset : o.value feed o.masterQuoteAsset = preciseUnit :=
  if_pos rfl

theorem value_eq {price : ℕ} (ha : a ≠ o.masterQuoteAsset)
    (h : o.getDirectOrInversePrice feed a o.masterQuoteAsset = .ok (some price)) :
    o.value feed a = price := by
  rw [value, if_neg ha, h]
  rfl

theorem follows_preciseDiv {va vb price : ℕ} {value : Address → ℕ}
    (h : preciseDiv va vb = .ok price) (ha : value a = va) (hb : value b = vb) :
    Follows preciseUnit value a b price := by
  obtain ⟨-, -, rfl⟩ := preciseDiv_eq_ok.mp h
  constructor
  · rw [ha, hb, Nat.mul_comm preciseUnit]
    exact Nat.div_mul_le_self _ _
  · intro hzero
    rw [← ha, hzero, Nat.zero_mul, Nat.zero_div]

theorem getDirectOrInversePrice_eq_some {price : ℕ} :
    o.getDirectOrInversePrice feed a b = .ok (some price) ↔
      (o.oracles a b ≠ 0 ∧ feed.read (o.oracles a b) = .ok price) ∨
      (o.oracles a b = 0 ∧ o.oracles b a ≠ 0 ∧
        ∃ reading, feed.read (o.oracles b a) = .ok reading ∧
          preciseDiv preciseUnit reading = .ok price) := by
  rw [getDirectOrInversePrice]
  by_cases hdirect : o.oracles a b = 0
  · by_cases hinverse : o.oracles b a = 0
    · simp only [hdirect, hinverse, ne_eq, not_true_eq_false, if_false, Outcome.pure_eq_ok, reduceCtorEq,
        false_and, and_false, or_self]
    · simp only [hdirect, hinverse, ne_eq, not_true_eq_false, if_false, not_false_eq_true, if_true,
        calculateInversePrice, Outcome.map_eq_ok, Outcome.bind_eq_ok, Option.some.injEq, exists_eq_right,
        false_and, false_or, true_and]
  · simp only [hdirect, ne_eq, not_false_eq_true, if_true, Outcome.map_eq_ok, Option.some.injEq,
      exists_eq_right, false_and, or_false, true_and]

theorem getDirectOrInversePrice_eq_none :
    o.getDirectOrInversePrice feed a b = .ok none ↔ o.oracles a b = 0 ∧ o.oracles b a = 0 := by
  rw [getDirectOrInversePrice]
  by_cases hdirect : o.oracles a b = 0 <;> by_cases hinverse : o.oracles b a = 0 <;>
    simp only [hdirect, hinverse, ne_eq, not_true_eq_false, if_false, not_false_eq_true, if_true,
      Outcome.pure_eq_ok, Outcome.map_eq_ok, reduceCtorEq, and_false, exists_false, and_self, and_true]

/-- Without a detour, prices are found for the master quote asset and another asset only. -/
theorem HubAndSpoke.sides {price : ℕ} (h : o.HubAndSpoke)
    (hprice : o.getDirectOrInversePrice feed a b = .ok (some price)) :
    a = o.masterQuoteAsset ∨ b = o.masterQuoteAsset := by
  rcases getDirectOrInversePrice_eq_some.mp hprice with ⟨hdirect, -⟩ | ⟨-, hinverse, -⟩
  · exact h.hub a b hdirect
  · exact (h.hub b a hinverse).symm

/-- The price of the master quote asset in another one is not too high either when the worth of the other one
is its rounded inverse. -/
theorem mul_value_le {reading : ℕ} (ha : a ≠ o.masterQuoteAsset)
    (hdirect : o.oracles o.masterQuoteAsset a ≠ 0) (hnone : o.oracles a o.masterQuoteAsset = 0)
    (hread : feed.read (o.oracles o.masterQuoteAsset a) = .ok reading) :
    reading * o.value feed a ≤ preciseUnit * preciseUnit := by
  rw [value, if_neg ha, getDirectOrInversePrice]
  simp only [hnone, ne_eq, not_true_eq_false, if_false, hdirect, not_false_eq_true, if_true,
    calculateInversePrice, hread, Outcome.ok_bind]
  cases hinverse : preciseDiv preciseUnit reading with
  | error reason => exact Nat.zero_le _
  | ok price =>
    obtain ⟨-, -, rfl⟩ := preciseDiv_eq_ok.mp hinverse
    exact Nat.mul_div_le _ _

/-- The master quote asset is worth something. -/
theorem follows_masterQuoteAsset {price : ℕ}
    (hle : price * o.value feed b ≤ preciseUnit * preciseUnit) :
    Follows preciseUnit (o.value feed) o.masterQuoteAsset b price where
  le := by rwa [value_masterQuoteAsset]
  worthless hzero := absurd (value_masterQuoteAsset.symm.trans hzero) preciseUnit_pos.ne'

theorem HubAndSpoke.follows_direct {price : ℕ} (h : o.HubAndSpoke) (hpar : o.AtPar feed)
    (hprice : o.getDirectOrInversePrice feed a b = .ok (some price)) :
    Follows preciseUnit (o.value feed) a b price := by
  by_cases ha : a = o.masterQuoteAsset
  · subst ha
    apply follows_masterQuoteAsset
    by_cases hb : b = o.masterQuoteAsset
    · subst hb
      rw [value_masterQuoteAsset]
      rcases getDirectOrInversePrice_eq_some.mp hprice with ⟨hdirect, hread⟩ | ⟨hnone, hinverse, -⟩
      · exact Nat.mul_le_mul_right _ (hpar price hdirect hread)
      · exact absurd hnone hinverse
    · rcases getDirectOrInversePrice_eq_some.mp hprice with
        ⟨hdirect, hread⟩ | ⟨-, hinverse, reading, hread, hdiv⟩
      · exact mul_value_le hb hdirect (h.one_direction _ _ (Ne.symm hb) hdirect) hread
      · rw [value_eq hb (getDirectOrInversePrice_eq_some.mpr (.inl ⟨hinverse, hread⟩))]
        obtain ⟨-, -, rfl⟩ := preciseDiv_eq_ok.mp hdiv
        exact Nat.div_mul_le_self _ _
  · obtain rfl := (h.sides hprice).resolve_left ha
    have hvalue := value_eq ha hprice
    constructor
    · rw [value_masterQuoteAsset, hvalue, Nat.mul_comm]
    · exact hvalue.symm.trans

/-- The detour is taken between two assets other than the master quote asset only. -/
theorem follows_masterQuote {price : ℕ} (hnone : o.getDirectOrInversePrice feed a b = .ok none)
    (hprice : o.getPriceFromMasterQuote feed a b = .ok (some price)) :
    Follows preciseUnit (o.value feed) a b price := by
  obtain ⟨hdirect, hinverse⟩ := getDirectOrInversePrice_eq_none.mp hnone
  simp only [getPriceFromMasterQuote, Outcome.bind_eq_ok] at hprice
  obtain ⟨assetOnePrice, hone, assetTwoPrice, htwo, hprice⟩ := hprice
  cases assetOnePrice with
  | none => simp at hprice
  | some assetOnePrice =>
    cases assetTwoPrice with
    | none => simp at hprice
    | some assetTwoPrice =>
      obtain ⟨_, hdiv, heq⟩ := Outcome.map_eq_ok.mp hprice
      obtain rfl := Option.some.inj heq
      have ha : a ≠ o.masterQuoteAsset := by
        rintro rfl
        rw [getDirectOrInversePrice_eq_none.mpr ⟨hinverse, hdirect⟩] at htwo
        cases htwo
      have hb : b ≠ o.masterQuoteAsset := by
        rintro rfl
        rw [hnone] at hone
        cases hone
      exact follows_preciseDiv hdiv (value_eq ha hone) (value_eq hb htwo)

/-- Every price that is found is at most what the two assets are worth against each other. -/
theorem HubAndSpoke.follows {controller : Controller} {sender : Address} {price : ℕ} (h : o.HubAndSpoke)
    (hpar : o.AtPar feed) (hprice : o.getPrice feed controller sender a b = .ok price) :
    Follows preciseUnit (o.value feed) a b price := by
  simp only [getPrice, Outcome.bind_eq_ok] at hprice
  obtain ⟨_, -, direct, hdirect, hprice⟩ := hprice
  cases direct with
  | some direct =>
    obtain rfl := Outcome.pure_eq_ok.mp hprice
    exact h.follows_direct hpar hdirect
  | none =>
    obtain ⟨linked, hlinked, hprice⟩ := Outcome.bind_eq_ok.mp hprice
    cases linked with
    | some linked =>
      obtain rfl := Outcome.pure_eq_ok.mp hprice
      exact follows_masterQuote hdirect hlinked
    | none =>
      rw [h.no_adapter] at hprice
      simp [getPriceFromAdapters] at hprice

/-! ## Runs -/

theorem HubAndSpoke.of_run {trace : List (PriceOracleContract × (Address × PairCall))}
    (hrun : Trace performPairCall o trace o') (hkeeps : ∀ entry ∈ trace, entry.2.2.KeepsHub entry.1)
    (h : o.HubAndSpoke) : o'.HubAndSpoke := by
  induction hrun with
  | nil o => exact h
  | cons hstep hrun ih =>
    simp only [List.forall_mem_cons] at hkeeps
    exact ih hkeeps.2 (h.of_call hstep hkeeps.1)

/-- After any calls that only edit and remove pairs and add pairs of an asset and the master quote asset,
changing assets in a circle at the prices of that moment gains nothing. -/
theorem prod_prices_le_of_run {trace : List (PriceOracleContract × (Address × PairCall))}
    {controller : Controller} {sender : Address} {prices : List ℕ} (h : o.HubAndSpoke)
    (hrun : Trace performPairCall o trace o')
    (hkeeps : ∀ entry ∈ trace, entry.2.2.KeepsHub entry.1) (hpar : o'.AtPar feed)
    (hcircle : Route
      (fun a b price ↦ (o'.asSeenBy feed controller sender).getPrice a b = .ok price) a prices a) :
    prices.prod ≤ preciseUnit ^ prices.length :=
  hcircle.prod_le fun _ _ _ hprice ↦ (h.of_run hrun hkeeps).follows hpar hprice

/-! ## A circle of three assets -/

namespace Sample

def usdc : Address := 1

def weth : Address := 2

def wbtc : Address := 3

def governance : Address := 40

def valuer : Address := 41

/-- As deployed: ether is quoted in dollars, and dollars in dollars. -/
def deployed : PriceOracleContract :=
  (new governance usdc [] [weth, usdc] [usdc, usdc] [11, 12]).toOption.getD ⟨0, 0, fun _ _ ↦ 0, []⟩

/-- Bitcoin is added the other way round, as dollars in bitcoin. -/
def addWbtc : Address × PairCall := (governance, .addPair usdc wbtc 13)

def extended : PriceOracleContract := (deployed.performPairCall addWbtc).toOption.getD deployed

def priceFeed : PriceFeed where
  read oracle :=
    if oracle = 11 then pure (230 * preciseUnit)
    else if oracle = 12 then pure preciseUnit
    else if oracle = 13 then pure (preciseUnit / 9000)
    else throw "no code"
  adapterPrice _ _ _ := pure (false, 0)

/-- The prices as the valuer finds them. -/
def price (a b : Address) : ℕ :=
  ((extended.asSeenBy priceFeed (.enabling 20 [valuer]) valuer).getPrice a b).toOption.getD 0

/-- A circle through both oracles and the master quote asset. -/
theorem route_prices : Route
    (fun a b price ↦ (extended.asSeenBy priceFeed (.enabling 20 [valuer]) valuer).getPrice a b = .ok price)
    weth [price weth wbtc, price wbtc usdc, price usdc weth] weth := by
  refine .cons (b := wbtc) ?_ (.cons (b := usdc) ?_ (.cons (b := weth) ?_ (.nil weth)))
  all_goals exact Outcome.eq_ok_getD 0 (by decide +kernel)

theorem deployed_hubAndSpoke : deployed.HubAndSpoke := by
  have hnew : new governance usdc [] [weth, usdc] [usdc, usdc] [11, 12] = .ok deployed :=
    Outcome.eq_ok_getD ⟨0, 0, fun _ _ ↦ 0, []⟩ (by decide +kernel)
  exact .of_new hnew (by simp)

/-- Rounding makes the circle lose a little. -/
theorem prod_prices_le : [price weth wbtc, price wbtc usdc, price usdc weth].prod ≤ preciseUnit ^ 3 ∧
    [price weth wbtc, price wbtc usdc, price usdc weth].prod ≠ preciseUnit ^ 3 := by
  have hrun : Trace performPairCall deployed [(deployed, addWbtc)] extended :=
    .cons (Outcome.eq_ok_getD deployed (by decide +kernel)) (.nil extended)
  have hpar : extended.AtPar priceFeed := by
    intro reading _ hread
    rw [show priceFeed.read _ = .ok preciseUnit by decide +kernel] at hread
    exact (Except.ok.inj hread).ge
  refine ⟨prod_prices_le_of_run deployed_hubAndSpoke hrun ?_ hpar route_prices, by decide +kernel⟩
  simp only [List.forall_mem_singleton]
  exact ⟨.inl (by decide +kernel), fun _ ↦ by decide +kernel⟩

end Sample

end SetProtocol.PriceOracleContract
