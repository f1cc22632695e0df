import Mathlib.Algebra.BigOperators.Group.List.Basic
import Mathlib.Algebra.Order.Field.Rat
import Mathlib.Tactic.FieldSimp
import Mathlib.Tactic.GCongr
import Mathlib.Tactic.Positivity
import SetProtocol.Core.ModuleBase

/-!
# Valuing a Set

`SetValuer` adds up the real units of the components at oracle prices and converts the sum into the
quote asset.  Every multiplication and division rounds toward zero.
-/

namespace SetProtocol.SetValuer

open PreciseUnitMath

/-- `10 ** decimals` in unchecked 256-bit arithmetic. -/
def baseUnits (decimals : ℕ) : ℕ := 10 ^ decimals % 2 ^ 256

/-- One pass of the loop of `calculateSetTokenValuation`. -/
def addComponentValue (w : World) (oracle : PriceOracle) (valuation : ℤ) (component : Address) :
    Outcome ℤ := do
  let componentPrice ← oracle.getPrice component oracle.masterQuoteAsset
  let aggregateUnits ← w.setToken.getTotalComponentRealUnits component
  let base ← SafeCast.toInt256 (baseUnits (w.erc20 component).decimals)
  let normalizedUnits ← preciseDivInt aggregateUnits base
  let price ← SafeCast.toInt256 componentPrice
  let value ← preciseMulInt normalizedUnits price
  SignedSafeMath.add value valuation

/-- The value in the master quote asset, converted when another quote asset is asked for. -/
def convertToQuote (oracle : PriceOracle) (valuation : ℤ) (quoteAsset : Address) : Outcome ℤ :=
  if oracle.masterQuoteAsset ≠ quoteAsset then do
    let quoteToMaster ← oracle.getPrice quoteAsset oracle.masterQuoteAsset
    let quote ← SafeCast.toInt256 quoteToMaster
    preciseDivInt valuation quote
  else
    pure valuation

def calculateSetTokenValuation (w : World) (oracle : PriceOracle) (quoteAsset : Address) :
    Outcome ℕ := do
  let valuation ← w.setToken.components.foldlM (addComponentValue w oracle) 0
  let valuation ← convertToQuote oracle valuation quoteAsset
  SafeCast.toUint256 valuation

/-! ## The valuation never exceeds the exact value -/

variable {w : World} {oracle : PriceOracle} {component quoteAsset : Address}

/-- The price of a component in the master quote asset. -/
def price (oracle : PriceOracle) (component : Address) : ℕ :=
  (oracle.getPrice component oracle.masterQuoteAsset).getD 0

/-- The exact value of `units` of a component in the master quote asset. -/
def exactComponentValue (w : World) (oracle : PriceOracle) (units : ℚ) (component : Address) : ℚ :=
  units * price oracle component / baseUnits (w.erc20 component).decimals

/-- The exact factor from the master quote asset to another quote asset. -/
def quoteRate (oracle : PriceOracle) (quoteAsset : Address) : ℚ :=
  if oracle.masterQuoteAsset ≠ quoteAsset then preciseUnit / price oracle quoteAsset else 1

theorem quoteRate_nonneg (oracle : PriceOracle) (quoteAsset : Address) :
    0 ≤ quoteRate oracle quoteAsset := by
  unfold quoteRate
  split_ifs <;> positivity

theorem addComponentValue_le {valuation valuation' : ℤ}
    (h : addComponentValue w oracle valuation component = .ok valuation')
    (hexternal : w.setToken.externalPositionModules component = [])
    (hunit : 0 ≤ w.setToken.defaultRealUnit component) :
    valuation ≤ valuation' ∧ (valuation' : ℚ) ≤
      valuation + exactComponentValue w oracle (w.setToken.defaultRealUnit component) component := by
  simp only [addComponentValue, SetToken.getTotalComponentRealUnits, hexternal, List.foldlM_nil,
    Outcome.bind_eq_ok, Outcome.pure_eq_ok, SetToken.getDefaultPositionRealUnit_eq_ok,
    SafeCast.toInt256_eq_ok, SignedSafeMath.add_eq_ok] at h
  obtain ⟨p, hp, _, ⟨_, ⟨-, rfl⟩, rfl⟩, _, ⟨-, rfl⟩, units, hunits, _, ⟨-, rfl⟩, value, hvalue, -,
    rfl⟩ := h
  obtain ⟨hunits0, hunitsLe⟩ := preciseDivInt_le hunits hunit (Int.natCast_nonneg _)
  obtain ⟨hvalue0, hvalueLe⟩ := preciseMulInt_le hvalue hunits0 (Int.natCast_nonneg _)
  have hprice : price oracle component = p := by simp [price, hp, Outcome.getD]
  have hpos : (0 : ℚ) < preciseUnitInt := by exact_mod_cast preciseUnitInt_pos
  refine ⟨by omega, ?_⟩
  have hexact : (value : ℚ) ≤
      exactComponentValue w oracle (w.setToken.defaultRealUnit component) component := by
    calc (value : ℚ) ≤ units * (p : ℤ) / preciseUnitInt := hvalueLe
      _ ≤ (w.setToken.defaultRealUnit component * preciseUnitInt /
            (baseUnits (w.erc20 component).decimals : ℤ)) * (p : ℤ) / preciseUnitInt := by
          gcongr
      _ = exactComponentValue w oracle (w.setToken.defaultRealUnit component) component := by
          unfold exactComponentValue
          rw [hprice]
          push_cast
          field_simp
  push_cast
  linarith

/-- The loop over components adds at most their exact values. -/
theorem foldlM_addComponentValue_le {components : List Address} {valuation valuation' : ℤ}
    (h : components.foldlM (addComponentValue w oracle) valuation = .ok valuation')
    (hexternal : ∀ c ∈ components, w.setToken.externalPositionModules c = [])
    (hunits : ∀ c ∈ components, 0 ≤ w.setToken.defaultRealUnit c) :
    valuation ≤ valuation' ∧ (valuation' : ℚ) ≤ valuation +
      (components.map fun c ↦
        exactComponentValue w oracle (w.setToken.defaultRealUnit c) c).sum := by
  induction components generalizing valuation with
  | nil =>
    obtain rfl := Outcome.pure_eq_ok.mp h
    simp
  | cons c components ih =>
    simp only [List.foldlM_cons, Outcome.bind_eq_ok] at h
    obtain ⟨next, hnext, h⟩ := h
    simp only [List.mem_cons, forall_eq_or_imp] at hexternal hunits
    obtain ⟨hle, hvalue⟩ := addComponentValue_le hnext hexternal.1 hunits.1
    obtain ⟨hle', hvalue'⟩ := ih h hexternal.2 hunits.2
    refine ⟨hle.trans hle', ?_⟩
    rw [List.map_cons, List.sum_cons]
    linarith

theorem convertToQuote_le {valuation valuation' : ℤ}
    (h : convertToQuote oracle valuation quoteAsset = .ok valuation') (hnonneg : 0 ≤ valuation) :
    (valuation' : ℚ) ≤ quoteRate oracle quoteAsset * valuation := by
  unfold convertToQuote at h
  unfold quoteRate
  split_ifs at h ⊢
  · simp only [Outcome.bind_eq_ok, SafeCast.toInt256_eq_ok] at h
    obtain ⟨p, hp, _, ⟨-, rfl⟩, hdiv⟩ := h
    have hprice : price oracle quoteAsset = p := by simp [price, hp, Outcome.getD]
    calc (valuation' : ℚ) ≤ valuation * preciseUnitInt / (p : ℤ) :=
          (preciseDivInt_le hdiv hnonneg (Int.natCast_nonneg _)).2
      _ = preciseUnit / price oracle quoteAsset * valuation := by
          rw [hprice, preciseUnitInt_eq]
          push_cast
          ring
  · obtain rfl := Outcome.pure_eq_ok.mp h
    simp

/-- A Set with default positions only is never valued above its exact value. -/
theorem calculateSetTokenValuation_le {valuation : ℕ}
    (h : calculateSetTokenValuation w oracle quoteAsset = .ok valuation)
    (hexternal : ∀ c ∈ w.setToken.components, w.setToken.externalPositionModules c = [])
    (hunits : ∀ c ∈ w.setToken.components, 0 ≤ w.setToken.defaultRealUnit c) :
    (valuation : ℚ) ≤ quoteRate oracle quoteAsset *
      (w.setToken.components.map fun c ↦
        exactComponentValue w oracle (w.setToken.defaultRealUnit c) c).sum := by
  simp only [calculateSetTokenValuation, Outcome.bind_eq_ok, SafeCast.toUint256_eq_ok] at h
  obtain ⟨total, hloop, quoted, hquoted, rfl⟩ := h
  obtain ⟨hnonneg, htotal⟩ := foldlM_addComponentValue_le hloop hexternal hunits
  have hquote := convertToQuote_le hquoted hnonneg
  calc (valuation : ℚ) ≤ quoteRate oracle quoteAsset * total := by exact_mod_cast hquote
    _ ≤ _ := by
        apply mul_le_mul_of_nonneg_left _ (quoteRate_nonneg oracle quoteAsset)
        simpa using htotal

end SetProtocol.SetValuer
