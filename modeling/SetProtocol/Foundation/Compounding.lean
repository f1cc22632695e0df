import Mathlib.Algebra.Order.Ring.Int
import Mathlib.Tactic.Linarith
import Mathlib.Tactic.Ring

/-!
# Compounding of rounded fees

A fee of `fee` parts of `scale` inflates a supply by the factor `scale / (scale - fee)` and deflates
a multiplier by its inverse, both rounded down.  Charging in several parts compounds: the factors
`1 - fee` multiply to at least one minus the sum of the fees, so that several small fees inflate the
supply by at most as much as their sum at once.  Every rounding of the multiplier loses less than
one.
-/

namespace SetProtocol.Compounding

/-- Where `count` fees that sum to `total` have taken a supply and a multiplier. -/
structure Compounded (scale supply₀ multiplier₀ total count supply multiplier : ℤ) : Prop where
  total_nonneg : 0 ≤ total
  multiplier_nonneg : 0 ≤ multiplier
  supply_le : supply * (scale - total) ≤ supply₀ * scale
  le_multiplier : multiplier₀ * (scale - total) - count * (scale - 1) ≤ multiplier * scale

variable {scale supply₀ multiplier₀ total count supply multiplier fee supply' multiplier' : ℤ}

theorem Compounded.start (hmultiplier : 0 ≤ multiplier₀) :
    Compounded scale supply₀ multiplier₀ 0 0 supply₀ multiplier₀ where
  total_nonneg := le_rfl
  multiplier_nonneg := hmultiplier
  supply_le := by rw [sub_zero]
  le_multiplier := by rw [sub_zero, zero_mul, sub_zero]

/-- Two factors multiply to more than what their fees leave together. -/
theorem scale_mul_sub_le (htotal : 0 ≤ total) (hfee : 0 ≤ fee) :
    scale * (scale - (total + fee)) ≤ (scale - total) * (scale - fee) := by
  have hproduct : 0 ≤ total * fee := mul_nonneg htotal hfee
  calc scale * (scale - (total + fee)) ≤ scale * (scale - (total + fee)) + total * fee :=
        le_add_of_nonneg_right hproduct
    _ = (scale - total) * (scale - fee) := by ring

/-- One more fee, with its supply and its multiplier rounded down. -/
theorem Compounded.charge
    (h : Compounded scale supply₀ multiplier₀ total count supply multiplier)
    (hscale : 0 < scale) (hsupply₀ : 0 ≤ supply₀) (hmultiplier₀ : 0 ≤ multiplier₀)
    (hcount : 0 ≤ count) (hfee : 0 ≤ fee) (hle : fee ≤ scale)
    (hsupply : 0 ≤ supply') (hmultiplier : 0 ≤ multiplier')
    (hinflate : supply' * (scale - fee) ≤ supply * scale)
    (hdeflate : multiplier * (scale - fee) - (scale - 1) ≤ multiplier' * scale) :
    Compounded scale supply₀ multiplier₀ (total + fee) (count + 1) supply' multiplier' := by
  have hfactors : scale * (scale - (total + fee)) ≤ (scale - total) * (scale - fee) :=
    scale_mul_sub_le h.total_nonneg hfee
  have hrounding : 0 ≤ count * (scale - 1) := mul_nonneg hcount (by omega)
  refine ⟨add_nonneg h.total_nonneg hfee, hmultiplier, ?_, ?_⟩
  · -- A sum of fees of 100% or more bounds nothing.
    rcases le_or_gt scale total with htotal | htotal
    · calc supply' * (scale - (total + fee)) ≤ 0 :=
            mul_nonpos_of_nonneg_of_nonpos hsupply (by omega)
        _ ≤ supply₀ * scale := mul_nonneg hsupply₀ hscale.le
    refine le_of_mul_le_mul_left ?_ hscale
    calc scale * (supply' * (scale - (total + fee)))
        = supply' * (scale * (scale - (total + fee))) := by ring
      _ ≤ supply' * ((scale - total) * (scale - fee)) :=
          mul_le_mul_of_nonneg_left hfactors hsupply
      _ = supply' * (scale - fee) * (scale - total) := by ring
      _ ≤ supply * scale * (scale - total) :=
          mul_le_mul_of_nonneg_right hinflate (by omega)
      _ = scale * (supply * (scale - total)) := by ring
      _ ≤ scale * (supply₀ * scale) := mul_le_mul_of_nonneg_left h.supply_le hscale.le
  · rcases le_or_gt scale total with htotal | htotal
    · have hneg : multiplier₀ * (scale - (total + fee)) ≤ 0 :=
        mul_nonpos_of_nonneg_of_nonpos hmultiplier₀ (by omega)
      have hpos : 0 ≤ multiplier' * scale := mul_nonneg hmultiplier hscale.le
      have hnext : 0 ≤ (count + 1) * (scale - 1) := mul_nonneg (by omega) (by omega)
      omega
    refine le_of_mul_le_mul_left ?_ hscale
    have hshrink : count * (scale - 1) * (scale - fee) ≤ count * (scale - 1) * scale :=
      mul_le_mul_of_nonneg_left (by omega) hrounding
    calc scale * (multiplier₀ * (scale - (total + fee)) - (count + 1) * (scale - 1))
        = multiplier₀ * (scale * (scale - (total + fee))) - count * (scale - 1) * scale -
            scale * (scale - 1) := by ring
      _ ≤ multiplier₀ * ((scale - total) * (scale - fee)) - count * (scale - 1) * (scale - fee) -
            scale * (scale - 1) := by
          have hmul := mul_le_mul_of_nonneg_left hfactors hmultiplier₀
          omega
      _ = (multiplier₀ * (scale - total) - count * (scale - 1)) * (scale - fee) -
            scale * (scale - 1) := by ring
      _ ≤ multiplier * scale * (scale - fee) - scale * (scale - 1) := by
          have hmul := mul_le_mul_of_nonneg_right h.le_multiplier (sub_nonneg.mpr hle)
          omega
      _ = scale * (multiplier * (scale - fee) - (scale - 1)) := by ring
      _ ≤ scale * (multiplier' * scale) := mul_le_mul_of_nonneg_left hdeflate hscale.le

/-- Fees in parts inflate the supply at most as far as one fee that is not below their sum. -/
theorem Compounded.supply_le_single
    (h : Compounded scale supply₀ multiplier₀ total count supply multiplier)
    (hsupply : 0 ≤ supply) (hle : total ≤ fee) (hlt : fee < scale)
    (hsingle : supply₀ * scale < (supply' + 1) * (scale - fee)) : supply ≤ supply' := by
  have hbound : supply * (scale - fee) < (supply' + 1) * (scale - fee) := by
    calc supply * (scale - fee) ≤ supply * (scale - total) :=
          mul_le_mul_of_nonneg_left (by omega) hsupply
      _ ≤ supply₀ * scale := h.supply_le
      _ < (supply' + 1) * (scale - fee) := hsingle
  exact Int.lt_add_one_iff.mp (lt_of_mul_lt_mul_right hbound (by omega))

/-- Fees in parts deflate the multiplier at most as far as one fee that is not below their sum, up to
less than one for every part. -/
theorem Compounded.single_sub_lt_multiplier
    (h : Compounded scale supply₀ multiplier₀ total count supply multiplier)
    (hscale : 0 < scale) (hmultiplier₀ : 0 ≤ multiplier₀) (hcount : 0 < count)
    (hle : total ≤ fee) (hsingle : multiplier' * scale ≤ multiplier₀ * (scale - fee)) :
    multiplier' - count < multiplier := by
  have hbound : (multiplier' - count) * scale < multiplier * scale := by
    calc (multiplier' - count) * scale = multiplier' * scale - count * (scale - 1) - count := by
          ring
      _ < multiplier' * scale - count * (scale - 1) := by omega
      _ ≤ multiplier₀ * (scale - fee) - count * (scale - 1) := by omega
      _ ≤ multiplier₀ * (scale - total) - count * (scale - 1) := by
          have hmul := mul_le_mul_of_nonneg_left (sub_le_sub_left hle scale) hmultiplier₀
          omega
      _ ≤ multiplier * scale := h.le_multiplier
  exact lt_of_mul_lt_mul_right hbound hscale.le

end SetProtocol.Compounding
