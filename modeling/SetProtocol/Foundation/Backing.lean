import Mathlib.Algebra.Order.Ring.Int
import Mathlib.Tactic.Linarith
import Mathlib.Tactic.Ring

/-!
# Backing of a supply by a balance

A supply of shares promises `unit` of an asset for every `scale` shares, and the promise is backed
when the balance covers it without rounding.  Amounts that move in or out are rounded; backing is
kept when deposits are rounded up and withdrawals are rounded down.

A unit may also be stored as a significand that a common multiplier scales.  Rescaling all units at
once keeps backing when the product of supply and multiplier does not grow, provided that the
balance covers the unit before rounding.
-/

namespace SetProtocol.Backing

/-- The balance covers `unit` for every `scale` of the supply. -/
def Backed (scale supply unit balance : ℤ) : Prop :=
  supply * unit ≤ balance * scale

instance (scale supply unit balance : ℤ) : Decidable (Backed scale supply unit balance) :=
  inferInstanceAs (Decidable (_ ≤ _))

variable {scale supply supply' unit unit' balance balance' quantity amount : ℤ}

/-- Deposits that are worth at least the new shares keep the supply backed. -/
theorem Backed.deposit (h : Backed scale supply unit balance)
    (hamount : quantity * unit ≤ amount * scale) :
    Backed scale (supply + quantity) unit (balance + amount) := by
  unfold Backed at *
  calc (supply + quantity) * unit = supply * unit + quantity * unit := by ring
    _ ≤ balance * scale + amount * scale := add_le_add h hamount
    _ = (balance + amount) * scale := by ring

/-- Withdrawals that are worth at most the burnt shares keep the supply backed. -/
theorem Backed.withdraw (h : Backed scale supply unit balance)
    (hamount : amount * scale ≤ quantity * unit) :
    Backed scale (supply - quantity) unit (balance - amount) := by
  unfold Backed at *
  calc (supply - quantity) * unit = supply * unit - quantity * unit := by ring
    _ ≤ balance * scale - amount * scale := sub_le_sub h hamount
    _ = (balance - amount) * scale := by ring

theorem Backed.mono_balance (h : Backed scale supply unit balance) (hscale : 0 ≤ scale)
    (hle : balance ≤ balance') : Backed scale supply unit balance' :=
  h.trans (mul_le_mul_of_nonneg_right hle hscale)

theorem Backed.anti_unit (h : Backed scale supply unit balance) (hsupply : 0 ≤ supply)
    (hle : unit' ≤ unit) : Backed scale supply unit' balance :=
  (mul_le_mul_of_nonneg_left hle hsupply).trans h

/-- A unit computed by dividing part of the balance by the supply is backed. -/
theorem backed_of_le_div (hsupply : 0 < supply) (hscale : 0 ≤ scale) (hle : amount ≤ balance)
    (hunit : unit ≤ amount * scale / supply) : Backed scale supply unit balance := by
  have hdiv : amount * scale / supply * supply ≤ amount * scale :=
    Int.ediv_mul_le _ hsupply.ne'
  unfold Backed
  calc supply * unit ≤ supply * (amount * scale / supply) :=
        mul_le_mul_of_nonneg_left hunit hsupply.le
    _ = amount * scale / supply * supply := mul_comm _ _
    _ ≤ amount * scale := hdiv
    _ ≤ balance * scale := mul_le_mul_of_nonneg_right hle hscale

variable {virtual multiplier multiplier' : ℤ}

/-- The balance covers the unit before it is rounded down to a whole number. -/
def ExactlyBacked (scale supply virtual multiplier balance : ℤ) : Prop :=
  supply * (virtual * multiplier) ≤ balance * scale * scale

instance (scale supply virtual multiplier balance : ℤ) :
    Decidable (ExactlyBacked scale supply virtual multiplier balance) :=
  inferInstanceAs (Decidable (_ ≤ _))

/-- A supply that grows by at most the factor `scale / share` and a multiplier that shrinks at least
by it: their product does not grow. -/
theorem mul_le_mul_of_inflate {share : ℤ} (hscale : 0 < scale) (hsupply : 0 ≤ supply')
    (hmultiplier : 0 ≤ multiplier) (hinflate : supply' * share ≤ supply * scale)
    (hdeflate : multiplier' * scale ≤ multiplier * share) :
    supply' * multiplier' ≤ supply * multiplier := by
  refine le_of_mul_le_mul_right ?_ hscale
  calc supply' * multiplier' * scale = supply' * (multiplier' * scale) := by ring
    _ ≤ supply' * (multiplier * share) := mul_le_mul_of_nonneg_left hdeflate hsupply
    _ = multiplier * (supply' * share) := by ring
    _ ≤ multiplier * (supply * scale) := mul_le_mul_of_nonneg_left hinflate hmultiplier
    _ = supply * multiplier * scale := by ring

/-- The backing of an unrounded unit survives a change of supply and multiplier that does not raise
their product. -/
theorem ExactlyBacked.rescale (h : ExactlyBacked scale supply virtual multiplier balance)
    (hvirtual : 0 ≤ virtual) (hproduct : supply' * multiplier' ≤ supply * multiplier) :
    ExactlyBacked scale supply' virtual multiplier' balance := by
  unfold ExactlyBacked at *
  calc supply' * (virtual * multiplier') = virtual * (supply' * multiplier') := by ring
    _ ≤ virtual * (supply * multiplier) := mul_le_mul_of_nonneg_left hproduct hvirtual
    _ = supply * (virtual * multiplier) := by ring
    _ ≤ balance * scale * scale := h

/-- Covering the unrounded unit covers the rounded one. -/
theorem ExactlyBacked.backed (h : ExactlyBacked scale supply virtual multiplier balance)
    (hscale : 0 < scale) (hsupply : 0 ≤ supply) :
    Backed scale supply (virtual * multiplier / scale) balance := by
  have hfloor : virtual * multiplier / scale * scale ≤ virtual * multiplier :=
    Int.ediv_mul_le _ hscale.ne'
  unfold Backed ExactlyBacked at *
  refine le_of_mul_le_mul_right ?_ hscale
  calc supply * (virtual * multiplier / scale) * scale
      = supply * (virtual * multiplier / scale * scale) := by ring
    _ ≤ supply * (virtual * multiplier) := mul_le_mul_of_nonneg_left hfloor hsupply
    _ ≤ balance * scale * scale := h

/-- Covering a unit that is a whole number is the same before and after rounding. -/
theorem exactlyBacked_iff_backed (hscale : 0 < scale) (hdvd : scale ∣ virtual * multiplier) :
    ExactlyBacked scale supply virtual multiplier balance ↔
      Backed scale supply (virtual * multiplier / scale) balance := by
  have hwhole : virtual * multiplier / scale * scale = virtual * multiplier :=
    Int.ediv_mul_cancel hdvd
  have hsplit : supply * (virtual * multiplier) =
      supply * (virtual * multiplier / scale) * scale := by
    rw [mul_assoc, hwhole]
  unfold ExactlyBacked Backed
  rw [hsplit]
  exact mul_le_mul_iff_of_pos_right hscale

end SetProtocol.Backing
