import Mathlib.Algebra.Order.Ring.Nat
import Mathlib.Tactic.Linarith
import Mathlib.Tactic.Ring

/-!
# Amounts for units of a supply, and fees

Units are amounts for each `scale` of a supply.  A total that is rounded up gives back the unit it was
computed from, provided that the supply is at least one scale.  A fee is a share of `scale`, rounded
down; dividing by what the fee leaves, rounded down as well, makes up for it exactly.
-/

namespace SetProtocol.Rounding

variable {scale supply unit fee amount quantity quantity' : ℕ}

/-- The total for a unit, rounded up, lies less than one unit of the supply above it. -/
theorem mul_le_ceil_mul (hscale : 0 < scale) (supply unit : ℕ) :
    supply * unit ≤ (supply * unit + scale - 1) / scale * scale ∧
      (supply * unit + scale - 1) / scale * scale < supply * unit + scale := by
  have hsplit := Nat.div_add_mod (supply * unit + scale - 1) scale
  have hlt := Nat.mod_lt (supply * unit + scale - 1) hscale
  rw [Nat.mul_comm] at hsplit
  constructor <;> omega

/-- A unit is read back from its total. -/
theorem unit_of_ceil (hscale : 0 < scale) (hsupply : scale ≤ supply) (unit : ℕ) :
    (supply * unit + scale - 1) / scale * scale / supply = unit := by
  obtain ⟨hlow, hhigh⟩ := mul_le_ceil_mul hscale supply unit
  apply Nat.div_eq_of_lt_le
  · rwa [Nat.mul_comm unit]
  · calc (supply * unit + scale - 1) / scale * scale < supply * unit + scale := hhigh
      _ ≤ supply * unit + supply := Nat.add_le_add_left hsupply _
      _ = (unit + 1) * supply := by ring

/-- The total of a unit that was rounded down stays below the amount that the unit was computed from, by
no more than the supply in scales, rounded up. -/
theorem tracked_bounds (hscale : 0 < scale) (hsupply : 0 < supply) (amount : ℕ) :
    supply * (amount * scale / supply) / scale ≤ amount ∧
      amount ≤ supply * (amount * scale / supply) / scale + (supply + scale - 1) / scale := by
  have hlow : supply * (amount * scale / supply) ≤ amount * scale := Nat.mul_div_le _ _
  have hhigh : amount * scale < supply * (amount * scale / supply) + supply := by
    calc amount * scale < supply * (amount * scale / supply + 1) := Nat.lt_mul_div_succ _ hsupply
      _ = supply * (amount * scale / supply) + supply := Nat.mul_succ _ _
  generalize supply * (amount * scale / supply) = total at hlow hhigh ⊢
  have hceil : supply ≤ (supply + scale - 1) / scale * scale := by
    simpa using (mul_le_ceil_mul hscale supply 1).1
  have htotal : total < (total / scale + 1) * scale := by
    rw [Nat.mul_comm]
    exact Nat.lt_mul_div_succ total hscale
  constructor
  · exact Nat.div_le_of_le_mul (hlow.trans_eq (Nat.mul_comm amount scale))
  · apply Nat.le_of_lt_succ
    apply Nat.lt_of_mul_lt_mul_right (a := scale)
    calc amount * scale < total + supply := hhigh
      _ < (total / scale + 1) * scale + (supply + scale - 1) / scale * scale :=
        Nat.add_lt_add_of_lt_of_le htotal hceil
      _ = (total / scale + (supply + scale - 1) / scale + 1) * scale := by ring

/-- From a supply of one scale on, at most one unit is lost when a total is rounded down and its unit
computed again. -/
theorem unit_le_of_floor (hscale : 0 < scale) (hsupply : scale ≤ supply)
    (h : supply * unit / scale ≤ amount) : unit ≤ amount * scale / supply + 1 := by
  have hpos : 0 < supply := Nat.lt_of_lt_of_le hscale hsupply
  have htotal : supply * unit < (supply * unit / scale + 1) * scale := by
    rw [Nat.mul_comm _ scale]
    exact Nat.lt_mul_div_succ _ hscale
  have hquotient : amount * scale < supply * (amount * scale / supply + 1) :=
    Nat.lt_mul_div_succ _ hpos
  apply Nat.le_of_lt_succ
  apply Nat.lt_of_mul_lt_mul_left (a := supply)
  calc supply * unit < (supply * unit / scale + 1) * scale := htotal
    _ ≤ (amount + 1) * scale := Nat.mul_le_mul_right scale (Nat.add_le_add_right h 1)
    _ = amount * scale + scale := Nat.succ_mul _ _
    _ ≤ supply * (amount * scale / supply + 1) + supply :=
      Nat.add_le_add hquotient.le hsupply
    _ = supply * (amount * scale / supply + 1 + 1) := by ring

/-- A value is divided by a quantity with the quotient rounded up, the unit is converted to a coarser one
by rounding down, and the total for the quantity is rounded up.  The total makes up for the value exactly
when a whole number of the coarse units is left between what the total must exceed and the quotient. -/
theorem le_ceil_of_coarse_iff {value factor : ℕ} (hscale : 0 < scale) (hquantity : 0 < quantity)
    (hfactor : 0 < factor) (hvalue : 0 < value) :
    value ≤ (quantity * ((value * scale + quantity - 1) / quantity / factor) + scale - 1) / scale *
        factor ↔
      ∃ unit, (value - 1) / factor * scale < quantity * unit ∧
        quantity * factor * unit < value * scale + quantity := by
  have hcover : ∀ total, value ≤ total * factor ↔ (value - 1) / factor < total := by
    intro total
    rw [Nat.div_lt_iff_lt_mul hfactor]
    omega
  have hceil : ∀ least total, least < (total + scale - 1) / scale ↔ least * scale < total := by
    intro least total
    rw [← Nat.add_one_le_iff, Nat.le_div_iff_mul_le hscale, Nat.succ_mul]
    omega
  have hcoarse : ∀ unit, unit ≤ (value * scale + quantity - 1) / quantity / factor ↔
      quantity * factor * unit < value * scale + quantity := by
    intro unit
    rw [Nat.div_div_eq_div_mul, Nat.le_div_iff_mul_le (Nat.mul_pos hquantity hfactor), Nat.mul_comm]
    omega
  rw [hcover, hceil]
  constructor
  · intro h
    exact ⟨_, h, (hcoarse _).mp le_rfl⟩
  · rintro ⟨unit, hlow, hhigh⟩
    apply hlow.trans_le
    apply Nat.mul_le_mul_left
    exact (hcoarse unit).mpr hhigh

/-- A share that an amount of one reserve pays for is worth at most the amount's quote in another
reserve. -/
theorem worth_le_quote {share reserve other : ℕ} (hreserve : 0 < reserve) (hsupply : 0 < supply)
    (hshare : share * reserve ≤ amount * supply) :
    share * other / supply ≤ amount * other / reserve := by
  rw [Nat.le_div_iff_mul_le hreserve]
  apply Nat.le_of_mul_le_mul_right _ hsupply
  calc share * other / supply * reserve * supply = share * other / supply * supply * reserve := by
        ring
    _ ≤ share * other * reserve := Nat.mul_le_mul_right reserve (Nat.div_mul_le_self _ _)
    _ = share * reserve * other := by ring
    _ ≤ amount * supply * other := Nat.mul_le_mul_right other hshare
    _ = amount * other * supply := by ring

/-- A share is worth at most the amount that pays for it. -/
theorem worth_le {share reserve : ℕ} (hreserve : 0 < reserve) (hsupply : 0 < supply)
    (hshare : share * reserve ≤ amount * supply) : share * reserve / supply ≤ amount := by
  have hquote : share * reserve / supply ≤ amount * reserve / reserve :=
    worth_le_quote hreserve hsupply hshare
  rwa [Nat.mul_div_cancel _ hreserve] at hquote

/-- When the quote of one amount exceeds another amount, the quote of the latter falls short of the
former. -/
theorem quote_le_of_lt_quote {reserve other amount' : ℕ} (h : amount' < amount * other / reserve) :
    amount' * reserve / other ≤ amount := by
  apply Nat.div_le_of_le_mul
  calc amount' * reserve ≤ amount * other / reserve * reserve := Nat.mul_le_mul_right reserve h.le
    _ ≤ amount * other := Nat.div_mul_le_self _ _
    _ = other * amount := Nat.mul_comm _ _

/-- What is left of a quantity after the fee. -/
def net (scale fee quantity : ℕ) : ℕ :=
  quantity - quantity * fee / scale

/-- The quantity that is raised for the fee. -/
def gross (scale fee amount : ℕ) : ℕ :=
  amount * scale / (scale - fee)

theorem fee_le (hfee : fee ≤ scale) (quantity : ℕ) : quantity * fee / scale ≤ quantity := by
  rcases Nat.eq_zero_or_pos scale with hzero | hpos
  · simp [hzero]
  · apply Nat.div_le_of_le_mul
    rw [Nat.mul_comm scale]
    exact Nat.mul_le_mul_left quantity hfee

/-- The fee takes back exactly what was added for it. -/
theorem net_gross (hfee : fee < scale) (amount : ℕ) :
    net scale fee (gross scale fee amount) = amount := by
  obtain ⟨rest, hrest, rfl⟩ : ∃ rest, 0 < rest ∧ scale = fee + rest :=
    ⟨scale - fee, by omega, by omega⟩
  have hscale : 0 < fee + rest := by omega
  have hgross : gross (fee + rest) fee amount = amount * (fee + rest) / rest := by
    rw [gross, Nat.add_sub_cancel_left]
  have hle := fee_le (Nat.le_add_right fee rest) (gross (fee + rest) fee amount)
  unfold net
  rw [hgross] at *
  generalize hq : amount * (fee + rest) / rest = q at *
  generalize he : q * fee / (fee + rest) = e at *
  have hqle : q * rest ≤ amount * (fee + rest) := hq ▸ Nat.div_mul_le_self _ _
  have hqlt : amount * (fee + rest) < (q + 1) * rest := by
    rw [← hq, Nat.mul_comm _ rest]
    exact Nat.lt_mul_div_succ _ hrest
  have hele : e * (fee + rest) ≤ q * fee := he ▸ Nat.div_mul_le_self _ _
  have helt : q * fee < (e + 1) * (fee + rest) := by
    rw [← he, Nat.mul_comm _ (fee + rest)]
    exact Nat.lt_mul_div_succ _ hscale
  have hupper : q < e + 1 + amount := by
    apply Nat.lt_of_mul_lt_mul_right (a := fee + rest)
    calc q * (fee + rest) = q * fee + q * rest := by ring
      _ < (e + 1) * (fee + rest) + amount * (fee + rest) := Nat.add_lt_add_of_lt_of_le helt hqle
      _ = (e + 1 + amount) * (fee + rest) := by ring
  have hlower : amount + e < q + 1 := by
    apply Nat.lt_of_mul_lt_mul_right (a := fee + rest)
    calc (amount + e) * (fee + rest) = amount * (fee + rest) + e * (fee + rest) := by ring
      _ < (q + 1) * rest + q * fee := Nat.add_lt_add_of_lt_of_le hqlt hele
      _ ≤ (q + 1) * rest + (q + 1) * fee :=
        Nat.add_le_add_left (Nat.mul_le_mul_right fee (Nat.le_succ q)) _
      _ = (q + 1) * (fee + rest) := by ring
  omega

/-- More stays of a greater quantity. -/
theorem net_mono (hfee : fee ≤ scale) (h : quantity ≤ quantity') :
    net scale fee quantity ≤ net scale fee quantity' := by
  obtain ⟨extra, rfl⟩ := Nat.exists_eq_add_of_le h
  have hextra : (quantity + extra) * fee / scale ≤ quantity * fee / scale + extra := by
    rcases Nat.eq_zero_or_pos scale with hzero | hpos
    · simp [hzero]
    · calc (quantity + extra) * fee / scale
          ≤ (quantity * fee + extra * scale) / scale := by
            apply Nat.div_le_div_right
            rw [Nat.add_mul]
            exact Nat.add_le_add_left (Nat.mul_le_mul_left extra hfee) _
        _ = quantity * fee / scale + extra := Nat.add_mul_div_right _ _ hpos
  have hle := fee_le hfee quantity
  unfold net
  omega

end SetProtocol.Rounding
