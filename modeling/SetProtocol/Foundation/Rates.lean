import Mathlib.Algebra.BigOperators.Group.List.Basic
import Mathlib.Algebra.Order.Ring.Nat
import Mathlib.Tactic.Ring

/-!
# Rates that follow values

Exchange rates in a fixed-point unit.  When every rate is at most the quotient of the values of the two
assets, converting along a route gains nothing against the values of its ends, and converting around a circle
gains nothing at all, however the rates were rounded.
-/

namespace SetProtocol.Rates

variable {α : Type} {unit : ℕ} {value : α → ℕ} {leg : α → α → ℕ → Prop} {a b : α} {rates : List ℕ}

/-- The rate is at most what the values are worth against each other. -/
structure Follows (unit : ℕ) (value : α → ℕ) (a b : α) (rate : ℕ) : Prop where
  le : rate * value b ≤ unit * value a
  worthless : value a = 0 → rate = 0

/-- Conversions one after the other, with their rates. -/
inductive Route (leg : α → α → ℕ → Prop) : α → List ℕ → α → Prop where
  | nil (a : α) : Route leg a [] a
  | cons {a b c : α} {rate : ℕ} {rates : List ℕ} (hleg : leg a b rate) (hrest : Route leg b rates c) :
      Route leg a (rate :: rates) c

/-- All conversions of a route together follow the values of its ends. -/
theorem Route.prod_mul_le (h : Route leg a rates b)
    (hfollows : ∀ a b rate, leg a b rate → Follows unit value a b rate) :
    rates.prod * value b ≤ unit ^ rates.length * value a := by
  induction h with
  | nil a => simp
  | @cons a b c rate rates hleg hrest ih =>
    calc (rate :: rates).prod * value c = rate * (rates.prod * value c) := by
          rw [List.prod_cons, Nat.mul_assoc]
      _ ≤ rate * (unit ^ rates.length * value b) := Nat.mul_le_mul_left _ ih
      _ = unit ^ rates.length * (rate * value b) := by ring
      _ ≤ unit ^ rates.length * (unit * value a) :=
          Nat.mul_le_mul_left _ (hfollows a b rate hleg).le
      _ = unit ^ (rate :: rates).length * value a := by
          rw [List.length_cons, pow_succ, Nat.mul_assoc]

/-- Converting around a circle gains nothing. -/
theorem Route.prod_le (h : Route leg a rates a)
    (hfollows : ∀ a b rate, leg a b rate → Follows unit value a b rate) :
    rates.prod ≤ unit ^ rates.length := by
  rcases Nat.eq_zero_or_pos (value a) with hzero | hpos
  · cases h with
    | nil => simp
    | @cons _ b _ rate rates hleg hrest =>
      rw [List.prod_cons, (hfollows a b rate hleg).worthless hzero, Nat.zero_mul]
      exact Nat.zero_le _
  · exact Nat.le_of_mul_le_mul_right (h.prod_mul_le hfollows) hpos

end SetProtocol.Rates
