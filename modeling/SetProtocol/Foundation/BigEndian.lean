import Mathlib.Data.List.Basic
import Mathlib.Data.Nat.ModEq

/-!
# Packed bytes

Numbers are packed into a fixed number of bytes, the most significant one first, and read back from a
slice of a byte string.  A slice that starts behind a prefix and is as long as what follows it is that
part of the string, whatever the string ends with.
-/

namespace SetProtocol.BigEndian

variable {front middle back bytes : List UInt8} {width start length n : ℕ}

/-- The lower bytes of a number. -/
def encode : ℕ → ℕ → List UInt8
  | 0, _ => []
  | width + 1, n => UInt8.ofNat (n / 256 ^ width) :: encode width n

/-- The number that bytes stand for. -/
def decode : List UInt8 → ℕ
  | [] => 0
  | byte :: bytes => byte.toNat * 256 ^ bytes.length + decode bytes

/-- The part of a byte string from a position on. -/
def slice (bytes : List UInt8) (start length : ℕ) : List UInt8 :=
  (bytes.drop start).take length

@[simp] theorem length_encode (width n : ℕ) : (encode width n).length = width := by
  induction width with
  | zero => rfl
  | succ width ih => rw [encode, List.length_cons, ih]

/-- What is read back is the number modulo what the bytes can hold. -/
theorem decode_encode (width n : ℕ) : decode (encode width n) = n % 256 ^ width := by
  induction width with
  | zero => rw [encode, decode, pow_zero, Nat.mod_one]
  | succ width ih =>
    rw [encode, decode, length_encode, ih, Nat.mod_pow_succ, Nat.add_comm, Nat.mul_comm]
    rfl

theorem decode_encode_of_lt (h : n < 256 ^ width) : decode (encode width n) = n := by
  rw [decode_encode, Nat.mod_eq_of_lt h]

theorem decode_append (front back : List UInt8) :
    decode (front ++ back) = decode front * 256 ^ back.length + decode back := by
  induction front with
  | nil => rw [List.nil_append, decode, Nat.zero_mul, Nat.zero_add]
  | cons byte front ih =>
    rw [List.cons_append, decode, decode, ih, List.length_append, Nat.pow_add, Nat.add_mul,
      Nat.mul_assoc, Nat.add_assoc]

theorem decode_lt (bytes : List UInt8) : decode bytes < 256 ^ bytes.length := by
  induction bytes with
  | nil => exact Nat.one_pos
  | cons byte bytes ih =>
    have hbyte : byte.toNat + 1 ≤ 256 := byte.toNat_lt
    calc byte.toNat * 256 ^ bytes.length + decode bytes
        < byte.toNat * 256 ^ bytes.length + 256 ^ bytes.length := Nat.add_lt_add_left ih _
      _ = (byte.toNat + 1) * 256 ^ bytes.length := (Nat.succ_mul _ _).symm
      _ ≤ 256 * 256 ^ bytes.length := Nat.mul_le_mul_right _ hbyte
      _ = 256 ^ (byte :: bytes).length := Nat.pow_succ'.symm

/-- The more significant bytes of a number. -/
theorem decode_shiftRight (front : List UInt8) (hlength : back.length = width) :
    decode (front ++ back) >>> (8 * width) = decode front := by
  subst hlength
  have hpow : 2 ^ (8 * back.length) = 256 ^ back.length := Nat.pow_mul 2 8 _
  rw [Nat.shiftRight_eq_div_pow, hpow, decode_append, Nat.mul_comm,
    Nat.mul_add_div (Nat.pow_pos (by decide)), Nat.div_eq_of_lt (decode_lt back), Nat.add_zero]

theorem slice_append (hstart : front.length = start) (hlength : middle.length = length) :
    slice (front ++ middle ++ back) start length = middle := by
  subst hstart hlength
  rw [slice, List.append_assoc, List.drop_left, List.take_left]

/-- A slice from the beginning. -/
theorem slice_zero (hlength : middle.length = length) :
    slice (middle ++ back) 0 length = middle := by
  have hslice : slice ([] ++ middle ++ back) 0 length = middle := slice_append rfl hlength
  exact hslice

/-- A slice up to the end. -/
theorem slice_end (hstart : front.length = start) (hlength : middle.length = length) :
    slice (front ++ middle) start length = middle := by
  rw [← List.append_nil (front ++ middle)]
  exact slice_append hstart hlength

theorem length_slice (h : start + length ≤ bytes.length) :
    (slice bytes start length).length = length := by
  rw [slice, List.length_take, List.length_drop]
  omega

theorem slice_drop (bytes : List UInt8) (skipped start length : ℕ) :
    slice (bytes.drop skipped) start length = slice bytes (skipped + start) length := by
  rw [slice, List.drop_drop, slice]

/-- A slice of a prefix that ends inside of it. -/
theorem slice_take {kept : ℕ} (h : start + length ≤ kept) :
    slice (bytes.take kept) start length = slice bytes start length := by
  rw [slice, List.drop_take, List.take_take, Nat.min_eq_left (by omega), slice]

theorem slice_slice {pos kept : ℕ} (h : pos + length ≤ kept) :
    slice (slice bytes start kept) pos length = slice bytes (start + pos) length := by
  rw [slice.eq_def bytes start kept, slice_take h, slice_drop]

end SetProtocol.BigEndian
