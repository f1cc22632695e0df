import SetProtocol.Foundation.BigEndian
import SetProtocol.Lib.AddressArrayUtils

/-!
# Reading byte strings

The library `BytesLib` of Uniswap V3 with its extension `BytesArrayUtils`, and the packed encoding of
addresses, fees and flags.  Byte strings are far shorter than `2 ^ 256`, so that the overflow checks of
the libraries are checks of natural numbers, which always pass.
-/

namespace SetProtocol

/-- `uint24`. -/
abbrev UInt24 := BitVec 24

namespace BytesLib

variable {front back bytes : List UInt8} {start length : ℕ}

def slice (bytes : List UInt8) (start length : ℕ) : Outcome (List UInt8) := do
  require (length ≤ length + 31) "slice_overflow"
  require (start ≤ start + length) "slice_overflow"
  require (start + length ≤ bytes.length) "slice_outOfBounds"
  pure (BigEndian.slice bytes start length)

def toAddress (bytes : List UInt8) (start : ℕ) : Outcome Address := do
  require (start ≤ start + 20) "toAddress_overflow"
  require (start + 20 ≤ bytes.length) "toAddress_outOfBounds"
  pure (BitVec.ofNat 160 (BigEndian.decode (BigEndian.slice bytes start 20)))

def toUint24 (bytes : List UInt8) (start : ℕ) : Outcome UInt24 := do
  require (start ≤ start + 3) "toUint24_overflow"
  require (start + 3 ≤ bytes.length) "toUint24_outOfBounds"
  pure (BitVec.ofNat 24 (BigEndian.decode (BigEndian.slice bytes start 3)))

/-- A function of `BytesArrayUtils`. -/
def toBool (bytes : List UInt8) (start : ℕ) : Outcome Bool := do
  require (start ≤ start + 1) "toBool_overflow"
  require (start + 1 ≤ bytes.length) "toBool_outOfBounds"
  let tempUint := BigEndian.decode (BigEndian.slice bytes start 1)
  require (tempUint ≤ 1) "Invalid bool data"
  pure (decide (tempUint ≠ 0))

/-- The address whose bytes stand at a position. -/
def addressAt (bytes : List UInt8) (start : ℕ) : Address :=
  BitVec.ofNat 160 (BigEndian.decode (BigEndian.slice bytes start 20))

theorem slice_eq_ok {part : List UInt8} :
    slice bytes start length = .ok part ↔
      start + length ≤ bytes.length ∧ part = BigEndian.slice bytes start length := by
  simp [slice, Unique.exists_iff, @eq_comm _ part]

theorem toAddress_eq_ok {account : Address} :
    toAddress bytes start = .ok account ↔
      start + 20 ≤ bytes.length ∧ account = addressAt bytes start := by
  simp [toAddress, addressAt, Unique.exists_iff, @eq_comm _ account]

theorem addressAt_drop (bytes : List UInt8) (skipped start : ℕ) :
    addressAt (bytes.drop skipped) start = addressAt bytes (skipped + start) := by
  unfold addressAt
  rw [BigEndian.slice_drop]

/-- A prefix has the addresses that end inside of it. -/
theorem addressAt_take (h : start + 20 ≤ length) :
    addressAt (bytes.take length) start = addressAt bytes start := by
  unfold addressAt
  rw [BigEndian.slice_take h]

/-! ## Packed encoding -/

def packAddress (account : Address) : List UInt8 :=
  BigEndian.encode 20 account.toNat

def packUint24 (number : UInt24) : List UInt8 :=
  BigEndian.encode 3 number.toNat

def packBool (flag : Bool) : List UInt8 :=
  BigEndian.encode 1 flag.toNat

@[simp] theorem length_packAddress (account : Address) : (packAddress account).length = 20 :=
  BigEndian.length_encode 20 _

@[simp] theorem length_packUint24 (number : UInt24) : (packUint24 number).length = 3 :=
  BigEndian.length_encode 3 _

@[simp] theorem length_packBool (flag : Bool) : (packBool flag).length = 1 :=
  BigEndian.length_encode 1 _

/-- The bytes of an address are read back wherever they stand. -/
theorem toAddress_append (account : Address) (hstart : front.length = start) :
    toAddress (front ++ packAddress account ++ back) start = .ok account := by
  have hlength : start + 20 ≤ (front ++ packAddress account ++ back).length := by
    rw [List.length_append, List.length_append, length_packAddress]
    omega
  have hvalue : BigEndian.decode (packAddress account) = account.toNat :=
    BigEndian.decode_encode_of_lt (by simpa using account.isLt)
  unfold toAddress
  rw [require, if_pos (Nat.le_add_right _ _), Outcome.ok_bind, require, if_pos hlength,
    Outcome.ok_bind, BigEndian.slice_append hstart (length_packAddress account), hvalue,
    BitVec.ofNat_toNat, BitVec.setWidth_eq]
  rfl

theorem addressAt_append (account : Address) (hstart : front.length = start) :
    addressAt (front ++ packAddress account ++ back) start = account :=
  (toAddress_eq_ok.mp (toAddress_append account hstart)).2.symm

/-- The byte of a flag is read back from the end. -/
theorem toBool_append (flag : Bool) (hstart : front.length = start) :
    toBool (front ++ packBool flag) start = .ok flag := by
  have hlength : start + 1 ≤ (front ++ packBool flag).length := by
    rw [List.length_append, length_packBool]
    omega
  have hvalue : BigEndian.decode (packBool flag) = flag.toNat :=
    BigEndian.decode_encode_of_lt (flag.toNat_lt.trans (by decide))
  unfold toBool
  rw [require, if_pos (Nat.le_add_right _ _), Outcome.ok_bind, require, if_pos hlength,
    Outcome.ok_bind, BigEndian.slice_end hstart (length_packBool flag), hvalue]
  cases flag <;> rfl

theorem slice_prefix (hlength : front.length = length) :
    slice (front ++ back) 0 length = .ok front := by
  have hbound : 0 + length ≤ (front ++ back).length := by
    rw [List.length_append]
    omega
  unfold slice
  rw [require, if_pos (Nat.le_add_right _ _), Outcome.ok_bind, require,
    if_pos (Nat.le_add_right _ _), Outcome.ok_bind, require, if_pos hbound, Outcome.ok_bind,
    BigEndian.slice_zero hlength]
  rfl

end BytesLib

end SetProtocol
