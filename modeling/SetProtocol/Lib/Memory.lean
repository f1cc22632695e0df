import SetProtocol.Foundation.BigEndian

/-!
# Words of memory

Inline assembly loads whole words, also where a byte string in memory has fewer bytes left.  What such a
word ends with is whatever the memory holds behind the string; the bytes of the string are the more
significant ones, so that a shift to the right recovers them.
-/

namespace SetProtocol.Memory

/-- What the memory holds behind a byte string that was copied to it. -/
abbrev Behind := List UInt8 → ℕ → UInt8

variable {behind : Behind} {bytes : List UInt8} {offset width : ℕ}

def byteAt (behind : Behind) (bytes : List UInt8) (i : ℕ) : UInt8 :=
  bytes.getD i (behind bytes (i - bytes.length))

/-- `mload` of the word at an offset from the first byte of a byte string. -/
def mload (behind : Behind) (bytes : List UInt8) (offset : ℕ) : ℕ :=
  BigEndian.decode ((List.range 32).map fun i ↦ byteAt behind bytes (offset + i))

/-- The first four bytes of a byte string, as a word masks them. -/
def bytes4 (behind : Behind) (bytes : List UInt8) : BitVec 32 :=
  BitVec.ofNat 32 (mload behind bytes 0 >>> 224)

theorem map_byteAt (h : offset + width ≤ bytes.length) :
    (List.range width).map (fun i ↦ byteAt behind bytes (offset + i)) =
      BigEndian.slice bytes offset width := by
  apply List.ext_getElem
  · rw [List.length_map, List.length_range, BigEndian.length_slice h]
  · intro i hi _
    rw [List.length_map, List.length_range] at hi
    have hin : offset + i < bytes.length := by omega
    simp [byteAt, BigEndian.slice, List.getElem?_eq_getElem hin]

/-- The bytes of the string are what is left of the word, whatever stands behind them. -/
theorem mload_shiftRight (hwidth : width ≤ 32) (h : offset + width ≤ bytes.length) :
    mload behind bytes offset >>> (8 * (32 - width)) =
      BigEndian.decode (BigEndian.slice bytes offset width) := by
  have hsplit : (List.range 32).map (fun i ↦ byteAt behind bytes (offset + i)) =
      BigEndian.slice bytes offset width ++
        (List.range (32 - width)).map (fun i ↦ byteAt behind bytes (offset + (width + i))) := by
    rw [← map_byteAt h, ← Nat.add_sub_cancel' hwidth, List.range_add, List.map_append,
      List.map_map, Nat.add_sub_cancel_left]
    rfl
  rw [mload, hsplit]
  apply BigEndian.decode_shiftRight
  rw [List.length_map, List.length_range]

/-- The bytes are a call of the function with the selector. -/
def StartsWith (selector : BitVec 32) (bytes : List UInt8) : Prop :=
  4 ≤ bytes.length ∧ BitVec.ofNat 32 (BigEndian.decode (BigEndian.slice bytes 0 4)) = selector

theorem bytes4_eq_iff {selector : BitVec 32} (h : 4 ≤ bytes.length) :
    bytes4 behind bytes = selector ↔ StartsWith selector bytes := by
  have hload : mload behind bytes 0 >>> (8 * (32 - 4)) =
      BigEndian.decode (BigEndian.slice bytes 0 4) :=
    mload_shiftRight (by decide) (by omega)
  have hbytes : bytes4 behind bytes =
      BitVec.ofNat 32 (BigEndian.decode (BigEndian.slice bytes 0 4)) :=
    congrArg (BitVec.ofNat 32) hload
  rw [hbytes]
  exact (and_iff_right h).symm

end SetProtocol.Memory
