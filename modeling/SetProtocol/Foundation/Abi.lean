import SetProtocol.Foundation.BigEndian
import SetProtocol.Foundation.Outcome

/-!
# The contract ABI

Arguments of a call are laid out in words of 32 bytes.  A value of a static type stands in the head of the
arguments; for a value of a dynamic type the head has an offset, from the beginning of the head, to where
the value stands.  A decoder follows the offsets that it reads, wherever they lead inside of the data, and
reverts without a reason when a value does not fit its type or ends behind the data.
-/

namespace SetProtocol.Abi

variable {α β γ : Type} {data : List UInt8} {base pos : ℕ}

/-- The largest offset that is followed and the largest length that is allocated. -/
def maxLength : ℕ := 2 ^ 64 - 1

def word (data : List UInt8) (pos : ℕ) : ℕ :=
  BigEndian.decode (BigEndian.slice data pos 32)

/-- The bytes of words, one after the other. -/
def words (ns : List ℕ) : List UInt8 :=
  ns.flatMap (BigEndian.encode 32)

/-- The calldata of a function whose arguments all take one word. -/
def encodeWithSelector (selector : List UInt8) (arguments : List ℕ) : List UInt8 :=
  selector ++ words arguments

/-- How values of a type are read. -/
structure Codec (α : Type) where
  isDynamic : Bool
  /-- The bytes that a value takes in a head. -/
  headSize : ℕ
  /-- The value that stands at a position. -/
  decode : List UInt8 → ℕ → Outcome α

/-- The components of a tuple, read from its head. -/
structure Fields (α : Type) where
  headSize : ℕ
  /-- The components whose head begins at the second position, in a tuple that begins at the first
  one. -/
  read : List UInt8 → ℕ → ℕ → Outcome α

namespace Codec

/-- Read a component at a position in the head of a tuple or an array that begins at `base`. -/
def field (c : Codec α) (data : List UInt8) (base pos : ℕ) : Outcome α :=
  if c.isDynamic then do
    require (word data pos ≤ maxLength) ""
    c.decode data (base + word data pos)
  else
    c.decode data pos

def map (f : α → β) (c : Codec α) : Codec β where
  isDynamic := c.isDynamic
  headSize := c.headSize
  decode data pos := do
    let a ← c.decode data pos
    pure (f a)

end Codec

/-- `uint` with a number of bits. -/
def uint (bits : ℕ) : Codec ℕ where
  isDynamic := false
  headSize := 32
  decode data pos := do
    require (word data pos < 2 ^ bits) ""
    pure (word data pos)

def address : Codec (BitVec 160) :=
  (uint 160).map (BitVec.ofNat 160)

def bool : Codec Bool :=
  (uint 1).map (· = 1)

/-- `bytes32`, as the number that the bytes stand for. -/
def bytes32 : Codec ℕ := uint 256

def bytes : Codec (List UInt8) where
  isDynamic := true
  headSize := 32
  decode data pos := do
    require (pos + 32 ≤ data.length) ""
    require (word data pos ≤ maxLength) ""
    require (pos + 32 + word data pos ≤ data.length) ""
    pure (BigEndian.slice data (pos + 32) (word data pos))

/-- The offsets of the elements of an array count from behind its length. -/
def array (c : Codec α) : Codec (List α) where
  isDynamic := true
  headSize := 32
  decode data pos := do
    require (pos + 32 ≤ data.length) ""
    require (word data pos ≤ maxLength) ""
    require (pos + 32 + word data pos * c.headSize ≤ data.length) ""
    (List.range (word data pos)).mapM fun i ↦
      c.field data (pos + 32) (pos + 32 + i * c.headSize)

namespace Fields

def last (c : Codec α) : Fields α where
  headSize := c.headSize
  read := c.field

def cons (c : Codec α) (rest : Fields β) : Fields (α × β) where
  headSize := c.headSize + rest.headSize
  read data base pos := do
    let a ← c.field data base pos
    let b ← rest.read data base (pos + c.headSize)
    pure (a, b)

/-- A struct whose members are all static. -/
def struct (fields : Fields α) : Codec α where
  isDynamic := false
  headSize := fields.headSize
  decode data pos := do
    require (pos + fields.headSize ≤ data.length) ""
    fields.read data pos pos

end Fields

/-- `abi.decode` of the arguments of a call. -/
def decode (fields : Fields α) (data : List UInt8) : Outcome α := do
  require (fields.headSize ≤ data.length) ""
  fields.read data 0 0

/-! ## What is decoded -/

variable {c : Codec α} {fields : Fields β}

@[simp] theorem decode_eq_ok {b : β} :
    decode fields data = .ok b ↔ fields.headSize ≤ data.length ∧ fields.read data 0 0 = .ok b := by
  simp [decode, Unique.exists_iff]

theorem word_drop (data : List UInt8) (skipped pos : ℕ) :
    word (data.drop skipped) pos = word data (skipped + pos) := by
  rw [word, BigEndian.slice_drop, word]

/-- A part of the data has the words that end inside of it. -/
theorem word_slice {start length : ℕ} (h : pos + 32 ≤ length) :
    word (BigEndian.slice data start length) pos = word data (start + pos) := by
  rw [word, BigEndian.slice_slice h, word]

namespace Fields

@[simp] theorem last_read (c : Codec α) : (last c).read data base pos = c.field data base pos := rfl

@[simp] theorem cons_read_eq_ok {a : α} {b : β} :
    (cons c fields).read data base pos = .ok (a, b) ↔
      c.field data base pos = .ok a ∧ fields.read data base (pos + c.headSize) = .ok b := by
  simp [cons]

end Fields

@[simp] theorem uint_headSize (bits : ℕ) : (uint bits).headSize = 32 := rfl

@[simp] theorem address_headSize : address.headSize = 32 := rfl

@[simp] theorem uint_field_eq_ok {bits n : ℕ} :
    (uint bits).field data base pos = .ok n ↔ word data pos < 2 ^ bits ∧ n = word data pos := by
  simp [Codec.field, uint, Unique.exists_iff, @eq_comm _ n]

@[simp] theorem address_field_eq_ok {account : BitVec 160} :
    address.field data base pos = .ok account ↔
      word data pos < 2 ^ 160 ∧ account = BitVec.ofNat 160 (word data pos) := by
  simp [Codec.field, address, uint, Codec.map, Unique.exists_iff, @eq_comm _ account]

/-- The bytes stand behind their length, where the offset leads. -/
@[simp] theorem bytes_field_eq_ok {part : List UInt8} :
    bytes.field data base pos = .ok part ↔
      word data pos ≤ maxLength ∧ base + word data pos + 32 ≤ data.length ∧
        word data (base + word data pos) ≤ maxLength ∧
        base + word data pos + 32 + word data (base + word data pos) ≤ data.length ∧
        part = BigEndian.slice data (base + word data pos + 32)
          (word data (base + word data pos)) := by
  simp [Codec.field, bytes, Unique.exists_iff, @eq_comm _ part]

theorem Codec.map_field_eq_ok {f : α → γ} {b : γ} :
    (c.map f).field data base pos = .ok b ↔ ∃ a, c.field data base pos = .ok a ∧ f a = b := by
  unfold Codec.field Codec.map
  split <;> simp [and_assoc]

/-- An array is not longer than what is allocated, and each element is read at its place. -/
theorem array_field_ok {as : List α} (h : (array c).field data base pos = .ok as) :
    as.length ≤ maxLength ∧ ∀ a ∈ as, ∃ base' pos', c.field data base' pos' = .ok a := by
  simp only [Codec.field, array, if_true, Outcome.bind_eq_ok, Outcome.require_eq_ok] at h
  obtain ⟨_, -, _, -, _, hlength, _, -, h⟩ := h
  constructor
  · rw [← (Outcome.mapM_forall₂ h).length_eq, List.length_range]
    exact hlength
  · intro a ha
    obtain ⟨i, -, hi⟩ := Outcome.exists_of_mem_mapM h ha
    exact ⟨_, _, hi⟩

/-- The members of a struct are read one after the other. -/
theorem struct_field_ok {b : β} (h : fields.struct.field data base pos = .ok b) :
    fields.read data pos pos = .ok b := by
  simp only [Codec.field, Fields.struct, Bool.false_eq_true, if_false, Outcome.bind_eq_ok] at h
  obtain ⟨_, -, h⟩ := h
  exact h

end SetProtocol.Abi
