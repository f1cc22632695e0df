import Mathlib.Data.List.Nodup
import SetProtocol.Foundation.SwapRemove
import SetProtocol.Lib.SafeMath

/-!
# Addresses and arrays of addresses

The library `AddressArrayUtils`.  An `address[]` is a list.  The memory functions keep the order
of the remaining elements, while `removeStorage` moves the last element into the freed slot.
-/

namespace SetProtocol

/-- A 20-byte account address. -/
abbrev Address := BitVec 160

instance : LawfulBEq Address := inferInstance

namespace AddressArrayUtils

variable {β : Type}

/-- The first index of `a` with `true`, or `uint256(-1)` with `false`. -/
def indexOf (A : List Address) (a : Address) : ℕ × Bool :=
  if a ∈ A then (A.idxOf a, true) else (maxUint256, false)

def contains (A : List Address) (a : Address) : Bool :=
  (indexOf A a).2

/-- The nested loops of `hasDuplicate`: compare each element with the ones after it. -/
def hasDuplicateLoop : List Address → Bool
  | [] => false
  | current :: rest => decide (current ∈ rest) || hasDuplicateLoop rest

def hasDuplicate (A : List Address) : Outcome Bool := do
  require (0 < A.length) "A is empty"
  pure (hasDuplicateLoop A)

/-- Removes the entry at `index`, keeping the order, and returns it. -/
def pop (A : List Address) (index : ℕ) : Outcome (List Address × Address) :=
  match A[index]? with
  | some entry => pure (A.eraseIdx index, entry)
  | none => throw "Index must be < A length"

def remove (A : List Address) (a : Address) : Outcome (List Address) :=
  match indexOf A a with
  | (_, false) => throw "Address not in array."
  | (index, true) => do
    let popped ← pop A index
    pure popped.1

def removeStorage (A : List Address) (a : Address) : Outcome (List Address) :=
  match indexOf A a with
  | (_, false) => throw "Address not in array."
  | (_, true) => pure (SwapRemove.swapRemove A a)

def extend (A B : List Address) : List Address := A ++ B

def validateLengthAndUniqueness (A : List Address) : Outcome Unit := do
  require (0 < A.length) "Array length must be > 0"
  let duplicate ← hasDuplicate A
  require (duplicate = false) "Cannot duplicate addresses"

/-- The overloads of `validatePairsWithArray` differ only in the element type of `B`. -/
def validatePairsWithArray (A : List Address) (B : List β) : Outcome Unit := do
  require (A.length = B.length) "Array length mismatch"
  validateLengthAndUniqueness A

@[simp] theorem contains_eq_true {A : List Address} {a : Address} :
    contains A a = true ↔ a ∈ A := by
  unfold contains indexOf
  split <;> simp_all

@[simp] theorem contains_eq_false {A : List Address} {a : Address} :
    contains A a = false ↔ a ∉ A := by
  rw [← Bool.not_eq_true, contains_eq_true]

theorem hasDuplicateLoop_eq_false {A : List Address} : hasDuplicateLoop A = false ↔ A.Nodup := by
  induction A with
  | nil => simp [hasDuplicateLoop]
  | cons current rest ih => simp [hasDuplicateLoop, ih]

theorem hasDuplicate_eq_ok_false {A : List Address} :
    hasDuplicate A = .ok false ↔ A ≠ [] ∧ A.Nodup := by
  simp [hasDuplicate, hasDuplicateLoop_eq_false, List.length_pos_iff]

@[simp] theorem removeStorage_eq_ok {A B : List Address} {a : Address} :
    removeStorage A a = .ok B ↔ a ∈ A ∧ B = SwapRemove.swapRemove A a := by
  by_cases hmem : a ∈ A
  · simp [removeStorage, indexOf, hmem, @eq_comm _ B]
  · simp [removeStorage, indexOf, hmem]

@[simp] theorem remove_eq_ok {A B : List Address} {a : Address} :
    remove A a = .ok B ↔ a ∈ A ∧ B = A.erase a := by
  by_cases hmem : a ∈ A
  · have hlt : A.idxOf a < A.length := List.idxOf_lt_length_iff.mpr hmem
    have hentry : A[A.idxOf a]? = some a := by
      rw [List.getElem?_eq_getElem hlt, List.getElem_idxOf hlt]
    simp [remove, indexOf, pop, hmem, hentry, List.eraseIdx_idxOf_eq_erase, @eq_comm _ B]
  · simp [remove, indexOf, hmem]

end AddressArrayUtils

end SetProtocol
