/-
Module: MwCom.Bytes.ByteOrder
Purpose: Words as bytes in either byte order, and copying bytes into and out of
  a buffer of fixed size.
Trusted boundary: none
Main exports: ByteOrder.ofWord, ByteOrder.toWord, toWord_ofWord, Buffer.store,
  Buffer.load, load_store, load_store_of_disjoint
-/
import Mathlib.Algebra.Group.Nat.Defs
import Mathlib.Data.List.Basic

namespace MwCom.Bytes

abbrev Byte := BitVec 8

/-- The order in which a machine lays out the bytes of a word. -/
inductive ByteOrder where
  | littleEndian
  | bigEndian
deriving DecidableEq

/-! ## Numbers -/

/-- The lowest `size` bytes of a number, lowest first. -/
def lowBytes : (size : Nat) → (value : Nat) → List Byte
  | 0, _ => []
  | size + 1, value => BitVec.ofNat 8 value :: lowBytes size (value / 256)

/-- The number with the given bytes, lowest first. -/
def numberOf : List Byte → Nat
  | [] => 0
  | byte :: rest => byte.toNat + 256 * numberOf rest

@[simp] theorem length_lowBytes (size value : Nat) : (lowBytes size value).length = size := by
  induction size generalizing value with
  | zero => rfl
  | succ size ih =>
      rw [lowBytes, List.length_cons, ih]

/-- Bytes that are read back give the number, as far as it fits. -/
theorem numberOf_lowBytes (size value : Nat) :
    numberOf (lowBytes size value) = value % 256 ^ size := by
  induction size generalizing value with
  | zero => simp [lowBytes, numberOf, Nat.mod_one]
  | succ size ih =>
      rw [lowBytes, numberOf, ih, BitVec.toNat_ofNat]
      change value % 256 + 256 * (value / 256 % 256 ^ size) = value % 256 ^ (size + 1)
      rw [Nat.pow_succ, Nat.mul_comm (256 ^ size) 256, Nat.mod_mul]

/-- Bytes are those of the number they make. -/
theorem lowBytes_numberOf (bytes : List Byte) : lowBytes bytes.length (numberOf bytes) = bytes := by
  induction bytes with
  | nil => rfl
  | cons byte rest ih =>
      have bound := byte.isLt
      have quotient : (byte.toNat + 256 * numberOf rest) / 256 = numberOf rest := by
        omega
      have lowest : BitVec.ofNat 8 (byte.toNat + 256 * numberOf rest) = byte := by
        apply BitVec.eq_of_toNat_eq
        rw [BitVec.toNat_ofNat]
        omega
      rw [numberOf, List.length_cons, lowBytes, quotient, ih, lowest]

theorem numberOf_lt (bytes : List Byte) : numberOf bytes < 256 ^ bytes.length := by
  induction bytes with
  | nil => exact Nat.one_pos
  | cons byte rest ih =>
      have bound := byte.isLt
      rw [numberOf, List.length_cons, Nat.pow_succ]
      omega

/-! ## Words -/

namespace ByteOrder

variable (order : ByteOrder)

/-- The bytes of a word as they stand in memory. -/
def ofWord (size : Nat) (word : BitVec (8 * size)) : List Byte :=
  match order with
  | .littleEndian => lowBytes size word.toNat
  | .bigEndian => (lowBytes size word.toNat).reverse

/-- The word whose bytes stand in memory. -/
def toWord (size : Nat) (bytes : List Byte) : BitVec (8 * size) :=
  match order with
  | .littleEndian => BitVec.ofNat _ (numberOf bytes)
  | .bigEndian => BitVec.ofNat _ (numberOf bytes.reverse)

@[simp] theorem length_ofWord (size : Nat) (word : BitVec (8 * size)) :
    (order.ofWord size word).length = size := by
  cases order with
  | littleEndian => exact length_lowBytes size _
  | bigEndian =>
      rw [ofWord, List.length_reverse]
      exact length_lowBytes size _

/-- A word is read back from its bytes. -/
@[simp] theorem toWord_ofWord (size : Nat) (word : BitVec (8 * size)) :
    order.toWord size (order.ofWord size word) = word := by
  have fits : numberOf (lowBytes size word.toNat) = word.toNat := by
    have bound : word.toNat < 256 ^ size := by
      have small := word.isLt
      rwa [Nat.pow_mul] at small
    rw [numberOf_lowBytes, Nat.mod_eq_of_lt bound]
  cases order with
  | littleEndian =>
      rw [toWord, ofWord, fits, BitVec.ofNat_toNat, BitVec.setWidth_eq]
  | bigEndian =>
      rw [toWord, ofWord, List.reverse_reverse, fits, BitVec.ofNat_toNat, BitVec.setWidth_eq]

variable {bytes : List Byte}

/-- Bytes are those of the word they make. -/
theorem ofWord_toWord {size : Nat} (whole : bytes.length = size) :
    order.ofWord size (order.toWord size bytes) = bytes := by
  have fits (some : List Byte) (long : some.length = size) :
      lowBytes size (BitVec.ofNat (8 * size) (numberOf some)).toNat = some := by
    have bound := numberOf_lt some
    rw [long, show 256 = 2 ^ 8 from rfl, ← Nat.pow_mul] at bound
    rw [BitVec.toNat_ofNat, Nat.mod_eq_of_lt bound, ← long]
    exact lowBytes_numberOf some
  cases order with
  | littleEndian => exact fits bytes whole
  | bigEndian =>
      rw [ofWord, toWord]
      change (lowBytes size (BitVec.ofNat _ (numberOf bytes.reverse)).toNat).reverse = bytes
      rw [fits bytes.reverse (by rw [List.length_reverse, whole]), List.reverse_reverse]

/-- Where the lowest byte of a word of `size + 1` bytes stands. -/
def lowestIndex (size : Nat) : ByteOrder → Nat
  | .littleEndian => 0
  | .bigEndian => size

theorem setWidth_numberOf {size : Nat} {lowest : Byte} (first : bytes[0]? = some lowest) :
    (BitVec.ofNat (8 * (size + 1)) (numberOf bytes)).setWidth 8 = lowest := by
  cases bytes with
  | nil => cases first
  | cons byte rest =>
      cases first
      have bound := lowest.isLt
      rw [BitVec.setWidth_ofNat_of_le (by omega)]
      apply BitVec.eq_of_toNat_eq
      rw [BitVec.toNat_ofNat, numberOf]
      omega

/-- The lowest byte of a word. -/
theorem setWidth_toWord {size : Nat} {lowest : Byte} (whole : bytes.length = size + 1)
    (found : bytes[lowestIndex size order]? = some lowest) :
    (order.toWord (size + 1) bytes).setWidth 8 = lowest := by
  cases order with
  | littleEndian => exact setWidth_numberOf found
  | bigEndian =>
      apply setWidth_numberOf
      rw [List.getElem?_reverse (by omega), whole]
      exact found

end ByteOrder

/-! ## Buffers -/

/-- A `std::array` of bytes. -/
abbrev Buffer (size : Nat) := Vector Byte size

namespace Buffer

variable {size : Nat}

/-- Copy bytes into a buffer.  `none`: a byte would be written outside. -/
def store (buffer : Buffer size) (position : Nat) (bytes : List Byte) : Option (Buffer size) :=
  if position + bytes.length ≤ size then
    some (Vector.ofFn fun index =>
      if position ≤ index.val then
        (bytes[index.val - position]?).getD (buffer.get index)
      else
        buffer.get index)
  else
    none

/-- Copy bytes out of a buffer.  `none`: a byte would be read outside. -/
def load (buffer : Buffer size) (position count : Nat) : Option (List Byte) :=
  if position + count ≤ size then
    some ((buffer.toList.drop position).take count)
  else
    none

/-- Inside the buffer, bytes are stored. -/
theorem exists_store (buffer : Buffer size) (position : Nat) (bytes : List Byte)
    (inside : position + bytes.length ≤ size) :
    ∃ after, buffer.store position bytes = some after := by
  rw [store, if_pos inside]
  exact ⟨_, rfl⟩

/-- Inside the buffer, bytes are loaded. -/
theorem exists_load (buffer : Buffer size) (position count : Nat)
    (inside : position + count ≤ size) :
    ∃ bytes, buffer.load position count = some bytes := by
  rw [load, if_pos inside]
  exact ⟨_, rfl⟩

variable {buffer after : Buffer size} {position count : Nat} {bytes : List Byte}

/-- The bytes that are loaded. -/
theorem getElem?_load (loaded : buffer.load position count = some bytes)
    {index : Nat} (within : index < count) :
    bytes[index]? = buffer.toList[position + index]? := by
  rw [load] at loaded
  split at loaded
  · cases loaded
    rw [List.getElem?_take, if_pos within, List.getElem?_drop]
  · cases loaded

theorem length_load (loaded : buffer.load position count = some bytes) : bytes.length = count := by
  rw [load] at loaded
  split at loaded
  · cases loaded
    rw [List.length_take, List.length_drop, Vector.length_toList]
    omega
  · cases loaded

/-- The bytes of a buffer after a store. -/
theorem getElem?_store (stored : buffer.store position bytes = some after) (index : Nat) :
    after.toList[index]? =
      if position ≤ index ∧ index < position + bytes.length then
        bytes[index - position]?
      else
        buffer.toList[index]? := by
  rw [store] at stored
  split at stored
  · rename_i inside
    cases stored
    by_cases valid : index < size
    · rw [List.getElem?_eq_getElem (by simpa using valid), Vector.getElem_toList,
        Vector.getElem_ofFn]
      by_cases behind : position ≤ index
      · by_cases written : index < position + bytes.length
        · have present : index - position < bytes.length := by omega
          simp [behind, written, present]
        · have absent : bytes.length ≤ index - position := by omega
          simp [behind, written, absent, valid, Vector.get]
      · simp [behind, valid, Vector.get]
    · have outside : ¬ index < position + bytes.length := by omega
      simp [valid, outside]
  · cases stored

/-- What has just been stored is loaded. -/
theorem load_store (stored : buffer.store position bytes = some after)
    (whole : bytes.length = count) :
    after.load position count = some bytes := by
  have inside : position + bytes.length ≤ size := by
    by_contra outside
    rw [store, if_neg outside] at stored
    cases stored
  rw [load, if_pos (by omega)]
  congr 1
  apply List.ext_getElem?
  intro index
  rw [List.getElem?_take, List.getElem?_drop, getElem?_store stored]
  by_cases within : index < count
  · have here : position ≤ position + index ∧ position + index < position + bytes.length := by omega
    rw [if_pos within, if_pos here, Nat.add_sub_cancel_left]
  · rw [if_neg within, List.getElem?_eq_none (by omega)]

/-- A store elsewhere does not change what is loaded. -/
theorem load_store_of_disjoint (stored : buffer.store position bytes = some after) {other : Nat}
    (disjoint : other + count ≤ position ∨ position + bytes.length ≤ other) :
    after.load other count = buffer.load other count := by
  rw [load, load]
  by_cases inside : other + count ≤ size
  · rw [if_pos inside, if_pos inside]
    congr 1
    apply List.ext_getElem?
    intro index
    rw [List.getElem?_take, List.getElem?_take, List.getElem?_drop, List.getElem?_drop,
      getElem?_store stored]
    by_cases within : index < count
    · have elsewhere : ¬ (position ≤ other + index ∧
          other + index < position + bytes.length) := by omega
      rw [if_neg elsewhere]
    · rw [if_neg within, if_neg within]
  · rw [if_neg inside, if_neg inside]

end Buffer

end MwCom.Bytes
