/-
Module: MwCom.Lola.EventSlotStatus
Purpose: The 64-bit control word of one event slot: timestamp in the upper
  half, reference count in the lower half, and two sentinel words.
Trusted boundary: none
Main exports: EventSlotStatus, EventSlotStatus.toNat_data,
  EventSlotStatus.increment, EventSlotStatus.decrement
-/
import Mathlib.Data.Nat.Bitwise

namespace MwCom.Lola

/-- Counter increased with every event that is sent. -/
abbrev EventTimeStamp := BitVec 32

/-- Number of proxies that currently use a slot. -/
abbrev SubscriberCount := BitVec 32

/-- The word that is stored atomically for a slot. -/
abbrev StatusWord := BitVec 64

/-- Access to the timestamp and the reference count of one status word. -/
structure EventSlotStatus where
  data : StatusWord
deriving DecidableEq, Repr

namespace EventSlotStatus

/-- The highest value of a timestamp. -/
def timestampMax : EventTimeStamp := 0xFFFFFFFF#32

/-- Word of a slot that was never written. -/
def invalid : StatusWord := 0#64

/-- Word of a slot whose event data is being altered: the highest
reference count, without a timestamp. -/
def inWriting : StatusWord := 0x00000000FFFFFFFF#64

def isInvalid (status : EventSlotStatus) : Bool := status.data == invalid

def isInWriting (status : EventSlotStatus) : Bool := status.data == inWriting

def markInWriting (_ : EventSlotStatus) : EventSlotStatus := ⟨inWriting⟩

def markInvalid (_ : EventSlotStatus) : EventSlotStatus := ⟨invalid⟩

def getReferenceCount (status : EventSlotStatus) : SubscriberCount :=
  (status.data &&& 0x00000000FFFFFFFF#64).setWidth 32

def getTimeStamp (status : EventSlotStatus) : EventTimeStamp := (status.data >>> 32).setWidth 32

/-- Setting the timestamp also clears the reference count. -/
def setTimeStamp (_ : EventSlotStatus) (timeStamp : EventTimeStamp) : EventSlotStatus :=
  ⟨timeStamp.setWidth 64 <<< 32⟩

def setReferenceCount (status : EventSlotStatus) (refCount : SubscriberCount) : EventSlotStatus :=
  ⟨(status.data &&& 0xFFFFFFFF00000000#64) ||| refCount.setWidth 64⟩

/-- The status with the given timestamp and reference count. -/
def ofTimeStamp (timeStamp : EventTimeStamp) (refCount : SubscriberCount) : EventSlotStatus :=
  ((⟨0⟩ : EventSlotStatus).setTimeStamp timeStamp).setReferenceCount refCount

/-- Whether the status carries a timestamp strictly between the bounds. -/
def isTimeStampBetween (status : EventSlotStatus)
    (minTimestamp maxTimestamp : EventTimeStamp) : Bool :=
  !status.isInWriting && !status.isInvalid && decide (status.getTimeStamp > minTimestamp) &&
    decide (status.getTimeStamp < maxTimestamp)

def isUsed (status : EventSlotStatus) : Bool := status.getReferenceCount != 0 || status.isInWriting

/-! ## The two halves as numbers -/

variable {status : EventSlotStatus}

@[simp] theorem isInvalid_iff : status.isInvalid = true ↔ status.data = invalid := by
  simp [isInvalid]

@[simp] theorem isInWriting_iff : status.isInWriting = true ↔ status.data = inWriting := by
  simp [isInWriting]

theorem toNat_getTimeStamp (status : EventSlotStatus) :
    status.getTimeStamp.toNat = status.data.toNat / 2 ^ 32 := by
  have bound := status.data.isLt
  rw [getTimeStamp, BitVec.toNat_setWidth, BitVec.toNat_ushiftRight, Nat.shiftRight_eq_div_pow]
  exact Nat.mod_eq_of_lt (by omega)

theorem toNat_getReferenceCount (status : EventSlotStatus) :
    status.getReferenceCount.toNat = status.data.toNat % 2 ^ 32 := by
  have mask : (0x00000000FFFFFFFF#64).toNat = 2 ^ 32 - 1 := rfl
  rw [getReferenceCount, BitVec.toNat_setWidth, BitVec.toNat_and, mask,
    Nat.and_two_pow_sub_one_eq_mod, Nat.mod_mod]

/-- Timestamp and reference count determine the word. -/
theorem toNat_data (status : EventSlotStatus) : status.data.toNat =
      status.getTimeStamp.toNat * 2 ^ 32 + status.getReferenceCount.toNat := by
  rw [toNat_getTimeStamp, toNat_getReferenceCount]
  omega

theorem toNat_ofTimeStamp (timeStamp : EventTimeStamp) (refCount : SubscriberCount) :
    (ofTimeStamp timeStamp refCount).data.toNat = timeStamp.toNat * 2 ^ 32 + refCount.toNat := by
  have stampBound := timeStamp.isLt
  have countBound := refCount.isLt
  have shifted : (timeStamp.setWidth 64 <<< 32).toNat = timeStamp.toNat <<< 32 := by
    rw [BitVec.toNat_shiftLeft, BitVec.toNat_setWidth_of_le (by decide), Nat.shiftLeft_eq]
    exact Nat.mod_eq_of_lt (by omega)
  have masked : timeStamp.toNat <<< 32 &&& (2 ^ 32 - 1) <<< 32 = timeStamp.toNat <<< 32 := by
    rw [← Nat.shiftLeft_and_distrib, Nat.and_two_pow_sub_one_eq_mod, Nat.mod_eq_of_lt stampBound]
  have mask : (0xFFFFFFFF00000000#64).toNat = (2 ^ 32 - 1) <<< 32 := by
    decide
  show ((timeStamp.setWidth 64 <<< 32 &&& 0xFFFFFFFF00000000#64) |||
    refCount.setWidth 64 : StatusWord).toNat = _
  rw [BitVec.toNat_or, BitVec.toNat_and, shifted, mask, masked,
    BitVec.toNat_setWidth_of_le (by decide),
    ← Nat.shiftLeft_add_eq_or_of_lt countBound, Nat.shiftLeft_eq]

@[simp] theorem getTimeStamp_ofTimeStamp (timeStamp : EventTimeStamp)
    (refCount : SubscriberCount) :
    (ofTimeStamp timeStamp refCount).getTimeStamp = timeStamp := by
  have bound := refCount.isLt
  apply BitVec.eq_of_toNat_eq
  rw [toNat_getTimeStamp, toNat_ofTimeStamp]
  omega

@[simp] theorem getReferenceCount_ofTimeStamp (timeStamp : EventTimeStamp)
    (refCount : SubscriberCount) :
    (ofTimeStamp timeStamp refCount).getReferenceCount = refCount := by
  have bound := refCount.isLt
  apply BitVec.eq_of_toNat_eq
  rw [toNat_getReferenceCount, toNat_ofTimeStamp]
  omega

@[simp] theorem getTimeStamp_invalid : (⟨invalid⟩ : EventSlotStatus).getTimeStamp = 0 := by
  decide

@[simp] theorem getReferenceCount_invalid :
    (⟨invalid⟩ : EventSlotStatus).getReferenceCount = 0 := by
  decide

@[simp] theorem getTimeStamp_inWriting : (⟨inWriting⟩ : EventSlotStatus).getTimeStamp = 0 := by
  decide

@[simp] theorem invalid_ne_inWriting : invalid ≠ inWriting := by
  decide

/-- Only the invalid word has neither a timestamp nor references. -/
theorem eq_invalid (noStamp : status.getTimeStamp = 0)
    (noReference : status.getReferenceCount = 0) : status.data = invalid := by
  apply BitVec.eq_of_toNat_eq
  rw [toNat_data, noStamp, noReference]
  rfl

/-- A word with a timestamp is neither of the sentinels. -/
theorem readable_of_timeStamp (stamped : status.getTimeStamp ≠ 0) :
    status.data ≠ invalid ∧ status.data ≠ inWriting := by
  constructor
  · intro isSentinel
    apply stamped
    rw [toNat_inj_getTimeStamp isSentinel]
    exact getTimeStamp_invalid
  · intro isSentinel
    apply stamped
    rw [toNat_inj_getTimeStamp isSentinel]
    exact getTimeStamp_inWriting
where
  toNat_inj_getTimeStamp {status : EventSlotStatus} {word : StatusWord}
      (same : status.data = word) :
      status.getTimeStamp = (⟨word⟩ : EventSlotStatus).getTimeStamp := by
    cases same
    rfl

/-! ## Changing the reference count by one

Taking a reference adds one to the whole word, giving it back subtracts one
from the whole word.  Both stay in the lower half as long as the count neither
is at its highest value nor zero. -/

/-- Adding one to a word whose count can still grow. -/
theorem increment {word : StatusWord}
    (room : (EventSlotStatus.mk word).getReferenceCount.toNat < 2 ^ 32 - 1) :
    (EventSlotStatus.mk (word + 1)).getTimeStamp = (EventSlotStatus.mk word).getTimeStamp ∧
      (EventSlotStatus.mk (word + 1)).getReferenceCount.toNat =
        (EventSlotStatus.mk word).getReferenceCount.toNat + 1 := by
  have bound := word.isLt
  rw [toNat_getReferenceCount] at room ⊢
  dsimp only at room
  have one : (1 : StatusWord).toNat = 1 := rfl
  have sum : (word + 1).toNat = word.toNat + 1 := by
    rw [BitVec.toNat_add]
    rw [one]
    exact Nat.mod_eq_of_lt (by omega)
  constructor
  · apply BitVec.eq_of_toNat_eq
    rw [toNat_getTimeStamp, toNat_getTimeStamp]
    dsimp only
    omega
  · rw [toNat_getReferenceCount]
    dsimp only
    omega

/-- Subtracting one from a word that is referenced. -/
theorem decrement {word : StatusWord}
    (referenced : 0 < (EventSlotStatus.mk word).getReferenceCount.toNat) :
    (EventSlotStatus.mk (word - 1)).getTimeStamp = (EventSlotStatus.mk word).getTimeStamp ∧
      (EventSlotStatus.mk (word - 1)).getReferenceCount.toNat + 1 =
        (EventSlotStatus.mk word).getReferenceCount.toNat := by
  have bound := word.isLt
  rw [toNat_getReferenceCount] at referenced ⊢
  dsimp only at referenced
  have one : (1 : StatusWord).toNat = 1 := rfl
  have difference : (word - 1).toNat = word.toNat - 1 := by
    rw [BitVec.toNat_sub, one]
    omega
  constructor
  · apply BitVec.eq_of_toNat_eq
    rw [toNat_getTimeStamp, toNat_getTimeStamp]
    dsimp only
    omega
  · rw [toNat_getReferenceCount]
    dsimp only
    omega

/-- The range test as a statement about the timestamp. -/
theorem isTimeStampBetween_iff {minTimestamp maxTimestamp : EventTimeStamp} :
    status.isTimeStampBetween minTimestamp maxTimestamp = true ↔
      status.data ≠ inWriting ∧ status.data ≠ invalid ∧ minTimestamp < status.getTimeStamp ∧
        status.getTimeStamp < maxTimestamp := by
  simp [isTimeStampBetween, isInWriting, isInvalid, and_assoc]

example : (ofTimeStamp 7 2).data = 0x0000000700000002#64 := by decide

end EventSlotStatus

end MwCom.Lola
