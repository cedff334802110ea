/-
Module: MwCom.Lola.SlotOwnership
Purpose: One sender and any number of consumers on the slots of one event: who
  holds a slot for writing, who references it, and why the status words agree
  with that in every state of every interleaving.
Trusted boundary: the history of a party (`SlotParty`) is bookkeeping of this
  module; the code has no such record.
Main exports: Party, SlotParty, SlotOwnership
-/
import Mathlib.Algebra.BigOperators.Fin
import Mathlib.Algebra.Order.BigOperators.Group.Finset
import MwCom.Interleaving.Contract
import MwCom.Lola.EventDataControl

namespace MwCom.Lola

open Interleaving EventDataControl EventSlotStatus Function

variable {slots : Nat} {Consumer LogIndex : Type}

/-- The parties that work on the slots of one event. -/
inductive Party (Consumer : Type) where
  | sender
  | consumer (index : Consumer)
deriving DecidableEq

/-- What a party has done to the slots: the slots it allocated and neither
published nor discarded, and for each slot the references it took and has not
given back, each with the timestamp the slot carried then. -/
structure SlotParty (slots : Nat) where
  writing : Fin slots → Bool
  references : Fin slots → List EventTimeStamp

namespace SlotParty

/-- Nothing done yet. -/
def empty : SlotParty slots where
  writing := fun _ => false
  references := fun _ => []

def allocate (party : SlotParty slots) (slot : Fin slots) : SlotParty slots :=
  { party with writing := update party.writing slot true }

def release (party : SlotParty slots) (slot : Fin slots) : SlotParty slots :=
  { party with writing := update party.writing slot false }

def acquire (party : SlotParty slots) (slot : Fin slots)
    (timeStamp : EventTimeStamp) : SlotParty slots :=
  { party with
    references := update party.references slot
        (timeStamp :: party.references slot) }

def giveBack (party : SlotParty slots) (slot : Fin slots) : SlotParty slots :=
  { party with
    references :=
      update party.references slot (party.references slot).tail }

/-- The effect of one operation of the sender on its record. -/
def observeSender (party : SlotParty slots) :
    (op : ControlOp slots LogIndex) → op.Ret → SlotParty slots
  | .compareExchangeWeak slot _ _, true => party.allocate slot
  | .store slot _, _ => party.release slot
  | _, _ => party

/-- The effect of one operation of a consumer on its record. -/
def observeConsumer (party : SlotParty slots) :
    (op : ControlOp slots LogIndex) → op.Ret → SlotParty slots
  | .compareExchangeWeak slot expected _, true =>
      party.acquire slot (EventSlotStatus.mk expected).getTimeStamp
  | .fetchSub slot, _ => party.giveBack slot
  | _, _ => party

end SlotParty

/-- A quantity summed over all consumers. -/
def consumerTotal [Fintype Consumer] {Object : Type} (measure : Object → Nat)
    (objects : Party Consumer → Object) : Nat :=
  ∑ index, measure (objects (.consumer index))

/-- References to a slot that were taken and not given back. -/
def outstanding [Fintype Consumer] (parties : Party Consumer → SlotParty slots)
    (slot : Fin slots) : Nat :=
  consumerTotal (fun party => (party.references slot).length) parties

/-- The status words agree with what the parties did. -/
structure SlotOwnership [Fintype Consumer]
    (stateSlots : Fin slots → StatusWord)
    (parties : Party Consumer → SlotParty slots) : Prop where
  /-- Exactly the slots the sender holds are in writing. -/
  written : ∀ slot, stateSlots slot = inWriting ↔ (parties .sender).writing slot = true
  /-- The reference count of every other slot counts the references. -/
  counted : ∀ slot, stateSlots slot ≠ inWriting →
    (EventSlotStatus.mk (stateSlots slot)).getReferenceCount.toNat = outstanding parties slot
  /-- A referenced slot still carries the timestamp it was taken with. -/
  stamped : ∀ index slot timeStamp, timeStamp ∈ (parties (.consumer index)).references slot →
      (EventSlotStatus.mk (stateSlots slot)).getTimeStamp = timeStamp ∧ timeStamp ≠ 0

section Total

variable [Fintype Consumer] {Object : Type} (measure : Object → Nat)
  {objects : Party Consumer → Object}

/-- A consumer's share is part of the total. -/
theorem le_consumerTotal (objects : Party Consumer → Object) (index : Consumer) :
    measure (objects (.consumer index)) ≤ consumerTotal measure objects :=
  Finset.single_le_sum (f := fun other => measure (objects (.consumer other)))
    (fun _ _ => Nat.zero_le _) (Finset.mem_univ index)

/-- Without a total there is no share. -/
theorem eq_zero_of_consumerTotal (none : consumerTotal measure objects = 0)
    (index : Consumer) : measure (objects (.consumer index)) = 0 := by
  have share := le_consumerTotal measure objects index
  omega

variable [DecidableEq Consumer]

/-- What the sender does leaves the total alone. -/
@[simp] theorem consumerTotal_update_sender (object : Object) :
    consumerTotal measure (update objects .sender object) = consumerTotal measure objects := by
  simp [consumerTotal]

/-- The total is one consumer's share and that of the others. -/
theorem consumerTotal_eq_add_erase (objects : Party Consumer → Object) (index : Consumer) :
    consumerTotal measure objects = measure (objects (.consumer index)) +
        ∑ other ∈ Finset.univ.erase index, measure (objects (.consumer other)) :=
  (Finset.add_sum_erase _ _ (Finset.mem_univ index)).symm

/-- What one consumer does moves the total by its own difference. -/
theorem consumerTotal_update_consumer (objects : Party Consumer → Object)
    (index : Consumer) (object : Object) :
    consumerTotal measure (update objects (.consumer index) object) +
        measure (objects (.consumer index)) =
      consumerTotal measure objects + measure object := by
  have others : ∀ other ∈ Finset.univ.erase index, measure (update objects (.consumer index) object
        (.consumer other)) = measure (objects (.consumer other)) := by
    intro other member
    have distinct : Party.consumer other ≠ .consumer index := by
      intro same
      cases same
      exact Finset.notMem_erase _ _ member
    rw [update_of_ne distinct]
  rw [consumerTotal_eq_add_erase measure (update objects _ object) index,
    consumerTotal_eq_add_erase measure objects index, Finset.sum_congr rfl others, update_self]
  omega

end Total

section Outstanding

variable [Fintype Consumer] {parties : Party Consumer → SlotParty slots}

/-- What the sender does leaves the count of references alone. -/
@[simp] theorem outstanding_update_sender [DecidableEq Consumer]
    (party : SlotParty slots) (slot : Fin slots) :
    outstanding (update parties .sender party) slot = outstanding parties slot :=
  consumerTotal_update_sender _ party

/-- A held reference is counted. -/
theorem outstanding_pos {index : Consumer} {slot : Fin slots}
    (held : (parties (.consumer index)).references slot ≠ []) :
    0 < outstanding parties slot :=
  lt_of_lt_of_le (List.length_pos_of_ne_nil held)
    (le_consumerTotal (fun party : SlotParty slots =>
      (party.references slot).length) parties index)

end Outstanding

namespace SlotOwnership

variable [Fintype Consumer] {stateSlots : Fin slots → StatusWord}
  {parties : Party Consumer → SlotParty slots} {slot : Fin slots}

/-- A referenced slot is readable: neither sentinel is stored in it. -/
theorem readable (own : SlotOwnership stateSlots parties) {index : Consumer}
    {timeStamp : EventTimeStamp} (held : timeStamp ∈ (parties (.consumer index)).references slot) :
    stateSlots slot ≠ invalid ∧ stateSlots slot ≠ inWriting := by
  obtain ⟨carried, nonzero⟩ := own.stamped index slot timeStamp held
  have stamped : (EventSlotStatus.mk (stateSlots slot)).getTimeStamp ≠ 0 := by
    rw [carried]
    exact nonzero
  exact readable_of_timeStamp stamped

/-- A slot that somebody holds a reference to is not held for writing. -/
theorem not_writing (own : SlotOwnership stateSlots parties) {index : Consumer}
    (held : (parties (.consumer index)).references slot ≠ []) :
    (parties .sender).writing slot = false := by
  obtain ⟨timeStamp, member⟩ := List.exists_mem_of_ne_nil _ held
  have notInWriting := (own.readable member).2
  rw [ne_eq, own.written slot] at notInWriting
  exact Bool.eq_false_iff.mpr notInWriting

/-- Without references there is nobody who could hold one. -/
theorem references_eq_nil (unreferenced : outstanding parties slot = 0) (index : Consumer) :
    (parties (.consumer index)).references slot = [] := by
  exact List.length_eq_zero_iff.mp (eq_zero_of_consumerTotal _ unreferenced index)

/-- A slot in writing has no references. -/
theorem outstanding_of_inWriting (own : SlotOwnership stateSlots parties)
    (inWriting : stateSlots slot = inWriting) :
    outstanding parties slot = 0 := by
  apply Finset.sum_eq_zero
  intro index _
  rw [List.length_eq_zero_iff]
  by_contra held
  obtain ⟨timeStamp, member⟩ := List.exists_mem_of_ne_nil _ held
  exact (own.readable member).2 inWriting

/-- A slot that is neither in writing nor invalid carries a timestamp. -/
theorem timeStamp_ne_zero (own : SlotOwnership stateSlots parties)
    (notInvalid : stateSlots slot ≠ invalid)
    (notInWriting : stateSlots slot ≠ inWriting) :
    (EventSlotStatus.mk (stateSlots slot)).getTimeStamp ≠ 0 := by
  intro noStamp
  have unreferenced : outstanding parties slot = 0 := by
    apply Finset.sum_eq_zero
    intro index _
    rw [List.length_eq_zero_iff]
    by_contra held
    obtain ⟨timeStamp, member⟩ := List.exists_mem_of_ne_nil _ held
    obtain ⟨carried, nonzero⟩ := own.stamped index slot timeStamp member
    exact nonzero (carried.symm.trans noStamp)
  have noCount := own.counted slot notInWriting
  rw [unreferenced] at noCount
  exact notInvalid (eq_invalid noStamp (BitVec.eq_of_toNat_eq noCount))

/-- Nothing was written yet and nobody has done anything. -/
theorem initial : SlotOwnership (fun _ : Fin slots => invalid)
      (fun _ : Party Consumer => SlotParty.empty) where
  written := by
    intro slot
    simp [SlotParty.empty]
  counted := by
    intro slot _
    simp [SlotParty.empty, outstanding, consumerTotal]
  stamped := by
    intro index slot timeStamp held
    simp [SlotParty.empty] at held

/-! ## The four operations that change a status word -/

section Steps

variable [DecidableEq Consumer] {word : StatusWord}

section

variable (own : SlotOwnership stateSlots parties)

include own

/-- The sender allocates a slot that is not referenced. -/
theorem allocate (unused : (EventSlotStatus.mk (stateSlots slot)).getReferenceCount = 0) :
    SlotOwnership
      (update stateSlots slot inWriting)
      (update parties .sender ((parties .sender).allocate slot)) := by
  have notInWriting : stateSlots slot ≠ inWriting := by
    intro inWriting
    rw [inWriting] at unused
    exact absurd unused (by decide)
  have unreferenced : outstanding parties slot = 0 := by
    rw [← own.counted slot notInWriting, unused]
    rfl
  constructor
  · intro other
    by_cases same : other = slot
    · subst same
      simp [SlotParty.allocate]
    · rw [update_of_ne same, own.written other]
      simp [SlotParty.allocate, same]
  · intro other readable
    by_cases same : other = slot
    · subst same
      simp at readable
    · rw [update_of_ne same] at readable ⊢
      rw [outstanding_update_sender]
      exact own.counted other readable
  · intro index other timeStamp held
    rw [update_of_ne (by simp)] at held
    by_cases same : other = slot
    · subst same
      rw [references_eq_nil unreferenced index] at held
      cases held
    · rw [update_of_ne same]
      exact own.stamped index other timeStamp held

/-- The sender stores a word without references into a slot it holds. -/
theorem release (held : (parties .sender).writing slot = true)
    (noReference : (EventSlotStatus.mk word).getReferenceCount = 0) :
    SlotOwnership (update stateSlots slot word)
      (update parties .sender ((parties .sender).release slot)) := by
  have inWriting := (own.written slot).mpr held
  have unreferenced := own.outstanding_of_inWriting inWriting
  have notInWriting : word ≠ EventSlotStatus.inWriting := by
    intro same
    rw [same] at noReference
    exact absurd noReference (by decide)
  constructor
  · intro other
    by_cases same : other = slot
    · subst same
      simp [SlotParty.release, notInWriting]
    · rw [update_of_ne same, own.written other]
      simp [SlotParty.release, same]
  · intro other readable
    rw [outstanding_update_sender]
    by_cases same : other = slot
    · subst same
      rw [update_self, noReference, unreferenced]
      rfl
    · rw [update_of_ne same] at readable ⊢
      exact own.counted other readable
  · intro index other timeStamp referenced
    rw [update_of_ne (by simp)] at referenced
    by_cases same : other = slot
    · subst same
      rw [references_eq_nil unreferenced index] at referenced
      cases referenced
    · rw [update_of_ne same]
      exact own.stamped index other timeStamp referenced

variable {index : Consumer}

/-- A consumer changes the reference count of a readable slot by as much as
its own record of the slot changes. -/
theorem recount {party : SlotParty slots} (notInvalid : stateSlots slot ≠ invalid)
    (notInWriting : stateSlots slot ≠ inWriting)
    (sameStamp : (EventSlotStatus.mk word).getTimeStamp =
      (EventSlotStatus.mk (stateSlots slot)).getTimeStamp)
    (balance : (EventSlotStatus.mk word).getReferenceCount.toNat +
        ((parties (.consumer index)).references slot).length =
      (EventSlotStatus.mk (stateSlots slot)).getReferenceCount.toNat +
        (party.references slot).length)
    (current : ∀ timeStamp ∈ party.references slot,
      timeStamp = (EventSlotStatus.mk (stateSlots slot)).getTimeStamp)
    (elsewhere : ∀ other, other ≠ slot →
      party.references other = (parties (.consumer index)).references other) :
    SlotOwnership (update stateSlots slot word)
      (update parties (.consumer index) party) := by
  have stamped := own.timeStamp_ne_zero notInvalid notInWriting
  have stillReadable : word ≠ inWriting := by
    intro sentinel
    apply stamped
    rw [← sameStamp, sentinel]
    exact getTimeStamp_inWriting
  have sender : update parties (.consumer index) party .sender =
      parties .sender := update_of_ne (by simp) _ _
  constructor
  · intro other
    rw [sender]
    by_cases same : other = slot
    · subst same
      rw [update_self, ← own.written other]
      exact iff_of_false stillReadable notInWriting
    · rw [update_of_ne same]
      exact own.written other
  · intro other readable
    have moved := consumerTotal_update_consumer
      (fun party : SlotParty slots => (party.references other).length) parties
      index party
    change outstanding _ other + _ = outstanding _ other + _ at moved
    by_cases same : other = slot
    · subst same
      have counted := own.counted other notInWriting
      rw [update_self]
      omega
    · rw [update_of_ne same] at readable ⊢
      have counted := own.counted other readable
      rw [elsewhere other same] at moved
      omega
  · intro holder other timeStamp held
    by_cases self : holder = index
    · subst self
      rw [update_self] at held
      by_cases same : other = slot
      · subst same
        rw [update_self, sameStamp, current timeStamp held]
        exact ⟨rfl, stamped⟩
      · rw [elsewhere other same] at held
        rw [update_of_ne same]
        exact own.stamped holder other timeStamp held
    · rw [update_of_ne (by simpa using self)] at held
      by_cases same : other = slot
      · subst same
        rw [update_self, sameStamp]
        exact own.stamped holder other timeStamp held
      · rw [update_of_ne same]
        exact own.stamped holder other timeStamp held

omit [DecidableEq Consumer] in
/-- A readable word has room for one more reference. -/
theorem room (few : outstanding parties slot < 2 ^ 32 - 1)
    (notInWriting : stateSlots slot ≠ inWriting) :
    (EventSlotStatus.mk (stateSlots slot)).getReferenceCount.toNat < 2 ^ 32 - 1 := by
  rw [own.counted slot notInWriting]
  exact few

/-- A consumer takes a reference to a readable slot. -/
theorem acquire (few : outstanding parties slot < 2 ^ 32 - 1)
    (notInvalid : stateSlots slot ≠ invalid)
    (notInWriting : stateSlots slot ≠ inWriting) (index : Consumer) :
    SlotOwnership
      (update stateSlots slot (stateSlots slot + 1))
      (update parties (.consumer index) ((parties (.consumer index)).acquire slot
          (EventSlotStatus.mk (stateSlots slot)).getTimeStamp)) := by
  obtain ⟨sameStamp, oneMore⟩ := increment (own.room few notInWriting)
  apply own.recount notInvalid notInWriting sameStamp
  · simp only [SlotParty.acquire, update_self, List.length_cons]
    omega
  · intro timeStamp held
    simp only [SlotParty.acquire, update_self, List.mem_cons] at held
    rcases held with new | old
    · exact new
    · exact (own.stamped index slot timeStamp old).1.symm
  · intro other distinct
    simp [SlotParty.acquire, distinct]

omit [DecidableEq Consumer] in
/-- A held slot has a reference to subtract. -/
theorem referenced (held : (parties (.consumer index)).references slot ≠ []) :
    0 < (EventSlotStatus.mk (stateSlots slot)).getReferenceCount.toNat := by
  obtain ⟨timeStamp, member⟩ := List.exists_mem_of_ne_nil _ held
  rw [own.counted slot (own.readable member).2]
  exact outstanding_pos held

/-- A consumer gives a reference back. -/
theorem giveBack (held : (parties (.consumer index)).references slot ≠ []) : SlotOwnership
      (update stateSlots slot (stateSlots slot - 1))
      (update parties (.consumer index) ((parties (.consumer index)).giveBack slot)) := by
  obtain ⟨sameStamp, oneLess⟩ := decrement (own.referenced held)
  obtain ⟨timeStamp, member⟩ := List.exists_mem_of_ne_nil _ held
  have readable := own.readable member
  apply own.recount readable.1 readable.2 sameStamp
  · have positive := List.length_pos_of_ne_nil held
    simp only [SlotParty.giveBack, update_self, List.length_tail]
    omega
  · intro kept still
    simp only [SlotParty.giveBack, update_self] at still
    exact (own.stamped index slot kept (List.mem_of_mem_tail still)).1.symm
  · intro other distinct
    simp [SlotParty.giveBack, distinct]

end

end Steps

end SlotOwnership

end MwCom.Lola
