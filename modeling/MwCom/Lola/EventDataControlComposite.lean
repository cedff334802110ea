/-
Module: MwCom.Lola.EventDataControlComposite
Purpose: The two slot controls of an event, one for consumers of each quality,
  and the composite through which the skeleton operates on both.
Trusted boundary: the number of references consumers hold (`references`) is
  bookkeeping of this module; that the shared memory is removed and created anew
  while its usage marker is locked is one operation (`recreateUnused`).
Main exports: QualityType, SkeletonMemory, SkeletonOp, SkeletonOp.outcomes,
  SkeletonProgram, EventDataControlComposite,
  EventDataControlComposite.allocateNextSlot
-/
import Mathlib.Data.Fintype.Basic
import MwCom.Lola.EventDataControl

namespace MwCom.Lola

open Interleaving

variable {slots : Nat} {LogIndex : Type}

/-- The quality a consumer is served with. -/
inductive QualityType where
  | asilQm
  | asilB
deriving DecidableEq, Repr

instance : Fintype QualityType := ⟨{.asilQm, .asilB}, fun quality => by cases quality <;> simp⟩

/-- The shared memory behind one event of a skeleton: a control for each
quality, and how many references its consumers hold on each slot. -/
structure SkeletonMemory (slots : Nat) (LogIndex : Type) where
  control : QualityType → EventControl slots LogIndex
  references : QualityType → Fin slots → Nat

namespace SkeletonMemory

/-- The status word of a slot in one of the controls. -/
def status (memory : SkeletonMemory slots LogIndex) (quality : QualityType)
    (slot : Fin slots) : EventSlotStatus :=
  ⟨(memory.control quality).stateSlots slot⟩

def setControl (memory : SkeletonMemory slots LogIndex) (quality : QualityType)
    (control : EventControl slots LogIndex) : SkeletonMemory slots LogIndex :=
  { memory with control := Function.update memory.control quality control }

@[simp] theorem setControl_self (memory : SkeletonMemory slots LogIndex)
    (quality : QualityType) :
    memory.setControl quality (memory.control quality) = memory := by
  simp [setControl]

@[simp] theorem setControl_setControl (memory : SkeletonMemory slots LogIndex)
    (quality : QualityType) (one two : EventControl slots LogIndex) :
    (memory.setControl quality one).setControl quality two = memory.setControl quality two := by
  simp [setControl]

@[simp] theorem control_setControl_self (memory : SkeletonMemory slots LogIndex)
    (quality : QualityType) (control : EventControl slots LogIndex) :
    (memory.setControl quality control).control quality = control := by
  simp [setControl]

@[simp] theorem references_setControl (memory : SkeletonMemory slots LogIndex)
    (quality : QualityType) (control : EventControl slots LogIndex) :
    (memory.setControl quality control).references = memory.references := rfl

@[simp] theorem status_setControl_self (memory : SkeletonMemory slots LogIndex)
    (quality : QualityType) (control : EventControl slots LogIndex) (slot : Fin slots) :
    (memory.setControl quality control).status quality slot = ⟨control.stateSlots slot⟩ := by
  simp [status, setControl]

theorem status_setControl_of_ne (memory : SkeletonMemory slots LogIndex)
    {quality other : QualityType} (distinct : other ≠ quality)
    (control : EventControl slots LogIndex) (slot : Fin slots) :
    (memory.setControl quality control).status other slot = memory.status other slot := by
  simp [status, setControl, distinct]

end SkeletonMemory

/-- The shared memory after it was created: no slot was written. -/
def SkeletonMemory.new : SkeletonMemory slots LogIndex where
  control := fun _ =>
    { stateSlots := fun _ => EventSlotStatus.invalid
      transactionLogs := fun _ =>
        { isActive := false, needsRollback := false, transactionLog := .empty }
      currentSubscriptionState := 0 }
  references := fun _ _ => 0

/-- The indivisible operations of a skeleton event: the look at whether the shared
memory is unused, those on either control (the one store of
`EventDataControl.eventReady` is told apart from the other stores), and the
messages to consumers. -/
inductive SkeletonOp (slots : Nat) (LogIndex : Type) where
  | recreateUnused
  | control (quality : QualityType) (op : ControlOp slots LogIndex)
  | eventReady (quality : QualityType) (slot : Fin slots)
      (timeStamp : EventTimeStamp)
  | notifyEvent (quality : QualityType)
  | disconnectQmConsumers

namespace SkeletonOp

def Ret : SkeletonOp slots LogIndex → Type
  | .recreateUnused => Bool
  | .control _ op => op.Ret
  | .eventReady _ _ _ => Unit
  | .notifyEvent _ => Unit
  | .disconnectQmConsumers => Unit

/-- What an operation can do.  Shared memory that no proxy uses is removed and
created anew; messages do not touch it. -/
def outcomes [DecidableEq LogIndex] (ampChecked : Bool) :
    (op : SkeletonOp slots LogIndex) → SkeletonMemory slots LogIndex →
      List (op.Ret × SkeletonMemory slots LogIndex)
  | .recreateUnused, memory => [(false, memory), (true, .new)]
  | .control quality op, memory =>
      (op.outcomes ampChecked (memory.control quality)).map fun outcome =>
        (outcome.1, memory.setControl quality outcome.2)
  | .eventReady quality slot timeStamp, memory =>
      [((), memory.setControl quality ((memory.control quality).setSlot slot
        (EventSlotStatus.ofTimeStamp timeStamp 0).data))]
  | .notifyEvent _, memory => [((), memory)]
  | .disconnectQmConsumers, memory => [((), memory)]

end SkeletonOp

/-- Programs of a skeleton event. -/
abbrev SkeletonProgram (slots : Nat) (LogIndex : Type) (α : Type) :=
  Program (SkeletonOp slots LogIndex) SkeletonOp.Ret α

namespace SkeletonProgram

variable {α : Type}

/-- A program on one of the controls. -/
def onControl (quality : QualityType) (program : ControlProgram slots LogIndex α) :
    SkeletonProgram slots LogIndex α :=
  program.lift (SkeletonOp.control quality) fun _ answer => answer

/-- An `if` without an alternative. -/
def onlyIf (condition : Bool) (program : SkeletonProgram slots LogIndex Unit) :
    SkeletonProgram slots LogIndex Unit :=
  if condition then program else pure ()

def load (quality : QualityType) (slot : Fin slots) : SkeletonProgram slots LogIndex StatusWord :=
  .perform (SkeletonOp.control quality (.load slot))

def store (quality : QualityType) (slot : Fin slots) (word : StatusWord) :
    SkeletonProgram slots LogIndex Unit :=
  .perform (SkeletonOp.control quality (.store slot word))

def compareExchangeStrong (quality : QualityType) (slot : Fin slots)
    (expected desired : StatusWord) : SkeletonProgram slots LogIndex Bool :=
  .perform (SkeletonOp.control quality (.compareExchangeStrong slot expected desired))

def eventReady (quality : QualityType) (slot : Fin slots)
    (timeStamp : EventTimeStamp) : SkeletonProgram slots LogIndex Unit :=
  .perform (SkeletonOp.eventReady quality slot timeStamp)

def recreateUnused : SkeletonProgram slots LogIndex Bool := .perform SkeletonOp.recreateUnused

def notifyEvent (quality : QualityType) : SkeletonProgram slots LogIndex Unit :=
  .perform (SkeletonOp.notifyEvent quality)

def disconnectQmConsumers : SkeletonProgram slots LogIndex Unit :=
  .perform SkeletonOp.disconnectQmConsumers

end SkeletonProgram

open SkeletonProgram

/-- The composite: the QM control is always there, the ASIL-B control
(`asilBControl`) need not be. -/
structure EventDataControlComposite where
  asilBControl : Bool
  ignoreQmControl : Bool
deriving DecidableEq, Repr

namespace EventDataControlComposite

def maxMultiAllocateCount : Nat := 100

/-- A composite of a QM control and, if `asilBControl`, an ASIL-B control. -/
def new (asilBControl : Bool) : EventDataControlComposite where
  asilBControl := asilBControl
  ignoreQmControl := false

/-! ## Allocation in both controls -/

/-- The loop of `getNextFreeMultiSlot` over the remaining slots. -/
def getNextFreeMultiSlotAmong : List (Fin slots) → EventTimeStamp → Option (Fin slots) →
      SkeletonProgram slots LogIndex (Option (Fin slots × EventTimeStamp))
  | [], oldestTimeStamp, possibleIndex =>
      match possibleIndex with
      | some slotIndex => pure (some (slotIndex, oldestTimeStamp))
      | none => pure none
  | slotIndex :: rest, oldestTimeStamp, possibleIndex => do
      let slotQm := EventSlotStatus.mk (← load .asilQm slotIndex)
      let slotB := EventSlotStatus.mk (← load .asilB slotIndex)
      if (slotB.isInvalid || (!slotQm.isUsed && !slotB.isUsed)) &&
          decide (slotB.getTimeStamp < oldestTimeStamp) then
        getNextFreeMultiSlotAmong rest slotB.getTimeStamp (some slotIndex)
      else
        getNextFreeMultiSlotAmong rest oldestTimeStamp possibleIndex

def getNextFreeMultiSlot : SkeletonProgram slots LogIndex (Option (Fin slots × EventTimeStamp)) :=
  getNextFreeMultiSlotAmong (List.finRange slots) EventSlotStatus.timestampMax
    none

def tryLockSlot (slot : Fin slots) (expectedTimeStamp : EventTimeStamp) :
    SkeletonProgram slots LogIndex Bool := do
  let asilQmOld := EventSlotStatus.mk (← load .asilQm slot)
  let asilBOld := EventSlotStatus.mk (← load .asilB slot)
  if (asilQmOld.isUsed || decide (asilQmOld.getTimeStamp > expectedTimeStamp)) ||
      (asilBOld.isUsed || decide (asilBOld.getTimeStamp > expectedTimeStamp)) then
    pure false
  else
    let inWriting := (EventSlotStatus.mk 0).markInWriting
    if ← compareExchangeStrong .asilQm slot asilQmOld.data inWriting.data then
      if ← compareExchangeStrong .asilB slot asilBOld.data inWriting.data then
        pure true
      else do
        -- the lock on the QM control is rolled back
        store .asilQm slot asilQmOld.data
        pure false
    else
      pure false

/-- The loop of `allocateNextMultiSlot` with `remaining` passes left. -/
def allocateMultiRetries : (remaining : Nat) → SkeletonProgram slots LogIndex (Option (Fin slots))
  | 0 => pure none
  | remaining + 1 => do
      match ← getNextFreeMultiSlot with
      | some (slotIndex, timeStamp) =>
          if ← tryLockSlot slotIndex timeStamp then
            pure (some slotIndex)
          else
            allocateMultiRetries remaining
      | none => allocateMultiRetries remaining

def allocateNextMultiSlot : SkeletonProgram slots LogIndex (Option (Fin slots)) :=
  allocateMultiRetries maxMultiAllocateCount

section Composite

variable (composite : EventDataControlComposite)

/-- The slot, and whether the QM control is ignored, with the composite as the
call leaves it. -/
def allocateNextSlot : SkeletonProgram slots LogIndex
      (EventDataControlComposite × Option (Fin slots) × Bool) :=
  if composite.asilBControl then
    if !composite.ignoreQmControl then do
      match ← allocateNextMultiSlot with
      | some slot => pure (composite, some slot, composite.ignoreQmControl)
      | none => do
          let slot ← onControl .asilB EventDataControl.allocateNextSlot
          pure ({ composite with ignoreQmControl := true }, slot, true)
    else do
      let slot ← onControl .asilB EventDataControl.allocateNextSlot
      pure (composite, slot, true)
  else do
    let slot ← onControl .asilQm EventDataControl.allocateNextSlot
    pure (composite, slot, false)

def eventReady (slot : Fin slots) (timeStamp : EventTimeStamp) :
    SkeletonProgram slots LogIndex Unit := do
  onlyIf composite.asilBControl
    (SkeletonProgram.eventReady .asilB slot timeStamp)
  onlyIf (!composite.ignoreQmControl)
    (SkeletonProgram.eventReady .asilQm slot timeStamp)

def discard (slot : Fin slots) : SkeletonProgram slots LogIndex Unit := do
  onlyIf composite.asilBControl
    (onControl .asilB (EventDataControl.discard slot))
  onlyIf (!composite.ignoreQmControl)
    (onControl .asilQm (EventDataControl.discard slot))

/-- The control whose timestamps count. -/
def latestControl : QualityType := if composite.asilBControl then .asilB else .asilQm

/-- The loop of `getLatestTimestamp` over the remaining slots. -/
def getLatestTimestampAmong : List (Fin slots) → EventTimeStamp →
      SkeletonProgram slots LogIndex EventTimeStamp
  | [], latestTimeStamp => pure latestTimeStamp
  | slotIndex :: rest, latestTimeStamp => do
      let slot := EventSlotStatus.mk (← load composite.latestControl slotIndex)
      if !slot.isInvalid && !slot.isInWriting &&
          decide (latestTimeStamp < slot.getTimeStamp) then
        getLatestTimestampAmong rest slot.getTimeStamp
      else
        getLatestTimestampAmong rest latestTimeStamp

def getLatestTimestamp : SkeletonProgram slots LogIndex EventTimeStamp :=
  composite.getLatestTimestampAmong (List.finRange slots) 1

end Composite

end EventDataControlComposite

end MwCom.Lola
