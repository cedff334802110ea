/-
Module: MwCom.Lola.EventDataControl
Purpose: The lock-free slot control of one event: allocation and publication
  by the sender, referencing and dereferencing by the consumers.
Trusted boundary: none
Main exports: EventDataControl.allocateNextSlot, EventDataControl.eventReady,
  EventDataControl.discard, EventDataControl.referenceSpecificEvent,
  EventDataControl.referenceNextEvent, EventDataControl.dereferenceEvent,
  EventDataControl.removeAllocationsForWriting
-/
import MwCom.Lola.TransactionLog

namespace MwCom.Lola.EventDataControl

open Interleaving ControlProgram TransactionLog TransactionLogSet

variable {slots : Nat} {LogIndex : Type}

def maxAllocateRetries : Nat := 100

def maxReferenceRetries : Nat := 100

/-! ## The sender -/

/-- The scan of `findOldestUnusedSlot` over the remaining slots. -/
def findOldestUnusedSlotAmong : List (Fin slots) → EventTimeStamp → Option (Fin slots) →
      ControlProgram slots LogIndex (Option (Fin slots))
  | [], _, selectedIndex => pure selectedIndex
  | currentIndex :: rest, oldestTimeStamp, selectedIndex => do
      let status := EventSlotStatus.mk (← load currentIndex)
      if status.isInvalid then
        pure (some currentIndex)
      else if status.getReferenceCount == 0 && !status.isInWriting &&
          decide (status.getTimeStamp < oldestTimeStamp) then
        findOldestUnusedSlotAmong rest status.getTimeStamp (some currentIndex)
      else
        findOldestUnusedSlotAmong rest oldestTimeStamp selectedIndex

def findOldestUnusedSlot : ControlProgram slots LogIndex (Option (Fin slots)) :=
  findOldestUnusedSlotAmong (List.finRange slots) EventSlotStatus.timestampMax
    none

/-- The loop of `allocateNextSlot` with `remaining` passes left: the retry
counter at its end and the slot selected last. -/
def allocateRetries : (remaining : Nat) → Option (Fin slots) →
      ControlProgram slots LogIndex (Nat × Option (Fin slots))
  | 0, selectedIndex => pure (maxAllocateRetries + 1, selectedIndex)
  | remaining + 1, _ => do
      match ← findOldestUnusedSlot with
      | none => allocateRetries remaining none
      | some selectedIndex => do
          let status := EventSlotStatus.mk (← load selectedIndex)
          if status.getReferenceCount != 0 || status.isInWriting then
            allocateRetries remaining (some selectedIndex)
          else
            let statusNew := (EventSlotStatus.mk 0).markInWriting
            if ← compareExchangeWeak selectedIndex status.data
                statusNew.data then
              pure (maxAllocateRetries - remaining, some selectedIndex)
            else
              allocateRetries remaining (some selectedIndex)

/-- A slot won in the last pass is dropped again by the final check. -/
def allocateNextSlot : ControlProgram slots LogIndex (Option (Fin slots)) := do
  let (retryCounter, selectedIndex) ←
    allocateRetries (maxAllocateRetries + 1) none
  if retryCounter ≥ maxAllocateRetries then
    pure none
  else
    pure selectedIndex

def eventReady (slotIndex : Fin slots) (timeStamp : EventTimeStamp) :
    ControlProgram slots LogIndex Unit :=
  store slotIndex (EventSlotStatus.ofTimeStamp timeStamp 0).data

def discard (slotIndex : Fin slots) : ControlProgram slots LogIndex Unit := do
  let slot := EventSlotStatus.mk (← load slotIndex)
  if slot.isInWriting then
    store slotIndex slot.markInvalid.data
  else
    pure ()

/-- Run by the next provider process before it offers the event again. -/
def removeAllocationsForWritingAmong : List (Fin slots) → ControlProgram slots LogIndex Unit
  | [] => pure ()
  | slot :: rest => do
      let status := EventSlotStatus.mk (← load slot)
      if status.isInWriting then do
        if ← compareExchangeWeak slot status.data 0 then
          removeAllocationsForWritingAmong rest
        else
          terminate
      else
        removeAllocationsForWritingAmong rest

def removeAllocationsForWriting : ControlProgram slots LogIndex Unit :=
  removeAllocationsForWritingAmong (List.finRange slots)

/-! ## The consumers -/

section Consumer

variable (slotIndex : Fin slots) (transactionLog : LogIndex)

/-- The loop of `referenceSpecificEvent` with `remaining` passes left. -/
def referenceSpecificRetries : Nat → ControlProgram slots LogIndex Bool
  | 0 => pure false
  | remaining + 1 => do
      let slotCurrentStatus := EventSlotStatus.mk (← load slotIndex)
      if slotCurrentStatus.isInWriting || slotCurrentStatus.isInvalid then
        pure false
      else
        let slotNewStatus := EventSlotStatus.mk (slotCurrentStatus.data + 1)
        if slotNewStatus.getReferenceCount == 0 then
          pure false
        else do
          referenceTransactionBegin transactionLog slotIndex
          if ← compareExchangeWeak slotIndex slotCurrentStatus.data
              slotNewStatus.data then do
            referenceTransactionCommit transactionLog slotIndex
            pure true
          else do
            referenceTransactionAbort transactionLog slotIndex
            referenceSpecificRetries remaining

def referenceSpecificEvent : ControlProgram slots LogIndex Bool := do
  getTransactionLog transactionLog
  referenceSpecificRetries slotIndex transactionLog maxReferenceRetries

/-- One search for the newest slot below `upperLimit`: the status found last is
the lower bound for the slots that remain. -/
def findCandidateAmong (upperLimit : EventTimeStamp) :
    List (Fin slots) → EventSlotStatus → Option (Fin slots) →
      ControlProgram slots LogIndex (EventSlotStatus × Option (Fin slots))
  | [], candidateSlotStatus, possibleIndex =>
      pure (candidateSlotStatus, possibleIndex)
  | currentIndex :: rest, candidateSlotStatus, possibleIndex => do
      let slotStatus := EventSlotStatus.mk (← load currentIndex)
      if slotStatus.isTimeStampBetween candidateSlotStatus.getTimeStamp
          upperLimit then
        findCandidateAmong upperLimit rest slotStatus (some currentIndex)
      else
        findCandidateAmong upperLimit rest candidateSlotStatus possibleIndex

/-- The loop of `referenceNextEvent` with `remaining` passes left. -/
def referenceNextRetries (lastSearchTime upperLimit : EventTimeStamp) :
    Nat → ControlProgram slots LogIndex (Option (Fin slots))
  | 0 => pure none
  | remaining + 1 => do
      match ← findCandidateAmong upperLimit (List.finRange slots)
          (EventSlotStatus.ofTimeStamp lastSearchTime 0) none with
      | (_, none) => pure none
      | (candidateSlotStatus, some possibleIndex) => do
          referenceTransactionBegin transactionLog possibleIndex
          if ← compareExchangeWeak possibleIndex candidateSlotStatus.data
              (candidateSlotStatus.data + 1) then do
            referenceTransactionCommit transactionLog possibleIndex
            pure (some possibleIndex)
          else do
            referenceTransactionAbort transactionLog possibleIndex
            referenceNextRetries lastSearchTime upperLimit remaining

def referenceNextEvent (lastSearchTime : EventTimeStamp)
    (upperLimit : EventTimeStamp) :
    ControlProgram slots LogIndex (Option (Fin slots)) := do
  getTransactionLog transactionLog
  referenceNextRetries transactionLog lastSearchTime upperLimit
    maxReferenceRetries

def dereferenceEventWithoutTransactionLogging : ControlProgram slots LogIndex Unit :=
  fetchSub slotIndex

def dereferenceEvent : ControlProgram slots LogIndex Unit := do
  getTransactionLog transactionLog
  dereferenceTransactionBegin transactionLog slotIndex
  dereferenceEventWithoutTransactionLogging slotIndex
  dereferenceTransactionCommit transactionLog slotIndex

end Consumer

/-- The count of `getNumNewEvents` over the remaining slots. -/
def getNumNewEventsAmong (referenceTime : EventTimeStamp) :
    List (Fin slots) → Nat → ControlProgram slots LogIndex Nat
  | [], result => pure result
  | slot :: rest, result => do
      let slotStatus := EventSlotStatus.mk (← load slot)
      if slotStatus.isTimeStampBetween referenceTime
          EventSlotStatus.timestampMax then
        getNumNewEventsAmong referenceTime rest (result + 1)
      else
        getNumNewEventsAmong referenceTime rest result

def getNumNewEvents (referenceTime : EventTimeStamp) : ControlProgram slots LogIndex Nat :=
  getNumNewEventsAmong referenceTime (List.finRange slots) 0

end MwCom.Lola.EventDataControl
