/-
Module: MwCom.Lola.TransactionLog
Purpose: The transactions a proxy event records in shared memory before and
  after it touches a slot or its subscription, the rollback of the log a
  killed process leaves, and the set of logs of one event.
Trusted boundary: none
Main exports: TransactionLog.referenceTransactionBegin and its siblings,
  TransactionLog.rollbackProxyElementLog, TransactionLogSet.unregister
-/
import MwCom.Lola.EventControl

namespace MwCom

/-- Errors handed to the user. -/
inductive ComErrc where
  | couldNotRestartProxy
  | maxSubscribersExceeded
  | maxSampleCountNotRealizable
  | maxSamplesReached
  | bindingFailure
  | notSubscribed
deriving DecidableEq, Repr

end MwCom

namespace MwCom.Lola

open Interleaving ControlProgram

variable {slots : Nat} {LogIndex : Type}

namespace TransactionLog

section Flags

variable (log : LogIndex) (entry : LogEntry slots)

def getTransactionBegin : ControlProgram slots LogIndex Bool :=
  .perform (ControlOp.getFlag log entry .transactionBegin)

def getTransactionEnd : ControlProgram slots LogIndex Bool :=
  .perform (ControlOp.getFlag log entry .transactionEnd)

def setTransactionBegin (value : Bool) : ControlProgram slots LogIndex Unit :=
  .perform (ControlOp.setFlag log entry .transactionBegin value)

def setTransactionEnd (value : Bool) : ControlProgram slots LogIndex Unit :=
  .perform (ControlOp.setFlag log entry .transactionEnd value)

/-- The precondition of every transaction step: both flags are as given. -/
def expectFlags (transactionBegin transactionEnd : Bool) : ControlProgram slots LogIndex Unit := do
  ampPrecondition ((← getTransactionBegin log entry) == transactionBegin)
  ampPrecondition ((← getTransactionEnd log entry) == transactionEnd)

end Flags

section Transactions

variable (log : LogIndex)

def subscribeTransactionBegin (subscriptionMaxSampleCount : BitVec 16) :
    ControlProgram slots LogIndex Unit := do
  expectFlags log .subscribe false false
  setTransactionBegin log .subscribe true
  .perform (ControlOp.setMaxSampleCount log (some subscriptionMaxSampleCount))

def subscribeTransactionCommit : ControlProgram slots LogIndex Unit := do
  expectFlags log .subscribe true false
  setTransactionEnd log .subscribe true

def subscribeTransactionAbort : ControlProgram slots LogIndex Unit := do
  expectFlags log .subscribe true false
  setTransactionBegin log .subscribe false

def unsubscribeTransactionBegin : ControlProgram slots LogIndex Unit := do
  expectFlags log .subscribe true true
  setTransactionEnd log .subscribe false

def unsubscribeTransactionCommit : ControlProgram slots LogIndex Unit := do
  expectFlags log .subscribe true false
  .perform (ControlOp.setMaxSampleCount log none)
  setTransactionBegin log .subscribe false

variable (slotIndex : Fin slots)

def referenceTransactionBegin : ControlProgram slots LogIndex Unit := do
  expectFlags log (.slot slotIndex) false false
  setTransactionBegin log (.slot slotIndex) true

def referenceTransactionCommit : ControlProgram slots LogIndex Unit := do
  expectFlags log (.slot slotIndex) true false
  setTransactionEnd log (.slot slotIndex) true

def referenceTransactionAbort : ControlProgram slots LogIndex Unit := do
  expectFlags log (.slot slotIndex) true false
  setTransactionBegin log (.slot slotIndex) false

def dereferenceTransactionBegin : ControlProgram slots LogIndex Unit := do
  expectFlags log (.slot slotIndex) true true
  setTransactionBegin log (.slot slotIndex) false

def dereferenceTransactionCommit : ControlProgram slots LogIndex Unit := do
  expectFlags log (.slot slotIndex) false true
  setTransactionEnd log (.slot slotIndex) false

end Transactions

/-! ## Rollback -/

section Rollback

variable (log : LogIndex)

def doesLogContainIncrementOrDecrementTransactions :
    List (Fin slots) → ControlProgram slots LogIndex Bool
  | [] => pure false
  | slotIdx :: rest => do
      if (← getTransactionBegin log (.slot slotIdx)) ||
          (← getTransactionEnd log (.slot slotIdx)) then
        pure true
      else
        doesLogContainIncrementOrDecrementTransactions rest

def containsTransactions : ControlProgram slots LogIndex Bool := do
  if (← getTransactionBegin log .subscribe) ||
      (← getTransactionEnd log .subscribe) then
    pure true
  else
    doesLogContainIncrementOrDecrementTransactions log (List.finRange slots)

/-- Give back every recorded reference, slot by slot.  A slot with only one of
its flags set stops the rollback: whether its count was changed is unknown. -/
def rollbackIncrementTransactions
    (dereferenceSlotCallback : Fin slots → ControlProgram slots LogIndex Unit) :
    List (Fin slots) → ControlProgram slots LogIndex (Except ComErrc Unit)
  | [] => pure (.ok ())
  | slotIdx :: rest => do
      let transactionBegin ← getTransactionBegin log (.slot slotIdx)
      let transactionEnd ← getTransactionEnd log (.slot slotIdx)
      match transactionBegin, transactionEnd with
      | true, true => do
          dereferenceTransactionBegin log slotIdx
          dereferenceSlotCallback slotIdx
          dereferenceTransactionCommit log slotIdx
          rollbackIncrementTransactions dereferenceSlotCallback rest
      | true, false => pure (.error .couldNotRestartProxy)
      | false, true => pure (.error .couldNotRestartProxy)
      | false, false =>
          rollbackIncrementTransactions dereferenceSlotCallback rest

def rollbackSubscribeTransactions
    (unsubscribeCallback : BitVec 16 → ControlProgram slots LogIndex Unit) :
    ControlProgram slots LogIndex (Except ComErrc Unit) := do
  let transactionBegin ← getTransactionBegin log .subscribe
  let transactionEnd ← getTransactionEnd log .subscribe
  match transactionBegin, transactionEnd with
  | true, true => do
      unsubscribeTransactionBegin log
      match ← .perform (ControlOp.getMaxSampleCount log) with
      | some subscriptionMaxSampleCount => do
          unsubscribeCallback subscriptionMaxSampleCount
          unsubscribeTransactionCommit log
          pure (.ok ())
      -- `value()` of an empty optional ends the process
      | none => terminate
  | true, false => pure (.error .couldNotRestartProxy)
  | false, true => pure (.error .couldNotRestartProxy)
  | false, false => pure (.ok ())

def rollbackProxyElementLog
    (dereferenceSlotCallback : Fin slots → ControlProgram slots LogIndex Unit)
    (unsubscribeCallback : BitVec 16 → ControlProgram slots LogIndex Unit) :
    ControlProgram slots LogIndex (Except ComErrc Unit) := do
  let transactionBegin ← getTransactionBegin log .subscribe
  let transactionEnd ← getTransactionEnd log .subscribe
  let wasNoSubscribeRecorded := !transactionBegin && !transactionEnd
  if wasNoSubscribeRecorded then do
    ampPrecondition
      (!(← doesLogContainIncrementOrDecrementTransactions log (List.finRange slots)))
    rollbackRecorded
  else
    rollbackRecorded
where
  /-- Slots first, then the subscription. -/
  rollbackRecorded : ControlProgram slots LogIndex (Except ComErrc Unit) := do
    match ← rollbackIncrementTransactions log dereferenceSlotCallback
        (List.finRange slots) with
    | .error error => pure (.error error)
    | .ok () => rollbackSubscribeTransactions log unsubscribeCallback

end Rollback

end TransactionLog

/-! ## The logs of one event -/

namespace TransactionLogSet

def getTransactionLog (log : LogIndex) : ControlProgram slots LogIndex Unit := do
  ampAssertPrd (← .perform (ControlOp.isActive log))

/-- `TransactionLogNode::Reset`. -/
def reset (log : LogIndex) : ControlProgram slots LogIndex Unit := do
  ampAssertPrd (!(← TransactionLog.containsTransactions log))
  .perform (ControlOp.markActive log false)
  .perform (ControlOp.markNeedsRollback log false)

def unregister (log : LogIndex) : ControlProgram slots LogIndex Unit := reset log

end TransactionLogSet

end MwCom.Lola
