/-
Module: MwCom.Lola.SubscriptionStateMachine
Purpose: Registering a log, and the three states of a subscription with what
  every event does in each of them.
Trusted boundary: none
Main exports: TransactionLogSet.registerProxyElement, SubscriptionStateMachine,
  SubscriptionStateMachine.subscribeEvent,
  SubscriptionStateMachine.unsubscribeEvent
-/
import MwCom.Lola.SlotCollector
import MwCom.Lola.SubscriptionStates
import MwCom.Proxy.SampleReferenceTracker

namespace MwCom.Lola

open Interleaving ProxyProgram

variable {slots : Nat} {LogIndex : Type}

namespace TransactionLogSet

def isActive (log : LogIndex) : ProxyProgram slots LogIndex Bool :=
  .perform (ProxyOp.control (.isActive log))

/-- The first log that is not active. -/
def findNextAvailableSlotIndex : List LogIndex → ProxyProgram slots LogIndex (Option LogIndex)
  | [] => pure none
  | log :: rest => do
      if ← isActive log then
        findNextAvailableSlotIndex rest
      else
        pure (some log)

/-- Register a log among `transactionLogs`; the mutex is held throughout. -/
def registerProxyElement (transactionLogs : List LogIndex) :
    ProxyProgram slots LogIndex (Except ComErrc LogIndex) := do
  .perform ProxyOp.lock
  match ← findNextAvailableSlotIndex transactionLogs with
  | none => do
      .perform ProxyOp.unlock
      pure (.error .maxSubscribersExceeded)
  | some log => do
      .perform (ProxyOp.control (.markActive log true))
      .perform (ProxyOp.control (.markNeedsRollback log false))
      ampAssertPrd (!(← onControl (TransactionLog.containsTransactions log)))
      .perform ProxyOp.unlock
      pure (.ok log)

/-- `unregister`, with the mutex of the set. -/
def unregisterLocked (log : LogIndex) : ProxyProgram slots LogIndex Unit := do
  .perform ProxyOp.lock
  onControl (unregister log)
  .perform ProxyOp.unlock

end TransactionLogSet

/-- The states of a subscription. -/
inductive SubscriptionStateMachineState where
  | notSubscribedState
  | subscriptionPendingState
  | subscribedState
deriving DecidableEq, Repr

/-- The state machine of one proxy event with its subscription data. -/
structure SubscriptionStateMachine (LogIndex : Type) where
  currentState : SubscriptionStateMachineState
  providerServiceInstanceIsAvailable : Bool
  maxSampleCount : Option (BitVec 16)
  slotCollector : Option (SlotCollector LogIndex)
  transactionLogRegistrationGuard : Option LogIndex

namespace SubscriptionStateMachine

/-- A new state machine. -/
def new : SubscriptionStateMachine LogIndex where
  currentState := .notSubscribedState
  providerServiceInstanceIsAvailable := true
  maxSampleCount := none
  slotCollector := none
  transactionLogRegistrationGuard := none

section Events

variable (limits : EventSubscriptionControl)
  (machine : SubscriptionStateMachine LogIndex)

/-- `NotSubscribedState::SubscribeEvent`. -/
def subscribeNotSubscribed (transactionLogs : List LogIndex)
    (maxSampleCount : Nat) :
    ProxyProgram slots LogIndex
      (SubscriptionStateMachine LogIndex × Except ComErrc Unit) := do
  match ← TransactionLogSet.registerProxyElement transactionLogs with
  | .error _ => pure (machine, .error .maxSubscribersExceeded)
  | .ok log => do
      onControl (TransactionLogSet.getTransactionLog log)
      match ← onControl (NotSubscribedState.subscribeEvent log limits
          (BitVec.ofNat 16 maxSampleCount)) with
      | .error error => do
          TransactionLogSet.unregisterLocked log
          pure (machine, .error error)
      | .ok () =>
          pure
            ({ currentState :=
                 if machine.providerServiceInstanceIsAvailable then
                   .subscribedState
                 else
                   .subscriptionPendingState
               providerServiceInstanceIsAvailable := machine.providerServiceInstanceIsAvailable
               maxSampleCount := some (BitVec.ofNat 16 maxSampleCount)
               slotCollector := some
                 { lastTs := 0, maxSlots := maxSampleCount,
                   transactionLogIndex := log }
               transactionLogRegistrationGuard := some log },
              .ok ())

/-- A second subscription is refused, unless it asks for the same.  The pending
state compares 8 bits of the number only. -/
def subscribeAgain (requested : BitVec 16) : Except ComErrc Unit :=
  if machine.maxSampleCount = some requested then .ok ()
  else .error .maxSampleCountNotRealizable

def subscribeEvent (transactionLogs : List LogIndex) (maxSampleCount : Nat) :
    ProxyProgram slots LogIndex
      (SubscriptionStateMachine LogIndex × Except ComErrc Unit) :=
  match machine.currentState with
  | .notSubscribedState =>
      machine.subscribeNotSubscribed limits transactionLogs maxSampleCount
  | .subscribedState =>
      pure (machine, machine.subscribeAgain (BitVec.ofNat 16 maxSampleCount))
  | .subscriptionPendingState =>
      pure (machine, machine.subscribeAgain ((BitVec.ofNat 8 maxSampleCount).setWidth 16))

/-- `NotSubscribedState::OnEntry`, which gives subscription and log back. -/
def onEntryNotSubscribed : ProxyProgram slots LogIndex (SubscriptionStateMachine LogIndex) :=
  match machine.transactionLogRegistrationGuard, machine.maxSampleCount with
  | some log, some maxSampleCount => do
      onControl (TransactionLogSet.getTransactionLog log)
      onControl (NotSubscribedState.onEntry log limits maxSampleCount)
      TransactionLogSet.unregisterLocked log
      pure
        { machine with
          currentState := .notSubscribedState
          maxSampleCount := none
          slotCollector := none
          transactionLogRegistrationGuard := none }
  -- an empty optional is dereferenced
  | _, _ => terminate

def unsubscribeEvent : ProxyProgram slots LogIndex (SubscriptionStateMachine LogIndex) :=
  match machine.currentState with
  | .notSubscribedState => pure machine
  | .subscribedState => machine.onEntryNotSubscribed limits
  | .subscriptionPendingState => machine.onEntryNotSubscribed limits

def stopOfferEvent : ProxyProgram slots LogIndex (SubscriptionStateMachine LogIndex) :=
  match machine.currentState with
  | .notSubscribedState =>
      pure { machine with providerServiceInstanceIsAvailable := false }
  | .subscribedState =>
      pure
        { machine with
          providerServiceInstanceIsAvailable := false
          currentState := .subscriptionPendingState }
  | .subscriptionPendingState => terminate

def reOfferEvent : SubscriptionStateMachine LogIndex :=
  match machine.currentState with
  | .notSubscribedState =>
      { machine with providerServiceInstanceIsAvailable := true }
  | .subscribedState => machine
  | .subscriptionPendingState =>
      { machine with
        providerServiceInstanceIsAvailable := true
        currentState := .subscribedState }

end Events

end SubscriptionStateMachine

end MwCom.Lola
