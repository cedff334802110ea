/-
Module: MwCom.Lola.SubscriptionStates
Purpose: What subscribing and unsubscribing do to the shared memory of an event:
  the transactions around the update of the subscription counters.
Trusted boundary: none
Main exports: NotSubscribedState.subscribeEvent, NotSubscribedState.onEntry
-/
import MwCom.Lola.EventSubscriptionControl
import MwCom.Lola.TransactionLog

namespace MwCom.Lola.NotSubscribedState

open Interleaving ControlProgram TransactionLog

variable {slots : Nat} {LogIndex : Type} (log : LogIndex)
  (subscriptionControl : EventSubscriptionControl) (maxSampleCount : BitVec 16)

/-- `subscribeEvent` from the point where a log is registered. -/
def subscribeEvent : ControlProgram slots LogIndex (Except ComErrc Unit) := do
  subscribeTransactionBegin log maxSampleCount
  let subscriptionResult ← subscriptionControl.subscribe maxSampleCount
  if subscriptionResult == .success then do
    subscribeTransactionCommit log
    pure (.ok ())
  else do
    -- `AMP_ASSERT_MESSAGE`: registering a log fails before this can happen
    ampPrecondition (subscriptionResult != .maxSubscribersOverflow)
    subscribeTransactionAbort log
    pure (.error .maxSampleCountNotRealizable)

/-- The subscription is given back when the state is entered again. -/
def onEntry : ControlProgram slots LogIndex Unit := do
  unsubscribeTransactionBegin log
  subscriptionControl.unsubscribe maxSampleCount
  unsubscribeTransactionCommit log

end MwCom.Lola.NotSubscribedState
