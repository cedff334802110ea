/-
Module: MwCom.Proxy.ProxyEvent
Purpose: A proxy event as its user sees it: subscribing, getting new samples,
  destroying them on any thread, and unsubscribing.
Trusted boundary: the record of a thread (`ProxyParty`) is bookkeeping of this
  module, apart from the state machine in it; the other processes are an
  environment that respects the logs this process registered.
Main exports: ProxyEventBase.subscribe, ProxyEventBase.unsubscribe,
  ProxyEvent.getNewSamples, SamplePtr.destroy, ProxyParty, proxySystem
-/
import Mathlib.Data.Fintype.Pi
import MwCom.Interleaving.Contract
import MwCom.Lola.SubscriptionStateMachine

namespace MwCom

open Interleaving Lola ProxyProgram

variable {slots : Nat} {LogIndex : Type}

/-! ## The binding -/

namespace Lola.ProxyEvent

variable (machine : SubscriptionStateMachine LogIndex)

/-- Every collected slot becomes a sample of the user, with one of the guards
of the factory.  Returned are the guards that are left. -/
def handOverSamples (transactionLogIndex : LogIndex) :
    List (Fin slots) → (numAvailableGuards : Nat) → ProxyProgram slots LogIndex Nat
  | [], numAvailableGuards => pure numAvailableGuards
  | _ :: _, 0 => terminate
  | slot :: rest, numAvailableGuards + 1 => do
      .perform (ProxyOp.handOver { slotIndex := slot, transactionLogIdx := transactionLogIndex })
      handOverSamples transactionLogIndex rest numAvailableGuards

/-- `GetNewSamples` of the binding, with the guards of its factory that are
left at its end. -/
def getNewSamples (numAvailableGuards : Nat) : ProxyProgram slots LogIndex
      (SubscriptionStateMachine LogIndex × Except ComErrc Nat × Nat) :=
  if machine.currentState = .subscribedState then
    match machine.slotCollector, machine.transactionLogRegistrationGuard with
    | some collector, some transactionLogIndex => do
        let (slotIndices, lastTs) ← onControl
          (collector.getNewSamplesSlotIndices numAvailableGuards)
        let left ← handOverSamples transactionLogIndex slotIndices
          numAvailableGuards
        pure
          ({ machine with slotCollector := some { collector with lastTs } },
            .ok slotIndices.length, left)
    -- `AMP_PRECONDITION_PRD`: the collector exists while subscribed
    | _, _ => terminate
  else
    pure (machine, .error .notSubscribed, numAvailableGuards)

end Lola.ProxyEvent

namespace Lola.ProxyEventCommon

variable (limits : EventSubscriptionControl)
  (machine : SubscriptionStateMachine LogIndex)

def subscribe (transactionLogs : List LogIndex) (maxSampleCount : Nat) : ProxyProgram slots LogIndex
      (SubscriptionStateMachine LogIndex × Except ComErrc Unit) := do
  ampAssertPrd (decide (maxSampleCount ≤ 255))
  machine.subscribeEvent limits transactionLogs maxSampleCount

end Lola.ProxyEventCommon

/-! ## The proxy event -/

namespace ProxyEventBase

variable (limits : EventSubscriptionControl)
  (machine : SubscriptionStateMachine LogIndex)

def subscribe (transactionLogs : List LogIndex) (maxSampleCount : Nat) : ProxyProgram slots LogIndex
      (SubscriptionStateMachine LogIndex × Except ComErrc Unit) :=
  match machine.currentState with
  | .notSubscribedState => do
      SampleReferenceTracker.reset maxSampleCount
      let (machine, subscribeResult) ← ProxyEventCommon.subscribe limits machine
        transactionLogs maxSampleCount
      match subscribeResult with
      | .ok () => pure (machine, .ok ())
      | .error _ => pure (machine, .error .bindingFailure)
  | _ =>
      match machine.maxSampleCount with
      | some currentMaxSampleCount =>
          if maxSampleCount ≠ currentMaxSampleCount.toNat then
            pure (machine, .error .maxSampleCountNotRealizable)
          else
            pure (machine, .ok ())
      | none => terminate

/-- The tracker is asked after the binding has unsubscribed. -/
def unsubscribe : ProxyProgram slots LogIndex (SubscriptionStateMachine LogIndex) :=
  match machine.currentState with
  | .notSubscribedState => pure machine
  | _ => do
      let machine ← machine.unsubscribeEvent limits
      if ← SampleReferenceTracker.isUsed then
        terminate
      else
        pure machine

end ProxyEventBase

namespace ProxyEvent

variable (machine : SubscriptionStateMachine LogIndex)

/-- The destructor of a factory gives back the guards nobody took. -/
def destroyGuardFactory (numAvailableGuards : Nat) : ProxyProgram slots LogIndex Unit :=
  if numAvailableGuards > 0 then
    SampleReferenceTracker.deallocate numAvailableGuards
  else
    pure ()

def getNewSamples (passes maxNumSamples : Nat) : ProxyProgram slots LogIndex
      (SubscriptionStateMachine LogIndex × Except ComErrc Nat) := do
  let numGuards ← SampleReferenceTracker.allocate passes maxNumSamples
  if numGuards = 0 then
    pure (machine, .error .maxSamplesReached)
  else do
    let (machine, result, left) ← Lola.ProxyEvent.getNewSamples machine numGuards
    destroyGuardFactory left
    match result with
    | .ok numSamples => pure (machine, .ok numSamples)
    | .error .notSubscribed => pure (machine, .error .notSubscribed)
    | .error _ => pure (machine, .error .bindingFailure)

end ProxyEvent

/-- The members of a `SamplePtr` are destroyed in the reverse order of their
declaration: first `reference_guard_`, then `binding_sample_ptr_` with its
`SlotDecrementer`. -/
def SamplePtr.destroy (sample : SamplePtr slots LogIndex) : ProxyProgram slots LogIndex Unit := do
  .perform (ProxyOp.giveUp sample)
  SampleReferenceTracker.deallocate 1
  onControl
    (EventDataControl.dereferenceEvent sample.slotIndex sample.transactionLogIdx)

/-! ## The system -/

/-- The threads of the process: one that calls the proxy event, whose calls are
serialised, and others that destroy samples only. -/
inductive ProxyThread (Worker : Type) where
  | user
  | worker (index : Worker)
deriving DecidableEq

/-- What a thread has done: the entries of the log it set the begin flag of
(`opening`), both flags of (`recorded`), and has still to clear the end flag of
(`ending`), the guards it holds, those of them that wait for a slot (`budget`),
and those it gave back before the slot (`released`).  The state machine, the
log that was found inactive, and whether nothing was collected since the last
unsubscription are about the user. -/
structure ProxyParty (slots : Nat) (LogIndex : Type) where
  machine : SubscriptionStateMachine LogIndex
  opening : Option (SamplePtr slots LogIndex)
  recorded : List (SamplePtr slots LogIndex)
  ending : Option (SamplePtr slots LogIndex)
  guards : Nat
  budget : Nat
  released : Nat
  locked : Bool
  found : Option LogIndex
  quiet : Bool

/-- The calls of the threads. -/
inductive ProxyCall (slots : Nat) (LogIndex : Type) where
  | subscribe (maxSampleCount : Nat)
  | unsubscribe
  | getNewSamples (passes maxNumSamples : Nat)
  | destroy (sample : SamplePtr slots LogIndex)
  | notifyServiceInstanceChangedAvailability (isAvailable : Bool)
deriving DecidableEq

/-- What they return, with the state machine after the call. -/
structure ProxyReply (LogIndex : Type) where
  machine : SubscriptionStateMachine LogIndex
  subscribed : Option (Except ComErrc Unit)
  numSamples : Option (Except ComErrc Nat)

namespace ProxyParty

/-- A thread that has done nothing. -/
def new : ProxyParty slots LogIndex where
  machine := .new
  opening := none
  recorded := []
  ending := none
  guards := 0
  budget := 0
  released := 0
  locked := false
  found := none
  quiet := true

variable [DecidableEq LogIndex] (party : ProxyParty slots LogIndex)

/-- One flag of a slot is written. -/
def observeFlag (sample : SamplePtr slots LogIndex) : LogFlag → Bool → ProxyParty slots LogIndex
  | .transactionBegin, true =>
      { party with opening := some sample, budget := party.budget - 1 }
  | .transactionEnd, true =>
      { party with opening := none, recorded := sample :: party.recorded }
  | .transactionBegin, false =>
      if party.opening = some sample then
        { party with opening := none, budget := party.budget + 1 }
      else
        { party with
          recorded := party.recorded.erase sample, ending := some sample }
  | .transactionEnd, false =>
      { party with ending := none, released := party.released - 1 }

/-- A call starts: after an unsubscription nothing is collected until the next
collection. -/
def calling : ProxyCall slots LogIndex → ProxyParty slots LogIndex
  | .unsubscribe => { party with quiet := true }
  | .getNewSamples _ _ =>
      if party.machine.currentState = .subscribedState then
        { party with quiet := false }
      else
        party
  | _ => party

/-- The record of a thread after one of its operations. -/
def observe : (op : ProxyOp slots LogIndex) → op.Ret → ProxyParty slots LogIndex
  | .control (.setFlag log (.slot slot) flag value), _ =>
      party.observeFlag { slotIndex := slot, transactionLogIdx := log } flag value
  | .control (.isActive log), false =>
      if party.locked then { party with found := some log } else party
  | .control (.markActive _ _), _ => { party with found := none }
  | .lock, _ => { party with locked := true }
  | .unlock, _ => { party with locked := false, found := none }
  | .compareExchangeAvailable expected desired, (true, _) =>
      { party with
        guards := party.guards + (expected - desired)
        budget := party.budget + (expected - desired) }
  | .fetchAddAvailable count, _ =>
      if count ≤ party.budget then
        { party with
          guards := party.guards - count, budget := party.budget - count }
      else
        { party with
          guards := party.guards - count, released := party.released + count }
  | .handOver sample, _ =>
      { party with
        recorded := party.recorded.erase sample, guards := party.guards - 1 }
  | .giveUp sample, _ =>
      { party with
        recorded := sample :: party.recorded, guards := party.guards + 1 }
  | _, _ => party

end ProxyParty

namespace ProxyCall

variable {Worker : Type}

/-- Only the user calls the proxy event. -/
def allowed : ProxyThread Worker → ProxyCall slots LogIndex → Bool
  | .user, _ => true
  | .worker _, .destroy _ => true
  | .worker _, _ => false

variable (limits : EventSubscriptionControl) (transactionLogs : List LogIndex)

def code (machine : SubscriptionStateMachine LogIndex) :
    ProxyCall slots LogIndex → ProxyProgram slots LogIndex (ProxyReply LogIndex)
  | .subscribe maxSampleCount => do
      let (machine, result) ← ProxyEventBase.subscribe limits machine
        transactionLogs maxSampleCount
      pure { machine, subscribed := some result, numSamples := none }
  | .unsubscribe => do
      let machine ← ProxyEventBase.unsubscribe limits machine
      pure { machine, subscribed := none, numSamples := none }
  | .getNewSamples passes maxNumSamples => do
      let (machine, result) ← ProxyEvent.getNewSamples machine passes maxNumSamples
      pure { machine, subscribed := none, numSamples := some result }
  | .destroy sample => do
      sample.destroy
      pure { machine, subscribed := none, numSamples := none }
  | .notifyServiceInstanceChangedAvailability true =>
      pure
        { machine := machine.reOfferEvent, subscribed := none, numSamples := none }
  | .notifyServiceInstanceChangedAvailability false => do
      let machine ← machine.stopOfferEvent
      pure { machine, subscribed := none, numSamples := none }

end ProxyCall

/-- No transaction is recorded in a log. -/
structure Lola.TransactionLog.Untouched (log : TransactionLog slots) : Prop where
  subscribe : log.subscribeTransactions = .empty
  slot : ∀ slot, log.referenceCountSlots slot = .empty

/-- What other processes may do: anything, except that they leave alone the
log registered here, register none while the mutex is held here, and leave no
transactions in a log that is not registered. -/
structure OtherProcesses (before after : ProxyMemory slots LogIndex) : Prop where
  process : after = { before with control := after.control }
  registered : ∀ log, before.registered = some log → (after.control.transactionLogs log).isActive =
        (before.control.transactionLogs log).isActive ∧
      after.control.log log = before.control.log log
  mutex : before.transactionLogMutex = true → ∀ log, (after.control.transactionLogs log).isActive =
      (before.control.transactionLogs log).isActive
  inactive : ∀ log, (after.control.transactionLogs log).isActive = false →
    (after.control.log log).Untouched

section Decidable

variable [DecidableEq LogIndex] [Fintype LogIndex]

instance : DecidableEq (TransactionLog slots) := fun one two =>
  decidable_of_iff
    (one.referenceCountSlots = two.referenceCountSlots ∧
      one.subscribeTransactions = two.subscribeTransactions ∧
        one.subscriptionMaxSampleCount = two.subscriptionMaxSampleCount) <| by
    cases one
    cases two
    simp

instance (log : TransactionLog slots) : Decidable log.Untouched := decidable_of_iff
    (log.subscribeTransactions = .empty ∧ ∀ slot, log.referenceCountSlots slot = .empty)
    ⟨fun ⟨subscribe, slot⟩ => ⟨subscribe, slot⟩,
      fun untouched => ⟨untouched.subscribe, untouched.slot⟩⟩

instance (before after : ProxyMemory slots LogIndex) : Decidable (OtherProcesses before after) :=
  decidable_of_iff
    ((after.transactionLogMutex = before.transactionLogMutex ∧
        after.registered = before.registered ∧ after.availableSamples = before.availableSamples ∧
            after.maxNumSamples = before.maxNumSamples ∧ after.samples = before.samples) ∧
      (∀ log, before.registered = some log → (after.control.transactionLogs log).isActive =
            (before.control.transactionLogs log).isActive ∧
          after.control.log log = before.control.log log) ∧
      (before.transactionLogMutex = true → ∀ log, (after.control.transactionLogs log).isActive =
          (before.control.transactionLogs log).isActive) ∧
      ∀ log, (after.control.transactionLogs log).isActive = false →
        (after.control.log log).Untouched) <| by
    constructor
    · rintro ⟨⟨sameMutex, sameRegistered, available, maxNum, samples⟩, registered, mutex, inactive⟩
      refine ⟨?_, registered, mutex, inactive⟩
      rw [← sameMutex, ← sameRegistered, ← available, ← maxNum, ← samples]
    · rintro ⟨process, registered, mutex, inactive⟩
      refine ⟨?_, registered, mutex, inactive⟩
      rw [process]
      exact ⟨rfl, rfl, rfl, rfl, rfl⟩

end Decidable

/-- The threads of a process with one proxy event, among other processes. -/
def proxySystem (slots : Nat) (Worker : Type) [DecidableEq LogIndex]
    [DecidableEq Worker] (ampChecked : Bool) (limits : EventSubscriptionControl)
    (transactionLogs : List LogIndex) :
    System (ProxyThread Worker) (ProxyOp slots LogIndex) ProxyOp.Ret
      (ProxyMemory slots LogIndex) (ProxyParty slots LogIndex)
      (ProxyCall slots LogIndex) (ProxyReply LogIndex) where
  outcomes := ProxyOp.outcomes ampChecked
  mayCall thread _ call := call.allowed thread = true
  code _ object call := call.code limits transactionLogs object.machine
  onCall _ _ object call := object.calling call
  observe _ _ object op answer := object.observe op answer
  onReturn _ _ object _ reply := { object with machine := reply.machine }
  onCrash _ _ _ := none
  environment := OtherProcesses

/-- A state of `proxySystem`. -/
abbrev ProxyConfig (slots : Nat) (LogIndex Worker : Type) :=
  Config (ProxyThread Worker) (ProxyOp slots LogIndex) ProxyOp.Ret
    (ProxyMemory slots LogIndex) (ProxyParty slots LogIndex)
    (ProxyCall slots LogIndex) (ProxyReply LogIndex)

/-- An event of `proxySystem`. -/
abbrev ProxySystemEvent (slots : Nat) (LogIndex Worker : Type) :=
  Event (ProxyThread Worker) (ProxyOp slots LogIndex) ProxyOp.Ret
    (ProxyCall slots LogIndex) (ProxyReply LogIndex)

end MwCom
