/-
Module: MwCom.Messaging.ReceiveHandlers
Purpose: What the subscription state machines of a process do with receive
  handlers, while the node that provides the event changes.
Trusted boundary: whether a subscription is granted is an input here; the record
  of a proxy event (`HandlerParty`) is bookkeeping, apart from the states in it.
Main exports: EventReceiveHandlerManager, HandlerStates and its events,
  handlerSystem, handlerStart
-/
import MwCom.Interleaving.Contract
import MwCom.Lola.SubscriptionStateMachine
import MwCom.Messaging.NotifyEventHandler

namespace MwCom.Messaging

open Interleaving
open MwCom.Lola (SubscriptionStateMachineState)

variable {Proxy Handler NodeId : Type}

/-! ## Whole calls -/

/-- The messaging of the process, with the number of registrations it ever made for
events of the quality and the node that provides the event now. -/
structure MessagingMemory (Handler NodeId : Type) where
  messaging : NotifyMemory Handler NodeId
  registrations : Nat
  provider : NodeId
deriving DecidableEq

/-- A registration for another event of the quality takes the next number too. -/
def MessagingMemory.registeredElsewhere (memory : MessagingMemory Handler NodeId) :
    MessagingMemory Handler NodeId :=
  { memory with
    messaging :=
      { memory.messaging with
        control :=
          { memory.messaging.control with
            curRegistrationNo := memory.messaging.control.curRegistrationNo + 1 } }
    registrations := memory.registrations + 1 }

/-- The calls of the messaging, each from its start to its return, the end of
the process, and a change of the provider. -/
inductive MessagingOp (Handler NodeId : Type) where
  | registerEventNotification (callback : Handler) (targetNodeId : NodeId)
  | reregisterEventNotification (targetNodeId : NodeId)
  | unregisterEventNotification (registrationNo : BitVec 32)
      (targetNodeId : NodeId)
  | terminate
  | provide (nodeId : NodeId)
deriving DecidableEq

@[reducible] def MessagingOp.Ret : MessagingOp Handler NodeId → Type
  | .registerEventNotification _ _ => BitVec 32
  | _ => Unit

/-- The answer of a call and the memory after it. -/
def MessagingOp.outcomes [DecidableEq NodeId] (nodeIdentifier : NodeId) :
    (op : MessagingOp Handler NodeId) → MessagingMemory Handler NodeId →
      List (op.Ret × MessagingMemory Handler NodeId)
  | .registerEventNotification callback targetNodeId, memory =>
      ((NotifyProgram.registerEventNotification nodeIdentifier callback
          targetNodeId).runs NotifyOp.outcomes memory.messaging).map fun ended =>
        (ended.1, { memory with
            messaging := ended.2, registrations := memory.registrations + 1 })
  | .reregisterEventNotification targetNodeId, memory =>
      ((NotifyProgram.reregisterEventNotification nodeIdentifier
          targetNodeId).runs NotifyOp.outcomes memory.messaging).map fun ended =>
        ((), { memory with messaging := ended.2 })
  | .unregisterEventNotification registrationNo targetNodeId, memory =>
      ((NotifyProgram.unregisterEventNotification nodeIdentifier registrationNo
          targetNodeId).runs NotifyOp.outcomes memory.messaging).map fun ended =>
        ((), { memory with messaging := ended.2 })
  | .terminate, _ => []
  | .provide nodeId, memory => [((), { memory with provider := nodeId })]

/-- A program over the calls of the messaging. -/
abbrev MessagingProgram (Handler NodeId : Type) :=
  Program (MessagingOp Handler NodeId) MessagingOp.Ret

/-! ## One registration at a time -/

/-- Remembers the number of the registration it made. -/
structure EventReceiveHandlerManager (NodeId : Type) where
  registrationNumber : Option (BitVec 32)
  eventSourcePid : NodeId
deriving DecidableEq

namespace EventReceiveHandlerManager

variable (manager : EventReceiveHandlerManager NodeId)

def unregister : MessagingProgram Handler NodeId (EventReceiveHandlerManager NodeId) :=
  match manager.registrationNumber with
  | some registrationNumber => do
      .perform (MessagingOp.unregisterEventNotification registrationNumber manager.eventSourcePid)
      pure { manager with registrationNumber := none }
  | none => pure manager

def register (handler : Handler) :
    MessagingProgram Handler NodeId (EventReceiveHandlerManager NodeId) := do
  let manager ← manager.unregister
  let registrationNumber ← .perform
    (MessagingOp.registerEventNotification handler manager.eventSourcePid)
  pure { manager with registrationNumber := some registrationNumber }

def reregister (newEventReceiverHandler : Option Handler) :
    MessagingProgram Handler NodeId (EventReceiveHandlerManager NodeId) :=
  match newEventReceiverHandler with
  | some handler => manager.register handler
  | none =>
      match manager.registrationNumber with
      | some _ => do
          .perform (MessagingOp.reregisterEventNotification manager.eventSourcePid)
          pure manager
      | none => pure manager

def updatePid (newEventSourcePid : NodeId) : EventReceiveHandlerManager NodeId :=
  { manager with eventSourcePid := newEventSourcePid }

end EventReceiveHandlerManager

/-! ## The events of a state machine -/

/-- The members of a subscription state machine that decide about handlers. -/
structure HandlerStates (Handler NodeId : Type) where
  currentState : SubscriptionStateMachineState
  providerServiceInstanceIsAvailable : Bool
  eventReceiverHandler : Option Handler
  eventReceiveHandlerManager : EventReceiveHandlerManager NodeId
deriving DecidableEq

namespace HandlerStates

/-- A new state machine for an event of the node `eventSourcePid`. -/
def new (eventSourcePid : NodeId) : HandlerStates Handler NodeId where
  currentState := .notSubscribedState
  providerServiceInstanceIsAvailable := true
  eventReceiverHandler := none
  eventReceiveHandlerManager := { registrationNumber := none, eventSourcePid }

variable (states : HandlerStates Handler NodeId)

/-- `SubscribeEvent`, where `granted` says whether log and subscription control
accepted the subscription. -/
def subscribeEvent (granted : Bool) :
    MessagingProgram Handler NodeId (HandlerStates Handler NodeId) :=
  match states.currentState with
  | .notSubscribedState =>
      if granted then do
        let manager ←
          match states.eventReceiverHandler with
          | some handler => states.eventReceiveHandlerManager.register handler
          | none => pure states.eventReceiveHandlerManager
        pure
          { states with
            eventReceiverHandler := none
            eventReceiveHandlerManager := manager
            currentState :=
              if states.providerServiceInstanceIsAvailable then .subscribedState
              else .subscriptionPendingState }
      else
        pure states
  | .subscriptionPendingState => pure states
  | .subscribedState => pure states

/-- `NotSubscribedState::OnEntry`. -/
def onEntryNotSubscribed : MessagingProgram Handler NodeId (HandlerStates Handler NodeId) := do
  let manager ← states.eventReceiveHandlerManager.unregister
  pure
    { states with
      eventReceiveHandlerManager := manager
      currentState := .notSubscribedState }

def unsubscribeEvent : MessagingProgram Handler NodeId (HandlerStates Handler NodeId) :=
  match states.currentState with
  | .notSubscribedState => pure states
  | .subscriptionPendingState => states.onEntryNotSubscribed
  | .subscribedState => states.onEntryNotSubscribed

def stopOfferEvent : MessagingProgram Handler NodeId (HandlerStates Handler NodeId) :=
  match states.currentState with
  | .notSubscribedState =>
      pure { states with providerServiceInstanceIsAvailable := false }
  | .subscriptionPendingState => do
      .perform MessagingOp.terminate
      pure states
  | .subscribedState =>
      pure
        { states with
          providerServiceInstanceIsAvailable := false
          currentState := .subscriptionPendingState }

def reOfferEvent (newEventSourcePid : NodeId) :
    MessagingProgram Handler NodeId (HandlerStates Handler NodeId) :=
  let updated := states.eventReceiveHandlerManager.updatePid newEventSourcePid
  match states.currentState with
  | .notSubscribedState =>
      pure
        { states with
          eventReceiveHandlerManager := updated
          providerServiceInstanceIsAvailable := true }
  | .subscriptionPendingState => do
      let manager ← updated.reregister states.eventReceiverHandler
      pure
        { currentState := .subscribedState
          providerServiceInstanceIsAvailable := true
          eventReceiverHandler := none
          eventReceiveHandlerManager := manager }
  | .subscribedState => pure states

def setReceiveHandler (handler : Handler) :
    MessagingProgram Handler NodeId (HandlerStates Handler NodeId) :=
  match states.currentState with
  | .notSubscribedState =>
      pure { states with eventReceiverHandler := some handler }
  | .subscriptionPendingState =>
      pure { states with eventReceiverHandler := some handler }
  | .subscribedState => do
      let manager ← states.eventReceiveHandlerManager.register handler
      pure { states with eventReceiveHandlerManager := manager }

def unsetReceiveHandler : MessagingProgram Handler NodeId (HandlerStates Handler NodeId) :=
  match states.currentState with
  | .notSubscribedState => pure { states with eventReceiverHandler := none }
  | .subscriptionPendingState => pure { states with eventReceiverHandler := none }
  | .subscribedState => do
      let manager ← states.eventReceiveHandlerManager.unregister
      pure { states with eventReceiveHandlerManager := manager }

end HandlerStates

/-! ## The system -/

/-- Who acts: the processes that provide the event, and the proxy events. -/
inductive HandlerActor (Proxy : Type) where
  | provider
  | proxyEvent (proxy : Proxy)
deriving DecidableEq

/-- A receive handler of one of the proxy events. -/
structure ProxyHandler (Proxy Handler : Type) where
  proxy : Proxy
  handler : Handler
deriving DecidableEq

/-- The record of a proxy event: the states, the last availability it was told,
the handler of its last call of `SetReceiveHandler`, unless it was unset or the
subscription was ended since, and the node its handler is registered towards. -/
structure HandlerParty (Proxy Handler NodeId : Type) where
  states : HandlerStates (ProxyHandler Proxy Handler) NodeId
  notified : Option Bool
  lastSet : Option Handler
  towards : Option NodeId

/-- The calls of the actors. -/
inductive HandlerCall (Handler NodeId : Type) where
  | subscribeEvent (granted : Bool)
  | unsubscribeEvent
  | stopOfferEvent
  | reOfferEvent (newEventSourcePid : NodeId)
  | setReceiveHandler (handler : Handler)
  | unsetReceiveHandler
  | provide (nodeId : NodeId)
deriving DecidableEq

namespace HandlerParty

variable (party : HandlerParty Proxy Handler NodeId)

/-- The record when a call starts.  The end of a subscription makes the event as
good as new. -/
def calling : HandlerCall Handler NodeId → HandlerParty Proxy Handler NodeId
  | .unsubscribeEvent =>
      match party.states.currentState with
      | .notSubscribedState => party
      | _ => { party with lastSet := none }
  | .stopOfferEvent => { party with notified := some false }
  | .reOfferEvent _ => { party with notified := some true }
  | .setReceiveHandler handler => { party with lastSet := some handler }
  | .unsetReceiveHandler => { party with lastSet := none }
  | _ => party

/-- The record after an operation. -/
def observe : MessagingOp (ProxyHandler Proxy Handler) NodeId → HandlerParty Proxy Handler NodeId
  | .registerEventNotification _ targetNodeId =>
      { party with towards := some targetNodeId }
  | .reregisterEventNotification targetNodeId =>
      { party with towards := some targetNodeId }
  | .unregisterEventNotification _ _ => { party with towards := none }
  | _ => party

end HandlerParty

namespace HandlerCall

/-- Availability changes alternate, and only providers change the node. -/
def allowed (party : HandlerParty Proxy Handler NodeId) :
    HandlerActor Proxy → HandlerCall Handler NodeId → Bool
  | .provider, .provide _ => true
  | .provider, _ => false
  | .proxyEvent _, .provide _ => false
  | .proxyEvent _, .stopOfferEvent => party.notified != some false
  | .proxyEvent _, .reOfferEvent _ => party.notified != some true
  | .proxyEvent _, _ => true

/-- The program of a call of a proxy event. -/
def proxyCode (proxy : Proxy)
    (states : HandlerStates (ProxyHandler Proxy Handler) NodeId) :
    HandlerCall Handler NodeId → MessagingProgram (ProxyHandler Proxy Handler) NodeId
        (HandlerStates (ProxyHandler Proxy Handler) NodeId)
  | .subscribeEvent granted => states.subscribeEvent granted
  | .unsubscribeEvent => states.unsubscribeEvent
  | .stopOfferEvent => states.stopOfferEvent
  | .reOfferEvent newEventSourcePid => states.reOfferEvent newEventSourcePid
  | .setReceiveHandler handler => states.setReceiveHandler { proxy, handler }
  | .unsetReceiveHandler => states.unsetReceiveHandler
  | .provide _ => pure states

def code (states : HandlerStates (ProxyHandler Proxy Handler) NodeId) :
    HandlerActor Proxy → HandlerCall Handler NodeId →
      MessagingProgram (ProxyHandler Proxy Handler) NodeId
        (HandlerStates (ProxyHandler Proxy Handler) NodeId)
  | .proxyEvent proxy, call => call.proxyCode proxy states
  | .provider, .provide nodeId => do
      .perform (MessagingOp.provide nodeId)
      pure states
  | .provider, _ => pure states

end HandlerCall

/-- Proxy events of a process with the node `nodeIdentifier`, for one event. -/
def handlerSystem [DecidableEq NodeId] (nodeIdentifier : NodeId)
    (Proxy Handler : Type) :
    System (HandlerActor Proxy) (MessagingOp (ProxyHandler Proxy Handler) NodeId)
      MessagingOp.Ret (MessagingMemory (ProxyHandler Proxy Handler) NodeId)
      (HandlerParty Proxy Handler NodeId) (HandlerCall Handler NodeId)
      (HandlerStates (ProxyHandler Proxy Handler) NodeId) where
  outcomes := MessagingOp.outcomes nodeIdentifier
  mayCall actor party call := call.allowed party actor = true
  code actor party call := call.code party.states actor
  onCall _ _ party call := party.calling call
  observe _ _ party op _ := party.observe op
  onReturn _ _ party _ states := { party with states }
  onCrash _ _ _ := none
  environment before after := after = before.registeredElsewhere

/-- A state of `handlerSystem`. -/
abbrev HandlerConfig (Proxy Handler NodeId : Type) :=
  Config (HandlerActor Proxy) (MessagingOp (ProxyHandler Proxy Handler) NodeId)
    MessagingOp.Ret (MessagingMemory (ProxyHandler Proxy Handler) NodeId)
    (HandlerParty Proxy Handler NodeId) (HandlerCall Handler NodeId)
    (HandlerStates (ProxyHandler Proxy Handler) NodeId)

/-- An event of `handlerSystem`. -/
abbrev HandlerEvent (Proxy Handler NodeId : Type) :=
  Event (HandlerActor Proxy) (MessagingOp (ProxyHandler Proxy Handler) NodeId)
    MessagingOp.Ret (HandlerCall Handler NodeId)
    (HandlerStates (ProxyHandler Proxy Handler) NodeId)

/-- No handler was ever set, and the event is provided by `provider`. -/
def handlerStart (provider : NodeId) : HandlerConfig Proxy Handler NodeId where
  memory :=
    { messaging :=
        { control :=
            { eventUpdateHandlers := none
              eventUpdateRemoteRegistrations := none
              curRegistrationNo := 0 }
          inFlight := []
          interestedNodes := none }
      registrations := 0
      provider }
  object := fun _ =>
    { states := .new provider, notified := none, lastSet := none, towards := none }
  activity := fun _ => .idle

instance (nodeIdentifier : NodeId) [DecidableEq NodeId]
    (actor : HandlerActor Proxy) (party : HandlerParty Proxy Handler NodeId)
    (call : HandlerCall Handler NodeId) :
    Decidable ((handlerSystem nodeIdentifier Proxy Handler).mayCall actor party call) :=
  inferInstanceAs (Decidable (_ = true))

instance (nodeIdentifier : NodeId) [DecidableEq NodeId] [DecidableEq Proxy]
    [DecidableEq Handler]
    (before after : MessagingMemory (ProxyHandler Proxy Handler) NodeId) :
    Decidable ((handlerSystem nodeIdentifier Proxy Handler).environment before after) :=
  inferInstanceAs (Decidable (_ = _))

end MwCom.Messaging
