/-
Module: MwCom.Messaging.HandlerProtocol
Purpose: Every proxy event has at most one handler registered, and which one it
  is after each event of its state machine.
Trusted boundary: none
Main exports: NotifyMemory.registered, NotifyMemory.reregistered, HandlerParty.AtRest
-/
import MwCom.Messaging.ReceiveHandlers

namespace MwCom.Messaging

open Interleaving
open MwCom.Lola (SubscriptionStateMachineState)

variable {Proxy Handler NodeId : Type}

/-! ## What a whole call leaves -/

section Calls

variable [DecidableEq NodeId] (nodeIdentifier : NodeId)

namespace NotifyMemory

variable (memory : NotifyMemory Handler NodeId)

/-- A message is sent if there is something to tell. -/
def tellIf (told : Bool) (type : MessageType) (target : NodeId) : NotifyMemory Handler NodeId :=
  if told then memory.sendMessage { type, target } else memory

omit [DecidableEq NodeId] in
@[simp] theorem control_tellIf (told : Bool) (type : MessageType)
    (target : NodeId) : (memory.tellIf told type target).control = memory.control := by
  cases told <;> rfl

/-- The registrations towards the node of the provider. -/
abbrev remote : Option (NodeCounter NodeId) := memory.control.eventUpdateRemoteRegistrations

def registered (callback : Handler) (targetNodeId : NodeId) : NotifyMemory Handler NodeId :=
  let added := { memory with control := (memory.control.addHandler callback).2 }
  if targetNodeId = nodeIdentifier then
    added
  else
    (added.setRemote (some (registerRemote targetNodeId memory.remote).2)).tellIf
      ((registerRemote targetNodeId memory.remote).1 == 1) .registerEventNotifier
      targetNodeId

def reregistered (targetNodeId : NodeId) : NotifyMemory Handler NodeId :=
  if targetNodeId = nodeIdentifier then
    memory
  else
    (memory.setRemote (reregisterRemote targetNodeId memory.remote).2).tellIf
      (reregisterRemote targetNodeId memory.remote).1 .registerEventNotifier
      targetNodeId

/-- The handler with a number is removed. -/
def removed (registrationNo : BitVec 32) : NotifyMemory Handler NodeId :=
  { memory with
    control :=
      { memory.control with
        eventUpdateHandlers := some (memory.control.handlers.filter
          fun other => other.registerNo ≠ registrationNo) } }

end NotifyMemory

variable {nodeIdentifier} {memory after : NotifyMemory Handler NodeId}
  {callback : Handler} {registrationNo : BitVec 32} {targetNodeId : NodeId}

theorem sendIf_endsOnly (told : Bool) (type : MessageType) : Program.EndsOnly NotifyOp.outcomes
      (NotifyProgram.sendIf told type targetNodeId : NotifyProgram Handler NodeId Unit) memory ()
      (memory.tellIf told type targetNodeId) := by
  cases told with
  | true => exact .step rfl (.done ())
  | false => exact .done ()

theorem registerEventNotificationRemote_endsOnly : Program.EndsOnly NotifyOp.outcomes
      (NotifyProgram.registerEventNotificationRemote targetNodeId :
        NotifyProgram Handler NodeId Unit) memory ()
      ((memory.setRemote (some (registerRemote targetNodeId memory.remote).2)).tellIf
        ((registerRemote targetNodeId memory.remote).1 == 1) .registerEventNotifier targetNodeId) :=
  .step rfl (sendIf_endsOnly _ _)

theorem registerEventNotification_endsOnly : Program.EndsOnly NotifyOp.outcomes
      (NotifyProgram.registerEventNotification nodeIdentifier callback
        targetNodeId : NotifyProgram Handler NodeId (BitVec 32)) memory
      memory.control.curRegistrationNo
      (memory.registered nodeIdentifier callback targetNodeId) := by
  rw [NotifyMemory.registered]
  refine .step rfl ?_
  change Program.EndsOnly _ (if targetNodeId ≠ nodeIdentifier then
    NotifyProgram.registerEventNotificationRemote targetNodeId >>= fun _ => pure _
    else pure _) _ _ _
  by_cases here : targetNodeId = nodeIdentifier
  · simp only [here, ne_eq, not_true_eq_false, if_false, if_true]
    exact .done _
  · simp only [here, ne_eq, not_false_eq_true, if_false, if_true]
    exact registerEventNotificationRemote_endsOnly.bind (.done _)

theorem reregisterEventNotification_endsOnly
    (registered : memory.control.eventUpdateHandlers ≠ none) :
    Program.EndsOnly NotifyOp.outcomes
      (NotifyProgram.reregisterEventNotification nodeIdentifier
        targetNodeId : NotifyProgram Handler NodeId Unit) memory ()
      (memory.reregistered nodeIdentifier targetNodeId) := by
  have found : memory.control.eventUpdateHandlers.isSome = true :=
    Option.isSome_iff_ne_none.mpr registered
  rw [NotifyMemory.reregistered]
  refine .step rfl ?_
  by_cases here : targetNodeId = nodeIdentifier
  · simp only [here, found, ne_eq, not_true_eq_false, decide_false, Bool.and_false,
      Bool.false_eq_true, if_false, if_true]
    exact .done ()
  · simp only [here, found, ne_eq, not_false_eq_true, decide_true, Bool.and_true, if_false]
    exact .step rfl (sendIf_endsOnly _ _)

/-- A handler that is registered is removed, and the counter goes down if it is
one of that node. -/
theorem unregisterEventNotification_ends {entry : RegisteredNotificationHandler Handler}
    (sorted : Sorted memory.control.handlers) (member : entry ∈ memory.control.handlers)
    (ends : (NotifyProgram.unregisterEventNotification nodeIdentifier
      entry.registerNo targetNodeId :
        NotifyProgram Handler NodeId Unit).Ends NotifyOp.outcomes memory () after) :
    (targetNodeId = nodeIdentifier ∧ after = memory.removed entry.registerNo) ∨
      (targetNodeId ≠ nodeIdentifier ∧ ∃ told remote,
        unregisterRemote targetNodeId memory.remote = some (told, remote) ∧
          after = ((memory.removed entry.registerNo).setRemote remote).tellIf told
            .unregisterEventNotifier targetNodeId) := by
  obtain ⟨found, middle, outcome, continued⟩ := ends
  have searched := NotifyEventHandler.searchHandlerForNotification_eq sorted member
  have same : (found, middle) =
      ((memory.control.searchHandlerForNotification entry.registerNo).1, { memory with
          control :=
            (memory.control.searchHandlerForNotification entry.registerNo).2 }) :=
    List.mem_singleton.mp outcome
  rw [searched] at same
  obtain ⟨rfl, rfl⟩ := Prod.mk.inj same
  by_cases here : targetNodeId = nodeIdentifier
  · simp only [here, ne_eq, not_true_eq_false, decide_false, Bool.and_false,
      Bool.false_eq_true, if_false] at continued
    exact .inl ⟨here, continued.2⟩
  · simp only [here, ne_eq, not_false_eq_true, decide_true, Bool.and_true] at continued
    refine .inr ⟨here, ?_⟩
    obtain ⟨told, between, counted, sent⟩ := continued
    rw [NotifyOp.outcomes] at counted
    split at counted
    · rename_i isTold remote isRemote
      obtain ⟨rfl, rfl⟩ := Prod.mk.inj (List.mem_singleton.mp counted)
      have sends := (sendIf_endsOnly told .unregisterEventNotifier () after).mp sent
      exact ⟨told, remote, isRemote, sends.2⟩
    · cases counted

/-! ### The handlers afterwards -/

namespace NotifyMemory

@[simp] theorem handlers_registered :
    (memory.registered nodeIdentifier callback targetNodeId).control.handlers =
      memory.control.handlers ++
        [{ handler := callback, registerNo := memory.control.curRegistrationNo }] := by
  rw [registered]
  split
  · rfl
  · rw [control_tellIf]
    rfl

@[simp] theorem curRegistrationNo_registered :
    (memory.registered nodeIdentifier callback targetNodeId).control.curRegistrationNo =
      memory.control.curRegistrationNo + 1 := by
  rw [registered]
  split
  · rfl
  · rw [control_tellIf]
    rfl

theorem handlers_reregistered : (memory.reregistered nodeIdentifier targetNodeId).control.handlers =
        memory.control.handlers ∧
      (memory.reregistered nodeIdentifier targetNodeId).control.curRegistrationNo =
        memory.control.curRegistrationNo := by
  rw [reregistered]
  split
  · exact ⟨rfl, rfl⟩
  · rw [control_tellIf]
    exact ⟨rfl, rfl⟩

end NotifyMemory

end Calls

/-! ## The rules of a proxy event -/

/-- What an actor alone changes: its record, and the registered handlers of its
proxy event. -/
structure HandlerView (Proxy Handler NodeId : Type) where
  object : HandlerParty Proxy Handler NodeId
  live : List (RegisteredNotificationHandler (ProxyHandler Proxy Handler))

namespace HandlerView

variable (view : HandlerView Proxy Handler NodeId)

/-- The view after an operation. -/
def observe : (op : MessagingOp (ProxyHandler Proxy Handler) NodeId) → op.Ret →
    HandlerView Proxy Handler NodeId
  | .registerEventNotification callback targetNodeId, registrationNo =>
      { object :=
          view.object.observe (.registerEventNotification callback targetNodeId)
        live := [{ handler := callback, registerNo := registrationNo }] }
  | .unregisterEventNotification registrationNo targetNodeId, _ =>
      { object := view.object.observe
          (.unregisterEventNotification registrationNo targetNodeId)
        live := [] }
  | op, _ => { view with object := view.object.observe op }

end HandlerView

/-- A proxy event has one handler registered at a time, and unregisters no
other one; `lawful` says that it registers the one it was asked for. -/
def handlerRules (lawful : Bool) : HandlerActor Proxy →
    Rules (MessagingOp (ProxyHandler Proxy Handler) NodeId) MessagingOp.Ret
      (HandlerView Proxy Handler NodeId)
  | .provider =>
      { may := fun _ op =>
          match op with
          | .provide _ => True
          | _ => False
        expects := fun _ _ _ => True
        next := HandlerView.observe }
  | .proxyEvent proxy =>
      { may := fun view op =>
          match op with
          | .registerEventNotification callback _ =>
              callback.proxy = proxy ∧ view.live = [] ∧ view.object.towards = none ∧
                (lawful = true → view.object.lastSet = some callback.handler)
          | .reregisterEventNotification _ =>
              view.live ≠ [] ∧ view.object.towards ≠ none
          | .unregisterEventNotification registrationNo _ =>
              (∃ handler, view.live = [{ handler, registerNo := registrationNo }]) ∧
                view.object.towards ≠ none
          | .terminate => False
          | .provide _ => False
        expects := fun _ _ _ => True
        next := HandlerView.observe }

/-- The manager knows the handler that is registered, if there is one. -/
structure Linked (manager : EventReceiveHandlerManager NodeId)
    (towards : Option NodeId)
    (live : List (RegisteredNotificationHandler (ProxyHandler Proxy Handler))) :
    Prop where
  single : live.length ≤ 1
  known : manager.registrationNumber = live.head?.map (·.registerNo)
  towards : towards = none ↔ live = []

section Managers

variable {lawful : Bool} {proxy : Proxy}
  {manager : EventReceiveHandlerManager NodeId}
  {view : HandlerView Proxy Handler NodeId}

/-- Nothing is registered. -/
theorem Linked.none {eventSourcePid : NodeId} :
    Linked (⟨none, eventSourcePid⟩ : EventReceiveHandlerManager NodeId) none
      ([] : List (RegisteredNotificationHandler (ProxyHandler Proxy Handler))) :=
  ⟨Nat.zero_le _, rfl, iff_of_true rfl rfl⟩

theorem unregister_respects (linked : Linked manager view.object.towards view.live) :
    manager.unregister.Respects (handlerRules lawful (.proxyEvent proxy)) view
      fun result after =>
        result = { manager with registrationNumber := none } ∧
          after = ⟨{ view.object with towards := none }, []⟩ := by
  obtain ⟨⟨states, notified, lastSet, towards⟩, live⟩ := view
  obtain ⟨single, known, isTowards⟩ := linked
  cases live with
  | nil =>
      simp only [List.head?_nil, Option.map_none] at known
      simp only [iff_true] at isTowards
      subst isTowards
      rw [EventReceiveHandlerManager.unregister, known]
      refine ⟨?_, rfl⟩
      rw [← known]
  | cons entry rest =>
      have isLast : rest = [] := by
        apply List.eq_nil_of_length_eq_zero
        rw [List.length_cons] at single
        omega
      subst isLast
      simp only [List.head?_cons, Option.map_some] at known
      rw [EventReceiveHandlerManager.unregister, known]
      refine ⟨⟨⟨entry.handler, rfl⟩, ?_⟩, fun _ _ => ⟨rfl, rfl⟩⟩
      intro nowhere
      exact List.cons_ne_nil _ _ (isTowards.mp nowhere)

theorem register_respects {handler : ProxyHandler Proxy Handler} (own : handler.proxy = proxy)
    (wanted : lawful = true → view.object.lastSet = some handler.handler)
    (linked : Linked manager view.object.towards view.live) :
    (manager.register handler).Respects (handlerRules lawful (.proxyEvent proxy)) view
      fun result after => ∃ registrationNo,
        result = { manager with registrationNumber := some registrationNo } ∧ after =
            ⟨{ view.object with towards := some manager.eventSourcePid },
              [{ handler, registerNo := registrationNo }]⟩ := by
  apply (unregister_respects linked).bind
  rintro cleared between ⟨rfl, rfl⟩
  refine ⟨⟨own, rfl, rfl, wanted⟩, fun registrationNo _ => ?_⟩
  exact ⟨registrationNo, rfl, rfl⟩

theorem reregister_respects {newHandler : Option (ProxyHandler Proxy Handler)}
    (own : ∀ handler, newHandler = some handler → handler.proxy = proxy)
    (wanted : lawful = true → ∀ handler, newHandler = some handler →
      view.object.lastSet = some handler.handler)
    (linked : Linked manager view.object.towards view.live) :
    (manager.reregister newHandler).Respects (handlerRules lawful (.proxyEvent proxy)) view
      fun result after => ∃ towards, after.object = { view.object with towards } ∧
          Linked result towards after.live ∧
          after.live.map (·.handler.handler) =
            match newHandler with
            | some handler => [handler.handler]
            | none => view.live.map (·.handler.handler) := by
  cases newHandler with
  | some handler =>
      apply (register_respects (own handler rfl)
        (fun lawfully => wanted lawfully handler rfl) linked).mono
      rintro result after ⟨registrationNo, rfl, rfl⟩
      exact ⟨_, rfl, ⟨Nat.le_refl 1, rfl, by simp⟩, rfl⟩
  | none =>
      obtain ⟨single, known, isTowards⟩ := linked
      rw [EventReceiveHandlerManager.reregister]
      cases isLive : view.live with
      | nil =>
          rw [isLive] at known isTowards
          simp only [List.head?_nil, Option.map_none] at known
          rw [known]
          refine ⟨view.object.towards, rfl, ?_, ?_⟩
          · rw [isLive]
            exact ⟨Nat.zero_le _, known, isTowards⟩
          · rw [isLive]
      | cons entry rest =>
          rw [isLive] at known single
          simp only [List.head?_cons, Option.map_some] at known
          rw [known]
          refine ⟨?_, fun _ _ => ⟨some manager.eventSourcePid, rfl, ?_, ?_⟩⟩
          · have some : view.live ≠ [] := by
              rw [isLive]
              exact List.cons_ne_nil _ _
            refine ⟨some, ?_⟩
            intro nowhere
            exact some (isTowards.mp nowhere)
          · change Linked manager _ view.live
            rw [isLive]
            exact ⟨single, known, by simp⟩
          · change view.live.map _ = _
            rw [isLive]

end Managers

/-! ## Between two events -/

namespace HandlerParty

variable (party : HandlerParty Proxy Handler NodeId)
  (live : List (RegisteredNotificationHandler (ProxyHandler Proxy Handler)))

/-- The handler that is registered when a subscription is in effect next. -/
def nextHandlers : List Handler :=
  match party.states.eventReceiverHandler with
  | some pending => [pending.handler]
  | none => live.map (·.handler.handler)

/-- Which handler is registered: none without a subscription, and that of the
last `SetReceiveHandler` with one. -/
structure Lawful : Prop where
  notSubscribed : party.states.currentState = .notSubscribedState → live = []
  subscribed : party.states.currentState = .subscribedState →
    party.states.eventReceiverHandler = none
  next : party.nextHandlers live = party.lastSet.toList

/-- What holds between two events; `lawful` says whether the right handler is
asked for too. -/
structure AtRest (lawful : Bool) (proxy : Proxy) : Prop where
  linked : Linked party.states.eventReceiveHandlerManager party.towards live
  own : ∀ handler, party.states.eventReceiverHandler = some handler → handler.proxy = proxy
  available : party.states.providerServiceInstanceIsAvailable = false ↔ party.notified = some false
  pending : party.states.currentState = .subscriptionPendingState →
    party.states.providerServiceInstanceIsAvailable = false
  subscribed : party.states.currentState = .subscribedState →
    party.states.providerServiceInstanceIsAvailable = true
  law : lawful = true → party.Lawful live

/-- While a subscription is pending, no handler is unset that is registered, and
the subscription does not end before a new handler is registered. -/
def keepsHandler : HandlerCall Handler NodeId → Prop
  | .unsetReceiveHandler =>
      party.states.currentState = .subscriptionPendingState →
        party.states.eventReceiveHandlerManager.registrationNumber = none
  | .unsubscribeEvent =>
      party.states.currentState = .subscriptionPendingState →
        party.states.eventReceiverHandler = none
  | _ => True

variable {party live}

/-- After an unset nothing is registered and nothing waits. -/
theorem Lawful.silent (law : party.Lawful live) (unset : party.lastSet = none) :
    live = [] ∧ party.states.eventReceiverHandler = none := by
  have next := law.next
  rw [nextHandlers, unset] at next
  cases pending : party.states.eventReceiverHandler with
  | some handler =>
      rw [pending] at next
      cases next
  | none =>
      rw [pending] at next
      exact ⟨List.map_eq_nil_iff.mp next, rfl⟩

/-- A handler that waits is what is registered next. -/
theorem Lawful.lastSet_eq {handler : ProxyHandler Proxy Handler} (law : party.Lawful live)
    (pending : party.states.eventReceiverHandler = some handler) :
    party.lastSet = some handler.handler := by
  have next := law.next
  rw [nextHandlers, pending] at next
  cases isLast : party.lastSet with
  | none =>
      rw [isLast] at next
      cases next
  | some last =>
      rw [isLast] at next
      cases next
      rfl

/-- Without a handler that waits the registered one is the last. -/
theorem Lawful.map_live (law : party.Lawful live)
    (nothing : party.states.eventReceiverHandler = none) :
    live.map (·.handler.handler) = party.lastSet.toList := by
  have next := law.next
  rw [nextHandlers, nothing] at next
  exact next

end HandlerParty

section Events

variable {lawful : Bool} {proxy : Proxy}
  {party : HandlerParty Proxy Handler NodeId}
  {live : List (RegisteredNotificationHandler (ProxyHandler Proxy Handler))}

/-- What a program of the proxy event has to reach. -/
abbrev Settles (lawful : Bool) (proxy : Proxy)
    (result : HandlerStates (ProxyHandler Proxy Handler) NodeId)
    (after : HandlerView Proxy Handler NodeId) : Prop :=
  HandlerParty.AtRest { after.object with states := result } after.live lawful proxy

theorem subscribeEvent_respects (granted : Bool) (atRest : party.AtRest live lawful proxy) :
    (party.states.subscribeEvent granted).Respects
      (handlerRules lawful (.proxyEvent proxy)) ⟨party, live⟩
      (Settles lawful proxy) := by
  obtain ⟨⟨currentState, available, eventReceiverHandler, manager⟩, notified,
    lastSet, towards⟩ := party
  cases currentState with
  | subscribedState => exact atRest
  | subscriptionPendingState => exact atRest
  | notSubscribedState =>
      cases granted with
      | false => exact atRest
      | true =>
          obtain ⟨linked, own, isAvailable, _, _, law⟩ := atRest
          have isPending : (if available then SubscriptionStateMachineState.subscribedState
              else .subscriptionPendingState) = .subscriptionPendingState → available = false := by
            cases available with
            | true => intro impossible; cases impossible
            | false => exact fun _ => rfl
          have isSubscribed : (if available then
              SubscriptionStateMachineState.subscribedState
              else .subscriptionPendingState) = .subscribedState → available = true := by
            cases available with
            | true => exact fun _ => rfl
            | false => intro impossible; cases impossible
          have moved : (if available then SubscriptionStateMachineState.subscribedState
              else .subscriptionPendingState) ≠ .notSubscribedState := by
            cases available with
            | true | false => intro impossible; cases impossible
          cases eventReceiverHandler with
          | none =>
              refine ⟨linked, own, isAvailable, isPending, isSubscribed, fun lawfully => ?_⟩
              exact ⟨fun impossible => absurd impossible moved, fun _ => rfl, (law lawfully).next⟩
          | some handler =>
              have registers := @register_respects Proxy Handler NodeId lawful proxy
                manager ⟨_, live⟩ handler (own handler rfl)
                (fun lawfully => (law lawfully).lastSet_eq rfl) linked
              apply registers.bind
              rintro registered after ⟨registrationNo, rfl, rfl⟩
              refine ⟨⟨Nat.le_refl 1, rfl, by simp⟩, ?_, isAvailable, isPending,
                isSubscribed, fun lawfully => ?_⟩
              · intro other impossible
                cases impossible
              · have isLast := (law lawfully).lastSet_eq rfl
                subst isLast
                exact ⟨fun impossible => absurd impossible moved, fun _ => rfl, rfl⟩

theorem onEntryNotSubscribed_respects
    (linked : Linked party.states.eventReceiveHandlerManager party.towards live)
    (own : ∀ handler, party.states.eventReceiverHandler = some handler → handler.proxy = proxy)
    (available : party.states.providerServiceInstanceIsAvailable = false ↔
      party.notified = some false)
    (nothing : lawful = true → party.states.eventReceiverHandler = none) :
    party.states.onEntryNotSubscribed.Respects
      (handlerRules lawful (.proxyEvent proxy))
      ⟨{ party with lastSet := none }, live⟩ (Settles lawful proxy) := by
  obtain ⟨⟨currentState, isAvailable, eventReceiverHandler, manager⟩, notified,
    lastSet, towards⟩ := party
  have unregisters := @unregister_respects Proxy Handler NodeId lawful proxy manager
    ⟨⟨⟨currentState, isAvailable, eventReceiverHandler, manager⟩, notified, none,
      towards⟩, live⟩ linked
  apply unregisters.bind
  rintro cleared after ⟨rfl, rfl⟩
  refine ⟨.none, own, available, ?_, ?_, fun lawfully => ?_⟩
  · intro impossible
    cases impossible
  · intro impossible
    cases impossible
  · have isNone : eventReceiverHandler = none := nothing lawfully
    subst isNone
    exact ⟨fun _ => rfl, fun _ => rfl, rfl⟩

theorem unsubscribeEvent_respects (atRest : party.AtRest live lawful proxy) (keeps : lawful = true →
      party.keepsHandler (.unsubscribeEvent : HandlerCall Handler NodeId)) :
    party.states.unsubscribeEvent.Respects
      (handlerRules lawful (.proxyEvent proxy))
      ⟨party.calling .unsubscribeEvent, live⟩ (Settles lawful proxy) := by
  rw [HandlerStates.unsubscribeEvent, HandlerParty.calling]
  cases state : party.states.currentState with
  | notSubscribedState => exact atRest
  | subscriptionPendingState =>
      exact onEntryNotSubscribed_respects atRest.linked atRest.own atRest.available
        fun lawfully => keeps lawfully state
  | subscribedState =>
      exact onEntryNotSubscribed_respects atRest.linked atRest.own atRest.available
        fun lawfully => (atRest.law lawfully).subscribed state

theorem stopOfferEvent_respects (atRest : party.AtRest live lawful proxy)
    (alternates : party.notified ≠ some false) :
    party.states.stopOfferEvent.Respects (handlerRules lawful (.proxyEvent proxy))
      ⟨{ party with notified := some false }, live⟩ (Settles lawful proxy) := by
  obtain ⟨⟨currentState, available, eventReceiverHandler, manager⟩, notified,
    lastSet, towards⟩ := party
  obtain ⟨linked, own, isAvailable, isPending, _, law⟩ := atRest
  cases currentState with
  | notSubscribedState =>
      refine ⟨linked, own, iff_of_true rfl rfl, fun _ => rfl,
        (fun impossible => nomatch impossible), fun lawfully => ?_⟩
      exact ⟨(law lawfully).notSubscribed, (fun impossible => nomatch impossible),
        (law lawfully).next⟩
  | subscriptionPendingState =>
      exact absurd (isAvailable.mp (isPending rfl)) alternates
  | subscribedState =>
      refine ⟨linked, own, iff_of_true rfl rfl, fun _ => rfl,
        (fun impossible => nomatch impossible), fun lawfully => ?_⟩
      exact ⟨(fun impossible => nomatch impossible),
        (fun impossible => nomatch impossible), (law lawfully).next⟩

theorem reOfferEvent_respects (newEventSourcePid : NodeId)
    (atRest : party.AtRest live lawful proxy) :
    (party.states.reOfferEvent newEventSourcePid).Respects
      (handlerRules lawful (.proxyEvent proxy))
      ⟨{ party with notified := some true }, live⟩ (Settles lawful proxy) := by
  obtain ⟨⟨currentState, available, eventReceiverHandler, manager⟩, notified,
    lastSet, towards⟩ := party
  obtain ⟨linked, own, isAvailable, isPending, isSubscribed, law⟩ := atRest
  have isTold : (true = false) ↔ (some true = some false) := by simp
  cases currentState with
  | notSubscribedState =>
      refine ⟨⟨linked.single, linked.known, linked.towards⟩, own, isTold, ?_, ?_,
        fun lawfully => ?_⟩
      · intro impossible
        cases impossible
      · exact fun _ => rfl
      · exact ⟨(law lawfully).notSubscribed, (fun impossible => nomatch impossible),
          (law lawfully).next⟩
  | subscribedState =>
      have here : available = true := isSubscribed rfl
      subst here
      refine ⟨linked, own, isTold, ?_, isSubscribed, fun lawfully => ?_⟩
      · intro impossible
        cases impossible
      · exact ⟨(fun impossible => nomatch impossible), (law lawfully).subscribed,
          (law lawfully).next⟩
  | subscriptionPendingState =>
      have reregisters := @reregister_respects Proxy Handler NodeId lawful proxy
        (manager.updatePid newEventSourcePid)
        ⟨⟨⟨.subscriptionPendingState, available, eventReceiverHandler, manager⟩,
          some true, lastSet, towards⟩, live⟩ eventReceiverHandler own
        (fun lawfully handler => (law lawfully).lastSet_eq)
        ⟨linked.single, linked.known, linked.towards⟩
      apply reregisters.bind
      rintro registered ⟨object, liveAfter⟩ ⟨towardsAfter, rfl, isLinked, isLive⟩
      refine ⟨isLinked, ?_, isTold, ?_, fun _ => rfl, fun lawfully => ?_⟩
      · intro other impossible
        cases impossible
      · intro impossible
        cases impossible
      · have isNext : liveAfter.map (·.handler.handler) = lastSet.toList := by
          cases eventReceiverHandler with
          | some handler =>
              have isLast := (law lawfully).lastSet_eq rfl
              subst isLast
              exact isLive
          | none => exact isLive.trans (law lawfully).next
        exact ⟨(fun impossible => nomatch impossible), fun _ => rfl, isNext⟩

theorem setReceiveHandler_respects (handler : Handler) (atRest : party.AtRest live lawful proxy) :
    (party.states.setReceiveHandler { proxy, handler }).Respects
      (handlerRules lawful (.proxyEvent proxy))
      ⟨{ party with lastSet := some handler }, live⟩ (Settles lawful proxy) := by
  obtain ⟨⟨currentState, available, eventReceiverHandler, manager⟩, notified,
    lastSet, towards⟩ := party
  obtain ⟨linked, own, isAvailable, isPending, isSubscribed, law⟩ := atRest
  have isOwn : ∀ other, some (ProxyHandler.mk proxy handler) = some other →
      other.proxy = proxy := by
    intro other same
    cases same
    rfl
  cases currentState with
  | notSubscribedState =>
      refine ⟨linked, isOwn, isAvailable, isPending, isSubscribed, fun lawfully => ?_⟩
      exact ⟨(law lawfully).notSubscribed, (fun impossible => nomatch impossible), rfl⟩
  | subscriptionPendingState =>
      refine ⟨linked, isOwn, isAvailable, isPending, isSubscribed, fun lawfully => ?_⟩
      exact ⟨(fun impossible => nomatch impossible), (fun impossible => nomatch impossible), rfl⟩
  | subscribedState =>
      have registers := @register_respects Proxy Handler NodeId lawful proxy manager
        ⟨⟨⟨.subscribedState, available, eventReceiverHandler, manager⟩, notified,
          some handler, towards⟩, live⟩ ⟨proxy, handler⟩ rfl (fun _ => rfl) linked
      apply registers.bind
      rintro registered after ⟨registrationNo, rfl, rfl⟩
      refine ⟨⟨Nat.le_refl 1, rfl, by simp⟩, own, isAvailable, isPending,
        isSubscribed, fun lawfully => ?_⟩
      have nothing : eventReceiverHandler = none := (law lawfully).subscribed rfl
      subst nothing
      exact ⟨(fun impossible => nomatch impossible), fun _ => rfl, rfl⟩

theorem unsetReceiveHandler_respects (atRest : party.AtRest live lawful proxy)
    (keeps : lawful = true →
      party.keepsHandler (.unsetReceiveHandler : HandlerCall Handler NodeId)) :
    party.states.unsetReceiveHandler.Respects (handlerRules lawful (.proxyEvent proxy))
      ⟨{ party with lastSet := none }, live⟩ (Settles lawful proxy) := by
  obtain ⟨⟨currentState, available, eventReceiverHandler, manager⟩, notified,
    lastSet, towards⟩ := party
  obtain ⟨linked, own, isAvailable, isPending, isSubscribed, law⟩ := atRest
  have isOwn : ∀ other, (none : Option (ProxyHandler Proxy Handler)) = some other →
      other.proxy = proxy := by
    intro other impossible
    cases impossible
  cases currentState with
  | notSubscribedState =>
      refine ⟨linked, isOwn, isAvailable, isPending, isSubscribed, fun lawfully => ?_⟩
      have nothing : live = [] := (law lawfully).notSubscribed rfl
      subst nothing
      exact ⟨fun _ => rfl, (fun impossible => nomatch impossible), rfl⟩
  | subscriptionPendingState =>
      refine ⟨linked, isOwn, isAvailable, isPending, isSubscribed, fun lawfully => ?_⟩
      have unknown : manager.registrationNumber = none := keeps lawfully rfl
      have nothing : live = [] := by
        have known := linked.known
        dsimp only at known
        rw [unknown] at known
        cases live with
        | nil => rfl
        | cons entry rest => cases known
      subst nothing
      exact ⟨fun _ => rfl, (fun impossible => nomatch impossible), rfl⟩
  | subscribedState =>
      have unregisters := @unregister_respects Proxy Handler NodeId lawful proxy
        manager ⟨⟨⟨.subscribedState, available, eventReceiverHandler, manager⟩,
          notified, none, towards⟩, live⟩ linked
      apply unregisters.bind
      rintro cleared after ⟨rfl, rfl⟩
      refine ⟨.none, own, isAvailable, isPending, isSubscribed, fun lawfully => ?_⟩
      have nothing : eventReceiverHandler = none := (law lawfully).subscribed rfl
      subst nothing
      exact ⟨fun _ => rfl, fun _ => rfl, rfl⟩

/-- Every event of a state machine keeps the rules and settles. -/
theorem HandlerCall.proxyCode_respects (call : HandlerCall Handler NodeId)
    (atRest : party.AtRest live lawful proxy)
    (allowed : call.allowed party (.proxyEvent proxy) = true)
    (keeps : lawful = true → party.keepsHandler call) :
    (call.proxyCode proxy party.states).Respects
      (handlerRules lawful (.proxyEvent proxy)) ⟨party.calling call, live⟩
      (Settles lawful proxy) := by
  cases call with
  | subscribeEvent granted => exact subscribeEvent_respects granted atRest
  | unsubscribeEvent => exact unsubscribeEvent_respects atRest keeps
  | stopOfferEvent =>
      exact stopOfferEvent_respects atRest (bne_iff_ne.mp allowed)
  | reOfferEvent newEventSourcePid =>
      exact reOfferEvent_respects newEventSourcePid atRest
  | setReceiveHandler handler => exact setReceiveHandler_respects handler atRest
  | unsetReceiveHandler => exact unsetReceiveHandler_respects atRest keeps
  | provide nodeId => cases allowed

end Events

end MwCom.Messaging
