/-
Module: MwCom.Messaging.HandlerLaw
Purpose: Which receive handler of a proxy event is registered, in every run of
  the proxy events of a process and of the providers of the event.
Trusted boundary: none
Main exports: liveOf, HandlerInv, handlerContract, handler_perform, HandlerLaw,
  handlerLaw_of_reached
-/
import MwCom.Messaging.HandlerProtocol

namespace MwCom.Messaging

open Interleaving
open MwCom.Lola (SubscriptionStateMachineState)

variable {Proxy Handler NodeId : Type}

/-! ## The outcomes of a call -/

section Outcomes

variable [DecidableEq NodeId] {nodeIdentifier : NodeId}
  {memory after : MessagingMemory Handler NodeId} {targetNodeId : NodeId}

theorem register_outcome {callback : Handler} {registrationNo : BitVec 32}
    (outcome : (registrationNo, after) ∈ MessagingOp.outcomes nodeIdentifier
      (.registerEventNotification callback targetNodeId) memory) :
    registrationNo = memory.messaging.control.curRegistrationNo ∧ after =
        { memory with
          messaging := memory.messaging.registered nodeIdentifier callback targetNodeId
          registrations := memory.registrations + 1 } := by
  obtain ⟨⟨answer, messaging⟩, ran, same⟩ := List.mem_map.mp outcome
  obtain ⟨rfl, rfl⟩ := (registerEventNotification_endsOnly answer messaging).mp
    (Program.mem_runs.mp ran)
  obtain ⟨rfl, rfl⟩ := Prod.mk.inj same
  exact ⟨rfl, rfl⟩

theorem reregister_outcome {answer : Unit} (registered : memory.messaging.control.handlers ≠ [])
    (outcome : (answer, after) ∈ MessagingOp.outcomes nodeIdentifier
      (.reregisterEventNotification targetNodeId) memory) :
    after =
      { memory with
        messaging := memory.messaging.reregistered nodeIdentifier targetNodeId } := by
  have found : memory.messaging.control.eventUpdateHandlers ≠ none := by
    intro nothing
    apply registered
    rw [NotifyEventHandler.handlers, nothing]
    rfl
  obtain ⟨⟨answer, messaging⟩, ran, same⟩ := List.mem_map.mp outcome
  obtain ⟨rfl, rfl⟩ := (reregisterEventNotification_endsOnly found answer messaging).mp
      (Program.mem_runs.mp ran)
  exact (Prod.mk.inj same).2.symm

theorem unregister_outcome {entry : RegisteredNotificationHandler Handler}
    {answer : Unit} (sorted : Sorted memory.messaging.control.handlers)
    (member : entry ∈ memory.messaging.control.handlers)
    (outcome : (answer, after) ∈ MessagingOp.outcomes nodeIdentifier
      (.unregisterEventNotification entry.registerNo targetNodeId) memory) :
    ∃ messaging, after = { memory with messaging } ∧
      ((targetNodeId = nodeIdentifier ∧ messaging = memory.messaging.removed entry.registerNo) ∨
        (targetNodeId ≠ nodeIdentifier ∧ ∃ told remote,
          unregisterRemote targetNodeId memory.messaging.remote = some (told, remote) ∧ messaging =
              ((memory.messaging.removed entry.registerNo).setRemote remote).tellIf
                told .unregisterEventNotifier targetNodeId)) := by
  obtain ⟨⟨answer, messaging⟩, ran, same⟩ := List.mem_map.mp outcome
  refine ⟨messaging, (Prod.mk.inj same).2.symm, ?_⟩
  exact unregisterEventNotification_ends sorted member (Program.mem_runs.mp ran)

end Outcomes

/-! ## The handlers of one proxy event -/

section Live

variable [DecidableEq Proxy] {proxy other : Proxy}
  {handlers : List (RegisteredNotificationHandler (ProxyHandler Proxy Handler))}
  {entry : RegisteredNotificationHandler (ProxyHandler Proxy Handler)}

/-- The registered handlers of a proxy event. -/
def liveOf (proxy : Proxy)
    (handlers : List (RegisteredNotificationHandler (ProxyHandler Proxy Handler))) :
    List (RegisteredNotificationHandler (ProxyHandler Proxy Handler)) :=
  handlers.filter fun entry => entry.handler.proxy = proxy

theorem mem_liveOf :
    entry ∈ liveOf proxy handlers ↔ entry ∈ handlers ∧ entry.handler.proxy = proxy := by
  simp [liveOf]

theorem liveOf_append (own : entry.handler.proxy = proxy) :
    liveOf proxy (handlers ++ [entry]) = liveOf proxy handlers ++ [entry] := by
  simp [liveOf, own]

theorem liveOf_append_other (foreign : entry.handler.proxy ≠ proxy) :
    liveOf proxy (handlers ++ [entry]) = liveOf proxy handlers := by
  simp [liveOf, foreign]

/-- Without its only registration a proxy event has none. -/
theorem liveOf_removed (only : liveOf proxy handlers = [entry]) :
    liveOf proxy (handlers.filter fun other => other.registerNo ≠ entry.registerNo) = [] := by
  apply List.eq_nil_iff_forall_not_mem.mpr
  intro left member
  obtain ⟨kept, own⟩ := mem_liveOf.mp member
  obtain ⟨registered, distinct⟩ := List.mem_filter.mp kept
  have isEntry : left ∈ liveOf proxy handlers := mem_liveOf.mpr ⟨registered, own⟩
  rw [only] at isEntry
  obtain rfl := List.mem_singleton.mp isEntry
  exact of_decide_eq_true distinct rfl

/-- Two registrations have different numbers. -/
theorem Sorted.eq_of_registerNo {left right : RegisteredNotificationHandler Handler}
    {handlers : List (RegisteredNotificationHandler Handler)}
    (sorted : Sorted handlers) (isLeft : left ∈ handlers) (isRight : right ∈ handlers)
    (same : left.registerNo = right.registerNo) : left = right := by
  have numbers : (handlers.map (·.registerNo)).Nodup :=
    List.pairwise_map.mpr (sorted.imp fun less => BitVec.ne_of_lt less)
  exact List.inj_on_of_nodup_map numbers isLeft isRight same

/-- The registrations of the others stay. -/
theorem liveOf_removed_other (sorted : Sorted handlers) (member : entry ∈ handlers)
    (foreign : entry.handler.proxy ≠ other) :
    liveOf other (handlers.filter fun left => left.registerNo ≠ entry.registerNo) =
      liveOf other handlers := by
  rw [liveOf, List.filter_filter]
  apply List.filter_congr
  intro left isLeft
  by_cases own : left.handler.proxy = other
  · have distinct : left.registerNo ≠ entry.registerNo := by
      intro same
      have isEntry := sorted.eq_of_registerNo isLeft member same
      subst isEntry
      exact foreign own
    simp [own, distinct]
  · simp [own]

end Live

/-! ## The contract -/

/-- Registrations are numbered in their order, and none has the next number. -/
structure Numbered (memory : MessagingMemory Handler NodeId) : Prop where
  sorted : Sorted memory.messaging.control.handlers
  fresh : ∀ entry ∈ memory.messaging.control.handlers, entry.registerNo.toNat < memory.registrations
  bounded : memory.registrations ≤ 2 ^ 32
  number : memory.messaging.control.curRegistrationNo = BitVec.ofNat 32 memory.registrations

/-- Registering and unregistering keeps the numbers in order. -/
theorem Numbered.registered {memory : MessagingMemory Handler NodeId}
    {messaging : NotifyMemory Handler NodeId} {callback : Handler}
    (numbered : Numbered memory) (fits : memory.registrations < 2 ^ 32)
    (handlers : messaging.control.handlers = memory.messaging.control.handlers ++
      [{ handler := callback
         registerNo := memory.messaging.control.curRegistrationNo }])
    (number : messaging.control.curRegistrationNo =
      memory.messaging.control.curRegistrationNo + 1) :
    Numbered
      { memory with messaging, registrations := memory.registrations + 1 } := by
  have isNumber : memory.messaging.control.curRegistrationNo.toNat = memory.registrations := by
    rw [numbered.number, BitVec.toNat_ofNat, Nat.mod_eq_of_lt fits]
  refine ⟨?_, ?_, fits, ?_⟩
  · dsimp only
    rw [handlers]
    apply List.pairwise_append.mpr
    refine ⟨numbered.sorted, List.pairwise_singleton _ _, ?_⟩
    intro entry member new isNew
    obtain rfl := List.mem_singleton.mp isNew
    rw [BitVec.lt_def, isNumber]
    exact numbered.fresh entry member
  · dsimp only
    rw [handlers]
    intro entry member
    rcases List.mem_append.mp member with old | new
    · exact Nat.lt_succ_of_lt (numbered.fresh entry old)
    · obtain rfl := List.mem_singleton.mp new
      dsimp only
      rw [isNumber]
      exact Nat.lt_succ_self _
  · dsimp only
    rw [number, numbered.number, BitVec.ofNat_add]
    rfl

/-- The next number is another one, and no registration has it. -/
theorem Numbered.registeredElsewhere {memory : MessagingMemory Handler NodeId}
    (numbered : Numbered memory) (fits : memory.registrations < 2 ^ 32) :
    Numbered memory.registeredElsewhere where
  sorted := numbered.sorted
  fresh := fun entry member => Nat.lt_succ_of_lt (numbered.fresh entry member)
  bounded := fits
  number := by
    change memory.messaging.control.curRegistrationNo + 1 =
      BitVec.ofNat 32 (memory.registrations + 1)
    rw [numbered.number, BitVec.ofNat_add]
    rfl

theorem Numbered.kept {memory : MessagingMemory Handler NodeId}
    {messaging : NotifyMemory Handler NodeId} (numbered : Numbered memory)
    (fewer : messaging.control.handlers.Sublist memory.messaging.control.handlers)
    (number : messaging.control.curRegistrationNo = memory.messaging.control.curRegistrationNo) :
    Numbered { memory with messaging } where
  sorted := numbered.sorted.sublist fewer
  fresh := fun entry member => numbered.fresh entry (fewer.subset member)
  bounded := numbered.bounded
  number := number.trans numbered.number

section Contract

variable {nodeIdentifier : NodeId} {lawful : Bool}

/-- The call that takes the handler away is running. -/
def silencing : Activity (MessagingOp (ProxyHandler Proxy Handler) NodeId)
    MessagingOp.Ret (HandlerCall Handler NodeId)
    (HandlerStates (ProxyHandler Proxy Handler) NodeId) → Bool
  | .running .unsetReceiveHandler _ => true
  | .running .unsubscribeEvent _ => true
  | _ => false

/-- What holds of a proxy event with the registered handlers `live`. -/
structure HandlerKept (lawful : Bool) (proxy : Proxy)
    (live : List (RegisteredNotificationHandler (ProxyHandler Proxy Handler)))
    (party : HandlerParty Proxy Handler NodeId)
    (activity : Activity (MessagingOp (ProxyHandler Proxy Handler) NodeId)
      MessagingOp.Ret (HandlerCall Handler NodeId)
      (HandlerStates (ProxyHandler Proxy Handler) NodeId)) : Prop where
  single : live.length ≤ 1
  atRest : activity = .idle → party.AtRest live lawful proxy
  silent : lawful = true → party.lastSet = none → silencing activity = false → live = []

variable {party : HandlerParty Proxy Handler NodeId} {call : HandlerCall Handler NodeId}

variable {proxy : Proxy}

/-- A call leaves the handlers as they are, unless it takes them away. -/
theorem HandlerKept.calling
    {live : List (RegisteredNotificationHandler (ProxyHandler Proxy Handler))}
    {program : MessagingProgram (ProxyHandler Proxy Handler) NodeId
      (HandlerStates (ProxyHandler Proxy Handler) NodeId)}
    (kept : HandlerKept lawful proxy live party .idle) :
    HandlerKept lawful proxy live (party.calling call) (.running call program) where
  single := kept.single
  atRest := by
    intro impossible
    cases impossible
  silent := by
    intro lawfully unset quiet
    cases call with
    | unsubscribeEvent => cases quiet
    | unsetReceiveHandler => cases quiet
    | setReceiveHandler handler => cases unset
    | subscribeEvent granted | stopOfferEvent | reOfferEvent newEventSourcePid
    | provide nodeId => exact kept.silent lawfully unset rfl

variable {op : MessagingOp (ProxyHandler Proxy Handler) NodeId}

/-- What a call of the messaging leaves for the proxy event. -/
theorem HandlerKept.observe
    {live : List (RegisteredNotificationHandler (ProxyHandler Proxy Handler))} {answer : op.Ret}
    {rest program : MessagingProgram (ProxyHandler Proxy Handler) NodeId
      (HandlerStates (ProxyHandler Proxy Handler) NodeId)}
    (kept : HandlerKept lawful proxy live party (.running call program))
    (may : (handlerRules lawful (.proxyEvent proxy)).may ⟨party, live⟩ op) :
    HandlerKept lawful proxy (HandlerView.observe ⟨party, live⟩ op answer).live
      (party.observe op) (.running call rest) where
  single := by
    cases op with
    | registerEventNotification callback target => exact Nat.le_refl 1
    | unregisterEventNotification registrationNo target => exact Nat.zero_le 1
    | reregisterEventNotification target | terminate | provide nodeId => exact kept.single
  atRest := by
    intro impossible
    cases impossible
  silent := by
    intro lawfully unset quiet
    have stays : live = [] ∨ party.lastSet ≠ none := by
      by_cases isUnset : party.lastSet = none
      · left
        apply kept.silent lawfully isUnset
        cases call with
        | unsubscribeEvent | unsetReceiveHandler => cases quiet
        | _ => rfl
      · exact .inr isUnset
    cases op with
    | registerEventNotification callback target =>
        obtain ⟨_, _, _, wanted⟩ := may
        have isSet : party.lastSet = some callback.handler := wanted lawfully
        exact nomatch isSet.symm.trans unset
    | unregisterEventNotification registrationNo target => rfl
    | reregisterEventNotification target | terminate | provide nodeId =>
        exact stays.resolve_right (not_not.mpr unset)

variable [DecidableEq Proxy]

/-- The invariant of all proxy events. -/
structure HandlerInv (lawful : Bool) (config : HandlerConfig Proxy Handler NodeId) : Prop where
  numbered : Numbered config.memory
  kept : ∀ proxy, HandlerKept lawful proxy
    (liveOf proxy config.memory.messaging.control.handlers)
    (config.object (.proxyEvent proxy)) (config.activity (.proxyEvent proxy))

variable {config : HandlerConfig Proxy Handler NodeId}
  {memory : MessagingMemory (ProxyHandler Proxy Handler) NodeId}

/-- One proxy event moves, and the registrations of the others stay. -/
theorem HandlerInv.moved {activity : Activity (MessagingOp (ProxyHandler Proxy Handler) NodeId)
      MessagingOp.Ret (HandlerCall Handler NodeId)
      (HandlerStates (ProxyHandler Proxy Handler) NodeId)}
    (inv : HandlerInv lawful config) (numbered : Numbered memory) (others : ∀ other, other ≠ proxy →
      liveOf other memory.messaging.control.handlers =
        liveOf other config.memory.messaging.control.handlers)
    (kept : HandlerKept lawful proxy
      (liveOf proxy memory.messaging.control.handlers) party activity) :
    HandlerInv lawful (config.update memory (.proxyEvent proxy) party activity) where
  numbered := numbered
  kept := by
    intro other
    by_cases same : other = proxy
    · subst same
      rw [Config.update_object_self, Config.update_activity_self]
      exact kept
    · have distinct : HandlerActor.proxyEvent other ≠ .proxyEvent proxy := by
        intro equal
        cases equal
        exact same rfl
      rw [Config.update_object_of_ne distinct, Config.update_activity_of_ne distinct,
        Config.update_memory, others other same]
      exact inv.kept other

/-- A provider moves. -/
theorem HandlerInv.provided {provider : NodeId}
    {activity : Activity (MessagingOp (ProxyHandler Proxy Handler) NodeId)
      MessagingOp.Ret (HandlerCall Handler NodeId)
      (HandlerStates (ProxyHandler Proxy Handler) NodeId)}
    (inv : HandlerInv lawful config) :
    HandlerInv lawful (config.update { config.memory with provider } .provider party activity) where
  numbered := ⟨inv.numbered.sorted, inv.numbered.fresh, inv.numbered.bounded, inv.numbered.number⟩
  kept := by
    intro other
    have distinct : HandlerActor.proxyEvent other ≠ .provider := by
      intro impossible
      cases impossible
    rw [Config.update_object_of_ne distinct, Config.update_activity_of_ne distinct]
    exact inv.kept other

/-- What an actor sees. -/
def handlerView (config : HandlerConfig Proxy Handler NodeId) :
    HandlerActor Proxy → HandlerView Proxy Handler NodeId
  | .provider => ⟨config.object .provider, []⟩
  | .proxyEvent proxy =>
      ⟨config.object (.proxyEvent proxy), liveOf proxy config.memory.messaging.control.handlers⟩

variable [DecidableEq NodeId]

/-- The contract of the proxy events. -/
def handlerContract (nodeIdentifier : NodeId) (lawful : Bool) :
    Contract (handlerSystem nodeIdentifier Proxy Handler)
      (HandlerView Proxy Handler NodeId) where
  Inv := HandlerInv lawful
  view := handlerView
  rules := handlerRules lawful
  post
    | .provider, _, _, _ => True
    | .proxyEvent proxy, _, states, view => Settles lawful proxy states view

variable {actor : HandlerActor Proxy}

omit [DecidableEq NodeId] in
/-- The others do not see a move of one actor. -/
theorem handler_unseen {activity : Activity (MessagingOp (ProxyHandler Proxy Handler) NodeId)
      MessagingOp.Ret (HandlerCall Handler NodeId)
      (HandlerStates (ProxyHandler Proxy Handler) NodeId)}
    (others : ∀ other, .proxyEvent other ≠ actor → liveOf other memory.messaging.control.handlers =
        liveOf other config.memory.messaging.control.handlers) :
    ∀ other, other ≠ actor → handlerView (config.update memory actor party activity) other =
        handlerView config other := by
  intro other distinct
  cases other with
  | provider => rw [handlerView, handlerView, Config.update_object_of_ne distinct]
  | proxyEvent proxy =>
      rw [handlerView, handlerView, Config.update_object_of_ne distinct,
        Config.update_memory, others proxy distinct]

/-- What one call of the messaging does to the handlers: the numbers stay in
order, the registrations of the others stay, and its own are as the rules say. -/
theorem handler_outcome {view : HandlerView Proxy Handler NodeId}
    {after : MessagingMemory (ProxyHandler Proxy Handler) NodeId} {answer : op.Ret}
    (numbered : Numbered memory)
    (fits : ∀ callback target, op = .registerEventNotification callback target →
      memory.registrations < 2 ^ 32)
    (isLive : view.live = liveOf proxy memory.messaging.control.handlers)
    (may : (handlerRules lawful (.proxyEvent proxy)).may view op)
    (outcome : (answer, after) ∈ op.outcomes nodeIdentifier memory) :
    Numbered after ∧ (∀ other, other ≠ proxy → liveOf other after.messaging.control.handlers =
          liveOf other memory.messaging.control.handlers) ∧
      liveOf proxy after.messaging.control.handlers = (view.observe op answer).live := by
  cases op with
  | registerEventNotification callback target =>
      obtain ⟨own, nothing, _⟩ := may
      obtain ⟨rfl, rfl⟩ := register_outcome outcome
      refine ⟨?_, ?_, ?_⟩
      · exact numbered.registered (fits _ _ rfl) NotifyMemory.handlers_registered
          NotifyMemory.curRegistrationNo_registered
      · intro other distinct
        dsimp only
        rw [NotifyMemory.handlers_registered]
        apply liveOf_append_other
        rw [own]
        exact Ne.symm distinct
      · dsimp only
        rw [NotifyMemory.handlers_registered, liveOf_append own, ← isLive, nothing]
        rfl
  | reregisterEventNotification target =>
      have registered : memory.messaging.control.handlers ≠ [] := by
        intro nothing
        apply may.1
        rw [isLive, nothing]
        rfl
      have same := reregister_outcome registered outcome
      subst same
      obtain ⟨handlers, number⟩ := @NotifyMemory.handlers_reregistered _ _ _
        nodeIdentifier memory.messaging target
      refine ⟨?_, ?_, ?_⟩
      · apply numbered.kept _ number
        rw [handlers]
      · intro other _
        dsimp only
        rw [handlers]
      · dsimp only
        rw [handlers, ← isLive]
        rfl
  | unregisterEventNotification registrationNo target =>
      obtain ⟨⟨handler, only⟩, _⟩ := may
      rw [isLive] at only
      have isIn : ⟨handler, registrationNo⟩ ∈ liveOf proxy
          memory.messaging.control.handlers := by
        rw [only]
        exact List.mem_singleton_self _
      obtain ⟨member, own⟩ := mem_liveOf.mp isIn
      have ended := @unregister_outcome _ _ _ nodeIdentifier memory after target
        ⟨handler, registrationNo⟩ answer numbered.sorted member outcome
      obtain ⟨messaging, rfl, ends⟩ := ended
      have left : messaging.control.handlers = (memory.messaging.control.handlers.filter
              fun other => other.registerNo ≠ registrationNo) ∧
          messaging.control.curRegistrationNo = memory.messaging.control.curRegistrationNo := by
        rcases ends with ⟨_, rfl⟩ | ⟨_, told, remote, _, rfl⟩
        · exact ⟨rfl, rfl⟩
        · rw [NotifyMemory.control_tellIf]
          exact ⟨rfl, rfl⟩
      obtain ⟨handlers, number⟩ := left
      refine ⟨?_, ?_, ?_⟩
      · apply numbered.kept _ number
        rw [handlers]
        exact List.filter_sublist
      · intro other distinct
        dsimp only
        rw [handlers]
        apply @liveOf_removed_other _ _ _ other _ ⟨handler, registrationNo⟩ numbered.sorted member
        dsimp only at own ⊢
        rw [own]
        exact Ne.symm distinct
      · dsimp only
        rw [handlers]
        exact @liveOf_removed _ _ _ proxy _ ⟨handler, registrationNo⟩ only
  | terminate | provide nodeId => exact absurd may id

theorem handler_call (inv : HandlerInv lawful config) (idle : config.activity actor = .idle)
    (allowed : call.allowed (config.object actor) actor = true)
    (keeps : lawful = true → ∀ proxy, actor = .proxyEvent proxy →
      (config.object actor).keepsHandler call)
    (after : HandlerConfig Proxy Handler NodeId)
    (isAfter : after = config.update config.memory actor ((config.object actor).calling call)
      (.running call (call.code (config.object actor).states actor))) :
    HandlerInv lawful after ∧ (call.code (config.object actor).states actor).Respects
        (handlerRules lawful actor) (handlerView after actor)
        ((handlerContract nodeIdentifier lawful).post actor call) := by
  subst isAfter
  cases actor with
  | provider =>
      refine ⟨@HandlerInv.provided _ _ _ _ _ _ config config.memory.provider _ inv, ?_⟩
      cases call with
      | provide nodeId => exact ⟨trivial, fun _ _ => trivial⟩
      | _ => cases allowed
  | proxyEvent proxy =>
      have kept := inv.kept proxy
      rw [idle] at kept
      refine ⟨inv.moved inv.numbered (fun _ _ => rfl) kept.calling, ?_⟩
      rw [handlerView, Config.update_object_self, Config.update_memory]
      exact call.proxyCode_respects (kept.atRest rfl) allowed
        fun lawfully => keeps lawfully proxy rfl

theorem handler_perform {answer : op.Ret}
    {next : op.Ret → MessagingProgram (ProxyHandler Proxy Handler) NodeId
      (HandlerStates (ProxyHandler Proxy Handler) NodeId)}
    (inv : HandlerInv lawful config)
    (fits : ∀ callback target, op = .registerEventNotification callback target →
      config.memory.registrations < 2 ^ 32)
    (running : config.activity actor = .running call (.step op next))
    (may : (handlerRules lawful actor).may (handlerView config actor) op)
    (outcome : (answer, memory) ∈ op.outcomes nodeIdentifier config.memory)
    (after : HandlerConfig Proxy Handler NodeId) (isAfter : after = config.update memory actor
      ((config.object actor).observe op) (.running call (next answer))) :
    HandlerInv lawful after ∧
      (∀ other, other ≠ actor → handlerView after other = handlerView config other) ∧
      handlerView after actor = (handlerView config actor).observe op answer := by
  subst isAfter
  cases actor with
  | provider =>
      cases op with
      | provide nodeId =>
          cases List.mem_singleton.mp outcome
          refine ⟨inv.provided, handler_unseen fun _ _ => rfl, ?_⟩
          rw [handlerView, handlerView, Config.update_object_self]
          rfl
      | _ => exact absurd may id
  | proxyEvent proxy =>
      obtain ⟨numbered, others, own⟩ := handler_outcome inv.numbered fits rfl may outcome
      have kept := inv.kept proxy
      rw [running] at kept
      have observed := @HandlerKept.observe _ _ _ lawful _ call proxy op _ answer
        (next answer) _ kept may
      refine ⟨?_, ?_, ?_⟩
      · apply inv.moved numbered others
        rw [own]
        exact observed
      · apply handler_unseen
        intro other distinct
        apply others
        intro same
        exact distinct (congrArg _ same)
      · rw [handlerView, Config.update_object_self, Config.update_memory, own]
        cases op with
        | registerEventNotification callback target
        | unregisterEventNotification registrationNo target
        | reregisterEventNotification target | terminate | provide nodeId => rfl

theorem handler_finish {states : HandlerStates (ProxyHandler Proxy Handler) NodeId}
    (inv : HandlerInv lawful config)
    (post : (handlerContract nodeIdentifier lawful).post actor call states
      (handlerView config actor))
    (after : HandlerConfig Proxy Handler NodeId)
    (isAfter : after = config.update config.memory actor
      { config.object actor with states } .idle) :
    HandlerInv lawful after := by
  subst isAfter
  cases actor with
  | provider =>
      exact @HandlerInv.provided _ _ _ _ _ _ config config.memory.provider _ inv
  | proxyEvent proxy =>
      have kept := inv.kept proxy
      refine inv.moved inv.numbered (fun _ _ => rfl) ⟨kept.single, fun _ => post, ?_⟩
      intro lawfully unset _
      exact ((post.law lawfully).silent unset).1

/-- The obligations of the contract, under any condition that keeps the numbers
different and, for the law, every handler. -/
theorem handler_obligations {permitted : HandlerConfig Proxy Handler NodeId →
      HandlerEvent Proxy Handler NodeId → Prop}
    (fits : ∀ config actor callback target answer, permitted config
          (.perform actor (.registerEventNotification callback target) answer) →
        config.memory.registrations < 2 ^ 32)
    (elsewhere : ∀ config, permitted config .environment → config.memory.registrations < 2 ^ 32)
    (keeps : lawful = true → ∀ config proxy call,
      permitted config (.call (.proxyEvent proxy) call) →
        (config.object (.proxyEvent proxy)).keepsHandler call) :
    (handlerContract nodeIdentifier lawful :
      Contract (handlerSystem nodeIdentifier Proxy Handler) _).Obligations
        permitted where
  call := by
    intro config actor call inv allowed idle mayCall after isAfter
    have keepsIt : lawful = true → ∀ proxy, actor = .proxyEvent proxy →
        (config.object actor).keepsHandler call := by
      intro lawfully proxy same
      subst same
      exact keeps lawfully config proxy call allowed
    obtain ⟨kept, respects⟩ := @handler_call _ _ _ nodeIdentifier lawful call _ config _
      actor inv idle mayCall keepsIt after isAfter
    refine ⟨kept, ?_, respects⟩
    subst isAfter
    exact handler_unseen fun _ _ => rfl
  perform := by
    intro config actor call op next answer memory inv allowed running may outcome after isAfter
    have isNumbered : ∀ callback target, op = .registerEventNotification callback target →
          config.memory.registrations < 2 ^ 32 := by
      intro callback target same
      subst same
      exact fits config actor callback target answer allowed
    obtain ⟨kept, unseen, seen⟩ := handler_perform inv isNumbered running may outcome after isAfter
    refine ⟨kept, unseen, ?_, ?_⟩
    · cases actor with
      | provider => trivial
      | proxyEvent proxy => trivial
    · cases actor with
      | provider => exact seen
      | proxyEvent proxy => exact seen
  finish := by
    intro config actor call states inv _ _ post after isAfter
    refine ⟨handler_finish inv post after isAfter, ?_⟩
    subst isAfter
    exact handler_unseen fun _ _ => rfl
  crash := by
    intro config actor object _ _ killed
    cases killed
  environment := by
    intro config memory inv allowed moved after isAfter
    cases moved
    subst isAfter
    refine ⟨⟨inv.numbered.registeredElsewhere (elsewhere config allowed), inv.kept⟩, ?_⟩
    intro actor
    cases actor with
    | provider => rfl
    | proxyEvent proxy => rfl

omit [DecidableEq NodeId] in
/-- At the start nothing is registered. -/
theorem handlerInv_start (provider : NodeId) : HandlerInv lawful
      (handlerStart provider : HandlerConfig Proxy Handler NodeId) where
  numbered :=
    { sorted := List.Pairwise.nil
      fresh := fun _ impossible => nomatch impossible
      bounded := Nat.zero_le _
      number := rfl }
  kept := by
    intro proxy
    refine ⟨Nat.zero_le 1, fun _ => ?_, fun _ _ _ => rfl⟩
    refine ⟨.none, ?_, ?_, ?_, ?_, fun _ => ⟨fun _ => rfl, ?_, rfl⟩⟩
    · intro handler impossible
      cases impossible
    · simp [handlerStart, HandlerStates.new]
    · intro impossible
      cases impossible
    · intro impossible
      cases impossible
    · intro impossible
      cases impossible

end Contract

/-! ## The law of every run -/

section Law

variable [DecidableEq Proxy] [DecidableEq NodeId] {nodeIdentifier : NodeId}

/-- The receive-handler law of one proxy event: one registration at a time; with
a subscription that of the last `SetReceiveHandler`; without a handler set, once
the call that took it away has returned, none that an update invokes. -/
structure HandlerLaw (config : HandlerConfig Proxy Handler NodeId) (proxy : Proxy) : Prop where
  single : (liveOf proxy config.memory.messaging.control.handlers).length ≤ 1
  subscribed : config.activity (.proxyEvent proxy) = .idle →
    (config.object (.proxyEvent proxy)).states.currentState = .subscribedState →
      (liveOf proxy config.memory.messaging.control.handlers).map
          (·.handler.handler) =
        (config.object (.proxyEvent proxy)).lastSet.toList
  silent : (config.object (.proxyEvent proxy)).lastSet = none →
    silencing (config.activity (.proxyEvent proxy)) = false →
      liveOf proxy config.memory.messaging.control.handlers = [] ∧
        (∀ invoked ∈ config.memory.messaging.control.notifyEventLocally, invoked.proxy ≠ proxy) ∧
        ∀ remaining start, ∀ invoked ∈ config.memory.messaging.control.notifyRemaining remaining
              start,
            invoked.proxy ≠ proxy

/-- Every registration of the quality gets a number of its own, and every call of a proxy
event keeps its handler. -/
def handlersKept (config : HandlerConfig Proxy Handler NodeId) :
    HandlerEvent Proxy Handler NodeId → Prop
  | .call (.proxyEvent proxy) call =>
      (config.object (.proxyEvent proxy)).keepsHandler call
  | .perform _ (.registerEventNotification _ _) _ =>
      config.memory.registrations < 2 ^ 32
  | .environment => config.memory.registrations < 2 ^ 32
  | _ => True

omit [DecidableEq NodeId] in
/-- The invariant gives the law. -/
theorem HandlerInv.handlerLaw {config : HandlerConfig Proxy Handler NodeId}
    (inv : HandlerInv true config) (proxy : Proxy) : HandlerLaw config proxy := by
  have kept := inv.kept proxy
  refine ⟨kept.single, ?_, ?_⟩
  · intro idle subscribed
    have law := (kept.atRest idle).law rfl
    exact law.map_live (law.subscribed subscribed)
  · intro unset quiet
    have nothing := kept.silent rfl unset quiet
    have foreign : ∀ entry ∈ config.memory.messaging.control.handlers,
        entry.handler.proxy ≠ proxy := by
      intro entry member own
      have isLive := mem_liveOf.mpr ⟨member, own⟩
      rw [nothing] at isLive
      cases isLive
    refine ⟨nothing, ?_, ?_⟩
    · intro invoked called
      obtain ⟨entry, member, rfl⟩ := NotifyEventHandler.mem_notifyEventLocally called
      exact foreign entry member
    · intro remaining start invoked called
      obtain ⟨entry, member, rfl⟩ := NotifyEventHandler.mem_notifyRemaining called
      exact foreign entry member

/-- In every run whose calls keep their handlers, every proxy event keeps the
law. -/
theorem handlerLaw_of_reached {provider : NodeId}
    {config : HandlerConfig Proxy Handler NodeId}
    (reached : Reaches (handlerSystem nodeIdentifier Proxy Handler) handlersKept
      (handlerStart provider) config) (proxy : Proxy) :
    HandlerLaw config proxy := by
  have obligations : (handlerContract nodeIdentifier true :
      Contract (handlerSystem nodeIdentifier Proxy Handler) _).Obligations
        handlersKept := by
    apply handler_obligations
    · intro config actor callback target answer allowed
      exact allowed
    · exact fun config allowed => allowed
    · intro _ config proxy call allowed
      exact allowed
  have holds := Contract.run obligations (handlerInv_start provider) (fun _ => rfl) reached
  exact holds.inv.handlerLaw proxy

end Law

section OneProxyEvent

instance (party : HandlerParty Proxy Handler NodeId)
    (call : HandlerCall Handler NodeId) [DecidableEq Handler] :
    Decidable (party.keepsHandler call) := by
  cases call with
  | unsetReceiveHandler =>
      exact decidable_of_iff
        (party.states.currentState ≠ .subscriptionPendingState ∨
          party.states.eventReceiveHandlerManager.registrationNumber = none)
        Decidable.imp_iff_not_or.symm
  | unsubscribeEvent =>
      exact decidable_of_iff
        (party.states.currentState ≠ .subscriptionPendingState ∨
          party.states.eventReceiverHandler.isNone = true)
        (by rw [Option.isNone_iff_eq_none]; exact Decidable.imp_iff_not_or.symm)
  | _ => exact .isTrue trivial

instance [DecidableEq Handler] (config : HandlerConfig Proxy Handler NodeId)
    (event : HandlerEvent Proxy Handler NodeId) :
    Decidable (handlersKept config event) := by
  cases event with
  | call actor call =>
      cases actor with
      | provider => exact .isTrue trivial
      | proxyEvent proxy =>
          exact inferInstanceAs (Decidable ((config.object (.proxyEvent proxy)).keepsHandler call))
  | perform actor op answer =>
      cases op with
      | registerEventNotification callback target =>
          exact inferInstanceAs (Decidable (_ < _))
      | _ => exact .isTrue trivial
  | environment => exact inferInstanceAs (Decidable (_ < _))
  | _ => exact .isTrue trivial

/-- The proxy event sets a handler and subscribes. -/
def setAndSubscribe : List (Choice (HandlerActor Unit)
    (MessagingMemory (ProxyHandler Unit Unit) Bool) (HandlerCall Unit Bool)) :=
  [.call (.proxyEvent ()) (.setReceiveHandler ()), .finish (.proxyEvent ()),
    .call (.proxyEvent ()) (.subscribeEvent true), .perform (.proxyEvent ()) 0,
    .finish (.proxyEvent ())]

/-- A subscribed proxy event has its handler registered. -/
theorem handlerLaw_of_subscribed : ∃ config : HandlerConfig Unit Unit Bool,
      Reaches (handlerSystem false Unit Unit) handlersKept (handlerStart true)
          config ∧
        (liveOf () config.memory.messaging.control.handlers).map
            (·.handler.handler) = [()] ∧
        (config.object (.proxyEvent ())).states.currentState = .subscribedState := by
  obtain ⟨config, reached, idle, subscribed, isLast⟩ :=
    exists_reached (handlerSystem false Unit Unit)
      (fun config event => handlersKept config event) (handlerStart true)
      setAndSubscribe
      (fun config => config.activity (.proxyEvent ()) = .idle ∧
        (config.object (.proxyEvent ())).states.currentState = .subscribedState ∧
        (config.object (.proxyEvent ())).lastSet = some ())
      (by decide +kernel)
  have law : HandlerLaw config () := handlerLaw_of_reached reached ()
  have registered := law.subscribed idle subscribed
  rw [isLast] at registered
  exact ⟨config, reached, registered, subscribed⟩

/-- The handler is unset while the provider is away, and then offered again. -/
def unsetWhilePending : List (Choice (HandlerActor Unit)
    (MessagingMemory (ProxyHandler Unit Unit) Bool) (HandlerCall Unit Bool)) :=
  List.flatten
    [setAndSubscribe, [.call (.proxyEvent ()) .stopOfferEvent, .finish (.proxyEvent ()),
      .call (.proxyEvent ()) .unsetReceiveHandler, .finish (.proxyEvent ()),
      .call (.proxyEvent ()) (.reOfferEvent true), .perform (.proxyEvent ()) 0,
      .finish (.proxyEvent ())]]

/-- The handler that was unset is registered again, and invoked. -/
theorem handlerLaw_violated : ¬ ∀ (config : HandlerConfig Unit Unit Bool) (proxy : Unit),
      Reaches (handlerSystem false Unit Unit) (fun _ _ => True) (handlerStart true)
          config →
        HandlerLaw config proxy := by
  intro law
  obtain ⟨config, reached, unset, quiet, registered, invoked⟩ :=
    exists_reached (handlerSystem false Unit Unit) (fun _ _ => True)
      (handlerStart true) unsetWhilePending
      (fun config => (config.object (.proxyEvent ())).lastSet.isNone = true ∧
        silencing (config.activity (.proxyEvent ())) = false ∧
        config.memory.messaging.control.handlers = [⟨⟨(), ()⟩, 0⟩] ∧
        config.memory.messaging.control.notifyEventLocally = [⟨(), ()⟩])
      (by decide +kernel)
  have silent := (law config () reached).silent (Option.isNone_iff_eq_none.mp unset) quiet
  have foreign := silent.2.1 ⟨(), ()⟩
  rw [invoked] at foreign
  exact foreign (List.mem_singleton_self _) rfl

end OneProxyEvent

end MwCom.Messaging
