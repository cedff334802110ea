/-
Module: MwCom.Messaging.EventInterest
Purpose: Threads of a consumer that register and unregister handlers for one
  remote event, and when the provider ends up with the same idea of their
  interest.
Trusted boundary: messages arrive in the order in which they were sent.
Main exports: interestSystem, interestStart, Agreement, sendsInOrder,
  agreement_of_reached
-/
import Mathlib.Data.Fintype.Basic
import MwCom.Interleaving.Contract
import MwCom.Messaging.NotifyEventHandler

namespace MwCom.Messaging

open Interleaving

variable {Thread Handler NodeId : Type}

/-! ## The system -/

/-- What a thread has still to send after it moved the counter. -/
structure InterestParty where
  toSend : Option MessageType
deriving DecidableEq

/-- The calls of a thread. -/
inductive InterestCall (Handler : Type) where
  | registerEventNotification (callback : Handler)
  | unregisterEventNotification (registrationNo : BitVec 32)
deriving DecidableEq

namespace InterestParty

/-- The record of a thread after one of its operations. -/
def observe (party : InterestParty) : (op : NotifyOp Handler NodeId) → op.Ret → InterestParty
  | .registerRemote _, true => ⟨some .registerEventNotifier⟩
  | .unregisterRemote _, true => ⟨some .unregisterEventNotifier⟩
  | .send _, _ => ⟨none⟩
  | _, _ => party

end InterestParty

variable [DecidableEq NodeId] (consumer provider : NodeId)

namespace InterestCall

/-- The program of a call; a registration returns its number. -/
def code : InterestCall Handler → NotifyProgram Handler NodeId (Option (BitVec 32))
  | .registerEventNotification callback => do
      let registrationNo ← NotifyProgram.registerEventNotification consumer
        callback provider
      pure (some registrationNo)
  | .unregisterEventNotification registrationNo => do
      NotifyProgram.unregisterEventNotification consumer registrationNo provider
      pure none

end InterestCall

/-- The provider handles the oldest message on the way. -/
def Delivered (before after : NotifyMemory Handler NodeId) : Prop :=
  match before.inFlight with
  | [] => False
  | message :: rest =>
      message.target = provider ∧ after =
        { before with
          inFlight := rest
          interestedNodes :=
            handleMessage consumer before.interestedNodes message.type }

/-- The provider handles messages of other consumers. -/
def OthersDelivered (before after : NotifyMemory Handler NodeId) : Prop :=
  after = { before with interestedNodes := after.interestedNodes } ∧
    (consumer ∈ after.interestedNodes.getD ∅ ↔ consumer ∈ before.interestedNodes.getD ∅)

instance [DecidableEq Handler] (before after : NotifyMemory Handler NodeId) :
    Decidable (Delivered consumer provider before after) := by
  unfold Delivered
  split
  · exact inferInstance
  · exact inferInstance

instance [DecidableEq Handler] (before after : NotifyMemory Handler NodeId) :
    Decidable (OthersDelivered consumer before after) :=
  inferInstanceAs (Decidable (_ ∧ _))

/-- Threads of the `consumer` and their calls for an event of the `provider`. -/
def interestSystem (Thread Handler : Type) : System Thread (NotifyOp Handler NodeId) NotifyOp.Ret
      (NotifyMemory Handler NodeId) InterestParty (InterestCall Handler)
      (Option (BitVec 32)) where
  outcomes := NotifyOp.outcomes
  mayCall _ _ _ := True
  code _ _ call := call.code consumer provider
  onCall _ _ party _ := party
  observe _ _ party op answer := party.observe op answer
  onReturn _ _ party _ _ := party
  onCrash _ _ _ := none
  environment before after := Delivered consumer provider before after ∨
      OthersDelivered consumer before after

instance (thread : Thread) (party : InterestParty) (call : InterestCall Handler) :
    Decidable ((interestSystem consumer provider Thread Handler).mayCall thread party
      call) :=
  .isTrue trivial

instance [DecidableEq Handler] (before after : NotifyMemory Handler NodeId) :
    Decidable ((interestSystem consumer provider Thread Handler).environment before
      after) :=
  inferInstanceAs (Decidable (_ ∨ _))

/-- A state of `interestSystem`. -/
abbrev InterestConfig (Thread Handler NodeId : Type) :=
  Config Thread (NotifyOp Handler NodeId) NotifyOp.Ret
    (NotifyMemory Handler NodeId) InterestParty (InterestCall Handler)
    (Option (BitVec 32))

/-- An event of `interestSystem`. -/
abbrev InterestEvent (Thread Handler NodeId : Type) :=
  Event Thread (NotifyOp Handler NodeId) NotifyOp.Ret (InterestCall Handler)
    (Option (BitVec 32))

/-- The consumer's process is new; the provider may know other consumers. -/
def interestStart (interested : InterestedNodes NodeId) : InterestConfig Thread Handler NodeId where
  memory :=
    { control :=
        { eventUpdateHandlers := none
          eventUpdateRemoteRegistrations := none
          curRegistrationNo := 0 }
      inFlight := []
      interestedNodes := interested }
  object := fun _ => ⟨none⟩
  activity := fun _ => .idle

/-! ## The law -/

/-- The message that the counter asks for. -/
def wantedMessage (node : NodeId) (count : Option (NodeCounter NodeId)) : MessageType :=
  if 0 < counterOf node count then .registerEventNotifier
  else .unregisterEventNotifier

/-- After all calls have returned and all messages were handled, the provider
knows the consumer exactly if something is registered. -/
def Agreement (config : InterestConfig Thread Handler NodeId) : Prop :=
  (∀ thread, config.activity thread = .idle) → config.memory.inFlight = [] →
    (consumer ∈ config.memory.interestedNodes.getD ∅ ↔ 0 < counterOf provider
        config.memory.control.eventUpdateRemoteRegistrations)

/-- No message that contradicts the counter is sent, unless another thread has
still to send the one the counter asks for; and the counter does not wrap. -/
def sendsInOrder (config : InterestConfig Thread Handler NodeId) :
    InterestEvent Thread Handler NodeId → Prop
  | .perform thread (.send message) _ =>
      message.type = wantedMessage provider
          config.memory.control.eventUpdateRemoteRegistrations ∨
        ∃ other, other ≠ thread ∧ (config.object other).toSend = some (wantedMessage provider
            config.memory.control.eventUpdateRemoteRegistrations)
  | .perform _ (.registerRemote node) _ =>
      counterOf node config.memory.control.eventUpdateRemoteRegistrations ≠ 2 ^ 16 - 1
  | _ => True

/-! ## The rules of a thread -/

/-- A thread sends what it has to send before it does anything else. -/
def interestRules : Rules (NotifyOp Handler NodeId) NotifyOp.Ret (Option MessageType) where
  may toSend
    | .registerRemote node => node = provider ∧ toSend = none
    | .unregisterRemote node => node = provider ∧ toSend = none
    | .reregisterRemote _ => False
    | .send message => toSend = some message.type
    | _ => toSend = none
  expects _ _ _ := True
  next toSend op answer := (InterestParty.observe ⟨toSend⟩ op answer).toSend

section Programs

variable {consumer provider}

theorem registerEventNotification_respects (callback : Handler) :
    (NotifyProgram.registerEventNotification consumer callback provider :
      NotifyProgram Handler NodeId (BitVec 32)).Respects
        (interestRules provider) none fun _ toSend => toSend = none := by
  apply Program.Respects.perform rfl
  intro registrationNo _
  change Program.Respects _ _ none _
  split
  · have remote : (NotifyProgram.registerEventNotificationRemote provider :
        NotifyProgram Handler NodeId Unit).Respects (interestRules provider)
          none fun _ toSend => toSend = none := by
      refine ⟨⟨rfl, rfl⟩, fun send _ => ?_⟩
      cases send with
      | true => exact ⟨rfl, fun _ _ => rfl⟩
      | false => exact rfl
    apply remote.bind
    intro _ toSend sent
    exact sent
  · exact rfl

theorem unregisterEventNotification_respects (registrationNo : BitVec 32) :
    (NotifyProgram.unregisterEventNotification consumer registrationNo provider :
      NotifyProgram Handler NodeId Unit).Respects
        (interestRules provider) none fun _ toSend => toSend = none := by
  apply Program.Respects.perform rfl
  intro found _
  change Program.Respects _ _ none _
  split
  · refine ⟨⟨rfl, rfl⟩, fun send _ => ?_⟩
    cases send with
    | true => exact ⟨rfl, fun _ _ => rfl⟩
    | false => exact rfl
  · exact rfl

theorem InterestCall.code_respects (call : InterestCall Handler) :
    (call.code consumer provider).Respects (interestRules provider) none
      fun _ toSend => toSend = none := by
  cases call with
  | registerEventNotification callback =>
      apply (registerEventNotification_respects callback).bind
      intro _ toSend sent
      exact sent
  | unregisterEventNotification registrationNo =>
      apply (unregisterEventNotification_respects registrationNo).bind
      intro _ toSend sent
      exact sent

end Programs

/-! ## What the threads keep -/

/-- The interested nodes after all messages on the way were handled. -/
def eventually (memory : NotifyMemory Handler NodeId) : InterestedNodes NodeId :=
  memory.inFlight.foldl
    (fun nodes message => handleMessage consumer nodes message.type)
    memory.interestedNodes

theorem mem_handleMessage (nodes : InterestedNodes NodeId) (type : MessageType) :
    consumer ∈ (handleMessage consumer nodes type).getD ∅ ↔ type = .registerEventNotifier := by
  cases type with
  | registerEventNotifier =>
      simp [handleMessage, handleRegisterNotificationMsg]
  | unregisterEventNotifier =>
      cases nodes with
      | none | some nodes => simp [handleMessage, handleUnregisterNotificationMsg]

/-- Nothing but the membership of the consumer matters to its messages. -/
theorem mem_foldl_handleMessage (messages : List (Message NodeId))
    {one two : InterestedNodes NodeId} (same : consumer ∈ one.getD ∅ ↔ consumer ∈ two.getD ∅) :
    consumer ∈ (messages.foldl
        (fun nodes message => handleMessage consumer nodes message.type) one).getD
          ∅ ↔
      consumer ∈ (messages.foldl
        (fun nodes message => handleMessage consumer nodes message.type) two).getD
          ∅ := by
  induction messages generalizing one two with
  | nil => exact same
  | cons message rest ih =>
      apply ih
      rw [mem_handleMessage, mem_handleMessage]

/-- The last message sent decides. -/
theorem mem_eventually_sendMessage (memory : NotifyMemory Handler NodeId)
    (message : Message NodeId) :
    consumer ∈ (eventually consumer (memory.sendMessage message)).getD ∅ ↔
      message.type = .registerEventNotifier := by
  rw [eventually, NotifyMemory.sendMessage, List.foldl_append]
  exact mem_handleMessage consumer _ _

/-- The counter is positive, a thread at rest owes no message, and the last
message agrees with the counter or is still owed. -/
structure InterestInv (config : InterestConfig Thread Handler NodeId) : Prop where
  positive : Positive config.memory.control.eventUpdateRemoteRegistrations
  atRest : ∀ thread, config.activity thread = .idle → (config.object thread).toSend = none
  agrees : (consumer ∈ (eventually consumer config.memory).getD ∅ ↔ 0 < counterOf provider
          config.memory.control.eventUpdateRemoteRegistrations) ∨
      ∃ thread, (config.object thread).toSend = some (wantedMessage provider
          config.memory.control.eventUpdateRemoteRegistrations)

variable [DecidableEq Thread] {consumer provider}

namespace InterestInv

variable {config : InterestConfig Thread Handler NodeId} {thread : Thread}

/-- A step that changes neither the counter nor the messages. -/
theorem quietStep (inv : InterestInv consumer provider config)
    {memory : NotifyMemory Handler NodeId}
    {activity : Activity (NotifyOp Handler NodeId) NotifyOp.Ret
      (InterestCall Handler) (Option (BitVec 32))}
    (sameRemote : memory.control.eventUpdateRemoteRegistrations =
      config.memory.control.eventUpdateRemoteRegistrations)
    (sameMessages : eventually consumer memory = eventually consumer config.memory)
    (atRest : activity = .idle → (config.object thread).toSend = none) :
    InterestInv consumer provider
      (config.update memory thread (config.object thread) activity) where
  positive := by
    rw [Config.update_memory, sameRemote]
    exact inv.positive
  atRest := by
    intro other idle
    by_cases same : other = thread
    · subst same
      rw [Config.update_activity_self] at idle
      rw [Config.update_object_self]
      exact atRest idle
    · rw [Config.update_activity_of_ne same] at idle
      rw [Config.update_object_of_ne same]
      exact inv.atRest other idle
  agrees := by
    rw [Config.update_memory, sameRemote, sameMessages, Config.update_object,
      Function.update_eq_self]
    exact inv.agrees

/-- The counter moves from or to zero exactly if a message is owed for it. -/
theorem counterStep (inv : InterestInv consumer provider config)
    {remote : Option (NodeCounter NodeId)} {type : MessageType} {told : Bool}
    {activity : Activity (NotifyOp Handler NodeId) NotifyOp.Ret
      (InterestCall Handler) (Option (BitVec 32))}
    (running : activity ≠ .idle) (positive : Positive remote)
    (owed : told = true → wantedMessage provider remote = type)
    (unmoved : told = false → (0 < counterOf provider remote ↔ 0 < counterOf provider
        config.memory.control.eventUpdateRemoteRegistrations)) :
    InterestInv consumer provider
      (config.update (config.memory.setRemote remote) thread
        (if told then ⟨some type⟩ else config.object thread) activity) where
  positive := positive
  atRest := by
    intro other idle
    by_cases same : other = thread
    · subst same
      rw [Config.update_activity_self] at idle
      exact absurd idle running
    · rw [Config.update_activity_of_ne same] at idle
      rw [Config.update_object_of_ne same]
      exact inv.atRest other idle
  agrees := by
    cases told with
    | true =>
        refine .inr ⟨thread, ?_⟩
        rw [Config.update_object_self, Config.update_memory]
        exact congrArg some (owed rfl).symm
    | false =>
        have moved := unmoved rfl
        have sameWanted : wantedMessage provider remote = wantedMessage provider
            config.memory.control.eventUpdateRemoteRegistrations := by
          rw [wantedMessage, wantedMessage]
          simp only [moved]
        rw [Config.update_object, Config.update_memory]
        simp only [Bool.false_eq_true, if_false, Function.update_eq_self]
        change (consumer ∈ (eventually consumer config.memory).getD ∅ ↔
          0 < counterOf provider remote) ∨ ∃ thread, (config.object thread).toSend =
            some (wantedMessage provider remote)
        rw [moved, sameWanted]
        exact inv.agrees

/-- A message is sent: it agrees with the counter, or another one follows. -/
theorem sendStep (inv : InterestInv consumer provider config) {message : Message NodeId}
    {activity : Activity (NotifyOp Handler NodeId) NotifyOp.Ret
      (InterestCall Handler) (Option (BitVec 32))}
    (ordered : message.type = wantedMessage provider
        config.memory.control.eventUpdateRemoteRegistrations ∨
      ∃ other, other ≠ thread ∧ (config.object other).toSend = some (wantedMessage provider
          config.memory.control.eventUpdateRemoteRegistrations)) :
    InterestInv consumer provider
      (config.update (config.memory.sendMessage message) thread ⟨none⟩ activity) where
  positive := inv.positive
  atRest := by
    intro other idle
    by_cases same : other = thread
    · subst same
      rw [Config.update_object_self]
    · rw [Config.update_activity_of_ne same] at idle
      rw [Config.update_object_of_ne same]
      exact inv.atRest other idle
  agrees := by
    rcases ordered with wanted | ⟨other, distinct, owed⟩
    · left
      rw [Config.update_memory, mem_eventually_sendMessage, wanted, wantedMessage]
      change _ ↔ 0 < counterOf provider config.memory.control.eventUpdateRemoteRegistrations
      split
      · rename_i counted
        exact iff_of_true rfl counted
      · rename_i uncounted
        exact iff_of_false (by decide) uncounted
    · refine .inr ⟨other, ?_⟩
      rw [Config.update_object_of_ne distinct]
      exact owed

end InterestInv

omit [DecidableEq NodeId] in
/-- Writing the record of one thread is not seen by the others. -/
theorem toSend_unseen (config : InterestConfig Thread Handler NodeId)
    (thread : Thread) (memory : NotifyMemory Handler NodeId) (party : InterestParty)
    (activity : Activity (NotifyOp Handler NodeId) NotifyOp.Ret
      (InterestCall Handler) (Option (BitVec 32))) :
    ∀ other, other ≠ thread → ((config.update memory thread party activity).object other).toSend =
        (config.object other).toSend := by
  intro other distinct
  rw [Config.update_object_of_ne distinct]

/-- The contract of the threads. -/
def interestContract : Contract (interestSystem consumer provider Thread Handler)
      (Option MessageType) where
  Inv := InterestInv consumer provider
  view config thread := (config.object thread).toSend
  rules _ := interestRules provider
  post _ _ _ toSend := toSend = none

/-- Every critical section and every send keeps the invariant. -/
theorem interest_perform {config : InterestConfig Thread Handler NodeId}
    {thread : Thread} {op : NotifyOp Handler NodeId} {answer : op.Ret}
    {memory : NotifyMemory Handler NodeId}
    {activity : Activity (NotifyOp Handler NodeId) NotifyOp.Ret
      (InterestCall Handler) (Option (BitVec 32))}
    (inv : InterestInv consumer provider config)
    (ordered : sendsInOrder provider config (.perform thread op answer))
    (running : activity ≠ .idle)
    (may : (interestRules provider).may (config.object thread).toSend op)
    (outcome : (answer, memory) ∈ op.outcomes config.memory) :
    InterestInv consumer provider
      (config.update memory thread ((config.object thread).observe op answer)
        activity) := by
  cases op with
  | addHandler callback =>
      cases List.mem_singleton.mp outcome
      exact inv.quietStep rfl rfl fun idle => absurd idle running
  | searchHandler registrationNo =>
      have same : (answer, memory) = ((config.memory.control.searchHandlerForNotification
          registrationNo).1,
        { config.memory with control :=
            (config.memory.control.searchHandlerForNotification registrationNo).2 }) :=
        List.mem_singleton.mp outcome
      obtain ⟨rfl, rfl⟩ := Prod.mk.inj same
      have sameRemote := config.memory.control.searchHandlerForNotification_remote registrationNo
      exact inv.quietStep sameRemote rfl fun idle => absurd idle running
  | findHandlers =>
      cases List.mem_singleton.mp outcome
      exact inv.quietStep rfl rfl fun idle => absurd idle running
  | registerRemote node =>
      obtain ⟨rfl, _⟩ := may
      obtain ⟨counted, told, _, positive⟩ := registerRemote_spec inv.positive ordered
      have same : (answer, memory) = ((registerRemote node
          config.memory.control.eventUpdateRemoteRegistrations).1 == 1,
        config.memory.setRemote (some (registerRemote node
          config.memory.control.eventUpdateRemoteRegistrations).2)) :=
        List.mem_singleton.mp outcome
      obtain ⟨isTold, rfl⟩ := Prod.mk.inj same
      have owed : answer = true → wantedMessage node (some (registerRemote node
          config.memory.control.eventUpdateRemoteRegistrations).2) = .registerEventNotifier := by
        intro _
        rw [wantedMessage, if_pos]
        omega
      have unmoved : answer = false → (0 < counterOf node (some (registerRemote node
              config.memory.control.eventUpdateRemoteRegistrations).2) ↔
            0 < counterOf node
              config.memory.control.eventUpdateRemoteRegistrations) := by
        intro notTold
        have notFirst : ¬ counterOf node
            config.memory.control.eventUpdateRemoteRegistrations = 0 := by
          intro first
          rw [isTold, told.mpr first] at notTold
          cases notTold
        omega
      have step : InterestInv consumer node (config.update _ thread
          (if answer then ⟨some .registerEventNotifier⟩ else config.object thread)
          activity) := inv.counterStep running positive owed unmoved
      cases answer with
      | true => exact step
      | false => exact step
  | unregisterRemote node =>
      obtain ⟨rfl, _⟩ := may
      obtain ⟨told, after, found, counted, isTold, _, positive⟩ :=
        @unregisterRemote_spec NodeId _ _ node inv.positive
      have same : (answer, memory) = (told, config.memory.setRemote after) := by
        rw [NotifyOp.outcomes, found] at outcome
        exact List.mem_singleton.mp outcome
      obtain ⟨rfl, rfl⟩ := Prod.mk.inj same
      have owed : answer = true → wantedMessage node after = .unregisterEventNotifier := by
        intro last
        have one := isTold.mp last
        rw [wantedMessage, if_neg]
        omega
      have unmoved : answer = false → (0 < counterOf node after ↔ 0 < counterOf node
            config.memory.control.eventUpdateRemoteRegistrations) := by
        intro notTold
        have notOne : ¬ counterOf node
            config.memory.control.eventUpdateRemoteRegistrations = 1 := by
          intro one
          rw [isTold.mpr one] at notTold
          cases notTold
        omega
      have step : InterestInv consumer node (config.update _ thread
          (if answer then ⟨some .unregisterEventNotifier⟩ else config.object thread)
          activity) := inv.counterStep running positive owed unmoved
      cases answer with
      | true => exact step
      | false => exact step
  | reregisterRemote node => exact absurd may id
  | send message =>
      cases List.mem_singleton.mp outcome
      exact inv.sendStep ordered

theorem interest_obligations :
    (@interestContract Thread Handler NodeId _ consumer provider).Obligations
      (sendsInOrder provider) where
  call := by
    intro config thread call inv _ idle _ after rfl
    have rested := inv.atRest thread idle
    refine ⟨?_, toSend_unseen _ _ _ _ _, ?_⟩
    · exact inv.quietStep rfl rfl fun _ => rested
    · change Program.Respects _ _ ((config.update _ _ _ _).object thread).toSend _
      rw [Config.update_object_self]
      change Program.Respects _ _ (config.object thread).toSend _
      rw [rested]
      exact call.code_respects
  perform := by
    intro config thread call op next answer memory inv ordered running may outcome after rfl
    refine ⟨?_, toSend_unseen _ _ _ _ _, trivial, ?_⟩
    · exact interest_perform inv ordered (fun impossible => nomatch impossible) may outcome
    · change ((config.update _ _ _ _).object thread).toSend = _
      rw [Config.update_object_self]
      rfl
  finish := by
    intro config thread call reply inv _ _ post after rfl
    refine ⟨?_, toSend_unseen _ _ _ _ _⟩
    exact inv.quietStep rfl rfl fun _ => post
  crash := by
    intro config thread object _ _ killed
    cases killed
  environment := by
    intro config memory inv _ moved after rfl
    rcases moved with delivered | others
    · rw [Delivered] at delivered
      split at delivered
      · cases delivered
      · rename_i message rest inFlight
        obtain ⟨_, rfl⟩ := delivered
        refine ⟨⟨inv.positive, inv.atRest, ?_⟩, fun _ => rfl⟩
        have sameMessages : eventually consumer config.memory =
            rest.foldl (fun nodes message => handleMessage consumer nodes message.type)
              (handleMessage consumer config.memory.interestedNodes message.type) := by
          rw [eventually, inFlight]
          rfl
        have agrees := inv.agrees
        rw [sameMessages] at agrees
        exact agrees
    · obtain ⟨same, membership⟩ := others
      have sameMessages : consumer ∈ (eventually consumer memory).getD ∅ ↔
            consumer ∈ (eventually consumer config.memory).getD ∅ := by
        rw [same]
        exact mem_foldl_handleMessage consumer _ membership
      have sameControl : memory.control = config.memory.control := by
        rw [same]
      refine ⟨⟨?_, inv.atRest, ?_⟩, fun _ => rfl⟩
      · rw [sameControl]
        exact inv.positive
      · rw [sameControl, sameMessages]
        exact inv.agrees

/-! ## The law of every run -/

/-- In every run whose messages are sent in the order of the counter, consumer
and provider agree. -/
theorem agreement_of_reached {interested : InterestedNodes NodeId}
    {config : InterestConfig Thread Handler NodeId}
    (unknown : consumer ∉ interested.getD ∅)
    (reached : Reaches (interestSystem consumer provider Thread Handler)
      (sendsInOrder provider) (interestStart interested) config) :
    Agreement consumer provider config := by
  have initially : InterestInv consumer provider
      (interestStart interested : InterestConfig Thread Handler NodeId) := by
    refine ⟨?_, fun _ _ => rfl, ?_⟩
    · intro count impossible
      cases impossible
    · left
      exact iff_of_false unknown (Nat.lt_irrefl 0)
  have holds := Contract.run interest_obligations initially (fun _ => rfl) reached
  intro rested delivered
  rcases holds.inv.agrees with agrees | ⟨thread, owed⟩
  · rw [eventually, delivered] at agrees
    exact agrees
  · rw [holds.inv.atRest thread (rested thread)] at owed
    cases owed

section TwoThreads

instance [Fintype Thread] (config : InterestConfig Thread Handler NodeId)
    (event : InterestEvent Thread Handler NodeId) :
    Decidable (sendsInOrder provider config event) :=
  match event with
  | .perform _ (.send _) _ => inferInstanceAs (Decidable (_ ∨ _))
  | .perform _ (.registerRemote _) _ => inferInstanceAs (Decidable (¬ _))
  | .perform _ (.addHandler _) _ => .isTrue trivial
  | .perform _ (.searchHandler _) _ => .isTrue trivial
  | .perform _ .findHandlers _ => .isTrue trivial
  | .perform _ (.unregisterRemote _) _ => .isTrue trivial
  | .perform _ (.reregisterRemote _) _ => .isTrue trivial
  | .call _ _ => .isTrue trivial
  | .finish _ _ _ => .isTrue trivial
  | .crash _ => .isTrue trivial
  | .environment => .isTrue trivial

/-- Thread `false` registers a handler, and the provider gets its message. -/
def registerAndDeliver : List (Choice Bool (NotifyMemory Unit Bool)
    (InterestCall Unit)) :=
  [.call false (.registerEventNotification ()), .perform false 0, .perform false 0,
    .perform false 0, .finish false,
    .environment
      { control :=
          { eventUpdateHandlers := some [⟨(), 0⟩]
            eventUpdateRemoteRegistrations := some ⟨true, 1⟩
            curRegistrationNo := 1 }
        inFlight := []
        interestedNodes := some {false} }]

/-- A run at whose end something is registered. -/
theorem agreement_of_registered : ∃ config : InterestConfig Bool Unit Bool,
      Reaches (interestSystem false true Bool Unit) (sendsInOrder true)
          (interestStart none) config ∧
        false ∈ config.memory.interestedNodes.getD ∅ ∧
        0 < counterOf true
          config.memory.control.eventUpdateRemoteRegistrations := by
  obtain ⟨config, reached, idle, delivered, counted⟩ :=
    exists_reached (interestSystem false true Bool Unit)
      (fun config event => sendsInOrder true config event) (interestStart none)
      registerAndDeliver
      (fun config => (∀ thread, config.activity thread = .idle) ∧ config.memory.inFlight = [] ∧
        0 < counterOf true config.memory.control.eventUpdateRemoteRegistrations)
      (by decide +kernel)
  have agreement : Agreement false true config := agreement_of_reached (by decide) reached
  exact ⟨config, reached, (agreement idle delivered).mpr counted, counted⟩

/-- Thread `false` takes the last registration away, thread `true` registers
before `false` sends its message. -/
def unregisterBehind : List (Choice Bool (NotifyMemory Unit Bool)
    (InterestCall Unit)) :=
  let afterBoth : NotifyEventHandler Unit Bool :=
    { eventUpdateHandlers := some [⟨(), 1⟩]
      eventUpdateRemoteRegistrations := some ⟨true, 1⟩
      curRegistrationNo := 2 }
  List.flatten
    [registerAndDeliver, [.call false (.unregisterEventNotification 0), .perform false 0,
      .perform false 0,
      .call true (.registerEventNotification ()), .perform true 0, .perform true 0,
      .perform true 0, .finish true,
      .perform false 0, .finish false,
      .environment
        { control := afterBoth
          inFlight := [⟨.unregisterEventNotifier, true⟩]
          interestedNodes := some {false} },
      .environment
        { control := afterBoth, inFlight := [], interestedNodes := some ∅ }]]

/-- The messages of two threads overtake each other: a handler is registered,
and the provider does not know it. -/
theorem agreement_violated : ¬ ∀ config : InterestConfig Bool Unit Bool,
      Reaches (interestSystem false true Bool Unit) (fun _ _ => True)
          (interestStart none) config →
        Agreement false true config := by
  intro law
  obtain ⟨config, reached, idle, delivered, disagrees⟩ :=
    exists_reached (interestSystem false true Bool Unit) (fun _ _ => True)
      (interestStart none) unregisterBehind
      (fun config => (∀ thread, config.activity thread = .idle) ∧ config.memory.inFlight = [] ∧
        ¬ (false ∈ config.memory.interestedNodes.getD ∅ ↔ 0 < counterOf true
            config.memory.control.eventUpdateRemoteRegistrations))
      (by decide +kernel)
  exact disagrees (law config reached idle delivered)

end TwoThreads

end MwCom.Messaging
