/-
Module: MwCom.Messages.MessageHandlers
Purpose: What a process does with the messages of other processes, and which
  messages end it.
Trusted boundary: a user's receive handler is only recorded as invoked.
Main exports: NotifyProcess, the four handlers,
  registerMessageReceivedCallbacks, Misbehaving, receiver_survives
-/
import MwCom.Lola.EventDataControlComposite
import MwCom.MessagePassing.Receiver
import MwCom.Messages.ElementFqIdMessage
import MwCom.Messaging.NotifyEventHandler

namespace MwCom.Messages

open Bytes MessagePassing
open MwCom.Lola (QualityType)
open MwCom.Messaging (RegisteredNotificationHandler NodeCounter InterestedNodes)

/-! ## The process -/

/-- What two elements are compared by. -/
structure ElementKey where
  serviceId : BitVec 16
  elementId : BitVec 8
  instanceId : BitVec 16
deriving DecidableEq

def ElementFqId.key (element : ElementFqId) : ElementKey where
  serviceId := element.serviceId
  elementId := element.elementId
  instanceId := element.instanceId

/-- Handlers, interested nodes and remote registrations of one quality. -/
structure EventNotificationControlData (Handler : Type) where
  eventUpdateHandlers : ElementKey → Option (List (RegisteredNotificationHandler Handler))
  eventUpdateInterestedNodes : ElementKey → InterestedNodes Pid
  eventUpdateRemoteRegistrations : ElementKey → Option (NodeCounter Pid)
  curRegistrationNo : BitVec 32

namespace EventNotificationControlData

variable {Handler : Type} (data : EventNotificationControlData Handler)

/-- The part about one event. -/
def onEvent (key : ElementKey) : Messaging.NotifyEventHandler Handler Pid where
  eventUpdateHandlers := data.eventUpdateHandlers key
  eventUpdateRemoteRegistrations := data.eventUpdateRemoteRegistrations key
  curRegistrationNo := data.curRegistrationNo

def setInterestedNodes (key : ElementKey) (nodes : InterestedNodes Pid) :
    EventNotificationControlData Handler :=
  { data with
    eventUpdateInterestedNodes :=
      Function.update data.eventUpdateInterestedNodes key nodes }

end EventNotificationControlData

/-- The control data of both qualities, the nodes there are senders to, and the
handlers invoked so far. -/
structure NotifyProcess (Handler : Type) where
  controlData : QualityType → EventNotificationControlData Handler
  senders : QualityType → Pid → Bool
  invoked : List Handler

namespace NotifyProcess

variable {Handler : Type} (process : NotifyProcess Handler)

def setControlData (asilLevel : QualityType)
    (data : EventNotificationControlData Handler) : NotifyProcess Handler :=
  { process with controlData := Function.update process.controlData asilLevel data }

/-- `RemoveMessagePassingSender`. -/
def removeMessagePassingSender (asilLevel : QualityType) (targetNodeId : Pid) :
    NotifyProcess Handler :=
  { process with
    senders := fun level node =>
      process.senders level node && !(level == asilLevel && node == targetNodeId) }

end NotifyProcess

/-! ## Handlers -/

section Handlers

variable {Handler : Type} (order : ByteOrder) (asilBCapability : Bool)

/-- The assertion about the quality of a call.  `none`: the process ends. -/
def assertAsilLevel (asilLevel : QualityType) : Option Unit :=
  if asilLevel = .asilQm ∨ asilBCapability = true then some () else none

/-- The program of a callback. -/
abbrev MessageHandler (Handler : Type) :=
  (messagePayload : BitVec 64) → (asilLevel : QualityType) → (senderNodeId : Pid) →
    NotifyProcess Handler → Option (NotifyProcess Handler)

def handleRegisterNotificationMsg : MessageHandler Handler :=
  fun messagePayload asilLevel senderNodeId process => do
    assertAsilLevel asilBCapability asilLevel
    let message ← ElementFqIdMessage.deserializeToElementFqIdMessage
      .registerEventNotifier messagePayload senderNodeId
    let data := process.controlData asilLevel
    let key := message.elementFqId.key
    pure (process.setControlData asilLevel (data.setInterestedNodes key
      (Messaging.handleRegisterNotificationMsg senderNodeId (data.eventUpdateInterestedNodes key))))

def handleUnregisterNotificationMsg : MessageHandler Handler :=
  fun messagePayload asilLevel senderNodeId process => do
    assertAsilLevel asilBCapability asilLevel
    let message ← ElementFqIdMessage.deserializeToElementFqIdMessage
      .unregisterEventNotifier messagePayload senderNodeId
    let data := process.controlData asilLevel
    let key := message.elementFqId.key
    pure (process.setControlData asilLevel (data.setInterestedNodes key
      (Messaging.handleUnregisterNotificationMsg senderNodeId
        (data.eventUpdateInterestedNodes key))))

def handleNotifyEventMsg : MessageHandler Handler :=
  fun messagePayload asilLevel senderNodeId process => do
    assertAsilLevel asilBCapability asilLevel
    let message ← ElementFqIdMessage.deserializeToElementFqIdMessage
      .notifyEvent messagePayload senderNodeId
    let control := (process.controlData asilLevel).onEvent message.elementFqId.key
    pure { process with invoked := process.invoked ++ control.notifyEventLocally }

def handleOutdatedNodeIdMsg : MessageHandler Handler :=
  fun messagePayload asilLevel senderNodeId process => do
    assertAsilLevel asilBCapability asilLevel
    let message := OutdatedNodeIdMessage.deserializeToOutdatedNodeIdMessage order
      messagePayload senderNodeId
    let data := process.controlData asilLevel
    let process := process.setControlData asilLevel
      { data with
        eventUpdateInterestedNodes := fun key =>
          Messaging.handleUnregisterNotificationMsg message.pidToUnregister
            (data.eventUpdateInterestedNodes key) }
    pure (process.removeMessagePassingSender asilLevel message.pidToUnregister)

/-- The handler of each message. -/
def messageHandler : MessageType → MessageHandler Handler
  | .registerEventNotifier => handleRegisterNotificationMsg asilBCapability
  | .unregisterEventNotifier => handleUnregisterNotificationMsg asilBCapability
  | .notifyEvent => handleNotifyEventMsg asilBCapability
  | .outdatedNodeId => handleOutdatedNodeIdMsg order asilBCapability

/-- The callback that captures the quality of its receiver. -/
def shortCallback (asilLevel : QualityType) (type : MessageType) :
    MessageReceivedCallback (NotifyProcess Handler) :=
  .short fun payload senderPid =>
    messageHandler order asilBCapability type payload asilLevel senderPid

/-- `none`: the assertion about the quality fails. -/
def registerMessageReceivedCallbacks (asilLevel : QualityType)
    (receiver : Receiver (NotifyProcess Handler)) :
    Option (Receiver (NotifyProcess Handler)) := do
  assertAsilLevel asilBCapability asilLevel
  let callback := shortCallback order asilBCapability asilLevel
  let register (receiver : Receiver (NotifyProcess Handler)) (type : MessageType) :=
    receiver.register type.toMessageId (callback type)
  let receiver := register receiver .registerEventNotifier
  let receiver := register receiver .unregisterEventNotifier
  let receiver := register receiver .notifyEvent
  pure (register receiver .outdatedNodeId)

end Handlers

/-! ## Which payloads a handler survives -/

/-- The byte that becomes the type of the element. -/
def typeByte (messagePayload : BitVec 64) : BitVec 8 := (messagePayload &&& k8BitMask).setWidth 8

theorem deserialize_eq_none {id : MessageType} {messagePayload : BitVec 64} {senderNodeId : Pid} :
    ElementFqIdMessage.deserializeToElementFqIdMessage id messagePayload
        senderNodeId = none ↔
      ElementType.field.toByte < typeByte messagePayload := by
  rw [← ElementType.ofByte?_eq_none, ElementFqIdMessage.deserializeToElementFqIdMessage,
    shortMsgPayloadToElementFqId, typeByte]
  cases ElementType.ofByte? ((messagePayload &&& k8BitMask).setWidth 8) with
  | none => simp
  | some type => simp

/-- A handler that reads its message ends where the message does not parse. -/
theorem bind_pure_eq_none {Message Result : Type} {message : Option Message}
    {handled : Message → Result} :
    (message >>= fun read => pure (handled read)) = none ↔ message = none := by
  cases message with
  | none => exact iff_of_true rfl rfl
  | some read =>
      constructor
      · intro impossible
        cases impossible
      · intro impossible
        cases impossible

section Survival

variable {Handler : Type} {order : ByteOrder} {asilBCapability : Bool}
  {asilLevel : QualityType}

/-- With an allowed quality, only the type of an element can end a handler, and
only one that reads it. -/
theorem messageHandler_eq_none (allowed : assertAsilLevel asilBCapability asilLevel = some ())
    {type : MessageType} {messagePayload : BitVec 64} {senderNodeId : Pid}
    {process : NotifyProcess Handler} :
    messageHandler order asilBCapability type messagePayload asilLevel senderNodeId
        process = none ↔
      type ≠ .outdatedNodeId ∧ ElementType.field.toByte < typeByte messagePayload := by
  cases type with
  | outdatedNodeId => simp [messageHandler, handleOutdatedNodeIdMsg, allowed]
  | registerEventNotifier =>
      rw [messageHandler, handleRegisterNotificationMsg, allowed, Option.bind_eq_bind,
        Option.bind_some, bind_pure_eq_none, deserialize_eq_none]
      simp
  | unregisterEventNotifier =>
      rw [messageHandler, handleUnregisterNotificationMsg, allowed, Option.bind_eq_bind,
        Option.bind_some, bind_pure_eq_none, deserialize_eq_none]
      simp
  | notifyEvent =>
      rw [messageHandler, handleNotifyEventMsg, allowed, Option.bind_eq_bind,
        Option.bind_some, bind_pure_eq_none, deserialize_eq_none]
      simp

theorem MessageType.toMessageId_injective : Function.Injective MessageType.toMessageId := by
  intro one two same
  cases one <;> cases two <;> first | rfl | cases same

/-- Registered are the callbacks of the four messages, all for short ones. -/
theorem registeredCallbacks_eq {receiver : Receiver (NotifyProcess Handler)}
    (registered : registerMessageReceivedCallbacks order asilBCapability asilLevel
      .empty = some receiver) (id : MessageId) :
    (∃ type : MessageType, id = type.toMessageId ∧ receiver.registeredCallbacks id =
          some (shortCallback order asilBCapability asilLevel type)) ∨
      ((∀ type : MessageType, id ≠ type.toMessageId) ∧ receiver.registeredCallbacks id = none) := by
  obtain ⟨⟨⟩, _, isReceiver⟩ := Option.bind_eq_some_iff.mp registered
  cases isReceiver
  by_cases first : id = MessageType.registerEventNotifier.toMessageId
  · left
    exact ⟨.registerEventNotifier, first, by
      rw [first]
      rfl⟩
  · by_cases second : id = MessageType.unregisterEventNotifier.toMessageId
    · left
      exact ⟨.unregisterEventNotifier, second, by
        rw [second]
        rfl⟩
    · by_cases third : id = MessageType.notifyEvent.toMessageId
      · left
        exact ⟨.notifyEvent, third, by
          rw [third]
          rfl⟩
      · by_cases fourth : id = MessageType.outdatedNodeId.toMessageId
        · left
          exact ⟨.outdatedNodeId, fourth, by
            rw [fourth]
            rfl⟩
        · right
          constructor
          · intro type same
            cases type with
            | registerEventNotifier => exact first same
            | unregisterEventNotifier => exact second same
            | notifyEvent => exact third same
            | outdatedNodeId => exact fourth same
          · simp [Receiver.register, Receiver.empty, first, second, third, fourth]

/-! ## Which messages end the process -/

/-- A medium message with a registered id, or a short one whose handler reads an
element type that does not exist. -/
def Misbehaving : Received → Prop
  | .medium message => ∃ type : MessageType, message.id = type.toMessageId
  | .short message => ∃ type : MessageType, message.id = type.toMessageId ∧
      type ≠ .outdatedNodeId ∧ ElementType.field.toByte < typeByte message.payload
  | .stop => False
  | .ignored => False

/-- A misbehaving message ends the process, and no other. -/
theorem executeMessageHandler_eq_none {receiver : Receiver (NotifyProcess Handler)}
    (registered : registerMessageReceivedCallbacks order asilBCapability asilLevel
      .empty = some receiver) (received : Received) (process : NotifyProcess Handler) :
    receiver.executeMessageHandler received process = none ↔ Misbehaving received := by
  obtain ⟨⟨⟩, allowed, _⟩ := Option.bind_eq_some_iff.mp registered
  cases received with
  | stop | ignored => exact iff_of_false (Option.some_ne_none _) id
  | medium message =>
      rw [Receiver.executeMessageHandler, Misbehaving]
      rcases registeredCallbacks_eq registered message.id with
        ⟨type, isType, callback⟩ | ⟨unknown, callback⟩
      · rw [callback]
        exact iff_of_true rfl ⟨type, isType⟩
      · rw [callback]
        refine iff_of_false (Option.some_ne_none _) ?_
        rintro ⟨type, isType⟩
        exact unknown type isType
  | short message =>
      rw [Receiver.executeMessageHandler, Misbehaving]
      rcases registeredCallbacks_eq registered message.id with
        ⟨type, isType, callback⟩ | ⟨unknown, callback⟩
      · rw [callback]
        simp only [shortCallback]
        rw [bind_pure_eq_none, messageHandler_eq_none allowed]
        constructor
        · rintro ⟨reads, noType⟩
          exact ⟨type, isType, reads, noType⟩
        · rintro ⟨other, isOther, reads, noType⟩
          rw [isType] at isOther
          rw [MessageType.toMessageId_injective isOther]
          exact ⟨reads, noType⟩
      · rw [callback]
        refine iff_of_false (Option.some_ne_none _) ?_
        rintro ⟨type, isType, _⟩
        exact unknown type isType

end Survival

/-! ## The same for raw messages -/

/-- Where the lowest byte of a short payload stands. -/
def lowestPayloadPosition (order : ByteOrder) : Nat :=
  messageStartPayload + ByteOrder.lowestIndex 7 order

/-- `Misbehaving`, read off the bytes of a buffer. -/
def MisbehavingRaw (order : ByteOrder) (buffer : RawMessageBuffer) : Prop :=
  (buffer[messageTypePosition]? = some MessagePassing.MessageType.mediumMessage.toByte ∧
      ∃ type : MessageType, buffer[messageIdPosition]? = some type.toMessageId) ∨
    (buffer[messageTypePosition]? = some MessagePassing.MessageType.shortMessage.toByte ∧
      ∃ type : MessageType, buffer[messageIdPosition]? = some type.toMessageId ∧
        type ≠ .outdatedNodeId ∧ ∃ lowest, buffer[lowestPayloadPosition order]? = some lowest ∧
          ElementType.field.toByte < lowest)

section Raw

variable {order : ByteOrder} {buffer : RawMessageBuffer}

/-- The lowest byte of a word that is loaded from a buffer. -/
theorem lowest_of_load {position size : Nat} {bytes : List Byte}
    (loaded : buffer.load position (size + 1) = some bytes) :
    buffer[position + ByteOrder.lowestIndex size order]? =
      some ((order.toWord (size + 1) bytes).setWidth 8) := by
  have length := Buffer.length_load loaded
  have within : ByteOrder.lowestIndex size order < size + 1 := by
    cases order with
    | littleEndian => exact Nat.succ_pos size
    | bigEndian => exact Nat.lt_succ_self size
  have found := Buffer.getElem?_load loaded within
  have present : bytes[ByteOrder.lowestIndex size order]? =
      some bytes[ByteOrder.lowestIndex size order] :=
    List.getElem?_eq_getElem (by omega)
  rw [order.setWidth_toWord length present, ← Vector.getElem?_toList, ← found, present]

theorem id_of_load {bytes : List Byte} (loaded : buffer.load messageIdPosition 1 = some bytes) :
    buffer[messageIdPosition]? = some (order.toWord 1 bytes) := by
  have lowest := @lowest_of_load order buffer messageIdPosition 0 bytes loaded
  have here : messageIdPosition + ByteOrder.lowestIndex 0 order = messageIdPosition := by
    cases order with
    | littleEndian => rfl
    | bigEndian => rfl
  rw [here] at lowest
  exact lowest

/-- The bytes of a short message decide about it. -/
theorem misbehaving_short_iff {message : ShortMessage}
    (read : deserializeToShortMessage order buffer = some message) :
    Misbehaving (.short message) ↔
      ∃ type : MessageType, buffer[messageIdPosition]? = some type.toMessageId ∧
        type ≠ .outdatedNodeId ∧
        ∃ lowest, buffer[lowestPayloadPosition order]? = some lowest ∧
          ElementType.field.toByte < lowest := by
  simp only [deserializeToShortMessage, Option.bind_eq_bind, Option.bind_eq_some_iff,
    Option.pure_def, Option.some.injEq] at read
  obtain ⟨id, idLoaded, pid, _, payload, payloadLoaded, rfl⟩ := read
  have lowest := @lowest_of_load order buffer messageStartPayload 7 payload payloadLoaded
  have masked : typeByte (order.toWord 8 payload) = (order.toWord 8 payload).setWidth 8 :=
    setWidth_and_mask _ k8BitMask (by decide)
  rw [lowestPayloadPosition, lowest, @id_of_load order buffer id idLoaded, Misbehaving]
  simp only [masked, Option.some.injEq, exists_eq_left']

/-- The bytes of a medium message decide about it. -/
theorem misbehaving_medium_iff {message : MediumMessage}
    (read : deserializeToMediumMessage order buffer = some message) :
    Misbehaving (.medium message) ↔
      ∃ type : MessageType, buffer[messageIdPosition]? = some type.toMessageId := by
  simp only [deserializeToMediumMessage, Option.bind_eq_bind, Option.bind_eq_some_iff,
    Option.pure_def, Option.some.injEq] at read
  obtain ⟨id, idLoaded, pid, _, payload, _, rfl⟩ := read
  rw [@id_of_load order buffer id idLoaded, Misbehaving]
  simp only [Option.some.injEq]

/-- What a buffer is received as misbehaves as the buffer does. -/
theorem misbehaving_iff_raw {received : Received}
    (read : MqueueReceiverTraits.receiveNext order buffer = some received) :
    Misbehaving received ↔ MisbehavingRaw order buffer := by
  simp only [MqueueReceiverTraits.receiveNext, Option.bind_eq_bind, Option.bind_eq_some_iff] at read
  obtain ⟨type, isType, read⟩ := read
  rw [MisbehavingRaw, isType]
  by_cases stopped : type = MessagePassing.MessageType.stopMessage.toByte
  · rw [if_pos stopped] at read
    cases read
    subst stopped
    refine iff_of_false id ?_
    rintro (⟨impossible, _⟩ | ⟨impossible, _⟩)
    · exact absurd (Option.some.inj impossible) (by decide)
    · exact absurd (Option.some.inj impossible) (by decide)
  · rw [if_neg stopped] at read
    by_cases isShort : type = MessagePassing.MessageType.shortMessage.toByte
    · rw [if_pos isShort, Option.bind_eq_some_iff] at read
      obtain ⟨message, parsed, whole⟩ := read
      cases whole
      subst isShort
      rw [misbehaving_short_iff parsed]
      constructor
      · intro misbehaves
        exact .inr ⟨rfl, misbehaves⟩
      · rintro (⟨impossible, _⟩ | ⟨_, misbehaves⟩)
        · exact absurd (Option.some.inj impossible) (by decide)
        · exact misbehaves
    · rw [if_neg isShort] at read
      by_cases isMedium : type = MessagePassing.MessageType.mediumMessage.toByte
      · rw [if_pos isMedium, Option.bind_eq_some_iff] at read
        obtain ⟨message, parsed, whole⟩ := read
        cases whole
        subst isMedium
        rw [misbehaving_medium_iff parsed]
        constructor
        · intro misbehaves
          exact .inl ⟨rfl, misbehaves⟩
        · rintro (⟨_, misbehaves⟩ | ⟨impossible, _⟩)
          · exact misbehaves
          · exact absurd (Option.some.inj impossible) (by decide)
      · rw [if_neg isMedium] at read
        cases read
        refine iff_of_false id ?_
        rintro (⟨same, _⟩ | ⟨same, _⟩)
        · exact isMedium (Option.some.inj same)
        · exact isShort (Option.some.inj same)

/-- A stop message stops, and no other. -/
theorem receiveNext_eq_stop {received : Received}
    (read : MqueueReceiverTraits.receiveNext order buffer = some received) :
    received = .stop ↔ buffer[messageTypePosition]? =
      some MessagePassing.MessageType.stopMessage.toByte := by
  simp only [MqueueReceiverTraits.receiveNext, Option.bind_eq_bind, Option.bind_eq_some_iff] at read
  obtain ⟨type, isType, read⟩ := read
  rw [isType]
  by_cases stopped : type = MessagePassing.MessageType.stopMessage.toByte
  · rw [if_pos stopped] at read
    cases read
    exact iff_of_true rfl (congrArg some stopped)
  · have goesOn : received ≠ .stop := by
      rintro rfl
      rw [if_neg stopped] at read
      split at read
      · obtain ⟨_, _, whole⟩ := Option.bind_eq_some_iff.mp read
        cases whole
      · split at read
        · obtain ⟨_, _, whole⟩ := Option.bind_eq_some_iff.mp read
          cases whole
        · cases read
    exact iff_of_false goesOn fun same => stopped (Option.some.inj same)

end Raw

/-! ## The law of the receiver -/

/-- The raw messages before the first stop message. -/
def rawBeforeStop (buffers : List RawMessageBuffer) : List RawMessageBuffer :=
  buffers.takeWhile fun buffer =>
    buffer[messageTypePosition]? ≠ some MessagePassing.MessageType.stopMessage.toByte

/-- The messages received from buffers misbehave where the buffers do. -/
theorem forall_misbehaving_iff_raw {order : ByteOrder} {buffers : List RawMessageBuffer}
    {received : List Received} (read : List.Forall₂ (fun buffer message =>
      MqueueReceiverTraits.receiveNext order buffer = some message) buffers received) :
    (∀ message ∈ Receiver.beforeStop received, ¬ Misbehaving message) ↔
      ∀ buffer ∈ rawBeforeStop buffers, ¬ MisbehavingRaw order buffer := by
  induction read with
  | nil => simp [Receiver.beforeStop, rawBeforeStop]
  | cons first rest ih =>
      rename_i buffer message buffers received
      have same := misbehaving_iff_raw first
      have stops := receiveNext_eq_stop first
      by_cases stopped : message = .stop
      · have rawStopped := stops.mp stopped
        simp [Receiver.beforeStop, rawBeforeStop, stopped, rawStopped]
      · have rawGoesOn := mt stops.mpr stopped
        have continues : Receiver.beforeStop (message :: received) =
            message :: Receiver.beforeStop received :=
          List.takeWhile_cons_of_pos (by simp [stopped])
        have rawContinues : rawBeforeStop (buffer :: buffers) = buffer :: rawBeforeStop buffers :=
          List.takeWhile_cons_of_pos (by simp [rawGoesOn])
        rw [continues, rawContinues, List.forall_mem_cons, List.forall_mem_cons, same, ih]

/-- The process survives exactly the messages that do not misbehave, whatever the
transport; for raw messages of a queue their bytes decide. -/
theorem receiver_survives {Handler : Type} (order : ByteOrder) {asilBCapability : Bool}
    {asilLevel : QualityType} {receiver : Receiver (NotifyProcess Handler)}
    (registered : registerMessageReceivedCallbacks order asilBCapability asilLevel
      .empty = some receiver) (process : NotifyProcess Handler) :
    (∀ received, Receiver.Survives (receiver.messageLoop received process) ↔
        ∀ message ∈ Receiver.beforeStop received, ¬ Misbehaving message) ∧
      ∀ buffers : List RawMessageBuffer, ∃ received, List.Forall₂ (fun buffer message =>
            MqueueReceiverTraits.receiveNext order buffer = some message)
          buffers received ∧
        (Receiver.Survives (receiver.messageLoop received process) ↔
          ∀ buffer ∈ rawBeforeStop buffers, ¬ MisbehavingRaw order buffer) := by
  have decoded (received : List Received) :
      Receiver.Survives (receiver.messageLoop received process) ↔
        ∀ message ∈ Receiver.beforeStop received, ¬ Misbehaving message :=
    @Receiver.messageLoop_survives _ receiver Misbehaving (fun _ => True)
      (fun received process _ => executeMessageHandler_eq_none registered received process)
      (fun _ _ _ _ _ _ => trivial) received process trivial
  refine ⟨decoded, ?_⟩
  intro buffers
  have read : ∃ received, List.Forall₂ (fun buffer message =>
      MqueueReceiverTraits.receiveNext order buffer = some message)
        buffers received := by
    induction buffers with
    | nil => exact ⟨[], .nil⟩
    | cons buffer rest inductionHypothesis =>
        obtain ⟨message, first⟩ := exists_receiveNext order buffer
        obtain ⟨received, later⟩ := inductionHypothesis
        exact ⟨message :: received, .cons first later⟩
  obtain ⟨received, read⟩ := read
  refine ⟨received, read, ?_⟩
  rw [decoded, forall_misbehaving_iff_raw read]

section Inputs

/-- A process without registrations. -/
def emptyProcess : NotifyProcess Unit where
  controlData _ :=
    { eventUpdateHandlers := fun _ => none
      eventUpdateInterestedNodes := fun _ => none
      eventUpdateRemoteRegistrations := fun _ => none
      curRegistrationNo := 0 }
  senders _ _ := false
  invoked := []

/-- A medium message with the id of a registration, as it is received. -/
def mediumRegistration : RawMessageBuffer :=
  #v[0x43, 1, 7, 0, 0, 0, 0, 0, 0, 0, 0, 0, 0, 0, 0, 0, 0, 0, 0, 0, 0, 0]

/-- A notification of an event is survived. -/
theorem receiver_survives_notification :
    ∃ receiver, registerMessageReceivedCallbacks .littleEndian false .asilQm .empty =
        some receiver ∧
      Receiver.Survives (receiver.messageLoop [.short ⟨3, 7, 0x0001020301⟩] emptyProcess) := by
  have succeeds : ∃ receiver : Receiver (NotifyProcess Unit),
      registerMessageReceivedCallbacks .littleEndian false .asilQm .empty =
        some receiver := ⟨_, rfl⟩
  obtain ⟨receiver, registered⟩ := succeeds
  refine ⟨receiver, registered, ?_⟩
  apply ((receiver_survives .littleEndian registered emptyProcess).1 _).mpr
  intro message member
  rcases List.mem_cons.mp member with same | impossible
  · rw [same]
    rintro ⟨type, _, _, noType⟩
    exact absurd noType (by decide)
  · cases impossible

/-- A medium message with the id of a registered callback ends the process. -/
theorem receiver_ended :
    ¬ ∀ (receiver : Receiver (NotifyProcess Unit)) (buffers : List RawMessageBuffer)
      (received : List Received),
      registerMessageReceivedCallbacks .littleEndian false .asilQm .empty = some receiver →
        List.Forall₂ (fun buffer message =>
            MqueueReceiverTraits.receiveNext .littleEndian buffer = some message)
          buffers received →
        Receiver.Survives (receiver.messageLoop received emptyProcess) := by
  intro law
  have received : MqueueReceiverTraits.receiveNext .littleEndian mediumRegistration =
      some (.medium ⟨1, 7, Vector.replicate 16 0⟩) := by
    decide +kernel
  obtain ⟨handled, process, impossible, _⟩ := law _ [mediumRegistration] _ rfl (.cons received .nil)
  cases impossible

end Inputs

end MwCom.Messages
