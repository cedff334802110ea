/-
Module: MwCom.Messages.ElementFqIdMessage
Purpose: The messages about events and nodes, how they are packed into short
  messages, and that they survive the way to their receiver.
Trusted boundary: the transport, which delivers a buffer as it was sent.
Main exports: ElementFqId, ElementFqIdMessage, OutdatedNodeIdMessage,
  shortMsgPayloadToElementFqId_encode, messageCodec_roundTrip
-/
import MwCom.MessagePassing.Serializer

namespace MwCom.Messages

open Bytes MessagePassing

/-! ## Elements -/

inductive ElementType where
  | invalid
  | event
  | field
deriving DecidableEq

namespace ElementType

def toByte : ElementType → BitVec 8
  | .invalid => 0
  | .event => 1
  | .field => 2

/-- `none`: the constructor of `ElementFqId` ends the process. -/
def ofByte? (elementType : BitVec 8) : Option ElementType :=
  if field.toByte < elementType then
    none
  else if elementType = invalid.toByte then
    some .invalid
  else if elementType = event.toByte then
    some .event
  else
    some .field

@[simp] theorem ofByte?_toByte (type : ElementType) : ofByte? type.toByte = some type := by
  cases type with
  | invalid => rfl
  | event => rfl
  | field => rfl

/-- Every byte above the last element type ends the process, and no other. -/
theorem ofByte?_eq_none {elementType : BitVec 8} :
    ofByte? elementType = none ↔ field.toByte < elementType := by
  rw [ofByte?]
  split
  · rename_i above
    exact iff_of_true rfl above
  · rename_i known
    refine iff_of_false ?_ known
    split
    · intro impossible
      cases impossible
    · split
      · intro impossible
        cases impossible
      · intro impossible
        cases impossible

end ElementType

/-- An event or field of a service instance. -/
structure ElementFqId where
  serviceId : BitVec 16
  elementId : BitVec 8
  instanceId : BitVec 16
  elementType : ElementType
deriving DecidableEq

/-! ## Payload -/

def kElementIdSize : Nat := 8

def kInstanceIdSize : Nat := 16

def kElementTypeSize : Nat := 8

def k8BitMask : BitVec 64 := 0xFF

def k16BitMask : BitVec 64 := 0xFFFF

/-- `none`: the process ends in the constructor of `ElementFqId`. -/
def shortMsgPayloadToElementFqId (payload : BitVec 64) : Option ElementFqId := do
  let elementType ← ElementType.ofByte? ((payload &&& k8BitMask).setWidth 8)
  pure
    { serviceId :=
        (payload >>> (kElementTypeSize + kInstanceIdSize + kElementIdSize)).setWidth 16
      elementId := ((payload >>> (kElementTypeSize + kInstanceIdSize)) &&& k8BitMask).setWidth 8
      instanceId := ((payload >>> kElementTypeSize) &&& k16BitMask).setWidth 16
      elementType }

def elementFqIdToShortMsgPayload (element : ElementFqId) : BitVec 64 :=
  (element.serviceId.setWidth 64 <<< (kElementTypeSize + kInstanceIdSize + kElementIdSize)) |||
    (element.elementId.setWidth 64 <<< (kElementTypeSize + kInstanceIdSize)) |||
    (element.instanceId.setWidth 64 <<< kElementTypeSize) |||
    element.elementType.toByte.setWidth 64

section Fields

variable (service : BitVec 16) (element : BitVec 8) (inst : BitVec 16)
  (type : BitVec 8)

/-- The four fields side by side. -/
def packed : BitVec 64 := (service.setWidth 64 <<< 32) ||| (element.setWidth 64 <<< 24) |||
    (inst.setWidth 64 <<< 8) ||| type.setWidth 64

/-- A mask of as many bits as are kept does nothing. -/
theorem setWidth_and_mask {width : Nat} (word mask : BitVec 64)
    (whole : mask.setWidth width = BitVec.allOnes width) :
    (word &&& mask).setWidth width = word.setWidth width := by
  rw [BitVec.setWidth_and, whole, BitVec.and_allOnes]

theorem packed_service : (packed service element inst type >>> 32).setWidth 16 = service := by
  apply BitVec.eq_of_getLsbD_eq
  intro index inside
  have elementBelow := element.getLsbD_of_ge (32 + index - 24) (by omega)
  have instBelow := inst.getLsbD_of_ge (32 + index - 8) (by omega)
  have typeBelow := type.getLsbD_of_ge (32 + index) (by omega)
  have here : 32 + index < 64 := by omega
  simp [packed, inside, elementBelow, instBelow, typeBelow, here]

theorem packed_element : (packed service element inst type >>> 24).setWidth 8 = element := by
  apply BitVec.eq_of_getLsbD_eq
  intro index inside
  have instBelow := inst.getLsbD_of_ge (24 + index - 8) (by omega)
  have typeBelow := type.getLsbD_of_ge (24 + index) (by omega)
  have serviceAbove : 24 + index < 32 := by omega
  have here : 24 + index < 64 := by omega
  have small : index < 64 := by omega
  simp [packed, inside, instBelow, typeBelow, serviceAbove, here, small]

theorem packed_inst : (packed service element inst type >>> 8).setWidth 16 = inst := by
  apply BitVec.eq_of_getLsbD_eq
  intro index inside
  have elementAbove : 8 + index < 24 := by omega
  have serviceAbove : 8 + index < 32 := by omega
  have here : 8 + index < 64 := by omega
  have small : index < 64 := by omega
  simp [packed, inside, elementAbove, serviceAbove, here, small]

theorem packed_type : (packed service element inst type).setWidth 8 = type := by
  apply BitVec.eq_of_getLsbD_eq
  intro index inside
  simp [packed, inside]

end Fields

/-- An element survives the payload. -/
@[simp] theorem shortMsgPayloadToElementFqId_encode (element : ElementFqId) :
    shortMsgPayloadToElementFqId (elementFqIdToShortMsgPayload element) = some element := by
  have payload : elementFqIdToShortMsgPayload element =
      packed element.serviceId element.elementId element.instanceId
        element.elementType.toByte := rfl
  have elementMask := @setWidth_and_mask 8
    (packed element.serviceId element.elementId element.instanceId
      element.elementType.toByte >>> 24) k8BitMask (by decide)
  have instMask := @setWidth_and_mask 16
    (packed element.serviceId element.elementId element.instanceId
      element.elementType.toByte >>> 8) k16BitMask (by decide)
  have typeMask := @setWidth_and_mask 8
    (packed element.serviceId element.elementId element.instanceId
      element.elementType.toByte) k8BitMask (by decide)
  rw [packed_element] at elementMask
  rw [packed_inst] at instMask
  rw [packed_type] at typeMask
  rw [shortMsgPayloadToElementFqId, payload, typeMask, ElementType.ofByte?_toByte]
  simp only [kElementTypeSize, kInstanceIdSize, kElementIdSize, Nat.reduceAdd,
    packed_service, elementMask, instMask, Option.bind_eq_bind, Option.bind_some, Option.pure_def]

/-! ## Messages -/

/-- The messages between processes. -/
inductive MessageType where
  | registerEventNotifier
  | unregisterEventNotifier
  | notifyEvent
  | outdatedNodeId
deriving DecidableEq

def MessageType.toMessageId : MessageType → MessageId
  | .registerEventNotifier => 1
  | .unregisterEventNotifier => 2
  | .notifyEvent => 3
  | .outdatedNodeId => 4

/-- A message about an element. -/
structure ElementFqIdMessage (id : MessageType) where
  elementFqId : ElementFqId
  senderNodeId : Pid
deriving DecidableEq

abbrev RegisterEventNotificationMessage := ElementFqIdMessage .registerEventNotifier

abbrev UnregisterEventNotificationMessage := ElementFqIdMessage .unregisterEventNotifier

abbrev NotifyEventUpdateMessage := ElementFqIdMessage .notifyEvent

namespace ElementFqIdMessage

variable {id : MessageType}

def serializeToShortMessage (message : ElementFqIdMessage id) : ShortMessage where
  id := id.toMessageId
  pid := message.senderNodeId
  payload := elementFqIdToShortMsgPayload message.elementFqId

/-- `none`: the process ends in the constructor of `ElementFqId`. -/
def deserializeToElementFqIdMessage (id : MessageType) (messagePayload : BitVec 64)
    (senderNodeId : Pid) : Option (ElementFqIdMessage id) := do
  let elementFqId ← shortMsgPayloadToElementFqId messagePayload
  pure { elementFqId, senderNodeId }

@[simp] theorem deserialize_serialize (message : ElementFqIdMessage id) :
    deserializeToElementFqIdMessage id message.serializeToShortMessage.payload
      message.serializeToShortMessage.pid = some message := by
  simp [deserializeToElementFqIdMessage, serializeToShortMessage]

end ElementFqIdMessage

/-- The message that a node is no longer there. -/
structure OutdatedNodeIdMessage where
  pidToUnregister : Pid
  senderNodeId : Pid
deriving DecidableEq

namespace OutdatedNodeIdMessage

variable (order : ByteOrder)

/-- The pid is copied over the first bytes of an empty payload. -/
def serializeToShortMessage (message : OutdatedNodeIdMessage) : ShortMessage where
  id := MessageType.outdatedNodeId.toMessageId
  pid := message.senderNodeId
  payload := order.toWord 8
    (order.ofWord 4 message.pidToUnregister ++ (order.ofWord 8 0).drop 4)

def deserializeToOutdatedNodeIdMessage (messagePayload : BitVec 64)
    (senderNodeId : Pid) : OutdatedNodeIdMessage where
  pidToUnregister := order.toWord 4 ((order.ofWord 8 messagePayload).take 4)
  senderNodeId := senderNodeId

@[simp] theorem deserialize_serialize (message : OutdatedNodeIdMessage) :
    deserializeToOutdatedNodeIdMessage order
      (message.serializeToShortMessage order).payload
      (message.serializeToShortMessage order).pid = message := by
  have whole : (order.ofWord 4 message.pidToUnregister ++
      (order.ofWord 8 0).drop 4).length = 8 := by
    rw [List.length_append, List.length_drop, ByteOrder.length_ofWord, ByteOrder.length_ofWord]
  have first := order.length_ofWord 4 message.pidToUnregister
  simp only [deserializeToOutdatedNodeIdMessage, serializeToShortMessage, order.ofWord_toWord whole]
  rw [List.take_left' first, ByteOrder.toWord_ofWord]

end OutdatedNodeIdMessage

/-! ## Round trip -/

/-- Messages arrive as they were sent, whatever they are: through the short
message, through the raw message and back, inside the buffer all the way. -/
theorem messageCodec_roundTrip (order : ByteOrder) :
    (∀ (type : MessageType) (message : ElementFqIdMessage type), ∃ buffer short,
        message.serializeToShortMessage.serializeToRawMessage order = some buffer ∧
          MqueueReceiverTraits.receiveNext order buffer = some (.short short) ∧
          short.id = type.toMessageId ∧ short.pid = message.senderNodeId ∧
          ElementFqIdMessage.deserializeToElementFqIdMessage type short.payload
            short.pid = some message) ∧
      (∀ message : MessagePassing.Message, ∃ buffer,
        serializeToRawMessage order message = some buffer ∧
          MqueueReceiverTraits.receiveNext order buffer = some (.of message)) ∧
      Function.Injective (serializeToRawMessage order) ∧
      ∀ buffer : RawMessageBuffer, (MqueueReceiverTraits.receiveNext order buffer).isSome ∧
          (deserializeToShortMessage order buffer).isSome ∧
          (deserializeToMediumMessage order buffer).isSome := by
  refine ⟨?_, receiveNext_serialize order, serialize_injective order, ?_⟩
  · intro type message
    obtain ⟨buffer, serialized, received⟩ := receiveNext_serialize order
      (.inl message.serializeToShortMessage)
    exact ⟨buffer, message.serializeToShortMessage, serialized, received, rfl, rfl,
      message.deserialize_serialize⟩
  · intro buffer
    obtain ⟨received, isReceived⟩ := exists_receiveNext order buffer
    obtain ⟨short, isShort⟩ := exists_deserializeToShortMessage order buffer
    obtain ⟨medium, isMedium⟩ := exists_deserializeToMediumMessage order buffer
    rw [isReceived, isShort, isMedium]
    exact ⟨rfl, rfl, rfl⟩

end MwCom.Messages
