/-
Module: MwCom.MessagePassing.Serializer
Purpose: Short and medium messages, their layout in a raw message buffer, and
  what a receiver makes of such a buffer.
Trusted boundary: the transport, which delivers a buffer as it was sent.
Main exports: ShortMessage, MediumMessage, serializeToRawMessage,
  MqueueReceiverTraits.receiveNext, receiveNext_serialize, serialize_injective
-/
import MwCom.Bytes.ByteOrder

namespace MwCom.MessagePassing

open Bytes

/-! ## Messages -/

abbrev MessageId := BitVec 8

abbrev Pid := BitVec 32

/-- The payload is one word. -/
structure ShortMessage where
  id : MessageId
  pid : Pid
  payload : BitVec 64
deriving DecidableEq

/-- The payload is an array of bytes. -/
structure MediumMessage where
  id : MessageId
  pid : Pid
  payload : Vector Byte 16
deriving DecidableEq

/-- The first byte of a raw message. -/
inductive MessageType where
  | stopMessage
  | shortMessage
  | mediumMessage
deriving DecidableEq

def MessageType.toByte : MessageType → Byte
  | .stopMessage => 0x00
  | .shortMessage => 0x42
  | .mediumMessage => 0x43

/-! ## Layout -/

/-- Type, id and pid, and the larger of the two payloads. -/
abbrev maxMessageSize : Nat := 1 + 1 + 4 + 16

abbrev RawMessageBuffer := Buffer maxMessageSize

def messageTypePosition : Nat := 0

def messageIdPosition : Nat := 1

def messagePidPosition : Nat := 2

def messageStartPayload : Nat := messagePidPosition + 4

/-- The payload of a medium message from the bytes copied over it. -/
def mediumPayload (bytes : List Byte) : Vector Byte 16 :=
  Vector.ofFn fun index => (bytes[index.val]?).getD 0

@[simp] theorem mediumPayload_toList (payload : Vector Byte 16) :
    mediumPayload payload.toList = payload := by
  apply Vector.ext
  intro index inside
  simp [mediumPayload]

section Serializer

variable (order : ByteOrder)

def emptyBuffer : RawMessageBuffer := Vector.replicate maxMessageSize 0

/-- Type, id, pid and payload one after the other in an empty buffer.  `none`: a
byte would be written outside of it. -/
def serializeParts (type : MessageType) (id : MessageId) (pid : Pid)
    (payload : List Byte) : Option RawMessageBuffer := do
  let buffer ← emptyBuffer.store messageTypePosition [type.toByte]
  let buffer ← buffer.store messageIdPosition (order.ofWord 1 id)
  let buffer ← buffer.store messagePidPosition (order.ofWord 4 pid)
  buffer.store messageStartPayload payload

def ShortMessage.serializeToRawMessage (message : ShortMessage) : Option RawMessageBuffer :=
  serializeParts order .shortMessage message.id message.pid
    (order.ofWord 8 message.payload)

def MediumMessage.serializeToRawMessage (message : MediumMessage) : Option RawMessageBuffer :=
  serializeParts order .mediumMessage message.id message.pid message.payload.toList

/-- `none`: a byte outside of the buffer would be read. -/
def deserializeToShortMessage (buffer : RawMessageBuffer) : Option ShortMessage := do
  let id ← buffer.load messageIdPosition 1
  let pid ← buffer.load messagePidPosition 4
  let payload ← buffer.load messageStartPayload 8
  pure ⟨order.toWord 1 id, order.toWord 4 pid, order.toWord 8 payload⟩

def deserializeToMediumMessage (buffer : RawMessageBuffer) : Option MediumMessage := do
  let id ← buffer.load messageIdPosition 1
  let pid ← buffer.load messagePidPosition 4
  let payload ← buffer.load messageStartPayload 16
  pure ⟨order.toWord 1 id, order.toWord 4 pid, mediumPayload payload⟩

/-- What a receiver gets. -/
inductive Received where
  | stop
  | short (message : ShortMessage)
  | medium (message : MediumMessage)
  | ignored
deriving DecidableEq

/-- `receive_next` on a received buffer.  `none`: a byte outside of it would be
read. -/
def MqueueReceiverTraits.receiveNext (buffer : RawMessageBuffer) : Option Received := do
  let type ← buffer[messageTypePosition]?
  if type = MessageType.stopMessage.toByte then
    pure .stop
  else if type = MessageType.shortMessage.toByte then
    let message ← deserializeToShortMessage order buffer
    pure (.short message)
  else if type = MessageType.mediumMessage.toByte then
    let message ← deserializeToMediumMessage order buffer
    pure (.medium message)
  else
    -- ignore request from a misbehaving client
    pure .ignored

/-! ## What is in a serialised message -/

/-- Every part is written inside the buffer, and none over another. -/
theorem serializeParts_spec (type : MessageType) (id : MessageId) (pid : Pid)
    {payload : List Byte} (fits : payload.length ≤ 16) :
    ∃ buffer, serializeParts order type id pid payload = some buffer ∧
      buffer[messageTypePosition]? = some type.toByte ∧
      buffer.load messageIdPosition 1 = some (order.ofWord 1 id) ∧
      buffer.load messagePidPosition 4 = some (order.ofWord 4 pid) ∧
      buffer.load messageStartPayload payload.length = some payload := by
  have idLength := order.length_ofWord 1 id
  have pidLength := order.length_ofWord 4 pid
  obtain ⟨first, typeStored⟩ := emptyBuffer.exists_store messageTypePosition
    [type.toByte] (Nat.le_add_left 1 21)
  obtain ⟨second, idStored⟩ := Buffer.exists_store first messageIdPosition
    (order.ofWord 1 id) (by rw [idLength]; decide)
  obtain ⟨third, pidStored⟩ := Buffer.exists_store second messagePidPosition
    (order.ofWord 4 pid) (by rw [pidLength]; decide)
  have payloadFits : messageStartPayload + payload.length ≤ maxMessageSize := by
    simp only [messageStartPayload, messagePidPosition, maxMessageSize]
    omega
  obtain ⟨fourth, payloadStored⟩ := Buffer.exists_store third messageStartPayload
    payload payloadFits
  refine ⟨fourth, ?_, ?_, ?_, ?_, ?_⟩
  · simp [serializeParts, typeStored, idStored, pidStored, payloadStored]
  · rw [← Vector.getElem?_toList, Buffer.getElem?_store payloadStored,
      Buffer.getElem?_store pidStored, Buffer.getElem?_store idStored,
      Buffer.getElem?_store typeStored]
    simp [messageTypePosition, messageIdPosition, messagePidPosition, messageStartPayload]
  · rw [Buffer.load_store_of_disjoint payloadStored (.inl (by decide)),
      Buffer.load_store_of_disjoint pidStored (.inl (by decide))]
    exact Buffer.load_store idStored idLength
  · rw [Buffer.load_store_of_disjoint payloadStored (.inl (by decide))]
    exact Buffer.load_store pidStored pidLength
  · exact Buffer.load_store payloadStored rfl

/-! ## Round trip -/

/-- A message of either kind. -/
abbrev Message := ShortMessage ⊕ MediumMessage

def serializeToRawMessage : Message → Option RawMessageBuffer
  | .inl message => message.serializeToRawMessage order
  | .inr message => message.serializeToRawMessage order

/-- A message as its receiver gets it. -/
def Received.of : Message → Received
  | .inl message => .short message
  | .inr message => .medium message

theorem Received.of_injective : Function.Injective Received.of := by
  intro one two same
  cases one with
  | inl short =>
      cases two with
      | inl other =>
          cases same
          rfl
      | inr other => cases same
  | inr medium =>
      cases two with
      | inl other => cases same
      | inr other =>
          cases same
          rfl

/-- The receiver gets the message that was sent, of the kind it had. -/
theorem receiveNext_serialize (message : Message) :
    ∃ buffer, serializeToRawMessage order message = some buffer ∧
      MqueueReceiverTraits.receiveNext order buffer = some (.of message) := by
  cases message with
  | inl short =>
      have payloadLength := order.length_ofWord 8 short.payload
      obtain ⟨buffer, serialized, type, id, pid, payload⟩ :=
        serializeParts_spec order .shortMessage short.id short.pid
          (by rw [payloadLength]; decide)
      rw [payloadLength] at payload
      refine ⟨buffer, serialized, ?_⟩
      have read : deserializeToShortMessage order buffer = some short := by
        simp [deserializeToShortMessage, id, pid, payload]
      simp [MqueueReceiverTraits.receiveNext, type, read, Received.of, MessageType.toByte]
  | inr medium =>
      have payloadLength := medium.payload.length_toList
      obtain ⟨buffer, serialized, type, id, pid, payload⟩ :=
        serializeParts_spec order .mediumMessage medium.id medium.pid
          (Nat.le_of_eq payloadLength)
      rw [payloadLength] at payload
      refine ⟨buffer, serialized, ?_⟩
      have read : deserializeToMediumMessage order buffer = some medium := by
        simp [deserializeToMediumMessage, id, pid, payload]
      simp [MqueueReceiverTraits.receiveNext, type, read, Received.of, MessageType.toByte]

/-- Messages with the same raw message are the same. -/
theorem serialize_injective : Function.Injective (serializeToRawMessage order) := by
  intro one two same
  obtain ⟨buffer, serialized, received⟩ := receiveNext_serialize order one
  obtain ⟨other, otherSerialized, otherReceived⟩ := receiveNext_serialize order two
  have sameBuffer : buffer = other := by
    rw [serialized, otherSerialized] at same
    exact Option.some.inj same
  rw [sameBuffer, otherReceived] at received
  exact (Received.of_injective (Option.some.inj received)).symm

/-! ## Any buffer -/

theorem exists_deserializeToShortMessage (buffer : RawMessageBuffer) :
    ∃ message, deserializeToShortMessage order buffer = some message := by
  obtain ⟨id, idLoaded⟩ := buffer.exists_load messageIdPosition 1 (by decide)
  obtain ⟨pid, pidLoaded⟩ := buffer.exists_load messagePidPosition 4 (by decide)
  obtain ⟨payload, payloadLoaded⟩ := buffer.exists_load messageStartPayload 8 (by decide)
  simp [deserializeToShortMessage, idLoaded, pidLoaded, payloadLoaded]

theorem exists_deserializeToMediumMessage (buffer : RawMessageBuffer) :
    ∃ message, deserializeToMediumMessage order buffer = some message := by
  obtain ⟨id, idLoaded⟩ := buffer.exists_load messageIdPosition 1 (by decide)
  obtain ⟨pid, pidLoaded⟩ := buffer.exists_load messagePidPosition 4 (by decide)
  obtain ⟨payload, payloadLoaded⟩ := buffer.exists_load messageStartPayload 16 (by decide)
  simp [deserializeToMediumMessage, idLoaded, pidLoaded, payloadLoaded]

/-- Whatever a buffer contains, it is read inside its bounds. -/
theorem exists_receiveNext (buffer : RawMessageBuffer) :
    ∃ received, MqueueReceiverTraits.receiveNext order buffer = some received := by
  obtain ⟨short, isShort⟩ := exists_deserializeToShortMessage order buffer
  obtain ⟨medium, isMedium⟩ := exists_deserializeToMediumMessage order buffer
  have inside : messageTypePosition < maxMessageSize := by decide
  rw [MqueueReceiverTraits.receiveNext, Vector.getElem?_eq_getElem inside, isShort, isMedium]
  simp only [Option.bind_eq_bind, Option.bind_some, Option.pure_def]
  split
  · exact ⟨_, rfl⟩
  · split
    · exact ⟨_, rfl⟩
    · split
      · exact ⟨_, rfl⟩
      · exact ⟨_, rfl⟩

end Serializer

end MwCom.MessagePassing
