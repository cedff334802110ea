/-
Module: MwCom.Lola.SkeletonEvent
Purpose: An event of a skeleton on its shared memory: offering it, allocating,
  sending and discarding samples, and the runs of a provider that may crash
  anywhere and offer the event again, on the shared memory that is there or on
  memory created anew.
Trusted boundary: what was published and which messages a call sent
  (`published`, `sentInQm`, `notifiedQm`) is bookkeeping of this module; samples of
  shared memory that was removed are not followed.
Main exports: SkeletonEvent, SkeletonEvent.send, SkeletonEvent.allocate,
  SkeletonEvent.prepareOffer, Provider, ConsumerStep, skeletonSystem
-/
import Mathlib.Data.Fintype.Pi
import MwCom.Interleaving.System
import MwCom.Lola.EventDataControlComposite
import MwCom.Lola.SlotProtocol

namespace MwCom.Lola

open Interleaving SkeletonProgram

variable {slots : Nat} {LogIndex : Type}

/-- A sample the user may fill: its slot, and a copy of the composite. -/
structure SampleAllocateePtr (slots : Nat) where
  eventSlotIndex : Fin slots
  eventDataControl : EventDataControlComposite
deriving DecidableEq

/-- The members of a skeleton event. -/
structure SkeletonEvent where
  eventDataControlComposite : Option EventDataControlComposite
  currentTimestamp : EventTimeStamp
  qmDisconnect : Bool
deriving DecidableEq

namespace SkeletonEvent

/-- A new event, not offered yet. -/
def new : SkeletonEvent where
  eventDataControlComposite := none
  currentTimestamp := 1
  qmDisconnect := false

/-- What the skeleton does on the shared memory it opens again. -/
def cleanupSharedMemoryAfterCrash (asilB : Bool) : SkeletonProgram slots LogIndex Unit := do
  onControl .asilQm EventDataControl.removeAllocationsForWriting
  onlyIf asilB (onControl .asilB EventDataControl.removeAllocationsForWriting)

section Calls

variable (event : SkeletonEvent)

/-- Offer the event on the shared memory that is there.  `asilB` is the quality
of the service instance. -/
def prepareOffer (asilB : Bool) : SkeletonProgram slots LogIndex SkeletonEvent := do
  cleanupSharedMemoryAfterCrash asilB
  let composite := EventDataControlComposite.new asilB
  let currentTimestamp ← composite.getLatestTimestamp
  pure
    { event with
      eventDataControlComposite := some composite
      currentTimestamp := currentTimestamp }

/-- `PrepareOffer` on memory that the skeleton has just created. -/
def prepareOfferOnNewMemory (asilB : Bool) : SkeletonProgram slots LogIndex SkeletonEvent := do
  let composite := EventDataControlComposite.new asilB
  let currentTimestamp ← composite.getLatestTimestamp
  pure
    { event with
      eventDataControlComposite := some composite
      currentTimestamp := currentTimestamp }

/-- A slot with the event as the call leaves it. -/
def allocate : SkeletonProgram slots LogIndex
      (SkeletonEvent × Option (SampleAllocateePtr slots)) :=
  match event.eventDataControlComposite with
  | none => pure (event, none)
  | some composite => do
      let (composite, slot, ignored) ← composite.allocateNextSlot
      onlyIf (!event.qmDisconnect && ignored) disconnectQmConsumers
      pure
        ({ event with
           eventDataControlComposite := some composite
           qmDisconnect := event.qmDisconnect || ignored },
          slot.map fun slotIndex =>
            { eventSlotIndex := slotIndex, eventDataControl := composite })

/-- The sample is destroyed at the end of the call. -/
def send (asilB : Bool) (sample : SampleAllocateePtr slots) :
    SkeletonProgram slots LogIndex SkeletonEvent :=
  match event.eventDataControlComposite with
  -- an empty optional is dereferenced
  | none => onControl .asilQm ControlProgram.terminate
  | some composite => do
      let currentTimestamp := event.currentTimestamp + 1
      composite.eventReady sample.eventSlotIndex currentTimestamp
      onlyIf (!event.qmDisconnect) (notifyEvent .asilQm)
      onlyIf asilB (notifyEvent .asilB)
      sample.eventDataControl.discard sample.eventSlotIndex
      pure { event with currentTimestamp := currentTimestamp }

end Calls

end SkeletonEvent

/-! ## The provider -/

/-- A provider process with its event and the samples its user holds, and what
was published on the event since its shared memory was created. -/
structure Provider (slots : Nat) where
  event : SkeletonEvent
  allocatees : List (SampleAllocateePtr slots)
  offered : Bool
  published : List EventTimeStamp
  sentInQm : Bool
  notifiedQm : Bool

namespace Provider

/-- A process that was just started. -/
def start (published : List EventTimeStamp) : Provider slots where
  event := .new
  allocatees := []
  offered := false
  published := published
  sentInQm := false
  notifiedQm := false

end Provider

/-- What the user and the skeleton call. -/
inductive SkeletonCall (slots : Nat) where
  | prepareOffer
  | prepareStopOffer
  | allocate
  | send (sample : SampleAllocateePtr slots)
  | discard (sample : SampleAllocateePtr slots)
deriving DecidableEq

/-- The event after a call, and the sample it allocated. -/
structure SkeletonReply (slots : Nat) where
  event : SkeletonEvent
  allocated : Option (SampleAllocateePtr slots)

namespace SkeletonCall

/-- Samples are sent and discarded by who holds them. -/
def allowed (provider : Provider slots) : SkeletonCall slots → Bool
  | .send sample => provider.allocatees.contains sample
  | .discard sample => provider.allocatees.contains sample
  | _ => true

/-- The program behind a call. -/
def code (asilB : Bool) (event : SkeletonEvent) :
    SkeletonCall slots → SkeletonProgram slots LogIndex (SkeletonReply slots)
  | .prepareOffer => do
      if ← recreateUnused then
        pure ⟨← event.prepareOfferOnNewMemory asilB, none⟩
      else
        pure ⟨← event.prepareOffer asilB, none⟩
  | .prepareStopOffer => pure ⟨event, none⟩
  | .allocate => do
      let (event, allocated) ← event.allocate
      pure ⟨event, allocated⟩
  | .send sample => do pure ⟨← event.send asilB sample, none⟩
  | .discard sample => do
      sample.eventDataControl.discard sample.eventSlotIndex
      pure ⟨event, none⟩

end SkeletonCall

namespace Provider

/-- A sample leaves the hands of the user when the call starts. -/
def onCall (provider : Provider slots) : SkeletonCall slots → Provider slots
  | .send sample =>
      { provider with
        allocatees := provider.allocatees.erase sample
        sentInQm := false
        notifiedQm := false }
  | .discard sample =>
      { provider with allocatees := provider.allocatees.erase sample }
  | _ => provider

/-- The control whose timestamps the event continues from. -/
def publishedControl (asilB : Bool) : QualityType := if asilB then .asilB else .asilQm

/-- Where there are two controls the store to the ASIL-B control comes first and
publishes the sample. -/
def observe (asilB : Bool) (provider : Provider slots) :
    (op : SkeletonOp slots LogIndex) → op.Ret → Provider slots
  | .recreateUnused, true => { provider with allocatees := [], published := [] }
  | .eventReady quality _ timeStamp, _ =>
      { provider with
        published :=
          if quality = publishedControl asilB then
            timeStamp :: provider.published
          else
            provider.published
        sentInQm := provider.sentInQm || quality == .asilQm }
  | .notifyEvent quality, _ =>
      { provider with notifiedQm := provider.notifiedQm || quality == .asilQm }
  | _, _ => provider

def onReturn (provider : Provider slots) (call : SkeletonCall slots)
    (reply : SkeletonReply slots) : Provider slots :=
  { provider with
    event := reply.event
    allocatees := reply.allocated.toList ++ provider.allocatees
    offered :=
      match call with
      | .prepareOffer => true
      | .prepareStopOffer => false
      | _ => provider.offered }

/-- The next process starts without samples; what was published stays. -/
def onCrash (provider : Provider slots) : Provider slots := .start provider.published

end Provider

/-! ## The consumers

From the side of the provider they only count: on each slot a consumer takes a
reference or gives one back, whatever it does to its own records. -/

/-- One consumer on one slot: its status word, and the references held. -/
def ReferenceStep (word : StatusWord) (references : Nat) (wordAfter : StatusWord)
    (referencesAfter : Nat) : Prop :=
  (word ≠ EventSlotStatus.invalid ∧ word ≠ EventSlotStatus.inWriting ∧
      references + 1 < 2 ^ 32 - 1 ∧ wordAfter = word + 1 ∧ referencesAfter = references + 1) ∨
    (0 < references ∧ wordAfter = word - 1 ∧ referencesAfter + 1 = references)

/-- A move of the consumers. -/
def ConsumerStep (before after : SkeletonMemory slots LogIndex) : Prop := ∀ quality slot,
    (after.status quality slot = before.status quality slot ∧
        after.references quality slot = before.references quality slot) ∨
      ReferenceStep (before.status quality slot).data
        (before.references quality slot) (after.status quality slot).data
        (after.references quality slot)

section System

variable (slots LogIndex) [DecidableEq LogIndex] (ampChecked asilB : Bool)

/-- One provider, its consumers in the background. -/
def skeletonSystem : System Unit (SkeletonOp slots LogIndex) SkeletonOp.Ret
      (SkeletonMemory slots LogIndex) (Provider slots) (SkeletonCall slots)
      (SkeletonReply slots) where
  outcomes := SkeletonOp.outcomes ampChecked
  mayCall _ provider call := SkeletonCall.allowed provider call = true
  code _ provider call := call.code asilB provider.event
  onCall _ _ provider call := provider.onCall call
  observe _ _ provider op answer := provider.observe asilB op answer
  onReturn _ _ provider call reply := provider.onReturn call reply
  onCrash _ _ provider := some provider.onCrash
  environment := ConsumerStep

end System

/-- A state of `skeletonSystem`. -/
abbrev SkeletonConfig (slots : Nat) (LogIndex : Type) :=
  Config Unit (SkeletonOp slots LogIndex) SkeletonOp.Ret
    (SkeletonMemory slots LogIndex) (Provider slots) (SkeletonCall slots)
    (SkeletonReply slots)

/-- An event of `skeletonSystem`. -/
abbrev SkeletonSystemEvent (slots : Nat) (LogIndex : Type) :=
  Event Unit (SkeletonOp slots LogIndex) SkeletonOp.Ret (SkeletonCall slots)
    (SkeletonReply slots)

/-- The shared memory was created, the event is offered on it next. -/
def skeletonStart : SkeletonConfig slots LogIndex where
  memory := .new
  object := fun _ => .start []
  activity := fun _ => .idle

section Instances

variable [DecidableEq LogIndex] {ampChecked asilB : Bool}

instance (thread : Unit) (provider : Provider slots) (call : SkeletonCall slots) :
    Decidable ((skeletonSystem slots LogIndex ampChecked asilB).mayCall thread provider call) :=
  inferInstanceAs (Decidable (_ = true))

instance (word wordAfter : StatusWord) (references referencesAfter : Nat) :
    Decidable (ReferenceStep word references wordAfter referencesAfter) :=
  inferInstanceAs (Decidable (_ ∨ _))

instance (before after : SkeletonMemory slots LogIndex) :
    Decidable ((skeletonSystem slots LogIndex ampChecked asilB).environment before after) :=
  inferInstanceAs (Decidable (∀ _ _, _ ∨ _))

end Instances

/-- The provider makes one call, whose operations all have their first
outcome; an offer opens the shared memory that is there. -/
def providerCall (call : SkeletonCall slots) (operations : Nat) :
    List (Choice Unit (SkeletonMemory slots Empty) (SkeletonCall slots)) :=
  List.flatten
    [[.call () call], List.replicate operations (.perform () 0), [.finish ()]]

end MwCom.Lola
