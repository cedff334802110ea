/-
Module: MwCom.Lola.FieldValue
Purpose: A field of a skeleton over its offers, on shared memory that is created anew or
  reopened, and the value that its newest sample carries.
Trusted boundary: what the user puts into a sample is written when it hands the sample over;
  shared memory that a stop-offer removes is not touched before the next offer creates it
  anew; `lastUpdated` and `hasJustOffered` are bookkeeping of this module.
Main exports: FieldOp, FieldMemory, FieldWriter, FieldWriter.offerService,
  FieldWriter.update, fieldSystem, FieldValueLaw, offersKeptValue, fieldValueLaw_of_reached,
  fieldValueLaw_violated
-/
import MwCom.Lola.WriterExclusivity

namespace MwCom.Lola

open Interleaving SkeletonProgram Provider EventSlotStatus
open Program (Ensures)

variable {slots : Nat} {LogIndex Value : Type}

/-! ## The memory of a field -/

/-- The indivisible operations of a field: those of its event, creating the shared memory,
and writing to a data slot. -/
inductive FieldOp (slots : Nat) (LogIndex Value : Type) where
  | skeleton (op : SkeletonOp slots LogIndex)
  | createSharedMemory
  | write (slot : Fin slots) (value : Value)

def FieldOp.Ret : FieldOp slots LogIndex Value → Type
  | .skeleton op => op.Ret
  | .createSharedMemory => Unit
  | .write _ _ => Unit

/-- The controls of the event, and its data slots. -/
structure FieldMemory (slots : Nat) (LogIndex Value : Type) where
  writer : WriterMemory slots LogIndex
  values : Fin slots → Option Value

/-- Programs of a field. -/
abbrev FieldProgram (slots : Nat) (LogIndex Value α : Type) :=
  Program (FieldOp slots LogIndex Value) FieldOp.Ret α

namespace FieldProgram

variable {α : Type}

/-- A program of the event of the field. -/
def onEvent (program : SkeletonProgram slots LogIndex α) : FieldProgram slots LogIndex Value α :=
  program.lift FieldOp.skeleton fun _ answer => answer

def createSharedMemory : FieldProgram slots LogIndex Value Unit :=
  .perform FieldOp.createSharedMemory

def write (slot : Fin slots) (value : Value) : FieldProgram slots LogIndex Value Unit :=
  .perform (FieldOp.write slot value)

end FieldProgram

open FieldProgram

/-! ## The field -/

/-- Whether a proxy uses the shared memory when the service is offered. -/
inductive SharedMemoryPath where
  | created
  | reopened
deriving DecidableEq, Repr

/-- What an offer fails at, besides the field. -/
inductive OfferFailure where
  | sharedMemory
  | earlierElement
  | laterElement
  | serviceDiscovery
deriving DecidableEq, Repr

/-- A field with its event, the samples that its user holds, and the value of the last
`Update` that returned success. -/
structure FieldWriter (slots : Nat) (Value : Type) where
  event : SkeletonEvent
  serviceOfferedFlag : Bool
  wasPrepareOfferCalled : Bool
  initialFieldValue : Option Value
  isServiceOffered : Bool
  allocatees : List (SampleAllocateePtr slots)
  lastUpdated : Option Value
  hasJustOffered : Bool

/-- What the user calls.  An offer may fail before it comes to the field or after. -/
inductive FieldCall (slots : Nat) (Value : Type) where
  | update (value : Value)
  | allocate
  | updateAllocated (sample : SampleAllocateePtr slots) (value : Value)
  | discard (sample : SampleAllocateePtr slots)
  | offerService (sharedMemory : SharedMemoryPath) (failure : Option OfferFailure)
  | stopOfferService
deriving DecidableEq

namespace FieldWriter

def start : FieldWriter slots Value where
  event := .new
  serviceOfferedFlag := false
  wasPrepareOfferCalled := false
  initialFieldValue := none
  isServiceOffered := false
  allocatees := []
  lastUpdated := none
  hasJustOffered := false

/-- Only samples that are held can be sent or dropped. -/
def holds (field : FieldWriter slots Value) : FieldCall slots Value → Bool
  | .updateAllocated sample _ => field.allocatees.contains sample
  | .discard sample => field.allocatees.contains sample
  | _ => true

section Calls

variable (asilB : Bool) (field : FieldWriter slots Value)

/-- `Send` with a copy, and whether it succeeds. -/
def sendCopy (value : Value) : FieldProgram slots LogIndex Value (Bool × FieldWriter slots Value) :=
  if field.serviceOfferedFlag then do
    let (event, allocated) ← onEvent field.event.allocate
    match allocated with
    | none => pure (false, { field with event := event })
    | some sample => do
        write sample.eventSlotIndex value
        let event ← onEvent (event.send asilB sample)
        pure (true, { field with event := event })
  else
    pure (false, field)

def update (value : Value) : FieldProgram slots LogIndex Value (FieldWriter slots Value) :=
  if field.wasPrepareOfferCalled then do
    let (isSent, field) ← field.sendCopy asilB value
    pure { field with lastUpdated := if isSent then some value else field.lastUpdated }
  else
    pure { field with initialFieldValue := some value, lastUpdated := some value }

/-- The user fills the sample with `value` and hands it over. -/
def updateAllocated (sample : SampleAllocateePtr slots) (value : Value) :
    FieldProgram slots LogIndex Value (FieldWriter slots Value) := do
  write sample.eventSlotIndex value
  let event ← onEvent (field.event.send asilB sample)
  pure
    { field with
      event := event
      allocatees := field.allocatees.erase sample
      lastUpdated := some value }

def allocate : FieldProgram slots LogIndex Value (FieldWriter slots Value) :=
  if field.wasPrepareOfferCalled && field.serviceOfferedFlag then do
    let (event, allocated) ← onEvent field.event.allocate
    pure
      { field with
        event := event
        allocatees := allocated.toList ++ field.allocatees }
  else
    pure field

def discard (sample : SampleAllocateePtr slots) :
    FieldProgram slots LogIndex Value (FieldWriter slots Value) := do
  onEvent (sample.eventDataControl.discard sample.eventSlotIndex)
  pure { field with allocatees := field.allocatees.erase sample }

/-- The event of the field is offered on the shared memory that is there. -/
def prepareOfferEvent : FieldProgram slots LogIndex Value (FieldWriter slots Value) := do
  let composite := EventDataControlComposite.new asilB
  let currentTimestamp ← onEvent composite.getLatestTimestamp
  pure
    { field with
      event :=
        { field.event with
          eventDataControlComposite := some composite
          currentTimestamp := currentTimestamp }
      serviceOfferedFlag := true }

/-- The initial value is deleted once it was sent. -/
def doDeferredUpdate (initialValue : Value) :
    FieldProgram slots LogIndex Value (Bool × FieldWriter slots Value) := do
  let (isSent, field) ← field.sendCopy asilB initialValue
  if isSent then
    pure (true, { field with initialFieldValue := none })
  else
    pure (false, field)

def prepareOffer : FieldProgram slots LogIndex Value (Bool × FieldWriter slots Value) :=
  if field.wasPrepareOfferCalled then do
    pure (true, ← field.prepareOfferEvent asilB)
  else
    match field.initialFieldValue with
    | none => pure (false, field)
    | some initialValue => do
        let field ← field.prepareOfferEvent asilB
        let (isUpdated, field) ← field.doDeferredUpdate asilB initialValue
        pure (isUpdated, { field with wasPrepareOfferCalled := isUpdated })

/-- `PrepareOffer` of the binding: shared memory that no proxy uses is created anew. -/
def prepareSharedMemory (sharedMemory : SharedMemoryPath) (failure : Option OfferFailure) :
    FieldProgram slots LogIndex Value Unit :=
  match sharedMemory with
  | .created => FieldProgram.createSharedMemory
  | .reopened =>
      if failure = some .sharedMemory then
        pure ()
      else
        onEvent (SkeletonEvent.cleanupSharedMemoryAfterCrash asilB)

def offerService (sharedMemory : SharedMemoryPath) (failure : Option OfferFailure) :
    FieldProgram slots LogIndex Value (FieldWriter slots Value) := do
  prepareSharedMemory asilB sharedMemory failure
  if failure = some .sharedMemory ∨ failure = some .earlierElement then
    pure field
  else do
    let (isPrepared, field) ← field.prepareOffer asilB
    if isPrepared = false ∨ failure = some .laterElement then
      pure field
    else
      pure { field with isServiceOffered := true, hasJustOffered := failure.isNone }

def stopOfferService : FieldWriter slots Value :=
  if field.isServiceOffered then
    { field with serviceOfferedFlag := false, isServiceOffered := false }
  else
    field

def code (call : FieldCall slots Value) :
    FieldProgram slots LogIndex Value (FieldWriter slots Value) :=
  let field := { field with hasJustOffered := false }
  match call with
  | .update value => field.update asilB value
  | .allocate => field.allocate
  | .updateAllocated sample value => field.updateAllocated asilB sample value
  | .discard sample => field.discard sample
  | .offerService sharedMemory failure => field.offerService asilB sharedMemory failure
  | .stopOfferService => pure field.stopOfferService

end Calls

/-- The field as the user of its event. -/
def writer (field : FieldWriter slots Value) : EventWriter slots where
  event := field.event
  serviceOfferedFlag := field.serviceOfferedFlag
  allocatees := field.allocatees

end FieldWriter

section System

variable (slots LogIndex Value) [DecidableEq LogIndex] (ampChecked asilB : Bool)

def fieldOutcomes : (op : FieldOp slots LogIndex Value) → FieldMemory slots LogIndex Value →
    List (op.Ret × FieldMemory slots LogIndex Value)
  | .skeleton op, memory =>
      (writerOutcomes slots LogIndex ampChecked op memory.writer).map fun outcome =>
        (outcome.1, { memory with writer := outcome.2 })
  | .createSharedMemory, _ => [((), ⟨⟨.new, false⟩, fun _ => none⟩)]
  | .write slot value, memory =>
      [((), { memory with values := Function.update memory.values slot (some value) })]

/-- Consumers move, and do not write to the data slots. -/
def fieldEnvironment (before after : FieldMemory slots LogIndex Value) : Prop :=
  writerEnvironment slots LogIndex before.writer after.writer ∧ after.values = before.values

abbrev fieldSystem :
    System Unit (FieldOp slots LogIndex Value) FieldOp.Ret (FieldMemory slots LogIndex Value)
      (FieldWriter slots Value) (FieldCall slots Value) (FieldWriter slots Value) :=
  serialSystem (fieldOutcomes slots LogIndex Value ampChecked)
    (fun field call => field.holds call = true) (FieldWriter.code asilB)
    (fieldEnvironment slots LogIndex Value)

end System

abbrev FieldConfig (slots : Nat) (LogIndex Value : Type) :=
  Config Unit (FieldOp slots LogIndex Value) FieldOp.Ret (FieldMemory slots LogIndex Value)
    (FieldWriter slots Value) (FieldCall slots Value) (FieldWriter slots Value)

abbrev FieldEvent (slots : Nat) (LogIndex Value : Type) :=
  Event Unit (FieldOp slots LogIndex Value) FieldOp.Ret (FieldCall slots Value)
    (FieldWriter slots Value)

/-- A skeleton was constructed; an earlier provider may have left shared memory. -/
def fieldStart (memory : SkeletonMemory slots LogIndex) (values : Fin slots → Option Value) :
    FieldConfig slots LogIndex Value where
  memory := ⟨⟨memory, false⟩, values⟩
  object _ := .start
  activity _ := .idle

/-! ## The law -/

/-- The stage of a slot in the control that the timestamps come from. -/
def FieldMemory.stage (asilB : Bool) (memory : FieldMemory slots LogIndex Value)
    (slot : Fin slots) : SlotStage :=
  (memory.writer.memory.status (publishedControl asilB) slot).stage

/-- After a successful offer there is a published sample, and the newest carries the value of
the last successful `Update`. -/
def FieldValueLaw (asilB : Bool) (config : FieldConfig slots LogIndex Value) : Prop :=
  config.activity () = .idle → (config.object ()).hasJustOffered = true →
    ∃ value, (config.object ()).lastUpdated = some value ∧
      (∃ slot timeStamp, config.memory.stage asilB slot = .readable timeStamp) ∧
      ∀ slot timeStamp, config.memory.stage asilB slot = .readable timeStamp →
        (∀ other otherStamp, config.memory.stage asilB other = .readable otherStamp →
          otherStamp ≤ timeStamp) →
        config.memory.values slot = some value

/-- No timestamp wraps around; and where the field was offered before, the shared memory is
reopened and the sample published last is still there. -/
def offersKeptValue (asilB : Bool) (config : FieldConfig slots LogIndex Value) :
    FieldEvent slots LogIndex Value → Bool
  | .call _ (.offerService sharedMemory _) =>
      (config.object ()).allocatees.isEmpty &&
        if (config.object ()).wasPrepareOfferCalled then
          sharedMemory == .reopened && decide (∃ slot, config.memory.stage asilB slot =
              .readable (config.object ()).event.currentTimestamp)
        else
          decide (∀ slot, config.memory.stage asilB slot ≠ .readable timestampMax)
  | .call _ (.update _) =>
      (config.object ()).event.currentTimestamp != timestampMax
  | .call _ (.updateAllocated _ _) =>
      (config.object ()).event.currentTimestamp != timestampMax
  | _ => true

/-! ## What is known of the samples -/

/-- No readable slot is newer than `current`, and one that carries it has the value. -/
def recent (asilB : Bool) (current : EventTimeStamp) (values : Fin slots → Option Value)
    (value : Option Value) : Knowledge slots :=
  fun quality slot stage => quality = publishedControl asilB →
    ∀ timeStamp, stage = .readable timeStamp →
      timeStamp ≤ current ∧ (timeStamp = current → values slot = value)

/-- No readable slot is newer than `current`. -/
def notNewer (asilB : Bool) (current : EventTimeStamp) : Knowledge slots :=
  fun quality _ stage => quality = publishedControl asilB →
    ∀ timeStamp, stage = .readable timeStamp → timeStamp ≤ current

/-- The slot carries the newest sample. -/
def published (asilB : Bool) (allocatees : List (SampleAllocateePtr slots))
    (current : EventTimeStamp) (values : Fin slots → Option Value) (value : Option Value)
    (newest : Fin slots) : Knowledge slots :=
  fun quality slot stage =>
    writtenBy allocatees quality slot stage ∧ recent asilB current values value quality slot stage ∧
      (quality = publishedControl asilB ∧ slot = newest → stage = .readable current)

section Programs

variable [DecidableEq LogIndex] {ampChecked asilB : Bool}

/-- What a program of the field meets. -/
abbrev amidReaders (slots : Nat) (LogIndex Value : Type) [DecidableEq LogIndex]
    (ampChecked : Bool) :
    Surroundings (FieldOp slots LogIndex Value) FieldOp.Ret
      (FieldMemory slots LogIndex Value) where
  outcomes := fieldOutcomes slots LogIndex Value ampChecked
  moves := fieldEnvironment slots LogIndex Value
  allows _ _ := True
  may _ := True

variable {known : Knowledge slots} {memory : FieldMemory slots LogIndex Value}
  {values : Fin slots → Option Value}

/-- What is known of the slots, and the data that they have. -/
def Filled (known : Knowledge slots) (values : Fin slots → Option Value)
    (memory : FieldMemory slots LogIndex Value) : Prop :=
  Known known memory.writer ∧ memory.values = values

theorem filled_stable :
    (amidReaders slots LogIndex Value ampChecked).Stable (Filled known values) := by
  intro before after moved holds
  exact ⟨holds.1.moved moved.1, moved.2.trans holds.2⟩

/-- The event of a field leaves the data alone. -/
theorem onEvent_ensures {α : Type} {program : SkeletonProgram slots LogIndex α}
    {post : α → WriterMemory slots LogIndex → Prop} (isValues : memory.values = values)
    (ensured : program.Ensures (amidConsumers slots LogIndex ampChecked) memory.writer post) :
    (onEvent program).Ensures (amidReaders slots LogIndex Value ampChecked) memory
      fun result later => post result later.writer ∧ later.values = values := by
  apply Ensures.lift_over FieldOp.skeleton (fun _ answer => answer) FieldMemory.writer
    (fun memory => memory.values = values) _ (fun _ may => may) _ isValues ensured
  · intro before after moved framed
    exact ⟨moved.1, moved.2.trans framed⟩
  · intro op before reply after framed _ outcome
    obtain ⟨⟨answer, writer⟩, possible, same⟩ := List.mem_map.mp outcome
    cases same
    exact ⟨trivial, possible, framed⟩

variable {value : Value}

theorem write_ensures {slot : Fin slots} (holds : Filled known values memory) :
    (write slot value : FieldProgram slots LogIndex Value Unit).Ensures
      (amidReaders slots LogIndex Value ampChecked) memory
      fun _ => Filled known (Function.update values slot (some value)) := by
  apply Ensures.perform (Filled known values) filled_stable holds trivial
  intro before _ after filled outcome _
  cases List.mem_singleton.mp outcome
  exact .done filled_stable ⟨filled.1, by rw [filled.2]⟩

/-! ### Publishing -/

omit [DecidableEq LogIndex] in
theorem EventTimeStamp.lt_succ {current : EventTimeStamp}
    (notMax : current ≠ timestampMax) : current < current + 1 := by
  have bound := current.isLt
  have notLast : current.toNat ≠ 2 ^ 32 - 1 := by
    intro isLast
    exact notMax (BitVec.eq_of_toNat_eq isLast)
  rw [BitVec.lt_def, BitVec.toNat_add, show (1 : EventTimeStamp).toNat = 1 from rfl,
    Nat.mod_eq_of_lt (by omega)]
  exact Nat.lt_succ_self _

omit [DecidableEq LogIndex] in
theorem EventTimeStamp.succ_ne_zero {current : EventTimeStamp}
    (notMax : current ≠ timestampMax) : current + 1 ≠ 0 := by
  intro isZero
  have grows := EventTimeStamp.lt_succ notMax
  rw [isZero] at grows
  exact absurd grows BitVec.not_lt_zero

/-- A sample with a value is sent. -/
theorem sendEvent_ensures {writer : EventWriter slots} (held : SamplesHeld asilB writer)
    {sample : SampleAllocateePtr slots} (isHeld : sample ∈ writer.allocatees)
    (within : ∀ quality slot stage, known quality slot stage →
      writtenBy writer.allocatees quality slot stage ∧
        notNewer asilB writer.event.currentTimestamp quality slot stage)
    (notMax : writer.event.currentTimestamp ≠ timestampMax)
    (isFilled : values sample.eventSlotIndex = some value) (filled : Filled known values memory) :
    (onEvent (writer.event.send asilB sample) : FieldProgram slots LogIndex Value _).Ensures
      (amidReaders slots LogIndex Value ampChecked) memory
      fun event later =>
        event = { writer.event with
          currentTimestamp := writer.event.currentTimestamp + 1 } ∧
        Filled (published asilB (writer.allocatees.erase sample)
          (writer.event.currentTimestamp + 1) values (some value) sample.eventSlotIndex)
          values later := by
  cases isComposite : writer.event.eventDataControlComposite with
  | none =>
      rw [SkeletonEvent.send, isComposite]
      intro later moves
      constructor
      · trivial
      · intro answer
        cases answer
  | some composite =>
      have ofQuality := held.composite composite isComposite
      have isWriting : ∀ quality, composite.uses quality = true →
          ∀ stage, known quality sample.eventSlotIndex stage → stage = .inWriting :=
        fun quality uses stage knows =>
          (within _ _ _ knows).1 (held.owns isHeld isComposite uses)
      have notOther : ∀ {quality slot}, ownerOf (writer.allocatees.erase sample) quality slot →
            ownerOf writer.allocatees quality slot ∧ slot ≠ sample.eventSlotIndex :=
        fun owns => held.others isHeld owns
      have grows := EventTimeStamp.lt_succ notMax
      have sent : (writer.event.send asilB sample : SkeletonProgram slots LogIndex _).Ensures
          (amidConsumers slots LogIndex ampChecked) memory.writer fun event later =>
            Known (published asilB (writer.allocatees.erase sample)
              (writer.event.currentTimestamp + 1) values (some value) sample.eventSlotIndex)
              later ∧
            event = { writer.event with
              currentTimestamp := writer.event.currentTimestamp + 1 } := by
        apply eventSend_ensures isComposite isWriting _ _ filled.1
        · intro quality slot stage isSent isOld
          rw [stage_ofTimeStamp (EventTimeStamp.succ_ne_zero notMax)] at isSent
          refine ⟨?_, ?_, ?_⟩
          · intro owns
            have wasOwned := notOther owns
            exact (within _ _ _ (isOld fun same => wasOwned.2 same.2)).1 wasOwned.1
          · rintro rfl timeStamp isReadable
            by_cases same : slot = sample.eventSlotIndex
            · have isStamp := isReadable.symm.trans (isSent ⟨ofQuality.uses, same⟩)
              cases isStamp
              exact ⟨BitVec.le_refl _, fun _ => same ▸ isFilled⟩
            · have older := (within _ _ _ (isOld fun isSame => same isSame.2)).2 rfl timeStamp
                isReadable
              constructor
              · exact BitVec.le_trans older (BitVec.le_of_lt grows)
              · rintro rfl
                exact absurd grows (BitVec.not_lt.mpr older)
          · rintro ⟨rfl, same⟩
            exact isSent ⟨ofQuality.uses, same⟩
        · intro quality isWriting
          refine ⟨?_, ?_, ?_⟩
          · intro owns
            exact absurd rfl (notOther owns).2
          · rintro _ timeStamp isReadable
            cases isReadable
          · intro isNewest
            cases isWriting.2.2 isNewest
      apply (onEvent_ensures filled.2 sent).mono
      intro event later holds
      exact ⟨holds.1.2, holds.1.1, holds.2⟩

/-- What a `Send` with a copy leaves. -/
structure SentCopy (asilB : Bool) (known : Knowledge slots)
    (values : Fin slots → Option Value) (field : FieldWriter slots Value) (value : Value)
    (result : Bool × FieldWriter slots Value) (memory : FieldMemory slots LogIndex Value) :
    Prop where
  same : result.2 = { field with event := result.2.event }
  held : SamplesHeld asilB result.2.writer
  failed : result.1 = false → Filled known values memory ∧
    result.2.event.currentTimestamp = field.event.currentTimestamp
  sent : result.1 = true → result.2.event.currentTimestamp = field.event.currentTimestamp + 1 ∧
      ∃ newest valuesAfter, Filled (published asilB field.allocatees
        (field.event.currentTimestamp + 1) valuesAfter (some value) newest) valuesAfter memory

variable {field : FieldWriter slots Value}

theorem sentCopy_stable {result : Bool × FieldWriter slots Value} :
    (amidReaders slots LogIndex Value ampChecked).Stable
      (SentCopy asilB known values field value result) := by
  intro before after moved holds
  constructor
  · exact holds.same
  · exact holds.held
  · intro failed
    exact ⟨filled_stable before after moved (holds.failed failed).1, (holds.failed failed).2⟩
  · intro isSent
    obtain ⟨stamp, newest, valuesAfter, filled⟩ := holds.sent isSent
    exact ⟨stamp, newest, valuesAfter, filled_stable before after moved filled⟩

theorem sendCopy_ensures (held : SamplesHeld asilB field.writer) (writing : known.AllowsWriting)
    (within : ∀ quality slot stage, known quality slot stage →
      writtenBy field.allocatees quality slot stage ∧
        notNewer asilB field.event.currentTimestamp quality slot stage)
    (notMax : field.event.currentTimestamp ≠ timestampMax)
    (filled : Filled known values memory) :
    (field.sendCopy asilB value : FieldProgram slots LogIndex Value _).Ensures
      (amidReaders slots LogIndex Value ampChecked) memory
      (SentCopy asilB known values field value) := by
  rw [FieldWriter.sendCopy]
  have unsent : SentCopy asilB known values field value (false, field) memory :=
    ⟨rfl, held, fun _ => ⟨filled, rfl⟩, fun isTrue => nomatch isTrue⟩
  split
  · cases isComposite : field.event.eventDataControlComposite with
    | none =>
        rw [SkeletonEvent.allocate, isComposite]
        exact .done sentCopy_stable unsent
    | some composite =>
        apply Ensures.bind (onEvent_ensures filled.2 (eventAllocate_ensures isComposite
          (held.composite composite isComposite) writing filled.1))
        rintro ⟨event, allocated⟩ later
          ⟨⟨ignored, slot, after, isNow, sameStamp, isAllocated, allocatedBy⟩, sameValues⟩
        cases isAllocated
        dsimp only at isNow sameStamp
        cases slot with
        | none =>
            refine Ensures.done sentCopy_stable ?_
            refine ⟨rfl, held.notAllocated isComposite isNow allocatedBy, ?_, ?_⟩
            · intro _
              exact ⟨⟨allocatedBy.allocated, sameValues⟩, sameStamp⟩
            · intro isTrue
              cases isTrue
        | some slot =>
            have heldBoth := held.allocated isComposite isNow
              (fun quality slot stage knows => (within quality slot stage knows).1) allocatedBy
            apply Ensures.bind (write_ensures ⟨allocatedBy.allocated.2, sameValues⟩)
            intro _ second filledSecond
            have isFilled : Function.update values slot (some value) slot = some value :=
              Function.update_self ..
            have withinBoth : ∀ quality other stage, known quality other stage ∧
                    (after.uses quality = true ∧ other = slot → stage = .inWriting) →
                  writtenBy (⟨slot, after⟩ :: field.allocatees) quality other stage ∧
                    notNewer asilB event.currentTimestamp quality other stage := by
              intro quality other stage knows
              constructor
              · exact writtenBy_cons (within _ _ _ knows.1).1 knows.2
              · rw [sameStamp]
                exact (within _ _ _ knows.1).2
            rw [← sameStamp] at notMax
            apply Ensures.bind (sendEvent_ensures heldBoth (List.mem_cons_self ..)
              withinBoth notMax isFilled filledSecond)
            rintro sent third ⟨rfl, filledThird⟩
            refine Ensures.done sentCopy_stable ?_
            refine ⟨rfl, ?_, ?_, ?_⟩
            · exact held.notAllocated isComposite isNow allocatedBy
            · intro isFalse
              cases isFalse
            · intro _
              refine ⟨congrArg (· + 1) sameStamp, slot,
                Function.update values slot (some value), ?_⟩
              have erased := List.erase_cons_head (⟨slot, after⟩ : SampleAllocateePtr slots)
                field.allocatees
              rw [← sameStamp, ← erased]
              exact filledThird
  · exact .done sentCopy_stable unsent

/-! ### Offering -/

/-- The event continues from the latest timestamp that is there. -/
structure OfferedEvent (asilB : Bool) (known : Knowledge slots)
    (values : Fin slots → Option Value) (field result : FieldWriter slots Value)
    (memory : FieldMemory slots LogIndex Value) : Prop where
  same : result = { field with
    event := { field.event with
      eventDataControlComposite := some (.new asilB)
      currentTimestamp := result.event.currentTimestamp }
    serviceOfferedFlag := true }
  positive : 1 ≤ result.event.currentTimestamp
  found : result.event.currentTimestamp = 1 ∨
    ∃ slot, known (publishedControl asilB) slot (.readable result.event.currentTimestamp)
  filled : Filled (fun quality slot stage => known quality slot stage ∧
    notNewer asilB result.event.currentTimestamp quality slot stage) values memory

theorem prepareOfferEvent_ensures (filled : Filled known values memory) :
    (field.prepareOfferEvent asilB : FieldProgram slots LogIndex Value _).Ensures
      (amidReaders slots LogIndex Value ampChecked) memory
      (OfferedEvent asilB known values field) := by
  have control : (EventDataControlComposite.new asilB).latestControl = publishedControl asilB := rfl
  apply Ensures.bind (onEvent_ensures filled.2 (getLatestTimestampAmong_ensures _ _ filled.1))
  rintro currentTimestamp later ⟨⟨holds, positive, found⟩, sameValues⟩
  refine Ensures.done ?_ ?_
  · intro before after moved offered
    exact ⟨offered.same, offered.positive, offered.found,
      filled_stable before after moved offered.filled⟩
  · rw [control] at holds found
    refine ⟨rfl, positive, found, ?_, sameValues⟩
    apply holds.mono
    intro quality slot stage knows
    exact ⟨knows.1, fun isControl => knows.2 ⟨isControl, List.mem_finRange slot⟩⟩

theorem prepareSharedMemory_ensures {sharedMemory : SharedMemoryPath}
    {failure : Option OfferFailure} (dropping : known.AllowsDropping)
    (created : sharedMemory = .created → ∀ quality slot, known quality slot .invalid)
    (filled : Filled known values memory) :
    (FieldWriter.prepareSharedMemory asilB sharedMemory failure :
        FieldProgram slots LogIndex Value Unit).Ensures
      (amidReaders slots LogIndex Value ampChecked) memory
      fun _ later => ∃ valuesAfter, (sharedMemory = .reopened → valuesAfter = values) ∧
        Filled known valuesAfter later := by
  cases sharedMemory with
  | created =>
      apply Ensures.perform (Filled known values) filled_stable filled trivial
      intro before _ after _ outcome _
      cases List.mem_singleton.mp outcome
      intro later moves
      refine ⟨fun _ => none, ?_, ?_⟩
      · intro isReopened
        cases isReopened
      · exact filled_stable.star moves ⟨known_new (created rfl), rfl⟩
  | reopened =>
      rw [FieldWriter.prepareSharedMemory]
      split
      · intro later moves
        exact ⟨values, fun _ => rfl, filled_stable.star moves filled⟩
      · apply (onEvent_ensures filled.2 (cleanup_ensures asilB dropping filled.1)).mono
        intro _ later holds
        exact ⟨values, fun _ => rfl, holds⟩

/-! ## The invariant -/

/-- What is known of the samples of a field whose value was published. -/
def fieldKnowledge (asilB : Bool) (field : FieldWriter slots Value)
    (values : Fin slots → Option Value) : Knowledge slots :=
  fun quality slot stage => writtenBy field.allocatees quality slot stage ∧
    recent asilB field.event.currentTimestamp values field.lastUpdated quality slot stage

/-- The slot carries the newest timestamp. -/
def carriesNewest (asilB : Bool) (field : FieldWriter slots Value) (newest : Fin slots) :
    Knowledge slots :=
  fun quality slot stage => quality = publishedControl asilB ∧ slot = newest →
    stage = .readable field.event.currentTimestamp

/-- What holds between two calls. -/
structure FieldInv (asilB : Bool) (memory : FieldMemory slots LogIndex Value)
    (field : FieldWriter slots Value) : Prop where
  known : Known (writtenBy field.allocatees) memory.writer
  held : SamplesHeld asilB field.writer
  unprepared : field.wasPrepareOfferCalled = false →
    field.allocatees = [] ∧ field.lastUpdated = field.initialFieldValue
  prepared : field.wasPrepareOfferCalled = true →
    field.lastUpdated.isSome = true ∧ 1 ≤ field.event.currentTimestamp ∧
      Known (fieldKnowledge asilB field memory.values) memory.writer
  offered : field.hasJustOffered = true → field.wasPrepareOfferCalled = true ∧
    ∃ newest, Known (carriesNewest asilB field newest) memory.writer

omit [DecidableEq LogIndex] in
theorem fieldInv_stable {Op : Type} {Ret : Op → Type}
    {around : Surroundings Op Ret (FieldMemory slots LogIndex Value)}
    (moves : around.moves = fieldEnvironment slots LogIndex Value) :
    around.Stable fun memory => FieldInv asilB memory field := by
  intro before after moved holds
  rw [moves] at moved
  constructor
  · exact holds.known.moved moved.1
  · exact holds.held
  · exact holds.unprepared
  · intro isPrepared
    obtain ⟨updated, positive, known⟩ := holds.prepared isPrepared
    refine ⟨updated, positive, ?_⟩
    rw [moved.2]
    exact known.moved moved.1
  · intro hasOffered
    obtain ⟨isPrepared, newest, known⟩ := holds.offered hasOffered
    exact ⟨isPrepared, newest, known.moved moved.1⟩

omit [DecidableEq LogIndex] in
/-- Nothing is offered by this call. -/
theorem FieldInv.notOffered {memory : FieldMemory slots LogIndex Value}
    (holds : FieldInv asilB memory field) :
    FieldInv asilB memory { field with hasJustOffered := false } :=
  ⟨holds.known, holds.held, holds.unprepared, holds.prepared, fun isTrue => nomatch isTrue⟩

section Calls

variable {field : FieldWriter slots Value}

variable {newest : Fin slots}

omit [DecidableEq LogIndex] in
/-- A published sample carries the value of the field. -/
theorem FieldInv.of_published (held : SamplesHeld asilB field.writer)
    (isPrepared : field.wasPrepareOfferCalled = true) {value : Value}
    (isUpdated : field.lastUpdated = some value) (positive : 1 ≤ field.event.currentTimestamp)
    (filled : Filled (published asilB field.allocatees field.event.currentTimestamp values
      (some value) newest) values memory) : FieldInv asilB memory field := by
  constructor
  · exact filled.1.mono fun _ _ _ knows => knows.1
  · exact held
  · intro isFalse
    rw [isPrepared] at isFalse
    cases isFalse
  · intro _
    refine ⟨by rw [isUpdated]; rfl, positive, ?_⟩
    rw [filled.2]
    apply filled.1.mono
    intro quality slot stage knows
    rw [← isUpdated] at knows
    exact ⟨knows.1, knows.2.1⟩
  · intro _
    exact ⟨isPrepared, newest, filled.1.mono fun _ _ _ knows => knows.2.2⟩

theorem fieldKnowledge_allowsWriting : (fieldKnowledge asilB field values).AllowsWriting :=
  fun _ _ => ⟨fun _ => rfl, fun _ _ isReadable => nomatch isReadable⟩

theorem fieldKnowledge_within {quality : QualityType} {slot : Fin slots} {stage : SlotStage}
    (knows : fieldKnowledge asilB field values quality slot stage) :
    writtenBy field.allocatees quality slot stage ∧
      notNewer asilB field.event.currentTimestamp quality slot stage :=
  ⟨knows.1, fun isControl timeStamp isReadable => (knows.2 isControl timeStamp isReadable).1⟩

theorem EventTimeStamp.one_le_succ {current : EventTimeStamp}
    (notMax : current ≠ timestampMax) : 1 ≤ current + 1 := by
  have notZero : (current + 1).toNat ≠ 0 := by
    intro isZero
    exact EventTimeStamp.succ_ne_zero notMax (BitVec.eq_of_toNat_eq isZero)
  rw [BitVec.le_def, show (1 : EventTimeStamp).toNat = 1 from rfl]
  exact Nat.one_le_iff_ne_zero.mpr notZero

omit [DecidableEq LogIndex] in
/-- Without a new timestamp the samples are what they were. -/
theorem FieldInv.of_unsent (holds : FieldInv asilB memory field)
    (notOffered : field.hasJustOffered = false)
    (isPrepared : field.wasPrepareOfferCalled = true) {event : SkeletonEvent}
    {allocatees : List (SampleAllocateePtr slots)}
    (stamp : event.currentTimestamp = field.event.currentTimestamp)
    (held : SamplesHeld asilB { field with event := event, allocatees := allocatees }.writer)
    {later : FieldMemory slots LogIndex Value}
    (filled : Filled (fun quality slot stage => writtenBy allocatees quality slot stage ∧
      recent asilB field.event.currentTimestamp values field.lastUpdated quality slot stage)
      values later) :
    FieldInv asilB later { field with event := event, allocatees := allocatees } := by
  obtain ⟨updated, positive, _⟩ := holds.prepared isPrepared
  constructor
  · exact filled.1.mono fun _ _ _ knows => knows.1
  · exact held
  · intro isFalse
    exact absurd (isPrepared.symm.trans isFalse) Bool.noConfusion
  · intro _
    refine ⟨updated, by rw [stamp]; exact positive, ?_⟩
    rw [filled.2]
    apply filled.1.mono
    intro quality slot stage knows
    rw [← stamp] at knows
    exact knows
  · intro hasOffered
    exact absurd (notOffered.symm.trans hasOffered) Bool.noConfusion

theorem update_ensures {value : Value} (holds : FieldInv asilB memory field)
    (notOffered : field.hasJustOffered = false)
    (notMax : field.event.currentTimestamp ≠ timestampMax) :
    (field.update asilB value : FieldProgram slots LogIndex Value _).Ensures
      (amidReaders slots LogIndex Value ampChecked) memory
      fun reply memory => FieldInv asilB memory reply := by
  rw [FieldWriter.update]
  split
  · rename_i isPrepared
    obtain ⟨updated, positive, known⟩ := holds.prepared isPrepared
    apply Ensures.bind (sendCopy_ensures holds.held fieldKnowledge_allowsWriting
      (fun _ _ _ => fieldKnowledge_within) notMax ⟨known, rfl⟩)
    rintro ⟨isSent, sentField⟩ later sent
    obtain ⟨event, rfl⟩ : ∃ event, sentField = { field with event := event } := ⟨_, sent.same⟩
    refine Ensures.done (fieldInv_stable rfl) ?_
    cases isSent with
    | true =>
        obtain ⟨stamp, newest, valuesAfter, filled⟩ := sent.sent rfl
        have positive : 1 ≤ event.currentTimestamp := by
          rw [show event.currentTimestamp = _ from stamp]
          exact EventTimeStamp.one_le_succ notMax
        rw [← stamp] at filled
        exact .of_published sent.held isPrepared rfl positive filled
    | false =>
        obtain ⟨filled, stamp⟩ := sent.failed rfl
        exact holds.of_unsent notOffered isPrepared stamp sent.held filled
  · rename_i notPrepared
    obtain ⟨noSamples, _⟩ := holds.unprepared (Bool.eq_false_iff.mpr notPrepared)
    refine Ensures.done (fieldInv_stable rfl) ?_
    refine ⟨holds.known, holds.held, fun _ => ⟨noSamples, rfl⟩, ?_, ?_⟩
    · intro isPrepared
      exact absurd isPrepared notPrepared
    · intro hasOffered
      exact absurd (notOffered.symm.trans hasOffered) Bool.noConfusion

theorem fieldAllocate_ensures (holds : FieldInv asilB memory field)
    (notOffered : field.hasJustOffered = false) :
    (field.allocate : FieldProgram slots LogIndex Value _).Ensures
      (amidReaders slots LogIndex Value ampChecked) memory
      fun reply memory => FieldInv asilB memory reply := by
  rw [FieldWriter.allocate]
  split
  · rename_i isOpen
    obtain ⟨isPrepared, _⟩ := Bool.and_eq_true_iff.mp isOpen
    obtain ⟨updated, positive, known⟩ := holds.prepared isPrepared
    cases isComposite : field.event.eventDataControlComposite with
    | none =>
        rw [SkeletonEvent.allocate, isComposite]
        exact .done (fieldInv_stable rfl) holds
    | some composite =>
        apply Ensures.bind (onEvent_ensures rfl (eventAllocate_ensures isComposite
          (holds.held.composite composite isComposite) fieldKnowledge_allowsWriting known))
        rintro ⟨event, allocated⟩ later
          ⟨⟨ignored, slot, after, isNow, stamp, isAllocated, allocatedBy⟩, sameValues⟩
        cases isAllocated
        refine Ensures.done (fieldInv_stable rfl) ?_
        cases slot with
        | none =>
            exact holds.of_unsent notOffered isPrepared stamp
              (holds.held.notAllocated isComposite isNow allocatedBy)
              ⟨allocatedBy.allocated, sameValues⟩
        | some slot =>
            apply holds.of_unsent notOffered isPrepared stamp
              (holds.held.allocated isComposite isNow (fun _ _ _ knows => knows.1) allocatedBy)
              ⟨allocatedBy.allocated.2.mono _, sameValues⟩
            intro quality other stage knows
            exact ⟨writtenBy_cons knows.1.1 knows.2, knows.1.2⟩
  · exact .done (fieldInv_stable rfl) holds

variable {sample : SampleAllocateePtr slots}

omit [DecidableEq LogIndex] in
/-- Samples are held only where an offer succeeded. -/
theorem FieldInv.isPrepared (holds : FieldInv asilB memory field)
    (isHeld : sample ∈ field.allocatees) :
    field.wasPrepareOfferCalled = true := by
  cases isPrepared : field.wasPrepareOfferCalled with
  | true => rfl
  | false =>
      rw [(holds.unprepared isPrepared).1] at isHeld
      cases isHeld

theorem fieldDiscard_ensures (holds : FieldInv asilB memory field)
    (notOffered : field.hasJustOffered = false) (isHeld : sample ∈ field.allocatees) :
    (field.discard sample : FieldProgram slots LogIndex Value _).Ensures
      (amidReaders slots LogIndex Value ampChecked) memory
      fun reply memory => FieldInv asilB memory reply := by
  have isPrepared := holds.isPrepared isHeld
  obtain ⟨updated, positive, known⟩ := holds.prepared isPrepared
  let remaining : Knowledge slots := fun quality slot stage =>
    writtenBy (field.allocatees.erase sample) quality slot stage ∧
      recent asilB field.event.currentTimestamp memory.values field.lastUpdated quality slot
        stage
  have remains : Known remaining memory.writer := by
    apply known.mono
    intro quality slot stage knows
    exact ⟨fun owns => knows.1 (holds.held.others isHeld owns).1, knows.2⟩
  have dropping : ∀ quality, remaining quality sample.eventSlotIndex .inWriting →
      remaining quality sample.eventSlotIndex .invalid := by
    intro quality _
    constructor
    · intro owns
      exact absurd rfl (holds.held.others isHeld owns).2
    · intro _ timeStamp isReadable
      cases isReadable
  apply Ensures.bind (onEvent_ensures rfl (compositeDiscard_ensures dropping remains))
  intro _ later filled
  refine Ensures.done (fieldInv_stable rfl) ?_
  exact holds.of_unsent notOffered isPrepared rfl (holds.held.erase sample rfl) filled

theorem updateAllocated_ensures {value : Value} (holds : FieldInv asilB memory field)
    (notMax : field.event.currentTimestamp ≠ timestampMax)
    (isHeld : sample ∈ field.allocatees) :
    (field.updateAllocated asilB sample value : FieldProgram slots LogIndex Value _).Ensures
      (amidReaders slots LogIndex Value ampChecked) memory
      fun reply memory => FieldInv asilB memory reply := by
  have isPrepared := holds.isPrepared isHeld
  obtain ⟨updated, positive, known⟩ := holds.prepared isPrepared
  apply Ensures.bind (write_ensures ⟨known, rfl⟩)
  intro _ second filled
  have isFilled : Function.update memory.values sample.eventSlotIndex (some value)
      sample.eventSlotIndex = some value := Function.update_self ..
  apply Ensures.bind (sendEvent_ensures holds.held isHeld
    (fun _ _ _ => fieldKnowledge_within) notMax isFilled filled)
  rintro event third ⟨rfl, filledThird⟩
  refine Ensures.done (fieldInv_stable rfl) ?_
  exact .of_published (holds.held.erase sample rfl) isPrepared rfl
    (EventTimeStamp.one_le_succ notMax) filledThird

/-! ### Offers -/

omit [DecidableEq LogIndex] in
theorem stopOfferService_ensures (holds : FieldInv asilB memory field) :
    FieldInv asilB memory field.stopOfferService := by
  rw [FieldWriter.stopOfferService]
  split
  · exact ⟨holds.known, holds.held.congr rfl rfl, holds.unprepared, holds.prepared, holds.offered⟩
  · exact holds

/-- Whatever becomes of the rest of the offer. -/
def Prepared (asilB : Bool) (result : Bool × FieldWriter slots Value)
    (memory : FieldMemory slots LogIndex Value) : Prop :=
  ∀ isServiceOffered hasJustOffered, (hasJustOffered = true → result.1 = true) →
    FieldInv asilB memory
      { result.2 with isServiceOffered := isServiceOffered, hasJustOffered := hasJustOffered }

omit [DecidableEq LogIndex] in
theorem Prepared.same {result : Bool × FieldWriter slots Value}
    (prepared : Prepared asilB result memory) (notOffered : result.2.hasJustOffered = false) :
    FieldInv asilB memory result.2 := by
  apply prepared result.2.isServiceOffered result.2.hasJustOffered
  intro hasOffered
  exact absurd (notOffered.symm.trans hasOffered) Bool.noConfusion

variable {failure : Option OfferFailure}

/-- The rest of an offer, once the shared memory is there. -/
theorem offerService_ensures {sharedMemory : SharedMemoryPath}
    {Ready : FieldMemory slots LogIndex Value → Prop}
    (shared : (FieldWriter.prepareSharedMemory asilB sharedMemory failure :
        FieldProgram slots LogIndex Value Unit).Ensures
      (amidReaders slots LogIndex Value ampChecked) memory fun _ => Ready)
    (failed : ∀ later, Ready later → FieldInv asilB later field) (prepared : ∀ later, Ready later →
      (field.prepareOffer asilB : FieldProgram slots LogIndex Value _).Ensures
        (amidReaders slots LogIndex Value ampChecked) later fun result later =>
          Prepared asilB result later ∧ result.2.hasJustOffered = false) :
    (field.offerService asilB sharedMemory failure : FieldProgram slots LogIndex Value _).Ensures
      (amidReaders slots LogIndex Value ampChecked) memory
      fun reply memory => FieldInv asilB memory reply := by
  apply Ensures.bind shared
  intro _ second ready
  dsimp only
  split
  · exact .done (fieldInv_stable rfl) (failed second ready)
  · apply Ensures.bind (prepared second ready)
    rintro ⟨isPrepared, offered⟩ third ⟨isReady, notOffered⟩
    dsimp only
    split
    · exact .done (fieldInv_stable rfl) (isReady.same notOffered)
    · rename_i succeeded
      refine Ensures.done (fieldInv_stable rfl) ?_
      apply isReady true failure.isNone
      intro _
      cases isPrepared with
      | true => rfl
      | false => exact absurd (.inl rfl) succeeded

omit [DecidableEq LogIndex] in
theorem prepared_stable {result : Bool × FieldWriter slots Value} {Op : Type} {Ret : Op → Type}
    {around : Surroundings Op Ret (FieldMemory slots LogIndex Value)}
    (moves : around.moves = fieldEnvironment slots LogIndex Value) :
    around.Stable fun memory => Prepared asilB result memory :=
  fun before after moved prepared isServiceOffered hasJustOffered isTrue =>
    fieldInv_stable moves before after moved (prepared isServiceOffered hasJustOffered isTrue)

/-- What is known where the field was offered before: its newest sample is still there. -/
def stillNewest (asilB : Bool) (field : FieldWriter slots Value)
    (values : Fin slots → Option Value) (newest : Fin slots) : Knowledge slots :=
  fun quality slot stage =>
    recent asilB field.event.currentTimestamp values field.lastUpdated quality slot stage ∧
      carriesNewest asilB field newest quality slot stage

theorem stillNewest_allowsDropping : (stillNewest asilB field values newest).AllowsDropping := by
  intro quality slot knows
  constructor
  · intro _ timeStamp isReadable
    cases isReadable
  · intro isNewest
    cases knows.2 isNewest

variable {later : FieldMemory slots LogIndex Value}

/-- The field continues from the timestamp of its newest sample. -/
theorem rePrepare_ensures (holds : FieldInv asilB memory field)
    (notOffered : field.hasJustOffered = false) (noSamples : field.allocatees = [])
    (isPrepared : field.wasPrepareOfferCalled = true)
    (filled : Filled (stillNewest asilB field values newest) values later) :
    (field.prepareOffer asilB : FieldProgram slots LogIndex Value _).Ensures
      (amidReaders slots LogIndex Value ampChecked) later fun result later =>
        Prepared asilB result later ∧ result.2.hasJustOffered = false := by
  obtain ⟨updated, positive, _⟩ := holds.prepared isPrepared
  rw [FieldWriter.prepareOffer, if_pos isPrepared]
  apply Ensures.bind (prepareOfferEvent_ensures filled)
  intro result second offered
  have newestStage := offered.filled.1.stage (publishedControl asilB) newest
  have isReadable := newestStage.1.2 ⟨rfl, rfl⟩
  have below : result.event.currentTimestamp ≤ field.event.currentTimestamp := by
    rcases offered.found with isOne | ⟨slot, knows⟩
    · rw [isOne]
      exact positive
    · exact (knows.1 rfl _ rfl).1
  have stamp : result.event.currentTimestamp = field.event.currentTimestamp :=
    BitVec.le_antisymm below (newestStage.2 rfl _ isReadable)
  refine Ensures.done ((prepared_stable rfl).and_fact _) ?_
  obtain ⟨same, _, _, filledSecond⟩ := offered
  rw [stamp] at same
  rw [same]
  refine ⟨?_, notOffered⟩
  intro isServiceOffered hasJustOffered _
  constructor
  · exact filledSecond.1.mono fun quality slot stage _ =>
      writtenBy_of_empty noSamples quality slot stage
  · exact .offered noSamples rfl
  · intro isFalse
    exact absurd (isPrepared.symm.trans isFalse) Bool.noConfusion
  · intro _
    refine ⟨updated, positive, ?_⟩
    rw [filledSecond.2]
    apply filledSecond.1.mono
    intro quality slot stage knows
    exact ⟨writtenBy_of_empty noSamples quality slot stage, knows.1.1⟩
  · intro _
    refine ⟨isPrepared, newest, filledSecond.1.mono ?_⟩
    intro quality slot stage knows
    exact knows.1.2

/-- The field was offered before. -/
theorem reOffer_ensures (holds : FieldInv asilB memory field)
    (notOffered : field.hasJustOffered = false) (noSamples : field.allocatees = [])
    (isPrepared : field.wasPrepareOfferCalled = true)
    (isKept : ∃ slot, memory.stage asilB slot = .readable field.event.currentTimestamp) :
    (field.offerService asilB .reopened failure : FieldProgram slots LogIndex Value _).Ensures
      (amidReaders slots LogIndex Value ampChecked) memory
      fun reply memory => FieldInv asilB memory reply := by
  obtain ⟨newest, isReadable⟩ := isKept
  obtain ⟨updated, positive, known⟩ := holds.prepared isPrepared
  have kept : Known (stillNewest asilB field memory.values newest) memory.writer := by
    refine ⟨known.counted, ?_, known.kept⟩
    intro quality slot
    refine ⟨(known.stage quality slot).2, ?_⟩
    rintro ⟨rfl, rfl⟩
    exact isReadable
  have shared : (FieldWriter.prepareSharedMemory asilB .reopened failure :
      FieldProgram slots LogIndex Value Unit).Ensures
      (amidReaders slots LogIndex Value ampChecked) memory fun _ =>
        Filled (stillNewest asilB field memory.values newest) memory.values := by
    have notCreated : SharedMemoryPath.reopened = .created → ∀ quality slot,
        stillNewest asilB field memory.values newest quality slot .invalid := by
      intro isCreated
      cases isCreated
    apply (prepareSharedMemory_ensures stillNewest_allowsDropping notCreated ⟨kept, rfl⟩).mono
    rintro _ later ⟨valuesAfter, same, filled⟩
    rw [same rfl] at filled
    exact filled
  apply offerService_ensures shared
  · intro later filled
    refine holds.of_unsent notOffered isPrepared rfl holds.held ⟨filled.1.mono ?_, filled.2⟩
    intro quality slot stage knows
    exact ⟨writtenBy_of_empty noSamples quality slot stage, knows.1⟩
  · intro later filled
    exact rePrepare_ensures holds notOffered noSamples isPrepared filled

/-- What is known where the field was never offered: no timestamp is the last one. -/
def notLast (asilB : Bool) : Knowledge slots :=
  fun quality _ stage => quality = publishedControl asilB → stage ≠ .readable timestampMax

theorem notLast_invalid (quality : QualityType) (slot : Fin slots) :
    notLast asilB quality slot .invalid := by
  intro _ isReadable
  cases isReadable

omit [DecidableEq LogIndex] in
/-- Without an offer the initial value is kept. -/
theorem FieldInv.of_unprepared (holds : FieldInv asilB memory field)
    (notPrepared : field.wasPrepareOfferCalled = false) (laterKnown : Known known later.writer)
    {event : SkeletonEvent} {serviceOfferedFlag isServiceOffered hasJustOffered : Bool}
    (notOffered : hasJustOffered = false)
    (held : SamplesHeld asilB { field with event := event }.writer) :
    FieldInv asilB later
      { field with
        event := event
        serviceOfferedFlag := serviceOfferedFlag
        isServiceOffered := isServiceOffered
        hasJustOffered := hasJustOffered } := by
  obtain ⟨noSamples, isInitial⟩ := holds.unprepared notPrepared
  constructor
  · exact laterKnown.mono fun quality slot stage _ =>
      writtenBy_of_empty noSamples quality slot stage
  · exact held.congr rfl rfl
  · intro _
    exact ⟨noSamples, isInitial⟩
  · intro isPrepared
    exact absurd (notPrepared.symm.trans isPrepared) Bool.noConfusion
  · intro hasOffered
    exact absurd (notOffered.symm.trans hasOffered) Bool.noConfusion

/-- The initial value goes once it was sent. -/
theorem doDeferredUpdate_ensures {initialValue : Value}
    (sent : (field.sendCopy asilB initialValue : FieldProgram slots LogIndex Value _).Ensures
      (amidReaders slots LogIndex Value ampChecked) memory
      (SentCopy asilB known values field initialValue)) :
    (field.doDeferredUpdate asilB initialValue : FieldProgram slots LogIndex Value _).Ensures
      (amidReaders slots LogIndex Value ampChecked) memory fun result later =>
        ∃ sentField initial,
          SentCopy asilB known values field initialValue (result.1, sentField) later ∧
            result.2 = { sentField with initialFieldValue := initial } ∧
            (result.1 = false → initial = sentField.initialFieldValue) := by
  apply Ensures.bind sent
  rintro ⟨isSent, sentField⟩ later sent
  cases isSent with
  | true =>
      intro latest moves
      exact ⟨sentField, none, sentCopy_stable.star moves sent, rfl, fun isFalse => nomatch isFalse⟩
  | false =>
      intro latest moves
      exact ⟨sentField, _, sentCopy_stable.star moves sent, rfl, fun _ => rfl⟩

/-- The initial value is published at the first offer. -/
theorem firstPrepare_ensures (holds : FieldInv asilB memory field)
    (notOffered : field.hasJustOffered = false) (notPrepared : field.wasPrepareOfferCalled = false)
    (filled : Filled (notLast asilB) values later) :
    (field.prepareOffer asilB : FieldProgram slots LogIndex Value _).Ensures
      (amidReaders slots LogIndex Value ampChecked) later fun result later =>
        Prepared asilB result later ∧ result.2.hasJustOffered = false := by
  obtain ⟨noSamples, isInitial⟩ := holds.unprepared notPrepared
  rw [FieldWriter.prepareOffer, if_neg (Bool.eq_false_iff.mp notPrepared)]
  cases isSaved : field.initialFieldValue with
  | none =>
      refine Ensures.done ((prepared_stable rfl).and_fact _) ⟨?_, notOffered⟩
      intro isServiceOffered hasJustOffered isTrue
      have notJust : hasJustOffered = false := by
        cases hasJustOffered with
        | false => rfl
        | true => cases isTrue rfl
      have same : FieldInv asilB later { field with
          isServiceOffered := isServiceOffered, hasJustOffered := hasJustOffered } :=
        holds.of_unprepared notPrepared filled.1 notJust holds.held
      exact same
  | some initialValue =>
      apply Ensures.bind (prepareOfferEvent_ensures filled)
      intro result second offered
      obtain ⟨event, rfl⟩ : ∃ event : SkeletonEvent, result =
          { field with event := event, serviceOfferedFlag := true } := ⟨_, offered.same⟩
      have notMax : event.currentTimestamp ≠ timestampMax := by
        rcases offered.found with isOne | ⟨slot, knows⟩
        · rw [show event.currentTimestamp = 1 from isOne]
          decide
        · intro isMax
          exact knows rfl (congrArg SlotStage.readable isMax)
      have isComposite : event.eventDataControlComposite = some (.new asilB) :=
        congrArg (fun result => result.event.eventDataControlComposite) offered.same
      have writing : Knowledge.AllowsWriting fun quality (slot : Fin slots) stage =>
          notLast asilB quality slot stage ∧
            notNewer asilB event.currentTimestamp quality slot stage := by
        intro quality slot
        constructor
        · intro _ isReadable
          cases isReadable
        · intro _ _ isReadable
          cases isReadable
      let offeredField : FieldWriter slots Value :=
        { field with event := event, serviceOfferedFlag := true }
      have sending : (offeredField.sendCopy asilB initialValue :
          FieldProgram slots LogIndex Value _).Ensures
          (amidReaders slots LogIndex Value ampChecked) second
          (SentCopy asilB _ values offeredField initialValue) :=
        sendCopy_ensures (.offered noSamples isComposite) writing (fun quality slot stage knows =>
          ⟨writtenBy_of_empty noSamples quality slot stage, knows.2⟩) notMax offered.filled
      apply Ensures.bind (doDeferredUpdate_ensures sending)
      rintro ⟨isSent, updated⟩ third ⟨sentField, initial, sent, isUpdated, isKept⟩
      obtain ⟨sentEvent, rfl⟩ : ∃ sentEvent : SkeletonEvent, sentField =
          { field with event := sentEvent, serviceOfferedFlag := true } := ⟨_, sent.same⟩
      cases isUpdated
      refine Ensures.done ((prepared_stable rfl).and_fact _) ⟨?_, notOffered⟩
      intro isServiceOffered hasJustOffered isTrue
      cases isSent with
      | true =>
          obtain ⟨stamp, newest, valuesAfter, filledThird⟩ := sent.sent rfl
          have positive : 1 ≤ sentEvent.currentTimestamp := by
            rw [show sentEvent.currentTimestamp = _ from stamp]
            exact EventTimeStamp.one_le_succ notMax
          rw [← stamp] at filledThird
          exact .of_published (sent.held.congr rfl rfl) rfl (isInitial.trans isSaved) positive
            filledThird
      | false =>
          have notJust : hasJustOffered = false := by
            cases hasJustOffered with
            | false => rfl
            | true => cases isTrue rfl
          cases isKept rfl
          have same : FieldInv asilB third { field with
              event := sentEvent
              serviceOfferedFlag := true
              isServiceOffered := isServiceOffered
              hasJustOffered := hasJustOffered } :=
            holds.of_unprepared notPrepared (sent.failed rfl).1.1 notJust
              (sent.held.congr rfl rfl)
          rw [notPrepared] at same
          exact same

/-- The field is offered for the first time. -/
theorem firstOffer_ensures {sharedMemory : SharedMemoryPath} (holds : FieldInv asilB memory field)
    (notOffered : field.hasJustOffered = false) (notPrepared : field.wasPrepareOfferCalled = false)
    (notMax : ∀ slot, memory.stage asilB slot ≠ .readable timestampMax) :
    (field.offerService asilB sharedMemory failure : FieldProgram slots LogIndex Value _).Ensures
      (amidReaders slots LogIndex Value ampChecked) memory
      fun reply memory => FieldInv asilB memory reply := by
  have known : Known (notLast asilB) memory.writer := by
    refine ⟨holds.known.counted, ?_, holds.known.kept⟩
    rintro quality slot rfl
    exact notMax slot
  have shared : (FieldWriter.prepareSharedMemory asilB sharedMemory failure :
      FieldProgram slots LogIndex Value Unit).Ensures
      (amidReaders slots LogIndex Value ampChecked) memory fun _ later =>
        ∃ values, Filled (notLast asilB) values later := by
    apply (prepareSharedMemory_ensures (fun quality slot _ => notLast_invalid quality slot)
      (fun _ => notLast_invalid) ⟨known, rfl⟩).mono
    rintro _ later ⟨valuesAfter, _, filled⟩
    exact ⟨valuesAfter, filled⟩
  apply offerService_ensures shared
  · rintro later ⟨valuesAfter, filled⟩
    exact holds.of_unprepared notPrepared filled.1 notOffered holds.held
  · rintro later ⟨valuesAfter, filled⟩
    exact firstPrepare_ensures holds notOffered notPrepared filled

/-- Between two calls the newest sample carries the value of the field. -/
theorem fieldInv_of_reached {start : SkeletonMemory slots LogIndex} (counted : ∀ quality slot,
      Counted (start.status quality slot).data (start.references quality slot))
    {config : FieldConfig slots LogIndex Value}
    (reached : Reaches (fieldSystem slots LogIndex Value ampChecked asilB)
      (fun config event => offersKeptValue asilB config event = true) (fieldStart start values)
      config) :
    SerialHolds (amidReaders slots LogIndex Value ampChecked) (FieldInv asilB) config := by
  apply serial_run (FieldInv asilB) (fun _ _ _ _ => trivial) _ _ _ rfl reached
  · intro object before after moved holds
    have stable : (amidReaders slots LogIndex Value ampChecked).Stable
        fun memory => FieldInv asilB memory object := fieldInv_stable rfl
    exact stable before after moved holds
  · intro config call holds isHeld permitted
    have calls := holds.notOffered
    cases call with
    | update value =>
        exact update_ensures calls rfl (bne_iff_ne.mp permitted)
    | allocate => exact fieldAllocate_ensures calls rfl
    | updateAllocated sample value =>
        exact updateAllocated_ensures calls (bne_iff_ne.mp permitted)
          (List.contains_iff_mem.mp isHeld)
    | discard sample =>
        exact fieldDiscard_ensures calls rfl (List.contains_iff_mem.mp isHeld)
    | offerService sharedMemory failure =>
        obtain ⟨noSamples, isKept⟩ := Bool.and_eq_true_iff.mp permitted
        cases isPrepared : (config.object ()).wasPrepareOfferCalled with
        | true =>
            rw [if_pos isPrepared] at isKept
            obtain ⟨isReopened, newest⟩ := Bool.and_eq_true_iff.mp isKept
            cases beq_iff_eq.mp isReopened
            exact reOffer_ensures calls rfl (List.isEmpty_iff.mp noSamples) isPrepared
              (of_decide_eq_true newest)
        | false =>
            rw [if_neg (Bool.eq_false_iff.mp isPrepared)] at isKept
            exact firstOffer_ensures calls rfl isPrepared (of_decide_eq_true isKept)
    | stopOfferService =>
        exact .done (fieldInv_stable rfl) (stopOfferService_ensures calls)
  · constructor
    · exact ⟨counted, fun quality slot => writtenBy_of_empty rfl quality slot _, rfl⟩
    · refine ⟨.nil, List.forall_mem_nil _, ?_, ?_⟩
      · intro composite isComposite
        cases isComposite
      · intro composite isComposite
        cases isComposite
    · intro _
      exact ⟨rfl, rfl⟩
    · intro isPrepared
      cases isPrepared
    · intro hasOffered
      cases hasOffered

end Calls

end Programs

/-! ## The law of a run -/

/-- The user makes one call, whose operations all have their first outcome. -/
def fieldCall (call : FieldCall slots Nat) (operations : Nat) :
    List (Choice Unit (FieldMemory slots Empty Nat) (FieldCall slots Nat)) :=
  List.flatten
    [[.call () call], List.replicate operations (.perform () 0), [.finish ()]]

instance (before after : FieldMemory slots LogIndex Nat) :
    Decidable (fieldEnvironment slots LogIndex Nat before after) :=
  inferInstanceAs (Decidable (_ ∧ _))

/-- The field is offered with its initial value. -/
def offerOnce : List (Choice Unit (FieldMemory 1 Empty Nat) (FieldCall 1 Nat)) := List.flatten
    [fieldCall (.update 7) 0, fieldCall (.offerService .created none) 9]

end MwCom.Lola
