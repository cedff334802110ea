/-
Module: MwCom.Lola.WriterExclusivity
Purpose: The samples that a user of a skeleton event has allocated, over any number of
  offers of the event on the same shared memory, and who owns their slots.
Trusted boundary: consumers are parties of the environment.
Main exports: EventWriter, writerSystem, WriterLaw, offersWithoutSamples, WriterInv,
  writerLaw_of_reached, writerLaw_violated
-/
import MwCom.Lola.SlotKnowledge

namespace MwCom.Lola

open Interleaving SkeletonProgram Provider
open Program (Ensures)

variable {slots : Nat} {LogIndex : Type}

/-! ## The user of an event -/

/-- A skeleton event, and the samples that its user holds. -/
structure EventWriter (slots : Nat) where
  event : SkeletonEvent
  serviceOfferedFlag : Bool
  allocatees : List (SampleAllocateePtr slots)
deriving DecidableEq

namespace EventWriter

def start : EventWriter slots := ⟨.new, false, []⟩

/-- Only samples that are held can be sent or dropped. -/
def holds (writer : EventWriter slots) : SkeletonCall slots → Bool
  | .send sample => writer.allocatees.contains sample
  | .discard sample => writer.allocatees.contains sample
  | _ => true

/-- What a call does; the shared memory is opened again at every offer. -/
def code (asilB : Bool) (writer : EventWriter slots) :
    SkeletonCall slots → SkeletonProgram slots LogIndex (EventWriter slots)
  | .prepareOffer => do
      let event ← writer.event.prepareOffer asilB
      pure { writer with event := event, serviceOfferedFlag := true }
  | .prepareStopOffer => pure { writer with serviceOfferedFlag := false }
  | .allocate =>
      if writer.serviceOfferedFlag then do
        let (event, allocated) ← writer.event.allocate
        pure
          { writer with
            event := event
            allocatees := allocated.toList ++ writer.allocatees }
      else
        pure writer
  | .send sample => do
      let event ← writer.event.send asilB sample
      pure { writer with event := event, allocatees := writer.allocatees.erase sample }
  | .discard sample => do
      sample.eventDataControl.discard sample.eventSlotIndex
      pure { writer with allocatees := writer.allocatees.erase sample }

end EventWriter

section System

variable (slots LogIndex) [DecidableEq LogIndex] (ampChecked asilB : Bool)

abbrev writerSystem :
    System Unit (SkeletonOp slots LogIndex) SkeletonOp.Ret (WriterMemory slots LogIndex)
      (EventWriter slots) (SkeletonCall slots) (EventWriter slots) :=
  serialSystem (writerOutcomes slots LogIndex ampChecked)
    (fun writer call => writer.holds call = true) (EventWriter.code asilB)
    (writerEnvironment slots LogIndex)

end System

abbrev WriterConfig (slots : Nat) (LogIndex : Type) :=
  Config Unit (SkeletonOp slots LogIndex) SkeletonOp.Ret (WriterMemory slots LogIndex)
    (EventWriter slots) (SkeletonCall slots) (EventWriter slots)

abbrev WriterEvent (slots : Nat) (LogIndex : Type) :=
  Event Unit (SkeletonOp slots LogIndex) SkeletonOp.Ret (SkeletonCall slots)
    (EventWriter slots)

/-- The shared memory was created. -/
def writerStart : WriterConfig slots LogIndex where
  memory := ⟨.new, false⟩
  object _ := .start
  activity _ := .idle

/-! ## The law -/

/-- Between two calls every sample has a slot for its own, which is in writing where it was
allocated; and nothing but what was in writing has been stored to. -/
structure WriterLaw (config : WriterConfig slots LogIndex) : Prop where
  distinct : config.activity () = .idle → (config.object ()).allocatees.Pairwise fun one other =>
      one.eventSlotIndex ≠ other.eventSlotIndex
  inWriting : config.activity () = .idle → ∀ sample ∈ (config.object ()).allocatees, ∀ quality,
      sample.eventDataControl.uses quality = true →
        (config.memory.memory.status quality sample.eventSlotIndex).isInWriting = true
  kept : config.activity () = .idle → config.memory.isOverwritten = false

/-- No sample is held when the event is offered. -/
def offersWithoutSamples (config : WriterConfig slots LogIndex) : WriterEvent slots LogIndex → Bool
  | .call _ .prepareOffer => (config.object ()).allocatees.isEmpty
  | _ => true

/-! ## The invariant -/

/-- Who owns what: the samples their slots, where they were allocated. -/
def ownerOf (allocatees : List (SampleAllocateePtr slots)) (quality : QualityType)
    (slot : Fin slots) : Prop :=
  ∃ sample ∈ allocatees, sample.eventSlotIndex = slot ∧ sample.eventDataControl.uses quality = true

/-- What is known of the slots of samples. -/
def writtenBy (allocatees : List (SampleAllocateePtr slots)) : Knowledge slots :=
  fun quality slot stage => ownerOf allocatees quality slot → stage = .inWriting

theorem writtenBy_allowsWriting (allocatees : List (SampleAllocateePtr slots)) :
    (writtenBy allocatees).AllowsWriting :=
  fun _ _ _ => rfl

variable {allocatees : List (SampleAllocateePtr slots)}

/-- Without samples nothing is known. -/
theorem writtenBy_of_empty (noSamples : allocatees = []) (quality : QualityType)
    (slot : Fin slots) (stage : SlotStage) : writtenBy allocatees quality slot stage := by
  rintro ⟨sample, isHeld, _⟩
  rw [noSamples] at isHeld
  cases isHeld

theorem writtenBy_allowsDropping (noSamples : allocatees = []) :
    (writtenBy allocatees).AllowsDropping :=
  fun quality slot _ => writtenBy_of_empty noSamples quality slot .invalid

/-- The samples of an event, and what its composite says of them. -/
structure SamplesHeld (asilB : Bool) (writer : EventWriter slots) : Prop where
  distinct : writer.allocatees.Pairwise fun one other =>
    one.eventSlotIndex ≠ other.eventSlotIndex
  samples : ∀ sample ∈ writer.allocatees, sample.eventDataControl.OfQuality asilB
  composite : ∀ composite, writer.event.eventDataControlComposite = some composite →
    composite.OfQuality asilB
  -- QM is not ignored any less than when a sample was allocated
  ignored : ∀ composite, writer.event.eventDataControlComposite = some composite →
    composite.ignoreQmControl = false → ∀ sample ∈ writer.allocatees,
      sample.eventDataControl.ignoreQmControl = false

namespace SamplesHeld

variable {asilB : Bool} {writer : EventWriter slots}

/-- The slot of a sample is no other sample's. -/
theorem others (held : SamplesHeld asilB writer)
    {sample : SampleAllocateePtr slots} (isHeld : sample ∈ writer.allocatees)
    {quality : QualityType} {slot : Fin slots}
    (owns : ownerOf (writer.allocatees.erase sample) quality slot) :
    ownerOf writer.allocatees quality slot ∧ slot ≠ sample.eventSlotIndex := by
  obtain ⟨other, isOther, rfl, uses⟩ := owns
  constructor
  · exact ⟨other, List.mem_of_mem_erase isOther, rfl, uses⟩
  · have split := List.perm_cons_erase isHeld
    have distinct := split.pairwise_iff (fun different => different.symm) |>.mp held.distinct
    exact ((List.pairwise_cons.mp distinct).1 other isOther).symm

/-- A sample has been given up. -/
theorem erase (held : SamplesHeld asilB writer) (sample : SampleAllocateePtr slots)
    {event : SkeletonEvent}
    (same : event.eventDataControlComposite = writer.event.eventDataControlComposite) :
    SamplesHeld asilB
      { writer with event := event, allocatees := writer.allocatees.erase sample } := by
  constructor
  · exact held.distinct.sublist List.erase_sublist
  · intro other isOther
    exact held.samples other (List.mem_of_mem_erase isOther)
  · intro composite isComposite
    exact held.composite composite (same ▸ isComposite)
  · intro composite isComposite notIgnored other isOther
    exact held.ignored composite (same ▸ isComposite) notIgnored other
      (List.mem_of_mem_erase isOther)

/-- Nothing but the samples and the composite counts. -/
theorem congr (held : SamplesHeld asilB writer) {other : EventWriter slots}
    (sameSamples : other.allocatees = writer.allocatees) (sameComposite :
      other.event.eventDataControlComposite = writer.event.eventDataControlComposite) :
    SamplesHeld asilB other := by
  constructor
  · rw [sameSamples]
    exact held.distinct
  · rw [sameSamples]
    exact held.samples
  · rw [sameComposite]
    exact held.composite
  · rw [sameSamples, sameComposite]
    exact held.ignored

/-- Offered without samples, the event starts anew. -/
theorem offered (noSamples : writer.allocatees = [])
    (isComposite : writer.event.eventDataControlComposite = some (.new asilB)) :
    SamplesHeld asilB writer := by
  constructor
  · rw [noSamples]
    exact .nil
  · rw [noSamples]
    exact List.forall_mem_nil _
  · intro composite isNow
    rw [isComposite] at isNow
    cases isNow
    exact ⟨rfl, fun _ => rfl⟩
  · intro _ _ _
    rw [noSamples]
    exact List.forall_mem_nil _

section Allocated

variable {composite after : EventDataControlComposite} {event : SkeletonEvent}
  {ignored : Bool} {known : Knowledge slots} {later : WriterMemory slots LogIndex}

/-- Without a slot the user holds what it held. -/
theorem notAllocated (held : SamplesHeld asilB writer)
    (was : writer.event.eventDataControlComposite = some composite)
    (isNow : event.eventDataControlComposite = some after) {slot : Option (Fin slots)}
    (allocated : AllocatedBy composite known (after, slot, ignored) later) :
    SamplesHeld asilB { writer with event := event } := by
  constructor
  · exact held.distinct
  · exact held.samples
  · intro current isCurrent
    cases isNow.symm.trans isCurrent
    exact allocated.ofQuality (held.composite composite was)
  · intro current isCurrent notIgnored
    cases isNow.symm.trans isCurrent
    exact held.ignored composite was (allocated.ignored notIgnored)

/-- A new sample is the only one of its slot. -/
theorem allocated (held : SamplesHeld asilB writer)
    (was : writer.event.eventDataControlComposite = some composite)
    (isNow : event.eventDataControlComposite = some after) {slot : Fin slots}
    (owned : ∀ quality slot stage, known quality slot stage →
      writtenBy writer.allocatees quality slot stage)
    (allocated : AllocatedBy composite known (after, some slot, ignored) later) :
    SamplesHeld asilB
      { writer with event := event, allocatees := ⟨slot, after⟩ :: writer.allocatees } := by
  have ofQuality := allocated.ofQuality (held.composite composite was)
  constructor
  · refine List.pairwise_cons.mpr ⟨?_, held.distinct⟩
    intro sample isOld same
    obtain ⟨stage, knows, notWriting⟩ :=
      allocated.allocated.1 (publishedControl asilB) ofQuality.uses
    apply notWriting (owned _ _ _ knows _)
    exact ⟨sample, isOld, same.symm, (held.samples sample isOld).uses⟩
  · intro sample isHeld
    rcases List.mem_cons.mp isHeld with rfl | isOld
    · exact ofQuality
    · exact held.samples sample isOld
  · intro current isCurrent
    cases isNow.symm.trans isCurrent
    exact ofQuality
  · intro current isCurrent notIgnored sample isHeld
    cases isNow.symm.trans isCurrent
    rcases List.mem_cons.mp isHeld with rfl | isOld
    · exact notIgnored
    · exact held.ignored composite was (allocated.ignored notIgnored) sample isOld

end Allocated

/-- A sample owns its slot in every control that the event publishes in. -/
theorem owns (held : SamplesHeld asilB writer)
    {sample : SampleAllocateePtr slots} (isHeld : sample ∈ writer.allocatees)
    {composite : EventDataControlComposite}
    (isComposite : writer.event.eventDataControlComposite = some composite)
    {quality : QualityType} (uses : composite.uses quality = true) :
    ownerOf writer.allocatees quality sample.eventSlotIndex := by
  refine ⟨sample, isHeld, rfl, ?_⟩
  cases quality with
  | asilB =>
      calc sample.eventDataControl.asilBControl = asilB := (held.samples sample isHeld).asilBControl
        _ = composite.asilBControl := (held.composite composite isComposite).asilBControl.symm
        _ = true := uses
  | asilQm =>
      have notIgnored : composite.ignoreQmControl = false := by
        simpa [EventDataControlComposite.uses] using uses
      simp [EventDataControlComposite.uses,
        held.ignored composite isComposite notIgnored sample isHeld]

end SamplesHeld

/-- The slot of a new sample is known as well. -/
theorem writtenBy_cons {sample : SampleAllocateePtr slots} {quality : QualityType}
    {slot : Fin slots} {stage : SlotStage} (old : writtenBy allocatees quality slot stage)
    (new : sample.eventDataControl.uses quality = true ∧ slot = sample.eventSlotIndex →
      stage = .inWriting) :
    writtenBy (sample :: allocatees) quality slot stage := by
  rintro ⟨holder, isHeld, rfl, uses⟩
  rcases List.mem_cons.mp isHeld with rfl | isOld
  · exact new ⟨uses, rfl⟩
  · exact old ⟨holder, isOld, rfl, uses⟩

/-- What holds between two calls. -/
structure WriterInv (asilB : Bool) (memory : WriterMemory slots LogIndex)
    (writer : EventWriter slots) : Prop where
  owned : Known (writtenBy writer.allocatees) memory
  held : SamplesHeld asilB writer

section Calls

variable [DecidableEq LogIndex] {ampChecked asilB : Bool}
  {memory : WriterMemory slots LogIndex} {writer : EventWriter slots}

omit [DecidableEq LogIndex] in
theorem writerInv_stable {Op : Type} {Ret : Op → Type}
    {around : Surroundings Op Ret (WriterMemory slots LogIndex)}
    (moves : around.moves = writerEnvironment slots LogIndex) :
    around.Stable fun memory => WriterInv asilB memory writer :=
  fun before after moved holds =>
    ⟨known_stable moves before after moved holds.owned, holds.held⟩

/-! ### Calls -/

theorem eventPrepareOffer_ensures {known : Knowledge slots} (event : SkeletonEvent)
    (dropping : known.AllowsDropping) (holds : Known known memory) :
    (event.prepareOffer asilB : SkeletonProgram slots LogIndex _).Ensures
      (amidConsumers slots LogIndex ampChecked) memory
      fun event memory => Known known memory ∧
        event.eventDataControlComposite = some (.new asilB) := by
  apply Ensures.bind (cleanup_ensures asilB dropping holds)
  intro _ later holdsLater
  apply Ensures.bind (ensures_of_leavesMemory
    (getLatestTimestampAmong_leaves _ _ _) (known_stable rfl) holdsLater)
  intro currentTimestamp latest holdsLatest
  exact .done ((known_stable rfl).and_fact _) ⟨holdsLatest, rfl⟩

theorem prepareOffer_ensures (holds : WriterInv asilB memory writer)
    (noSamples : writer.allocatees = []) :
    (EventWriter.code asilB writer .prepareOffer : SkeletonProgram slots LogIndex _).Ensures
      (amidConsumers slots LogIndex ampChecked) memory
      fun reply memory => WriterInv asilB memory reply := by
  obtain ⟨event, serviceOfferedFlag, allocatees⟩ := writer
  cases noSamples
  apply Ensures.bind (eventPrepareOffer_ensures event (writtenBy_allowsDropping rfl) holds.owned)
  intro offered later known
  refine Ensures.done (writerInv_stable rfl) ?_
  exact ⟨known.1, .offered rfl known.2⟩

theorem allocate_ensures (holds : WriterInv asilB memory writer) :
    (EventWriter.code asilB writer .allocate : SkeletonProgram slots LogIndex _).Ensures
      (amidConsumers slots LogIndex ampChecked) memory
      fun reply memory => WriterInv asilB memory reply := by
  rw [EventWriter.code]
  split
  · cases isComposite : writer.event.eventDataControlComposite with
    | none =>
        rw [SkeletonEvent.allocate, isComposite]
        refine Ensures.done (writerInv_stable rfl) ?_
        exact holds
    | some composite =>
        apply Ensures.bind (eventAllocate_ensures isComposite
          (holds.held.composite composite isComposite) (writtenBy_allowsWriting _) holds.owned)
        rintro ⟨event, allocated⟩ later ⟨ignored, slot, after, isNow, _, isAllocated, allocatedBy⟩
        cases isAllocated
        refine Ensures.done (writerInv_stable rfl) ?_
        cases slot with
        | none =>
            exact ⟨allocatedBy.allocated, holds.held.notAllocated isComposite isNow allocatedBy⟩
        | some slot =>
            constructor
            · apply allocatedBy.allocated.2.mono
              intro quality other stage knows
              exact writtenBy_cons knows.1 knows.2
            · exact holds.held.allocated isComposite isNow (fun _ _ _ knows => knows) allocatedBy
  · exact .done (writerInv_stable rfl) holds

theorem discardCall_ensures (holds : WriterInv asilB memory writer)
    {sample : SampleAllocateePtr slots} (isHeld : sample ∈ writer.allocatees) :
    (EventWriter.code asilB writer (.discard sample) : SkeletonProgram slots LogIndex _).Ensures
      (amidConsumers slots LogIndex ampChecked) memory
      fun reply memory => WriterInv asilB memory reply := by
  have owned : Known (writtenBy (writer.allocatees.erase sample)) memory := by
    apply holds.owned.mono
    intro quality slot stage knows owns
    exact knows (holds.held.others isHeld owns).1
  have dropping : ∀ quality,
      writtenBy (writer.allocatees.erase sample) quality sample.eventSlotIndex .inWriting →
        writtenBy (writer.allocatees.erase sample) quality sample.eventSlotIndex .invalid :=
    fun quality _ owns => absurd rfl (holds.held.others isHeld owns).2
  apply Ensures.bind (compositeDiscard_ensures dropping owned)
  intro _ later ownedLater
  refine Ensures.done (writerInv_stable rfl) ?_
  exact ⟨ownedLater, holds.held.erase sample rfl⟩

theorem sendCall_ensures (holds : WriterInv asilB memory writer)
    {sample : SampleAllocateePtr slots} (isHeld : sample ∈ writer.allocatees) :
    (EventWriter.code asilB writer (.send sample) : SkeletonProgram slots LogIndex _).Ensures
      (amidConsumers slots LogIndex ampChecked) memory
      fun reply memory => WriterInv asilB memory reply := by
  cases isComposite : writer.event.eventDataControlComposite with
  | none =>
      rw [EventWriter.code, SkeletonEvent.send, isComposite]
      intro later moves
      constructor
      · trivial
      · intro answer
        cases answer
  | some composite =>
      have isWriting : ∀ quality, composite.uses quality = true →
          ∀ stage, writtenBy writer.allocatees quality sample.eventSlotIndex stage →
            stage = .inWriting :=
        fun quality uses stage knows => knows (holds.held.owns isHeld isComposite uses)
      have sent : (writer.event.send asilB sample : SkeletonProgram slots LogIndex _).Ensures
          (amidConsumers slots LogIndex ampChecked) memory fun event memory =>
            Known (writtenBy (writer.allocatees.erase sample)) memory ∧
              event = { writer.event with
                currentTimestamp := writer.event.currentTimestamp + 1 } := by
        apply eventSend_ensures isComposite isWriting _ _ holds.owned
        · intro quality slot stage _ knows owns
          obtain ⟨wasOwned, distinct⟩ := holds.held.others isHeld owns
          exact knows (fun same => distinct same.2) wasOwned
        · intro quality _ owns
          exact absurd rfl (holds.held.others isHeld owns).2
      apply Ensures.bind sent
      rintro event later ⟨ownedLater, rfl⟩
      refine Ensures.done (writerInv_stable rfl) ?_
      exact ⟨ownedLater, holds.held.erase sample rfl⟩

/-- Between two calls the samples have their slots, in every run in which no sample is held
when the event is offered. -/
theorem writerInv_of_reached {config : WriterConfig slots LogIndex}
    (reached : Reaches (writerSystem slots LogIndex ampChecked asilB)
      (fun config event => offersWithoutSamples config event = true) writerStart config) :
    SerialHolds (amidConsumers slots LogIndex ampChecked) (WriterInv asilB) config := by
  apply serial_run (WriterInv asilB) (fun _ _ _ _ => trivial) _ _ _ rfl reached
  · intro object before after moved holds
    have stable : (amidConsumers slots LogIndex ampChecked).Stable
        fun memory => WriterInv asilB memory object := writerInv_stable rfl
    exact stable before after moved holds
  · intro config call holds isHeld permitted
    cases call with
    | prepareOffer => exact prepareOffer_ensures holds (List.isEmpty_iff.mp permitted)
    | prepareStopOffer =>
        refine Ensures.done (writerInv_stable rfl) ?_
        exact ⟨holds.owned, holds.held.distinct, holds.held.samples, holds.held.composite,
          holds.held.ignored⟩
    | allocate => exact allocate_ensures holds
    | send sample => exact sendCall_ensures holds (List.contains_iff_mem.mp isHeld)
    | discard sample => exact discardCall_ensures holds (List.contains_iff_mem.mp isHeld)
  · constructor
    · exact known_new fun quality slot => writtenBy_of_empty rfl quality slot .invalid
    · refine ⟨.nil, List.forall_mem_nil _, ?_, ?_⟩
      · intro composite isComposite
        cases isComposite
      · intro composite isComposite
        cases isComposite

end Calls

/-! ## The law of a run -/

/-- As long as no sample is held when the event is offered, a writer has its slots for
itself. -/
theorem writerLaw_of_reached {slots : Nat} {LogIndex : Type} [DecidableEq LogIndex]
    {ampChecked asilB : Bool} {config : WriterConfig slots LogIndex}
    (reached : Reaches (writerSystem slots LogIndex ampChecked asilB)
      (fun config event => offersWithoutSamples config event = true) writerStart config) :
    WriterLaw config := by
  have holds := writerInv_of_reached reached
  constructor
  · intro idle
    exact (holds.idle idle).held.distinct
  · intro idle sample isHeld quality uses
    apply EventSlotStatus.isInWriting_iff.mpr
    apply EventSlotStatus.stage_inWriting_iff.mp
    exact (holds.idle idle).owned.stage quality _ ⟨sample, isHeld, rfl, uses⟩
  · intro idle
    exact (holds.idle idle).owned.kept

/-- The writer makes one call, whose operations all have their first outcome. -/
def writerCall (call : SkeletonCall slots) (operations : Nat) :
    List (Choice Unit (WriterMemory slots Empty) (SkeletonCall slots)) :=
  List.flatten
    [[.call () call], List.replicate operations (.perform () 0), [.finish ()]]

/-- The sample of a service without ASIL-B consumers. -/
def qmSample : SampleAllocateePtr 1 := { eventSlotIndex := 0, eventDataControl := .new false }

theorem writerLaw_of_sent : ∃ config : WriterConfig 1 Empty,
      (config.object ()).allocatees = [qmSample] ∧ WriterLaw config := by
  obtain ⟨config, reached, held⟩ := exists_reached (writerSystem 1 Empty true false)
      (fun config event => offersWithoutSamples config event = true) writerStart
      (writerCall .prepareOffer 2 ++ writerCall .allocate 3 ++
        writerCall (.send qmSample) 3 ++ writerCall .prepareStopOffer 0 ++
        writerCall .prepareOffer 2 ++ writerCall .allocate 3)
      (fun config => (config.object ()).allocatees = [qmSample])
      (by decide +kernel)
  exact ⟨config, held, writerLaw_of_reached reached⟩

/-- A sample is kept while the service is offered again: its slot is freed under it, and
allocated once more. -/
theorem writerLaw_violated : ¬ ∀ config : WriterConfig 1 Empty,
      Reaches (writerSystem 1 Empty true false) (fun _ _ => True) writerStart config →
        WriterLaw config := by
  intro law
  obtain ⟨config, reached, idle, held⟩ :=
    exists_reached (writerSystem 1 Empty true false) (fun _ _ => True) writerStart
      (writerCall .prepareOffer 2 ++ writerCall .allocate 3 ++
        writerCall .prepareStopOffer 0 ++ writerCall .prepareOffer 3 ++ writerCall .allocate 3)
      (fun config => (config.activity ()).isIdle = true ∧
        (config.object ()).allocatees = [qmSample, qmSample])
      (by decide +kernel)
  have distinct := (law config reached).distinct (Activity.isIdle_iff.mp idle)
  rw [held] at distinct
  exact (List.pairwise_cons.mp distinct).1 qmSample (List.mem_singleton_self _) rfl

end MwCom.Lola
