/-
Module: MwCom.Lola.SlotKnowledge
Purpose: What a provider knows of the slots of its event, and what each function of the
  event leaves of that, whatever consumers do in between.
Trusted boundary: whether a slot was stored to that the provider had not in writing
  (`isOverwritten`) is bookkeeping of this module.
Main exports: WriterMemory, writerOutcomes, Known, Allocated, eventAllocate_ensures,
  compositeEventReady_ensures, compositeDiscard_ensures, cleanup_ensures
-/
import MwCom.Interleaving.Serial
import MwCom.Lola.PublishedTimestamps

namespace MwCom.Lola

open Interleaving SkeletonProgram Provider EventSlotStatus
open Program (Ensures)

variable {slots : Nat} {LogIndex : Type}

/-! ## The memory of a writer -/

/-- The shared memory, and whether a slot was stored to that was not in writing. -/
structure WriterMemory (slots : Nat) (LogIndex : Type) where
  memory : SkeletonMemory slots LogIndex
  isOverwritten : Bool

/-- The operation stores to a slot that is not in writing, whatever is found there. -/
def storesElsewhere (memory : SkeletonMemory slots LogIndex) : SkeletonOp slots LogIndex → Bool
  | .eventReady quality slot _ => !(memory.status quality slot).isInWriting
  | .control quality (.store slot _) => !(memory.status quality slot).isInWriting
  | _ => false

section System

variable (slots LogIndex) [DecidableEq LogIndex] (ampChecked : Bool)

def writerOutcomes (op : SkeletonOp slots LogIndex) (memory : WriterMemory slots LogIndex) :
    List (op.Ret × WriterMemory slots LogIndex) :=
  (SkeletonOp.outcomes ampChecked op memory.memory).map fun outcome =>
    (outcome.1,
      { memory := outcome.2
        isOverwritten := memory.isOverwritten || storesElsewhere memory.memory op })

/-- The consumers move. -/
def writerEnvironment (before after : WriterMemory slots LogIndex) : Prop :=
  ConsumerStep before.memory after.memory ∧ after.isOverwritten = before.isOverwritten

end System

instance (before after : SkeletonMemory slots LogIndex) : Decidable (ConsumerStep before after) :=
  inferInstanceAs (Decidable (∀ _ _, _ ∨ _))

instance (before after : WriterMemory slots LogIndex) :
    Decidable (writerEnvironment slots LogIndex before after) :=
  inferInstanceAs (Decidable (_ ∧ _))

/-- The composite works on this control. -/
def EventDataControlComposite.uses (composite : EventDataControlComposite) : QualityType → Bool
  | .asilB => composite.asilBControl
  | .asilQm => !composite.ignoreQmControl

/-! ## Knowledge -/

theorem EventSlotStatus.stage_inWriting_iff {status : EventSlotStatus} :
    status.stage = .inWriting ↔ status.data = inWriting := by
  constructor
  · intro isStage
    rw [stage] at isStage
    split at isStage
    · cases isStage
    · split at isStage
      · rename_i isInWriting
        exact isInWriting_iff.mp isInWriting
      · cases isStage
  · intro isWord
    exact stage_eq_inWriting (isInWriting_iff.mpr isWord)

/-- A word without references. -/
theorem counted_of_unreferenced {word : StatusWord}
    (unused : (EventSlotStatus.mk word).getReferenceCount = 0) : Counted word 0 := by
  by_cases stamped : (EventSlotStatus.mk word).getTimeStamp = 0
  · exact .inl ⟨rfl, eq_invalid stamped unused⟩
  · exact .inr (.inr ⟨by decide, by rw [unused]; rfl, stamped⟩)

/-- For every control, which stages a slot may be in. -/
abbrev Knowledge (slots : Nat) := QualityType → Fin slots → SlotStage → Prop

/-- One slot of a control is known anew. -/
def Knowledge.set (known : Knowledge slots) (quality : QualityType) (slot : Fin slots)
    (only : SlotStage → Prop) : Knowledge slots :=
  fun otherQuality other stage =>
    (otherQuality = quality ∧ other = slot → only stage) ∧
      (¬(otherQuality = quality ∧ other = slot) → known otherQuality other stage)

/-- Every slot may be in writing. -/
def Knowledge.AllowsWriting (known : Knowledge slots) : Prop :=
  ∀ quality slot, known quality slot .inWriting

/-- What may be in writing may be given up. -/
def Knowledge.AllowsDropping (known : Knowledge slots) : Prop :=
  ∀ quality slot, known quality slot .inWriting → known quality slot .invalid

section Known

variable [DecidableEq LogIndex] {ampChecked : Bool}

/-- What a program of the provider meets. -/
abbrev amidConsumers (slots : Nat) (LogIndex : Type) [DecidableEq LogIndex]
    (ampChecked : Bool) :
    Surroundings (SkeletonOp slots LogIndex) SkeletonOp.Ret (WriterMemory slots LogIndex) where
  outcomes := writerOutcomes slots LogIndex ampChecked
  moves := writerEnvironment slots LogIndex
  allows _ _ := True
  may _ := True

/-- References are counted, and every slot is in a stage that it may be in. -/
structure Known (known : Knowledge slots) (memory : WriterMemory slots LogIndex) : Prop where
  counted : ∀ quality slot, Counted (memory.memory.status quality slot).data
    (memory.memory.references quality slot)
  stage : ∀ quality slot, known quality slot (memory.memory.status quality slot).stage
  kept : memory.isOverwritten = false

variable {known other : Knowledge slots} {memory before after : WriterMemory slots LogIndex}
  {quality : QualityType} {slot : Fin slots}

omit [DecidableEq LogIndex] in
/-- Some of it may be forgotten. -/
theorem Known.mono (holds : Known known memory)
    (weaken : ∀ quality slot stage, known quality slot stage → other quality slot stage) :
    Known other memory :=
  ⟨holds.counted, fun quality slot => weaken quality slot _ (holds.stage quality slot), holds.kept⟩

omit [DecidableEq LogIndex] in
/-- Consumers move no slot to another stage. -/
theorem Known.moved (holds : Known known before)
    (moved : writerEnvironment slots LogIndex before after) : Known known after := by
  have each : ∀ quality slot,
      Counted (after.memory.status quality slot).data (after.memory.references quality slot) ∧
        (after.memory.status quality slot).stage = (before.memory.status quality slot).stage := by
    intro quality slot
    rcases moved.1 quality slot with ⟨word, count⟩ | step
    · rw [word, count]
      exact ⟨holds.counted quality slot, rfl⟩
    · exact (holds.counted quality slot).step step
  constructor
  · intro quality slot
    exact (each quality slot).1
  · intro quality slot
    rw [(each quality slot).2]
    exact holds.stage quality slot
  · rw [moved.2]
    exact holds.kept

omit [DecidableEq LogIndex] in
theorem known_stable {Op : Type} {Ret : Op → Type}
    {around : Surroundings Op Ret (WriterMemory slots LogIndex)}
    (moves : around.moves = writerEnvironment slots LogIndex) :
    around.Stable (Known known) := by
  intro before after moved holds
  rw [moves] at moved
  exact holds.moved moved

/-- A word in a control. -/
def WriterMemory.setSlot (memory : WriterMemory slots LogIndex) (quality : QualityType)
    (slot : Fin slots) (word : StatusWord) : WriterMemory slots LogIndex :=
  { memory with
    memory := memory.memory.setControl quality
      ((memory.memory.control quality).setSlot slot word) }

variable {word : StatusWord}

omit [DecidableEq LogIndex] in
theorem WriterMemory.status_setSlot_self :
    ((memory.setSlot quality slot word).memory.status quality slot).data = word := by
  simp [setSlot]

omit [DecidableEq LogIndex] in
theorem WriterMemory.status_setSlot_of_ne {otherQuality : QualityType} {otherSlot : Fin slots}
    (distinct : ¬(otherQuality = quality ∧ otherSlot = slot)) :
    (memory.setSlot quality slot word).memory.status otherQuality otherSlot =
      memory.memory.status otherQuality otherSlot := by
  by_cases isQuality : otherQuality = quality
  · subst isQuality
    rw [setSlot, SkeletonMemory.status_setControl_self,
      EventControl.stateSlots_setSlot_of_ne _ fun isSlot => distinct ⟨rfl, isSlot⟩]
    rfl
  · exact SkeletonMemory.status_setControl_of_ne _ isQuality _ _

omit [DecidableEq LogIndex] in
/-- A word is stored to a slot without references. -/
theorem Known.store (holds : Known known memory)
    (unreferenced : memory.memory.references quality slot = 0) (fresh : Counted word 0) :
    Known (known.set quality slot (· = (EventSlotStatus.mk word).stage))
      (memory.setSlot quality slot word) := by
  constructor
  · intro otherQuality otherSlot
    by_cases same : otherQuality = quality ∧ otherSlot = slot
    · obtain ⟨rfl, rfl⟩ := same
      rw [WriterMemory.status_setSlot_self]
      rw [← unreferenced] at fresh
      exact fresh
    · rw [WriterMemory.status_setSlot_of_ne same]
      exact holds.counted otherQuality otherSlot
  · intro otherQuality otherSlot
    constructor
    · rintro ⟨rfl, rfl⟩
      exact congrArg (fun word => (EventSlotStatus.mk word).stage) WriterMemory.status_setSlot_self
    · intro distinct
      rw [WriterMemory.status_setSlot_of_ne distinct]
      exact holds.stage otherQuality otherSlot
  · exact holds.kept

omit [DecidableEq LogIndex] in
/-- A slot in writing has no references. -/
theorem Known.unreferenced (holds : Known known memory)
    (isInWriting : (memory.memory.status quality slot).stage = .inWriting) :
    memory.memory.references quality slot = 0 :=
  (holds.counted quality slot).unreferenced_of_stage isInWriting

omit [DecidableEq LogIndex] in
/-- In new memory every slot is invalid. -/
theorem known_new (allowed : ∀ quality slot, known quality slot .invalid) :
    Known known (⟨.new, false⟩ : WriterMemory slots LogIndex) :=
  ⟨fun _ _ => .inl ⟨rfl, rfl⟩, allowed, rfl⟩

omit [DecidableEq LogIndex] in
/-- Nothing more is known than what is found. -/
theorem Known.found (holds : Known known memory) :
    Known (known.set quality slot (· = (memory.memory.status quality slot).stage)) memory := by
  refine ⟨holds.counted, ?_, holds.kept⟩
  intro otherQuality otherSlot
  constructor
  · rintro ⟨rfl, rfl⟩
    rfl
  · intro _
    exact holds.stage otherQuality otherSlot

/-! ### Operations -/

variable (ampChecked) in
theorem load_writerOutcome (outcome : (word, after) ∈ writerOutcomes slots LogIndex ampChecked
      (.control quality (.load slot)) before) :
    word = (before.memory.status quality slot).data ∧ after = before := by
  obtain ⟨⟨given, memory⟩, possible, same⟩ := List.mem_map.mp outcome
  cases same
  obtain ⟨inner, isInner, sameInner⟩ := List.mem_map.mp possible
  cases sameInner
  cases List.mem_singleton.mp isInner
  exact ⟨rfl, by simp [storesElsewhere]⟩

variable (ampChecked) in
theorem store_writerOutcome {answer : Unit}
    (outcome : (answer, after) ∈ writerOutcomes slots LogIndex ampChecked
      (.control quality (.store slot word)) before)
    (isInWriting : (before.memory.status quality slot).stage = .inWriting) :
    after = before.setSlot quality slot word := by
  obtain ⟨⟨given, memory⟩, possible, same⟩ := List.mem_map.mp outcome
  cases same
  obtain ⟨inner, isInner, sameInner⟩ := List.mem_map.mp possible
  cases sameInner
  cases List.mem_singleton.mp isInner
  simp [storesElsewhere, WriterMemory.setSlot, stage_inWriting_iff.mp isInWriting]

variable (ampChecked) in
theorem eventReady_writerOutcome {timeStamp : EventTimeStamp} {answer : Unit}
    (outcome : (answer, after) ∈ writerOutcomes slots LogIndex ampChecked
      (.eventReady quality slot timeStamp) before)
    (isInWriting : (before.memory.status quality slot).stage = .inWriting) :
    after = before.setSlot quality slot (ofTimeStamp timeStamp 0).data := by
  obtain ⟨⟨given, memory⟩, possible, same⟩ := List.mem_map.mp outcome
  cases same
  cases List.mem_singleton.mp possible
  simp [storesElsewhere, WriterMemory.setSlot, stage_inWriting_iff.mp isInWriting]

variable (ampChecked) in
theorem weak_writerOutcome {expected desired : StatusWord} {won : Bool}
    (outcome : (won, after) ∈ writerOutcomes slots LogIndex ampChecked
      (.control quality (.compareExchangeWeak slot expected desired)) before) :
    won = true ∧ (before.memory.status quality slot).data = expected ∧
        after = before.setSlot quality slot desired ∨
      won = false ∧ after = before := by
  obtain ⟨⟨given, memory⟩, possible, same⟩ := List.mem_map.mp outcome
  cases same
  obtain ⟨⟨reply, control⟩, isInner, sameInner⟩ := List.mem_map.mp possible
  cases sameInner
  rcases ControlOp.compareExchangeWeak_outcome isInner with ⟨rfl, found, rfl⟩ | ⟨rfl, rfl⟩
  · exact .inl ⟨rfl, found, by simp [storesElsewhere, WriterMemory.setSlot]⟩
  · exact .inr ⟨rfl, by simp [storesElsewhere]⟩

variable (ampChecked) in
theorem strong_writerOutcome {expected desired : StatusWord} {won : Bool}
    (outcome : (won, after) ∈ writerOutcomes slots LogIndex ampChecked
      (.control quality (.compareExchangeStrong slot expected desired)) before) :
    won = true ∧ (before.memory.status quality slot).data = expected ∧
        after = before.setSlot quality slot desired ∨
      won = false ∧ after = before := by
  obtain ⟨⟨given, memory⟩, possible, same⟩ := List.mem_map.mp outcome
  cases same
  obtain ⟨⟨reply, control⟩, isInner, sameInner⟩ := List.mem_map.mp possible
  cases sameInner
  rcases ControlOp.compareExchangeStrong_outcome isInner with ⟨rfl, found, rfl⟩ | ⟨rfl, rfl⟩
  · exact .inl ⟨rfl, found, by simp [storesElsewhere, WriterMemory.setSlot]⟩
  · exact .inr ⟨rfl, by simp [storesElsewhere]⟩

/-! ### Programs on one control -/

/-- What a program on one control meets. -/
abbrev onControlAmidConsumers (slots : Nat) (LogIndex : Type) [DecidableEq LogIndex]
    (ampChecked : Bool) (quality : QualityType) :
    Surroundings (ControlOp slots LogIndex) ControlOp.Ret (WriterMemory slots LogIndex) where
  outcomes op := writerOutcomes slots LogIndex ampChecked (.control quality op)
  moves := writerEnvironment slots LogIndex
  allows _ _ := True
  may _ := True

theorem onControl_ensures {α : Type} {program : ControlProgram slots LogIndex α}
    {post : α → WriterMemory slots LogIndex → Prop}
    (ensured : program.Ensures (onControlAmidConsumers slots LogIndex ampChecked quality)
      memory post) :
    (onControl quality program).Ensures (amidConsumers slots LogIndex ampChecked) memory
      post :=
  .lift rfl (fun _ may => may) (fun _ _ _ _ allowed outcome => ⟨allowed, outcome⟩) ensured

def ControlOp.IsLoad : ControlOp slots LogIndex → Prop
  | .load _ => True
  | _ => False

/-- The operation does not touch the shared memory. -/
def SkeletonOp.LeavesMemory : SkeletonOp slots LogIndex → Prop
  | .recreateUnused => False
  | .control _ op => op.IsLoad
  | .eventReady _ _ _ => False
  | .notifyEvent _ => True
  | .disconnectQmConsumers => True

variable (ampChecked) in
theorem leavesMemory_writerOutcome {op : SkeletonOp slots LogIndex} (leaves : op.LeavesMemory)
    {answer : op.Ret}
    (outcome : (answer, after) ∈ writerOutcomes slots LogIndex ampChecked op before) :
    after = before := by
  cases op with
  | control quality op =>
      cases op with
      | load slot => exact (load_writerOutcome ampChecked outcome).2
      | _ => exact leaves.elim
  | recreateUnused | eventReady quality slot timeStamp => exact leaves.elim
  | notifyEvent quality | disconnectQmConsumers =>
      obtain ⟨⟨given, memory⟩, possible, same⟩ := List.mem_map.mp outcome
      cases same
      cases List.mem_singleton.mp possible
      simp [storesElsewhere]

variable {Kept : WriterMemory slots LogIndex → Prop}

/-- A program that leaves the memory alone keeps what consumers keep. -/
theorem ensures_of_leavesMemory {α : Type} {program : SkeletonProgram slots LogIndex α}
    (leaves : program.Performs SkeletonOp.LeavesMemory)
    (stable : (amidConsumers slots LogIndex ampChecked).Stable Kept) (kept : Kept memory) :
    program.Ensures (amidConsumers slots LogIndex ampChecked) memory fun _ => Kept := by
  apply Ensures.of_performs leaves stable (fun _ _ => trivial) _ kept
  intro op before answer after isLeft _ outcome keptBefore
  rw [leavesMemory_writerOutcome ampChecked isLeft outcome]
  exact keptBefore

theorem ensures_of_controlLoads {α : Type} {program : ControlProgram slots LogIndex α}
    (loads : program.Performs ControlOp.IsLoad)
    (stable : (onControlAmidConsumers slots LogIndex ampChecked quality).Stable Kept)
    (kept : Kept memory) :
    program.Ensures (onControlAmidConsumers slots LogIndex ampChecked quality) memory
      fun _ => Kept := by
  apply Ensures.of_performs loads stable (fun _ _ => trivial) _ kept
  intro op before answer after isLoad _ outcome keptBefore
  have leaves : (SkeletonOp.control quality op : SkeletonOp slots LogIndex).LeavesMemory := isLoad
  rw [leavesMemory_writerOutcome ampChecked leaves outcome]
  exact keptBefore

omit [DecidableEq LogIndex] in
theorem findOldestUnusedSlotAmong_loads (among : List (Fin slots))
    (oldestTimeStamp : EventTimeStamp) (selectedIndex : Option (Fin slots)) :
    (EventDataControl.findOldestUnusedSlotAmong among oldestTimeStamp selectedIndex :
      ControlProgram slots LogIndex _).Performs ControlOp.IsLoad := by
  induction among generalizing oldestTimeStamp selectedIndex with
  | nil => exact .done _
  | cons currentIndex rest ih =>
      apply Program.Performs.perform trivial
      intro word
      apply Program.Performs.ite
      · intro _
        exact .done _
      · intro _
        apply Program.Performs.ite
        · intro _
          exact ih _ _
        · intro _
          exact ih _ _

omit [DecidableEq LogIndex] in
theorem getNextFreeMultiSlotAmong_leaves (among : List (Fin slots))
    (oldestTimeStamp : EventTimeStamp) (possibleIndex : Option (Fin slots)) :
    (EventDataControlComposite.getNextFreeMultiSlotAmong among oldestTimeStamp possibleIndex :
      SkeletonProgram slots LogIndex _).Performs SkeletonOp.LeavesMemory := by
  induction among generalizing oldestTimeStamp possibleIndex with
  | nil =>
      cases possibleIndex with
      | none | some slot => exact .done _
  | cons slotIndex rest ih =>
      apply Program.Performs.perform trivial
      intro wordQm
      apply Program.Performs.perform trivial
      intro wordB
      apply Program.Performs.ite
      · intro _
        exact ih _ _
      · intro _
        exact ih _ _

/-! ### Allocation -/

/-- A slot that was allocated in these controls, where it need not have been in writing. -/
def Allocated (known : Knowledge slots) (controls : QualityType → Prop) :
    Option (Fin slots) → WriterMemory slots LogIndex → Prop
  | none, memory => Known known memory
  | some slot, memory =>
      (∀ quality, controls quality → ∃ stage, known quality slot stage ∧ stage ≠ .inWriting) ∧
        Known (fun quality other stage => known quality other stage ∧
          (controls quality ∧ other = slot → stage = .inWriting)) memory

omit [DecidableEq LogIndex] in
theorem allocated_stable {Op : Type} {Ret : Op → Type}
    {around : Surroundings Op Ret (WriterMemory slots LogIndex)}
    (moves : around.moves = writerEnvironment slots LogIndex)
    {controls : QualityType → Prop} {allocated : Option (Fin slots)} :
    around.Stable (Allocated known controls allocated) := by
  intro before after moved holds
  cases allocated with
  | none => exact known_stable moves before after moved holds
  | some slot => exact ⟨holds.1, known_stable moves before after moved holds.2⟩

omit [DecidableEq LogIndex] in
theorem Allocated.congr {controls same : QualityType → Prop} {allocated : Option (Fin slots)}
    (holds : Allocated known controls allocated memory)
    (iff : ∀ quality, same quality ↔ controls quality) :
    Allocated known same allocated memory := by
  have isSame : same = controls := funext fun quality => propext (iff quality)
  rw [isSame]
  exact holds

omit [DecidableEq LogIndex] in
/-- A free slot is taken. -/
theorem Known.take (holds : Known known memory) (writing : known.AllowsWriting)
    (found : (memory.memory.status quality slot).data = word)
    (unused : (EventSlotStatus.mk word).getReferenceCount = 0)
    (free : (EventSlotStatus.mk word).isInWriting = false) :
    (∃ stage, known quality slot stage ∧ stage ≠ .inWriting) ∧
      Known (fun otherQuality other stage => known otherQuality other stage ∧
          (otherQuality = quality ∧ other = slot → stage = .inWriting))
        (memory.setSlot quality slot inWriting) := by
  subst found
  constructor
  · refine ⟨_, holds.stage quality slot, ?_⟩
    intro isStage
    have isInWriting := isInWriting_iff.mpr (stage_inWriting_iff.mp isStage)
    rw [free] at isInWriting
    cases isInWriting
  · have fresh : Counted inWriting 0 := .inr (.inl ⟨rfl, rfl⟩)
    apply (holds.store ((holds.counted quality slot).unreferenced unused) fresh).mono
    intro otherQuality other stage knows
    by_cases same : otherQuality = quality ∧ other = slot
    · have isStage : stage = .inWriting := by
        rw [knows.1 same]
        exact stage_inWriting_iff.mpr rfl
      rw [isStage]
      exact ⟨writing otherQuality other, fun _ => rfl⟩
    · exact ⟨knows.2 same, fun isSame => absurd isSame same⟩

theorem allocateRetries_ensures (remaining : Nat) (selectedIndex : Option (Fin slots))
    (writing : known.AllowsWriting) (holds : Known known memory) :
    (EventDataControl.allocateRetries remaining selectedIndex :
        ControlProgram slots LogIndex _).Ensures
      (onControlAmidConsumers slots LogIndex ampChecked quality) memory
      fun result memory =>
        Known known memory ∧ (EventDataControl.maxAllocateRetries < result.1 ∨
          Allocated known (· = quality) result.2 memory) := by
  induction remaining generalizing memory selectedIndex with
  | zero =>
      intro later moves
      constructor
      · exact (known_stable rfl).star moves holds
      · exact .inl (Nat.lt_succ_self _)
  | succ remaining ih =>
      rw [EventDataControl.allocateRetries]
      have searched : (EventDataControl.findOldestUnusedSlot :
          ControlProgram slots LogIndex _).Ensures
          (onControlAmidConsumers slots LogIndex ampChecked quality) memory
            fun _ => Known known :=
        ensures_of_controlLoads (findOldestUnusedSlotAmong_loads _ _ _) (known_stable rfl) holds
      apply Ensures.bind searched
      intro found later holdsLater
      cases found with
      | none => exact ih none holdsLater
      | some index =>
          apply Ensures.perform (Known known) (known_stable rfl) holdsLater trivial
          intro _ word before holdsBefore outcome _
          obtain ⟨rfl, rfl⟩ := load_writerOutcome ampChecked outcome
          dsimp only
          split
          · exact ih (some index) holdsBefore
          · rename_i usable
            simp only [Bool.or_eq_true, bne_iff_ne, not_or, not_not, Bool.not_eq_true] at usable
            apply Ensures.perform (Known known) (known_stable rfl) holdsBefore trivial
            intro middle won swapped holdsMiddle outcome _
            rcases weak_writerOutcome ampChecked outcome with ⟨rfl, found, rfl⟩ | ⟨rfl, rfl⟩
            · obtain ⟨free, taken⟩ := holdsMiddle.take writing found usable.1 usable.2
              intro latest moves
              have holdsLatest := (known_stable rfl).star moves taken
              constructor
              · exact holdsLatest.mono fun quality slot stage knows => knows.1
              · refine .inr ⟨?_, holdsLatest⟩
                intro otherQuality same
                rw [same]
                exact free
            · exact ih (some index) holdsMiddle

/-- Allocation in one of the controls. -/
theorem allocateNextSlot_ensures (writing : known.AllowsWriting) (holds : Known known memory) :
    (onControl quality EventDataControl.allocateNextSlot : SkeletonProgram slots LogIndex _).Ensures
      (amidConsumers slots LogIndex ampChecked) memory
      (Allocated known (· = quality)) := by
  apply onControl_ensures
  apply Ensures.bind (allocateRetries_ensures _ none writing holds)
  intro result later allocated
  obtain ⟨retryCounter, selectedIndex⟩ := result
  dsimp only at allocated ⊢
  split
  · intro latest moves
    exact (known_stable rfl).star moves allocated.1
  · rename_i enough
    intro latest moves
    rcases allocated.2 with tooMany | slotAllocated
    · exact absurd tooMany.le enough
    · exact (allocated_stable rfl).star moves slotAllocated

/-! ### Allocation in both controls -/

theorem tryLockSlot_ensures (expectedTimeStamp : EventTimeStamp)
    (writing : known.AllowsWriting) (holds : Known known memory) :
    (EventDataControlComposite.tryLockSlot slot expectedTimeStamp :
        SkeletonProgram slots LogIndex _).Ensures (amidConsumers slots LogIndex ampChecked)
      memory
      fun won memory =>
        Allocated known (fun _ => True) (if won then some slot else none) memory := by
  apply Ensures.perform (Known known) (known_stable rfl) holds trivial
  intro _ wordQm first holdsFirst outcome _
  obtain ⟨rfl, rfl⟩ := load_writerOutcome ampChecked outcome
  have knownQm := holdsFirst.stage .asilQm slot
  apply Ensures.perform (Known known) (known_stable rfl) holdsFirst trivial
  intro _ wordB second holdsSecond outcome _
  obtain ⟨rfl, rfl⟩ := load_writerOutcome ampChecked outcome
  dsimp only
  split
  · exact .done (allocated_stable rfl) holdsSecond
  · rename_i usable
    simp only [isUsed, Bool.or_eq_true, bne_iff_ne, not_or, not_not, Bool.not_eq_true] at usable
    obtain ⟨⟨unusedQm, _⟩, unusedB, _⟩ := usable
    apply Ensures.perform (Known known) (known_stable rfl) holdsSecond trivial
    intro third wonQm _ holdsThird outcome _
    rcases strong_writerOutcome ampChecked outcome with ⟨rfl, found, rfl⟩ | ⟨rfl, rfl⟩
    · obtain ⟨freeQm, takenQm⟩ := holdsThird.take writing found unusedQm.1 unusedQm.2
      apply Ensures.perform _ (known_stable rfl) takenQm trivial
      intro fourth wonB _ holdsFourth outcome _
      rcases strong_writerOutcome ampChecked outcome with ⟨rfl, foundB, rfl⟩ | ⟨rfl, rfl⟩
      · have writingFourth : Knowledge.AllowsWriting fun quality other stage =>
            known quality other stage ∧ (quality = .asilQm ∧ other = slot → stage = .inWriting) :=
          fun quality other => ⟨writing quality other, fun _ => rfl⟩
        obtain ⟨freeB, takenB⟩ := holdsFourth.take writingFourth foundB unusedB.1 unusedB.2
        apply Ensures.done (allocated_stable rfl)
        constructor
        · intro quality _
          cases quality with
          | asilQm => exact freeQm
          | asilB =>
              obtain ⟨stage, knows, notWriting⟩ := freeB
              exact ⟨stage, knows.1, notWriting⟩
        · apply takenB.mono
          rintro quality other stage ⟨⟨knows, ifQm⟩, ifB⟩
          refine ⟨knows, ?_⟩
          rintro ⟨_, rfl⟩
          cases quality with
          | asilQm => exact ifQm ⟨rfl, rfl⟩
          | asilB => exact ifB ⟨rfl, rfl⟩
      · -- the slot of the QM control is given back
        apply Ensures.perform _ (known_stable rfl) holdsFourth trivial
        intro fifth _ _ holdsFifth outcome _
        have isInWriting := (holdsFifth.stage .asilQm slot).2 ⟨rfl, rfl⟩
        rw [store_writerOutcome ampChecked outcome isInWriting]
        apply Ensures.done (allocated_stable rfl)
        show Known known _
        apply (holdsFifth.store (holdsFifth.unreferenced isInWriting)
          (counted_of_unreferenced unusedQm.1)).mono
        intro quality other stage knows
        by_cases same : quality = .asilQm ∧ other = slot
        · rw [knows.1 same, same.1, same.2]
          exact knownQm
        · exact (knows.2 same).1
    · exact .done (allocated_stable rfl) holdsThird

theorem allocateMultiRetries_ensures (remaining : Nat) (writing : known.AllowsWriting)
    (holds : Known known memory) :
    (EventDataControlComposite.allocateMultiRetries remaining :
        SkeletonProgram slots LogIndex _).Ensures (amidConsumers slots LogIndex ampChecked)
      memory (Allocated known fun _ => True) := by
  induction remaining generalizing memory with
  | zero => exact .done (allocated_stable rfl) holds
  | succ remaining ih =>
      rw [EventDataControlComposite.allocateMultiRetries]
      apply Ensures.bind (ensures_of_leavesMemory
        (getNextFreeMultiSlotAmong_leaves _ _ _) (known_stable rfl) holds)
      intro found later holdsLater
      cases found with
      | none => exact ih holdsLater
      | some candidate =>
          apply Ensures.bind (tryLockSlot_ensures candidate.2 writing holdsLater)
          intro won latest locked
          cases won with
          | false => exact ih locked
          | true => exact .done (allocated_stable rfl) locked

/-- What an allocation leaves: the quality of the composite stays, its QM control is not
considered again once it is ignored. -/
structure AllocatedBy (composite : EventDataControlComposite) (known : Knowledge slots)
    (result : EventDataControlComposite × Option (Fin slots) × Bool)
    (memory : WriterMemory slots LogIndex) : Prop where
  quality : result.1.asilBControl = composite.asilBControl
  ignored : result.1.ignoreQmControl = false → composite.ignoreQmControl = false
  qmOnly : composite.asilBControl = false → result.1 = composite
  allocated : Allocated known (fun quality => result.1.uses quality = true) result.2.1 memory

variable {composite : EventDataControlComposite}

omit [DecidableEq LogIndex] in
theorem allocatedBy_stable {Op : Type} {Ret : Op → Type}
    {around : Surroundings Op Ret (WriterMemory slots LogIndex)}
    (moves : around.moves = writerEnvironment slots LogIndex)
    {result : EventDataControlComposite × Option (Fin slots) × Bool} :
    around.Stable (AllocatedBy composite known result) :=
  fun before after moved holds =>
    ⟨holds.quality, holds.ignored, holds.qmOnly,
      allocated_stable moves before after moved holds.allocated⟩

theorem compositeAllocate_ensures
    (qmOnly : composite.asilBControl = false → composite.ignoreQmControl = false)
    (writing : known.AllowsWriting) (holds : Known known memory) :
    (composite.allocateNextSlot : SkeletonProgram slots LogIndex _).Ensures
      (amidConsumers slots LogIndex ampChecked) memory (AllocatedBy composite known) := by
  obtain ⟨asilBControl, ignoreQmControl⟩ := composite
  rw [EventDataControlComposite.allocateNextSlot]
  cases asilBControl with
  | false =>
      cases qmOnly rfl
      apply Ensures.bind (allocateNextSlot_ensures writing holds)
      intro slot later allocated
      apply Ensures.done (allocatedBy_stable rfl)
      refine ⟨rfl, fun isFalse => isFalse, fun _ => rfl, allocated.congr ?_⟩
      intro quality
      cases quality <;> simp [EventDataControlComposite.uses]
  | true =>
      cases ignoreQmControl with
      | true =>
          apply Ensures.bind (allocateNextSlot_ensures writing holds)
          intro slot later allocated
          apply Ensures.done (allocatedBy_stable rfl)
          refine ⟨rfl, fun isFalse => isFalse, fun _ => rfl, allocated.congr ?_⟩
          intro quality
          cases quality <;> simp [EventDataControlComposite.uses]
      | false =>
          apply Ensures.bind (allocateMultiRetries_ensures _ writing holds)
          intro found later locked
          cases found with
          | some slot =>
              apply Ensures.done (allocatedBy_stable rfl)
              refine ⟨rfl, fun isFalse => isFalse, fun _ => rfl, locked.congr ?_⟩
              intro quality
              cases quality <;> simp [EventDataControlComposite.uses]
          | none =>
              apply Ensures.bind (allocateNextSlot_ensures writing locked)
              intro slot latest allocated
              apply Ensures.done (allocatedBy_stable rfl)
              refine ⟨rfl, ?_, ?_, allocated.congr ?_⟩
              · intro isFalse
                cases isFalse
              · intro isFalse
                cases isFalse
              · intro quality
                cases quality <;> simp [EventDataControlComposite.uses]

/-! ### Publishing -/

omit [DecidableEq LogIndex] in
theorem EventSlotStatus.stage_ofTimeStamp {timeStamp : EventTimeStamp} (notZero : timeStamp ≠ 0) :
    (ofTimeStamp timeStamp 0).stage = .readable timeStamp := by
  have stamped : (ofTimeStamp timeStamp 0).getTimeStamp ≠ 0 := by
    rw [getTimeStamp_ofTimeStamp]
    exact notZero
  obtain ⟨notInvalid, notInWriting⟩ := readable_of_timeStamp stamped
  rw [stage_eq_readable notInvalid notInWriting, getTimeStamp_ofTimeStamp]

theorem eventReady_ensures (timeStamp : EventTimeStamp)
    (isWriting : ∀ stage, known quality slot stage → stage = .inWriting)
    (holds : Known known memory) :
    (SkeletonProgram.eventReady quality slot timeStamp :
        SkeletonProgram slots LogIndex Unit).Ensures (amidConsumers slots LogIndex ampChecked)
      memory fun _ => Known
        (known.set quality slot (· = (ofTimeStamp timeStamp 0).stage)) := by
  apply Ensures.perform (Known known) (known_stable rfl) holds trivial
  intro before _ after holdsBefore outcome _
  have isInWriting := isWriting _ (holdsBefore.stage quality slot)
  rw [eventReady_writerOutcome ampChecked outcome isInWriting]
  apply Ensures.done (known_stable rfl)
  exact holdsBefore.store (holdsBefore.unreferenced isInWriting)
    (counted_of_unreferenced (getReferenceCount_ofTimeStamp _ _))

theorem onlyIf_ensures {program : SkeletonProgram slots LogIndex Unit} {condition : Bool}
    (stable : (amidConsumers slots LogIndex ampChecked).Stable Kept) (kept : Kept memory)
    (ensured : condition = true → program.Ensures (amidConsumers slots LogIndex ampChecked)
      memory fun _ => Kept) :
    (onlyIf condition program).Ensures (amidConsumers slots LogIndex ampChecked) memory
      fun _ => Kept := by
  cases condition with
  | false => exact .done stable kept
  | true => exact ensured rfl

/-- The sample is published in the controls that the composite works on. -/
theorem compositeEventReady_ensures (timeStamp : EventTimeStamp)
    (isWriting : ∀ quality, composite.uses quality = true →
      ∀ stage, known quality slot stage → stage = .inWriting)
    (holds : Known known memory) :
    (composite.eventReady slot timeStamp : SkeletonProgram slots LogIndex Unit).Ensures
      (amidConsumers slots LogIndex ampChecked) memory
      fun _ => Known fun quality other stage =>
        (composite.uses quality = true ∧ other = slot → stage = (ofTimeStamp timeStamp 0).stage) ∧
          (¬(composite.uses quality = true ∧ other = slot) → known quality other stage) := by
  obtain ⟨asilBControl, ignoreQmControl⟩ := composite
  let storedB : Knowledge slots :=
    if asilBControl then
      known.set .asilB slot (· = (ofTimeStamp timeStamp 0).stage)
    else
      known
  have afterB : (onlyIf asilBControl (SkeletonProgram.eventReady .asilB slot timeStamp) :
      SkeletonProgram slots LogIndex Unit).Ensures (amidConsumers slots LogIndex ampChecked)
      memory fun _ => Known storedB := by
    cases asilBControl with
    | false => exact .done (known_stable rfl) holds
    | true => exact eventReady_ensures timeStamp (isWriting .asilB rfl) holds
  apply Ensures.bind afterB
  intro _ later holdsLater
  cases ignoreQmControl with
  | true =>
      refine Ensures.done (known_stable rfl) (holdsLater.mono ?_)
      intro quality other stage knows
      cases quality <;> cases asilBControl <;>
        simp_all [storedB, Knowledge.set, EventDataControlComposite.uses]
  | false =>
      have isWritingQm : ∀ stage, storedB .asilQm slot stage → stage = .inWriting := by
        intro stage knows
        apply isWriting .asilQm rfl
        cases asilBControl <;> simpa [storedB, Knowledge.set] using knows
      apply (eventReady_ensures timeStamp isWritingQm holdsLater).mono
      intro _ latest holdsLatest
      apply holdsLatest.mono
      intro quality other stage knows
      cases quality <;> cases asilBControl <;>
        simp_all [storedB, Knowledge.set, EventDataControlComposite.uses]

/-! ### Giving up -/

/-- A slot that may be dropped is given up if it is in writing. -/
theorem discard_ensures (dropping : known quality slot .inWriting → known quality slot .invalid)
    (holds : Known known memory) :
    (onControl quality (EventDataControl.discard slot) :
        SkeletonProgram slots LogIndex Unit).Ensures (amidConsumers slots LogIndex ampChecked)
      memory fun _ => Known known := by
  apply onControl_ensures
  apply Ensures.perform (Known known) (known_stable rfl) holds trivial
  intro _ word before holdsBefore outcome _
  obtain ⟨rfl, rfl⟩ := load_writerOutcome ampChecked outcome
  dsimp only
  split
  · rename_i found
    have isInWriting : (before.memory.status quality slot).stage = .inWriting :=
      stage_eq_inWriting found
    have mayDrop : known quality slot .invalid := by
      apply dropping
      rw [← isInWriting]
      exact holdsBefore.stage quality slot
    apply Ensures.perform _ (known_stable rfl) holdsBefore.found trivial
    intro middle _ after holdsMiddle outcome _
    have stillInWriting : (middle.memory.status quality slot).stage = .inWriting := by
      rw [(holdsMiddle.stage quality slot).1 ⟨rfl, rfl⟩]
      exact isInWriting
    rw [store_writerOutcome ampChecked outcome stillInWriting]
    apply Ensures.done (known_stable rfl)
    apply (holdsMiddle.store (holdsMiddle.unreferenced stillInWriting)
      (counted_of_unreferenced getReferenceCount_invalid)).mono
    intro otherQuality other stage knows
    by_cases same : otherQuality = quality ∧ other = slot
    · rw [knows.1 same, same.1, same.2]
      exact mayDrop
    · exact (knows.2 same).2 same
  · exact .done (known_stable rfl) holdsBefore

theorem compositeDiscard_ensures
    (dropping : ∀ quality, known quality slot .inWriting → known quality slot .invalid)
    (holds : Known known memory) :
    (composite.discard slot : SkeletonProgram slots LogIndex Unit).Ensures
      (amidConsumers slots LogIndex ampChecked) memory fun _ => Known known := by
  apply Ensures.bind
  · exact onlyIf_ensures (known_stable rfl) holds fun _ =>
      discard_ensures (dropping .asilB) holds
  · intro _ later holdsLater
    exact onlyIf_ensures (known_stable rfl) holdsLater fun _ =>
      discard_ensures (dropping .asilQm) holdsLater

omit [DecidableEq LogIndex] in
theorem disconnectQmConsumers_leaves :
    (disconnectQmConsumers : SkeletonProgram slots LogIndex Unit).Performs
      SkeletonOp.LeavesMemory :=
  ⟨trivial, fun _ => trivial⟩

omit [DecidableEq LogIndex] in
theorem notifyEvent_leaves (quality : QualityType) :
    (notifyEvent quality : SkeletonProgram slots LogIndex Unit).Performs
      SkeletonOp.LeavesMemory :=
  ⟨trivial, fun _ => trivial⟩

/-- A message to consumers, if it is sent. -/
theorem onlyIf_message {message : SkeletonProgram slots LogIndex Unit} {condition : Bool}
    (performs : message.Performs SkeletonOp.LeavesMemory)
    (stable : (amidConsumers slots LogIndex ampChecked).Stable Kept) (kept : Kept memory) :
    (onlyIf condition message : SkeletonProgram slots LogIndex Unit).Ensures
      (amidConsumers slots LogIndex ampChecked) memory fun _ => Kept :=
  onlyIf_ensures stable kept fun _ => ensures_of_leavesMemory performs stable kept

/-! ### Offering -/

theorem removeAllocationsForWritingAmong_ensures (among : List (Fin slots))
    (dropping : known.AllowsDropping) (holds : Known known memory) :
    (EventDataControl.removeAllocationsForWritingAmong among :
        ControlProgram slots LogIndex Unit).Ensures
      (onControlAmidConsumers slots LogIndex ampChecked quality) memory
      fun _ => Known known := by
  induction among generalizing memory with
  | nil => exact .done (known_stable rfl) holds
  | cons slot rest ih =>
      apply Ensures.perform (Known known) (known_stable rfl) holds trivial
      intro _ word before holdsBefore outcome _
      obtain ⟨rfl, rfl⟩ := load_writerOutcome ampChecked outcome
      dsimp only
      split
      · rename_i isInWriting
        apply Ensures.perform (Known known) (known_stable rfl) holdsBefore trivial
        intro middle won after holdsMiddle outcome _
        rcases weak_writerOutcome ampChecked outcome with ⟨rfl, found, rfl⟩ | ⟨rfl, rfl⟩
        · apply ih
          have stage : (middle.memory.status quality slot).stage = .inWriting :=
            stage_inWriting_iff.mpr
              (found.trans (isInWriting_iff.mp isInWriting))
          apply (holdsMiddle.store (holdsMiddle.unreferenced stage)
            (counted_of_unreferenced getReferenceCount_invalid)).mono
          intro otherQuality other stageAfter knows
          by_cases same : otherQuality = quality ∧ other = slot
          · rw [knows.1 same, same.1, same.2]
            apply dropping
            rw [← stage]
            exact holdsMiddle.stage quality slot
          · exact knows.2 same
        · -- a failed exchange ends the process
          intro later moves
          exact ⟨trivial, fun answer => nomatch answer⟩
      · exact ih holdsBefore

theorem cleanup_ensures (asilB : Bool) (dropping : known.AllowsDropping)
    (holds : Known known memory) :
    (SkeletonEvent.cleanupSharedMemoryAfterCrash asilB :
        SkeletonProgram slots LogIndex Unit).Ensures (amidConsumers slots LogIndex ampChecked)
      memory fun _ => Known known := by
  apply Ensures.bind (onControl_ensures (removeAllocationsForWritingAmong_ensures _ dropping holds))
  intro _ later holdsLater
  exact onlyIf_ensures (known_stable rfl) holdsLater fun _ =>
    onControl_ensures (removeAllocationsForWritingAmong_ensures _ dropping holdsLater)

omit [DecidableEq LogIndex] in
theorem getLatestTimestampAmong_leaves (composite : EventDataControlComposite)
    (among : List (Fin slots)) (latestTimeStamp : EventTimeStamp) :
    (composite.getLatestTimestampAmong among latestTimeStamp :
      SkeletonProgram slots LogIndex _).Performs SkeletonOp.LeavesMemory := by
  induction among generalizing latestTimeStamp with
  | nil => exact .done _
  | cons slotIndex rest ih =>
      apply Program.Performs.perform trivial
      intro word
      apply Program.Performs.ite
      · intro _
        exact ih _
      · intro _
        exact ih _

/-- The latest timestamp is found: no readable slot is newer, and unless it is the one that
the search starts with, a slot carries it. -/
theorem getLatestTimestampAmong_ensures (among : List (Fin slots))
    (latestTimeStamp : EventTimeStamp) (holds : Known known memory) :
    (composite.getLatestTimestampAmong among latestTimeStamp :
        SkeletonProgram slots LogIndex _).Ensures (amidConsumers slots LogIndex ampChecked)
      memory fun result memory =>
        Known (fun quality slot stage => known quality slot stage ∧
            (quality = composite.latestControl ∧ slot ∈ among →
              ∀ timeStamp, stage = .readable timeStamp → timeStamp ≤ result)) memory ∧
          latestTimeStamp ≤ result ∧
          (result = latestTimeStamp ∨
            ∃ slot, known composite.latestControl slot (.readable result)) := by
  induction among generalizing latestTimeStamp known memory with
  | nil =>
      refine Ensures.done ((known_stable rfl).and_fact _) ?_
      refine ⟨holds.mono ?_, BitVec.le_refl _, .inl rfl⟩
      intro quality slot stage knows
      exact ⟨knows, fun isAmong => nomatch isAmong.2⟩
  | cons slotIndex rest ih =>
      apply Ensures.perform (Known known) (known_stable rfl) holds trivial
      intro _ word before holdsBefore outcome _
      obtain ⟨rfl, rfl⟩ := load_writerOutcome ampChecked outcome
      dsimp only
      have loaded := holdsBefore.stage composite.latestControl slotIndex
      generalize isStatus : before.memory.status composite.latestControl slotIndex = status
      rw [isStatus] at loaded
      have found : Known (known.set composite.latestControl slotIndex (· = status.stage))
          before := by
        rw [← isStatus]
        exact holdsBefore.found
      -- the rest of the search starts with what is the latest now
      have continued : ∀ start : EventTimeStamp, latestTimeStamp ≤ start →
          (∀ timeStamp, status.stage = .readable timeStamp → timeStamp ≤ start) →
          (start = latestTimeStamp ∨ status.stage = .readable start) →
          (composite.getLatestTimestampAmong rest start :
            SkeletonProgram slots LogIndex _).Ensures (amidConsumers slots LogIndex ampChecked)
            before fun result memory =>
              Known (fun quality slot stage => known quality slot stage ∧
                (quality = composite.latestControl ∧ slot ∈ slotIndex :: rest →
                  ∀ timeStamp, stage = .readable timeStamp → timeStamp ≤ result)) memory ∧
              latestTimeStamp ≤ result ∧
              (result = latestTimeStamp ∨
                ∃ slot, known composite.latestControl slot (.readable result)) := by
        intro start grows bounded isStart
        apply (ih start found).mono
        rintro result later ⟨holdsLater, above, isResult⟩
        refine ⟨holdsLater.mono ?_, BitVec.le_trans grows above, ?_⟩
        · rintro quality slot stage ⟨knows, isBounded⟩
          by_cases same : quality = composite.latestControl ∧ slot = slotIndex
          · have isStage := knows.1 same
            constructor
            · rw [isStage, same.1, same.2]
              exact loaded
            · intro _ timeStamp isReadable
              exact BitVec.le_trans (bounded timeStamp (isStage.symm.trans isReadable)) above
          · refine ⟨knows.2 same, ?_⟩
            rintro ⟨isQuality, isAmong⟩
            rcases List.mem_cons.mp isAmong with isSlot | inRest
            · exact absurd ⟨isQuality, isSlot⟩ same
            · exact isBounded ⟨isQuality, inRest⟩
        · rcases isResult with rfl | ⟨slot, knows⟩
          · rcases isStart with isLatest | isReadable
            · exact .inl isLatest
            · rw [isReadable] at loaded
              exact .inr ⟨slotIndex, loaded⟩
          · by_cases same : slot = slotIndex
            · rw [knows.1 ⟨rfl, same⟩]
              exact .inr ⟨slotIndex, loaded⟩
            · exact .inr ⟨slot, knows.2 fun isSame => same isSame.2⟩
      split
      · rename_i isLater
        simp only [Bool.and_eq_true, decide_eq_true_eq] at isLater
        have isReadable : status.stage = .readable status.getTimeStamp := stage_eq_readable_iff.mpr
            ⟨by rw [Bool.and_eq_true]; exact isLater.1, rfl⟩
        apply continued status.getTimeStamp (BitVec.le_of_lt isLater.2)
        · intro timeStamp isStage
          rw [isReadable] at isStage
          cases isStage
          exact BitVec.le_refl _
        · exact .inr isReadable
      · rename_i notLater
        apply continued latestTimeStamp (BitVec.le_refl _)
        · intro timeStamp isStage
          obtain ⟨isReadable, isStamp⟩ := stage_eq_readable_iff.mp isStage
          rw [← isStamp]
          apply BitVec.not_lt.mp
          intro isLater
          apply notLater
          rw [Bool.and_eq_true]
          exact ⟨isReadable, decide_eq_true isLater⟩
        · exact .inl rfl

/-! ### Allocation of the event -/

/-- A composite of an event of this quality. -/
structure EventDataControlComposite.OfQuality (asilB : Bool)
    (composite : EventDataControlComposite) : Prop where
  asilBControl : composite.asilBControl = asilB
  ignoreQmControl : asilB = false → composite.ignoreQmControl = false

variable {asilB : Bool}

theorem EventDataControlComposite.OfQuality.uses (ofQuality : composite.OfQuality asilB) :
    composite.uses (publishedControl asilB) = true := by
  cases asilB with
  | false =>
      simp [EventDataControlComposite.uses, publishedControl, ofQuality.ignoreQmControl rfl]
  | true => simp [EventDataControlComposite.uses, publishedControl, ofQuality.asilBControl]

omit [DecidableEq LogIndex] in
theorem AllocatedBy.ofQuality {after : EventDataControlComposite} {slot : Option (Fin slots)}
    {ignored : Bool} (allocated : AllocatedBy composite known (after, slot, ignored) memory)
    (was : composite.OfQuality asilB) : after.OfQuality asilB := by
  constructor
  · exact allocated.quality.trans was.asilBControl
  · intro noAsilB
    rw [show after = composite from
      allocated.qmOnly (was.asilBControl.trans noAsilB)]
    exact was.ignoreQmControl noAsilB

/-- What an allocation of the event leaves. -/
theorem eventAllocate_ensures {event : SkeletonEvent}
    (isComposite : event.eventDataControlComposite = some composite)
    (ofQuality : composite.OfQuality asilB) (writing : known.AllowsWriting)
    (holds : Known known memory) :
    (event.allocate : SkeletonProgram slots LogIndex _).Ensures
      (amidConsumers slots LogIndex ampChecked) memory
      fun result memory => ∃ ignored slot, ∃ after : EventDataControlComposite,
        result.1.eventDataControlComposite = some after ∧
          result.1.currentTimestamp = event.currentTimestamp ∧
          result.2 = slot.map (fun index => ⟨index, after⟩) ∧
          AllocatedBy composite known (after, slot, ignored) memory := by
  rw [SkeletonEvent.allocate, isComposite]
  have qmOnly : composite.asilBControl = false → composite.ignoreQmControl = false := by
    intro noAsilB
    exact ofQuality.ignoreQmControl (ofQuality.asilBControl ▸ noAsilB)
  apply Ensures.bind (compositeAllocate_ensures qmOnly writing holds)
  intro result later allocated
  obtain ⟨after, slot, ignored⟩ := result
  apply Ensures.bind
    (onlyIf_message disconnectQmConsumers_leaves (allocatedBy_stable rfl) allocated)
  intro _ latest stillAllocated last moves
  exact ⟨ignored, slot, after, rfl, rfl, rfl, (allocatedBy_stable rfl).star moves stillAllocated⟩

/-- A sample is sent and then destroyed. -/
theorem eventSend_ensures {event : SkeletonEvent}
    (isComposite : event.eventDataControlComposite = some composite)
    {sample : SampleAllocateePtr slots} (isWriting : ∀ quality, composite.uses quality = true →
      ∀ stage, known quality sample.eventSlotIndex stage → stage = .inWriting)
    (published : ∀ quality slot stage,
      (composite.uses quality = true ∧ slot = sample.eventSlotIndex →
        stage = (ofTimeStamp (event.currentTimestamp + 1) 0).stage) →
      (¬(composite.uses quality = true ∧ slot = sample.eventSlotIndex) → known quality slot stage) →
      other quality slot stage)
    (dropping : ∀ quality, other quality sample.eventSlotIndex .inWriting →
      other quality sample.eventSlotIndex .invalid)
    (holds : Known known memory) :
    (event.send asilB sample : SkeletonProgram slots LogIndex _).Ensures
      (amidConsumers slots LogIndex ampChecked) memory
      fun result memory => Known other memory ∧
        result = { event with currentTimestamp := event.currentTimestamp + 1 } := by
  rw [SkeletonEvent.send, isComposite]
  apply Ensures.bind (compositeEventReady_ensures _ isWriting holds)
  intro _ second holdsSecond
  have holdsOther := holdsSecond.mono fun quality slot stage knows =>
    published quality slot stage knows.1 knows.2
  apply Ensures.bind (onlyIf_message (notifyEvent_leaves _) (known_stable rfl) holdsOther)
  intro _ third holdsThird
  apply Ensures.bind (onlyIf_message (notifyEvent_leaves _) (known_stable rfl) holdsThird)
  intro _ fourth holdsFourth
  apply Ensures.bind (compositeDiscard_ensures dropping holdsFourth)
  intro _ fifth holdsFifth
  exact .done ((known_stable rfl).and_fact _) ⟨holdsFifth, rfl⟩

end Known

end MwCom.Lola
