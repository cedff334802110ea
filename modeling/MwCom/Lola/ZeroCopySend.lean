/-
Module: MwCom.Lola.ZeroCopySend
Purpose: What a zero-copy send publishes, in every run in which samples are given back before
  their service is stopped or offered again.
Trusted boundary: none
Main exports: SendLaw, SendCondition, OrderlyStep, PointersHold, sendLaw_iff_of_reached
-/
import MwCom.Lola.SampleAllocation

namespace MwCom.Lola.ZeroCopy

open Interleaving SkeletonProgram Provider Function

variable {Event Skeleton Place LogIndex : Type} {setup : ProviderSetup Event Skeleton}

/-! ## The law -/

section Law

variable (before after : AllocationState setup Place LogIndex) (event : Event) (place : Place)

/-- No slot is in another stage. -/
structure Untouched : Prop where
  stages : ∀ event quality slot, after.stage event quality slot = before.stage event quality slot
  inside : after.strayAccess = before.strayAccess

/-- One slot has been published: the one that this event has allocated for the pointer in its
current offer, which was in writing. -/
structure PublishesOwn (slot : Fin (setup.slots event)) : Prop where
  allocated : ∃ held, (before.pointers place).held = some held ∧
    held.control.event = event ∧ held.slotIndex = slot ∧
      held.control.offer = (before.events event).offers
  offered : (before.events event).serviceOfferedFlag = true
  wasInWriting : before.stage event (publishedControl (setup.asilB (setup.parent event))) slot =
      some .inWriting
  published : ∃ timeStamp,
    after.stage event (publishedControl (setup.asilB (setup.parent event))) slot =
      some (.readable timeStamp)
  others : ∀ other quality (otherSlot : Fin (setup.slots other)),
    (other = event → (otherSlot : Nat) ≠ slot) →
      after.stage other quality otherSlot = before.stage other quality otherSlot
  inside : after.strayAccess = before.strayAccess

/-- A send has ended the process and left every slot as it was, or it has published. -/
def SendLaw : Prop := (after.ended = true ∧ Untouched before after) ∨
    (after.ended = false ∧ ∃ slot, PublishesOwn before after event place slot)

/-- A send ends the process at once. -/
inductive Refused : Prop where
  | blank (isBlank : before.pointers place = .blank)
  | noControl (noComposite : (before.events event).event.eventDataControlComposite = none)
  | unmapped (gone : (before.events event).memory = none)
  | checked {pointer} (isPointer : before.pointers place = .lola pointer)
      (notLocated : locate (setup.slots event) pointer.eventSlotIndex = none)
      (boundsChecked : setup.boundsChecked = true)

/-- The pointer has a slot of this event, and the timestamps of the event have not run out. -/
structure Own : Prop where
  held : ∃ held, (before.pointers place).held = some held ∧ held.control.event = event
  stamped : (before.events event).event.currentTimestamp + 1 ≠ 0

def SendCondition : Prop := Refused before event place ∨ Own before event place

/-- No pointer has a slot of the skeleton. -/
def GivenBack (skeleton : Skeleton) : Prop :=
  ∀ place held, (before.pointers place).held = some held →
    setup.parent held.control.event ≠ skeleton

def Orderly : UserCall Event Skeleton Place → Prop
  | .send event place => SendCondition before event place
  | .offerService skeleton => GivenBack before skeleton
  | .stopOfferService skeleton => GivenBack before skeleton
  | _ => True

/-- A provider process that was just started, over what memory earlier ones have left. -/
structure Starts : Prop where
  pointers : ∀ place, before.pointers place = .blank
  events : ∀ event, (before.events event).event = .new
  memory : ∀ event memory, (before.events event).memory = some memory →
    Known (fun _ _ _ => True) memory
  running : before.ended = false

end Law

/-- The user makes a call, or consumers move. -/
inductive ProviderStep [DecidableEq Event] [DecidableEq Skeleton] [DecidableEq Place]
    [DecidableEq LogIndex] (before after : AllocationState setup Place LogIndex) : Prop where
  | user {call} (running : before.ended = false) (step : UserStep before call after)
  | consumers (moves : ConsumersMove before after)

/-- The user makes an orderly call, or consumers move. -/
inductive OrderlyStep [DecidableEq Event] [DecidableEq Skeleton] [DecidableEq Place]
    [DecidableEq LogIndex] (before after : AllocationState setup Place LogIndex) : Prop where
  | user {call} (running : before.ended = false) (orderly : Orderly before call)
      (step : UserStep before call after)
  | consumers (moves : ConsumersMove before after)

theorem OrderlyStep.providerStep [DecidableEq Event] [DecidableEq Skeleton]
    [DecidableEq Place] [DecidableEq LogIndex] {before after : AllocationState setup Place LogIndex}
    (step : OrderlyStep before after) : ProviderStep before after := by
  cases step with
  | user running _ step => exact .user running step
  | consumers moves => exact .consumers moves

/-! ## What pointers hold -/

/-- A slot is held in the current offer of its event. -/
structure Holds (events : ∀ event, ProviderEvent (setup.slots event) LogIndex)
    (held : HeldSlot Event) : Prop where
  mapping : held.control.mapping = (events held.control.event).mappings
  offer : held.control.offer = (events held.control.event).offers
  offered : (events held.control.event).serviceOfferedFlag = true
  isMapped : ∃ memory, (events held.control.event).memory = some memory
  inBounds : held.slotIndex < setup.slots held.control.event
  ofQuality : held.control.composite.OfQuality
    (setup.asilB (setup.parent held.control.event))
  -- QM is not ignored any less than when the slot was allocated
  composite : ∃ composite,
    (events held.control.event).event.eventDataControlComposite = some composite ∧
      (composite.ignoreQmControl = false → held.control.composite.ignoreQmControl = false)

section Pointers

variable {ι κ : Type} (pointers : ι → ImplSampleAllocateePtr Event)

/-- A pointer has this slot, allocated in this control. -/
def Owned (event : Event) (quality : QualityType) (slot : Nat) : Prop :=
  ∃ place held, (pointers place).held = some held ∧ held.control.event = event ∧
    held.slotIndex = slot ∧ held.control.composite.uses quality = true

/-- What is known of the slots of an event. -/
def writtenIn (setup : ProviderSetup Event Skeleton) (event : Event) :
    Knowledge (setup.slots event) :=
  fun quality slot stage => Owned pointers event quality slot → stage = .inWriting

/-- Every slot that a pointer has is its own, and in writing. -/
structure PointersHold (events : ∀ event, ProviderEvent (setup.slots event) LogIndex) : Prop where
  known : ∀ event memory, (events event).memory = some memory →
    Known (writtenIn pointers setup event) memory
  holds : ∀ place held, (pointers place).held = some held → Holds events held
  distinct : ∀ place other held otherHeld, (pointers place).held = some held →
    (pointers other).held = some otherHeld → held.control.event = otherHeld.control.event →
      held.slotIndex = otherHeld.slotIndex → place = other
  controlled : ∀ place pointer, pointers place = .lola pointer →
    pointer.eventSlotIndex < maxSlotIndex → ∃ control, pointer.eventDataControl = some control
  composite : ∀ event composite, (events event).event.eventDataControlComposite = some composite →
      composite.OfQuality (setup.asilB (setup.parent event))

/-- A pointer that is in none of the places, and whose slot none of them has. -/
structure Loose (events : ∀ event, ProviderEvent (setup.slots event) LogIndex)
    (pointer : LolaSampleAllocateePtr Event) : Prop where
  holds : ∀ held, (ImplSampleAllocateePtr.lola pointer).held = some held → Holds events held
  alone : ∀ held, (ImplSampleAllocateePtr.lola pointer).held = some held →
    ∀ place other, (pointers place).held = some other →
      other.control.event = held.control.event → other.slotIndex ≠ held.slotIndex
  controlled : pointer.eventSlotIndex < maxSlotIndex →
    ∃ control, pointer.eventDataControl = some control

end Pointers

/-- A pointer without a slot. -/
inductive WithoutSlot : ImplSampleAllocateePtr Event → Prop where
  | blank : WithoutSlot .blank
  | reset {pointer} (noSlot : ¬pointer.eventSlotIndex < maxSlotIndex) : WithoutSlot (.lola pointer)

theorem WithoutSlot.held {pointer : ImplSampleAllocateePtr Event} (empty : WithoutSlot pointer) :
    pointer.held = none := by
  cases empty with
  | blank => rfl
  | reset noSlot => simp [ImplSampleAllocateePtr.held, noSlot]

theorem WithoutSlot.internalDelete (pointer : LolaSampleAllocateePtr Event) :
    WithoutSlot (.lola pointer.internalDelete) :=
  .reset (Nat.lt_irrefl _)

theorem held_lola {pointer : LolaSampleAllocateePtr Event} {held : HeldSlot Event}
    (isHeld : (ImplSampleAllocateePtr.lola pointer).held = some held) :
    pointer.eventSlotIndex < maxSlotIndex ∧ pointer.eventDataControl = some held.control ∧
      held.slotIndex = pointer.eventSlotIndex := by
  rw [ImplSampleAllocateePtr.held] at isHeld
  split at isHeld
  · rename_i hasSlot
    obtain ⟨control, isControl, rfl⟩ := Option.map_eq_some_iff.mp isHeld
    exact ⟨hasSlot, isControl, rfl⟩
  · cases isHeld

theorem held_of_slot {pointer : LolaSampleAllocateePtr Event} {control : ControlReference Event}
    (hasSlot : pointer.eventSlotIndex < maxSlotIndex)
    (isControl : pointer.eventDataControl = some control) :
    (ImplSampleAllocateePtr.lola pointer).held = some ⟨control, pointer.eventSlotIndex⟩ := by
  simp [ImplSampleAllocateePtr.held, hasSlot, isControl]

theorem locate_of_lt {slots index : Nat} (inBounds : index < slots) :
    locate slots index = some ⟨index, inBounds⟩ := by
  simp [locate, inBounds]

theorem val_of_locate {slots index : Nat} {slot : Fin slots}
    (located : locate slots index = some slot) : index = slot := by
  rw [locate] at located
  split at located
  · cases located
    rfl
  · cases located

/-! ### Rearranging -/

section Rearranging

variable {ι κ : Type} {pointers : ι → ImplSampleAllocateePtr Event}
  {others : κ → ImplSampleAllocateePtr Event}
  {events : ∀ event, ProviderEvent (setup.slots event) LogIndex}

/-- Pointers are moved to other places, each to one at most. -/
theorem PointersHold.rearranged (holds : PointersHold pointers events) (origin : κ → Option ι)
    (injective : ∀ one other place, origin one = some place → origin other = some place →
      one = other)
    (same : ∀ one place, origin one = some place → others one = pointers place)
    (empty : ∀ one, origin one = none → WithoutSlot (others one)) :
    PointersHold others events := by
  have held : ∀ one held, (others one).held = some held →
      ∃ place, origin one = some place ∧ others one = pointers place := by
    intro one held isHeld
    cases isOrigin : origin one with
    | none =>
        rw [(empty one isOrigin).held] at isHeld
        cases isHeld
    | some place => exact ⟨place, rfl, same one place isOrigin⟩
  constructor
  · intro event memory isMapped
    apply (holds.known event memory isMapped).mono
    rintro quality slot stage written ⟨one, isHeld, hasHeld, owned⟩
    obtain ⟨place, _, isSame⟩ := held one isHeld hasHeld
    rw [isSame] at hasHeld
    exact written ⟨place, isHeld, hasHeld, owned⟩
  · intro one isHeld hasHeld
    obtain ⟨place, _, isSame⟩ := held one isHeld hasHeld
    rw [isSame] at hasHeld
    exact holds.holds place isHeld hasHeld
  · intro one other oneHeld otherHeld hasOne hasOther sameEvent sameSlot
    obtain ⟨place, oneOrigin, isOne⟩ := held one oneHeld hasOne
    obtain ⟨otherPlace, otherOrigin, isOther⟩ := held other otherHeld hasOther
    rw [isOne] at hasOne
    rw [isOther] at hasOther
    have samePlace := holds.distinct _ _ _ _ hasOne hasOther sameEvent sameSlot
    rw [← samePlace] at otherOrigin
    exact injective one other place oneOrigin otherOrigin
  · intro one pointer isPointer hasSlot
    cases isOrigin : origin one with
    | none =>
        have isEmpty := empty one isOrigin
        rw [isPointer] at isEmpty
        cases isEmpty with
        | reset noSlot => exact absurd hasSlot noSlot
    | some place =>
        exact holds.controlled place pointer ((same one place isOrigin).symm.trans isPointer)
          hasSlot
  · exact holds.composite

variable [DecidableEq ι]

/-- A pointer is taken out of its place, where nothing with a slot is put. -/
theorem PointersHold.taken (holds : PointersHold pointers events) (place : ι)
    {pointer : ImplSampleAllocateePtr Event} (empty : WithoutSlot pointer) :
    PointersHold (update pointers place pointer) events := by
  apply holds.rearranged fun one => if one = place then none else some one
  · intro one other from_ isOne isOther
    split at isOne
    · cases isOne
    · split at isOther
      · cases isOther
      · cases isOne
        cases isOther
        rfl
  · intro one from_ isOne
    split at isOne
    · cases isOne
    · rename_i distinct
      cases isOne
      exact update_of_ne distinct _ _
  · intro one isNone
    split at isNone
    · rename_i isPlace
      rw [isPlace, update_self]
      exact empty
    · cases isNone

/-- What was taken is loose. -/
theorem PointersHold.loose (holds : PointersHold pointers events) {place : ι}
    {pointer : LolaSampleAllocateePtr Event} (isPointer : pointers place = .lola pointer)
    {left : ImplSampleAllocateePtr Event} (empty : WithoutSlot left) :
    Loose (update pointers place left) events pointer := by
  constructor
  · intro held isHeld
    exact holds.holds place held (isPointer ▸ isHeld)
  · intro held isHeld other otherHeld hasOther sameEvent sameSlot
    by_cases isPlace : other = place
    · rw [isPlace, update_self, empty.held] at hasOther
      cases hasOther
    · rw [update_of_ne isPlace] at hasOther
      exact isPlace (holds.distinct other place otherHeld held hasOther (isPointer ▸ isHeld)
        sameEvent sameSlot)
  · exact holds.controlled place pointer isPointer

theorem PointersHold.exchanged (holds : PointersHold pointers events) (place other : ι) :
    PointersHold (pointers ∘ Equiv.swap place other) events := by
  apply holds.rearranged fun one => some (Equiv.swap place other one)
  · intro one two from_ isOne isTwo
    rw [← isTwo] at isOne
    exact (Equiv.swap place other).injective (Option.some.inj isOne)
  · intro one from_ isOne
    cases isOne
    rfl
  · intro one isNone
    cases isNone

end Rearranging

/-! ### Changes of events -/

/-- The offer goes on. -/
structure Continues {slots : Nat} (before after : ProviderEvent slots LogIndex) : Prop where
  mappings : after.mappings = before.mappings
  offers : after.offers = before.offers
  serviceOfferedFlag : after.serviceOfferedFlag = before.serviceOfferedFlag
  memory : ∃ memory, after.memory = some memory
  composite : ∀ composite, before.event.eventDataControlComposite = some composite →
    ∃ later, after.event.eventDataControlComposite = some later ∧
      (later.ignoreQmControl = false → composite.ignoreQmControl = false)

section Changes

variable [DecidableEq Event] {ι : Type} {pointers : ι → ImplSampleAllocateePtr Event}
  {events : ∀ event, ProviderEvent (setup.slots event) LogIndex} {event : Event}
  {now : ProviderEvent (setup.slots event) LogIndex}

omit [DecidableEq Event] in
/-- Only the event of the slot counts. -/
theorem Holds.congr {held : HeldSlot Event} (holds : Holds events held)
    {others : ∀ event, ProviderEvent (setup.slots event) LogIndex}
    (same : others held.control.event = events held.control.event) : Holds others held := by
  constructor
  · rw [same]
    exact holds.mapping
  · rw [same]
    exact holds.offer
  · rw [same]
    exact holds.offered
  · rw [same]
    exact holds.isMapped
  · exact holds.inBounds
  · exact holds.ofQuality
  · rw [same]
    exact holds.composite

theorem Holds.continues {held : HeldSlot Event} (holds : Holds events held)
    (continues : Continues (events event) now) :
    Holds (update events event now) held := by
  by_cases same : held.control.event = event
  · obtain ⟨composite, isComposite, ignores⟩ := holds.composite
    cases same
    obtain ⟨later, isLater, stillIgnores⟩ := continues.composite composite isComposite
    constructor
    · rw [update_self, continues.mappings]
      exact holds.mapping
    · rw [update_self, continues.offers]
      exact holds.offer
    · rw [update_self, continues.serviceOfferedFlag]
      exact holds.offered
    · rw [update_self]
      exact continues.memory
    · exact holds.inBounds
    · exact holds.ofQuality
    · rw [update_self]
      exact ⟨later, isLater, fun notIgnored => ignores (stillIgnores notIgnored)⟩
  · exact holds.congr (update_of_ne same _ _)

theorem PointersHold.changed (holds : PointersHold pointers events)
    (continues : Continues (events event) now)
    (known : ∀ memory, now.memory = some memory → Known (writtenIn pointers setup event) memory)
    (ofQuality : ∀ composite, now.event.eventDataControlComposite = some composite →
      composite.OfQuality (setup.asilB (setup.parent event))) :
    PointersHold pointers (update events event now) := by
  constructor
  · intro other memory isMapped
    by_cases same : other = event
    · cases same
      rw [update_self] at isMapped
      exact known memory isMapped
    · rw [update_of_ne same] at isMapped
      exact holds.known other memory isMapped
  · intro place held isHeld
    exact (holds.holds place held isHeld).continues continues
  · exact holds.distinct
  · exact holds.controlled
  · intro other composite isComposite
    by_cases same : other = event
    · cases same
      rw [update_self] at isComposite
      exact ofQuality composite isComposite
    · rw [update_of_ne same] at isComposite
      exact holds.composite other composite isComposite

theorem Loose.changed {pointer : LolaSampleAllocateePtr Event}
    (loose : Loose pointers events pointer) (continues : Continues (events event) now) :
    Loose pointers (update events event now) pointer :=
  ⟨fun held isHeld => (loose.holds held isHeld).continues continues, loose.alone, loose.controlled⟩

end Changes

/-! ### Slots that end -/

theorem known_exact {slots : Nat} {known : Knowledge slots}
    {memory : WriterMemory slots LogIndex} (holds : Known known memory) :
    Known (fun quality slot stage =>
      known quality slot stage ∧ stage = (memory.memory.status quality slot).stage) memory :=
  ⟨holds.counted, fun quality slot => ⟨holds.stage quality slot, rfl⟩, holds.kept⟩

section Destroyed

variable [DecidableEq Event] [DecidableEq LogIndex]
  {state after : AllocationState setup Place LogIndex} {pointer : LolaSampleAllocateePtr Event}

/-- Where a pointer ends, the process goes on. -/
theorem running_of_destroys (destroys : Destroys state pointer after)
    (loose : Loose state.pointers state.events pointer) :
    after.ended = state.ended ∧ after.strayAccess = state.strayAccess := by
  cases destroys with
  | noSlot | noControl | discards => exact ⟨rfl, rfl⟩
  | outOfBounds hasSlot hasControl _ _ notLocated =>
      have holds := loose.holds _ (held_of_slot hasSlot hasControl)
      rw [locate_of_lt holds.inBounds] at notLocated
      cases notLocated
  | unmapped hasSlot hasControl gone =>
      have holds := loose.holds _ (held_of_slot hasSlot hasControl)
      obtain ⟨memory, isMapped⟩ := holds.isMapped
      rcases gone with moved | gone
      · exact absurd holds.mapping moved
      · exact nomatch isMapped.symm.trans gone

/-- Slots have been given up at most: those of the pointer that were in writing. -/
structure Discarded (state after : AllocationState setup Place LogIndex)
    (pointer : LolaSampleAllocateePtr Event) : Prop where
  holds : PointersHold after.pointers after.events
  stages : ∀ event quality slot, after.stage event quality slot = state.stage event quality slot ∨
    (state.stage event quality slot = some .inWriting ∧ pointer.eventSlotIndex = slot ∧
      ∃ held, (ImplSampleAllocateePtr.lola pointer).held = some held ∧ held.control.event = event)

theorem discarded_of_destroys (destroys : Destroys state pointer after)
    (holds : PointersHold state.pointers state.events)
    (loose : Loose state.pointers state.events pointer) : Discarded state after pointer := by
  have same : Discarded state state pointer := ⟨holds, fun _ _ _ => .inl rfl⟩
  cases destroys with
  | noSlot => exact same
  | noControl => exact same
  | @discards control memory slot later hasSlot hasControl _ isMapped located ran =>
      have isHeld := held_of_slot hasSlot hasControl
      have isSlot := val_of_locate located
      -- a slot is as it was, or it is this one and was in writing
      let known : Knowledge (setup.slots control.event) := fun quality other stage =>
        writtenIn state.pointers setup control.event quality other stage ∧
          (stage = (memory.memory.status quality other).stage ∨
            ((memory.memory.status quality other).stage = .inWriting ∧ other = slot))
      have before : Known known memory := by
        apply (known_exact (holds.known control.event memory isMapped)).mono
        rintro quality other stage ⟨written, isStage⟩
        exact ⟨written, .inl isStage⟩
      have dropping : ∀ quality, known quality slot .inWriting → known quality slot .invalid := by
        rintro quality ⟨_, isStage⟩
        constructor
        · rintro ⟨place, held, hasHeld, sameEvent, sameSlot, _⟩
          exact absurd (sameSlot.trans isSlot.symm)
            (loose.alone _ isHeld place held hasHeld sameEvent)
        · rcases isStage with isStage | ⟨isStage, _⟩
          · exact .inr ⟨isStage.symm, rfl⟩
          · exact .inr ⟨isStage, rfl⟩
      have knownLater : Known known later := (compositeDiscard_ensures dropping before).amid ran
      constructor
      · apply holds.changed
        · refine ⟨rfl, rfl, rfl, ⟨later, rfl⟩, ?_⟩
          intro composite isComposite
          exact ⟨composite, isComposite, fun notIgnored => notIgnored⟩
        · intro now isNow
          cases isNow
          exact knownLater.mono fun _ _ _ knows => knows.1
        · exact holds.composite control.event
      · intro event quality other
        by_cases sameEvent : event = control.event
        · cases sameEvent
          have isAfter : (state.setMemory control.event (state.events control.event).event
              later).stage control.event quality other =
                some (later.memory.status quality other).stage := by
            simp [AllocationState.stage, AllocationState.setMemory, AllocationState.setEvent]
          have isBefore : state.stage control.event quality other =
              some (memory.memory.status quality other).stage := by
            simp [AllocationState.stage, isMapped]
          rw [isAfter, isBefore]
          rcases (knownLater.stage quality other).2 with isStage | ⟨isStage, isOther⟩
          · exact .inl (congrArg some isStage)
          · refine .inr ⟨congrArg some isStage, ?_, ⟨_, _⟩, isHeld, rfl⟩
            rw [isOther]
            exact isSlot
        · left
          simp [AllocationState.stage, AllocationState.setMemory, AllocationState.setEvent,
            update_of_ne sameEvent]
  | outOfBounds hasSlot hasControl _ _ notLocated =>
      have held := loose.holds _ (held_of_slot hasSlot hasControl)
      rw [locate_of_lt held.inBounds] at notLocated
      cases notLocated
  | unmapped hasSlot hasControl gone =>
      have held := loose.holds _ (held_of_slot hasSlot hasControl)
      obtain ⟨memory, isMapped⟩ := held.isMapped
      rcases gone with moved | gone
      · exact absurd held.mapping moved
      · exact nomatch isMapped.symm.trans gone

end Destroyed

/-! ### Publishing -/

section Publishing

variable {slots : Nat} [DecidableEq LogIndex] {ampChecked asilB : Bool}
  {event : SkeletonEvent} {composite : EventDataControlComposite} {slot : Fin slots}

omit [DecidableEq LogIndex] in
theorem publish_returns :
    (event.publish asilB composite slot : SkeletonProgram slots LogIndex _).Returns
      fun result => result = { event with currentTimestamp := event.currentTimestamp + 1 } := by
  apply (Program.Returns.any _).bind
  intro _ _
  apply (Program.Returns.any _).bind
  intro _ _
  apply (Program.Returns.any _).bind
  intro _ _
  rfl

theorem publish_ensures {known : Knowledge slots} {memory : WriterMemory slots LogIndex}
    (isWriting : ∀ quality, composite.uses quality = true →
      ∀ stage, known quality slot stage → stage = .inWriting)
    (holds : Known known memory) :
    (event.publish asilB composite slot : SkeletonProgram slots LogIndex _).Ensures
      (amidConsumers slots LogIndex ampChecked) memory
      fun _ => Known fun quality other stage =>
        (composite.uses quality = true ∧ other = slot →
            stage = (EventSlotStatus.ofTimeStamp (event.currentTimestamp + 1) 0).stage) ∧
          (¬(composite.uses quality = true ∧ other = slot) → known quality other stage) := by
  apply Program.Ensures.bind (compositeEventReady_ensures _ isWriting holds)
  intro _ second holdsSecond
  apply Program.Ensures.bind (onlyIf_message (notifyEvent_leaves _) (known_stable rfl) holdsSecond)
  intro _ third holdsThird
  apply Program.Ensures.bind (onlyIf_message (notifyEvent_leaves _) (known_stable rfl) holdsThird)
  intro _ fourth holdsFourth
  exact .done (known_stable rfl) holdsFourth

end Publishing

section Sent

variable [DecidableEq Event] [DecidableEq Place] [DecidableEq LogIndex]
  {before after : AllocationState setup Place LogIndex} {event : Event} {place : Place}
  {pointer : LolaSampleAllocateePtr Event} {composite : EventDataControlComposite}
  {memory later : WriterMemory (setup.slots event) LogIndex} {slot : Fin (setup.slots event)}
  {skeletonEvent : SkeletonEvent} {held : HeldSlot Event}

omit [DecidableEq Event] [DecidableEq Place] [DecidableEq LogIndex] in
/-- A slot that is held is owned in every control that the event publishes in. -/
theorem Holds.owns (holds : Holds before.events held)
    (isHeld : (before.pointers place).held = some held) (sameEvent : held.control.event = event)
    (isComposite : (before.events event).event.eventDataControlComposite = some composite)
    (ofQuality : composite.OfQuality (setup.asilB (setup.parent event)))
    {quality : QualityType} (uses : composite.uses quality = true) :
    Owned before.pointers event quality held.slotIndex := by
  refine ⟨place, held, isHeld, sameEvent, rfl, ?_⟩
  cases sameEvent
  cases quality with
  | asilB =>
      calc held.control.composite.asilBControl
          = setup.asilB (setup.parent held.control.event) := holds.ofQuality.asilBControl
        _ = composite.asilBControl := ofQuality.asilBControl.symm
        _ = true := uses
  | asilQm =>
      have notIgnored : composite.ignoreQmControl = false := by
        simpa [EventDataControlComposite.uses] using uses
      obtain ⟨current, isCurrent, ignores⟩ := holds.composite
      cases isCurrent.symm.trans isComposite
      simp [EventDataControlComposite.uses, ignores notIgnored]

omit [DecidableEq Event] [DecidableEq Place] in
/-- The event goes on with the next timestamp. -/
theorem continues_of_published
    (ran : ((before.events event).event.publish (setup.asilB (setup.parent event)) composite
      slot : SkeletonProgram _ LogIndex _).Amid (amidConsumers _ LogIndex setup.ampChecked)
        memory skeletonEvent later) :
    skeletonEvent = { (before.events event).event with
        currentTimestamp := (before.events event).event.currentTimestamp + 1 } ∧
      Continues (before.events event)
        { before.events event with event := skeletonEvent, memory := some later } := by
  have isEvent := publish_returns.amid ran
  refine ⟨isEvent, rfl, rfl, rfl, ⟨later, rfl⟩, ?_⟩
  intro composite isComposite
  rw [isEvent]
  exact ⟨composite, isComposite, fun notIgnored => notIgnored⟩

/-- What a send of a slot that the pointer has leaves before the pointer ends. -/
structure Sent (before : AllocationState setup Place LogIndex) (event : Event)
    (slot : Fin (setup.slots event)) (middle : AllocationState setup Place LogIndex) : Prop where
  holds : PointersHold middle.pointers middle.events
  stamped : middle.stage event (publishedControl (setup.asilB (setup.parent event))) slot =
      some (EventSlotStatus.ofTimeStamp ((before.events event).event.currentTimestamp + 1) 0).stage
  wasInWriting : before.stage event (publishedControl (setup.asilB (setup.parent event))) slot =
      some .inWriting
  others : ∀ other quality (otherSlot : Fin (setup.slots other)),
    (other = event → (otherSlot : Nat) ≠ slot) →
      middle.stage other quality otherSlot = before.stage other quality otherSlot

theorem PointersHold.sent (holds : PointersHold before.pointers before.events)
    (isPointer : before.pointers place = .lola pointer)
    (isHeld : (before.pointers place).held = some held) (sameEvent : held.control.event = event)
    (isComposite : (before.events event).event.eventDataControlComposite = some composite)
    (isMapped : (before.events event).memory = some memory)
    (located : locate (setup.slots event) pointer.eventSlotIndex = some slot)
    (ran : ((before.events event).event.publish (setup.asilB (setup.parent event)) composite
      slot : SkeletonProgram _ LogIndex _).Amid (amidConsumers _ LogIndex setup.ampChecked)
        memory skeletonEvent later) :
    Sent before event slot
      ((before.setMemory event skeletonEvent later).setPointer place .blank) := by
  have ofQuality := holds.composite event composite isComposite
  have isSlot : held.slotIndex = slot := by
    rw [isPointer] at isHeld
    exact (held_lola isHeld).2.2.trans (val_of_locate located)
  have owns : ∀ quality, composite.uses quality = true →
      Owned before.pointers event quality slot := by
    intro quality uses
    rw [← isSlot]
    exact (holds.holds place held isHeld).owns isHeld sameEvent isComposite ofQuality uses
  have isWriting : ∀ quality, composite.uses quality = true →
      (memory.memory.status quality slot).stage = .inWriting :=
    fun quality uses => (holds.known event memory isMapped).stage quality slot (owns quality uses)
  have exact := known_exact (holds.known event memory isMapped)
  have known := Program.Ensures.amid
    (publish_ensures (fun quality uses stage knows => knows.1 (owns quality uses)) exact) ran
  obtain ⟨isEvent, continues⟩ := continues_of_published ran
  have stageOf : ∀ quality (other : Fin (setup.slots event)),
      ((before.setMemory event skeletonEvent later).setPointer place .blank).stage event quality
        other = some (later.memory.status quality other).stage := by
    intro quality other
    simp [AllocationState.stage, AllocationState.setMemory, AllocationState.setEvent,
      AllocationState.setPointer]
  constructor
  · apply (holds.taken place .blank).changed continues
    · intro now isNow
      cases isNow
      apply known.mono
      rintro quality other stage ⟨_, knows⟩ ⟨owner, otherHeld, hasHeld, otherEvent, otherSlot, uses⟩
      by_cases isPlace : owner = place
      · rw [isPlace, update_self] at hasHeld
        cases hasHeld
      · rw [update_of_ne isPlace] at hasHeld
        have different : other ≠ slot := by
          intro same
          apply isPlace
          apply holds.distinct owner place otherHeld held hasHeld isHeld
          · exact otherEvent.trans sameEvent.symm
          · rw [otherSlot, isSlot, same]
        exact (knows fun isSame => different isSame.2).1
          ⟨owner, otherHeld, hasHeld, otherEvent, otherSlot, uses⟩
    · intro now isNow
      rw [isEvent] at isNow
      exact holds.composite event now isNow
  · rw [stageOf]
    exact congrArg some ((known.stage _ slot).1 ⟨ofQuality.uses, rfl⟩)
  · simp [AllocationState.stage, isMapped, isWriting _ ofQuality.uses]
  · intro other quality otherSlot different
    by_cases same : other = event
    · cases same
      rw [stageOf]
      have isStage := ((known.stage quality otherSlot).2 fun isSame =>
        different rfl (congrArg Fin.val isSame.2)).2
      simp [AllocationState.stage, isMapped, isStage]
    · simp [AllocationState.stage, AllocationState.setMemory, AllocationState.setEvent,
        AllocationState.setPointer, update_of_ne same]

omit [DecidableEq Event] [DecidableEq Place] [DecidableEq LogIndex] in
/-- A refused send has written nothing. -/
theorem untouched_terminate : Untouched before before.terminate := ⟨fun _ _ _ => rfl, rfl⟩

omit [DecidableEq LogIndex] in
/-- The pointer that is sent is loose when it ends. -/
theorem PointersHold.sentLoose (holds : PointersHold before.pointers before.events)
    (isPointer : before.pointers place = .lola pointer)
    {now : ProviderEvent (setup.slots event) LogIndex}
    (continues : Continues (before.events event) now) :
    Loose ((before.setEvent event now).setPointer place .blank).pointers
      ((before.setEvent event now).setPointer place .blank).events pointer :=
  (holds.loose isPointer .blank).changed continues

omit [DecidableEq Event] [DecidableEq Place] [DecidableEq LogIndex] in
/-- The slot of a pointer of this event is one of its slots. -/
theorem PointersHold.located (holds : PointersHold before.pointers before.events)
    (isPointer : before.pointers place = .lola pointer)
    (isHeld : (before.pointers place).held = some held) (sameEvent : held.control.event = event) :
    locate (setup.slots event) pointer.eventSlotIndex ≠ none := by
  have inBounds := (holds.holds place held isHeld).inBounds
  rw [isPointer] at isHeld
  rw [(held_lola isHeld).2.2, sameEvent] at inBounds
  rw [locate_of_lt inBounds]
  exact Option.some_ne_none _

/-- A refused send ends the process before anything is written. -/
theorem Refused.ends (refused : Refused before event place)
    (sends : Sends event place before after) : after = before.terminate := by
  cases sends with
  | blank | noControl | unmapped | checked => rfl
  | unchecked isPointer isComposite isMapped notLocated notChecked _ =>
      cases refused with
      | blank isBlank => exact nomatch isPointer.symm.trans isBlank
      | noControl noComposite => exact nomatch isComposite.symm.trans noComposite
      | unmapped gone => exact nomatch isMapped.symm.trans gone
      | checked _ _ boundsChecked => exact nomatch notChecked.symm.trans boundsChecked
  | published isPointer isComposite isMapped located _ _ =>
      cases refused with
      | blank isBlank => exact nomatch isPointer.symm.trans isBlank
      | noControl noComposite => exact nomatch isComposite.symm.trans noComposite
      | unmapped gone => exact nomatch isMapped.symm.trans gone
      | checked isOther notLocated _ =>
          cases isPointer.symm.trans isOther
          exact nomatch located.symm.trans notLocated

/-- Where every slot is held as it should be, a send meets the law exactly under the
condition. -/
theorem sendLaw_iff (holds : PointersHold before.pointers before.events)
    (running : before.ended = false) (sends : Sends event place before after) :
    SendLaw before after event place ↔ SendCondition before event place := by
  by_cases refused : Refused before event place
  · rw [refused.ends sends]
    exact ⟨fun _ => .inl refused, fun _ => .inl ⟨rfl, untouched_terminate⟩⟩
  cases sends with
  | blank isBlank => exact absurd (.blank isBlank) refused
  | noControl _ noComposite => exact absurd (.noControl noComposite) refused
  | unmapped _ _ gone => exact absurd (.unmapped gone) refused
  | checked isPointer _ _ notLocated boundsChecked =>
      exact absurd (.checked isPointer notLocated boundsChecked) refused
  | unchecked isPointer isComposite isMapped notLocated notChecked destroys =>
      have continues : ∀ memory, Continues (before.events event)
          { before.events event with
            event := { (before.events event).event with
              currentTimestamp := (before.events event).event.currentTimestamp + 1 }
            memory := some memory } := by
        intro memory
        refine ⟨rfl, rfl, rfl, ⟨memory, rfl⟩, ?_⟩
        intro composite isComposite
        exact ⟨composite, isComposite, fun notIgnored => notIgnored⟩
      have goesOn := running_of_destroys destroys (holds.sentLoose isPointer (continues _))
      constructor
      · rintro (⟨isEnded, _⟩ | ⟨_, slot, publishes⟩)
        · rw [goesOn.1] at isEnded
          exact nomatch running.symm.trans isEnded
        · obtain ⟨held, isHeld, sameEvent, _⟩ := publishes.allocated
          exact absurd notLocated (holds.located isPointer isHeld sameEvent)
      · rintro (isRefused | ⟨⟨held, isHeld, sameEvent⟩, _⟩)
        · exact absurd isRefused refused
        · exact absurd notLocated (holds.located isPointer isHeld sameEvent)
  | published isPointer isComposite isMapped located ran destroys =>
      have loose := holds.sentLoose isPointer (continues_of_published ran).2
      have goesOn := running_of_destroys destroys loose
      constructor
      · rintro (⟨isEnded, _⟩ | ⟨_, slot, publishes⟩)
        · rw [goesOn.1] at isEnded
          exact nomatch running.symm.trans isEnded
        · obtain ⟨held, isHeld, sameEvent, isSlot, _⟩ := publishes.allocated
          refine .inr ⟨⟨held, isHeld, sameEvent⟩, ?_⟩
          intro runOut
          have sent := holds.sent isPointer isHeld sameEvent isComposite isMapped located ran
          have discarded := discarded_of_destroys destroys sent.holds loose
          have same : slot = _ := Fin.ext (isSlot.symm.trans
            ((held_lola (isPointer ▸ isHeld)).2.2.trans (val_of_locate located)))
          obtain ⟨timeStamp, isReadable⟩ := publishes.published
          rw [same] at isReadable
          rcases discarded.stages event _ _ with isStage | ⟨isStage, _⟩
          · rw [isStage, sent.stamped, runOut] at isReadable
            cases isReadable
          · rw [sent.stamped, runOut] at isStage
            cases isStage
      · rintro (isRefused | ⟨⟨held, isHeld, sameEvent⟩, stamped⟩)
        · exact absurd isRefused refused
        · have sent := holds.sent isPointer isHeld sameEvent isComposite isMapped located ran
          have discarded := discarded_of_destroys destroys sent.holds loose
          have isSlot := (held_lola (isPointer ▸ isHeld)).2.2.trans (val_of_locate located)
          have held' := holds.holds place held isHeld
          cases sameEvent
          have isReadable := sent.stamped
          rw [EventSlotStatus.stage_ofTimeStamp stamped] at isReadable
          refine .inr ⟨goesOn.1.trans running, _, ⟨held, isHeld, rfl, isSlot, held'.offer⟩,
            held'.offered, sent.wasInWriting,
            ⟨(before.events held.control.event).event.currentTimestamp + 1, ?_⟩, ?_, goesOn.2⟩
          · rcases discarded.stages held.control.event _ _ with isStage | ⟨isStage, _⟩
            · exact isStage.trans isReadable
            · cases isReadable.symm.trans isStage
          · intro other quality otherSlot different
            rw [← sent.others other quality otherSlot different]
            rcases discarded.stages other quality otherSlot with isStage | ⟨_, isOther, ended⟩
            · exact isStage
            · obtain ⟨endedHeld, isEnded, endedEvent⟩ := ended
              rw [← isPointer, isHeld] at isEnded
              cases isEnded
              apply absurd _ (different endedEvent.symm)
              rw [← isOther]
              exact val_of_locate located

end Sent

/-! ### Allocation -/

section Allocated

variable [DecidableEq Event] [DecidableEq Place] [DecidableEq LogIndex]
  {before after : AllocationState setup Place LogIndex} {event : Event} {place : Place}

omit [DecidableEq Event] [DecidableEq LogIndex] in
/-- A pointer with a slot that nobody has is put in a place. -/
theorem PointersHold.placed {ι : Type} [DecidableEq ι] {pointers : ι → ImplSampleAllocateePtr Event}
    {events : ∀ event, ProviderEvent (setup.slots event) LogIndex} {place : ι}
    (holds : PointersHold (update pointers place .blank) events)
    {pointer : LolaSampleAllocateePtr Event} {held : HeldSlot Event}
    (isHeld : (ImplSampleAllocateePtr.lola pointer).held = some held) (holdsNew : Holds events held)
    (alone : ∀ other otherHeld, (update pointers place .blank other).held = some otherHeld →
        otherHeld.control.event = held.control.event → otherHeld.slotIndex ≠ held.slotIndex)
    (inWriting : ∀ memory, (events held.control.event).memory = some memory →
      ∀ quality, held.control.composite.uses quality = true →
        ∀ slot : Fin (setup.slots held.control.event), held.slotIndex = slot →
          (memory.memory.status quality slot).stage = .inWriting) :
    PointersHold (update pointers place (.lola pointer)) events := by
  have cases_ : ∀ other otherHeld,
      (update pointers place (.lola pointer) other).held = some otherHeld →
        (other = place ∧ otherHeld = held) ∨ (other ≠ place ∧
          (update pointers place .blank other).held = some otherHeld) := by
    intro other otherHeld hasOther
    by_cases isPlace : other = place
    · rw [isPlace, update_self, isHeld] at hasOther
      exact .inl ⟨isPlace, (Option.some.inj hasOther).symm⟩
    · rw [update_of_ne isPlace] at hasOther
      refine .inr ⟨isPlace, ?_⟩
      rw [update_of_ne isPlace]
      exact hasOther
  constructor
  · intro event memory isMapped
    have exact := known_exact (holds.known event memory isMapped)
    apply exact.mono
    rintro quality slot stage ⟨written, isStage⟩ ⟨other, otherHeld, hasOther, isEvent, isSlot, uses⟩
    rcases cases_ other otherHeld hasOther with ⟨_, rfl⟩ | ⟨_, wasOther⟩
    · cases isEvent
      rw [isStage]
      exact inWriting memory isMapped quality uses slot isSlot
    · exact written ⟨other, otherHeld, wasOther, isEvent, isSlot, uses⟩
  · intro other otherHeld hasOther
    rcases cases_ other otherHeld hasOther with ⟨_, rfl⟩ | ⟨_, wasOther⟩
    · exact holdsNew
    · exact holds.holds other otherHeld wasOther
  · intro one two oneHeld twoHeld hasOne hasTwo sameEvent sameSlot
    rcases cases_ one oneHeld hasOne with ⟨isOne, rfl⟩ | ⟨_, wasOne⟩
    · rcases cases_ two twoHeld hasTwo with ⟨isTwo, rfl⟩ | ⟨_, wasTwo⟩
      · rw [isOne, isTwo]
      · exact absurd sameSlot.symm (alone two twoHeld wasTwo sameEvent.symm)
    · rcases cases_ two twoHeld hasTwo with ⟨_, rfl⟩ | ⟨_, wasTwo⟩
      · exact absurd sameSlot (alone one oneHeld wasOne sameEvent)
      · exact holds.distinct one two oneHeld twoHeld wasOne wasTwo sameEvent sameSlot
  · intro other otherPointer isOther hasSlot
    by_cases isPlace : other = place
    · rw [isPlace, update_self] at isOther
      cases isOther
      exact ⟨held.control, (held_lola isHeld).2.1⟩
    · rw [update_of_ne isPlace] at isOther
      apply holds.controlled other otherPointer _ hasSlot
      rw [update_of_ne isPlace]
      exact isOther
  · exact holds.composite

omit [DecidableEq Place] in
/-- The end of what was in a place. -/
theorem PointersHold.ended {pointer : ImplSampleAllocateePtr Event}
    (holds : PointersHold before.pointers before.events)
    (loose : ∀ lola, pointer = .lola lola → Loose before.pointers before.events lola)
    (destroys : DestroysPointer before pointer after) :
    PointersHold after.pointers after.events := by
  cases destroys with
  | blank => exact holds
  | lola destroys => exact (discarded_of_destroys destroys holds (loose _ rfl)).holds

omit [DecidableEq Place] [DecidableEq LogIndex] in
/-- A slot that has just been allocated is held. -/
theorem Holds.allocated {events : ∀ event, ProviderEvent (setup.slots event) LogIndex}
    {now : ProviderEvent (setup.slots event) LogIndex} {composite : EventDataControlComposite}
    {slotIndex : Nat} (isOffered : (events event).serviceOfferedFlag = true)
    (continues : Continues (events event) now) (inBounds : slotIndex < setup.slots event)
    (ofQuality : composite.OfQuality (setup.asilB (setup.parent event)))
    (isComposite : now.event.eventDataControlComposite = some composite) :
    Holds (update events event now)
      { control :=
          { event
            offer := (events event).offers
            mapping := (events event).mappings
            composite }
        slotIndex } := by
  constructor
  · dsimp only
    rw [update_self, continues.mappings]
  · dsimp only
    rw [update_self, continues.offers]
  · dsimp only
    rw [update_self, continues.serviceOfferedFlag, isOffered]
  · rw [update_self]
    exact continues.memory
  · exact inBounds
  · exact ofQuality
  · rw [update_self]
    exact ⟨composite, isComposite, fun notIgnored => notIgnored⟩

omit [DecidableEq Event] [DecidableEq Place] in
/-- What an allocation of the event leaves. -/
theorem PointersHold.allocated (holds : PointersHold before.pointers before.events)
    {composite : EventDataControlComposite}
    {memory later : WriterMemory (setup.slots event) LogIndex}
    {result : SkeletonEvent × Option (SampleAllocateePtr (setup.slots event))}
    (isComposite : (before.events event).event.eventDataControlComposite = some composite)
    (isMapped : (before.events event).memory = some memory)
    (ran : ((before.events event).event.allocate : SkeletonProgram _ LogIndex _).Amid
      (amidConsumers _ LogIndex setup.ampChecked) memory result later) :
    ∃ ignored slot, ∃ now : EventDataControlComposite,
      result.2 = slot.map (fun index => ⟨index, now⟩) ∧
        AllocatedBy composite (writtenIn before.pointers setup event) (now, slot, ignored)
          later ∧
        now.OfQuality (setup.asilB (setup.parent event)) ∧
        result.1.eventDataControlComposite = some now ∧
        Continues (before.events event)
          { before.events event with event := result.1, memory := some later } := by
  have ofQuality := holds.composite event composite isComposite
  have writing : (writtenIn before.pointers setup event).AllowsWriting := fun _ _ _ => rfl
  obtain ⟨ignored, slot, now, isNow, _, isResult, allocated⟩ :=
    (eventAllocate_ensures isComposite ofQuality writing (holds.known event memory isMapped)).amid
      ran
  refine ⟨ignored, slot, now, isResult, allocated, allocated.ofQuality ofQuality, isNow, rfl, rfl,
    rfl, ⟨later, rfl⟩, ?_⟩
  intro former isFormer
  cases isFormer.symm.trans isComposite
  exact ⟨now, isNow, allocated.ignored⟩

theorem PointersHold.allocates (holds : PointersHold before.pointers before.events)
    (allocates : Allocates event place before after) :
    PointersHold after.pointers after.events := by
  cases allocates with
  | notOffered | noControl | unmapped => exact holds
  | noSlot isOffered isComposite isMapped ran =>
      obtain ⟨ignored, slot, now, isNone, allocated, ofQuality, isNow, continues⟩ :=
        holds.allocated isComposite isMapped ran
      cases slot with
      | some slot => cases isNone
      | none =>
          apply holds.changed continues
          · intro memory isMemory
            cases isMemory
            exact allocated.allocated
          · intro composite isComposite
            cases isComposite.symm.trans isNow
            exact ofQuality
  | allocated isOffered isComposite isMapped ran destroys =>
      obtain ⟨ignored, slot, now, isSome, allocated, ofQuality, isNow, continues⟩ :=
        holds.allocated isComposite isMapped ran
      cases slot with
      | none => cases isSome
      | some slot =>
          cases isSome
          -- nobody had the slot, as it was not in writing
          have free : ∀ other held, (before.pointers other).held = some held →
              held.control.event = event → held.slotIndex ≠ slot := by
            intro other held hasOther sameEvent sameSlot
            obtain ⟨stage, written, notWriting⟩ := allocated.allocated.1 _ ofQuality.uses
            apply notWriting
            apply written
            refine ⟨other, held, hasOther, sameEvent, sameSlot, ?_⟩
            have heldQuality := (holds.holds other held hasOther).ofQuality
            rw [sameEvent] at heldQuality
            exact heldQuality.uses
          have rest : ∀ other held, (update before.pointers place .blank other).held = some held →
                (before.pointers other).held = some held := by
            intro other held hasOther
            by_cases isPlace : other = place
            · rw [isPlace, update_self] at hasOther
              cases hasOther
            · rw [update_of_ne isPlace] at hasOther
              exact hasOther
          have holdsRest := (holds.taken place .blank).changed continues
            (fun memory isMemory => by
              cases isMemory
              apply allocated.allocated.2.mono
              rintro quality other stage ⟨written, _⟩ ⟨owner, held, hasOwner, owned⟩
              exact written ⟨owner, held, rest owner held hasOwner, owned⟩)
            (fun composite isComposite => by
              cases isComposite.symm.trans isNow
              exact ofQuality)
          have inBounds : (slot : Nat) < maxSlotIndex :=
            Nat.lt_of_lt_of_le slot.isLt (setup.slots_le event)
          let held : HeldSlot Event :=
            { control :=
                { event
                  offer := (before.events event).offers
                  mapping := (before.events event).mappings
                  composite := now }
              slotIndex := slot }
          have isHeld : (before.newPointer event ⟨slot, now⟩).held = some held :=
            held_of_slot inBounds rfl
          have holdsNew := Holds.allocated isOffered continues slot.isLt ofQuality isNow
          apply PointersHold.ended _ _ destroys
          · apply holdsRest.placed isHeld holdsNew
            · intro other otherHeld hasOther sameEvent
              exact free other otherHeld (rest other otherHeld hasOther) sameEvent
            · intro memory isMemory quality uses other isOther
              rw [update_self] at isMemory
              cases isMemory
              exact (allocated.allocated.2.stage quality other).2 ⟨uses, Fin.ext isOther.symm⟩
          · intro pointer isPointer
            have loose := (holds.loose isPointer .blank).changed continues
            refine ⟨loose.holds, ?_, loose.controlled⟩
            intro pointerHeld hasPointer other otherHeld hasOther sameEvent sameSlot
            by_cases isPlace : other = place
            · rw [isPlace] at hasOther
              change (update before.pointers place _ place).held = _ at hasOther
              rw [update_self, isHeld] at hasOther
              cases hasOther
              rw [← isPointer] at hasPointer
              exact free place pointerHeld hasPointer sameEvent.symm sameSlot.symm
            · apply loose.alone pointerHeld hasPointer other otherHeld _ sameEvent sameSlot
              change (update before.pointers place _ other).held = _ at hasOther
              rw [update_of_ne isPlace] at hasOther ⊢
              exact hasOther

end Allocated

/-! ### Offers -/

section Offered

variable {ι : Type} {pointers : ι → ImplSampleAllocateePtr Event}
  {events now : ∀ event, ProviderEvent (setup.slots event) LogIndex} {skeleton : Skeleton}

/-- The events of a skeleton have changed, of which no pointer has a slot. -/
theorem PointersHold.offered (holds : PointersHold pointers events)
    (givenBack : ∀ place held, (pointers place).held = some held →
      setup.parent held.control.event ≠ skeleton)
    (others : ∀ event, setup.parent event ≠ skeleton → now event = events event)
    (known : ∀ event, setup.parent event = skeleton →
      ∀ memory, (now event).memory = some memory → Known (fun _ _ _ => True) memory)
    (ofQuality : ∀ event, setup.parent event = skeleton →
      ∀ composite, (now event).event.eventDataControlComposite = some composite →
        composite.OfQuality (setup.asilB skeleton)) :
    PointersHold pointers now := by
  constructor
  · intro event memory isMapped
    by_cases same : setup.parent event = skeleton
    · apply (known event same memory isMapped).mono
      rintro quality slot stage _ ⟨place, held, isHeld, sameEvent, _⟩
      exact absurd (sameEvent ▸ same) (givenBack place held isHeld)
    · rw [others event same] at isMapped
      exact holds.known event memory isMapped
  · intro place held isHeld
    exact (holds.holds place held isHeld).congr (others _ (givenBack place held isHeld))
  · exact holds.distinct
  · exact holds.controlled
  · intro event composite isComposite
    by_cases same : setup.parent event = skeleton
    · rw [same]
      exact ofQuality event same composite isComposite
    · rw [others event same] at isComposite
      exact holds.composite event composite isComposite

variable [DecidableEq LogIndex]

/-- An event that has been prepared knows nothing of its slots, and starts with a new
composite. -/
theorem prepared_of_preparesOffer {slots : Nat} {ampChecked asilB reopened : Bool}
    {state after : ProviderEvent slots LogIndex}
    (known : ∀ memory, state.memory = some memory → Known (fun _ _ _ => True) memory)
    (prepares : PreparesOffer ampChecked asilB reopened state after) :
    (∀ memory, after.memory = some memory → Known (fun _ _ _ => True) memory) ∧
      after.event.eventDataControlComposite = some (.new asilB) := by
  let unknown : Knowledge slots := fun _ _ _ => True
  have dropping : unknown.AllowsDropping := fun _ _ _ => trivial
  cases prepares with
  | onOldMemory isMapped ran =>
      obtain ⟨knownLater, isComposite⟩ :=
        (eventPrepareOffer_ensures state.event dropping (known _ isMapped)).amid ran
      refine ⟨?_, isComposite⟩
      intro memory isMemory
      cases isMemory
      exact knownLater
  | onNewMemory ran =>
      have knownNew : Known (fun _ _ _ => True) (⟨.new, false⟩ : WriterMemory slots LogIndex) :=
        known_new fun _ _ => trivial
      have ensured : (state.event.prepareOfferOnNewMemory asilB :
          SkeletonProgram slots LogIndex _).Ensures (amidConsumers slots LogIndex ampChecked)
          ⟨.new, false⟩ fun event memory => Known (fun _ _ _ => True) memory ∧
            event.eventDataControlComposite = some (.new asilB) := by
        apply Program.Ensures.bind (ensures_of_leavesMemory
          (getLatestTimestampAmong_leaves _ _ _) (known_stable rfl) knownNew)
        intro currentTimestamp latest holdsLatest
        exact .done ((known_stable rfl).and_fact _) ⟨holdsLatest, rfl⟩
      obtain ⟨knownLater, isComposite⟩ := ensured.amid ran
      refine ⟨?_, isComposite⟩
      intro memory isMemory
      cases isMemory
      exact knownLater

end Offered

/-! ## Runs -/

section Runs

variable [DecidableEq Event] [DecidableEq Skeleton] [DecidableEq Place] [DecidableEq LogIndex]
  {before after : AllocationState setup Place LogIndex} {event : Event} {place : Place}
  {skeleton : Skeleton}

section

variable (holds : PointersHold before.pointers before.events)

include holds

omit [DecidableEq Event] [DecidableEq Skeleton] [DecidableEq Place] [DecidableEq LogIndex] in
theorem PointersHold.forget (event : Event) (memory : WriterMemory (setup.slots event) LogIndex)
    (isMapped : (before.events event).memory = some memory) :
    Known (fun _ _ _ => True) memory :=
  (holds.known event memory isMapped).mono fun _ _ _ _ => trivial

omit [DecidableEq Event] [DecidableEq Place] in
theorem PointersHold.offersService (givenBack : GivenBack before skeleton)
    (offers : OffersService skeleton before after) :
    PointersHold after.pointers after.events := by
  cases offers with
  | failed unmaps =>
      apply holds.offered givenBack
      · intro event different
        simp [different]
      · intro event _ memory isMapped
        dsimp only at isMapped
        split at isMapped
        · cases isMapped
        · exact holds.forget event memory isMapped
      · intro event isParent composite isComposite
        rw [← isParent]
        dsimp only at isComposite
        split at isComposite
        · exact holds.composite event composite isComposite
        · exact holds.composite event composite isComposite
  | prepared reopened finished prepares others =>
      apply holds.offered givenBack others
      · intro event isParent
        exact (prepared_of_preparesOffer (holds.forget event) (prepares event isParent)).1
      · intro event isParent composite isComposite
        rw [(prepared_of_preparesOffer (holds.forget event) (prepares event isParent)).2]
          at isComposite
        cases isComposite
        exact ⟨rfl, fun _ => rfl⟩

omit [DecidableEq Event] [DecidableEq Place] [DecidableEq LogIndex] in
theorem PointersHold.stopsOfferService (givenBack : GivenBack before skeleton)
    (stops : StopsOfferService skeleton before after) :
    PointersHold after.pointers after.events := by
  cases stops with
  | notOffered => exact holds
  | stopped isOffered unused =>
      apply holds.offered givenBack
      · intro event different
        simp [different]
      · intro event isParent memory isMapped
        simp only [isParent, if_true, ProviderEvent.prepareStopOffer] at isMapped
        split at isMapped
        · cases isMapped
        · exact holds.forget event memory isMapped
      · intro event isParent composite isComposite
        simp only [isParent, if_true, ProviderEvent.prepareStopOffer] at isComposite
        rw [← isParent]
        exact holds.composite event composite isComposite

omit [DecidableEq Skeleton] in
theorem PointersHold.resets
    (resetTo : ∀ pointer, setup.resetTo pointer = (pointer.internalDelete, true))
    (resets : Resets place before after) : PointersHold after.pointers after.events := by
  cases resets with
  | blank => exact holds
  | keeps _ notDiscarded =>
      rw [resetTo] at notDiscarded
      cases notDiscarded
  | discards isPointer isDiscarded destroys =>
      rw [resetTo] at destroys
      exact (discarded_of_destroys destroys (holds.taken place (WithoutSlot.internalDelete _))
        (holds.loose isPointer (WithoutSlot.internalDelete _))).holds

omit [DecidableEq Skeleton] in
theorem PointersHold.sends (condition : SendCondition before event place)
    (sends : Sends event place before after) :
    PointersHold after.pointers after.events := by
  rcases condition with refused | ⟨⟨held, isHeld, sameEvent⟩, _⟩
  · rw [refused.ends sends]
    exact holds
  · cases sends with
    | blank | noControl | unmapped | checked => exact holds
    | unchecked isPointer _ _ notLocated _ _ =>
        exact absurd notLocated (holds.located isPointer isHeld sameEvent)
    | published isPointer isComposite isMapped located ran destroys =>
        have sent := holds.sent isPointer isHeld sameEvent isComposite isMapped located ran
        have loose := holds.sentLoose isPointer (continues_of_published ran).2
        exact (discarded_of_destroys destroys sent.holds loose).holds

/-- What pointers hold stays so in an orderly step. -/
theorem PointersHold.step
    (resetTo : ∀ pointer, setup.resetTo pointer = (pointer.internalDelete, true))
    (step : OrderlyStep before after) : PointersHold after.pointers after.events := by
  cases step with
  | consumers moves =>
      cases moves with
      | @moved event memory later isMapped moves =>
          apply holds.changed
          · refine ⟨rfl, rfl, rfl, ⟨later, rfl⟩, ?_⟩
            intro composite isComposite
            exact ⟨composite, isComposite, fun notIgnored => notIgnored⟩
          · intro now isNow
            cases isNow
            exact (holds.known event memory isMapped).moved moves
          · exact holds.composite event
  | user _ orderly step =>
      cases step with
      | allocate allocates => exact holds.allocates allocates
      | moveConstruct | moveAssign | swap => exact holds.exchanged _ _
      | reset resets | assignNull resets => exact holds.resets resetTo resets
      | @destroy place _ destroys =>
          apply PointersHold.ended (holds.taken place .blank) _ destroys
          intro pointer isPointer
          exact holds.loose isPointer .blank
      | send sends => exact holds.sends orderly sends
      | offerService offers => exact holds.offersService orderly offers
      | stopOfferService stops => exact holds.stopsOfferService orderly stops

end

omit [DecidableEq Event] [DecidableEq Skeleton] [DecidableEq Place] [DecidableEq LogIndex] in
theorem Starts.pointersHold (starts : Starts before) :
    PointersHold before.pointers before.events := by
  have blank : ∀ place, (before.pointers place).held = none := by
    intro place
    rw [starts.pointers place]
    rfl
  constructor
  · intro event memory isMapped
    apply (starts.memory event memory isMapped).mono
    rintro quality slot stage _ ⟨place, held, isHeld, _⟩
    exact nomatch (blank place).symm.trans isHeld
  · intro place held isHeld
    exact nomatch (blank place).symm.trans isHeld
  · intro place other held otherHeld isHeld
    exact nomatch (blank place).symm.trans isHeld
  · intro place pointer isPointer
    exact nomatch (starts.pointers place).symm.trans isPointer
  · intro event composite isComposite
    rw [starts.events event] at isComposite
    cases isComposite

/-- What pointers hold stays so in an orderly run. -/
theorem Starts.run {start : AllocationState setup Place LogIndex} (starts : Starts start)
    (resetTo : ∀ pointer, setup.resetTo pointer = (pointer.internalDelete, true))
    (reached : Relation.ReflTransGen OrderlyStep start before) :
    PointersHold before.pointers before.events := by
  induction reached with
  | refl => exact starts.pointersHold
  | tail _ step ih => exact ih.step resetTo step

end Runs

/-- In every run in which samples are given back before their service is stopped or offered
again, and whose sends have met the condition so far, the next send meets the law exactly under
the condition. -/
theorem sendLaw_iff_of_reached {Event Skeleton Place LogIndex : Type} [DecidableEq Event]
    [DecidableEq Skeleton] [DecidableEq Place] [DecidableEq LogIndex]
    {setup : ProviderSetup Event Skeleton}
    {start before after : AllocationState setup Place LogIndex} {event : Event} {place : Place}
    (resetTo : ∀ pointer, setup.resetTo pointer = (pointer.internalDelete, true))
    (starts : Starts start) (reached : Relation.ReflTransGen OrderlyStep start before)
    (running : before.ended = false) (sends : UserStep before (.send event place) after) :
    SendLaw before after event place ↔ SendCondition before event place := by
  cases sends with
  | send sends => exact sendLaw_iff (starts.run resetTo reached) running sends

/-! ## Calls that nobody disturbs -/

section Alone

variable [DecidableEq Event] [DecidableEq Skeleton] [DecidableEq Place] [DecidableEq LogIndex]
  (state : AllocationState setup Place LogIndex) (event : Event) (place : Place)

/-- An offer on new memory. -/
def prepareAlone {slots : Nat} (ampChecked asilB : Bool) (event : ProviderEvent slots LogIndex) :
    Option (ProviderEvent slots LogIndex) :=
  ((event.event.prepareOfferOnNewMemory asilB).runAlone
    (writerOutcomes slots LogIndex ampChecked) ⟨.new, false⟩).map fun ended =>
      event.prepared (event.mappings + 1) ended.1 ended.2

def offerAlone [Fintype Event] (skeleton : Skeleton) :
    Option (AllocationState setup Place LogIndex) :=
  let prepared := fun event =>
    prepareAlone setup.ampChecked (setup.asilB skeleton) (state.events event)
  if ∀ event, setup.parent event = skeleton → (prepared event).isSome then
    some
      { state with
        events := fun event =>
          if setup.parent event = skeleton then
            (prepared event).getD (state.events event)
          else
            state.events event
        serviceOfferedFlag := update state.serviceOfferedFlag skeleton true }
  else
    none

/-- A slot is allocated for a new variable. -/
def allocateAlone : Option (AllocationState setup Place LogIndex) := do
  let memory ← (state.events event).memory
  let _ ← (state.events event).event.eventDataControlComposite
  let ended ← (state.events event).event.allocate.runAlone
    (writerOutcomes _ LogIndex setup.ampChecked) memory
  let sample ← ended.1.2
  if (state.events event).serviceOfferedFlag ∧ state.pointers place = .blank then
    some ((state.setMemory event ended.1.1 ended.2).setPointer place
      (state.newPointer event sample))
  else
    none

/-- A pointer that has a slot ends. -/
def discardAlone (pointer : LolaSampleAllocateePtr Event) :
    Option (AllocationState setup Place LogIndex) := do
  let control ← pointer.eventDataControl
  let memory ← (state.events control.event).memory
  let slot ← locate (setup.slots control.event) pointer.eventSlotIndex
  let ended ← (control.composite.discard slot : SkeletonProgram _ LogIndex Unit).runAlone
    (writerOutcomes _ LogIndex setup.ampChecked) memory
  if pointer.eventSlotIndex < maxSlotIndex ∧
      control.mapping = (state.events control.event).mappings then
    some (state.setMemory control.event (state.events control.event).event ended.2)
  else
    none

def sendAlone : Option (AllocationState setup Place LogIndex) :=
  match state.pointers place with
  | .blank => some state.terminate
  | .lola pointer => do
      let memory ← (state.events event).memory
      let composite ← (state.events event).event.eventDataControlComposite
      let slot ← locate (setup.slots event) pointer.eventSlotIndex
      let ended ← ((state.events event).event.publish (setup.asilB (setup.parent event)) composite
        slot).runAlone (writerOutcomes _ LogIndex setup.ampChecked) memory
      discardAlone ((state.setMemory event ended.1 ended.2).setPointer place .blank) pointer

variable {state event place} {after : AllocationState setup Place LogIndex}

omit [DecidableEq Event] [DecidableEq Place] in
theorem offersService_of_offerAlone [Fintype Event] {skeleton : Skeleton}
    (ran : offerAlone state skeleton = some after) : OffersService skeleton state after := by
  rw [offerAlone] at ran
  split at ran
  · rename_i isSome
    cases ran
    apply OffersService.prepared false true
    · intro event isParent
      obtain ⟨now, isNow⟩ := Option.isSome_iff_exists.mp (isSome event isParent)
      rw [if_pos isParent, isNow]
      obtain ⟨⟨skeletonEvent, memory⟩, ran, rfl⟩ := Option.map_eq_some_iff.mp isNow
      exact .onNewMemory (Program.amid_of_runAlone (fun _ _ => trivial) ran)
    · intro event different
      exact if_neg different
  · cases ran

omit [DecidableEq Skeleton] in
theorem allocates_of_allocateAlone (ran : allocateAlone state event place = some after) :
    Allocates event place state after := by
  simp only [allocateAlone, Option.bind_eq_bind, Option.bind_eq_some_iff] at ran
  obtain ⟨memory, isMapped, composite, isComposite, ⟨⟨skeletonEvent, _⟩, later⟩, ran, sample,
    rfl, ran'⟩ := ran
  split at ran'
  · rename_i isNew
    cases ran'
    apply Allocates.allocated isNew.1 isComposite isMapped
      (Program.amid_of_runAlone (fun _ _ => trivial) ran)
    rw [isNew.2]
    exact .blank
  · cases ran'

omit [DecidableEq Skeleton] [DecidableEq Place] in
theorem destroys_of_discardAlone {pointer : LolaSampleAllocateePtr Event}
    (ran : discardAlone state pointer = some after) : Destroys state pointer after := by
  simp only [discardAlone, Option.bind_eq_bind, Option.bind_eq_some_iff] at ran
  obtain ⟨control, hasControl, memory, isMapped, slot, located, ⟨_, later⟩, ran, ran'⟩ := ran
  split at ran'
  · rename_i isCurrent
    cases ran'
    exact .discards isCurrent.1 hasControl isCurrent.2 isMapped located
      (Program.amid_of_runAlone (fun _ _ => trivial) ran)
  · cases ran'

omit [DecidableEq Skeleton] in
theorem sends_of_sendAlone (ran : sendAlone state event place = some after) :
    Sends event place state after := by
  rw [sendAlone] at ran
  split at ran
  · rename_i isBlank
    cases ran
    exact .blank isBlank
  · rename_i pointer isPointer
    simp only [Option.bind_eq_bind, Option.bind_eq_some_iff] at ran
    obtain ⟨memory, isMapped, composite, isComposite, slot, located, ⟨skeletonEvent, later⟩, ran,
      ended⟩ := ran
    exact .published isPointer isComposite isMapped located
      (Program.amid_of_runAlone (fun _ _ => trivial) ran) (destroys_of_discardAlone ended)

end Alone

/-! ## Two events of one sample type -/

/-- One skeleton with two events of one slot each. -/
def twoEvents : ProviderSetup Bool Unit where
  slots _ := 1
  slots_le _ := by decide
  parent _ := ()
  asilB _ := false
  ampChecked := true
  boundsChecked := true
  resetTo pointer := (pointer.internalDelete, true)

def twoEventsStart : AllocationState twoEvents Unit Empty where
  events _ :=
    { event := .new
      serviceOfferedFlag := false
      offers := 0
      mappings := 0
      memory := none }
  serviceOfferedFlag _ := false
  pointers _ := .blank
  strayAccess := false
  ended := false

theorem twoEventsStart_starts : Starts twoEventsStart where
  pointers _ := rfl
  events _ := rfl
  memory _ _ isMapped := nomatch isMapped
  running := rfl

/-- Both events are offered, one allocates a sample, and the sample is sent with an event. -/
def allocateAndSend (allocating sending : Bool) :
    Option (AllocationState twoEvents Unit Empty × AllocationState twoEvents Unit Empty ×
      AllocationState twoEvents Unit Empty) := do
  let offered ← offerAlone twoEventsStart ()
  let allocated ← allocateAlone offered allocating ()
  let sent ← sendAlone allocated sending ()
  pure (offered, allocated, sent)

/-- What is found after such a run is found in a run of the provider. -/
theorem exists_allocateAndSend (allocating sending : Bool)
    (check : AllocationState twoEvents Unit Empty → AllocationState twoEvents Unit Empty → Bool)
    (checked : (allocateAndSend allocating sending).any
      (fun run => !run.1.ended && !run.2.1.ended && check run.2.1 run.2.2) = true) :
    ∃ before after, Relation.ReflTransGen OrderlyStep twoEventsStart before ∧
      before.ended = false ∧ UserStep before (.send sending ()) after ∧
        check before after = true := by
  rw [Option.any_eq_true] at checked
  obtain ⟨⟨offered, allocated, sent⟩, isRun, facts⟩ := checked
  simp only [Bool.and_eq_true, Bool.not_eq_true'] at facts
  simp only [allocateAndSend, Option.bind_eq_bind, Option.bind_eq_some_iff] at isRun
  obtain ⟨_, isOffered, _, isAllocated, _, isSent, isRun⟩ := isRun
  cases isRun
  have offer : OrderlyStep twoEventsStart offered := by
    refine .user rfl ?_ (.offerService (offersService_of_offerAlone isOffered))
    intro place held isHeld
    cases isHeld
  have allocate : OrderlyStep offered allocated := by
    refine .user facts.1.1 ?_ (.allocate (allocates_of_allocateAlone isAllocated))
    trivial
  exact ⟨allocated, sent, (Relation.ReflTransGen.single offer).tail allocate, facts.1.2,
    .send (sends_of_sendAlone isSent), facts.2⟩

/-- A pointer is sent with the event that has allocated it. -/
theorem sendLaw_of_allocated : ∃ before after : AllocationState twoEvents Unit Empty,
      UserStep before (.send true ()) after ∧ after.ended = false ∧
        SendLaw before after true () := by
  obtain ⟨before, after, reached, running, sends, facts⟩ := exists_allocateAndSend true true
      (fun before after => !after.ended &&
        decide ((before.events true).event.currentTimestamp + 1 ≠ 0) &&
        (before.pointers ()).held.any fun held => held.control.event == true)
      (by decide +kernel)
  simp only [Bool.and_eq_true, Bool.not_eq_true', decide_eq_true_eq, Option.any_eq_true] at facts
  obtain ⟨⟨goesOn, stamped⟩, held, isHeld, sameEvent⟩ := facts
  refine ⟨before, after, sends, goesOn, ?_⟩
  apply (sendLaw_iff_of_reached (fun _ => rfl) twoEventsStart_starts reached running sends).mpr
  exact .inr ⟨⟨held, isHeld, eq_of_beq sameEvent⟩, stamped⟩

/-- A pointer is sent with another event, which publishes its own slot of that index. -/
theorem sendLaw_violated :
    ¬ ∀ (before after : AllocationState twoEvents Unit Empty) (event : Bool) (place : Unit),
      Relation.ReflTransGen ProviderStep twoEventsStart before → before.ended = false →
        UserStep before (.send event place) after → SendLaw before after event place := by
  intro law
  obtain ⟨before, after, reached, running, sends, facts⟩ := exists_allocateAndSend false true
      (fun before after => !after.ended &&
        (before.pointers ()).held.any fun held => held.control.event == false)
      (by decide +kernel)
  simp only [Bool.and_eq_true, Bool.not_eq_true', Option.any_eq_true] at facts
  obtain ⟨goesOn, held, isHeld, otherEvent⟩ := facts
  have reachedAnyhow := Relation.ReflTransGen.mono
    (fun _ _ (step : OrderlyStep _ _) => step.providerStep) _ _ reached
  rcases law before after true () reachedAnyhow running sends with
    ⟨isEnded, _⟩ | ⟨_, slot, publishes⟩
  · exact nomatch goesOn.symm.trans isEnded
  · obtain ⟨allocated, isAllocated, sameEvent, _⟩ := publishes.allocated
    cases isHeld.symm.trans isAllocated
    exact nomatch (eq_of_beq otherEvent).symm.trans sameEvent

end MwCom.Lola.ZeroCopy
