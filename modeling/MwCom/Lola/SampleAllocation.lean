/-
Module: MwCom.Lola.SampleAllocation
Purpose: The variables in which the user of several skeleton events keeps what it has
  allocated, and the calls that allocate, move, drop and send it while services are offered
  and stopped.
Trusted boundary: an access to memory that is not mapped any more ends the process, and
  so does reading an empty amp::optional.  The number of an offer (`offer`, `offers`) and
  whether memory outside a slot table was accessed (`strayAccess`) are bookkeeping of this
  module.
Main exports: ImplSampleAllocateePtr, AllocationState, Destroys, Sends, UserStep
-/
import Mathlib.Data.Fintype.Basic
import MwCom.Lola.WriterExclusivity

namespace MwCom.Lola

open Interleaving SkeletonProgram

/-! ## Pointers -/

/-- The largest value of the type of slot indices. -/
def maxSlotIndex : Nat := 65535

/-- A copy of the composite of an event, made during one of its offers, and the mapping of
the shared memory that its controls are in. -/
structure ControlReference (Event : Type) where
  event : Event
  offer : Nat
  mapping : Nat
  composite : EventDataControlComposite
deriving DecidableEq

/-- `lola::SampleAllocateePtr`; `managedObject` is whether it points to a sample. -/
structure LolaSampleAllocateePtr (Event : Type) where
  managedObject : Bool
  eventSlotIndex : Nat
  eventDataControl : Option (ControlReference Event)
deriving DecidableEq

namespace LolaSampleAllocateePtr

variable {Event : Type} (pointer : LolaSampleAllocateePtr Event)

/-- What `internal_delete` leaves of the pointer; the slot is discarded before. -/
def internalDelete : LolaSampleAllocateePtr Event :=
  { pointer with managedObject := false, eventSlotIndex := maxSlotIndex }

end LolaSampleAllocateePtr

/-- `impl::SampleAllocateePtr`: nothing, or the pointer of the binding. -/
inductive ImplSampleAllocateePtr (Event : Type) where
  | blank
  | lola (pointer : LolaSampleAllocateePtr Event)
deriving DecidableEq

/-- A slot that a pointer has, with the control to discard it in. -/
structure HeldSlot (Event : Type) where
  control : ControlReference Event
  slotIndex : Nat

/-- The slot that ends with the pointer. -/
def ImplSampleAllocateePtr.held {Event : Type} :
    ImplSampleAllocateePtr Event → Option (HeldSlot Event)
  | .blank => none
  | .lola pointer =>
      if pointer.eventSlotIndex < maxSlotIndex then
        pointer.eventDataControl.map fun control => ⟨control, pointer.eventSlotIndex⟩
      else
        none

/-- The events of a provider, the skeletons they belong to, and the code that is not at hand:
`resetTo` is what `reset` with a pointer to a sample makes of a pointer, and whether it
discards the slot; `boundsChecked` is whether an array checks its index. -/
structure ProviderSetup (Event Skeleton : Type) where
  slots : Event → Nat
  slots_le : ∀ event, slots event ≤ maxSlotIndex
  parent : Event → Skeleton
  asilB : Skeleton → Bool
  ampChecked : Bool
  boundsChecked : Bool
  resetTo : LolaSampleAllocateePtr Event → LolaSampleAllocateePtr Event × Bool

/-! ## Events -/

/-- The slot behind an index, if there is one. -/
def locate (slots index : Nat) : Option (Fin slots) :=
  if inBounds : index < slots then some ⟨index, inBounds⟩ else none

namespace SkeletonEvent

variable {slots : Nat} {LogIndex : Type} (event : SkeletonEvent) (asilB : Bool)

/-- `Send` up to the end of the sample. -/
def publish (composite : EventDataControlComposite) (slot : Fin slots) :
    SkeletonProgram slots LogIndex SkeletonEvent := do
  let currentTimestamp := event.currentTimestamp + 1
  composite.eventReady slot currentTimestamp
  onlyIf (!event.qmDisconnect) (notifyEvent .asilQm)
  onlyIf asilB (notifyEvent .asilB)
  pure { event with currentTimestamp := currentTimestamp }

end SkeletonEvent

/-- An event with its flag, how often it was offered, and the shared memory with its controls,
if that is mapped. -/
structure ProviderEvent (slots : Nat) (LogIndex : Type) where
  event : SkeletonEvent
  serviceOfferedFlag : Bool
  offers : Nat
  mappings : Nat
  memory : Option (WriterMemory slots LogIndex)

namespace ProviderEvent

variable {slots : Nat} {LogIndex : Type} (state : ProviderEvent slots LogIndex)

/-- The event has been prepared for an offer. -/
def prepared (mappings : Nat) (event : SkeletonEvent) (memory : WriterMemory slots LogIndex) :
    ProviderEvent slots LogIndex where
  event := event
  serviceOfferedFlag := true
  offers := state.offers + 1
  mappings := mappings
  memory := some memory

/-- The event after the skeleton has stopped its offer; `unused`: no proxy uses the memory. -/
def prepareStopOffer (unused : Bool) : ProviderEvent slots LogIndex :=
  { state with
    serviceOfferedFlag := false
    memory := if unused then none else state.memory }

end ProviderEvent

variable {Event Skeleton Place LogIndex : Type}

/-! ## States -/

/-- A provider process: its events, the flags of its skeletons, the variables of the user. -/
structure AllocationState (setup : ProviderSetup Event Skeleton) (Place LogIndex : Type) where
  events : ∀ event, ProviderEvent (setup.slots event) LogIndex
  serviceOfferedFlag : Skeleton → Bool
  pointers : Place → ImplSampleAllocateePtr Event
  strayAccess : Bool
  ended : Bool

namespace AllocationState

variable {setup : ProviderSetup Event Skeleton} (state : AllocationState setup Place LogIndex)

/-- The process has been terminated. -/
def terminate : AllocationState setup Place LogIndex := { state with ended := true }

/-- Memory beside a slot table has been accessed. -/
def stray : AllocationState setup Place LogIndex := { state with strayAccess := true }

/-- The stage of a slot, while the memory is mapped. -/
def stage (event : Event) (quality : QualityType) (slot : Fin (setup.slots event)) :
    Option SlotStage :=
  (state.events event).memory.map fun memory => (memory.memory.status quality slot).stage

section Updates

variable [DecidableEq Event] [DecidableEq Place]

def setEvent (event : Event) (now : ProviderEvent (setup.slots event) LogIndex) :
    AllocationState setup Place LogIndex :=
  { state with events := Function.update state.events event now }

/-- An event has published or allocated: its members and its memory are others. -/
def setMemory (event : Event) (skeletonEvent : SkeletonEvent)
    (memory : WriterMemory (setup.slots event) LogIndex) :
    AllocationState setup Place LogIndex :=
  state.setEvent event
    { state.events event with event := skeletonEvent, memory := some memory }

def setPointer (place : Place) (pointer : ImplSampleAllocateePtr Event) :
    AllocationState setup Place LogIndex :=
  { state with pointers := Function.update state.pointers place pointer }

/-- `Swap` of two variables, which moves are made of as well. -/
def exchange (place other : Place) : AllocationState setup Place LogIndex :=
  { state with pointers := state.pointers ∘ Equiv.swap place other }

/-- What `Allocate` returns. -/
def newPointer (event : Event) (sample : SampleAllocateePtr (setup.slots event)) :
    ImplSampleAllocateePtr Event :=
  .lola
    { managedObject := true
      eventSlotIndex := sample.eventSlotIndex
      eventDataControl := some
        { event
          offer := (state.events event).offers
          mapping := (state.events event).mappings
          composite := sample.eventDataControl } }

end Updates

end AllocationState

/-! ## Calls -/

/-- What the user calls.  A variable that it has not constructed is blank. -/
inductive UserCall (Event Skeleton Place : Type) where
  | allocate (event : Event) (place : Place)
  | moveConstruct (place other : Place)
  | moveAssign (place other : Place)
  | swap (place other : Place)
  | reset (place : Place)
  | assignNull (place : Place)
  | destroy (place : Place)
  | send (event : Event) (place : Place)
  | offerService (skeleton : Skeleton)
  | stopOfferService (skeleton : Skeleton)

section Steps

variable [DecidableEq Event] [DecidableEq Place] [DecidableEq LogIndex]
  {setup : ProviderSetup Event Skeleton}

/-- `internal_delete` as far as it discards the slot. -/
inductive Destroys : AllocationState setup Place LogIndex → LolaSampleAllocateePtr Event →
    AllocationState setup Place LogIndex → Prop where
  | noSlot {state pointer} (reset : ¬pointer.eventSlotIndex < maxSlotIndex) :
      Destroys state pointer state
  | noControl {state pointer} (withoutControl : pointer.eventDataControl = none) :
      Destroys state pointer state
  | discards {state pointer control memory slot later}
      (hasSlot : pointer.eventSlotIndex < maxSlotIndex)
      (hasControl : pointer.eventDataControl = some control)
      (mapping : control.mapping = (state.events control.event).mappings)
      (isMapped : (state.events control.event).memory = some memory)
      (located : locate (setup.slots control.event) pointer.eventSlotIndex = some slot)
      (ran : (control.composite.discard slot : SkeletonProgram _ LogIndex Unit).Amid
        (amidConsumers _ LogIndex setup.ampChecked) memory () later) :
      Destroys state pointer
        (state.setMemory control.event (state.events control.event).event later)
  | outOfBounds {state pointer control memory}
      (hasSlot : pointer.eventSlotIndex < maxSlotIndex)
      (hasControl : pointer.eventDataControl = some control)
      (mapping : control.mapping = (state.events control.event).mappings)
      (isMapped : (state.events control.event).memory = some memory)
      (notLocated : locate (setup.slots control.event) pointer.eventSlotIndex = none) :
      Destroys state pointer (if setup.boundsChecked then state.terminate else state.stray)
  | unmapped {state pointer control}
      (hasSlot : pointer.eventSlotIndex < maxSlotIndex)
      (hasControl : pointer.eventDataControl = some control)
      (gone : control.mapping ≠ (state.events control.event).mappings ∨
        (state.events control.event).memory = none) :
      Destroys state pointer state.terminate

/-- The end of a pointer of any kind. -/
inductive DestroysPointer : AllocationState setup Place LogIndex →
    ImplSampleAllocateePtr Event → AllocationState setup Place LogIndex → Prop where
  | blank {state} : DestroysPointer state .blank state
  | lola {state pointer after} (destroys : Destroys state pointer after) :
      DestroysPointer state (.lola pointer) after

/-- `Allocate`, and the move of its result to a variable. -/
inductive Allocates (event : Event) (place : Place) :
    AllocationState setup Place LogIndex → AllocationState setup Place LogIndex → Prop where
  | notOffered {state} (isNotOffered : (state.events event).serviceOfferedFlag = false) :
      Allocates event place state state
  | noControl {state} (isOffered : (state.events event).serviceOfferedFlag = true)
      (noComposite : (state.events event).event.eventDataControlComposite = none) :
      Allocates event place state state
  | unmapped {state composite} (isOffered : (state.events event).serviceOfferedFlag = true)
      (isComposite : (state.events event).event.eventDataControlComposite = some composite)
      (gone : (state.events event).memory = none) :
      Allocates event place state state.terminate
  | noSlot {state composite memory skeletonEvent later}
      (isOffered : (state.events event).serviceOfferedFlag = true)
      (isComposite : (state.events event).event.eventDataControlComposite = some composite)
      (isMapped : (state.events event).memory = some memory)
      (ran : ((state.events event).event.allocate : SkeletonProgram _ LogIndex _).Amid
        (amidConsumers _ LogIndex setup.ampChecked) memory (skeletonEvent, none) later) :
      Allocates event place state (state.setMemory event skeletonEvent later)
  -- the moved-to variable swaps, what it had ends with the result of the call
  | allocated {state composite memory skeletonEvent sample later after}
      (isOffered : (state.events event).serviceOfferedFlag = true)
      (isComposite : (state.events event).event.eventDataControlComposite = some composite)
      (isMapped : (state.events event).memory = some memory)
      (ran : ((state.events event).event.allocate : SkeletonProgram _ LogIndex _).Amid
        (amidConsumers _ LogIndex setup.ampChecked) memory (skeletonEvent, some sample) later)
      (destroys : DestroysPointer ((state.setMemory event skeletonEvent later).setPointer place
          (state.newPointer event sample)) (state.pointers place) after) :
      Allocates event place state after

/-- Zero-copy `Send`: the variable is moved from, and its pointer ends with the call. -/
inductive Sends (event : Event) (place : Place) :
    AllocationState setup Place LogIndex → AllocationState setup Place LogIndex → Prop where
  -- the pointer is asserted to be one of this binding
  | blank {state} (isBlank : state.pointers place = .blank) :
      Sends event place state state.terminate
  -- an empty optional is dereferenced
  | noControl {state pointer} (isPointer : state.pointers place = .lola pointer)
      (noComposite : (state.events event).event.eventDataControlComposite = none) :
      Sends event place state state.terminate
  | unmapped {state pointer composite} (isPointer : state.pointers place = .lola pointer)
      (isComposite : (state.events event).event.eventDataControlComposite = some composite)
      (gone : (state.events event).memory = none) :
      Sends event place state state.terminate
  | checked {state pointer composite memory}
      (isPointer : state.pointers place = .lola pointer)
      (isComposite : (state.events event).event.eventDataControlComposite = some composite)
      (isMapped : (state.events event).memory = some memory)
      (notLocated : locate (setup.slots event) pointer.eventSlotIndex = none)
      (boundsChecked : setup.boundsChecked = true) :
      Sends event place state state.terminate
  | unchecked {state pointer composite memory after}
      (isPointer : state.pointers place = .lola pointer)
      (isComposite : (state.events event).event.eventDataControlComposite = some composite)
      (isMapped : (state.events event).memory = some memory)
      (notLocated : locate (setup.slots event) pointer.eventSlotIndex = none)
      (notChecked : setup.boundsChecked = false)
      (destroys : Destroys (((state.setMemory event { (state.events event).event with
            currentTimestamp := (state.events event).event.currentTimestamp + 1 }
          memory).setPointer place .blank).stray) pointer after) :
      Sends event place state after
  | published {state pointer composite memory slot skeletonEvent later after}
      (isPointer : state.pointers place = .lola pointer)
      (isComposite : (state.events event).event.eventDataControlComposite = some composite)
      (isMapped : (state.events event).memory = some memory)
      (located : locate (setup.slots event) pointer.eventSlotIndex = some slot)
      (ran : ((state.events event).event.publish (setup.asilB (setup.parent event)) composite
        slot : SkeletonProgram _ LogIndex _).Amid
          (amidConsumers _ LogIndex setup.ampChecked) memory skeletonEvent later)
      (destroys : Destroys
        ((state.setMemory event skeletonEvent later).setPointer place .blank) pointer after) :
      Sends event place state after

/-- `PrepareOffer` of an event, on memory that is opened again or was created. -/
inductive PreparesOffer {slots : Nat} (ampChecked asilB : Bool) :
    (reopened : Bool) → ProviderEvent slots LogIndex → ProviderEvent slots LogIndex → Prop where
  | onOldMemory {state memory event later} (isMapped : state.memory = some memory)
      (ran : (state.event.prepareOffer asilB : SkeletonProgram slots LogIndex _).Amid
        (amidConsumers slots LogIndex ampChecked) memory event later) :
      PreparesOffer ampChecked asilB true state (state.prepared state.mappings event later)
  | onNewMemory {state event later}
      (ran : (state.event.prepareOfferOnNewMemory asilB : SkeletonProgram slots LogIndex _).Amid
          (amidConsumers slots LogIndex ampChecked) ⟨.new, false⟩ event later) :
      PreparesOffer ampChecked asilB false state
        (state.prepared (state.mappings + 1) event later)

/-- `OfferService`. -/
inductive OffersService [DecidableEq Skeleton] (skeleton : Skeleton) :
    AllocationState setup Place LogIndex → AllocationState setup Place LogIndex → Prop where
  -- the binding reports an error, and may have unmapped what it had before
  | failed {state} (unmaps : Bool) : OffersService skeleton state
        { state with
          events := fun event =>
            if setup.parent event = skeleton ∧ unmaps then
              { state.events event with memory := none }
            else
              state.events event }
  -- `finished`: none of the fields has reported an error
  | prepared {state events} (reopened finished : Bool)
      (prepares : ∀ event, setup.parent event = skeleton →
        PreparesOffer setup.ampChecked (setup.asilB skeleton) reopened (state.events event)
          (events event))
      (others : ∀ event, setup.parent event ≠ skeleton → events event = state.events event) :
      OffersService skeleton state
        { state with
          events := events
          serviceOfferedFlag :=
            if finished then
              Function.update state.serviceOfferedFlag skeleton true
            else
              state.serviceOfferedFlag }

/-- `StopOfferService`. -/
inductive StopsOfferService [DecidableEq Skeleton] (skeleton : Skeleton) :
    AllocationState setup Place LogIndex → AllocationState setup Place LogIndex → Prop where
  | notOffered {state} (isNotOffered : state.serviceOfferedFlag skeleton = false) :
      StopsOfferService skeleton state state
  | stopped {state} (isOffered : state.serviceOfferedFlag skeleton = true) (unused : Bool) :
      StopsOfferService skeleton state
        { state with
          events := fun event =>
            if setup.parent event = skeleton then
              (state.events event).prepareStopOffer unused
            else
              state.events event
          serviceOfferedFlag := Function.update state.serviceOfferedFlag skeleton false }

/-- `reset` with a null pointer to a sample, which nullptr assignment calls, too. -/
inductive Resets (place : Place) :
    AllocationState setup Place LogIndex → AllocationState setup Place LogIndex → Prop where
  | blank {state} (isBlank : state.pointers place = .blank) : Resets place state state
  | keeps {state pointer} (isPointer : state.pointers place = .lola pointer)
      (notDiscarded : (setup.resetTo pointer).2 = false) :
      Resets place state (state.setPointer place (.lola (setup.resetTo pointer).1))
  | discards {state pointer after} (isPointer : state.pointers place = .lola pointer)
      (isDiscarded : (setup.resetTo pointer).2 = true)
      (destroys : Destroys
        (state.setPointer place (.lola (setup.resetTo pointer).1)) pointer after) :
      Resets place state after

variable [DecidableEq Skeleton]

/-- One call of the user. -/
inductive UserStep : AllocationState setup Place LogIndex →
    UserCall Event Skeleton Place → AllocationState setup Place LogIndex → Prop where
  | allocate {state event place after} (allocates : Allocates event place state after) :
      UserStep state (.allocate event place) after
  | moveConstruct {state place other} (isNew : state.pointers place = .blank) :
      UserStep state (.moveConstruct place other) (state.exchange place other)
  | moveAssign {state place other} :
      UserStep state (.moveAssign place other) (state.exchange place other)
  | swap {state place other} : UserStep state (.swap place other) (state.exchange place other)
  | reset {state place after} (resets : Resets place state after) :
      UserStep state (.reset place) after
  | assignNull {state place after} (resets : Resets place state after) :
      UserStep state (.assignNull place) after
  | destroy {state place after}
      (destroys : DestroysPointer (state.setPointer place .blank) (state.pointers place) after) :
      UserStep state (.destroy place) after
  | send {state event place after} (sends : Sends event place state after) :
      UserStep state (.send event place) after
  | offerService {state skeleton after} (offers : OffersService skeleton state after) :
      UserStep state (.offerService skeleton) after
  | stopOfferService {state skeleton after} (stops : StopsOfferService skeleton state after) :
      UserStep state (.stopOfferService skeleton) after

/-- The consumers of an event move. -/
inductive ConsumersMove : AllocationState setup Place LogIndex →
    AllocationState setup Place LogIndex → Prop where
  | moved {state event memory later} (isMapped : (state.events event).memory = some memory)
      (moves : writerEnvironment _ LogIndex memory later) :
      ConsumersMove state (state.setMemory event (state.events event).event later)

end Steps

end MwCom.Lola
