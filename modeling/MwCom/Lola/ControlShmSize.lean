/-
Module: MwCom.Lola.ControlShmSize
Purpose: The estimated size of the shared memory for control data, what is allocated
  there when the elements of a service are registered, and when the estimate is enough.
Trusted boundary: sizes of types are parameters; a vector allocates its elements at once,
  if it has any, and a copy of a vector as much again; sizes do not exceed what `size_t`
  holds; nothing that is allocated is given back; that 255 subscribers end the process,
  which is checked after the allocations, is left out.
Main exports: estimateControlShmResourceSize, controlAllocations, Sufficient,
  ReserveSuffices, sufficient_iff
-/
import Mathlib.Algebra.BigOperators.Group.List.Basic
import Mathlib.Algebra.Group.Action.Defs
import Mathlib.Tactic.Ring
import MwCom.Configuration.ConfigParser

namespace MwCom.Lola.ControlShmSize

open Containers
open MwCom.Configuration

/-! ## Memory -/

/-- The bytes asked for, one allocation after the other. -/
abbrev Allocations := List Nat

/-- What is left unused before each allocation, always less than one unit. -/
structure Padding (alignment : Nat) (allocations : Allocations) where
  before : List Nat
  one_each : before.length = allocations.length
  below : ∀ bytes ∈ before, bytes < alignment

/-- The bytes of a memory resource that allocations use up. -/
def usedBytes {alignment : Nat} {allocations : Allocations}
    (padding : Padding alignment allocations) : Nat :=
  allocations.sum + padding.before.sum

theorem sum_le_of_below (bound : Nat) {values : List Nat}
    (below : ∀ value ∈ values, value ≤ bound) :
    values.sum ≤ values.length * bound := by
  induction values with
  | nil => simp
  | cons value rest ih =>
      have first := below value List.mem_cons_self
      have later := ih fun other member => below other (List.mem_cons_of_mem _ member)
      rw [List.sum_cons, List.length_cons, Nat.succ_mul]
      omega

/-- Whatever the padding, the allocations fit where they fit with the most of it. -/
theorem usedBytes_le_iff {alignment size : Nat} {allocations : Allocations}
    (positive : 0 < alignment) :
    (∀ padding : Padding alignment allocations, usedBytes padding ≤ size) ↔
      allocations.sum + allocations.length * (alignment - 1) ≤ size := by
  constructor
  · intro fits
    have most := fits
      { before := List.replicate allocations.length (alignment - 1)
        one_each := List.length_replicate
        below := by
          intro bytes member
          rw [List.eq_of_mem_replicate member]
          omega }
    simpa [usedBytes] using most
  · intro fits padding
    have most := sum_le_of_below (alignment - 1) fun bytes member => by
      have below := padding.below bytes member
      omega
    rw [padding.one_each] at most
    rw [usedBytes]
    omega

/-! ## Sizes -/

/-- The sizes of the types that are placed in the control section. -/
structure TypeSizes where
  serviceDataControl : Nat
  uidPidMappingEntry : Nat
  /-- `value_type` of `event_controls_`, with what the map keeps beside it in a node. -/
  eventControlsValue : Nat
  eventControlsNode : Nat
  eventControlSlot : Nat
  transactionLogNode : Nat
  transactionLogSlot : Nat
  pointer : Nat
  alignment : Nat
  alignmentPositive : 0 < alignment

def kMaxUidPidMappings : Nat := 50

def stlContainerStorageNeeds : Nat := 1024

def stlContainerElementStorageNeeds (sizes : TypeSizes) : Nat := sizes.pointer

structure SkeletonEventProperties where
  numberOfSlots : BitVec 16
  maxSubscribers : BitVec 8
  enforceMaxSamples : Bool
deriving DecidableEq

/-! ## What a skeleton provides -/

/-- What the factories pass on to an element that they create. -/
def elementProperties (elements : UnorderedMap String LolaEventInstanceDeployment)
    (name : String) : Option SkeletonEventProperties := do
  let element ← elements.find name
  let numberOfSlots ← element.getNumberOfSampleSlots
  let maxSubscribers ← element.maxSubscribers
  let enforceMaxSamples ← element.enforceMaxSamples
  pure ⟨numberOfSlots, maxSubscribers, enforceMaxSamples⟩

/-- The events and fields of a skeleton, for each of which the deployment gives what an
element is created with. -/
structure SkeletonElements where
  deployment : LolaServiceInstanceDeployment
  events : List String
  fields : List String
  eventProperties : List SkeletonEventProperties
  fieldProperties : List SkeletonEventProperties
  eventsCreated : events.mapM (elementProperties deployment.events) = some eventProperties
  fieldsCreated : fields.mapM (elementProperties deployment.fields) = some fieldProperties

namespace SkeletonElements

def properties (skeleton : SkeletonElements) : List SkeletonEventProperties :=
  skeleton.eventProperties ++ skeleton.fieldProperties

end SkeletonElements

/-! ## The estimate -/

def calculateServiceElementSize (sizes : TypeSizes) (maxSamples : Nat) : Nat :=
  sizes.eventControlsValue + stlContainerElementStorageNeeds sizes + stlContainerStorageNeeds +
    maxSamples * sizes.eventControlSlot

/-- `none`: the deployment does not have an element of the name, or not its number of
slots. -/
def addServiceElementSizes (sizes : TypeSizes)
    (elements : UnorderedMap String LolaEventInstanceDeployment) :
    List String → Nat → Option Nat
  | [], controlResourceSize => some controlResourceSize
  | name :: rest, controlResourceSize => do
      let element ← elements.find name
      let maxSamples ← element.getNumberOfSampleSlots
      addServiceElementSizes sizes elements rest
        (controlResourceSize + calculateServiceElementSize sizes maxSamples.toNat)

def estimateControlShmResourceSize (sizes : TypeSizes)
    (deployment : LolaServiceInstanceDeployment) (events fields : List String) :
    Option Nat := do
  let controlResourceSize := sizes.serviceDataControl + stlContainerStorageNeeds +
    kMaxUidPidMappings * sizes.uidPidMappingEntry
  let controlResourceSize ←
    addServiceElementSizes sizes deployment.events events controlResourceSize
  addServiceElementSizes sizes deployment.fields fields controlResourceSize

/-! ## What is allocated -/

/-- The elements of a vector or of a `DynamicArray`; none are no allocation. -/
def containerStorage (count size : Nat) : Allocations := if count = 0 then [] else [count * size]

def transactionLog (sizes : TypeSizes) (numberOfSlots : Nat) : Allocations :=
  containerStorage numberOfSlots sizes.transactionLogSlot

/-- The node that is copied has a log of its own, and so has each copy; the log for
tracing comes last. -/
def transactionLogSet (sizes : TypeSizes) (maxNumberOfLogs numberOfSlots : Nat) : Allocations :=
  transactionLog sizes numberOfSlots ++ containerStorage maxNumberOfLogs sizes.transactionLogNode ++
    (List.replicate maxNumberOfLogs (transactionLog sizes numberOfSlots)).flatten ++
    transactionLog sizes numberOfSlots

def eventDataControl (sizes : TypeSizes) (maxSlots maxNumberCombinedSubscribers : Nat) :
    Allocations :=
  containerStorage maxSlots sizes.eventControlSlot ++
    transactionLogSet sizes maxNumberCombinedSubscribers maxSlots

/-- An entry of `event_controls_`; the control of subscriptions allocates nothing. -/
def eventControl (sizes : TypeSizes) (properties : SkeletonEventProperties) : Allocations :=
  (sizes.eventControlsValue + sizes.eventControlsNode) ::
    eventDataControl sizes properties.numberOfSlots.toNat properties.maxSubscribers.toNat

def serviceDataControl (sizes : TypeSizes) : Allocations :=
  sizes.serviceDataControl :: containerStorage kMaxUidPidMappings sizes.uidPidMappingEntry

/-- The control section with all elements registered. -/
def controlAllocations (sizes : TypeSizes) (properties : List SkeletonEventProperties) :
    Allocations :=
  serviceDataControl sizes ++ properties.flatMap (eventControl sizes)

/-! ## When the estimate is enough -/

/-- There is an estimate, and what is allocated does not exceed it, however it is padded. -/
def Sufficient (sizes : TypeSizes) (skeleton : SkeletonElements) : Prop :=
  ∃ estimate, estimateControlShmResourceSize sizes skeleton.deployment skeleton.events
      skeleton.fields = some estimate ∧
    ∀ padding : Padding sizes.alignment (controlAllocations sizes skeleton.properties),
      usedBytes padding ≤ estimate

/-- The allocations of a container. -/
def storageCount (count : Nat) : Nat := if count = 0 then 0 else 1

/-- The allocations of an element: its entry in the map, the nodes of its subscribers, its
slots and those of two more logs than subscribers. -/
def allocationCount (properties : SkeletonEventProperties) : Nat :=
  1 + storageCount properties.maxSubscribers.toNat +
    (properties.maxSubscribers.toNat + 3) * storageCount properties.numberOfSlots.toNat

/-- What an element takes beyond what is estimated for it: its node in the map, a node for
each subscriber, the slots of two more logs than subscribers, and padding. -/
def notEstimated (sizes : TypeSizes) (properties : SkeletonEventProperties) : Nat :=
  sizes.eventControlsNode + properties.maxSubscribers.toNat * sizes.transactionLogNode +
    (properties.maxSubscribers.toNat + 2) *
      (properties.numberOfSlots.toNat * sizes.transactionLogSlot) +
    allocationCount properties * (sizes.alignment - 1)

/-- The reserve of a container and of a map entry for each element, and of one more
container, is enough for what is not estimated. -/
def ReserveSuffices (sizes : TypeSizes) (skeleton : SkeletonElements) : Prop :=
  2 * (sizes.alignment - 1) + (skeleton.properties.map (notEstimated sizes)).sum ≤
    stlContainerStorageNeeds + skeleton.properties.length *
      (stlContainerElementStorageNeeds sizes + stlContainerStorageNeeds)

section Sums

variable {sizes : TypeSizes}

theorem sum_containerStorage {count size : Nat} :
    (containerStorage count size).sum = count * size := by
  rw [containerStorage]
  by_cases none : count = 0
  · simp [none]
  · simp [none]

theorem length_containerStorage (count size : Nat) :
    (containerStorage count size).length = storageCount count := by
  rw [containerStorage, storageCount]
  split
  · rfl
  · rfl

theorem sum_transactionLogSet (maxNumberOfLogs numberOfSlots : Nat) :
    (transactionLogSet sizes maxNumberOfLogs numberOfSlots).sum =
      maxNumberOfLogs * sizes.transactionLogNode +
        (maxNumberOfLogs + 2) * (numberOfSlots * sizes.transactionLogSlot) := by
  simp only [transactionLogSet, transactionLog, List.sum_append, List.sum_flatten,
    List.map_replicate, List.sum_replicate, sum_containerStorage, smul_eq_mul]
  ring

theorem length_eventControl (properties : SkeletonEventProperties) :
    (eventControl sizes properties).length = allocationCount properties := by
  simp only [eventControl, eventDataControl, transactionLogSet, transactionLog, allocationCount,
    List.length_cons, List.length_append, List.length_flatten, List.map_replicate,
    List.sum_replicate, length_containerStorage, smul_eq_mul]
  ring

/-- What an element takes, padded as much as can be, against its part of the estimate. -/
theorem eventControl_bytes (sizes : TypeSizes) (properties : SkeletonEventProperties) :
    (eventControl sizes properties).sum +
        (eventControl sizes properties).length * (sizes.alignment - 1) +
        (stlContainerElementStorageNeeds sizes + stlContainerStorageNeeds) =
      calculateServiceElementSize sizes properties.numberOfSlots.toNat +
        notEstimated sizes properties := by
  rw [length_eventControl, eventControl, eventDataControl, List.sum_cons, List.sum_append,
    sum_containerStorage, sum_transactionLogSet, calculateServiceElementSize, notEstimated]
  omega

theorem elements_bytes (sizes : TypeSizes) (properties : List SkeletonEventProperties) :
    (properties.flatMap (eventControl sizes)).sum +
        (properties.flatMap (eventControl sizes)).length * (sizes.alignment - 1) +
        properties.length * (stlContainerElementStorageNeeds sizes + stlContainerStorageNeeds) =
      (properties.map fun one =>
          calculateServiceElementSize sizes one.numberOfSlots.toNat).sum +
        (properties.map (notEstimated sizes)).sum := by
  induction properties with
  | nil => simp
  | cons first rest ih =>
      have ofFirst := eventControl_bytes sizes first
      simp only [List.flatMap_cons, List.sum_append, List.length_append, List.map_cons,
        List.sum_cons, List.length_cons, Nat.add_mul, Nat.one_mul]
      omega

end Sums

/-! ## The law -/

/-- The names of elements that are created are in the deployment. -/
theorem addServiceElementSizes_eq (sizes : TypeSizes) (size : Nat)
    {elements : UnorderedMap String LolaEventInstanceDeployment} {names : List String}
    {properties : List SkeletonEventProperties}
    (isCreated : names.mapM (elementProperties elements) = some properties) :
    addServiceElementSizes sizes elements names size = some (size + (properties.map fun one =>
        calculateServiceElementSize sizes one.numberOfSlots.toNat).sum) := by
  induction names generalizing properties size with
  | nil =>
      cases isCreated
      simp [addServiceElementSizes]
  | cons name rest ih =>
      rw [List.mapM_cons] at isCreated
      simp only [Option.bind_eq_bind, Option.bind_eq_some_iff, Option.pure_def,
        Option.some.injEq] at isCreated
      rcases isCreated with ⟨first, isFirst, later, isLater, rfl⟩
      simp only [elementProperties, Option.bind_eq_bind, Option.bind_eq_some_iff, Option.pure_def,
        Option.some.injEq] at isFirst
      rcases isFirst with ⟨element, found, slots, isSlots, _, _, _, _, rfl⟩
      have added := ih (size + calculateServiceElementSize sizes slots.toNat) isLater
      simp [addServiceElementSizes, found, isSlots, added, Nat.add_assoc]

/-- The estimate is enough exactly where its reserve holds what it leaves out. -/
theorem sufficient_iff (sizes : TypeSizes) (skeleton : SkeletonElements) :
    Sufficient sizes skeleton ↔ ReserveSuffices sizes skeleton := by
  have ofEvents (size : Nat) := addServiceElementSizes_eq sizes size skeleton.eventsCreated
  have ofFields (size : Nat) := addServiceElementSizes_eq sizes size skeleton.fieldsCreated
  have bytes := elements_bytes sizes skeleton.properties
  have ofControl : (serviceDataControl sizes).sum =
      sizes.serviceDataControl + kMaxUidPidMappings * sizes.uidPidMappingEntry := by
    rw [serviceDataControl, List.sum_cons, sum_containerStorage]
  have two : (serviceDataControl sizes).length = 2 := rfl
  have estimated : estimateControlShmResourceSize sizes skeleton.deployment skeleton.events
      skeleton.fields = some (sizes.serviceDataControl + stlContainerStorageNeeds +
        kMaxUidPidMappings * sizes.uidPidMappingEntry + (skeleton.properties.map fun one =>
          calculateServiceElementSize sizes one.numberOfSlots.toNat).sum) := by
    rw [estimateControlShmResourceSize, ofEvents]
    simp [ofFields, SkeletonElements.properties, Nat.add_assoc]
  rw [Sufficient, estimated]
  simp only [Option.some.injEq, exists_eq_left', usedBytes_le_iff sizes.alignmentPositive,
    controlAllocations, List.sum_append, List.length_append, ofControl, two, Nat.add_mul]
  rw [ReserveSuffices]
  omega

/-! ## A skeleton for which it is not -/

/-- Sizes as on a platform with pointers of eight bytes. -/
def usualSizes : TypeSizes where
  serviceDataControl := 80
  uidPidMappingEntry := 16
  eventControlsValue := 144
  eventControlsNode := 32
  eventControlSlot := 8
  transactionLogNode := 56
  transactionLogSlot := 1
  pointer := 8
  alignment := 8
  alignmentPositive := by decide

/-- One event with five slots for a hundred subscribers. -/
def manySubscribers : SkeletonElements where
  deployment :=
    { instanceId := none, sharedMemorySize := none
      events := ⟨[("Event", ⟨some 100, some 1, some true, some 5, false⟩)], by decide⟩
      fields := .empty, strictPermissions := false, allowedConsumer := .empty
      allowedProvider := .empty }
  events := ["Event"]
  fields := []
  eventProperties := [⟨5, 100, true⟩]
  fieldProperties := []
  eventsCreated := rfl
  fieldsCreated := rfl

/-- The logs of the subscribers alone take more than is reserved. -/
theorem estimate_exceeded : ¬ Sufficient usualSizes manySubscribers := by
  rintro ⟨estimate, isEstimate, fits⟩
  cases isEstimate
  have most := (usedBytes_le_iff (by decide)).mp fits
  revert most
  decide

end MwCom.Lola.ControlShmSize
