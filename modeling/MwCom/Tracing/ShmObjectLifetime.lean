/-
Module: MwCom.Tracing.ShmObjectLifetime
Purpose: The skeletons of a process that are created, offered, withdrawn and destroyed
  while they are traced, and for how long their shared memory objects stay registered.
Trusted boundary: other threads and the callbacks of the trace library may change the
  runtime at any time, but not which shared memory objects are registered.
Main exports: SkeletonCall, tracedSystem, ShmObjectLaw, keepsEnabled, meetsCondition,
  Followed, shmObjectLaw_of_reached, shmObject_outlives_offer
-/
import MwCom.Interleaving.Serial
import MwCom.Tracing.OfferAtomicity

namespace MwCom.Tracing

open Interleaving Function
open Program (Ensures)

variable {Sample : Type}

/-! ## The process -/

/-- The tracing data of the elements, in the order in which they were constructed. -/
def constructEvents (description : SkeletonDescription)
    (tracingData : List SkeletonEventTracingData) (kind : SkeletonElementKind) :
    List SkeletonEventBase :=
  ((description.elements.zip tracingData).filter fun element => element.1.kind = kind).map
    fun element =>
      { elementName := element.1.elementName
        tracingData := element.2
        isBindingTraced := element.2.isTracingEnabled
        serviceOfferedFlag := false
        isTracingLogRegistered := false }

/-- A skeleton after its construction. -/
def SkeletonBase.new (description : SkeletonDescription)
    (tracingData : List SkeletonEventTracingData) : SkeletonBase where
  serviceInstance := ⟨description.serviceType, description.instanceSpecifier⟩
  events := constructEvents description tracingData .event
  fields := (constructEvents description tracingData .field).map fun event =>
    { skeletonEventDispatch := event
      wasPrepareOfferCalled := false
      isInitialValueSaved := false }
  serviceOfferedFlag := false

/-- A call of the user on one of the skeletons; an element is named by its position. -/
inductive SkeletonCall (Sample : Type) where
  | create (description : SkeletonDescription)
  | offerService (serviceInstance : ServiceInstance) (around : OfferSurroundings Sample)
  | sendEvent (serviceInstance : ServiceInstance) (position : Nat)
      (tracePoint : SendTracePoint) (around : SendSurroundings Sample)
  | updateField (serviceInstance : ServiceInstance) (position : Nat)
      (tracePoint : SendTracePoint) (around : SendSurroundings Sample)
  | stopOfferService (serviceInstance : ServiceInstance)
  | destroy (serviceInstance : ServiceInstance)

/-- The skeletons of a process; the binding of a second one for a service instance could not
be created. -/
abbrev Skeletons := ServiceInstance → Option SkeletonBase

namespace SkeletonBase

def sendEvent (position : Nat) (tracePoint : SendTracePoint) (around : SendSurroundings Sample)
    (skeleton : SkeletonBase) : TracingProgram Sample SkeletonBase :=
  match skeleton.events[position]? with
  | none => pure skeleton
  | some event => do
      let (_, event) ←
        match tracePoint with
        | .send => event.send around
        | .sendWithAllocate => event.sendAllocated around
      pure { skeleton with events := skeleton.events.set position event }

def updateField (position : Nat) (tracePoint : SendTracePoint)
    (around : SendSurroundings Sample) (skeleton : SkeletonBase) :
    TracingProgram Sample SkeletonBase :=
  match skeleton.fields[position]? with
  | none => pure skeleton
  | some field => do
      let (_, field) ←
        match tracePoint with
        | .send => field.update around
        | .sendWithAllocate => field.updateAllocated around
      pure { skeleton with fields := skeleton.fields.set position field }

end SkeletonBase

section Process

variable (config : TracingFilterConfig) (maxTraceContextId : Nat)

/-- A call on a skeleton that lives. -/
def Skeletons.onSkeleton (skeletons : Skeletons) (serviceInstance : ServiceInstance)
    (act : SkeletonBase → TracingProgram Sample (Option SkeletonBase)) :
    TracingProgram Sample Skeletons :=
  match skeletons serviceInstance with
  | none => pure skeletons
  | some skeleton => do
      let skeleton ← act skeleton
      pure (update skeletons serviceInstance skeleton)

/-- What a call does. -/
def SkeletonCall.code (skeletons : Skeletons) :
    SkeletonCall Sample → TracingProgram Sample Skeletons
  | .create description =>
      match skeletons ⟨description.serviceType, description.instanceSpecifier⟩ with
      | some _ => pure skeletons
      | none => do
          let tracingData ← construct config maxTraceContextId description
          pure (update skeletons ⟨description.serviceType,
            description.instanceSpecifier⟩ (some (.new description tracingData)))
  | .offerService serviceInstance around =>
      skeletons.onSkeleton serviceInstance fun skeleton => do
        let (_, skeleton) ← skeleton.offerService around
        pure (some skeleton)
  | .sendEvent serviceInstance position tracePoint around =>
      skeletons.onSkeleton serviceInstance fun skeleton => do
        let skeleton ← skeleton.sendEvent position tracePoint around
        pure (some skeleton)
  | .updateField serviceInstance position tracePoint around =>
      skeletons.onSkeleton serviceInstance fun skeleton => do
        let skeleton ← skeleton.updateField position tracePoint around
        pure (some skeleton)
  | .stopOfferService serviceInstance =>
      skeletons.onSkeleton serviceInstance fun skeleton => do
        let skeleton ← skeleton.stopOfferService
        pure (some skeleton)
  | .destroy serviceInstance =>
      skeletons.onSkeleton serviceInstance fun skeleton => do
        skeleton.cleanup
        pure none

/-- What others do to the runtime meanwhile. -/
def othersTrace (before after : TracingRuntime Sample) : Prop :=
  after.shmObjectHandleMap = before.shmObjectHandleMap ∧
    after.failedShmObjectRegistrationCache = before.failedShmObjectRegistrationCache

abbrev tracedSystem : System Unit (TracingOp Sample) TracingOp.Ret (TracingRuntime Sample) Skeletons
      (SkeletonCall Sample) Skeletons :=
  serialSystem TracingOp.outcomes (fun _ _ => True)
    (fun skeletons call => call.code config maxTraceContextId skeletons) othersTrace

end Process

abbrev TracedConfig (Sample : Type) :=
  Config Unit (TracingOp Sample) TracingOp.Ret (TracingRuntime Sample) Skeletons
    (SkeletonCall Sample) Skeletons

abbrev TracedEvent (Sample : Type) :=
  Event Unit (TracingOp Sample) TracingOp.Ret (SkeletonCall Sample) Skeletons

/-- A process without skeletons. -/
def tracedStart (capacity : Nat) (answers : GenericTraceAnswers) : TracedConfig Sample where
  memory := .new capacity answers
  object _ := fun _ => none
  activity _ := .idle

/-! ## The law -/

/-- An object of the service instance is registered, or is to be registered later. -/
def isRegistered (identifier : ServiceElementInstanceIdentifierView)
    (runtime : TracingRuntime Sample) : Bool :=
  (runtime.shmObjectHandleMap identifier).isSome ||
    (runtime.failedShmObjectRegistrationCache identifier).isSome

/-- An entry of the maps could not be inserted. -/
def IsInsertFailure (op : TracingOp Sample) : Prop :=
  op = .abort .couldNotInsertShmObjectHandle ∨ op = .abort .couldNotInsertFileDescriptor

/-- Between two calls only objects of service instances are registered that are offered,
and the process never ends because an entry could not be inserted. -/
structure ShmObjectLaw (config : TracedConfig Sample) : Prop where
  offered : config.activity () = .idle → ∀ identifier,
    isRegistered identifier config.memory = true →
      ∃ skeleton, config.object () identifier.serviceInstance = some skeleton ∧
        skeleton.serviceOfferedFlag = true
  inserts : ∀ call op next, config.activity () = .running call (.step op next) → ¬IsInsertFailure op

/-- Tracing is enabled and stays so. -/
def keepsEnabled : TracedEvent Sample → Bool
  | .perform _ .disableTracing _ => false
  | .perform _ .isTracingEnabled isEnabled => isEnabled
  | _ => true

/-- A field can be offered. -/
def SkeletonFieldBase.isPrepared (around : String → ElementSurroundings Sample)
    (field : SkeletonFieldBase) : Bool :=
  (around field.skeletonEventDispatch.elementName).isBindingPrepared &&
    (around field.skeletonEventDispatch.elementName).deferredUpdate.isAllocated &&
      (field.wasPrepareOfferCalled || field.isInitialValueSaved)

/-- All that an offer needs after the registration is there. -/
def SkeletonBase.isPrepared (around : OfferSurroundings Sample) (skeleton : SkeletonBase) : Bool :=
  skeleton.events.all (fun event => (around.event event.elementName).isBindingPrepared) &&
    skeleton.fields.all (SkeletonFieldBase.isPrepared around.field)

/-- A service instance is offered once only, and successfully if that registers its object;
no descriptor is kept under the name of an event that is sent; and while the object is
registered, a trace point of the service instance is still enabled when it is withdrawn. -/
def meetsCondition (runtime : TracingRuntime Sample) (skeletons : Skeletons) :
    SkeletonCall Sample → Bool
  | .create _ => true
  | .offerService serviceInstance around =>
      match skeletons serviceInstance with
      | none => true
      | some skeleton =>
          !skeleton.serviceOfferedFlag &&
            (!skeleton.registersShmObject around || skeleton.isPrepared around)
  | .sendEvent serviceInstance position _ _ =>
      match skeletons serviceInstance with
      | none => true
      | some skeleton =>
          match skeleton.events[position]? with
          | none => true
          | some event =>
              (runtime.failedShmObjectRegistrationCache
                event.tracingData.serviceElementInstanceIdentifierView).isNone
  | .updateField _ _ _ _ => true
  | .stopOfferService serviceInstance | .destroy serviceInstance =>
      match skeletons serviceInstance with
      | none => true
      | some skeleton =>
          !isRegistered serviceInstance.shmIdentifier runtime ||
            skeleton.isTracingEnabledForInstance

/-- The steps of runs in which every call meets the condition. -/
def tracedPermitted (config : TracedConfig Sample) (event : TracedEvent Sample) : Prop :=
  (match event with
  | .call _ call => meetsCondition config.memory (config.object ()) call
  | event => keepsEnabled event) = true

instance tracedPermitted_decidable (config : TracedConfig Sample)
    (event : TracedEvent Sample) : Decidable (tracedPermitted config event) :=
  inferInstanceAs (Decidable (_ = true))

/-! ## What the programs do with the maps -/

/-- What a program of the process meets. -/
abbrev meanwhile : Surroundings (TracingOp Sample) TracingOp.Ret (TracingRuntime Sample) where
  outcomes := TracingOp.outcomes
  moves := othersTrace
  allows op answer := @keepsEnabled Sample (.perform () op answer) = true
  may op := ¬IsInsertFailure op

/-- The maps are these. -/
def HasMaps (handles : ServiceElementInstanceIdentifierView → Option (ShmObjectHandle × Address))
    (cached : ServiceElementInstanceIdentifierView → Option (FileDescriptor × Address))
    (runtime : TracingRuntime Sample) : Prop :=
  runtime.shmObjectHandleMap = handles ∧ runtime.failedShmObjectRegistrationCache = cached

section Maps

variable {α : Type} {runtime : TracingRuntime Sample}
  {handles : ServiceElementInstanceIdentifierView → Option (ShmObjectHandle × Address)}
  {cached : ServiceElementInstanceIdentifierView → Option (FileDescriptor × Address)}

theorem hasMaps_stable : (@meanwhile Sample).Stable (HasMaps handles cached) := by
  intro before after moved hasMaps
  exact ⟨moved.1.trans hasMaps.1, moved.2.trans hasMaps.2⟩

/-- The footprint names no entry. -/
structure Footprint.IsMapless (footprint : Footprint) : Prop where
  registers : ∀ identifier, ¬footprint.registers identifier
  unregisters : ∀ identifier, ¬footprint.unregisters identifier
  caches : ∀ identifier, ¬footprint.caches identifier
  clears : ∀ identifier, ¬footprint.clears identifier

theorem isMapless_nothing : Footprint.nothing.IsMapless :=
  ⟨fun _ => not_false, fun _ => not_false, fun _ => not_false, fun _ => not_false⟩

/-- What touches no entry leaves the maps as they are. -/
theorem ensures_of_mapless {footprint : Footprint} {program : TracingProgram Sample α}
    (isMapless : footprint.IsMapless) (performs : program.Performs footprint.allows)
    (hasMaps : HasMaps handles cached runtime) :
    program.Ensures meanwhile runtime fun _ => HasMaps handles cached := by
  induction program generalizing runtime with
  | done result => exact .done hasMaps_stable hasMaps
  | step op next ih =>
      intro later moves
      have hasMapsLater := hasMaps_stable.star moves hasMaps
      constructor
      · intro isFailure
        rcases isFailure with rfl | rfl
        · obtain ⟨identifier, registers⟩ := performs.1
          exact isMapless.registers identifier registers
        · obtain ⟨identifier, caches⟩ := performs.1
          exact isMapless.caches identifier caches
      · intro answer after outcome _
        apply ih answer (performs.2 answer)
        constructor
        · funext identifier
          rw [← hasMapsLater.1]
          rcases shmObject_cases identifier outcome with ⟨_, _, rfl⟩ | rfl | same
          · exact absurd performs.1 (isMapless.registers identifier)
          · exact absurd performs.1 (isMapless.unregisters identifier)
          · exact same
        · funext identifier
          rw [← hasMapsLater.2]
          rcases fileDescriptor_cases identifier outcome with ⟨_, _, rfl⟩ | ⟨rfl, _⟩ | same
          · exact absurd performs.1 (isMapless.caches identifier)
          · exact absurd performs.1 (isMapless.clears identifier)
          · exact same

/-- One operation that leaves the maps as they are. -/
theorem ensures_perform {op : TracingOp Sample} {next : op.Ret → TracingProgram Sample α}
    {post : α → TracingRuntime Sample → Prop} (hasMaps : HasMaps handles cached runtime)
    (noFailure : ¬IsInsertFailure op)
    (continued : ∀ before answer after, HasMaps handles cached before →
      (answer, after) ∈ TracingOp.outcomes op before →
        @keepsEnabled Sample (.perform () op answer) = true →
          (next answer).Ensures meanwhile after post) :
    (Program.perform op >>= next).Ensures meanwhile runtime post :=
  .perform (HasMaps handles cached) hasMaps_stable hasMaps noFailure continued

variable {identifier : ServiceElementInstanceIdentifierView}

theorem obtainShmObjectHandle_ensures (hasMaps : HasMaps handles cached runtime)
    (notCached : cached identifier = none) :
    (obtainShmObjectHandle identifier : TracingProgram Sample _).Ensures meanwhile runtime
      fun _ => HasMaps handles cached := by
  have performs : (LolaTracingRuntime.getShmObjectHandle identifier :
      TracingProgram Sample _).Performs Footprint.nothing.allows :=
    .perform trivial fun _ => .done _
  apply Ensures.bind (ensures_of_mapless isMapless_nothing performs hasMaps)
  intro handle later hasMapsLater
  cases handle with
  | some handle => exact .done hasMaps_stable hasMapsLater
  | none =>
      apply ensures_perform hasMapsLater (by simp [IsInsertFailure])
      intro before found after hasMapsBefore outcome _
      cases List.mem_singleton.mp outcome
      rw [hasMapsBefore.2, notCached]
      exact .done hasMaps_stable hasMapsBefore

/-- An element under whose name no descriptor is cached is traced without any change of the
maps. -/
theorem trace_ensures {call : ShmTrace} {sample : Sample}
    (hasMaps : HasMaps handles cached runtime) (notCached : cached call.serviceElement = none) :
    (trace call sample).Ensures meanwhile runtime fun _ => HasMaps handles cached := by
  apply ensures_perform hasMaps (by simp [IsInsertFailure])
  intro before isEnabled after hasMapsBefore outcome enabled
  cases List.mem_singleton.mp outcome
  rw [if_pos (by exact enabled)]
  apply Ensures.bind (ensures_of_mapless isMapless_nothing
    sectioned_isServiceElementTracingActive.performs hasMapsBefore)
  intro isActive later hasMapsLater
  by_cases active : isActive = true
  · rw [if_pos active]
    apply ensures_of_mapless isMapless_nothing _ hasMapsLater
    exact .perform trivial fun _ => .perform trivial fun _ => .done _
  · rw [if_neg active]
    apply Ensures.bind (obtainShmObjectHandle_ensures hasMapsLater notCached)
    intro obtained between hasMapsBetween
    cases obtained with
    | error error =>
        apply ensures_of_mapless isMapless_nothing _ hasMapsBetween
        exact .perform trivial fun _ => .done _
    | ok handle =>
        exact ensures_of_mapless isMapless_nothing sectioned_traceWithHandle.performs hasMapsBetween

variable {tracePoint : SendTracePoint}

/-- Trace points that are disabled do not change whose they are. -/
theorem updateTracingData_identifier {tracingData : SkeletonEventTracingData}
    {traceResult : Except TraceErrorCode Unit} :
    (tracingData.updateTracingDataFromTraceResult tracePoint
        traceResult).serviceElementInstanceIdentifierView =
      tracingData.serviceElementInstanceIdentifierView := by
  cases traceResult with
  | ok _ => rfl
  | error error =>
      cases error with
      | disableAllTracePoints => rfl
      | disableTracePointInstance =>
          cases tracePoint with
          | send => rfl
          | sendWithAllocate => rfl

theorem traceSent_ensures {tracingData : SkeletonEventTracingData}
    {tracePointType : TracePointType} {chunk : ShmDataChunk} {sample : Option Sample}
    (hasMaps : HasMaps handles cached runtime)
    (notCached : cached tracingData.serviceElementInstanceIdentifierView = none) :
    (traceSent tracingData tracePoint tracePointType chunk sample).Ensures meanwhile runtime
      fun traced memory => HasMaps handles cached memory ∧
        traced.serviceElementInstanceIdentifierView =
          tracingData.serviceElementInstanceIdentifierView := by
  have traces : ∀ sample : Option Sample,
      (traceShmData tracingData tracePointType chunk sample).Ensures meanwhile runtime
        fun _ => HasMaps handles cached := by
    intro sample
    cases sample with
    | none =>
        have performs : (traceShmData tracingData tracePointType chunk none :
            TracingProgram Sample _).Performs Footprint.nothing.allows :=
          sectioned_setDataLossFlag.performs.bind fun _ => .done _
        exact ensures_of_mapless isMapless_nothing performs hasMaps
    | some sample => exact trace_ensures hasMaps notCached
  cases tracePoint with
  | send =>
      apply Ensures.bind (traces sample)
      intro result later hasMapsLater
      exact .done (hasMaps_stable.and_fact _) ⟨hasMapsLater, updateTracingData_identifier⟩
  | sendWithAllocate =>
      cases sample with
      | none => exact .done (hasMaps_stable.and_fact _) ⟨hasMaps, rfl⟩
      | some sample =>
          apply Ensures.bind (traces (some sample))
          intro result later hasMapsLater
          exact .done (hasMaps_stable.and_fact _) ⟨hasMapsLater, updateTracingData_identifier⟩

variable {event : SkeletonEventBase} {around : SendSurroundings Sample}

theorem SkeletonEventBase.traceSent_ensures (hasMaps : HasMaps handles cached runtime)
    (notCached : cached event.tracingData.serviceElementInstanceIdentifierView = none) :
    (event.traceSent tracePoint around).Ensures meanwhile runtime fun traced memory =>
      HasMaps handles cached memory ∧ traced.tracingData.serviceElementInstanceIdentifierView =
          event.tracingData.serviceElementInstanceIdentifierView := by
  rw [traceSent]
  by_cases enabled : event.tracingData.isEnabled tracePoint = true
  · rw [if_pos enabled]
    cases event.tracingData.tracePointType tracePoint with
    | none =>
        intro later moves
        constructor
        · simp [IsInsertFailure]
        · intro answer
          cases answer
    | some tracePointType =>
        apply Ensures.bind (Tracing.traceSent_ensures hasMaps notCached)
        intro tracingData later traced
        exact .done (hasMaps_stable.and_fact _) traced
  · rw [if_neg enabled]
    exact .done (hasMaps_stable.and_fact _) ⟨hasMaps, rfl⟩

/-- A sent sample leaves the maps as they are. -/
theorem SkeletonEventBase.send_ensures (hasMaps : HasMaps handles cached runtime)
    (notCached : cached event.tracingData.serviceElementInstanceIdentifierView = none) :
    (event.send around).Ensures meanwhile runtime fun sent memory =>
      HasMaps handles cached memory ∧ (sent.2.tracingData.serviceElementInstanceIdentifierView =
            event.tracingData.serviceElementInstanceIdentifierView ∧
          (event.serviceOfferedFlag = true → around.isAllocated = true → sent.1 = .ok ())) := by
  rw [send]
  by_cases offered : event.serviceOfferedFlag = true
  · rw [if_pos offered]
    by_cases allocated : around.isAllocated = true
    · rw [if_pos allocated]
      apply Ensures.bind (traceSent_ensures hasMaps notCached)
      intro traced later holds
      exact .done (hasMaps_stable.and_fact _) ⟨holds.1, holds.2, fun _ _ => rfl⟩
    · rw [if_neg allocated]
      exact .done (hasMaps_stable.and_fact _)
        ⟨hasMaps, rfl, fun _ isAllocated => absurd isAllocated allocated⟩
  · rw [if_neg offered]
    exact .done (hasMaps_stable.and_fact _)
      ⟨hasMaps, rfl, fun isOffered => absurd isOffered offered⟩

theorem SkeletonEventBase.sendAllocated_ensures (hasMaps : HasMaps handles cached runtime)
    (notCached : cached event.tracingData.serviceElementInstanceIdentifierView = none) :
    (event.sendAllocated around).Ensures meanwhile runtime fun sent memory =>
      HasMaps handles cached memory ∧ sent.2.tracingData.serviceElementInstanceIdentifierView =
          event.tracingData.serviceElementInstanceIdentifierView := by
  apply Ensures.bind (traceSent_ensures hasMaps notCached)
  intro traced later holds
  exact .done (hasMaps_stable.and_fact _) holds

/-- So does an event that is prepared. -/
theorem SkeletonEventBase.prepareOffer_ensures {isReopened : Bool}
    {around : ElementSurroundings Sample} (hasMaps : HasMaps handles cached runtime) :
    (event.prepareOffer isReopened around).Ensures meanwhile runtime fun offered memory =>
      HasMaps handles cached memory ∧ (offered.2.tracingData.serviceElementInstanceIdentifierView =
            event.tracingData.serviceElementInstanceIdentifierView ∧
          (around.isBindingPrepared = true →
            offered.1 = .ok () ∧ offered.2.serviceOfferedFlag = true)) := by
  rw [prepareOffer]
  by_cases prepared : around.isBindingPrepared = true
  · rw [if_pos prepared]
    have registers : (event.register isReopened around.isRolledBack).Ensures meanwhile runtime
        fun registered memory => HasMaps handles cached memory ∧
          registered.tracingData = event.tracingData := by
      rw [register]
      split
      · apply ensures_perform hasMaps (by simp [IsInsertFailure])
        intro before answer after _ _ enabled
        cases enabled
      · exact .done (hasMaps_stable.and_fact _) ⟨hasMaps, rfl⟩
    apply Ensures.bind registers
    intro registered later holds
    exact .done (hasMaps_stable.and_fact _) ⟨holds.1, by rw [holds.2], fun _ => ⟨rfl, rfl⟩⟩
  · rw [if_neg prepared]
    exact .done (hasMaps_stable.and_fact _)
      ⟨hasMaps, rfl, fun isPrepared => absurd isPrepared prepared⟩

/-- Descriptors are cached for whole service instances. -/
def ForInstances {Value : Type}
    (entries : ServiceElementInstanceIdentifierView → Option Value) : Prop :=
  ∀ identifier, (∀ serviceInstance : ServiceInstance,
    identifier ≠ serviceInstance.shmIdentifier) → entries identifier = none

/-- The element is a field. -/
def SkeletonFieldBase.IsTyped (field : SkeletonFieldBase) : Prop :=
  field.skeletonEventDispatch.tracingData.serviceElementInstanceIdentifierView.serviceElementIdentifierView.serviceElementType =
    .field

variable {field : SkeletonFieldBase}

theorem SkeletonFieldBase.IsTyped.notCached (typed : field.IsTyped)
    (forInstances : ForInstances cached) :
    cached field.skeletonEventDispatch.tracingData.serviceElementInstanceIdentifierView = none := by
  apply forInstances
  intro serviceInstance same
  rw [SkeletonFieldBase.IsTyped, same] at typed
  cases typed

theorem SkeletonFieldBase.IsTyped.of_identifier {after : SkeletonFieldBase} (typed : field.IsTyped)
    (same : after.skeletonEventDispatch.tracingData.serviceElementInstanceIdentifierView =
      field.skeletonEventDispatch.tracingData.serviceElementInstanceIdentifierView) :
    after.IsTyped := by
  rw [SkeletonFieldBase.IsTyped, same]
  exact typed

section

variable (hasMaps : HasMaps handles cached runtime) (forInstances : ForInstances cached)
  (typed : field.IsTyped)

include hasMaps forInstances typed

theorem SkeletonFieldBase.doDeferredUpdate_ensures :
    (field.doDeferredUpdate around).Ensures meanwhile runtime fun updated memory =>
      HasMaps handles cached memory ∧ (updated.2.IsTyped ∧
          (field.skeletonEventDispatch.serviceOfferedFlag = true → around.isAllocated = true →
            updated.1 = .ok ())) := by
  rw [doDeferredUpdate]
  apply Ensures.bind (SkeletonEventBase.send_ensures hasMaps (typed.notCached forInstances))
  intro sent later holds
  obtain ⟨result, event⟩ := sent
  have typedAfter : ∀ isInitialValueSaved, SkeletonFieldBase.IsTyped
      ⟨event, field.wasPrepareOfferCalled, isInitialValueSaved⟩ :=
    fun _ => typed.of_identifier holds.2.1
  cases result with
  | ok _ =>
      exact .done (hasMaps_stable.and_fact _) ⟨holds.1, typedAfter _, fun _ _ => rfl⟩
  | error error => exact .done (hasMaps_stable.and_fact _) ⟨holds.1, typedAfter _, holds.2.2⟩

/-- So does a field that is prepared, with its initial value. -/
theorem SkeletonFieldBase.prepareOffer_ensures {isReopened : Bool}
    {around : ElementSurroundings Sample} :
    (field.prepareOffer isReopened around).Ensures meanwhile runtime fun offered memory =>
      HasMaps handles cached memory ∧ (offered.2.IsTyped ∧
          (around.isBindingPrepared = true → around.deferredUpdate.isAllocated = true →
            (field.wasPrepareOfferCalled || field.isInitialValueSaved) = true →
              offered.1 = .ok ())) := by
  rw [prepareOffer]
  by_cases called : field.wasPrepareOfferCalled = true
  · rw [if_pos called]
    apply Ensures.bind (SkeletonEventBase.prepareOffer_ensures hasMaps)
    intro offered later holds
    refine .done (hasMaps_stable.and_fact _) ?_
    constructor
    · exact holds.1
    · constructor
      · exact typed.of_identifier holds.2.1
      · intro prepared _ _
        exact (holds.2.2 prepared).1
  · rw [if_neg called]
    by_cases saved : field.isInitialValueSaved = true
    · rw [if_pos saved]
      apply Ensures.bind (SkeletonEventBase.prepareOffer_ensures hasMaps)
      intro offered later holds
      obtain ⟨result, event⟩ := offered
      have typedEvent : SkeletonFieldBase.IsTyped { field with skeletonEventDispatch := event } :=
        typed.of_identifier holds.2.1
      cases result with
      | error error =>
          exact .done (hasMaps_stable.and_fact _)
            ⟨holds.1, typedEvent, fun prepared _ _ => (holds.2.2 prepared).1⟩
      | ok _ =>
          apply Ensures.bind (doDeferredUpdate_ensures holds.1 forInstances typedEvent)
          intro updated afterUpdate updateHolds
          obtain ⟨updateResult, updatedField⟩ := updated
          cases updateResult with
          | error error =>
              exact .done (hasMaps_stable.and_fact _)
                ⟨updateHolds.1, updateHolds.2.1, fun prepared allocated _ =>
                  updateHolds.2.2 (holds.2.2 prepared).2 allocated⟩
          | ok _ =>
              exact .done (hasMaps_stable.and_fact _)
                ⟨updateHolds.1, updateHolds.2.1, fun _ _ _ => rfl⟩
    · rw [if_neg saved]
      refine .done (hasMaps_stable.and_fact _) ?_
      constructor
      · exact hasMaps
      · constructor
        · exact typed
        · intro _ _ eitherOne
          simp [called, saved] at eitherOne

/-- So does a field that is updated. -/
theorem SkeletonFieldBase.update_ensures :
    (field.update around).Ensures meanwhile runtime fun updated memory =>
      HasMaps handles cached memory ∧ updated.2.IsTyped := by
  rw [update]
  by_cases called : field.wasPrepareOfferCalled = true
  · rw [if_pos called]
    apply Ensures.bind (SkeletonEventBase.send_ensures hasMaps (typed.notCached forInstances))
    intro sent later holds
    exact .done (hasMaps_stable.and_fact _) ⟨holds.1, typed.of_identifier holds.2.1⟩
  · rw [if_neg called]
    exact .done (hasMaps_stable.and_fact _) ⟨hasMaps, typed⟩

theorem SkeletonFieldBase.updateAllocated_ensures :
    (field.updateAllocated around).Ensures meanwhile runtime fun updated memory =>
      HasMaps handles cached memory ∧ updated.2.IsTyped := by
  rw [updateAllocated]
  apply Ensures.bind
    (SkeletonEventBase.sendAllocated_ensures hasMaps (typed.notCached forInstances))
  intro sent later holds
  exact .done (hasMaps_stable.and_fact _) ⟨holds.1, typed.of_identifier holds.2⟩

end

/-! ## What an offer does with the maps -/

namespace SkeletonBase

theorem offerServiceEvents_ensures {isReopened : Bool}
    {around : String → ElementSurroundings Sample} {events : List SkeletonEventBase}
    (hasMaps : HasMaps handles cached runtime) :
    (offerServiceEvents isReopened around events).Ensures meanwhile runtime
      fun offered memory => HasMaps handles cached memory ∧
        (events.all (fun event => (around event.elementName).isBindingPrepared) = true →
          offered.1 = .ok ()) := by
  induction events generalizing runtime with
  | nil => exact .done (hasMaps_stable.and_fact _) ⟨hasMaps, fun _ => rfl⟩
  | cons event rest ih =>
      rw [offerServiceEvents]
      apply Ensures.bind (SkeletonEventBase.prepareOffer_ensures hasMaps)
      intro offered later holds
      obtain ⟨result, event⟩ := offered
      cases result with
      | error error =>
          refine .done (hasMaps_stable.and_fact _) ?_
          constructor
          · exact holds.1
          · intro all
            rw [List.all_cons, Bool.and_eq_true] at all
            cases (holds.2.2 all.1).1
      | ok _ =>
          apply Ensures.bind (ih holds.1)
          intro others afterOthers othersHold
          refine .done (hasMaps_stable.and_fact _) ?_
          constructor
          · exact othersHold.1
          · intro all
            rw [List.all_cons, Bool.and_eq_true] at all
            exact othersHold.2 all.2

theorem offerServiceFields_ensures {isReopened : Bool}
    {around : String → ElementSurroundings Sample} {fields : List SkeletonFieldBase}
    (hasMaps : HasMaps handles cached runtime) (forInstances : ForInstances cached)
    (typed : ∀ field ∈ fields, field.IsTyped) :
    (offerServiceFields isReopened around fields).Ensures meanwhile runtime
      fun offered memory => HasMaps handles cached memory ∧ ((∀ field ∈ offered.2, field.IsTyped) ∧
          (fields.all (SkeletonFieldBase.isPrepared around) = true → offered.1 = .ok ())) := by
  induction fields generalizing runtime with
  | nil => exact .done (hasMaps_stable.and_fact _) ⟨hasMaps, typed, fun _ => rfl⟩
  | cons field rest ih =>
      obtain ⟨typedField, typedRest⟩ := List.forall_mem_cons.mp typed
      rw [offerServiceFields]
      apply Ensures.bind (SkeletonFieldBase.prepareOffer_ensures hasMaps forInstances typedField)
      intro offered later holds
      obtain ⟨result, offeredField⟩ := offered
      have prepared : SkeletonFieldBase.isPrepared around field = true → result = .ok () := by
        intro isPrepared
        rw [SkeletonFieldBase.isPrepared, Bool.and_eq_true, Bool.and_eq_true] at isPrepared
        exact holds.2.2 isPrepared.1.1 isPrepared.1.2 isPrepared.2
      cases result with
      | error error =>
          have typedAll : ∀ field ∈ offeredField :: rest, field.IsTyped :=
            List.forall_mem_cons.mpr ⟨holds.2.1, typedRest⟩
          have notAll : ∀ result : Except ComErrc Unit,
              (field :: rest).all (SkeletonFieldBase.isPrepared around) = true → result = .ok () := by
            intro _ all
            rw [List.all_cons, Bool.and_eq_true] at all
            cases prepared all.1
          cases error with
          | fieldValueIsNotValid =>
              exact .done (hasMaps_stable.and_fact _) ⟨holds.1, typedAll, notAll _⟩
          | notOffered => exact .done (hasMaps_stable.and_fact _) ⟨holds.1, typedAll, notAll _⟩
          | bindingFailure =>
              exact .done (hasMaps_stable.and_fact _) ⟨holds.1, typedAll, notAll _⟩
      | ok _ =>
          apply Ensures.bind (ih holds.1 typedRest)
          intro others afterOthers othersHold
          refine .done (hasMaps_stable.and_fact _) ?_
          constructor
          · exact othersHold.1
          · constructor
            · exact List.forall_mem_cons.mpr ⟨holds.2.1, othersHold.2.1⟩
            · intro all
              rw [List.all_cons, Bool.and_eq_true] at all
              exact othersHold.2.2 all.2

end SkeletonBase

/-- The maps differ at most for one identifier, and there is one entry there at most. -/
structure OnlyAt (identifier : ServiceElementInstanceIdentifierView)
    (handles : ServiceElementInstanceIdentifierView → Option (ShmObjectHandle × Address))
    (cached : ServiceElementInstanceIdentifierView → Option (FileDescriptor × Address))
    (runtime : TracingRuntime Sample) : Prop where
  handle : ∀ other, other ≠ identifier → runtime.shmObjectHandleMap other = handles other
  descriptor : ∀ other, other ≠ identifier →
    runtime.failedShmObjectRegistrationCache other = cached other
  single : runtime.shmObjectHandleMap identifier = none ∨
    runtime.failedShmObjectRegistrationCache identifier = none

/-- The same maps as ever. -/
theorem hasMaps_self (runtime : TracingRuntime Sample) :
    HasMaps runtime.shmObjectHandleMap runtime.failedShmObjectRegistrationCache runtime :=
  ⟨rfl, rfl⟩

variable {later : TracingRuntime Sample}

theorem OnlyAt.of_hasMaps (onlyAt : OnlyAt identifier handles cached runtime)
    (hasMaps : HasMaps runtime.shmObjectHandleMap runtime.failedShmObjectRegistrationCache later) :
    OnlyAt identifier handles cached later := by
  constructor
  · intro other distinct
    rw [hasMaps.1, onlyAt.handle other distinct]
  · intro other distinct
    rw [hasMaps.2, onlyAt.descriptor other distinct]
  · rw [hasMaps.1, hasMaps.2]
    exact onlyAt.single

theorem NotRegistered.of_hasMaps {serviceInstance : ServiceInstance}
    (notRegistered : NotRegistered serviceInstance runtime)
    (hasMaps : HasMaps runtime.shmObjectHandleMap runtime.failedShmObjectRegistrationCache later) :
    NotRegistered serviceInstance later := by
  rw [NotRegistered, hasMaps.1, hasMaps.2]
  exact notRegistered

theorem onlyAt_stable : (@meanwhile Sample).Stable (OnlyAt identifier handles cached) :=
  fun _ _ moved onlyAt => onlyAt.of_hasMaps moved

theorem notRegistered_stable {serviceInstance : ServiceInstance} :
    (@meanwhile Sample).Stable (NotRegistered serviceInstance) :=
  fun _ _ moved notRegistered => notRegistered.of_hasMaps moved

variable {serviceInstance : ServiceInstance}

theorem onlyAt_of_notRegistered (hasMaps : HasMaps handles cached runtime)
    (notRegistered : NotRegistered serviceInstance runtime) :
    OnlyAt serviceInstance.shmIdentifier handles cached runtime := by
  constructor
  · intro other _
    rw [hasMaps.1]
  · intro other _
    rw [hasMaps.2]
  · exact .inl notRegistered.1

/-- A registration is about one object, and leaves a handle or a descriptor. -/
theorem registerShmObject_ensures {shmObjectFd : FileDescriptor} {startAddress : Address}
    (hasMaps : HasMaps handles cached runtime)
    (notRegistered : NotRegistered serviceInstance runtime) :
    (registerShmObject serviceInstance.shmIdentifier shmObjectFd startAddress :
        TracingProgram Sample Unit).Ensures meanwhile runtime
      fun _ => OnlyAt serviceInstance.shmIdentifier handles cached := by
  have noHandle : handles serviceInstance.shmIdentifier = none := by
    rw [← hasMaps.1]
    exact notRegistered.1
  have noDescriptor : cached serviceInstance.shmIdentifier = none := by
    rw [← hasMaps.2]
    exact notRegistered.2
  have unchanged : ∀ memory, HasMaps handles cached memory →
      (Program.done () : TracingProgram Sample Unit).Ensures meanwhile memory
        fun _ => OnlyAt serviceInstance.shmIdentifier handles cached := by
    intro memory same
    apply Ensures.done onlyAt_stable
    apply onlyAt_of_notRegistered same
    rw [NotRegistered, same.1, same.2]
    exact ⟨noHandle, noDescriptor⟩
  apply ensures_perform hasMaps (by simp [IsInsertFailure])
  intro before isEnabled after hasMapsBefore outcome enabled
  cases List.mem_singleton.mp outcome
  rw [if_pos (by exact enabled)]
  apply ensures_perform hasMapsBefore (by simp [IsInsertFailure])
  intro before registered after hasMapsBefore outcome _
  cases List.mem_singleton.mp outcome
  have hasMapsAfter : HasMaps handles cached
    { before with calls := before.calls ++ [.registerShmObject shmObjectFd] } := hasMapsBefore
  cases before.answers.registerShmObject with
  | ok handle =>
      dsimp only
      rw [binding_registerShmObject_eq]
      apply ensures_perform hasMapsAfter (by simp [IsInsertFailure])
      intro before isNew after hasMapsBefore outcome _
      cases List.mem_singleton.mp outcome
      rw [hasMapsBefore.1, noHandle, if_pos rfl]
      apply Ensures.done onlyAt_stable
      constructor
      · intro other distinct
        exact update_of_ne distinct _ _
      · intro other _
        rw [← hasMapsBefore.2]
      · right
        rw [← noDescriptor, ← hasMapsBefore.2]
  | error error =>
      dsimp only
      apply Ensures.bind (ensures_of_mapless isMapless_nothing
        sectioned_isNonRecoverable.performs hasMapsAfter)
      intro nonRecoverable later hasMapsLater
      by_cases fatal : nonRecoverable = true
      · rw [if_pos fatal]
        by_cases terminal : error.isTerminalFatal = true
        · rw [if_pos terminal]
          apply ensures_perform hasMapsLater (by simp [IsInsertFailure])
          intro before answer after _ _ enabled
          cases enabled
        · rw [if_neg terminal]
          exact unchanged later hasMapsLater
      · rw [if_neg fatal]
        apply ensures_perform hasMapsLater (by simp [IsInsertFailure])
        intro before isNew after hasMapsBefore outcome _
        cases List.mem_singleton.mp outcome
        rw [hasMapsBefore.2, noDescriptor, if_pos rfl]
        apply Ensures.done onlyAt_stable
        constructor
        · intro other _
          rw [← hasMapsBefore.1]
        · intro other distinct
          exact update_of_ne distinct _ _
        · left
          rw [← noHandle, ← hasMapsBefore.1]

/-- An object that is unregistered leaves neither a handle nor a descriptor. -/
theorem unregisterShmObject_ensures (hasMaps : HasMaps handles cached runtime)
    (single : handles serviceInstance.shmIdentifier = none ∨
      cached serviceInstance.shmIdentifier = none) :
    (unregisterShmObject serviceInstance.shmIdentifier :
        TracingProgram Sample Unit).Ensures meanwhile runtime
      fun _ memory => OnlyAt serviceInstance.shmIdentifier handles cached memory ∧
        NotRegistered serviceInstance memory := by
  apply ensures_perform hasMaps (by simp [IsInsertFailure])
  intro before isEnabled after hasMapsBefore outcome enabled
  cases List.mem_singleton.mp outcome
  rw [if_pos (by exact enabled)]
  apply ensures_perform hasMapsBefore (by simp [IsInsertFailure])
  intro before found after hasMapsBefore outcome _
  cases List.mem_singleton.mp outcome
  rw [convert_eq, ServiceInstance.serviceInstance_shmIdentifier, hasMapsBefore.1]
  cases handle : handles serviceInstance.shmIdentifier with
  | none =>
      apply ensures_perform hasMapsBefore (by simp [IsInsertFailure])
      intro before answer after hasMapsBefore outcome _
      cases List.mem_singleton.mp outcome
      refine Ensures.done (onlyAt_stable.and notRegistered_stable) ⟨⟨?_, ?_, ?_⟩, ?_, ?_⟩
      · intro other _
        rw [← hasMapsBefore.1]
      · intro other distinct
        rw [← hasMapsBefore.2]
        exact update_of_ne distinct _ _
      · exact .inr (update_self _ _ _)
      · rw [← handle, ← hasMapsBefore.1]
      · exact update_self _ _ _
  | some entry =>
      have noDescriptor : cached serviceInstance.shmIdentifier = none := by
        rcases single with noHandle | noDescriptor
        · rw [handle] at noHandle
          cases noHandle
        · exact noDescriptor
      apply ensures_perform hasMapsBefore (by simp [IsInsertFailure])
      intro before answer after hasMapsBefore outcome _
      cases List.mem_singleton.mp outcome
      have erased : OnlyAt serviceInstance.shmIdentifier handles cached
          { before with
            shmObjectHandleMap := update before.shmObjectHandleMap
              serviceInstance.shmIdentifier none } := by
        constructor
        · intro other distinct
          rw [← hasMapsBefore.1]
          exact update_of_ne distinct _ _
        · intro other _
          rw [← hasMapsBefore.2]
        · exact .inl (update_self _ _ _)
      have notRegistered : NotRegistered serviceInstance
          { before with
            shmObjectHandleMap := update before.shmObjectHandleMap
              serviceInstance.shmIdentifier none } := by
        constructor
        · exact update_self _ _ _
        · rw [← noDescriptor, ← hasMapsBefore.2]
      refine (ensures_of_mapless isMapless_nothing ?_ (hasMaps_self { before with
        shmObjectHandleMap := update before.shmObjectHandleMap
          serviceInstance.shmIdentifier none })).mono ?_
      · refine .perform trivial fun unregistered => ?_
        cases unregistered with
        | ok _ => exact .done ()
        | error error =>
            apply sectioned_isNonRecoverable.performs.bind
            intro nonRecoverable
            apply Program.Performs.ite
            · intro _
              exact .last trivial
            · intro _
              exact .done ()
      · intro _ later hasMapsLater
        exact ⟨erased.of_hasMaps hasMapsLater, notRegistered.of_hasMaps hasMapsLater⟩

/-! ### Offers -/

/-- At most the object of the service instance is registered anew, and only if so. -/
structure RegisteredOnlyIf (condition : Prop) (serviceInstance : ServiceInstance)
    (handles : ServiceElementInstanceIdentifierView → Option (ShmObjectHandle × Address))
    (cached : ServiceElementInstanceIdentifierView → Option (FileDescriptor × Address))
    (runtime : TracingRuntime Sample) : Prop where
  onlyAt : OnlyAt serviceInstance.shmIdentifier handles cached runtime
  onlyIf : NotRegistered serviceInstance runtime ∨ condition

variable {condition : Prop}

theorem RegisteredOnlyIf.of_hasMaps
    (only : RegisteredOnlyIf condition serviceInstance handles cached runtime)
    (hasMaps : HasMaps runtime.shmObjectHandleMap runtime.failedShmObjectRegistrationCache later) :
    RegisteredOnlyIf condition serviceInstance handles cached later := by
  constructor
  · exact only.onlyAt.of_hasMaps hasMaps
  · rcases only.onlyIf with notRegistered | holds
    · exact .inl (notRegistered.of_hasMaps hasMaps)
    · exact .inr holds

theorem RegisteredOnlyIf.mono {weaker : Prop}
    (only : RegisteredOnlyIf condition serviceInstance handles cached runtime)
    (weaken : condition → weaker) :
    RegisteredOnlyIf weaker serviceInstance handles cached runtime :=
  ⟨only.onlyAt, only.onlyIf.imp_right weaken⟩

theorem registeredOnlyIf_stable : (@meanwhile Sample).Stable
      (RegisteredOnlyIf condition serviceInstance handles cached) :=
  fun _ _ moved only => only.of_hasMaps moved

namespace SkeletonBase

variable {skeleton : SkeletonBase} {around : OfferSurroundings Sample}

theorem prepareOfferBinding_ensures (hasMaps : HasMaps handles cached runtime)
    (notRegistered : NotRegistered skeleton.serviceInstance runtime) :
    (skeleton.prepareOfferBinding around.sharedMemory).Ensures meanwhile runtime
      fun isPrepared => RegisteredOnlyIf
        (isPrepared = true ∧ skeleton.registersShmObject around = true)
        skeleton.serviceInstance handles cached := by
  have unchanged : ∀ isPrepared, (Program.done isPrepared :
      TracingProgram Sample Bool).Ensures meanwhile runtime
        fun isPrepared => RegisteredOnlyIf
          (isPrepared = true ∧ skeleton.registersShmObject around = true)
          skeleton.serviceInstance handles cached := by
    intro isPrepared
    apply Ensures.done registeredOnlyIf_stable
    exact ⟨onlyAt_of_notRegistered hasMaps notRegistered, .inl notRegistered⟩
  have registers : ∀ shmObjectFd startAddress, skeleton.registersShmObject around = true →
      (registerShmObject skeleton.serviceInstance.shmIdentifier shmObjectFd startAddress >>=
          fun _ => pure true).Ensures meanwhile runtime
        fun isPrepared => RegisteredOnlyIf
          (isPrepared = true ∧ skeleton.registersShmObject around = true)
          skeleton.serviceInstance handles cached := by
    intro shmObjectFd startAddress isRegistering
    apply Ensures.bind (registerShmObject_ensures hasMaps notRegistered)
    intro _ later onlyAt
    exact .done registeredOnlyIf_stable ⟨onlyAt, .inr ⟨rfl, isRegistering⟩⟩
  rw [prepareOfferBinding.eq_def]
  cases sharedMemory : around.sharedMemory with
  | unavailable => exact unchanged false
  | created typedMemory =>
      cases typedMemory with
      | none => exact unchanged true
      | some typed =>
          dsimp only
          by_cases enabled : skeleton.isTracingEnabledForInstance = true
          · rw [if_pos enabled]
            apply registers
            simp [registersShmObject, enabled, sharedMemory]
          · rw [if_neg enabled]
            exact unchanged true
  | reopened typedMemory =>
      cases typedMemory with
      | none => exact unchanged true
      | some typed =>
          dsimp only
          by_cases enabled : skeleton.isTracingEnabledForInstance = true
          · rw [if_pos enabled]
            apply registers
            simp [registersShmObject, enabled, sharedMemory]
          · rw [if_neg enabled]
            intro later moves
            exact ⟨by simp [IsInsertFailure], nofun⟩

/-- An offer that succeeds if it registers the object leaves it registered only while it
is offered. -/
theorem offerService_ensures (hasMaps : HasMaps handles cached runtime)
    (forInstances : ForInstances cached) (typed : ∀ field ∈ skeleton.fields, field.IsTyped)
    (notRegistered : NotRegistered skeleton.serviceInstance runtime)
    (prepared : skeleton.registersShmObject around = true → skeleton.isPrepared around = true) :
    (skeleton.offerService around).Ensures meanwhile runtime fun offered memory =>
      RegisteredOnlyIf (offered.2.serviceOfferedFlag = true) skeleton.serviceInstance handles
          cached memory ∧
        (offered.2.serviceInstance = skeleton.serviceInstance ∧
          ∀ field ∈ offered.2.fields, field.IsTyped) := by
  rw [offerService]
  apply Ensures.bind (prepareOfferBinding_ensures hasMaps notRegistered)
  intro isPrepared later only
  have forInstancesLater : ForInstances later.failedShmObjectRegistrationCache := by
    intro identifier other
    rw [only.onlyAt.descriptor identifier (other skeleton.serviceInstance)]
    exact forInstances identifier other
  by_cases available : isPrepared = true
  · rw [if_pos available]
    apply Ensures.bind (offerServiceEvents_ensures (hasMaps_self later))
    intro events afterEvents eventsHold
    obtain ⟨eventsResult, events⟩ := events
    cases eventsResult with
    | error error =>
        refine .done (registeredOnlyIf_stable.and_fact _) ⟨?_, rfl, typed⟩
        apply (only.of_hasMaps eventsHold.1).mono
        intro registers
        have all := prepared registers.2
        rw [SkeletonBase.isPrepared, Bool.and_eq_true] at all
        cases eventsHold.2 all.1
    | ok _ =>
        apply Ensures.bind (offerServiceFields_ensures eventsHold.1 forInstancesLater typed)
        intro fields afterFields fieldsHold
        obtain ⟨fieldsResult, fields⟩ := fields
        have onlyAfter := only.of_hasMaps fieldsHold.1
        cases fieldsResult with
        | error error =>
            refine .done (registeredOnlyIf_stable.and_fact _) ⟨?_, rfl, fieldsHold.2.1⟩
            apply onlyAfter.mono
            intro registers
            have all := prepared registers.2
            rw [SkeletonBase.isPrepared, Bool.and_eq_true] at all
            cases fieldsHold.2.2 all.2
        | ok _ =>
            dsimp only
            split
            · exact .done (registeredOnlyIf_stable.and_fact _)
                ⟨onlyAfter.mono fun _ => rfl, rfl, fieldsHold.2.1⟩
            · exact .done (registeredOnlyIf_stable.and_fact _)
                ⟨onlyAfter.mono fun _ => rfl, rfl, fieldsHold.2.1⟩
  · rw [if_neg available]
    refine .done (registeredOnlyIf_stable.and_fact _) ⟨?_, rfl, typed⟩
    apply only.mono
    intro isAvailable
    exact absurd isAvailable.1 available

/-- What is withdrawn has the trace points that it had before. -/
theorem prepareStopOffers_isTracingEnabled :
    skeleton.prepareStopOffers.isTracingEnabledForInstance =
      skeleton.isTracingEnabledForInstance := by
  have event : ∀ event : SkeletonEventBase,
      event.prepareStopOffer.tracingData = event.tracingData := by
    intro event
    rw [SkeletonEventBase.prepareStopOffer]
    split
    · rfl
    · rfl
  simp [isTracingEnabledForInstance, prepareStopOffers, SkeletonFieldBase.prepareStopOffer,
    List.any_map, comp_def, event]

theorem prepareStopOffers_typed (typed : ∀ field ∈ skeleton.fields, field.IsTyped) :
    ∀ field ∈ skeleton.prepareStopOffers.fields, field.IsTyped := by
  intro field member
  obtain ⟨before, memberBefore, rfl⟩ := List.mem_map.mp member
  apply (typed before memberBefore).of_identifier
  rw [SkeletonFieldBase.prepareStopOffer, SkeletonEventBase.prepareStopOffer]
  split
  · rfl
  · rfl

/-- A withdrawn object is not registered if a trace point is still enabled. -/
theorem prepareStopOfferBinding_ensures (hasMaps : HasMaps handles cached runtime)
    (single : handles skeleton.serviceInstance.shmIdentifier = none ∨
      cached skeleton.serviceInstance.shmIdentifier = none)
    (stillTraced : NotRegistered skeleton.serviceInstance runtime ∨
      skeleton.isTracingEnabledForInstance = true) :
    (skeleton.prepareStopOfferBinding : TracingProgram Sample Unit).Ensures meanwhile runtime
      fun _ memory => OnlyAt skeleton.serviceInstance.shmIdentifier handles cached memory ∧
        NotRegistered skeleton.serviceInstance memory := by
  rw [prepareStopOfferBinding]
  by_cases enabled : skeleton.isTracingEnabledForInstance = true
  · rw [if_pos enabled]
    exact unregisterShmObject_ensures hasMaps single
  · rw [if_neg enabled]
    have notRegistered := stillTraced.resolve_right enabled
    exact .done (onlyAt_stable.and notRegistered_stable)
      ⟨onlyAt_of_notRegistered hasMaps notRegistered, notRegistered⟩

end SkeletonBase

/-! ### Constructions -/

theorem generateSkeletonTracingStruct_ensures {maxTraceContextId : Nat}
    {enableSend enableSendWithAllocate : Bool} (hasMaps : HasMaps handles cached runtime) :
    (generateSkeletonTracingStruct maxTraceContextId identifier enableSend
        enableSendWithAllocate : TracingProgram Sample _).Ensures meanwhile runtime
      fun tracingData memory => HasMaps handles cached memory ∧
        tracingData.serviceElementInstanceIdentifierView = identifier := by
  rw [generateSkeletonTracingStruct]
  by_cases traced : (enableSend || enableSendWithAllocate) = true
  · rw [if_pos traced]
    have isMapless : Footprint.IsMapless { Footprint.nothing with numbers := True } :=
      ⟨fun _ => not_false, fun _ => not_false, fun _ => not_false, fun _ => not_false⟩
    apply Ensures.bind (ensures_of_mapless isMapless
      (sectioned_registerServiceElement trivial).performs hasMaps)
    intro traceContextId later hasMapsLater
    exact .done (hasMaps_stable.and_fact _) ⟨hasMapsLater, rfl⟩
  · rw [if_neg traced]
    exact .done (hasMaps_stable.and_fact _) ⟨hasMaps, rfl⟩

/-- What is kept for a field is for a field. -/
theorem constructElements_ensures {config : TracingFilterConfig} {maxTraceContextId : Nat}
    {description : SkeletonDescription} {elements : List SkeletonElement}
    (hasMaps : HasMaps handles cached runtime) :
    (constructElements config maxTraceContextId description elements :
        TracingProgram Sample _).Ensures meanwhile runtime
      fun tracingData memory => HasMaps handles cached memory ∧
        ∀ element ∈ elements.zip tracingData, element.1.kind = .field →
          element.2.serviceElementInstanceIdentifierView.serviceElementIdentifierView.serviceElementType =
            .field := by
  induction elements generalizing runtime with
  | nil => exact .done (hasMaps_stable.and_fact _) ⟨hasMaps, List.forall_mem_nil _⟩
  | cons element rest ih =>
      have first : (constructElement config maxTraceContextId description element :
          TracingProgram Sample _).Ensures meanwhile runtime
            fun tracingData memory => HasMaps handles cached memory ∧ (element.kind = .field →
                tracingData.serviceElementInstanceIdentifierView.serviceElementIdentifierView.serviceElementType =
                  .field) := by
        rw [constructElement]
        cases element.kind with
        | event =>
            apply (generateSkeletonTracingStruct_ensures hasMaps).mono
            intro tracingData later holds
            exact ⟨holds.1, nofun⟩
        | field =>
            apply (generateSkeletonTracingStruct_ensures hasMaps).mono
            intro tracingData later holds
            refine ⟨holds.1, fun _ => ?_⟩
            rw [holds.2]
      rw [constructElements]
      apply Ensures.bind first
      intro tracingData later firstHolds
      apply Ensures.bind (ih firstHolds.1)
      intro others afterOthers othersHold
      exact .done (hasMaps_stable.and_fact _)
        ⟨othersHold.1, List.forall_mem_cons.mpr ⟨firstHolds.2, othersHold.2⟩⟩

end Maps

/-! ## Whole runs -/

/-- What the skeletons and the maps of the binding have to do with each other. -/
structure Followed (skeletons : Skeletons) (runtime : TracingRuntime Sample) : Prop where
  handles : ForInstances runtime.shmObjectHandleMap
  descriptors : ForInstances runtime.failedShmObjectRegistrationCache
  single : ∀ serviceInstance : ServiceInstance,
    runtime.shmObjectHandleMap serviceInstance.shmIdentifier = none ∨
      runtime.failedShmObjectRegistrationCache serviceInstance.shmIdentifier = none
  offered : ∀ serviceInstance, NotRegistered serviceInstance runtime ∨
    ∃ skeleton, skeletons serviceInstance = some skeleton ∧ skeleton.serviceOfferedFlag = true
  named : ∀ serviceInstance skeleton, skeletons serviceInstance = some skeleton →
    skeleton.serviceInstance = serviceInstance
  typed : ∀ serviceInstance skeleton, skeletons serviceInstance = some skeleton →
    ∀ field ∈ skeleton.fields, field.IsTyped

theorem shmIdentifier_injective : Function.Injective ServiceInstance.shmIdentifier := by
  intro one two same
  have sameInstance := congrArg ServiceElementInstanceIdentifierView.serviceInstance same
  rw [ServiceInstance.serviceInstance_shmIdentifier,
    ServiceInstance.serviceInstance_shmIdentifier] at sameInstance
  exact sameInstance

section Followed

variable {skeletons : Skeletons} {runtime after : TracingRuntime Sample}
  {serviceInstance : ServiceInstance}

theorem followed_stable : (@meanwhile Sample).Stable (Followed skeletons) := by
  intro before after moved followed
  constructor
  · rw [moved.1]
    exact followed.handles
  · rw [moved.2]
    exact followed.descriptors
  · rw [moved.1, moved.2]
    exact followed.single
  · intro serviceInstance
    rcases followed.offered serviceInstance with notRegistered | offered
    · exact .inl (notRegistered.of_hasMaps moved)
    · exact .inr offered
  · exact followed.named
  · exact followed.typed

/-- One skeleton is changed, created or destroyed, together with its own entries. -/
theorem Followed.update {skeleton : Option SkeletonBase} (followed : Followed skeletons runtime)
    (only : RegisteredOnlyIf (∃ alive, skeleton = some alive ∧ alive.serviceOfferedFlag = true)
      serviceInstance runtime.shmObjectHandleMap runtime.failedShmObjectRegistrationCache after)
    (named : ∀ alive, skeleton = some alive → alive.serviceInstance = serviceInstance)
    (typed : ∀ alive, skeleton = some alive → ∀ field ∈ alive.fields, field.IsTyped) :
    Followed (update skeletons serviceInstance skeleton) after := by
  constructor
  · intro identifier other
    rw [only.onlyAt.handle identifier (other serviceInstance)]
    exact followed.handles identifier other
  · intro identifier other
    rw [only.onlyAt.descriptor identifier (other serviceInstance)]
    exact followed.descriptors identifier other
  · intro other
    by_cases same : other = serviceInstance
    · rw [same]
      exact only.onlyAt.single
    · have distinct := shmIdentifier_injective.ne same
      rw [only.onlyAt.handle _ distinct, only.onlyAt.descriptor _ distinct]
      exact followed.single other
  · intro other
    by_cases same : other = serviceInstance
    · rw [same, update_self]
      exact only.onlyIf
    · have distinct := shmIdentifier_injective.ne same
      rw [update_of_ne same, NotRegistered, only.onlyAt.handle _ distinct,
        only.onlyAt.descriptor _ distinct]
      exact followed.offered other
  · intro other alive
    by_cases same : other = serviceInstance
    · rw [same, update_self]
      exact named alive
    · rw [update_of_ne same]
      exact followed.named other alive
  · intro other alive
    by_cases same : other = serviceInstance
    · rw [same, update_self]
      exact typed alive
    · rw [update_of_ne same]
      exact followed.typed other alive

variable {skeleton : SkeletonBase}

/-- While the maps stay, a skeleton may change as long as it stays offered. -/
theorem Followed.update_of_hasMaps {alive : SkeletonBase} (followed : Followed skeletons runtime)
    (isAlive : skeletons serviceInstance = some skeleton)
    (hasMaps : HasMaps runtime.shmObjectHandleMap runtime.failedShmObjectRegistrationCache after)
    (named : alive.serviceInstance = skeleton.serviceInstance)
    (offered : alive.serviceOfferedFlag = skeleton.serviceOfferedFlag)
    (typed : ∀ field ∈ alive.fields, field.IsTyped) :
    Followed (Function.update skeletons serviceInstance (some alive)) after := by
  apply followed.update
  · constructor
    · constructor
      · intro other _
        rw [hasMaps.1]
      · intro other _
        rw [hasMaps.2]
      · rw [hasMaps.1, hasMaps.2]
        exact followed.single serviceInstance
    · rcases followed.offered serviceInstance with notRegistered | ⟨given, isGiven, isOffered⟩
      · exact .inl (notRegistered.of_hasMaps hasMaps)
      · rw [isAlive] at isGiven
        cases isGiven
        exact .inr ⟨alive, rfl, offered.trans isOffered⟩
  · intro given isGiven
    cases isGiven
    rw [named]
    exact followed.named serviceInstance skeleton isAlive
  · intro given isGiven
    cases isGiven
    exact typed

/-- The fields of a new skeleton are fields. -/
theorem new_typed {description : SkeletonDescription} {tracingData : List SkeletonEventTracingData}
    (forFields : ∀ element ∈ description.elements.zip tracingData, element.1.kind = .field →
      element.2.serviceElementInstanceIdentifierView.serviceElementIdentifierView.serviceElementType =
        .field) :
    ∀ field ∈ (SkeletonBase.new description tracingData).fields, field.IsTyped := by
  intro field member
  obtain ⟨event, constructed, rfl⟩ := List.mem_map.mp member
  obtain ⟨element, memberElement, rfl⟩ := List.mem_map.mp constructed
  obtain ⟨inZip, isField⟩ := List.mem_filter.mp memberElement
  exact forFields element inZip (of_decide_eq_true isField)

/-! ### Calls -/

/-- A call on a skeleton that lives. -/
theorem onSkeleton_ensures {act : SkeletonBase → TracingProgram Sample (Option SkeletonBase)}
    (followed : Followed skeletons runtime)
    (acts : ∀ skeleton, skeletons serviceInstance = some skeleton →
      (act skeleton).Ensures meanwhile runtime fun changed =>
        Followed (update skeletons serviceInstance changed)) :
    (skeletons.onSkeleton serviceInstance act).Ensures meanwhile runtime fun skeletons =>
      Followed skeletons := by
  rw [Skeletons.onSkeleton]
  cases alive : skeletons serviceInstance with
  | none => exact .done followed_stable followed
  | some skeleton =>
      apply Ensures.bind (acts skeleton alive)
      intro changed later followedLater
      exact .done followed_stable followedLater

theorem create_ensures {config : TracingFilterConfig} {maxTraceContextId : Nat}
    (description : SkeletonDescription) (followed : Followed skeletons runtime) :
    ((SkeletonCall.create description : SkeletonCall Sample).code config maxTraceContextId
        skeletons).Ensures meanwhile runtime fun skeletons => Followed skeletons := by
  rw [SkeletonCall.code]
  cases alive : skeletons ⟨description.serviceType, description.instanceSpecifier⟩ with
  | some skeleton => exact .done followed_stable followed
  | none =>
      apply Ensures.bind (constructElements_ensures (hasMaps_self runtime))
      intro tracingData later holds
      apply Ensures.done followed_stable
      have notRegistered : NotRegistered
          ⟨description.serviceType, description.instanceSpecifier⟩ later := by
        apply NotRegistered.of_hasMaps _ holds.1
        rcases followed.offered ⟨description.serviceType, description.instanceSpecifier⟩ with
          notRegistered | ⟨skeleton, isAlive, _⟩
        · exact notRegistered
        · rw [alive] at isAlive
          cases isAlive
      apply followed.update ⟨onlyAt_of_notRegistered holds.1 notRegistered, .inl notRegistered⟩
      · intro skeleton isNew
        cases isNew
        rfl
      · intro skeleton isNew
        cases isNew
        exact new_typed holds.2

section

variable (followed : Followed skeletons runtime) (alive : skeletons serviceInstance = some skeleton)

include followed alive

theorem offerService_followed {around : OfferSurroundings Sample}
    (notOffered : skeleton.serviceOfferedFlag = false)
    (prepared : skeleton.registersShmObject around = true → skeleton.isPrepared around = true) :
    (skeleton.offerService around).Ensures meanwhile runtime fun offered =>
      Followed (update skeletons serviceInstance (some offered.2)) := by
  have named := followed.named serviceInstance skeleton alive
  have notRegistered : NotRegistered skeleton.serviceInstance runtime := by
    rw [named]
    rcases followed.offered serviceInstance with notRegistered | ⟨given, isGiven, isOffered⟩
    · exact notRegistered
    · rw [alive] at isGiven
      cases isGiven
      rw [notOffered] at isOffered
      cases isOffered
  apply (SkeletonBase.offerService_ensures (hasMaps_self runtime) followed.descriptors
    (followed.typed serviceInstance skeleton alive) notRegistered prepared).mono
  intro offered later holds
  rw [named] at holds
  apply followed.update (holds.1.mono fun isOffered => ⟨offered.2, rfl, isOffered⟩)
  · intro given isGiven
    cases isGiven
    exact holds.2.1
  · intro given isGiven
    cases isGiven
    exact holds.2.2

theorem sendEvent_followed {position : Nat} {tracePoint : SendTracePoint}
    {around : SendSurroundings Sample}
    (notCached : ∀ event, skeleton.events[position]? = some event →
      runtime.failedShmObjectRegistrationCache
        event.tracingData.serviceElementInstanceIdentifierView = none) :
    (skeleton.sendEvent position tracePoint around).Ensures meanwhile runtime fun sent =>
      Followed (update skeletons serviceInstance (some sent)) := by
  have keeps : ∀ (later : TracingRuntime Sample) (events : List SkeletonEventBase),
      HasMaps runtime.shmObjectHandleMap runtime.failedShmObjectRegistrationCache later →
        Followed (update skeletons serviceInstance
          (some { skeleton with events := events })) later := by
    intro later events hasMaps
    exact followed.update_of_hasMaps alive hasMaps rfl rfl
      (followed.typed serviceInstance skeleton alive)
  rw [SkeletonBase.sendEvent]
  cases found : skeleton.events[position]? with
  | none => exact .done followed_stable (keeps runtime skeleton.events (hasMaps_self runtime))
  | some event =>
      have absent := notCached event found
      cases tracePoint with
      | send =>
          apply Ensures.bind (SkeletonEventBase.send_ensures (hasMaps_self runtime) absent)
          intro sent later holds
          exact .done followed_stable (keeps later _ holds.1)
      | sendWithAllocate =>
          apply Ensures.bind (SkeletonEventBase.sendAllocated_ensures (hasMaps_self runtime) absent)
          intro sent later holds
          exact .done followed_stable (keeps later _ holds.1)

theorem updateField_followed {position : Nat} {tracePoint : SendTracePoint}
    {around : SendSurroundings Sample} :
    (skeleton.updateField position tracePoint around).Ensures meanwhile runtime fun updated =>
      Followed (update skeletons serviceInstance (some updated)) := by
  have typed := followed.typed serviceInstance skeleton alive
  have keeps : ∀ (later : TracingRuntime Sample) (field : SkeletonFieldBase),
      HasMaps runtime.shmObjectHandleMap runtime.failedShmObjectRegistrationCache later →
        field.IsTyped → Followed (update skeletons serviceInstance
          (some { skeleton with fields := skeleton.fields.set position field })) later := by
    intro later field hasMaps typedField
    refine followed.update_of_hasMaps alive hasMaps rfl rfl ?_
    intro other member
    rcases List.mem_or_eq_of_mem_set member with isOld | rfl
    · exact typed other isOld
    · exact typedField
  rw [SkeletonBase.updateField]
  cases found : skeleton.fields[position]? with
  | none =>
      exact .done followed_stable
        (followed.update_of_hasMaps alive (hasMaps_self runtime) rfl rfl typed)
  | some field =>
      have typedField := typed field (List.mem_of_getElem? found)
      cases tracePoint with
      | send =>
          apply Ensures.bind (SkeletonFieldBase.update_ensures (hasMaps_self runtime)
            followed.descriptors typedField)
          intro updated later holds
          exact .done followed_stable (keeps later _ holds.1 holds.2)
      | sendWithAllocate =>
          apply Ensures.bind (SkeletonFieldBase.updateAllocated_ensures (hasMaps_self runtime)
            followed.descriptors typedField)
          intro updated later holds
          exact .done followed_stable (keeps later _ holds.1 holds.2)

end

/-- A skeleton that is withdrawn or destroyed. -/
theorem withdrawn_followed (changed : Option SkeletonBase) (followed : Followed skeletons runtime)
    (alive : skeletons serviceInstance = some skeleton)
    (stillTraced : NotRegistered serviceInstance runtime ∨
      skeleton.isTracingEnabledForInstance = true)
    (named : ∀ given, changed = some given → given.serviceInstance = serviceInstance)
    (typed : ∀ given, changed = some given → ∀ field ∈ given.fields, field.IsTyped) :
    (skeleton.prepareStopOffers.prepareStopOfferBinding :
        TracingProgram Sample Unit).Ensures meanwhile runtime fun _ =>
      Followed (update skeletons serviceInstance changed) := by
  have instanceName : skeleton.prepareStopOffers.serviceInstance = serviceInstance :=
    followed.named serviceInstance skeleton alive
  apply (SkeletonBase.prepareStopOfferBinding_ensures (hasMaps_self runtime)
    (by rw [instanceName]; exact followed.single serviceInstance)
    (by rw [instanceName, SkeletonBase.prepareStopOffers_isTracingEnabled]
        exact stillTraced)).mono
  intro _ later holds
  rw [instanceName] at holds
  exact followed.update ⟨holds.1, .inl holds.2⟩ named typed

section

variable (followed : Followed skeletons runtime) (alive : skeletons serviceInstance = some skeleton)

include followed alive

/-- The object of a skeleton that is not offered is not registered. -/
theorem notRegistered_of_notOffered (notOffered : ¬skeleton.serviceOfferedFlag = true) :
    NotRegistered serviceInstance runtime := by
  rcases followed.offered serviceInstance with notRegistered | ⟨given, isGiven, isOffered⟩
  · exact notRegistered
  · rw [alive] at isGiven
    cases isGiven
    exact absurd isOffered notOffered

theorem stopOfferService_followed (stillTraced : NotRegistered serviceInstance runtime ∨
      skeleton.isTracingEnabledForInstance = true) :
    (skeleton.stopOfferService : TracingProgram Sample _).Ensures meanwhile runtime
      fun withdrawn => Followed (update skeletons serviceInstance (some withdrawn)) := by
  have named := followed.named serviceInstance skeleton alive
  have typed := followed.typed serviceInstance skeleton alive
  rw [SkeletonBase.stopOfferService]
  by_cases offered : skeleton.serviceOfferedFlag = true
  · rw [if_pos offered]
    apply Ensures.bind (withdrawn_followed
      (some { skeleton.prepareStopOffers with serviceOfferedFlag := false }) followed alive
      stillTraced _ _)
    · intro _ later holds
      exact .done followed_stable holds
    · intro given isGiven
      cases isGiven
      exact named
    · intro given isGiven
      cases isGiven
      exact SkeletonBase.prepareStopOffers_typed typed
  · rw [if_neg offered]
    exact .done followed_stable
      (followed.update_of_hasMaps alive (hasMaps_self runtime) rfl rfl typed)

theorem cleanup_followed (stillTraced : NotRegistered serviceInstance runtime ∨
      skeleton.isTracingEnabledForInstance = true) :
    (skeleton.cleanup : TracingProgram Sample Unit).Ensures meanwhile runtime fun _ =>
      Followed (update skeletons serviceInstance none) := by
  rw [SkeletonBase.cleanup]
  by_cases offered : skeleton.serviceOfferedFlag = true
  · rw [if_pos offered]
    exact withdrawn_followed none followed alive stillTraced nofun nofun
  · rw [if_neg offered]
    have notRegistered := notRegistered_of_notOffered followed alive offered
    exact .done followed_stable (followed.update
      ⟨onlyAt_of_notRegistered (hasMaps_self runtime) notRegistered, .inl notRegistered⟩
      nofun nofun)

end

theorem stillTraced_of_condition (holds : (!isRegistered serviceInstance.shmIdentifier runtime ||
      skeleton.isTracingEnabledForInstance) = true) :
    NotRegistered serviceInstance runtime ∨ skeleton.isTracingEnabledForInstance = true := by
  rcases Bool.or_eq_true_iff.mp holds with notRegistered | isTraced
  · left
    rw [isRegistered, Bool.not_eq_true', Bool.or_eq_false_iff, Option.isSome_eq_false_iff,
      Option.isNone_iff_eq_none, Option.isSome_eq_false_iff,
      Option.isNone_iff_eq_none] at notRegistered
    exact notRegistered
  · exact .inr isTraced

/-- What every call keeps that meets the condition. -/
theorem code_followed {config : TracingFilterConfig} {maxTraceContextId : Nat}
    {call : SkeletonCall Sample} (followed : Followed skeletons runtime)
    (meets : meetsCondition runtime skeletons call = true) :
    (call.code config maxTraceContextId skeletons).Ensures meanwhile runtime
      fun skeletons => Followed skeletons := by
  cases call with
  | create description => exact create_ensures description followed
  | offerService serviceInstance around =>
      apply onSkeleton_ensures followed
      intro skeleton alive
      simp only [meetsCondition, alive, Bool.and_eq_true, Bool.not_eq_true'] at meets
      apply Ensures.bind (offerService_followed followed alive meets.1 _)
      · intro offered later holds
        exact .done followed_stable holds
      · intro registers
        simpa [registers] using meets.2
  | sendEvent serviceInstance position tracePoint around =>
      apply onSkeleton_ensures followed
      intro skeleton alive
      simp only [meetsCondition, alive] at meets
      apply Ensures.bind (sendEvent_followed followed alive _)
      · intro sent later holds
        exact .done followed_stable holds
      · intro event found
        simpa [found] using meets
  | updateField serviceInstance position tracePoint around =>
      apply onSkeleton_ensures followed
      intro skeleton alive
      apply Ensures.bind (updateField_followed followed alive)
      intro updated later holds
      exact .done followed_stable holds
  | stopOfferService serviceInstance =>
      apply onSkeleton_ensures followed
      intro skeleton alive
      simp only [meetsCondition, alive] at meets
      apply Ensures.bind (stopOfferService_followed followed alive (stillTraced_of_condition meets))
      intro withdrawn later holds
      exact .done followed_stable holds
  | destroy serviceInstance =>
      apply onSkeleton_ensures followed
      intro skeleton alive
      simp only [meetsCondition, alive] at meets
      apply Ensures.bind (cleanup_followed followed alive (stillTraced_of_condition meets))
      intro _ later holds
      exact .done followed_stable holds

theorem isRegistered_serviceInstance {identifier : ServiceElementInstanceIdentifierView}
    (followed : Followed skeletons runtime) (registered : isRegistered identifier runtime = true) :
    ∃ skeleton, skeletons identifier.serviceInstance = some skeleton ∧
      skeleton.serviceOfferedFlag = true := by
  by_cases ofInstance : ∃ serviceInstance : ServiceInstance,
    identifier = serviceInstance.shmIdentifier
  · obtain ⟨serviceInstance, rfl⟩ := ofInstance
    rcases followed.offered serviceInstance with notRegistered | offered
    · rw [isRegistered, notRegistered.1, notRegistered.2] at registered
      cases registered
    · exact offered
  · have other : ∀ serviceInstance : ServiceInstance, identifier ≠ serviceInstance.shmIdentifier :=
      fun serviceInstance same => ofInstance ⟨serviceInstance, same⟩
    rw [isRegistered, followed.handles identifier other,
      followed.descriptors identifier other] at registered
    cases registered

end Followed

theorem followed_start {capacity : Nat} {answers : GenericTraceAnswers} :
    Followed (fun _ => none) (TracingRuntime.new capacity answers : TracingRuntime Sample) where
  handles _ _ := rfl
  descriptors _ _ := rfl
  single _ := .inl rfl
  offered _ := .inl ⟨rfl, rfl⟩
  named := nofun
  typed := nofun

/-- In every run whose calls all meet the condition, objects are registered only while
their service instances are offered. -/
theorem shmObjectLaw_of_reached {config : TracingFilterConfig} {maxTraceContextId capacity : Nat}
    {answers : GenericTraceAnswers} {state : TracedConfig Sample}
    (reached : Reaches (tracedSystem config maxTraceContextId) tracedPermitted
      (tracedStart capacity answers) state) : ShmObjectLaw state := by
  have holds : SerialHolds meanwhile (fun memory skeletons => Followed skeletons memory)
      state := by
    apply serial_run (fun memory skeletons => Followed skeletons memory) _ _ _
      followed_start rfl reached
    · intro state op answer permitted
      exact permitted
    · intro skeletons before after moved followed
      exact followed_stable before after moved followed
    · intro state call followed _ permitted
      exact code_followed followed permitted
  constructor
  · intro idle identifier registered
    exact isRegistered_serviceInstance (holds.idle idle) registered
  · intro call op next running
    exact holds.performs running

section Examples

/-- The only service instance. -/
def onlyInstance : ServiceInstance := ⟨"service", "instance"⟩

/-- The event of the service instance finds a slot, and its sample can be traced. -/
def onlySend : SendSurroundings Unit := ⟨true, ⟨0, 100, 4⟩, some ()⟩

/-- New shared memory that can be traced. -/
def onlyOffer : OfferSurroundings Unit where
  sharedMemory := .created (some (7, 100))
  event _ := ⟨true, true, onlySend⟩
  field _ := ⟨true, true, onlySend⟩
  isOfferFinalized := true
  isServiceDiscovered := true

/-- A call with so many operations. -/
def tracedCall (call : SkeletonCall Unit) (steps : Nat) :
    List (Choice Unit (TracingRuntime Unit) (SkeletonCall Unit)) :=
  .call () call :: (List.replicate steps (.perform () 0) ++ [.finish ()])

/-- A skeleton is created, offered, and sends a sample. -/
def sendTraced (steps : Nat) : List (Choice Unit (TracingRuntime Unit) (SkeletonCall Unit)) :=
  List.flatten
    [tracedCall (.create oneTracedEvent) 3, tracedCall (.offerService onlyInstance onlyOffer) 3,
     tracedCall (.sendEvent onlyInstance 0 .send onlySend) steps]

def isIdle (state : TracedConfig Unit) : Bool :=
  match state.activity () with
  | .idle => true
  | .running _ _ => false

def isOnlyRegistered (state : TracedConfig Unit) : Bool :=
  isIdle state && isRegistered onlyInstance.shmIdentifier state.memory

def isOnlyOffered (state : TracedConfig Unit) : Bool :=
  (state.object () onlyInstance).any SkeletonBase.serviceOfferedFlag

/-- Nobody else moves in these runs. -/
noncomputable instance othersTrace_decidable (before after : TracingRuntime Unit) :
    Decidable (othersTrace before after) :=
  Classical.propDecidable _

/-- A sample is traced while the service instance is offered. -/
theorem shmObjectLaw_of_sent :
    ∃ state : TracedConfig Unit, isOnlyRegistered state = true ∧ ShmObjectLaw state := by
  obtain ⟨state, reached, registered⟩ :=
    exists_reached (tracedSystem oneTracedEventConfig 255) tracedPermitted
      (tracedStart 1 answersWithoutErrors) (sendTraced 17)
      (fun state => isOnlyRegistered state = true) (by decide +kernel)
  exact ⟨state, registered, shmObjectLaw_of_reached reached⟩

/-- The trace library refuses the sample for good. -/
def answersNoDaemon : GenericTraceAnswers where
  registerShmObject := .ok 1
  unregisterShmObject := .ok ()
  trace := .error .daemonNotConnectedFatal

/-- Afterwards no trace point is enabled any more, and the object stays registered when
the service instance is withdrawn. -/
theorem shmObject_outlives_offer : ¬∀ state : TracedConfig Unit,
      Reaches (tracedSystem oneTracedEventConfig 255)
          (fun _ event => keepsEnabled event = true) (tracedStart 1 answersNoDaemon) state →
        ShmObjectLaw state := by
  intro law
  obtain ⟨state, reached, registered, notOffered⟩ :=
    exists_reached (tracedSystem oneTracedEventConfig 255)
      (fun _ event => keepsEnabled event = true) (tracedStart 1 answersNoDaemon)
      (sendTraced 23 ++ tracedCall (.stopOfferService onlyInstance) 0)
      (fun state => isOnlyRegistered state = true ∧ isOnlyOffered state = false)
      (by decide +kernel)
  rw [isOnlyRegistered, Bool.and_eq_true, isIdle] at registered
  have idle : state.activity () = .idle := by
    cases busy : state.activity () with
    | idle => rfl
    | running call rest =>
        rw [busy] at registered
        cases registered.1
  obtain ⟨skeleton, alive, offered⟩ := (law state reached).offered idle _ registered.2
  rw [ServiceInstance.serviceInstance_shmIdentifier] at alive
  rw [isOnlyOffered, alive, Option.any_some, offered] at notOffered
  cases notOffered

end Examples

end MwCom.Tracing
