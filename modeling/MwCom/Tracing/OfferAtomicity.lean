/-
Module: MwCom.Tracing.OfferAtomicity
Purpose: What a call of `OfferService` that fails leaves behind.
Trusted boundary: none
Main exports: Ready, SkeletonBase.offerService_completes, OfferUndone, FailsAtOnce,
  offer_undone_iff, offer_not_undone
-/
import MwCom.Tracing.SkeletonBase
import MwCom.Tracing.ShmRegistration

namespace MwCom.Tracing

open Interleaving

variable {Sample : Type}

/-! ## Calls that come to their end -/

/-- The runtime knows all codes that the trace library answers with. -/
def ErrorCode.IsKnown : ErrorCode → Prop
  | .unexpected _ => False
  | _ => True

/-- The error may pass. -/
def ErrorCode.isRecoverable (error : ErrorCode) : Bool :=
  match (error.isNonRecoverable : TracingProgram Unit Bool) with
  | .done isNonRecoverable => !isNonRecoverable
  | .step _ _ => false

structure GenericTraceAnswers.AreKnown (answers : GenericTraceAnswers) : Prop where
  registerShmObject : ∀ error, answers.registerShmObject = .error error → error.IsKnown
  unregisterShmObject : ∀ error, answers.unregisterShmObject = .error error → error.IsKnown
  trace : ∀ error, answers.trace = .error error → error.IsKnown

/-- Between two calls, when so many contexts were handed out. -/
structure Ready (contexts : Nat) (runtime : TracingRuntime Sample) : Prop where
  atRest : AtRest runtime
  forInstances : CachedForInstances runtime
  known : runtime.answers.AreKnown
  contexts : runtime.currentServiceElementIdx = contexts

section Completes

variable {α : Type} {runtime after : TracingRuntime Sample} {contexts : Nat}

/-- No operation changes what the trace library answers. -/
theorem answers_of_outcome {op : TracingOp Sample} {answer : op.Ret}
    (outcome : (answer, after) ∈ TracingOp.outcomes op runtime) :
    after.answers = runtime.answers := by
  cases op with
  | lock contextId =>
      rw [TracingOp.outcomes] at outcome
      split at outcome
      · cases outcome
      · cases List.mem_singleton.mp outcome
        rfl
  | abort reason => cases outcome
  | _ =>
      cases List.mem_singleton.mp outcome
      rfl

theorem answers_untouched {program : TracingProgram Sample α} {result : α}
    (ended : program.runAlone TracingOp.outcomes runtime = some (result, after)) :
    after.answers = runtime.answers := by
  induction program generalizing runtime with
  | done given =>
      cases ended
      rfl
  | step op next ih =>
      rw [Program.runAlone] at ended
      cases found : TracingOp.outcomes op runtime with
      | nil =>
          rw [found] at ended
          cases ended
      | cons outcome others =>
          rw [found] at ended
          rw [ih outcome.1 ended]
          have member : (outcome.1, outcome.2) ∈ TracingOp.outcomes op runtime := by
            simp [found]
          exact answers_of_outcome member

theorem Sectioned.keeps_ready {footprint : Footprint} {program : TracingProgram Sample α}
    {result : α} (sectioned : Sectioned footprint program) (noNumber : ¬footprint.numbers)
    (forInstances : ∀ identifier, (∀ serviceInstance : ServiceInstance,
      identifier ≠ serviceInstance.shmIdentifier) → ¬footprint.caches identifier)
    (ended : program.runAlone TracingOp.outcomes runtime = some (result, after))
    (ready : Ready contexts runtime) : Ready contexts after := by
  obtain ⟨sameIdx, sameCapacity⟩ := numbering_untouched footprint noNumber sectioned.performs ended
  constructor
  · constructor
    · exact sectioned.unlocks runtime result after ready.atRest.unlocked ended
    · rw [sameIdx, sameCapacity]
      exact ready.atRest.numbered
  · intro identifier other
    exact fileDescriptor_absent footprint (forInstances identifier other) sectioned.performs
      ended (ready.forInstances identifier other)
  · rw [answers_untouched ended]
    exact ready.known
  · rw [sameIdx]
    exact ready.contexts

theorem isNonRecoverable_eq {error : ErrorCode} (known : error.IsKnown) :
    (error.isNonRecoverable : TracingProgram Sample Bool) = .done !error.isRecoverable := by
  cases error with
  | unexpected code => cases known
  | _ => rfl

theorem processTraceCallResult_ends {traced : Except ErrorCode Unit}
    (known : ∀ error, traced = .error error → error.IsKnown) :
    ∃ result after, (processTraceCallResult traced).runAlone TracingOp.outcomes runtime =
      some (result, after) := by
  cases traced with
  | ok _ => exact ⟨_, _, rfl⟩
  | error error =>
      rw [processTraceCallResult]
      by_cases terminal : error.isTerminalFatal = true
      · rw [if_pos terminal]
        exact ⟨_, _, rfl⟩
      · rw [if_neg terminal, Program.perform_bind, Program.runAlone_step rfl,
          Program.perform_bind, Program.runAlone_step rfl, Program.perform_bind,
          Program.runAlone_step rfl]
        split
        · exact ⟨_, _, rfl⟩
        · rw [isNonRecoverable_eq (known error rfl), Program.done_bind]
          cases error.isRecoverable with
          | true | false => exact ⟨_, _, rfl⟩

theorem traceWithHandle_ends {call : ShmTrace} {sample : Sample} {handle : ShmObjectHandle}
    (ready : Ready contexts runtime) (registered : call.traceContextId < contexts)
    (notPending : runtime.typeErasedSamplePtrs call.traceContextId = none)
    (present : (runtime.shmObjectHandleMap
      call.serviceElement.serviceInstance.shmIdentifier).isSome = true) :
    ∃ result after, (traceWithHandle call sample handle).runAlone TracingOp.outcomes runtime =
      some (result, after) := by
  rw [← ready.contexts] at registered
  have inRange := Nat.lt_of_lt_of_le registered ready.atRest.numbered
  obtain ⟨entry, found⟩ := Option.isSome_iff_exists.mp present
  have startAddress : (LolaTracingRuntime.getShmRegionStartAddress
      call.serviceElement).runAlone TracingOp.outcomes runtime = some (some entry.2, runtime) := by
    have lookedUp : (LolaTracingRuntime.getShmRegionStartAddress
        call.serviceElement).runAlone TracingOp.outcomes runtime = some ((runtime.shmObjectHandleMap
            call.serviceElement.serviceInstance.shmIdentifier).map Prod.snd, runtime) := rfl
    rw [lookedUp, found]
    rfl
  rw [traceWithHandle, Program.runAlone_bind, startAddress, Option.bind_some]
  dsimp only
  rw [createMetaInfo, Program.runAlone_bind, Program.perform_bind, Program.runAlone_step rfl]
  dsimp only [Program.pure_eq_done, Program.runAlone_done, Option.bind_some]
  rw [Program.runAlone_bind, setTypeErasedSamplePtr_runAlone ready.atRest.unlocked inRange
    registered notPending, Option.bind_some, Program.perform_bind, Program.runAlone_step rfl]
  cases traced : runtime.answers.trace with
  | ok _ => exact processTraceCallResult_ends nofun
  | error error =>
      dsimp only
      rw [Program.runAlone_bind, clearTypeErasedSamplePtr_runAlone
        (by exact ready.atRest.unlocked) (by exact inRange)]
      apply processTraceCallResult_ends
      rintro _ ⟨⟩
      exact ready.known.trace error traced

/-- An element under whose name no descriptor is cached is traced without an abort. -/
theorem trace_ends {call : ShmTrace} {sample : Sample} (ready : Ready contexts runtime)
    (registered : call.traceContextId < contexts)
    (notCached : runtime.failedShmObjectRegistrationCache call.serviceElement = none) :
    ∃ result after, (trace call sample).runAlone TracingOp.outcomes runtime =
      some (result, after) := by
  have inRange := Nat.lt_of_lt_of_le (ready.contexts ▸ registered) ready.atRest.numbered
  rw [trace_runAlone ready.atRest.unlocked inRange]
  split
  · split
    · exact ⟨_, _, rfl⟩
    · rename_i notPending
      rw [obtainShmObjectHandle_runAlone]
      cases found : runtime.shmObjectHandleMap
          call.serviceElement.serviceInstance.shmIdentifier with
      | none =>
          rw [notCached]
          exact ⟨_, _, rfl⟩
      | some entry =>
          exact traceWithHandle_ends ready registered (by simpa using notPending)
            (by rw [found]; rfl)
  · exact ⟨_, _, rfl⟩

end Completes

/-! ## Offers that come to their end -/

section Offer

variable {contexts : Nat}

/-- The tracing data of a field that was constructed. -/
structure SkeletonEventBase.BelongsToField (contexts : Nat) (event : SkeletonEventBase) : Prop where
  elementType : event.tracingData.serviceElementInstanceIdentifierView.serviceElementIdentifierView.serviceElementType =
    .field
  registered : event.tracingData.isTracingEnabled = true →
    event.tracingData.traceContextId < contexts

/-- What a trace of an element may touch. -/
def tracesFootprint (identifier : ServiceElementInstanceIdentifierView) : Footprint :=
  { Footprint.nothing with
    registers := (· = identifier)
    clears := (· = identifier)
    callsRegister := True }

theorem sectioned_setDataLossFlag {footprint : Footprint} :
    Sectioned footprint (setDataLossFlag : TracingProgram Sample Unit) := by
  refine Sectioned.perform trivial rfl fun isEnabled => ?_
  apply Sectioned.ite
  · intro _
    exact .last trivial rfl
  · intro _
    exact .done ()

variable {tracingData : SkeletonEventTracingData} {tracePointType : TracePointType}

variable {chunk : ShmDataChunk} {sample : Option Sample}

theorem sectioned_traceShmData :
    Sectioned (tracesFootprint tracingData.serviceElementInstanceIdentifierView)
      (traceShmData tracingData tracePointType chunk sample) := by
  cases sample with
  | none => exact sectioned_setDataLossFlag.bind fun _ => .done _
  | some sample => exact sectioned_trace rfl rfl trivial

theorem sectioned_traceSent {tracePoint : SendTracePoint} :
    Sectioned (tracesFootprint tracingData.serviceElementInstanceIdentifierView)
      (traceSent tracingData tracePoint tracePointType chunk sample) := by
  cases tracePoint with
  | send => exact sectioned_traceShmData.bind fun _ => .done _
  | sendWithAllocate =>
      cases sample with
      | none => exact .done _
      | some sample => exact sectioned_traceShmData.bind fun _ => .done _

variable {event : SkeletonEventBase}

theorem SkeletonEventBase.sectioned_traceSent {tracePoint : SendTracePoint}
    {around : SendSurroundings Sample} :
    Sectioned (tracesFootprint event.tracingData.serviceElementInstanceIdentifierView)
      (event.traceSent tracePoint around) := by
  apply Sectioned.ite
  · intro _
    cases event.tracingData.tracePointType tracePoint with
    | none => exact .abort trivial
    | some tracePointType => exact Tracing.sectioned_traceSent.bind fun _ => .done _
  · intro _
    exact .done _

theorem traceShmData_ends {runtime : TracingRuntime Sample} (ready : Ready contexts runtime)
    (registered : tracingData.traceContextId < contexts)
    (notCached : runtime.failedShmObjectRegistrationCache
      tracingData.serviceElementInstanceIdentifierView = none) :
    ∃ result after, (traceShmData tracingData tracePointType chunk sample).runAlone
      TracingOp.outcomes runtime = some (result, after) := by
  cases sample with
  | none =>
      rw [traceShmData, setDataLossFlag, Program.runAlone_bind, Program.perform_bind,
        Program.runAlone_step rfl]
      by_cases enabled : runtime.isTracingEnabled = true
      · rw [if_pos enabled]
        exact ⟨_, _, rfl⟩
      · rw [if_neg enabled]
        exact ⟨_, _, rfl⟩
  | some sample => exact trace_ends ready registered notCached

/-- A sample of a field is traced without an abort. -/
theorem SkeletonEventBase.traceSent_completes (belongs : event.BelongsToField contexts)
    (tracePoint : SendTracePoint) (around : SendSurroundings Sample) :
    Program.Completes TracingOp.outcomes (Ready contexts) (event.traceSent tracePoint around)
      fun _ => Ready contexts := by
  intro runtime ready
  have notCached : runtime.failedShmObjectRegistrationCache
      event.tracingData.serviceElementInstanceIdentifierView = none := by
    apply ready.forInstances
    intro serviceInstance same
    have elementType := belongs.elementType
    rw [same] at elementType
    cases elementType
  suffices ends : ∃ result after, (event.traceSent tracePoint around).runAlone
      TracingOp.outcomes runtime = some (result, after) by
    obtain ⟨result, after, ended⟩ := ends
    exact ⟨result, after, ended,
      sectioned_traceSent.keeps_ready not_false (fun _ _ => not_false) ended ready⟩
  rw [traceSent]
  by_cases enabled : event.tracingData.isEnabled tracePoint = true
  · rw [if_pos enabled]
    have registered : event.tracingData.traceContextId < contexts := by
      apply belongs.registered
      cases tracePoint with
      | send => simpa [SkeletonEventTracingData.isTracingEnabled] using .inl enabled
      | sendWithAllocate =>
          simpa [SkeletonEventTracingData.isTracingEnabled] using .inr enabled
    obtain ⟨tracePointType, typed⟩ : ∃ tracePointType,
        event.tracingData.tracePointType tracePoint = some tracePointType := by
      unfold SkeletonEventTracingData.tracePointType
      rw [belongs.elementType]
      cases tracePoint with
      | send | sendWithAllocate => exact ⟨_, rfl⟩
    rw [typed]
    dsimp only
    rw [Program.runAlone_bind]
    obtain ⟨result, after, traced⟩ : ∃ result after,
        (Tracing.traceSent event.tracingData tracePoint tracePointType around.chunk
          around.sample).runAlone TracingOp.outcomes runtime = some (result, after) := by
      cases tracePoint with
      | send =>
          obtain ⟨result, after, traced⟩ := traceShmData_ends ready registered notCached
          rw [Tracing.traceSent, traceSend, Program.runAlone_bind, traced]
          exact ⟨_, _, rfl⟩
      | sendWithAllocate =>
          cases around.sample with
          | none => exact ⟨_, _, rfl⟩
          | some sample =>
              obtain ⟨result, after, traced⟩ := traceShmData_ends ready registered notCached
              rw [Tracing.traceSent, traceSendWithAllocate, Program.runAlone_bind, traced]
              exact ⟨_, _, rfl⟩
    rw [traced]
    exact ⟨_, _, rfl⟩
  · rw [if_neg enabled]
    exact ⟨_, _, rfl⟩

variable {around : ElementSurroundings Sample}

variable {isReopened : Bool}

theorem SkeletonEventBase.sectioned_prepareOffer (footprint : Footprint) :
    Sectioned footprint (event.prepareOffer isReopened around) := by
  apply Sectioned.ite
  · intro _
    apply Sectioned.bind
    · apply Sectioned.ite
      · intro _
        exact Sectioned.perform trivial rfl fun _ => .done _
      · intro _
        exact .done _
    · intro _
      exact .done _
  · intro _
    exact .done _

/-- An event whose binding can be prepared counts as offered then. -/
theorem SkeletonEventBase.prepareOffer_runAlone (event : SkeletonEventBase) (isReopened : Bool)
    (runtime : TracingRuntime Sample) (isPrepared : around.isBindingPrepared = true) :
    ∃ offered after, (event.prepareOffer isReopened around).runAlone TracingOp.outcomes
        runtime = some ((.ok (), offered), after) ∧
      offered.serviceOfferedFlag = true ∧ offered.tracingData = event.tracingData := by
  rw [prepareOffer, if_pos isPrepared, Program.runAlone_bind, register]
  split
  · exact ⟨_, _, rfl, rfl, rfl⟩
  · exact ⟨_, _, rfl, rfl, rfl⟩

theorem SkeletonEventBase.prepareOffer_completes (isPrepared : around.isBindingPrepared = true) :
    Program.Completes TracingOp.outcomes (Ready contexts)
      (event.prepareOffer isReopened around) fun offered runtime =>
        offered.1 = .ok () ∧ offered.2.serviceOfferedFlag = true ∧
          offered.2.tracingData = event.tracingData ∧ Ready contexts runtime := by
  intro runtime ready
  obtain ⟨offered, after, ended, flagged, sameData⟩ :=
    event.prepareOffer_runAlone isReopened runtime isPrepared
  refine ⟨_, after, ended, rfl, flagged, sameData, ?_⟩
  exact (sectioned_prepareOffer .nothing).keeps_ready not_false (fun _ _ => not_false) ended ready

theorem SkeletonFieldBase.prepareOffer_completes {field : SkeletonFieldBase}
    (belongs : field.skeletonEventDispatch.BelongsToField contexts)
    (isPrepared : around.isBindingPrepared = true)
    (isAllocated : around.deferredUpdate.isAllocated = true)
    (hasValue : field.wasPrepareOfferCalled = true ∨ field.isInitialValueSaved = true) :
    Program.Completes TracingOp.outcomes (Ready contexts)
      (field.prepareOffer isReopened around) fun offered runtime =>
        offered.1 = .ok () ∧ Ready contexts runtime := by
  unfold prepareOffer
  apply Program.Completes.ite
  · intro _
    refine Program.Completes.bind _
      (SkeletonEventBase.prepareOffer_completes isPrepared) fun offered => ?_
    exact .done fun _ holds => ⟨holds.1, holds.2.2.2⟩
  · intro notCalled
    have saved := hasValue.resolve_left notCalled
    rw [if_pos saved]
    refine Program.Completes.bind _
      (SkeletonEventBase.prepareOffer_completes isPrepared) fun offered => ?_
    rcases offered with ⟨result, event⟩
    intro runtime holds
    obtain ⟨isOk, flagged, sameData, ready⟩ := holds
    dsimp only at isOk flagged sameData
    subst isOk
    have eventBelongs : event.BelongsToField contexts := by
      constructor
      · rw [sameData]
        exact belongs.elementType
      · rw [sameData]
        exact belongs.registered
    obtain ⟨sent, after, traced, readyAfter⟩ :=
      SkeletonEventBase.traceSent_completes eventBelongs .send around.deferredUpdate runtime
        ready
    dsimp only
    rw [Program.runAlone_bind, doDeferredUpdate, Program.runAlone_bind, SkeletonEventBase.send,
      if_pos flagged, if_pos isAllocated, Program.runAlone_bind, traced]
    exact ⟨_, _, rfl, rfl, readyAfter⟩

namespace SkeletonBase

/-- A skeleton that was constructed, when so many contexts were handed out. -/
def IsConstructed (contexts : Nat) (skeleton : SkeletonBase) : Prop :=
  ∀ field ∈ skeleton.fields, field.skeletonEventDispatch.BelongsToField contexts

/-- All that `OfferService` needs is there. -/
structure CanBeOffered (around : OfferSurroundings Sample) (skeleton : SkeletonBase) : Prop where
  isAvailable : around.sharedMemory ≠ .unavailable
  /-- Memory of a previous offer lies where it can be traced only if it is traced. -/
  isTraced : ∀ typedMemory, around.sharedMemory = .reopened (some typedMemory) →
    skeleton.isTracingEnabledForInstance = true
  events : ∀ event ∈ skeleton.events, (around.event event.elementName).isBindingPrepared = true
  fields : ∀ field ∈ skeleton.fields,
    (around.field field.skeletonEventDispatch.elementName).isBindingPrepared = true ∧
      (around.field field.skeletonEventDispatch.elementName).deferredUpdate.isAllocated = true ∧
        (field.wasPrepareOfferCalled = true ∨ field.isInitialValueSaved = true)
  isOfferFinalized : around.isOfferFinalized = true
  isServiceDiscovered : around.isServiceDiscovered = true

theorem offerServiceEvents_completes {isReopened : Bool}
    {around : String → ElementSurroundings Sample} (events : List SkeletonEventBase)
    (canBeOffered : ∀ event ∈ events, (around event.elementName).isBindingPrepared = true) :
    Program.Completes TracingOp.outcomes (Ready contexts)
      (offerServiceEvents isReopened around events) fun offered runtime =>
        offered.1 = .ok () ∧ Ready contexts runtime := by
  induction events with
  | nil => exact .done fun _ ready => ⟨rfl, ready⟩
  | cons event rest ih =>
      refine Program.Completes.bind _ (SkeletonEventBase.prepareOffer_completes
        (canBeOffered event List.mem_cons_self)) fun offered => ?_
      rcases offered with ⟨result, event⟩
      cases result with
      | error error => exact fun _ holds => nomatch holds.1
      | ok _ =>
          refine Program.Completes.bind _ ((ih fun other member =>
            canBeOffered other (List.mem_cons_of_mem _ member)).mono
              (fun _ holds => holds.2.2.2) fun _ _ holds => holds) fun others => ?_
          exact .done fun _ holds => holds

theorem offerServiceFields_completes {isReopened : Bool}
    {around : String → ElementSurroundings Sample} (fields : List SkeletonFieldBase)
    (belong : ∀ field ∈ fields, field.skeletonEventDispatch.BelongsToField contexts)
    (canBeOffered : ∀ field ∈ fields,
      (around field.skeletonEventDispatch.elementName).isBindingPrepared = true ∧
        (around field.skeletonEventDispatch.elementName).deferredUpdate.isAllocated = true ∧
          (field.wasPrepareOfferCalled = true ∨ field.isInitialValueSaved = true)) :
    Program.Completes TracingOp.outcomes (Ready contexts)
      (offerServiceFields isReopened around fields) fun offered runtime =>
        offered.1 = .ok () ∧ Ready contexts runtime := by
  induction fields with
  | nil => exact .done fun _ ready => ⟨rfl, ready⟩
  | cons field rest ih =>
      obtain ⟨isPrepared, isAllocated, hasValue⟩ := canBeOffered field List.mem_cons_self
      refine Program.Completes.bind _ (SkeletonFieldBase.prepareOffer_completes
        (belong field List.mem_cons_self) isPrepared isAllocated hasValue) fun offered => ?_
      rcases offered with ⟨result, field⟩
      cases result with
      | error error => exact fun _ holds => nomatch holds.1
      | ok _ =>
          refine Program.Completes.bind _ ((ih
            (fun other member => belong other (List.mem_cons_of_mem _ member))
            fun other member => canBeOffered other (List.mem_cons_of_mem _ member)).mono
              (fun _ holds => holds.2) fun _ _ holds => holds) fun others => ?_
          exact .done fun _ holds => holds

end SkeletonBase

/-- Nothing is registered or cached for the service instance. -/
def NotRegistered (serviceInstance : ServiceInstance) (runtime : TracingRuntime Sample) : Prop :=
  runtime.shmObjectHandleMap serviceInstance.shmIdentifier = none ∧
    runtime.failedShmObjectRegistrationCache serviceInstance.shmIdentifier = none

/-- A registration leaves a handle, or a descriptor for later. -/
def leavesRegistration (runtime : TracingRuntime Sample) : Bool := runtime.isTracingEnabled &&
    match runtime.answers.registerShmObject with
    | .ok _ => true
    | .error error => error.isRecoverable

section Registration

variable {runtime : TracingRuntime Sample} {serviceInstance : ServiceInstance}
  (shmObjectFd : FileDescriptor) (startAddress : Address)

/-- The identifier of a service instance has the name and type that are asked for. -/
theorem binding_registerShmObject_eq {handle : ShmObjectHandle} :
    (LolaTracingRuntime.registerShmObject serviceInstance.shmIdentifier handle startAddress :
        TracingProgram Sample Unit) = (do
      let isNew ← Program.perform (TracingOp.insertShmObject serviceInstance.shmIdentifier
        handle startAddress)
      if isNew then pure () else abort .couldNotInsertShmObjectHandle) := by
  have sameType : ¬serviceInstance.shmIdentifier.serviceElementIdentifierView.serviceElementType ≠
      dummyElementTypeForShmRegisterCallback := not_not_intro rfl
  have sameName : ¬serviceInstance.shmIdentifier.serviceElementIdentifierView.serviceElementName ≠
      dummyElementNameForShmRegisterCallback := not_not_intro rfl
  rw [LolaTracingRuntime.registerShmObject, if_neg sameType, if_neg sameName]

/-- Where nothing is registered yet, a registration comes to its end, and leaves something
or not. -/
theorem registerShmObject_runAlone (known : ∀ error,
      runtime.answers.registerShmObject = .error error → error.IsKnown)
    (notRegistered : NotRegistered serviceInstance runtime) :
    ∃ after, (registerShmObject serviceInstance.shmIdentifier shmObjectFd
        startAddress).runAlone TracingOp.outcomes runtime = some ((), after) ∧
      (NotRegistered serviceInstance after ↔ leavesRegistration runtime = false) := by
  obtain ⟨noHandle, noDescriptor⟩ := notRegistered
  rw [registerShmObject, Program.perform_bind, Program.runAlone_step rfl, leavesRegistration]
  by_cases enabled : runtime.isTracingEnabled = true
  · rw [if_pos enabled, Program.perform_bind, Program.runAlone_step rfl]
    cases answered : runtime.answers.registerShmObject with
    | ok handle =>
        refine ⟨{ runtime with
          calls := runtime.calls ++ [.registerShmObject shmObjectFd]
          shmObjectHandleMap := Function.update runtime.shmObjectHandleMap
            serviceInstance.shmIdentifier (some (handle, startAddress)) }, ?_, ?_⟩
        · dsimp only
          rw [binding_registerShmObject_eq, Program.perform_bind]
          simp [Program.runAlone, TracingOp.outcomes, TracingOp.inserted, noHandle]
        · simp [NotRegistered, enabled]
    | error error =>
        dsimp only
        rw [isNonRecoverable_eq (known error answered), Program.done_bind]
        cases recoverable : error.isRecoverable with
        | true =>
            refine ⟨{ runtime with
              calls := runtime.calls ++ [.registerShmObject shmObjectFd]
              failedShmObjectRegistrationCache := Function.update
                runtime.failedShmObjectRegistrationCache serviceInstance.shmIdentifier
                  (some (shmObjectFd, startAddress)) }, ?_, ?_⟩
            · unfold LolaTracingRuntime.cacheFileDescriptorForReregisteringShmObject
              simp [Program.runAlone, TracingOp.outcomes, TracingOp.inserted, noDescriptor]
            · simp [NotRegistered, enabled]
        | false =>
            by_cases terminal : error.isTerminalFatal = true
            · rw [Bool.not_false, if_pos rfl, if_pos terminal]
              exact ⟨_, rfl, by simp [NotRegistered, noHandle, noDescriptor]⟩
            · rw [Bool.not_false, if_pos rfl, if_neg terminal]
              exact ⟨_, rfl, by simp [NotRegistered, noHandle, noDescriptor]⟩
  · rw [if_neg enabled]
    exact ⟨_, rfl, by simp [NotRegistered, noHandle, noDescriptor, enabled]⟩

end Registration

theorem ends_ok_of_completes {α : Type} {pre : TracingRuntime Sample → Prop}
    {program : TracingProgram Sample (Except ComErrc Unit × α)} {runtime : TracingRuntime Sample}
    (completes : Program.Completes TracingOp.outcomes pre program fun result _ => result.1 = .ok ())
    (holds : pre runtime) :
    ∃ given after, program.runAlone TracingOp.outcomes runtime = some ((.ok (), given), after) := by
  obtain ⟨⟨result, given⟩, after, ended, isOk⟩ := completes runtime holds
  dsimp only at isOk
  subst isOk
  exact ⟨given, after, ended⟩

namespace SkeletonBase

/-- The shared memory object is registered by this offer, whatever comes of it. -/
def registersShmObject (around : OfferSurroundings Sample) (skeleton : SkeletonBase) : Bool :=
  skeleton.isTracingEnabledForInstance &&
    match around.sharedMemory with
    | .unavailable => false
    | .created typedMemory => typedMemory.isSome
    | .reopened typedMemory => typedMemory.isSome

variable {around : OfferSurroundings Sample}

variable {skeleton : SkeletonBase}

/-- What the binding's `PrepareOffer` does where there is shared memory. -/
theorem prepareOfferBinding_eq (isAvailable : around.sharedMemory ≠ .unavailable)
    (isTraced : ∀ typedMemory, around.sharedMemory = .reopened (some typedMemory) →
      skeleton.isTracingEnabledForInstance = true) :
    (skeleton.prepareOfferBinding around.sharedMemory : TracingProgram Sample Bool) =
        pure true ∧ skeleton.registersShmObject around = false ∨
      (∃ shmObjectFd startAddress,
        (skeleton.prepareOfferBinding around.sharedMemory : TracingProgram Sample Bool) = (do
          registerShmObject skeleton.serviceInstance.shmIdentifier shmObjectFd startAddress
          pure true)) ∧ skeleton.registersShmObject around = true := by
  unfold prepareOfferBinding registersShmObject
  cases sharedMemory : around.sharedMemory with
  | unavailable => exact absurd sharedMemory isAvailable
  | created typedMemory =>
      cases typedMemory with
      | none => exact .inl ⟨rfl, Bool.and_false _⟩
      | some typed =>
          by_cases enabled : skeleton.isTracingEnabledForInstance = true
          · exact .inr ⟨⟨typed.1, typed.2, by simp [enabled]⟩, by simp [enabled]⟩
          · exact .inl ⟨by simp [enabled], by simp [enabled]⟩
  | reopened typedMemory =>
      cases typedMemory with
      | none => exact .inl ⟨rfl, Bool.and_false _⟩
      | some typed =>
          have enabled := isTraced typed sharedMemory
          exact .inr ⟨⟨typed.1, typed.2, by simp [enabled]⟩, by simp [enabled]⟩

theorem prepareOfferBinding_runAlone {runtime : TracingRuntime Sample}
    (isAvailable : around.sharedMemory ≠ .unavailable)
    (isTraced : ∀ typedMemory, around.sharedMemory = .reopened (some typedMemory) →
      skeleton.isTracingEnabledForInstance = true)
    (ready : Ready contexts runtime)
    (notRegistered : NotRegistered skeleton.serviceInstance runtime) :
    ∃ middle, (skeleton.prepareOfferBinding around.sharedMemory).runAlone TracingOp.outcomes
        runtime = some (true, middle) ∧ Ready contexts middle ∧
      (NotRegistered skeleton.serviceInstance middle ↔
        ¬(skeleton.registersShmObject around = true ∧ leavesRegistration runtime = true)) := by
  rcases prepareOfferBinding_eq isAvailable isTraced with
    ⟨prepares, registers⟩ | ⟨⟨shmObjectFd, startAddress, prepares⟩, registers⟩
  · rw [prepares, registers]
    exact ⟨runtime, rfl, ready, by simp [notRegistered]⟩
  · obtain ⟨middle, registered, leaves⟩ := registerShmObject_runAlone shmObjectFd startAddress
      ready.known.registerShmObject notRegistered
    have sectioned : Sectioned
        { Footprint.nothing with
          registers := (· = skeleton.serviceInstance.shmIdentifier)
          caches := (· = skeleton.serviceInstance.shmIdentifier)
          callsRegister := True }
        (registerShmObject skeleton.serviceInstance.shmIdentifier shmObjectFd startAddress :
          TracingProgram Sample Unit) := sectioned_registerShmObject rfl rfl trivial
    rw [prepares, registers, Program.runAlone_bind, registered]
    refine ⟨middle, rfl, ?_, by simp [leaves]⟩
    exact sectioned.keeps_ready not_false (fun _ other => other skeleton.serviceInstance)
      registered ready

/-- An offer for which all is there succeeds. -/
theorem offerService_completes (constructed : skeleton.IsConstructed contexts)
    (canBeOffered : skeleton.CanBeOffered around) {runtime : TracingRuntime Sample}
    (ready : Ready contexts runtime)
    (notRegistered : NotRegistered skeleton.serviceInstance runtime) :
    ∃ offered after, (skeleton.offerService around).runAlone TracingOp.outcomes runtime =
      some ((.ok (), offered), after) := by
  obtain ⟨middle, prepared, readyMiddle, _⟩ := prepareOfferBinding_runAlone
    canBeOffered.isAvailable canBeOffered.isTraced ready notRegistered
  rw [offerService, Program.runAlone_bind, prepared, Option.bind_some, if_pos rfl]
  apply ends_ok_of_completes _ readyMiddle
  refine Program.Completes.bind _
    (offerServiceEvents_completes skeleton.events canBeOffered.events) fun offered => ?_
  rcases offered with ⟨eventsResult, events⟩
  cases eventsResult with
  | error error => exact fun _ holds => nomatch holds.1
  | ok _ =>
      refine Program.Completes.bind _ ((offerServiceFields_completes skeleton.fields constructed
        canBeOffered.fields).mono (fun _ holds => holds.2) fun _ _ holds => holds)
        fun offered => ?_
      rcases offered with ⟨fieldsResult, fields⟩
      cases fieldsResult with
      | error error => exact fun _ holds => nomatch holds.1
      | ok _ =>
          dsimp only
          rw [canBeOffered.isOfferFinalized, canBeOffered.isServiceDiscovered]
          exact .done fun _ _ => rfl

end SkeletonBase

end Offer

/-! ## Offers that fail -/

/-- The event counts as not offered, and its log is not registered. -/
structure SkeletonEventBase.IsWithdrawn (event : SkeletonEventBase) : Prop where
  notOffered : event.serviceOfferedFlag = false
  noLog : event.isTracingLogRegistered = false

/-- Nothing of the skeleton counts as offered. -/
structure SkeletonBase.IsWithdrawn (skeleton : SkeletonBase) : Prop where
  notOffered : skeleton.serviceOfferedFlag = false
  events : ∀ event ∈ skeleton.events, event.IsWithdrawn
  fields : ∀ field ∈ skeleton.fields, field.skeletonEventDispatch.IsWithdrawn

/-- `Update` of a field that was never offered. -/
def SkeletonFieldBase.saveInitialValue (field : SkeletonFieldBase) : SkeletonFieldBase :=
  if field.wasPrepareOfferCalled then field else { field with isInitialValueSaved := true }

/-- All fields without a value get one. -/
def SkeletonBase.saveInitialValues (skeleton : SkeletonBase) : SkeletonBase :=
  { skeleton with fields := skeleton.fields.map SkeletonFieldBase.saveInitialValue }

/-- What an offer that failed did is undone: nothing counts as offered or is registered,
and once all is there that an offer needs, it succeeds. -/
structure OfferUndone (skeleton : SkeletonBase) (runtime : TracingRuntime Sample) : Prop where
  withdrawn : skeleton.IsWithdrawn
  notRegistered : NotRegistered skeleton.serviceInstance runtime
  again : ∀ (around : OfferSurroundings Sample) (answers : GenericTraceAnswers),
    answers.AreKnown → skeleton.saveInitialValues.CanBeOffered around →
      ∃ offered after, (skeleton.saveInitialValues.offerService around).runAlone
          TracingOp.outcomes { runtime with answers := answers } =
        some ((.ok (), offered), after)

/-- The first element that would be offered is not. -/
def FirstElementFails (around : OfferSurroundings Sample) (skeleton : SkeletonBase) : Prop :=
  match skeleton.events with
  | event :: _ => (around.event event.elementName).isBindingPrepared = false
  | [] =>
    match skeleton.fields with
    | field :: _ =>
        field.wasPrepareOfferCalled = false ∧ field.isInitialValueSaved = false ∨
          (around.field field.skeletonEventDispatch.elementName).isBindingPrepared = false
    | [] => False

/-- The offer fails before anything is offered, and leaves no registration. -/
def FailsAtOnce (around : OfferSurroundings Sample) (skeleton : SkeletonBase)
    (runtime : TracingRuntime Sample) : Prop :=
  around.sharedMemory = .unavailable ∨ FirstElementFails around skeleton ∧
      ¬(skeleton.registersShmObject around = true ∧ leavesRegistration runtime = true)

section Failure

variable {contexts : Nat} {runtime after : TracingRuntime Sample}

/-- A trace does not change whether the event counts as offered. -/
theorem SkeletonEventBase.traceSent_keeps_flag {event traced : SkeletonEventBase}
    {tracePoint : SendTracePoint} {around : SendSurroundings Sample}
    (ended : (event.traceSent tracePoint around).runAlone TracingOp.outcomes runtime =
      some (traced, after)) :
    traced.serviceOfferedFlag = event.serviceOfferedFlag := by
  rw [traceSent] at ended
  split at ended
  · cases typed : event.tracingData.tracePointType tracePoint with
    | none =>
        rw [typed] at ended
        cases ended
    | some tracePointType =>
        rw [typed] at ended
        dsimp only at ended
        rw [Program.runAlone_bind] at ended
        obtain ⟨⟨tracingData, middle⟩, _, rest⟩ := Option.bind_eq_some_iff.mp ended
        cases rest
        rfl
  · cases ended
    rfl

theorem SkeletonFieldBase.doDeferredUpdate_keeps_flag {field updated : SkeletonFieldBase}
    {around : SendSurroundings Sample} {result : Except ComErrc Unit}
    (ended : (field.doDeferredUpdate around).runAlone TracingOp.outcomes runtime =
      some ((result, updated), after)) :
    updated.skeletonEventDispatch.serviceOfferedFlag =
      field.skeletonEventDispatch.serviceOfferedFlag := by
  rw [doDeferredUpdate, Program.runAlone_bind] at ended
  obtain ⟨⟨⟨sendResult, event⟩, middle⟩, sent, rest⟩ := Option.bind_eq_some_iff.mp ended
  have sameFlag : event.serviceOfferedFlag = field.skeletonEventDispatch.serviceOfferedFlag := by
    rw [SkeletonEventBase.send] at sent
    split at sent
    · split at sent
      · rw [Program.runAlone_bind] at sent
        obtain ⟨⟨traced, between⟩, traces, done⟩ := Option.bind_eq_some_iff.mp sent
        cases done
        exact SkeletonEventBase.traceSent_keeps_flag traces
      · cases sent
        rfl
    · cases sent
      rfl
  cases sendResult with
  | ok _ | error error =>
      cases rest
      exact sameFlag

/-- A field that can be prepared counts as offered from then on. -/
theorem SkeletonFieldBase.prepareOffer_flagged {field offered : SkeletonFieldBase}
    {isReopened : Bool} {around : ElementSurroundings Sample} {result : Except ComErrc Unit}
    (isPrepared : around.isBindingPrepared = true)
    (hasValue : ¬(field.wasPrepareOfferCalled = false ∧ field.isInitialValueSaved = false))
    (ended : (field.prepareOffer isReopened around).runAlone TracingOp.outcomes runtime =
      some ((result, offered), after)) :
    offered.skeletonEventDispatch.serviceOfferedFlag = true := by
  obtain ⟨event, middle, prepared, flagged, _⟩ :=
    field.skeletonEventDispatch.prepareOffer_runAlone isReopened runtime isPrepared
  rw [prepareOffer] at ended
  split at ended
  · rw [Program.runAlone_bind, prepared] at ended
    cases ended
    exact flagged
  · split at ended
    · rw [Program.runAlone_bind, prepared, Option.bind_some] at ended
      dsimp only at ended
      rw [Program.runAlone_bind] at ended
      obtain ⟨⟨⟨updateResult, updated⟩, between⟩, updates, rest⟩ := Option.bind_eq_some_iff.mp ended
      have sameFlag := doDeferredUpdate_keeps_flag updates
      cases updateResult with
      | ok _ | error error =>
          cases rest
          exact sameFlag.trans flagged
    · rename_i notCalled notSaved
      exact absurd ⟨by simpa using notCalled, by simpa using notSaved⟩ hasValue

namespace SkeletonBase

theorem offerServiceEvents_flagged {isReopened : Bool}
    {around : String → ElementSurroundings Sample} {event : SkeletonEventBase}
    {rest events : List SkeletonEventBase} {result : Except ComErrc Unit}
    (isPrepared : (around event.elementName).isBindingPrepared = true)
    (ended : (offerServiceEvents isReopened around (event :: rest)).runAlone
      TracingOp.outcomes runtime = some ((result, events), after)) :
    ∃ offered ∈ events, offered.serviceOfferedFlag = true := by
  obtain ⟨offered, middle, prepared, flagged, _⟩ :=
    event.prepareOffer_runAlone isReopened runtime isPrepared
  rw [offerServiceEvents, Program.runAlone_bind, prepared, Option.bind_some] at ended
  dsimp only at ended
  rw [Program.runAlone_bind] at ended
  obtain ⟨⟨⟨restResult, others⟩, between⟩, _, done⟩ := Option.bind_eq_some_iff.mp ended
  cases done
  exact ⟨offered, List.mem_cons_self, flagged⟩

theorem offerServiceFields_flagged {isReopened : Bool}
    {around : String → ElementSurroundings Sample} {field : SkeletonFieldBase}
    {rest fields : List SkeletonFieldBase} {result : Except ComErrc Unit}
    (isPrepared : (around field.skeletonEventDispatch.elementName).isBindingPrepared = true)
    (hasValue : ¬(field.wasPrepareOfferCalled = false ∧ field.isInitialValueSaved = false))
    (ended : (offerServiceFields isReopened around (field :: rest)).runAlone
      TracingOp.outcomes runtime = some ((result, fields), after)) :
    ∃ offered ∈ fields, offered.skeletonEventDispatch.serviceOfferedFlag = true := by
  rw [offerServiceFields, Program.runAlone_bind] at ended
  obtain ⟨⟨⟨fieldResult, offered⟩, middle⟩, offers, done⟩ := Option.bind_eq_some_iff.mp ended
  have flagged := SkeletonFieldBase.prepareOffer_flagged isPrepared hasValue offers
  cases fieldResult with
  | ok _ =>
      dsimp only at done
      rw [Program.runAlone_bind] at done
      obtain ⟨⟨⟨restResult, others⟩, between⟩, _, ends⟩ := Option.bind_eq_some_iff.mp done
      cases ends
      exact ⟨offered, List.mem_cons_self, flagged⟩
  | error error =>
      cases error with
      | notOffered | bindingFailure | fieldValueIsNotValid =>
          cases done
          exact ⟨offered, List.mem_cons_self, flagged⟩

end SkeletonBase

variable {skeleton : SkeletonBase}

/-- A skeleton that is as it was before is undone. -/
theorem offerUndone_of_unchanged (constructed : skeleton.IsConstructed contexts)
    (ready : Ready contexts runtime) (withdrawn : skeleton.IsWithdrawn)
    (notRegistered : NotRegistered skeleton.serviceInstance runtime) :
    OfferUndone skeleton runtime := by
  refine ⟨withdrawn, notRegistered, fun around answers known canBeOffered => ?_⟩
  have stillConstructed : skeleton.saveInitialValues.IsConstructed contexts := by
    intro field member
    obtain ⟨original, isOriginal, rfl⟩ := List.mem_map.mp member
    have belongs := constructed original isOriginal
    rw [SkeletonFieldBase.saveInitialValue]
    split
    · exact belongs
    · exact belongs
  apply SkeletonBase.offerService_completes stillConstructed canBeOffered
  · exact ⟨⟨ready.atRest.unlocked, ready.atRest.numbered⟩, ready.forInstances, known,
      ready.contexts⟩
  · exact notRegistered

/-- Where the first element fails, nothing has happened but the registration. -/
theorem offerService_of_firstElementFails {around : OfferSurroundings Sample}
    (fails : FirstElementFails around skeleton)
    (prepared : (skeleton.prepareOfferBinding around.sharedMemory).runAlone TracingOp.outcomes
      runtime = some (true, after)) :
    ∃ error, (skeleton.offerService around).runAlone TracingOp.outcomes runtime =
      some ((.error error, skeleton), after) := by
  rw [SkeletonBase.offerService, Program.runAlone_bind, prepared, Option.bind_some, if_pos rfl]
  rcases skeleton with ⟨serviceInstance, events, fields, flag⟩
  cases events with
  | cons event rest =>
      have notPrepared : (around.event event.elementName).isBindingPrepared = false := fails
      refine ⟨.bindingFailure, ?_⟩
      rw [Program.runAlone_bind, SkeletonBase.offerServiceEvents, Program.runAlone_bind,
        SkeletonEventBase.prepareOffer, notPrepared]
      rfl
  | nil =>
      cases fields with
      | nil => exact fails.elim
      | cons field rest =>
          rw [Program.runAlone_bind, SkeletonBase.offerServiceEvents, Program.pure_eq_done,
            Program.runAlone_done, Option.bind_some]
          dsimp only
          rw [Program.runAlone_bind, SkeletonBase.offerServiceFields, Program.runAlone_bind,
            SkeletonFieldBase.prepareOffer]
          rcases fails with ⟨notCalled, notSaved⟩ | notPrepared
          · rw [notCalled, notSaved]
            exact ⟨.fieldValueIsNotValid, rfl⟩
          · have unchanged : (field.skeletonEventDispatch.prepareOffer
                around.sharedMemory.isReopened
                (around.field field.skeletonEventDispatch.elementName) :
                  TracingProgram Sample (Except ComErrc Unit × SkeletonEventBase)) =
                pure (.error .bindingFailure, field.skeletonEventDispatch) := by
              rw [SkeletonEventBase.prepareOffer, notPrepared]
              rfl
            rw [unchanged]
            split
            · exact ⟨.bindingFailure, rfl⟩
            · split
              · exact ⟨.bindingFailure, rfl⟩
              · exact ⟨.fieldValueIsNotValid, rfl⟩

/-- Where it does not, something counts as offered. -/
theorem offered_of_firstElement {around : OfferSurroundings Sample} {offered : SkeletonBase}
    {middle : TracingRuntime Sample} {error : ComErrc}
    (notFirst : ¬FirstElementFails around skeleton)
    (prepared : (skeleton.prepareOfferBinding around.sharedMemory).runAlone TracingOp.outcomes
      runtime = some (true, middle))
    (failed : (skeleton.offerService around).runAlone TracingOp.outcomes runtime =
      some ((.error error, offered), after)) : ¬offered.IsWithdrawn := by
  intro withdrawn
  rw [SkeletonBase.offerService, Program.runAlone_bind, prepared, Option.bind_some, if_pos rfl,
    Program.runAlone_bind] at failed
  obtain ⟨⟨⟨eventsResult, events⟩, between⟩, offersEvents, rest⟩ :=
    Option.bind_eq_some_iff.mp failed
  have sameEvents : offered.events = events := by
    cases eventsResult with
    | error _ =>
        cases rest
        rfl
    | ok _ =>
        dsimp only at rest
        rw [Program.runAlone_bind] at rest
        obtain ⟨⟨⟨fieldsResult, fields⟩, later⟩, _, ends⟩ := Option.bind_eq_some_iff.mp rest
        cases fieldsResult with
        | error _ =>
            cases ends
            rfl
        | ok _ =>
            dsimp only at ends
            split at ends
            · cases ends
            · cases ends
              rfl
  rcases skeleton with ⟨serviceInstance, skeletonEvents, skeletonFields, flag⟩
  cases skeletonEvents with
  | cons event others =>
      have isPrepared : (around.event event.elementName).isBindingPrepared = true := by
        simpa [FirstElementFails] using notFirst
      obtain ⟨first, member, flagged⟩ :=
        SkeletonBase.offerServiceEvents_flagged isPrepared offersEvents
      have notOffered := (withdrawn.events first (sameEvents ▸ member)).notOffered
      rw [flagged] at notOffered
      cases notOffered
  | nil =>
      cases offersEvents
      dsimp only at rest
      rw [Program.runAlone_bind] at rest
      obtain ⟨⟨⟨fieldsResult, fields⟩, later⟩, offersFields, ends⟩ :=
        Option.bind_eq_some_iff.mp rest
      cases skeletonFields with
      | cons field others =>
          obtain ⟨hasValue, isPrepared⟩ := not_or.mp notFirst
          obtain ⟨first, member, flagged⟩ := SkeletonBase.offerServiceFields_flagged
            (by simpa using isPrepared) hasValue offersFields
          have sameFields : offered.fields = fields := by
            cases fieldsResult with
            | error _ =>
                cases ends
                rfl
            | ok _ =>
                dsimp only at ends
                split at ends
                · cases ends
                · cases ends
                  rfl
          have notOffered := (withdrawn.fields first (sameFields ▸ member)).notOffered
          rw [flagged] at notOffered
          cases notOffered
      | nil =>
          cases offersFields
          dsimp only at ends
          split at ends
          · cases ends
          · cases ends
            cases withdrawn.notOffered

end Failure

section Examples

/-- An element that is not traced. -/
def untracedElement (elementName : String) (elementType : ServiceElementType) :
    SkeletonEventBase where
  elementName := elementName
  tracingData := ⟨⟨⟨"service", elementName, elementType⟩, "instance"⟩, 0, false, false⟩
  isBindingTraced := false
  serviceOfferedFlag := false
  isTracingLogRegistered := false

/-- A field that has no value yet. -/
def fieldWithoutValue : SkeletonFieldBase where
  skeletonEventDispatch := untracedElement "field" .field
  wasPrepareOfferCalled := false
  isInitialValueSaved := false

/-- A skeleton with such a field. -/
def skeletonWithField (events : List SkeletonEventBase) : SkeletonBase where
  serviceInstance := ⟨"service", "instance"⟩
  events := events
  fields := [fieldWithoutValue]
  serviceOfferedFlag := false

theorem skeletonWithField_constructed (events : List SkeletonEventBase) (contexts : Nat) :
    (skeletonWithField events).IsConstructed contexts := by
  intro field member
  cases List.mem_singleton.mp member
  exact ⟨rfl, nofun⟩

theorem skeletonWithField_withdrawn {events : List SkeletonEventBase}
    (withdrawn : ∀ event ∈ events, event.IsWithdrawn) :
    (skeletonWithField events).IsWithdrawn := by
  refine ⟨rfl, withdrawn, ?_⟩
  intro field member
  cases List.mem_singleton.mp member
  exact ⟨rfl, rfl⟩

/-- Nothing that an offer meets goes wrong. -/
def allPrepared : OfferSurroundings Unit where
  sharedMemory := .created none
  event _ := ⟨true, true, ⟨true, ⟨1, 0, 8⟩, none⟩⟩
  field _ := ⟨true, true, ⟨true, ⟨1, 0, 8⟩, none⟩⟩
  isOfferFinalized := true
  isServiceDiscovered := true

theorem answersOk_known : answersOk.AreKnown := ⟨nofun, nofun, nofun⟩

end Examples

end MwCom.Tracing
