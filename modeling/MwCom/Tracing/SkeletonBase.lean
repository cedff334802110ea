/-
Module: MwCom.Tracing.SkeletonBase
Purpose: A skeleton with its events and fields, how it is offered and withdrawn, and what
  that does with its tracing.
Trusted boundary: what shared memory, the events' bindings and service discovery answer
  are parameters of a call; the transactions in the tracing logs are not part of this
  model; a destructor that reads a destroyed event reads what it had last.
Main exports: SkeletonEventBase, SkeletonFieldBase, SkeletonBase, OfferSurroundings,
  SkeletonBase.offerService, SkeletonBase.stopOfferService, SkeletonBase.cleanup
-/
import MwCom.Tracing.TraceContexts

namespace MwCom.Tracing

open Interleaving
open Program (perform)

variable {Sample : Type}

/-! ## Events and fields -/

inductive ComErrc where
  | notOffered
  | bindingFailure
  | fieldValueIsNotValid
deriving DecidableEq

structure SkeletonEventBase where
  elementName : String
  tracingData : SkeletonEventTracingData
  /-- A trace point was enabled when the event was constructed: the copy of the tracing
  data that its binding got then. -/
  isBindingTraced : Bool
  serviceOfferedFlag : Bool
  /-- The log for traced samples is registered in the control section. -/
  isTracingLogRegistered : Bool
deriving DecidableEq

structure SkeletonFieldBase where
  skeletonEventDispatch : SkeletonEventBase
  wasPrepareOfferCalled : Bool
  isInitialValueSaved : Bool
deriving DecidableEq

/-- What a call of `Send` meets: whether there is a free slot, the sample that it writes
there, and the pointer that keeps it, if it could be referenced. -/
structure SendSurroundings (Sample : Type) where
  isAllocated : Bool
  chunk : ShmDataChunk
  sample : Option Sample

/-- What an element meets while it is offered. -/
structure ElementSurroundings (Sample : Type) where
  /-- `PrepareOffer` of the event's binding. -/
  isBindingPrepared : Bool
  /-- The log of a previous process could be rolled back. -/
  isRolledBack : Bool
  /-- The `Send` of the initial value. -/
  deferredUpdate : SendSurroundings Sample

namespace SkeletonEventBase

/-- `Skeleton::Register`, as far as the log is concerned. -/
def register (isReopened isRolledBack : Bool) (event : SkeletonEventBase) :
    TracingProgram Sample SkeletonEventBase :=
  if isReopened && !isRolledBack then do
    disableTracing
    pure event
  else
    pure { event with isTracingLogRegistered := event.isBindingTraced }

def prepareOffer (isReopened : Bool) (around : ElementSurroundings Sample)
    (event : SkeletonEventBase) :
    TracingProgram Sample (Except ComErrc Unit × SkeletonEventBase) :=
  if around.isBindingPrepared then do
    let event ← event.register isReopened around.isRolledBack
    pure (.ok (), { event with serviceOfferedFlag := true })
  else
    pure (.error .bindingFailure, event)

def prepareStopOffer (event : SkeletonEventBase) : SkeletonEventBase :=
  if event.serviceOfferedFlag then
    { event with isTracingLogRegistered := false, serviceOfferedFlag := false }
  else
    event

/-- A sample that was sent is traced if the trace point is enabled. -/
def traceSent (tracePoint : SendTracePoint) (around : SendSurroundings Sample)
    (event : SkeletonEventBase) : TracingProgram Sample SkeletonEventBase :=
  if event.tracingData.isEnabled tracePoint then
    match event.tracingData.tracePointType tracePoint with
    | none => abort .noServiceElementType
    | some tracePointType => do
        let tracingData ← Tracing.traceSent event.tracingData tracePoint tracePointType
          around.chunk around.sample
        pure { event with tracingData := tracingData }
  else
    pure event

/-- `Send` with a copy. -/
def send (around : SendSurroundings Sample) (event : SkeletonEventBase) :
    TracingProgram Sample (Except ComErrc Unit × SkeletonEventBase) :=
  if event.serviceOfferedFlag then
    if around.isAllocated then do
      let event ← event.traceSent .send around
      pure (.ok (), event)
    else
      pure (.error .bindingFailure, event)
  else
    pure (.error .notOffered, event)

/-- `Send` of a sample that the user allocated before. -/
def sendAllocated (around : SendSurroundings Sample) (event : SkeletonEventBase) :
    TracingProgram Sample (Except ComErrc Unit × SkeletonEventBase) := do
  let event ← event.traceSent .sendWithAllocate around
  pure (.ok (), event)

end SkeletonEventBase

namespace SkeletonFieldBase

/-- The initial value is deleted once it was sent. -/
def doDeferredUpdate (around : SendSurroundings Sample) (field : SkeletonFieldBase) :
    TracingProgram Sample (Except ComErrc Unit × SkeletonFieldBase) := do
  let (updateResult, event) ← field.skeletonEventDispatch.send around
  match updateResult with
  | .error error => pure (.error error, { field with skeletonEventDispatch := event })
  | .ok () => pure (.ok (),
      { field with skeletonEventDispatch := event, isInitialValueSaved := false })

def prepareOffer (isReopened : Bool) (around : ElementSurroundings Sample)
    (field : SkeletonFieldBase) :
    TracingProgram Sample (Except ComErrc Unit × SkeletonFieldBase) :=
  if field.wasPrepareOfferCalled then do
    let (result, event) ← field.skeletonEventDispatch.prepareOffer isReopened around
    pure (result, { field with skeletonEventDispatch := event })
  else if field.isInitialValueSaved then do
    let (prepareOfferResult, event) ←
      field.skeletonEventDispatch.prepareOffer isReopened around
    let field := { field with skeletonEventDispatch := event }
    match prepareOfferResult with
    | .error error => pure (.error error, field)
    | .ok () => do
        let (updateFieldResult, field) ← field.doDeferredUpdate around.deferredUpdate
        match updateFieldResult with
        | .error error => pure (.error error, field)
        | .ok () => pure (.ok (), { field with wasPrepareOfferCalled := true })
  else
    pure (.error .fieldValueIsNotValid, field)

/-- `Update` with a copy; before the first offer the value is saved for it. -/
def update (around : SendSurroundings Sample) (field : SkeletonFieldBase) :
    TracingProgram Sample (Except ComErrc Unit × SkeletonFieldBase) :=
  if field.wasPrepareOfferCalled then do
    let (result, event) ← field.skeletonEventDispatch.send around
    pure (result, { field with skeletonEventDispatch := event })
  else
    pure (.ok (), { field with isInitialValueSaved := true })

/-- `Update` with a sample that the user allocated before. -/
def updateAllocated (around : SendSurroundings Sample) (field : SkeletonFieldBase) :
    TracingProgram Sample (Except ComErrc Unit × SkeletonFieldBase) := do
  let (result, event) ← field.skeletonEventDispatch.sendAllocated around
  pure (result, { field with skeletonEventDispatch := event })

def prepareStopOffer (field : SkeletonFieldBase) : SkeletonFieldBase :=
  { field with skeletonEventDispatch := field.skeletonEventDispatch.prepareStopOffer }

end SkeletonFieldBase

/-! ## Skeletons -/

structure SkeletonBase where
  serviceInstance : ServiceInstance
  events : List SkeletonEventBase
  fields : List SkeletonFieldBase
  serviceOfferedFlag : Bool
deriving DecidableEq

/-- Where the binding gets the shared memory of a service instance from. -/
inductive SharedMemoryOutcome where
  | unavailable
  /-- New memory; with a callback it may lie where it can be traced. -/
  | created (typedMemory : Option (FileDescriptor × Address))
  /-- Memory that proxies still use. -/
  | reopened (typedMemory : Option (FileDescriptor × Address))
deriving DecidableEq

def SharedMemoryOutcome.isReopened : SharedMemoryOutcome → Bool
  | .reopened _ => true
  | _ => false

/-- What a call of `OfferService` meets. -/
structure OfferSurroundings (Sample : Type) where
  sharedMemory : SharedMemoryOutcome
  event : String → ElementSurroundings Sample
  field : String → ElementSurroundings Sample
  isOfferFinalized : Bool
  isServiceDiscovered : Bool

namespace SkeletonBase

/-- An event or field has an enabled trace point. -/
def isTracingEnabledForInstance (skeleton : SkeletonBase) : Bool :=
  skeleton.events.any (fun event => event.tracingData.isTracingEnabled) ||
    skeleton.fields.any (fun field => field.skeletonEventDispatch.tracingData.isTracingEnabled)

/-- `PrepareOffer` of the binding: `false` if there is no shared memory. -/
def prepareOfferBinding (sharedMemory : SharedMemoryOutcome) (skeleton : SkeletonBase) :
    TracingProgram Sample Bool :=
  match sharedMemory with
  | .unavailable => pure false
  | .created typedMemory =>
      match typedMemory with
      | none => pure true
      | some (shmObjectFd, startAddress) =>
          if skeleton.isTracingEnabledForInstance then do
            registerShmObject skeleton.serviceInstance.shmIdentifier shmObjectFd startAddress
            pure true
          else
            pure true
  | .reopened typedMemory =>
      match typedMemory with
      | none => pure true
      | some (shmObjectFd, startAddress) =>
          if skeleton.isTracingEnabledForInstance then do
            registerShmObject skeleton.serviceInstance.shmIdentifier shmObjectFd startAddress
            pure true
          else
            abort .noRegisterShmObjectCallback

def offerServiceEvents (isReopened : Bool) (around : String → ElementSurroundings Sample) :
    List SkeletonEventBase → TracingProgram Sample (Except ComErrc Unit × List SkeletonEventBase)
  | [] => pure (.ok (), [])
  | event :: rest => do
      let (offerResult, event) ← event.prepareOffer isReopened (around event.elementName)
      match offerResult with
      | .error _ => pure (.error .bindingFailure, event :: rest)
      | .ok () => do
          let (result, rest) ← offerServiceEvents isReopened around rest
          pure (result, event :: rest)

def offerServiceFields (isReopened : Bool) (around : String → ElementSurroundings Sample) :
    List SkeletonFieldBase → TracingProgram Sample (Except ComErrc Unit × List SkeletonFieldBase)
  | [] => pure (.ok (), [])
  | field :: rest => do
      let (offerResult, field) ← field.prepareOffer isReopened
        (around field.skeletonEventDispatch.elementName)
      match offerResult with
      | .error .fieldValueIsNotValid => pure (.error .fieldValueIsNotValid, field :: rest)
      | .error _ => pure (.error .bindingFailure, field :: rest)
      | .ok () => do
          let (result, rest) ← offerServiceFields isReopened around rest
          pure (result, field :: rest)

def offerService (around : OfferSurroundings Sample) (skeleton : SkeletonBase) :
    TracingProgram Sample (Except ComErrc Unit × SkeletonBase) := do
  let isPrepared ← skeleton.prepareOfferBinding around.sharedMemory
  if isPrepared then do
    let (eventsResult, events) ←
      offerServiceEvents around.sharedMemory.isReopened around.event skeleton.events
    let skeleton := { skeleton with events := events }
    match eventsResult with
    | .error error => pure (.error error, skeleton)
    | .ok () => do
        let (fieldsResult, fields) ←
          offerServiceFields around.sharedMemory.isReopened around.field skeleton.fields
        let skeleton := { skeleton with fields := fields }
        match fieldsResult with
        | .error error => pure (.error error, skeleton)
        | .ok () =>
            let skeleton := { skeleton with serviceOfferedFlag := true }
            if around.isOfferFinalized && around.isServiceDiscovered then
              pure (.ok (), skeleton)
            else
              pure (.error .bindingFailure, skeleton)
  else
    pure (.error .bindingFailure, skeleton)

/-- Events and fields are withdrawn. -/
def prepareStopOffers (skeleton : SkeletonBase) : SkeletonBase :=
  { skeleton with
    events := skeleton.events.map SkeletonEventBase.prepareStopOffer
    fields := skeleton.fields.map SkeletonFieldBase.prepareStopOffer }

/-- `PrepareStopOffer` of the binding. -/
def prepareStopOfferBinding (skeleton : SkeletonBase) : TracingProgram Sample Unit :=
  if skeleton.isTracingEnabledForInstance then
    unregisterShmObject skeleton.serviceInstance.shmIdentifier
  else
    pure ()

def stopOfferService (skeleton : SkeletonBase) : TracingProgram Sample SkeletonBase :=
  if skeleton.serviceOfferedFlag then do
    let skeleton := skeleton.prepareStopOffers
    skeleton.prepareStopOfferBinding
    pure { skeleton with serviceOfferedFlag := false }
  else
    pure skeleton

/-- The destructor: events and fields are destroyed first. -/
def cleanup (skeleton : SkeletonBase) : TracingProgram Sample Unit :=
  if skeleton.serviceOfferedFlag then
    skeleton.prepareStopOffers.prepareStopOfferBinding
  else
    pure ()

end SkeletonBase

end MwCom.Tracing
