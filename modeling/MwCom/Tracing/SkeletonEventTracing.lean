/-
Module: MwCom.Tracing.SkeletonEventTracing
Purpose: What an event or field of a skeleton keeps for tracing, and how a sample that
  it sends is traced.
Trusted boundary: none
Main exports: SkeletonEventTracingData, generateSkeletonTracingStructFromEventConfig,
  generateSkeletonTracingStructFromFieldConfig, updateTracingDataFromTraceResult,
  traceShmData
-/
import MwCom.Tracing.TracingFilterConfig

namespace MwCom.Tracing

open Interleaving
open Program (perform)

variable {Sample : Type}

structure SkeletonEventTracingData where
  serviceElementInstanceIdentifierView : ServiceElementInstanceIdentifierView
  traceContextId : TraceContextId
  enableSend : Bool
  enableSendWithAllocate : Bool
deriving DecidableEq

namespace SkeletonEventTracingData

def disableAllTracePoints (tracingData : SkeletonEventTracingData) : SkeletonEventTracingData :=
  { tracingData with enableSend := false, enableSendWithAllocate := false }

/-- A trace point that needs a callback is enabled. -/
def isTracingEnabled (tracingData : SkeletonEventTracingData) : Bool :=
  tracingData.enableSend || tracingData.enableSendWithAllocate

end SkeletonEventTracingData

/-! ## Set-up -/

/-- A service element with an enabled trace point is registered. -/
def generateSkeletonTracingStruct (maxTraceContextId : Nat)
    (identifier : ServiceElementInstanceIdentifierView)
    (enableSend enableSendWithAllocate : Bool) :
    TracingProgram Sample SkeletonEventTracingData :=
  if enableSend || enableSendWithAllocate then do
    let traceContextId ← LolaTracingRuntime.registerServiceElement maxTraceContextId
    pure ⟨identifier, traceContextId, enableSend, enableSendWithAllocate⟩
  else
    pure ⟨identifier, 0, enableSend, enableSendWithAllocate⟩

section Generate

variable (config : TracingFilterConfig) (maxTraceContextId : Nat)
  (serviceType : String) (instanceSpecifier : InstanceSpecifierView)

def generateSkeletonTracingStructFromEventConfig (eventName : String) :
    TracingProgram Sample SkeletonEventTracingData :=
  generateSkeletonTracingStruct maxTraceContextId
    ⟨⟨serviceType, eventName, .event⟩, instanceSpecifier⟩
    (config.isSkeletonEventTracePointEnabled serviceType eventName instanceSpecifier .send)
    (config.isSkeletonEventTracePointEnabled serviceType eventName instanceSpecifier
      .sendWithAllocate)

def generateSkeletonTracingStructFromFieldConfig (fieldName : String) :
    TracingProgram Sample SkeletonEventTracingData :=
  generateSkeletonTracingStruct maxTraceContextId
    ⟨⟨serviceType, fieldName, .field⟩, instanceSpecifier⟩
    (config.isSkeletonFieldTracePointEnabled serviceType fieldName instanceSpecifier .update)
    (config.isSkeletonFieldTracePointEnabled serviceType fieldName instanceSpecifier
      .updateWithAllocate)

end Generate

/-! ## Sending -/

/-- The trace point of a call of `Send`. -/
inductive SendTracePoint where
  | send
  | sendWithAllocate
deriving DecidableEq

namespace SkeletonEventTracingData

variable (tracingData : SkeletonEventTracingData) (tracePoint : SendTracePoint)

def isEnabled : Bool :=
  match tracePoint with
  | .send => tracingData.enableSend
  | .sendWithAllocate => tracingData.enableSendWithAllocate

def disable : SkeletonEventTracingData :=
  match tracePoint with
  | .send => { tracingData with enableSend := false }
  | .sendWithAllocate => { tracingData with enableSendWithAllocate := false }

/-- `none`: neither an event nor a field, which is asserted. -/
def tracePointType : Option TracePointType :=
  match
    tracingData.serviceElementInstanceIdentifierView.serviceElementIdentifierView.serviceElementType
    with
  | .event =>
      match tracePoint with
      | .send => some .skeletonEventSend
      | .sendWithAllocate => some .skeletonEventSendWithAllocate
  | .field =>
      match tracePoint with
      | .send => some .skeletonFieldUpdate
      | .sendWithAllocate => some .skeletonFieldUpdateWithAllocate
  | _ => none

def updateTracingDataFromTraceResult (traceResult : Except TraceErrorCode Unit) :
    SkeletonEventTracingData :=
  match traceResult with
  | .ok () => tracingData
  | .error .disableTracePointInstance => tracingData.disable tracePoint
  | .error .disableAllTracePoints => tracingData.disableAllTracePoints

end SkeletonEventTracingData

/-- The data of a sample, as far as it is traced. -/
structure ShmDataChunk where
  tracePointDataId : BitVec 32
  shmDataPtr : Address
  shmDataSize : Nat
deriving DecidableEq

/-- `TraceShmData`; without a sample pointer data is lost. -/
def traceShmData (tracingData : SkeletonEventTracingData) (tracePointType : TracePointType)
    (chunk : ShmDataChunk) (sample : Option Sample) :
    TracingProgram Sample (Except TraceErrorCode Unit) :=
  match sample with
  | none => do
      setDataLossFlag
      pure (.ok ())
  | some sample =>
      trace
        { traceContextId := tracingData.traceContextId
          serviceElement := tracingData.serviceElementInstanceIdentifierView
          tracePointType := tracePointType
          tracePointDataId := chunk.tracePointDataId
          shmDataPtr := chunk.shmDataPtr
          shmDataSize := chunk.shmDataSize }
        sample

/-- `TraceSend` after the sample was referenced, if it could be. -/
def traceSend (tracingData : SkeletonEventTracingData) (tracePointType : TracePointType)
    (chunk : ShmDataChunk) (sample : Option Sample) :
    TracingProgram Sample SkeletonEventTracingData := do
  let traceResult ← traceShmData tracingData tracePointType chunk sample
  pure (tracingData.updateTracingDataFromTraceResult .send traceResult)

/-- `TraceSendWithAllocate` after the sample was referenced, if it could be. -/
def traceSendWithAllocate (tracingData : SkeletonEventTracingData)
    (tracePointType : TracePointType) (chunk : ShmDataChunk) (sample : Option Sample) :
    TracingProgram Sample SkeletonEventTracingData :=
  match sample with
  -- nothing is recorded of the sample
  | none => pure tracingData
  | some sample => do
      let traceResult ← traceShmData tracingData tracePointType chunk (some sample)
      pure (tracingData.updateTracingDataFromTraceResult .sendWithAllocate traceResult)

/-- Either of both. -/
def traceSent (tracingData : SkeletonEventTracingData) (tracePoint : SendTracePoint)
    (tracePointType : TracePointType) (chunk : ShmDataChunk) (sample : Option Sample) :
    TracingProgram Sample SkeletonEventTracingData :=
  match tracePoint with
  | .send => traceSend tracingData tracePointType chunk sample
  | .sendWithAllocate => traceSendWithAllocate tracingData tracePointType chunk sample

end MwCom.Tracing
