/-
Module: MwCom.Tracing.TracingRuntime
Purpose: The tracing runtime of a process: which shared memory objects are
  registered for tracing, which traces are pending, and how data is handed to the
  trace library.
Trusted boundary: `GenericTraceAPI`, whose next answers are part of the state and may
  change at any time; handles, file descriptors and addresses are numbers.
Main exports: TracingRuntime, TracingOp, TracingOp.outcomes, registerServiceElement,
  registerShmObject, unregisterShmObject, trace, traceLocal, traceDone
-/
import Mathlib.Logic.Function.Basic
import MwCom.Interleaving.Program

namespace MwCom.Tracing

open Interleaving

/-! ## Identifiers -/

inductive ServiceElementType where
  | invalid
  | event
  | field
  | method
deriving DecidableEq

structure ServiceElementIdentifierView where
  serviceTypeName : String
  serviceElementName : String
  serviceElementType : ServiceElementType
deriving DecidableEq

structure ServiceElementInstanceIdentifierView where
  serviceElementIdentifierView : ServiceElementIdentifierView
  instanceSpecifier : String
deriving DecidableEq

def dummyElementNameForShmRegisterCallback : String := "DUMMY_ELEMENT_NAME"

def dummyElementTypeForShmRegisterCallback : ServiceElementType := .event

/-- The identifier under which the binding keeps the shared memory object of a whole
service instance. -/
def convertServiceElementInstanceIdentifierViewForLoLaShmIdentification
    (identifier : ServiceElementInstanceIdentifierView) :
    ServiceElementInstanceIdentifierView :=
  { identifier with
    serviceElementIdentifierView :=
      { identifier.serviceElementIdentifierView with
        serviceElementName := dummyElementNameForShmRegisterCallback
        serviceElementType := dummyElementTypeForShmRegisterCallback } }

/-! ## The trace library -/

abbrev ShmObjectHandle := Nat

abbrev FileDescriptor := Nat

abbrev Address := Nat

abbrev TraceContextId := Nat

inductive ErrorCode where
  | noErrorRecoverable
  | notEnoughMemoryRecoverable
  | moduleNotInitializedRecoverable
  | moduleInitializedRecoverable
  | ringBufferFullRecoverable
  | ringBufferEmptyRecoverable
  | ringBufferNotInitializedRecoverable
  | ringBufferInitializedRecoverable
  | ringBufferMaxRetriesRecoverable
  | ringBufferInvalidStateRecoverable
  | ringBufferTooLargeRecoverable
  | ringBufferInvalidMemoryResourceRecoverable
  | callbackAlreadyRegisteredRecoverable
  | messageSendFailedRecoverable
  | wrongMessageIdRecoverable
  | wrongClientIdRecoverable
  | dispatchDestroyFailedRecoverable
  | wrongHandleRecoverable
  | lastRecoverable
  | clientNotFoundRecoverable
  | genericErrorRecoverable
  | daemonNotConnectedFatal
  | invalidArgumentFatal
  | daemonConnectionFailedFatal
  | serverConnectionNameOpenFailedFatal
  | noDeallocatorCallbackRegisteredFatal
  | sharedMemoryObjectRegistrationFailedFatal
  | sharedMemoryObjectUnregisterFailedFatal
  | sharedMemoryObjectHandleCreationFailedFatal
  | sharedMemoryObjectHandleDeletionFailedFatal
  | badFileDescriptorFatal
  | channelCreationFailedFatal
  | nameAttachFailedFatal
  | nameDetachFailedFatal
  | invalidAppInstanceIdFatal
  | invalidBindingTypeFatal
  | terminalFatal
  /-- A code that the runtime does not know. -/
  | unexpected (code : Nat)
deriving DecidableEq

inductive TracePointType where
  | skeletonEventSend
  | skeletonEventSendWithAllocate
  | skeletonFieldUpdate
  | skeletonFieldUpdateWithAllocate
  /-- A trace point whose data is copied. -/
  | proxy
deriving DecidableEq

structure AraComMetaInfo where
  tracePointType : TracePointType
  serviceElement : ServiceElementInstanceIdentifierView
  tracePointDataId : Option (BitVec 32)
  dataLossBit : Bool
deriving DecidableEq

/-- Where the data lies that is traced. -/
structure SharedMemoryChunk where
  shmObjectHandle : ShmObjectHandle
  offset : Int
  size : Nat
deriving DecidableEq

/-- A call of the trace library. -/
inductive GenericTraceCall where
  | registerShmObject (fileDescriptor : FileDescriptor)
  | unregisterShmObject (handle : ShmObjectHandle)
  | trace (metaInfo : AraComMetaInfo) (chunk : SharedMemoryChunk) (contextId : TraceContextId)
  | traceLocal (metaInfo : AraComMetaInfo)
deriving DecidableEq

/-- What the trace library answers next. -/
structure GenericTraceAnswers where
  registerShmObject : Except ErrorCode ShmObjectHandle
  unregisterShmObject : Except ErrorCode Unit
  trace : Except ErrorCode Unit

/-! ## State -/

/-- The runtime with its binding, the answers of the trace library and the calls that
it got. -/
structure TracingRuntime (Sample : Type) where
  isTracingEnabled : Bool
  consecutiveFailureCounter : BitVec 32
  dataLossFlag : Bool
  /-- The size of `type_erased_sample_ptrs_`. -/
  capacity : Nat
  currentServiceElementIdx : Nat
  typeErasedSamplePtrs : TraceContextId → Option Sample
  locked : TraceContextId → Bool
  shmObjectHandleMap : ServiceElementInstanceIdentifierView → Option (ShmObjectHandle × Address)
  failedShmObjectRegistrationCache :
    ServiceElementInstanceIdentifierView → Option (FileDescriptor × Address)
  answers : GenericTraceAnswers
  calls : List GenericTraceCall

namespace TracingRuntime

variable {Sample : Type}

/-- A new runtime for a number of traced service elements. -/
def new (numberOfServiceElementsWithTraceDoneCallback : Nat) (answers : GenericTraceAnswers) :
    TracingRuntime Sample where
  isTracingEnabled := true
  consecutiveFailureCounter := 0
  dataLossFlag := false
  capacity := numberOfServiceElementsWithTraceDoneCallback
  currentServiceElementIdx := 0
  typeErasedSamplePtrs _ := none
  locked _ := false
  shmObjectHandleMap _ := none
  failedShmObjectRegistrationCache _ := none
  answers := answers
  calls := []

end TracingRuntime

/-! ## Operations -/

/-- Why the process ends. -/
inductive Abort where
  | unexpectedErrorCode
  | maximumNumberOfServiceElements
  | notIndexableByTraceContextId
  | unexpectedServiceElementType
  | unexpectedServiceElementName
  | couldNotInsertShmObjectHandle
  | couldNotInsertFileDescriptor
  | noShmRegionStartAddress
  | contextIdOutOfRange
  | contextIdNeverRegistered
  | samplePtrAlreadySet
  /-- The callback is asked for that registers a shared memory object, but there is none. -/
  | noRegisterShmObjectCallback
  | noServiceElementType
deriving DecidableEq

/-- The indivisible operations of the runtime. -/
inductive TracingOp (Sample : Type) where
  | isTracingEnabled
  | disableTracing
  | resetFailureCounter
  | incrementFailureCounter
  | failureCounter
  | setDataLossFlag (newValue : Bool)
  | getDataLossFlag
  | capacity
  | currentServiceElementIdx
  | setCurrentServiceElementIdx (idx : Nat)
  | lock (contextId : TraceContextId)
  | unlock (contextId : TraceContextId)
  | hasSample (contextId : TraceContextId)
  | setSample (contextId : TraceContextId) (sample : Sample)
  | resetSample (contextId : TraceContextId)
  /-- The destructor of a sample pointer. -/
  | destroy (sample : Sample)
  | findShmObject (identifier : ServiceElementInstanceIdentifierView)
  | insertShmObject (identifier : ServiceElementInstanceIdentifierView)
      (handle : ShmObjectHandle) (startAddress : Address)
  | eraseShmObject (identifier : ServiceElementInstanceIdentifierView)
  | findFileDescriptor (identifier : ServiceElementInstanceIdentifierView)
  | insertFileDescriptor (identifier : ServiceElementInstanceIdentifierView)
      (fileDescriptor : FileDescriptor) (startAddress : Address)
  | eraseFileDescriptor (identifier : ServiceElementInstanceIdentifierView)
  | registerWithApi (fileDescriptor : FileDescriptor)
  | unregisterWithApi (handle : ShmObjectHandle)
  | traceWithApi (metaInfo : AraComMetaInfo) (chunk : SharedMemoryChunk)
      (contextId : TraceContextId)
  | traceLocalWithApi (metaInfo : AraComMetaInfo)
  | abort (reason : Abort)

namespace TracingOp

variable {Sample : Type}

abbrev Ret : TracingOp Sample → Type
  | .isTracingEnabled => Bool
  | .disableTracing => Unit
  | .resetFailureCounter => Unit
  | .incrementFailureCounter => Unit
  | .failureCounter => BitVec 32
  | .setDataLossFlag _ => Unit
  | .getDataLossFlag => Bool
  | .capacity => Nat
  | .currentServiceElementIdx => Nat
  | .setCurrentServiceElementIdx _ => Unit
  | .lock _ => Unit
  | .unlock _ => Unit
  | .hasSample _ => Bool
  | .setSample _ _ => Unit
  | .resetSample _ => Option Sample
  | .destroy _ => Unit
  | .findShmObject _ => Option (ShmObjectHandle × Address)
  | .insertShmObject _ _ _ => Bool
  | .eraseShmObject _ => Unit
  | .findFileDescriptor _ => Option (FileDescriptor × Address)
  | .insertFileDescriptor _ _ _ => Bool
  | .eraseFileDescriptor _ => Unit
  | .registerWithApi _ => Except ErrorCode ShmObjectHandle
  | .unregisterWithApi _ => Except ErrorCode Unit
  | .traceWithApi _ _ _ => Except ErrorCode Unit
  | .traceLocalWithApi _ => Except ErrorCode Unit
  | .abort _ => Empty

/-- A map keeps the entry that it has. -/
def inserted {Key Value : Type} [DecidableEq Key] (map : Key → Option Value) (key : Key)
    (value : Value) : Bool × (Key → Option Value) :=
  match map key with
  | some _ => (false, map)
  | none => (true, Function.update map key (some value))

/-- A mutex that is locked is waited for. -/
def outcomes : (op : TracingOp Sample) → TracingRuntime Sample →
      List (op.Ret × TracingRuntime Sample)
  | .isTracingEnabled, runtime => [(runtime.isTracingEnabled, runtime)]
  | .disableTracing, runtime => [((), { runtime with isTracingEnabled := false })]
  | .resetFailureCounter, runtime => [((), { runtime with consecutiveFailureCounter := 0 })]
  | .incrementFailureCounter, runtime =>
      [((), { runtime with
        consecutiveFailureCounter := runtime.consecutiveFailureCounter + 1 })]
  | .failureCounter, runtime => [(runtime.consecutiveFailureCounter, runtime)]
  | .setDataLossFlag newValue, runtime => [((), { runtime with dataLossFlag := newValue })]
  | .getDataLossFlag, runtime => [(runtime.dataLossFlag, runtime)]
  | .capacity, runtime => [(runtime.capacity, runtime)]
  | .currentServiceElementIdx, runtime => [(runtime.currentServiceElementIdx, runtime)]
  | .setCurrentServiceElementIdx idx, runtime =>
      [((), { runtime with currentServiceElementIdx := idx })]
  | .lock contextId, runtime =>
      if runtime.locked contextId then []
      else [((), { runtime with locked := Function.update runtime.locked contextId true })]
  | .unlock contextId, runtime =>
      [((), { runtime with locked := Function.update runtime.locked contextId false })]
  | .hasSample contextId, runtime =>
      [((runtime.typeErasedSamplePtrs contextId).isSome, runtime)]
  | .setSample contextId sample, runtime =>
      [((), { runtime with
        typeErasedSamplePtrs :=
          Function.update runtime.typeErasedSamplePtrs contextId (some sample) })]
  | .resetSample contextId, runtime =>
      [(runtime.typeErasedSamplePtrs contextId, { runtime with
        typeErasedSamplePtrs := Function.update runtime.typeErasedSamplePtrs contextId none })]
  | .destroy _, runtime => [((), runtime)]
  | .findShmObject identifier, runtime => [(runtime.shmObjectHandleMap identifier, runtime)]
  | .insertShmObject identifier handle startAddress, runtime =>
      let (isNew, map) := inserted runtime.shmObjectHandleMap identifier (handle, startAddress)
      [(isNew, { runtime with shmObjectHandleMap := map })]
  | .eraseShmObject identifier, runtime =>
      [((), { runtime with
        shmObjectHandleMap := Function.update runtime.shmObjectHandleMap identifier none })]
  | .findFileDescriptor identifier, runtime =>
      [(runtime.failedShmObjectRegistrationCache identifier, runtime)]
  | .insertFileDescriptor identifier fileDescriptor startAddress, runtime =>
      let (isNew, map) := inserted runtime.failedShmObjectRegistrationCache identifier
        (fileDescriptor, startAddress)
      [(isNew, { runtime with failedShmObjectRegistrationCache := map })]
  | .eraseFileDescriptor identifier, runtime =>
      [((), { runtime with
        failedShmObjectRegistrationCache :=
          Function.update runtime.failedShmObjectRegistrationCache identifier none })]
  | .registerWithApi fileDescriptor, runtime =>
      [(runtime.answers.registerShmObject, { runtime with
        calls := runtime.calls ++ [.registerShmObject fileDescriptor] })]
  | .unregisterWithApi handle, runtime =>
      [(runtime.answers.unregisterShmObject, { runtime with
        calls := runtime.calls ++ [.unregisterShmObject handle] })]
  | .traceWithApi metaInfo chunk contextId, runtime =>
      [(runtime.answers.trace, { runtime with
        calls := runtime.calls ++ [.trace metaInfo chunk contextId] })]
  | .traceLocalWithApi metaInfo, runtime =>
      [(runtime.answers.trace, { runtime with
        calls := runtime.calls ++ [.traceLocal metaInfo] })]
  | .abort _, _ => []

end TracingOp

abbrev TracingProgram (Sample : Type) (α : Type) := Program (TracingOp Sample) TracingOp.Ret α

open Program (perform)

variable {Sample : Type}

/-- `std::terminate`, or an assertion that fails. -/
def abort {α : Type} (reason : Abort) : TracingProgram Sample α := .step (.abort reason) nofun

/-! ## The binding -/

namespace LolaTracingRuntime

/-- Context ids are handed out one after the other. -/
def registerServiceElement (maxTraceContextId : Nat) : TracingProgram Sample TraceContextId := do
  let currentServiceElementIdx ← perform TracingOp.currentServiceElementIdx
  let capacity ← perform TracingOp.capacity
  if currentServiceElementIdx ≥ capacity then
    abort .maximumNumberOfServiceElements
  else if currentServiceElementIdx ≥ maxTraceContextId then
    abort .notIndexableByTraceContextId
  else do
    perform (TracingOp.setCurrentServiceElementIdx (currentServiceElementIdx + 1))
    pure currentServiceElementIdx

def registerShmObject (identifier : ServiceElementInstanceIdentifierView)
    (handle : ShmObjectHandle) (startAddress : Address) : TracingProgram Sample Unit := do
  if identifier.serviceElementIdentifierView.serviceElementType ≠
      dummyElementTypeForShmRegisterCallback then
    abort .unexpectedServiceElementType
  else if identifier.serviceElementIdentifierView.serviceElementName ≠
      dummyElementNameForShmRegisterCallback then
    abort .unexpectedServiceElementName
  else do
    let isNew ← perform (TracingOp.insertShmObject identifier handle startAddress)
    if isNew then pure () else abort .couldNotInsertShmObjectHandle

def unregisterShmObject (identifier : ServiceElementInstanceIdentifierView) :
    TracingProgram Sample Unit :=
  perform (TracingOp.eraseShmObject identifier)

def cacheFileDescriptorForReregisteringShmObject
    (identifier : ServiceElementInstanceIdentifierView) (fileDescriptor : FileDescriptor)
    (startAddress : Address) : TracingProgram Sample Unit := do
  let isNew ← perform (TracingOp.insertFileDescriptor identifier fileDescriptor startAddress)
  if isNew then pure () else abort .couldNotInsertFileDescriptor

def getCachedFileDescriptorForReregisteringShmObject
    (identifier : ServiceElementInstanceIdentifierView) :
    TracingProgram Sample (Option (FileDescriptor × Address)) :=
  perform (TracingOp.findFileDescriptor identifier)

def clearCachedFileDescriptorForReregisteringShmObject
    (identifier : ServiceElementInstanceIdentifierView) : TracingProgram Sample Unit :=
  perform (TracingOp.eraseFileDescriptor identifier)

def getShmObjectHandle (identifier : ServiceElementInstanceIdentifierView) :
    TracingProgram Sample (Option ShmObjectHandle) := do
  let found ← perform (TracingOp.findShmObject
    (convertServiceElementInstanceIdentifierViewForLoLaShmIdentification identifier))
  pure (found.map Prod.fst)

def getShmRegionStartAddress (identifier : ServiceElementInstanceIdentifierView) :
    TracingProgram Sample (Option Address) := do
  let found ← perform (TracingOp.findShmObject
    (convertServiceElementInstanceIdentifierViewForLoLaShmIdentification identifier))
  pure (found.map Prod.snd)

/-- An element of `type_erased_sample_ptrs_`, with its mutex. -/
def withElement {α : Type} (contextId : TraceContextId) (access : TracingProgram Sample α) :
    TracingProgram Sample α := do
  let capacity ← perform TracingOp.capacity
  if contextId < capacity then do
    perform (TracingOp.lock contextId)
    let result ← access
    perform (TracingOp.unlock contextId)
    pure result
  else
    abort .contextIdOutOfRange

def isServiceElementTracingActive (contextId : TraceContextId) : TracingProgram Sample Bool :=
  withElement contextId (perform (TracingOp.hasSample contextId))

def setTypeErasedSamplePtr (sample : Sample) (contextId : TraceContextId) :
    TracingProgram Sample Unit := do
  let currentServiceElementIdx ← perform TracingOp.currentServiceElementIdx
  if contextId ≥ currentServiceElementIdx then
    abort .contextIdNeverRegistered
  else
    withElement contextId do
      let isSet ← perform (TracingOp.hasSample contextId)
      if isSet then abort .samplePtrAlreadySet
      else perform (TracingOp.setSample contextId sample)

/-- The sample pointer is destroyed while the mutex is held. -/
def clearTypeErasedSamplePtr (contextId : TraceContextId) : TracingProgram Sample Unit :=
  withElement contextId do
    let sample ← perform (TracingOp.resetSample contextId)
    match sample with
    | some sample => perform (TracingOp.destroy sample)
    | none => pure ()

/-- The callback that was registered for traces that are done. -/
def traceDone (contextId : TraceContextId) : TracingProgram Sample Unit := do
  let isActive ← isServiceElementTracingActive contextId
  if isActive then clearTypeErasedSamplePtr contextId
  -- was not pending
  else pure ()

end LolaTracingRuntime

/-! ## The runtime -/

inductive TraceErrorCode where
  | disableAllTracePoints
  | disableTracePointInstance
deriving DecidableEq

def ErrorCode.isTerminalFatal (error : ErrorCode) : Bool := error == .terminalFatal

def ErrorCode.isNonRecoverable : ErrorCode → TracingProgram Sample Bool
  | .noErrorRecoverable => pure false
  | .notEnoughMemoryRecoverable => pure false
  | .moduleNotInitializedRecoverable => pure false
  | .moduleInitializedRecoverable => pure false
  | .ringBufferFullRecoverable => pure false
  | .ringBufferEmptyRecoverable => pure false
  | .ringBufferNotInitializedRecoverable => pure false
  | .ringBufferInitializedRecoverable => pure false
  | .ringBufferMaxRetriesRecoverable => pure false
  | .ringBufferInvalidStateRecoverable => pure false
  | .ringBufferTooLargeRecoverable => pure false
  | .ringBufferInvalidMemoryResourceRecoverable => pure false
  | .callbackAlreadyRegisteredRecoverable => pure false
  | .messageSendFailedRecoverable => pure false
  | .wrongMessageIdRecoverable => pure false
  | .wrongClientIdRecoverable => pure false
  | .dispatchDestroyFailedRecoverable => pure false
  | .wrongHandleRecoverable => pure false
  | .lastRecoverable => pure false
  | .clientNotFoundRecoverable => pure false
  | .genericErrorRecoverable => pure false
  | .unexpected _ => abort .unexpectedErrorCode
  | _ => pure true

open LolaTracingRuntime

def disableTracing : TracingProgram Sample Unit := perform TracingOp.disableTracing

def setDataLossFlag : TracingProgram Sample Unit := do
  let isEnabled ← perform TracingOp.isTracingEnabled
  if isEnabled then perform (TracingOp.setDataLossFlag true) else pure ()

def registerShmObject (identifier : ServiceElementInstanceIdentifierView)
    (shmObjectFd : FileDescriptor) (startAddress : Address) : TracingProgram Sample Unit := do
  let isEnabled ← perform TracingOp.isTracingEnabled
  if isEnabled then do
    let registered ← perform (TracingOp.registerWithApi shmObjectFd)
    match registered with
    | .ok handle => LolaTracingRuntime.registerShmObject identifier handle startAddress
    | .error error => do
        let nonRecoverable ← error.isNonRecoverable
        if nonRecoverable then
          if error.isTerminalFatal then perform TracingOp.disableTracing else pure ()
        else
          cacheFileDescriptorForReregisteringShmObject identifier shmObjectFd startAddress
  else
    pure ()

def unregisterShmObject (identifier : ServiceElementInstanceIdentifierView) :
    TracingProgram Sample Unit := do
  let isEnabled ← perform TracingOp.isTracingEnabled
  if isEnabled then do
    let handle ← getShmObjectHandle identifier
    match handle with
    | none => clearCachedFileDescriptorForReregisteringShmObject identifier
    | some handle => do
        LolaTracingRuntime.unregisterShmObject identifier
        let unregistered ← perform (TracingOp.unregisterWithApi handle)
        match unregistered with
        | .ok () => pure ()
        | .error error => do
            let nonRecoverable ← error.isNonRecoverable
            if nonRecoverable && error.isTerminalFatal then perform TracingOp.disableTracing
            else pure ()
  else
    pure ()

def maxConsecutiveAcceptableTraceFailures : BitVec 32 := BitVec.allOnes 32

def processTraceCallResult : Except ErrorCode Unit →
    TracingProgram Sample (Except TraceErrorCode Unit)
  | .ok () => do
      perform (TracingOp.setDataLossFlag false)
      perform TracingOp.resetFailureCounter
      pure (.ok ())
  | .error error =>
      if error.isTerminalFatal then do
        perform TracingOp.disableTracing
        pure (.error .disableAllTracePoints)
      else do
        perform TracingOp.incrementFailureCounter
        perform (TracingOp.setDataLossFlag true)
        let failures ← perform TracingOp.failureCounter
        if failures ≥ maxConsecutiveAcceptableTraceFailures then do
          perform TracingOp.disableTracing
          pure (.error .disableAllTracePoints)
        else do
          let nonRecoverable ← error.isNonRecoverable
          if nonRecoverable then pure (.error .disableTracePointInstance) else pure (.ok ())

def createMetaInfo (serviceElement : ServiceElementInstanceIdentifierView)
    (tracePointType : TracePointType) (tracePointDataId : Option (BitVec 32)) :
    TracingProgram Sample AraComMetaInfo := do
  let dataLoss ← perform TracingOp.getDataLossFlag
  pure
    { tracePointType := tracePointType
      serviceElement := serviceElement
      tracePointDataId := tracePointDataId
      dataLossBit := dataLoss }

/-- The arguments of `Trace` for data in shared memory, without the sample pointer. -/
structure ShmTrace where
  traceContextId : TraceContextId
  serviceElement : ServiceElementInstanceIdentifierView
  tracePointType : TracePointType
  tracePointDataId : BitVec 32
  shmDataPtr : Address
  shmDataSize : Nat
deriving DecidableEq

/-- The handle of the shared memory object, which is registered once more if that failed
before; `error`: no trace, for this reason. -/
def obtainShmObjectHandle (identifier : ServiceElementInstanceIdentifierView) :
    TracingProgram Sample (Except TraceErrorCode ShmObjectHandle) := do
  let handle ← getShmObjectHandle identifier
  match handle with
  | some handle => pure (.ok handle)
  | none => do
      let cached ← getCachedFileDescriptorForReregisteringShmObject identifier
      match cached with
      | none => pure (.error .disableTracePointInstance)
      | some (shmObjectFd, startAddress) => do
          let registered ← perform (TracingOp.registerWithApi shmObjectFd)
          match registered with
          | .error error =>
              if error.isTerminalFatal then do
                perform TracingOp.disableTracing
                pure (.error .disableAllTracePoints)
              else do
                clearCachedFileDescriptorForReregisteringShmObject identifier
                pure (.error .disableTracePointInstance)
          | .ok handle => do
              LolaTracingRuntime.registerShmObject identifier handle startAddress
              pure (.ok handle)

/-- `Trace` once there is a handle. -/
def traceWithHandle (call : ShmTrace) (sample : Sample) (handle : ShmObjectHandle) :
    TracingProgram Sample (Except TraceErrorCode Unit) := do
  let regionStart ← getShmRegionStartAddress call.serviceElement
  match regionStart with
  | none => abort .noShmRegionStartAddress
  | some regionStart => do
      let metaInfo ← createMetaInfo call.serviceElement call.tracePointType
        (some call.tracePointDataId)
      setTypeErasedSamplePtr sample call.traceContextId
      let traced ← perform (TracingOp.traceWithApi metaInfo
        ⟨handle, (call.shmDataPtr : Int) - regionStart, call.shmDataSize⟩ call.traceContextId)
      match traced with
      | .ok () => processTraceCallResult (.ok ())
      | .error error => do
          clearTypeErasedSamplePtr call.traceContextId
          processTraceCallResult (.error error)

/-- `Trace` for data in shared memory; the sample pointer is destroyed where it is not
kept. -/
def trace (call : ShmTrace) (sample : Sample) :
    TracingProgram Sample (Except TraceErrorCode Unit) := do
  let isEnabled ← perform TracingOp.isTracingEnabled
  if isEnabled then do
    let isActive ← isServiceElementTracingActive call.traceContextId
    if isActive then do
      perform (TracingOp.setDataLossFlag true)
      perform (TracingOp.destroy sample)
      pure (.ok ())
    else do
      let handle ← obtainShmObjectHandle call.serviceElement
      match handle with
      | .error error => do
          perform (TracingOp.destroy sample)
          pure (.error error)
      | .ok handle => traceWithHandle call sample handle
  else do
    perform (TracingOp.destroy sample)
    pure (.error .disableAllTracePoints)

/-- `Trace` for data that is copied. -/
def traceLocal (serviceElement : ServiceElementInstanceIdentifierView)
    (tracePointDataId : Option (BitVec 32)) :
    TracingProgram Sample (Except TraceErrorCode Unit) := do
  let isEnabled ← perform TracingOp.isTracingEnabled
  if isEnabled then do
    let metaInfo ← createMetaInfo serviceElement .proxy tracePointDataId
    let traced ← perform (TracingOp.traceLocalWithApi metaInfo)
    processTraceCallResult traced
  else
    pure (.error .disableAllTracePoints)

end MwCom.Tracing
