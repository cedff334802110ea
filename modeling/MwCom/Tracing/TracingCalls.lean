/-
Module: MwCom.Tracing.TracingCalls
Purpose: Sequences of calls of the tracing runtime, and which entries of its maps each
  call may touch.
Trusted boundary: none
Main exports: ServiceInstance, TracingCall, runCalls, Footprint, Unlocked
-/
import MwCom.Tracing.TracingRuntime

namespace MwCom.Tracing

open Interleaving Function
open Program (perform)

variable {Sample : Type}

/-! ## Service instances -/

structure ServiceInstance where
  serviceTypeName : String
  instanceSpecifier : String
deriving DecidableEq

/-- The identifier under which the shared memory object of a service instance is
registered. -/
def ServiceInstance.shmIdentifier (serviceInstance : ServiceInstance) :
    ServiceElementInstanceIdentifierView where
  serviceElementIdentifierView :=
    { serviceTypeName := serviceInstance.serviceTypeName
      serviceElementName := dummyElementNameForShmRegisterCallback
      serviceElementType := dummyElementTypeForShmRegisterCallback }
  instanceSpecifier := serviceInstance.instanceSpecifier

/-- The service instance of an element. -/
def ServiceElementInstanceIdentifierView.serviceInstance
    (identifier : ServiceElementInstanceIdentifierView) : ServiceInstance :=
  ⟨identifier.serviceElementIdentifierView.serviceTypeName, identifier.instanceSpecifier⟩

@[simp] theorem ServiceInstance.serviceInstance_shmIdentifier
    (serviceInstance : ServiceInstance) :
    serviceInstance.shmIdentifier.serviceInstance = serviceInstance := rfl

theorem convert_eq (identifier : ServiceElementInstanceIdentifierView) :
    convertServiceElementInstanceIdentifierViewForLoLaShmIdentification identifier =
      identifier.serviceInstance.shmIdentifier := rfl

/-! ## Calls -/

/-- A call of the tracing runtime. -/
inductive TracingCall (Sample : Type) where
  | registerServiceElement (maxTraceContextId : Nat)
  | registerShmObject (serviceInstance : ServiceInstance) (shmObjectFd : FileDescriptor)
      (startAddress : Address)
  | unregisterShmObject (serviceInstance : ServiceInstance)
  | trace (call : ShmTrace) (sample : Sample)
  | traceLocal (serviceElement : ServiceElementInstanceIdentifierView)
      (tracePointDataId : Option (BitVec 32))
  | traceDone (contextId : TraceContextId)
  | setDataLossFlag
  | disableTracing

namespace TracingCall

/-- What the call does. -/
def program : TracingCall Sample → TracingProgram Sample (Except TraceErrorCode Unit)
  | .registerServiceElement maxTraceContextId => do
      let _ ← LolaTracingRuntime.registerServiceElement maxTraceContextId
      pure (.ok ())
  | .registerShmObject serviceInstance shmObjectFd startAddress => do
      Tracing.registerShmObject serviceInstance.shmIdentifier shmObjectFd startAddress
      pure (.ok ())
  | .unregisterShmObject serviceInstance => do
      Tracing.unregisterShmObject serviceInstance.shmIdentifier
      pure (.ok ())
  | .trace call sample => Tracing.trace call sample
  | .traceLocal serviceElement tracePointDataId =>
      Tracing.traceLocal serviceElement tracePointDataId
  | .traceDone contextId => do
      LolaTracingRuntime.traceDone contextId
      pure (.ok ())
  | .setDataLossFlag => do
      Tracing.setDataLossFlag
      pure (.ok ())
  | .disableTracing => do
      Tracing.disableTracing
      pure (.ok ())

/-- The service instance whose shared memory object it is about. -/
def serviceInstance : TracingCall Sample → Option ServiceInstance
  | .registerShmObject serviceInstance _ _ => some serviceInstance
  | .unregisterShmObject serviceInstance => some serviceInstance
  | .trace call _ => some call.serviceElement.serviceInstance
  | _ => none

end TracingCall

/-- A call with the answers that the trace library gives meanwhile. -/
structure AnsweredCall (Sample : Type) where
  answers : GenericTraceAnswers
  call : TracingCall Sample

/-- `none`: the process ends. -/
def AnsweredCall.run (answered : AnsweredCall Sample) (runtime : TracingRuntime Sample) :
    Option (Except TraceErrorCode Unit × TracingRuntime Sample) :=
  answered.call.program.runAlone TracingOp.outcomes { runtime with answers := answered.answers }

/-- One call after the other. -/
def runCalls : List (AnsweredCall Sample) → TracingRuntime Sample → Option (TracingRuntime Sample)
  | [], runtime => some runtime
  | answered :: rest, runtime =>
      (answered.run runtime).bind fun ended => runCalls rest ended.2

variable {runtime : TracingRuntime Sample}

/-- What every call of a sequence keeps, the sequence keeps. -/
theorem runCalls_keeps {Kept : TracingRuntime Sample → Prop} {calls : List (AnsweredCall Sample)}
    {after : TracingRuntime Sample} (keeps : ∀ answered ∈ calls, ∀ runtime result after,
      answered.run runtime = some (result, after) → Kept runtime → Kept after)
    (ran : runCalls calls runtime = some after) (kept : Kept runtime) : Kept after := by
  induction calls generalizing runtime with
  | nil =>
      cases ran
      exact kept
  | cons answered rest ih =>
      obtain ⟨⟨result, middle⟩, first, others⟩ := Option.bind_eq_some_iff.mp ran
      apply ih _ others
      · exact keeps answered List.mem_cons_self runtime result middle first kept
      · intro other member
        exact keeps other (List.mem_cons_of_mem _ member)

/-! ## What a call touches -/

/-- Entries that a program may insert and erase in the maps of the binding, and whether it
may call `RegisterShmObject` of the trace library and hand out context ids. -/
structure Footprint where
  registers : ServiceElementInstanceIdentifierView → Prop
  unregisters : ServiceElementInstanceIdentifierView → Prop
  caches : ServiceElementInstanceIdentifierView → Prop
  clears : ServiceElementInstanceIdentifierView → Prop
  callsRegister : Prop
  numbers : Prop

namespace Footprint

/-- Nothing is touched. -/
def nothing : Footprint where
  registers _ := False
  unregisters _ := False
  caches _ := False
  clears _ := False
  callsRegister := False
  numbers := False

def allows (footprint : Footprint) : TracingOp Sample → Prop
  | .insertShmObject identifier _ _ => footprint.registers identifier
  | .eraseShmObject identifier => footprint.unregisters identifier
  | .insertFileDescriptor identifier _ _ => footprint.caches identifier
  | .eraseFileDescriptor identifier => footprint.clears identifier
  | .registerWithApi _ => footprint.callsRegister
  | .setCurrentServiceElementIdx _ => footprint.numbers
  | .abort .couldNotInsertShmObjectHandle => ∃ identifier, footprint.registers identifier
  | .abort .couldNotInsertFileDescriptor => ∃ identifier, footprint.caches identifier
  | _ => True

end Footprint

/-! ### Mutexes -/

/-- No mutex is locked. -/
def Unlocked (runtime : TracingRuntime Sample) : Prop :=
  ∀ contextId, runtime.locked contextId = false

def TracingOp.isMutexOp : TracingOp Sample → Bool
  | .lock _ => true
  | .unlock _ => true
  | _ => false

/-- The program touches only what the footprint allows, and unlocks what it locks. -/
structure Sectioned {α : Type} (footprint : Footprint) (program : TracingProgram Sample α) :
    Prop where
  performs : program.Performs footprint.allows
  unlocks : Program.Yields TracingOp.outcomes Unlocked program fun _ => Unlocked

namespace Sectioned

variable {α β : Type} {footprint : Footprint}

theorem done (result : α) : Sectioned footprint (.done result : TracingProgram Sample α) where
  performs := .done result
  unlocks := .done fun _ unlocked => unlocked

variable {op : TracingOp Sample}

/-- Apart from the mutexes, nothing locks. -/
theorem locked_untouched {answer : op.Ret} {before after : TracingRuntime Sample}
    (noMutex : op.isMutexOp = false) (outcome : (answer, after) ∈ TracingOp.outcomes op before) :
    after.locked = before.locked := by
  cases op with
  | lock contextId => cases noMutex
  | unlock contextId => cases noMutex
  | abort reason => cases outcome
  | _ =>
      cases List.mem_singleton.mp outcome
      rfl

/-- One operation in front of a program. -/
theorem perform {rest : op.Ret → TracingProgram Sample α} (may : footprint.allows op)
    (noMutex : op.isMutexOp = false) (continued : ∀ answer, Sectioned footprint (rest answer)) :
    Sectioned footprint (Program.perform op >>= rest) where
  performs := .perform may fun answer => (continued answer).performs
  unlocks := by
    refine Program.Yields.perform (fun _ => Unlocked) ?_ ?_
    · intro state answer after unlocked outcome contextId
      rw [locked_untouched noMutex outcome]
      exact unlocked contextId
    · intro answer
      exact (continued answer).unlocks

/-- One operation. -/
theorem last (may : footprint.allows op) (noMutex : op.isMutexOp = false) :
    Sectioned footprint (Program.perform op : TracingProgram Sample op.Ret) :=
  perform may noMutex fun answer => done answer

theorem bind {first : TracingProgram Sample α} {rest : α → TracingProgram Sample β}
    (firstSectioned : Sectioned footprint first)
    (restSectioned : ∀ result, Sectioned footprint (rest result)) :
    Sectioned footprint (first >>= rest) where
  performs := firstSectioned.performs.bind fun result => (restSectioned result).performs
  unlocks := .bind (fun _ => Unlocked) firstSectioned.unlocks
    fun result => (restSectioned result).unlocks

theorem ite {condition : Prop} [Decidable condition] {yes no : TracingProgram Sample α}
    (yesSectioned : condition → Sectioned footprint yes)
    (noSectioned : ¬condition → Sectioned footprint no) :
    Sectioned footprint (if condition then yes else no) where
  performs := .ite (fun holds => (yesSectioned holds).performs)
    fun fails => (noSectioned fails).performs
  unlocks := .ite (fun holds => (yesSectioned holds).unlocks)
    fun fails => (noSectioned fails).unlocks

theorem abort {reason : Abort}
    (may : footprint.allows (TracingOp.abort reason : TracingOp Sample)) :
    Sectioned footprint (Tracing.abort reason : TracingProgram Sample α) where
  performs := ⟨may, nofun⟩
  unlocks _ _ _ _ ended := by cases ended

end Sectioned

section Programs

variable {footprint : Footprint}

open LolaTracingRuntime

variable {contextId : TraceContextId}

/-- Within the mutex nothing else may be locked. -/
theorem sectioned_withElement {α : Type} {access : TracingProgram Sample α}
    (performs : access.Performs fun op => footprint.allows op ∧ op.isMutexOp = false) :
    Sectioned footprint (withElement contextId access) := by
  refine Sectioned.perform trivial rfl fun capacity => ?_
  apply Sectioned.ite
  · intro _
    constructor
    · apply Program.Performs.perform trivial
      intro _
      apply (performs.mono fun op allowed => allowed.1).bind
      intro result
      exact .perform trivial fun _ => .done result
    · -- meanwhile it is the only mutex that is locked
      refine Program.Yields.perform (fun _ (runtime : TracingRuntime Sample) =>
        runtime.locked = update (fun _ => false) contextId true) ?_ ?_
      · intro state answer after unlocked outcome
        rw [TracingOp.outcomes, unlocked contextId] at outcome
        cases List.mem_singleton.mp outcome
        simp [funext unlocked]
      · intro _
        refine Program.Yields.bind (fun _ (runtime : TracingRuntime Sample) =>
          runtime.locked = update (fun _ => false) contextId true) ?_ ?_
        · intro state result after locked ended
          apply performs.runAlone_keeps _ ended locked
          intro op before answer next allowed outcome kept
          rw [Sectioned.locked_untouched allowed.2 outcome, kept]
        · intro result
          refine Program.Yields.perform (fun _ => Unlocked) ?_ ?_
          · intro state answer after locked outcome other
            cases List.mem_singleton.mp outcome
            simp [locked]
          · intro _
            exact .done fun _ unlocked => unlocked
  · intro _
    exact .abort trivial

theorem sectioned_registerServiceElement {maxTraceContextId : Nat} (mayNumber : footprint.numbers) :
    Sectioned footprint (registerServiceElement maxTraceContextId :
      TracingProgram Sample TraceContextId) := by
  refine Sectioned.perform trivial rfl fun currentServiceElementIdx => ?_
  refine Sectioned.perform trivial rfl fun capacity => ?_
  apply Sectioned.ite
  · intro _
    exact .abort trivial
  · intro _
    apply Sectioned.ite
    · intro _
      exact .abort trivial
    · intro _
      refine Sectioned.perform mayNumber rfl fun _ => ?_
      exact .done _

theorem sectioned_isServiceElementTracingActive :
    Sectioned footprint (isServiceElementTracingActive contextId : TracingProgram Sample Bool) :=
  sectioned_withElement (.last ⟨trivial, rfl⟩)

theorem sectioned_clearTypeErasedSamplePtr :
    Sectioned footprint (clearTypeErasedSamplePtr contextId : TracingProgram Sample Unit) := by
  apply sectioned_withElement
  apply Program.Performs.perform ⟨trivial, rfl⟩
  intro sample
  cases sample with
  | none => exact .done ()
  | some sample => exact .last ⟨trivial, rfl⟩

theorem sectioned_setTypeErasedSamplePtr {sample : Sample} :
    Sectioned footprint (setTypeErasedSamplePtr sample contextId) := by
  refine Sectioned.perform trivial rfl fun currentServiceElementIdx => ?_
  apply Sectioned.ite
  · intro _
    exact .abort trivial
  · intro _
    apply sectioned_withElement
    apply Program.Performs.perform ⟨trivial, rfl⟩
    intro isSet
    apply Program.Performs.ite
    · intro _
      exact ⟨⟨trivial, rfl⟩, nofun⟩
    · intro _
      exact .last ⟨trivial, rfl⟩

theorem sectioned_traceDone :
    Sectioned footprint (traceDone contextId : TracingProgram Sample Unit) := by
  apply sectioned_isServiceElementTracingActive.bind
  intro isActive
  apply Sectioned.ite
  · intro _
    exact sectioned_clearTypeErasedSamplePtr
  · intro _
    exact .done ()

theorem sectioned_isNonRecoverable {error : ErrorCode} :
    Sectioned footprint (error.isNonRecoverable : TracingProgram Sample Bool) := by
  cases error with
  | unexpected code => exact .abort trivial
  | _ => exact .done _

variable {identifier : ServiceElementInstanceIdentifierView}

theorem sectioned_binding_registerShmObject {handle : ShmObjectHandle} {startAddress : Address}
    (may : footprint.registers identifier) :
    Sectioned footprint (LolaTracingRuntime.registerShmObject identifier handle startAddress :
      TracingProgram Sample Unit) := by
  apply Sectioned.ite
  · intro _
    exact .abort trivial
  · intro _
    apply Sectioned.ite
    · intro _
      exact .abort trivial
    · intro _
      refine Sectioned.perform may rfl fun isNew => ?_
      apply Sectioned.ite
      · intro _
        exact .done ()
      · intro _
        exact .abort ⟨identifier, may⟩

theorem sectioned_registerShmObject {shmObjectFd : FileDescriptor} {startAddress : Address}
    (mayRegister : footprint.registers identifier) (mayCache : footprint.caches identifier)
    (mayCall : footprint.callsRegister) :
    Sectioned footprint (registerShmObject identifier shmObjectFd startAddress :
      TracingProgram Sample Unit) := by
  refine Sectioned.perform trivial rfl fun isEnabled => ?_
  apply Sectioned.ite
  · intro _
    refine Sectioned.perform mayCall rfl fun registered => ?_
    cases registered with
    | ok handle => exact sectioned_binding_registerShmObject mayRegister
    | error error =>
        apply sectioned_isNonRecoverable.bind
        intro nonRecoverable
        apply Sectioned.ite
        · intro _
          apply Sectioned.ite
          · intro _
            exact .last trivial rfl
          · intro _
            exact .done ()
        · intro _
          refine Sectioned.perform mayCache rfl fun isNew => ?_
          apply Sectioned.ite
          · intro _
            exact .done ()
          · intro _
            exact .abort ⟨identifier, mayCache⟩
  · intro _
    exact .done ()

theorem sectioned_unregisterShmObject (mayUnregister : footprint.unregisters identifier)
    (mayClear : footprint.clears identifier) :
    Sectioned footprint (unregisterShmObject identifier : TracingProgram Sample Unit) := by
  refine Sectioned.perform trivial rfl fun isEnabled => ?_
  apply Sectioned.ite
  · intro _
    refine Sectioned.perform trivial rfl fun found => ?_
    cases found with
    | none => exact Sectioned.last mayClear rfl
    | some entry =>
        refine Sectioned.perform mayUnregister rfl fun _ => ?_
        refine Sectioned.perform trivial rfl fun unregistered => ?_
        cases unregistered with
        | ok _ => exact .done ()
        | error error =>
            apply sectioned_isNonRecoverable.bind
            intro nonRecoverable
            apply Sectioned.ite
            · intro _
              exact .last trivial rfl
            · intro _
              exact .done ()
  · intro _
    exact .done ()

theorem sectioned_processTraceCallResult {traced : Except ErrorCode Unit} :
    Sectioned footprint (processTraceCallResult traced :
      TracingProgram Sample (Except TraceErrorCode Unit)) := by
  cases traced with
  | ok _ =>
      refine Sectioned.perform trivial rfl fun _ => ?_
      refine Sectioned.perform trivial rfl fun _ => ?_
      exact .done _
  | error error =>
      apply Sectioned.ite
      · intro _
        refine Sectioned.perform trivial rfl fun _ => ?_
        exact .done _
      · intro _
        refine Sectioned.perform trivial rfl fun _ => ?_
        refine Sectioned.perform trivial rfl fun _ => ?_
        refine Sectioned.perform trivial rfl fun failures => ?_
        apply Sectioned.ite
        · intro _
          refine Sectioned.perform trivial rfl fun _ => ?_
          exact .done _
        · intro _
          apply sectioned_isNonRecoverable.bind
          intro nonRecoverable
          apply Sectioned.ite
          · intro _
            exact .done _
          · intro _
            exact .done _

theorem sectioned_traceWithHandle {call : ShmTrace} {sample : Sample} {handle : ShmObjectHandle} :
    Sectioned footprint (traceWithHandle call sample handle) := by
  refine Sectioned.perform trivial rfl fun found => ?_
  cases found with
  | none => exact .abort trivial
  | some entry =>
      refine Sectioned.perform trivial rfl fun dataLoss => ?_
      apply sectioned_setTypeErasedSamplePtr.bind
      intro _
      refine Sectioned.perform trivial rfl fun traced => ?_
      cases traced with
      | ok _ => exact sectioned_processTraceCallResult
      | error error =>
          apply sectioned_clearTypeErasedSamplePtr.bind
          intro _
          exact sectioned_processTraceCallResult

theorem sectioned_obtainShmObjectHandle (mayRegister : footprint.registers identifier)
    (mayClear : footprint.clears identifier) (mayCall : footprint.callsRegister) :
    Sectioned footprint (obtainShmObjectHandle identifier :
      TracingProgram Sample (Except TraceErrorCode ShmObjectHandle)) := by
  refine Sectioned.perform trivial rfl fun found => ?_
  cases found with
  | some entry => exact .done _
  | none =>
      refine Sectioned.perform trivial rfl fun cached => ?_
      cases cached with
      | none => exact .done _
      | some entry =>
          refine Sectioned.perform mayCall rfl fun registered => ?_
          cases registered with
          | ok handle =>
              apply (sectioned_binding_registerShmObject mayRegister).bind
              intro _
              exact .done _
          | error error =>
              apply Sectioned.ite
              · intro _
                refine Sectioned.perform trivial rfl fun _ => ?_
                exact .done _
              · intro _
                refine Sectioned.perform mayClear rfl fun _ => ?_
                exact .done _

theorem sectioned_trace {call : ShmTrace} {sample : Sample}
    (mayRegister : footprint.registers call.serviceElement)
    (mayClear : footprint.clears call.serviceElement) (mayCall : footprint.callsRegister) :
    Sectioned footprint (trace call sample) := by
  refine Sectioned.perform trivial rfl fun isEnabled => ?_
  apply Sectioned.ite
  · intro _
    apply sectioned_isServiceElementTracingActive.bind
    intro isActive
    apply Sectioned.ite
    · intro _
      refine Sectioned.perform trivial rfl fun _ => ?_
      refine Sectioned.perform trivial rfl fun _ => ?_
      exact .done _
    · intro _
      apply (sectioned_obtainShmObjectHandle mayRegister mayClear mayCall).bind
      intro handle
      cases handle with
      | ok handle => exact sectioned_traceWithHandle
      | error error =>
          refine Sectioned.perform trivial rfl fun _ => ?_
          exact .done _
  · intro _
    refine Sectioned.perform trivial rfl fun _ => ?_
    exact .done _

theorem sectioned_traceLocal {serviceElement : ServiceElementInstanceIdentifierView}
    {tracePointDataId : Option (BitVec 32)} :
    Sectioned footprint (traceLocal serviceElement tracePointDataId :
      TracingProgram Sample (Except TraceErrorCode Unit)) := by
  refine Sectioned.perform trivial rfl fun isEnabled => ?_
  apply Sectioned.ite
  · intro _
    refine Sectioned.perform trivial rfl fun dataLoss => ?_
    refine Sectioned.perform trivial rfl fun traced => ?_
    exact sectioned_processTraceCallResult
  · intro _
    exact .done _

end Programs

namespace TracingCall

def footprint : TracingCall Sample → Footprint
  | .registerServiceElement _ => { Footprint.nothing with numbers := True }
  | .registerShmObject serviceInstance _ _ =>
      { Footprint.nothing with
        registers := (· = serviceInstance.shmIdentifier)
        caches := (· = serviceInstance.shmIdentifier)
        callsRegister := True }
  | .unregisterShmObject serviceInstance =>
      { Footprint.nothing with
        unregisters := (· = serviceInstance.shmIdentifier)
        clears := (· = serviceInstance.shmIdentifier) }
  | .trace call _ =>
      { Footprint.nothing with
        registers := (· = call.serviceElement)
        clears := (· = call.serviceElement)
        callsRegister := True }
  | _ => .nothing

theorem sectioned (call : TracingCall Sample) : Sectioned call.footprint call.program := by
  cases call with
  | registerServiceElement maxTraceContextId =>
      exact (sectioned_registerServiceElement trivial).bind fun _ => .done _
  | registerShmObject serviceInstance shmObjectFd startAddress =>
      exact (sectioned_registerShmObject rfl rfl trivial).bind fun _ => .done _
  | unregisterShmObject serviceInstance =>
      exact (sectioned_unregisterShmObject rfl rfl).bind fun _ => .done _
  | trace call sample => exact sectioned_trace rfl rfl trivial
  | traceLocal serviceElement tracePointDataId => exact sectioned_traceLocal
  | traceDone contextId => exact sectioned_traceDone.bind fun _ => .done _
  | setDataLossFlag =>
      apply Sectioned.bind _ fun _ => .done _
      refine Sectioned.perform trivial rfl fun isEnabled => ?_
      apply Sectioned.ite
      · intro _
        exact .last trivial rfl
      · intro _
        exact .done ()
  | disableTracing => exact Sectioned.perform trivial rfl fun _ => .done _

end TracingCall

/-! ## What a call leaves alone -/

section Frame

variable {footprint : Footprint} {identifier : ServiceElementInstanceIdentifierView}
  {op : TracingOp Sample} {answer : op.Ret} {before after : TracingRuntime Sample}

theorem inserted_of_ne {Key Value : Type} [DecidableEq Key] {map : Key → Option Value}
    {key other : Key} {value : Value} (distinct : other ≠ key) :
    (TracingOp.inserted map key value).2 other = map other := by
  unfold TracingOp.inserted
  cases map key with
  | none => simp [distinct]
  | some present => rfl

/-- What can happen to an entry of the handle map. -/
theorem shmObject_cases (identifier : ServiceElementInstanceIdentifierView)
    (outcome : (answer, after) ∈ TracingOp.outcomes op before) :
    (∃ handle startAddress, op = .insertShmObject identifier handle startAddress) ∨
      op = .eraseShmObject identifier ∨
        after.shmObjectHandleMap identifier = before.shmObjectHandleMap identifier := by
  cases op with
  | insertShmObject other handle startAddress =>
      cases List.mem_singleton.mp outcome
      by_cases same : identifier = other
      · exact .inl ⟨handle, startAddress, by rw [same]⟩
      · exact .inr (.inr (inserted_of_ne same))
  | eraseShmObject other =>
      cases List.mem_singleton.mp outcome
      by_cases same : identifier = other
      · exact .inr (.inl (by rw [same]))
      · exact .inr (.inr (update_of_ne same _ _))
  | lock contextId =>
      rw [TracingOp.outcomes] at outcome
      split at outcome
      · cases outcome
      · cases List.mem_singleton.mp outcome
        exact .inr (.inr rfl)
  | abort reason => cases outcome
  | _ =>
      cases List.mem_singleton.mp outcome
      exact .inr (.inr rfl)

/-- What can happen to an entry of the cache. -/
theorem fileDescriptor_cases (identifier : ServiceElementInstanceIdentifierView)
    (outcome : (answer, after) ∈ TracingOp.outcomes op before) :
    (∃ fileDescriptor startAddress,
        op = .insertFileDescriptor identifier fileDescriptor startAddress) ∨
      op = .eraseFileDescriptor identifier ∧
          after.failedShmObjectRegistrationCache identifier = none ∨
        after.failedShmObjectRegistrationCache identifier =
          before.failedShmObjectRegistrationCache identifier := by
  cases op with
  | insertFileDescriptor other fileDescriptor startAddress =>
      cases List.mem_singleton.mp outcome
      by_cases same : identifier = other
      · exact .inl ⟨fileDescriptor, startAddress, by rw [same]⟩
      · exact .inr (.inr (inserted_of_ne same))
  | eraseFileDescriptor other =>
      cases List.mem_singleton.mp outcome
      by_cases same : identifier = other
      · exact .inr (.inl ⟨by rw [same], by rw [same]; exact update_self _ _ _⟩)
      · exact .inr (.inr (update_of_ne same _ _))
  | lock contextId =>
      rw [TracingOp.outcomes] at outcome
      split at outcome
      · cases outcome
      · cases List.mem_singleton.mp outcome
        exact .inr (.inr rfl)
  | abort reason => cases outcome
  | _ =>
      cases List.mem_singleton.mp outcome
      exact .inr (.inr rfl)

variable {α : Type} {program : TracingProgram Sample α} {result : α}
variable (footprint)

/-- So is an entry of the cache. -/
theorem fileDescriptor_untouched (notCached : ¬footprint.caches identifier)
    (notCleared : ¬footprint.clears identifier) (performs : program.Performs footprint.allows)
    (ended : program.runAlone TracingOp.outcomes before = some (result, after)) :
    after.failedShmObjectRegistrationCache identifier =
      before.failedShmObjectRegistrationCache identifier := by
  apply performs.runAlone_keeps _ ended
  · rfl
  · intro op state answer next allowed outcome kept
    rcases fileDescriptor_cases identifier outcome with ⟨_, _, rfl⟩ | ⟨rfl, _⟩ | same
    · exact absurd allowed notCached
    · exact absurd allowed notCleared
    · rw [same, kept]

/-- Nothing gets into the cache that the footprint does not name. -/
theorem fileDescriptor_absent (notCached : ¬footprint.caches identifier)
    (performs : program.Performs footprint.allows)
    (ended : program.runAlone TracingOp.outcomes before = some (result, after))
    (absent : before.failedShmObjectRegistrationCache identifier = none) :
    after.failedShmObjectRegistrationCache identifier = none := by
  apply performs.runAlone_keeps _ ended absent
  intro op state answer next allowed outcome kept
  rcases fileDescriptor_cases identifier outcome with ⟨_, _, rfl⟩ | ⟨_, cleared⟩ | same
  · exact absurd allowed notCached
  · exact cleared
  · rw [same, kept]

/-- The descriptors with which the trace library was asked to register an object. -/
def registrations (calls : List GenericTraceCall) : List FileDescriptor :=
  calls.filterMap fun call =>
    match call with
    | .registerShmObject fileDescriptor => some fileDescriptor
    | _ => none

/-- No object is registered with the trace library if the footprint forbids that. -/
theorem registrations_untouched (noCall : ¬footprint.callsRegister)
    (performs : program.Performs footprint.allows)
    (ended : program.runAlone TracingOp.outcomes before = some (result, after)) :
    registrations after.calls = registrations before.calls := by
  apply performs.runAlone_keeps _ ended
  · rfl
  · intro op state answer next allowed outcome kept
    cases op with
    | registerWithApi fileDescriptor => exact absurd allowed noCall
    | lock contextId =>
        rw [TracingOp.outcomes] at outcome
        split at outcome
        · cases outcome
        · cases List.mem_singleton.mp outcome
          exact kept
    | abort reason => cases outcome
    | unregisterWithApi _ | traceWithApi _ _ _ | traceLocalWithApi _ =>
        cases List.mem_singleton.mp outcome
        simpa [registrations] using kept
    | _ =>
        cases List.mem_singleton.mp outcome
        exact kept

/-- Context ids are handed out only if the footprint says so. -/
theorem numbering_untouched (noNumber : ¬footprint.numbers)
    (performs : program.Performs footprint.allows)
    (ended : program.runAlone TracingOp.outcomes before = some (result, after)) :
    after.currentServiceElementIdx = before.currentServiceElementIdx ∧
      after.capacity = before.capacity := by
  apply performs.runAlone_keeps _ ended
  · exact ⟨rfl, rfl⟩
  · intro op state answer next allowed outcome kept
    cases op with
    | setCurrentServiceElementIdx idx => exact absurd allowed noNumber
    | lock contextId =>
        rw [TracingOp.outcomes] at outcome
        split at outcome
        · cases outcome
        · cases List.mem_singleton.mp outcome
          exact kept
    | abort reason => cases outcome
    | _ =>
        cases List.mem_singleton.mp outcome
        exact kept

end Frame

/-! ## Context ids -/

/-- One more context is handed out, if there is one. -/
theorem registerServiceElement_runAlone {maxTraceContextId : Nat} :
    (LolaTracingRuntime.registerServiceElement maxTraceContextId).runAlone TracingOp.outcomes
        runtime =
      if runtime.currentServiceElementIdx < runtime.capacity ∧
          runtime.currentServiceElementIdx < maxTraceContextId then
        some (runtime.currentServiceElementIdx,
          { runtime with currentServiceElementIdx := runtime.currentServiceElementIdx + 1 })
      else
        none := by
  unfold LolaTracingRuntime.registerServiceElement
  rw [Program.perform_bind, Program.runAlone_step rfl, Program.perform_bind,
    Program.runAlone_step rfl]
  by_cases full : runtime.currentServiceElementIdx ≥ runtime.capacity
  · rw [if_pos full, if_neg (by omega)]
    rfl
  · rw [if_neg full]
    by_cases notIndexable : runtime.currentServiceElementIdx ≥ maxTraceContextId
    · rw [if_pos notIndexable, if_neg (by omega)]
      rfl
    · rw [if_neg notIndexable, if_pos ⟨by omega, by omega⟩]
      rfl

/-! ## The elements' mutexes -/

/-- An access to an element that is not locked. -/
theorem withElement_runAlone {α : Type} {contextId : TraceContextId}
    {access : TracingProgram Sample α} {runtime : TracingRuntime Sample} {result : α}
    (middle : TracingRuntime Sample)
    (unlocked : Unlocked runtime) (inRange : contextId < runtime.capacity)
    (accessed : access.runAlone TracingOp.outcomes
      { runtime with locked := update runtime.locked contextId true } = some (result, middle))
    (stillLocked : middle.locked = update runtime.locked contextId true) :
    (LolaTracingRuntime.withElement contextId access).runAlone TracingOp.outcomes runtime =
      some (result, { middle with locked := runtime.locked }) := by
  have locks : TracingOp.outcomes (.lock contextId) runtime =
      [((), { runtime with locked := update runtime.locked contextId true })] := by
    rw [TracingOp.outcomes, unlocked contextId, if_neg Bool.false_ne_true]
  have asBefore : update middle.locked contextId false = runtime.locked := by
    rw [stillLocked, update_idem, ← unlocked contextId, update_eq_self]
  unfold LolaTracingRuntime.withElement
  rw [Program.perform_bind, Program.runAlone_step rfl, if_pos inRange, Program.perform_bind,
    Program.runAlone_step locks, Program.runAlone_bind, accessed, Option.bind_some,
    Program.perform_bind, Program.runAlone_step rfl, asBefore]
  rfl

variable {contextId : TraceContextId}

theorem isServiceElementTracingActive_runAlone (unlocked : Unlocked runtime)
    (inRange : contextId < runtime.capacity) :
    (LolaTracingRuntime.isServiceElementTracingActive contextId).runAlone TracingOp.outcomes
      runtime = some ((runtime.typeErasedSamplePtrs contextId).isSome, runtime) :=
  withElement_runAlone
    { runtime with locked := update runtime.locked contextId true } unlocked inRange
    rfl rfl

theorem clearTypeErasedSamplePtr_runAlone (unlocked : Unlocked runtime)
    (inRange : contextId < runtime.capacity) :
    (LolaTracingRuntime.clearTypeErasedSamplePtr contextId).runAlone TracingOp.outcomes
        runtime =
      some ((), { runtime with
        typeErasedSamplePtrs :=
          update runtime.typeErasedSamplePtrs contextId none }) := by
  apply withElement_runAlone { runtime with
      locked := update runtime.locked contextId true
      typeErasedSamplePtrs := update runtime.typeErasedSamplePtrs contextId none }
    unlocked inRange _ rfl
  rw [Program.perform_bind, Program.runAlone_step rfl]
  cases runtime.typeErasedSamplePtrs contextId with
  | none => rfl
  | some sample => rfl

theorem setTypeErasedSamplePtr_runAlone {sample : Sample} (unlocked : Unlocked runtime)
    (inRange : contextId < runtime.capacity)
    (registered : contextId < runtime.currentServiceElementIdx)
    (notPending : runtime.typeErasedSamplePtrs contextId = none) :
    (LolaTracingRuntime.setTypeErasedSamplePtr sample contextId).runAlone TracingOp.outcomes
        runtime =
      some ((), { runtime with
        typeErasedSamplePtrs :=
          update runtime.typeErasedSamplePtrs contextId (some sample) }) := by
  unfold LolaTracingRuntime.setTypeErasedSamplePtr
  rw [Program.perform_bind, Program.runAlone_step rfl, if_neg (Nat.not_le.mpr registered)]
  apply withElement_runAlone { runtime with
      locked := update runtime.locked contextId true
      typeErasedSamplePtrs :=
        update runtime.typeErasedSamplePtrs contextId (some sample) }
    unlocked inRange _ rfl
  rw [Program.perform_bind, Program.runAlone_step rfl]
  simp [notPending, Program.perform, Program.runAlone, TracingOp.outcomes]

/-! ## What every run keeps -/

/-- Between two calls no mutex is locked, and context ids are in range. -/
structure AtRest (runtime : TracingRuntime Sample) : Prop where
  unlocked : Unlocked runtime
  numbered : runtime.currentServiceElementIdx ≤ runtime.capacity

theorem atRest_new {capacity : Nat} {answers : GenericTraceAnswers} :
    AtRest (TracingRuntime.new capacity answers : TracingRuntime Sample) :=
  ⟨fun _ => rfl, Nat.zero_le _⟩

theorem AtRest.run {answered : AnsweredCall Sample} {after : TracingRuntime Sample}
    {result : Except TraceErrorCode Unit} (atRest : AtRest runtime)
    (ran : answered.run runtime = some (result, after)) : AtRest after := by
  constructor
  · exact answered.call.sectioned.unlocks { runtime with answers := answered.answers } result
      after atRest.unlocked ran
  · cases called : answered.call with
    | registerServiceElement maxTraceContextId =>
        rw [AnsweredCall.run, called, TracingCall.program, Program.runAlone_bind,
          registerServiceElement_runAlone] at ran
        split at ran
        · rename_i left
          cases ran
          exact left.1
        · cases ran
    | _ =>
        have same := numbering_untouched answered.call.footprint
          (by rw [called]; exact not_false) answered.call.sectioned.performs ran
        rw [same.1, same.2]
        exact atRest.numbered

end MwCom.Tracing
