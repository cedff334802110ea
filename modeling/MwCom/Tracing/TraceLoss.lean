/-
Module: MwCom.Tracing.TraceLoss
Purpose: Threads that send traced samples at the same time, and whether each sample that
  is not traced is noticed by the flag for lost data.
Trusted boundary: the trace library may answer anything at any time.
Main exports: TraceLossCall, lossSystem, TraceLossLaw, isNoticed, traceLossLaw_of_reached,
  traceLoss_silent
-/
import MwCom.Interleaving.Contract
import MwCom.Tracing.SkeletonBase
import MwCom.Tracing.TracingCalls

namespace MwCom.Tracing

open Interleaving
open Program (Respects Performs)

variable {Sample Thread : Type}

/-! ## Threads that trace -/

/-- The runtime, and what a reader of the traces can know of lost data. -/
structure LossMemory (Sample : Type) where
  runtime : TracingRuntime Sample
  /-- How often the flag was set. -/
  losses : Nat
  /-- A trace whose meta info carries the bit has succeeded since. -/
  isReported : Bool
  /-- The flag was taken back before. -/
  isLost : Bool

/-- What an operation does with the flag. -/
def LossMemory.after (memory : LossMemory Sample) (runtime : TracingRuntime Sample) :
    (op : TracingOp Sample) → op.Ret → LossMemory Sample
  | .setDataLossFlag true, _ =>
      { memory with runtime := runtime, losses := memory.losses + 1, isReported := false }
  | .setDataLossFlag false, _ =>
      { memory with
        runtime := runtime
        isLost := memory.isLost || (memory.runtime.dataLossFlag && !memory.isReported) }
  | .traceWithApi metaInfo _ _, .ok _ =>
      { memory with
        runtime := runtime, isReported := memory.isReported || metaInfo.dataLossBit }
  | .traceLocalWithApi metaInfo, .ok _ =>
      { memory with
        runtime := runtime, isReported := memory.isReported || metaInfo.dataLossBit }
  | _, _ => { memory with runtime := runtime }

def lossOutcomes (op : TracingOp Sample) (memory : LossMemory Sample) :
    List (op.Ret × LossMemory Sample) :=
  (TracingOp.outcomes op memory.runtime).map fun outcome =>
    (outcome.1, memory.after outcome.2 op outcome.1)

/-- What a thread did in its running call. -/
structure TraceProgress where
  /-- The sample was handed to the trace library. -/
  isHanded : Bool
  setsFlag : Bool
  /-- The bit of the last meta info. -/
  metaInfoBit : Option Bool
  /-- The bit of a trace that succeeded. -/
  succeededBit : Option Bool
deriving DecidableEq

namespace TraceProgress

def start : TraceProgress := ⟨false, false, none, none⟩

def after (progress : TraceProgress) : (op : TracingOp Sample) → op.Ret → TraceProgress
  | .getDataLossFlag, dataLossBit =>
      { progress with metaInfoBit := some dataLossBit, succeededBit := none }
  | .setDataLossFlag newValue, _ =>
      { progress with setsFlag := progress.setsFlag || newValue, succeededBit := none }
  | .traceWithApi metaInfo _ _, .ok _ =>
      { progress with isHanded := true, succeededBit := some metaInfo.dataLossBit }
  | .traceWithApi _ _ _, .error _ => { progress with isHanded := true }
  | .traceLocalWithApi metaInfo, .ok _ =>
      { progress with succeededBit := some metaInfo.dataLossBit }
  | _, _ => progress

end TraceProgress

/-- What became of a sample that was sent. -/
structure EndedSend where
  isHanded : Bool
  setsFlag : Bool
  /-- Its trace point is disabled. -/
  isDisabled : Bool
deriving DecidableEq

structure TracingThread where
  progress : TraceProgress
  /-- How often the flag had been set when the last meta info was created. -/
  lossesAtMetaInfo : Nat
  ended : List EndedSend
deriving DecidableEq

/-- A `Send` of an event or field with an enabled trace point, or another call of the
tracing runtime. -/
inductive TraceLossCall (Sample : Type) where
  | send (event : SkeletonEventBase) (tracePoint : SendTracePoint)
      (around : SendSurroundings Sample)
  | other (call : TracingCall Sample)

def TraceLossCall.code : TraceLossCall Sample → TracingProgram Sample (Option SkeletonEventBase)
  | .send event tracePoint around => do
      let event ← event.traceSent tracePoint around
      pure (some event)
  | .other call => do
      let _ ← call.program
      pure none

/-- The sample of a call that ends. -/
def TraceLossCall.endedSend (progress : TraceProgress) :
    TraceLossCall Sample → Option SkeletonEventBase → List EndedSend
  | .send _ tracePoint _, some event =>
      [⟨progress.isHanded, progress.setsFlag, !event.tracingData.isEnabled tracePoint⟩]
  | _, _ => []

abbrev lossSystem (Sample Thread : Type) :
    System Thread (TracingOp Sample) TracingOp.Ret (LossMemory Sample) TracingThread
      (TraceLossCall Sample) (Option SkeletonEventBase) where
  outcomes := lossOutcomes
  mayCall _ _ call :=
    match call with
    | .send event tracePoint _ => event.tracingData.isEnabled tracePoint = true
    | .other _ => True
  code _ _ call := call.code
  onCall _ _ thread _ := { thread with progress := .start }
  observe _ memory thread op answer :=
    { thread with
      progress := thread.progress.after op answer
      lossesAtMetaInfo :=
        match op with
        | .getDataLossFlag => memory.losses
        | _ => thread.lossesAtMetaInfo }
  onReturn _ _ thread call reply :=
    { thread with ended := call.endedSend thread.progress reply ++ thread.ended }
  onCrash _ _ _ := none
  environment before after :=
    ∃ answers, after = { before with runtime := { before.runtime with answers := answers } }

abbrev LossConfig (Sample Thread : Type) :=
  Config Thread (TracingOp Sample) TracingOp.Ret (LossMemory Sample) TracingThread
    (TraceLossCall Sample) (Option SkeletonEventBase)

abbrev LossEvent (Sample Thread : Type) :=
  Event Thread (TracingOp Sample) TracingOp.Ret (TraceLossCall Sample)
    (Option SkeletonEventBase)

def lossStart (capacity : Nat) (answers : GenericTraceAnswers) : LossConfig Sample Thread where
  memory := { runtime := .new capacity answers, losses := 0, isReported := false, isLost := false }
  object _ := { progress := .start, lossesAtMetaInfo := 0, ended := [] }
  activity _ := .idle

/-! ## The law -/

/-- No sample is lost without a trace of that. -/
structure TraceLossLaw (config : LossConfig Sample Thread) : Prop where
  noticed : ∀ thread, ∀ ended ∈ (config.object thread).ended,
    ended.isHanded = true ∨ ended.isDisabled = true ∨ ended.setsFlag = true
  kept : config.memory.isLost = false

/-- A sample that is being sent could be referenced. -/
def isReferenced : Activity (TracingOp Sample) TracingOp.Ret (TraceLossCall Sample)
      (Option SkeletonEventBase) → Bool
  | .running (.send _ _ around) _ => around.sample.isSome
  | _ => true

/-- A sample that could not be referenced is noticed: it was sent with a copy, and
tracing is still enabled when the flag is to be set.  And nobody sets the flag between
the meta info of a trace and the moment at which that trace, having succeeded, takes the
flag back. -/
def isNoticed (config : LossConfig Sample Thread) : LossEvent Sample Thread → Bool
  | .call _ (.send _ .sendWithAllocate around) => around.sample.isSome
  | .perform thread .isTracingEnabled false => isReferenced (config.activity thread)
  | .perform thread (.setDataLossFlag false) _ =>
      decide ((config.object thread).lossesAtMetaInfo = config.memory.losses)
  | _ => true

/-! ## What a thread does -/

/-- What the other threads do not change. -/
structure LossView where
  progress : TraceProgress
  /-- The running call sends a sample that could not be referenced. -/
  isUnreferenced : Bool

/-- The flag is only taken back after a trace with the last meta info succeeded. -/
def lossRules : Rules (TracingOp Sample) TracingOp.Ret LossView where
  may view
    | .setDataLossFlag false =>
        ∃ dataLossBit, view.progress.metaInfoBit = some dataLossBit ∧
          view.progress.succeededBit = some dataLossBit
    | .traceWithApi metaInfo _ _ => view.progress.metaInfoBit = some metaInfo.dataLossBit
    | .traceLocalWithApi metaInfo => view.progress.metaInfoBit = some metaInfo.dataLossBit
    | _ => True
  expects view
    | .isTracingEnabled, false => view.isUnreferenced = false
    | _, _ => True
  next view op answer := { view with progress := view.progress.after op answer }

/-- The operation has nothing to do with the flag. -/
def TracingOp.IsPlain : TracingOp Sample → Prop
  | .getDataLossFlag => False
  | .setDataLossFlag _ => False
  | .traceWithApi _ _ _ => False
  | .traceLocalWithApi _ => False
  | _ => True

/-- A program that has nothing to do with the flag. -/
abbrev IsPlain {α : Type} (program : TracingProgram Sample α) : Prop :=
  program.Performs TracingOp.IsPlain

section Plain

variable {α : Type}

open LolaTracingRuntime

theorem TraceProgress.after_of_plain {progress : TraceProgress} {op : TracingOp Sample}
    {answer : op.Ret} (plain : op.IsPlain) : progress.after op answer = progress := by
  cases op with
  | getDataLossFlag | setDataLossFlag newValue | traceWithApi metaInfo chunk contextId
  | traceLocalWithApi metaInfo => cases plain
  | _ => rfl

/-- It leaves the view as it is. -/
theorem respects_of_plain {program : TracingProgram Sample α} {view : LossView}
    (plain : IsPlain program) :
    program.Respects lossRules view fun _ after => after = view := by
  induction program with
  | done result => rfl
  | step op next ih =>
      constructor
      · cases op with
        | setDataLossFlag newValue | traceWithApi metaInfo chunk contextId
        | traceLocalWithApi metaInfo => cases plain.1
        | _ => trivial
      · intro answer _
        have same : lossRules.next view op answer = view := by
          show { view with progress := view.progress.after op answer } = view
          rw [TraceProgress.after_of_plain plain.1]
        rw [same]
        exact ih answer (plain.2 answer)

theorem plain_abort {reason : Abort} : IsPlain (abort reason : TracingProgram Sample α) :=
  ⟨trivial, nofun⟩

variable {contextId : TraceContextId}

theorem plain_withElement {access : TracingProgram Sample α} (plain : IsPlain access) :
    IsPlain (withElement contextId access) := by
  apply Performs.perform trivial
  intro capacity
  apply Performs.ite
  · intro _
    apply Performs.perform trivial
    intro _
    apply plain.bind
    intro result
    exact .perform trivial fun _ => .done result
  · intro _
    exact plain_abort

theorem plain_isServiceElementTracingActive :
    IsPlain (isServiceElementTracingActive contextId : TracingProgram Sample Bool) :=
  plain_withElement (.last trivial)

theorem plain_clearTypeErasedSamplePtr :
    IsPlain (clearTypeErasedSamplePtr contextId : TracingProgram Sample Unit) := by
  apply plain_withElement
  apply Performs.perform trivial
  intro sample
  cases sample with
  | none => exact .done ()
  | some sample => exact .last trivial

theorem plain_setTypeErasedSamplePtr {sample : Sample} :
    IsPlain (setTypeErasedSamplePtr sample contextId) := by
  apply Performs.perform trivial
  intro currentServiceElementIdx
  apply Performs.ite
  · intro _
    exact plain_abort
  · intro _
    apply plain_withElement
    apply Performs.perform trivial
    intro isSet
    apply Performs.ite
    · intro _
      exact plain_abort
    · intro _
      exact .last trivial

theorem plain_isNonRecoverable {error : ErrorCode} :
    IsPlain (error.isNonRecoverable : TracingProgram Sample Bool) := by
  cases error with
  | unexpected code => exact plain_abort
  | _ => exact .done _

variable {identifier : ServiceElementInstanceIdentifierView}

theorem plain_binding_registerShmObject {handle : ShmObjectHandle} {startAddress : Address} :
    IsPlain (LolaTracingRuntime.registerShmObject identifier handle startAddress :
      TracingProgram Sample Unit) := by
  apply Performs.ite
  · intro _
    exact plain_abort
  · intro _
    apply Performs.ite
    · intro _
      exact plain_abort
    · intro _
      apply Performs.perform trivial
      intro isNew
      apply Performs.ite
      · intro _
        exact .done ()
      · intro _
        exact plain_abort

theorem plain_obtainShmObjectHandle :
    IsPlain (obtainShmObjectHandle identifier : TracingProgram Sample _) := by
  apply Performs.perform trivial
  intro found
  cases found with
  | some entry => exact .done _
  | none =>
      apply Performs.perform trivial
      intro cached
      cases cached with
      | none => exact .done _
      | some entry =>
          apply Performs.perform trivial
          intro registered
          cases registered with
          | ok handle =>
              apply plain_binding_registerShmObject.bind
              intro _
              exact .done _
          | error error =>
              apply Performs.ite
              · intro _
                exact .perform trivial fun _ => .done _
              · intro _
                exact .perform trivial fun _ => .done _

theorem plain_registerServiceElement {maxTraceContextId : Nat} :
    IsPlain (registerServiceElement maxTraceContextId : TracingProgram Sample _) := by
  apply Performs.perform trivial
  intro currentServiceElementIdx
  apply Performs.perform trivial
  intro capacity
  apply Performs.ite
  · intro _
    exact plain_abort
  · intro _
    apply Performs.ite
    · intro _
      exact plain_abort
    · intro _
      exact .perform trivial fun _ => .done _

theorem plain_registerShmObject {shmObjectFd : FileDescriptor} {startAddress : Address} :
    IsPlain (registerShmObject identifier shmObjectFd startAddress :
      TracingProgram Sample Unit) := by
  apply Performs.perform trivial
  intro isEnabled
  apply Performs.ite
  · intro _
    apply Performs.perform trivial
    intro registered
    cases registered with
    | ok handle => exact plain_binding_registerShmObject
    | error error =>
        apply plain_isNonRecoverable.bind
        intro nonRecoverable
        apply Performs.ite
        · intro _
          apply Performs.ite
          · intro _
            exact .last trivial
          · intro _
            exact .done ()
        · intro _
          apply Performs.perform trivial
          intro isNew
          apply Performs.ite
          · intro _
            exact .done ()
          · intro _
            exact plain_abort
  · intro _
    exact .done ()

theorem plain_unregisterShmObject :
    IsPlain (unregisterShmObject identifier : TracingProgram Sample Unit) := by
  apply Performs.perform trivial
  intro isEnabled
  apply Performs.ite
  · intro _
    apply Performs.perform trivial
    intro found
    cases found with
    | none => exact .last trivial
    | some entry =>
        apply Performs.perform trivial
        intro _
        apply Performs.perform trivial
        intro unregistered
        cases unregistered with
        | ok _ => exact .done ()
        | error error =>
            apply plain_isNonRecoverable.bind
            intro nonRecoverable
            apply Performs.ite
            · intro _
              exact .last trivial
            · intro _
              exact .done ()
  · intro _
    exact .done ()

theorem plain_traceDone : IsPlain (traceDone contextId : TracingProgram Sample Unit) := by
  apply plain_isServiceElementTracingActive.bind
  intro isActive
  apply Performs.ite
  · intro _
    exact plain_clearTypeErasedSamplePtr
  · intro _
    exact .done ()

end Plain

/-! ### Traces -/

section Respects

variable {view : LossView}

/-- After a trace that succeeded the flag is taken back. -/
theorem processTraceCallResult_ok_respects
    (succeeded : ∃ dataLossBit, view.progress.metaInfoBit = some dataLossBit ∧
      view.progress.succeededBit = some dataLossBit) :
    (processTraceCallResult (.ok ()) : TracingProgram Sample _).Respects lossRules view
      fun _ after => after.progress.isHanded = view.progress.isHanded :=
  ⟨succeeded, fun _ _ => ⟨trivial, fun _ _ => rfl⟩⟩

theorem processTraceCallResult_error_respects {error : ErrorCode} :
    (processTraceCallResult (.error error) : TracingProgram Sample _).Respects lossRules view
      fun _ after => after.progress.isHanded = view.progress.isHanded := by
  rw [processTraceCallResult]
  by_cases terminal : error.isTerminalFatal = true
  · rw [if_pos terminal]
    exact ⟨trivial, fun _ _ => rfl⟩
  · rw [if_neg terminal]
    apply Respects.perform trivial
    intro _ _
    apply Respects.perform trivial
    intro _ _
    apply Respects.perform trivial
    intro failures _
    split
    · exact ⟨trivial, fun _ _ => rfl⟩
    · apply (respects_of_plain plain_isNonRecoverable).bind
      rintro nonRecoverable after rfl
      split
      · rfl
      · rfl

/-- A trace with a handle is handed to the trace library. -/
theorem traceWithHandle_respects {call : ShmTrace} {sample : Sample} {handle : ShmObjectHandle} :
    (traceWithHandle call sample handle).Respects lossRules view
      fun _ after => after.progress.isHanded = true := by
  apply Respects.perform trivial
  intro found _
  cases found with
  | none => exact ⟨trivial, nofun⟩
  | some entry =>
      apply Respects.perform trivial
      intro dataLossBit _
      apply (respects_of_plain plain_setTypeErasedSamplePtr).bind
      rintro _ after rfl
      apply Respects.perform rfl
      intro traced _
      cases traced with
      | ok _ => exact processTraceCallResult_ok_respects ⟨dataLossBit, rfl, rfl⟩
      | error error =>
          apply (respects_of_plain plain_clearTypeErasedSamplePtr).bind
          rintro _ after rfl
          exact processTraceCallResult_error_respects

/-- A sample that is traced is handed to the trace library, or its trace point is to be
disabled, or the flag is set. -/
theorem trace_respects {call : ShmTrace} {sample : Sample} :
    (trace call sample).Respects lossRules view fun result after =>
      after.progress.isHanded = true ∨ after.progress.setsFlag = true ∨
        ∃ error, result = .error error := by
  apply Respects.perform trivial
  intro isEnabled _
  by_cases enabled : isEnabled = true
  · rw [if_pos enabled]
    apply (respects_of_plain plain_isServiceElementTracingActive).bind
    rintro isActive after rfl
    by_cases active : isActive = true
    · rw [if_pos active]
      apply Respects.perform trivial
      intro _ _
      apply Respects.perform trivial
      intro _ _
      exact .inr (.inl (Bool.or_true _))
    · rw [if_neg active]
      apply (respects_of_plain plain_obtainShmObjectHandle).bind
      rintro obtained after rfl
      cases obtained with
      | error error => exact ⟨trivial, fun _ _ => .inr (.inr ⟨error, rfl⟩)⟩
      | ok handle =>
          apply traceWithHandle_respects.mono
          intro result after handed
          exact .inl handed
  · rw [if_neg enabled]
    exact ⟨trivial, fun _ _ => .inr (.inr ⟨_, rfl⟩)⟩

theorem traceLocal_respects {serviceElement : ServiceElementInstanceIdentifierView}
    {tracePointDataId : Option (BitVec 32)} :
    (traceLocal serviceElement tracePointDataId : TracingProgram Sample _).Respects lossRules
      view fun _ _ => True := by
  apply Respects.perform trivial
  intro isEnabled _
  by_cases enabled : isEnabled = true
  · rw [if_pos enabled]
    apply Respects.perform trivial
    intro dataLossBit _
    apply Respects.perform rfl
    intro traced _
    cases traced with
    | ok _ =>
        apply (processTraceCallResult_ok_respects ⟨dataLossBit, rfl, rfl⟩).mono
        intro _ _ _
        trivial
    | error error =>
        apply processTraceCallResult_error_respects.mono
        intro _ _ _
        trivial
  · rw [if_neg enabled]
    trivial

variable {tracingData : SkeletonEventTracingData} {tracePoint : SendTracePoint}

/-- An error disables the trace point. -/
theorem updateTracingData_disables {error : TraceErrorCode} :
    (tracingData.updateTracingDataFromTraceResult tracePoint (.error error)).isEnabled
      tracePoint = false := by
  cases error with
  | disableAllTracePoints | disableTracePointInstance =>
      cases tracePoint with
      | send => rfl
      | sendWithAllocate => rfl

/-- What became of a sample when the call returns. -/
def Noticed (tracePoint : SendTracePoint) (tracingData : SkeletonEventTracingData)
    (progress : TraceProgress) : Prop :=
  progress.isHanded = true ∨ tracingData.isEnabled tracePoint = false ∨ progress.setsFlag = true

theorem noticed_of_trace {result : Except TraceErrorCode Unit} {progress : TraceProgress}
    (traced : progress.isHanded = true ∨ progress.setsFlag = true ∨
      ∃ error, result = .error error) :
    Noticed tracePoint (tracingData.updateTracingDataFromTraceResult tracePoint result)
      progress := by
  rcases traced with handed | setsFlag | ⟨error, rfl⟩
  · exact .inl handed
  · exact .inr (.inr setsFlag)
  · exact .inr (.inl updateTracingData_disables)

theorem traceSent_respects {tracePointType : TracePointType} {chunk : ShmDataChunk}
    {sample : Option Sample} (withCopy : tracePoint = .sendWithAllocate → sample.isSome = true)
    (enabledUnlessReferenced : sample = none → view.isUnreferenced = true) :
    (traceSent tracingData tracePoint tracePointType chunk sample).Respects lossRules view
      fun tracingData after => Noticed tracePoint tracingData after.progress := by
  cases sample with
  | none =>
      cases tracePoint with
      | sendWithAllocate => cases withCopy rfl
      | send =>
          apply Respects.perform trivial
          intro isEnabled expected
          cases isEnabled with
          | false =>
              have unreferenced := enabledUnlessReferenced rfl
              rw [expected] at unreferenced
              cases unreferenced
          | true => exact ⟨trivial, fun _ _ => .inr (.inr (Bool.or_true _))⟩
  | some sample =>
      cases tracePoint with
      | send | sendWithAllocate =>
          apply trace_respects.bind
          intro result after traced
          exact noticed_of_trace traced

theorem SkeletonEventBase.traceSent_respects {event : SkeletonEventBase}
    {around : SendSurroundings Sample} (isEnabled : event.tracingData.isEnabled tracePoint = true)
    (withCopy : tracePoint = .sendWithAllocate → around.sample.isSome = true)
    (enabledUnlessReferenced : around.sample = none → view.isUnreferenced = true) :
    (event.traceSent tracePoint around).Respects lossRules view fun event after =>
      Noticed tracePoint event.tracingData after.progress := by
  rw [traceSent, if_pos isEnabled]
  cases event.tracingData.tracePointType tracePoint with
  | none => exact ⟨trivial, nofun⟩
  | some tracePointType =>
      apply (Tracing.traceSent_respects withCopy enabledUnlessReferenced).bind
      intro tracingData after noticed
      exact noticed

theorem TracingCall.program_respects (call : TracingCall Sample) :
    call.program.Respects lossRules view fun _ _ => True := by
  have plain : IsPlain call.program → call.program.Respects lossRules view
      fun _ _ => True := by
    intro plain
    exact (respects_of_plain plain).mono fun _ _ _ => trivial
  cases call with
  | registerServiceElement maxTraceContextId =>
      exact plain (plain_registerServiceElement.bind fun _ => .done _)
  | registerShmObject serviceInstance shmObjectFd startAddress =>
      exact plain (plain_registerShmObject.bind fun _ => .done _)
  | unregisterShmObject serviceInstance =>
      exact plain (plain_unregisterShmObject.bind fun _ => .done _)
  | trace call sample => exact trace_respects.mono fun _ _ _ => trivial
  | traceLocal serviceElement tracePointDataId => exact traceLocal_respects
  | traceDone contextId => exact plain (plain_traceDone.bind fun _ => .done _)
  | setDataLossFlag =>
      apply Respects.perform trivial
      intro isEnabled _
      cases isEnabled with
      | true => exact ⟨trivial, fun _ _ => trivial⟩
      | false => trivial
  | disableTracing => exact plain (.perform trivial fun _ => .done _)

end Respects

/-! ## Whole runs -/

/-- What the meta info of a thread says of the flag, as long as nobody has set the flag
since. -/
structure FlagKnown (memory : LossMemory Sample) (thread : TracingThread) : Prop where
  past : thread.lossesAtMetaInfo ≤ memory.losses
  metaInfo : ∀ dataLossBit, thread.progress.metaInfoBit = some dataLossBit →
    thread.lossesAtMetaInfo = memory.losses → memory.runtime.dataLossFlag = true →
      dataLossBit = true
  succeeded : thread.progress.succeededBit = some true →
    thread.lossesAtMetaInfo = memory.losses → memory.isReported = true

/-- What the threads keep. -/
structure LossInv (config : LossConfig Sample Thread) : Prop where
  law : TraceLossLaw config
  known : ∀ thread, FlagKnown config.memory (config.object thread)

/-- The view of a thread. -/
def lossView (config : LossConfig Sample Thread) (thread : Thread) : LossView where
  progress := (config.object thread).progress
  isUnreferenced := !isReferenced (config.activity thread)

/-- What a call has done at its end. -/
def lossPost (call : TraceLossCall Sample) (reply : Option SkeletonEventBase)
    (view : LossView) : Prop :=
  ∀ ended ∈ call.endedSend view.progress reply,
    ended.isHanded = true ∨ ended.isDisabled = true ∨ ended.setsFlag = true

variable [DecidableEq Thread]

def lossContract : Contract (lossSystem Sample Thread) LossView where
  Inv := LossInv
  view := lossView
  rules _ := lossRules
  post _ := lossPost

section Steps

variable {memory : LossMemory Sample} {runtime : TracingRuntime Sample}
  {thread : TracingThread} {op : TracingOp Sample} {answer : op.Ret}

/-- Apart from the flag's own operations, nothing changes the flag. -/
theorem dataLossFlag_untouched (notSet : ∀ newValue, op ≠ .setDataLossFlag newValue)
    (outcome : (answer, runtime) ∈ TracingOp.outcomes op memory.runtime) :
    runtime.dataLossFlag = memory.runtime.dataLossFlag := by
  cases op with
  | setDataLossFlag newValue => exact absurd rfl (notSet newValue)
  | lock contextId =>
      rw [TracingOp.outcomes] at outcome
      split at outcome
      · cases outcome
      · cases List.mem_singleton.mp outcome
        rfl
  | abort reason => cases outcome
  | _ =>
      cases List.mem_singleton.mp outcome
      rfl

/-- Only the flag's own operations count a loss or take something back. -/
theorem after_of_notSet (memory : LossMemory Sample) (runtime : TracingRuntime Sample)
    (answer : op.Ret) (notSet : ∀ newValue, op ≠ .setDataLossFlag newValue) :
    (memory.after runtime op answer).losses = memory.losses ∧
      (memory.isReported = true → (memory.after runtime op answer).isReported = true) ∧
        (memory.after runtime op answer).isLost = memory.isLost ∧
          (memory.after runtime op answer).runtime = runtime := by
  cases op with
  | setDataLossFlag newValue => exact absurd rfl (notSet newValue)
  | traceWithApi metaInfo chunk contextId | traceLocalWithApi metaInfo =>
      cases answer with
      | ok _ =>
          simp only [LossMemory.after]
          simp +contextual
      | error error => exact ⟨rfl, id, rfl, rfl⟩
  | _ => exact ⟨rfl, id, rfl, rfl⟩

/-- An operation of another thread: what is known of the flag stays known. -/
theorem FlagKnown.other (known : FlagKnown memory thread)
    (outcome : (answer, runtime) ∈ TracingOp.outcomes op memory.runtime) :
    FlagKnown (memory.after runtime op answer) thread := by
  by_cases sets : ∃ newValue, op = .setDataLossFlag newValue
  · obtain ⟨newValue, rfl⟩ := sets
    cases List.mem_singleton.mp outcome
    cases newValue with
    | true =>
        have later : thread.lossesAtMetaInfo ≠ memory.losses + 1 :=
          Nat.ne_of_lt (Nat.lt_succ_of_le known.past)
        constructor
        · exact Nat.le_succ_of_le known.past
        · intro dataLossBit _ same _
          exact absurd same later
        · intro _ same
          exact absurd same later
    | false =>
        constructor
        · exact known.past
        · intro dataLossBit _ _ isSet
          cases isSet
        · exact known.succeeded
  · have notSet : ∀ newValue, op ≠ .setDataLossFlag newValue :=
      fun newValue same => sets ⟨newValue, same⟩
    obtain ⟨sameLosses, reported, _, runtimeAfter⟩ := after_of_notSet memory runtime answer notSet
    constructor
    · rw [sameLosses]
      exact known.past
    · rw [sameLosses, runtimeAfter, dataLossFlag_untouched notSet outcome]
      exact known.metaInfo
    · rw [sameLosses]
      intro succeeded same
      exact reported (known.succeeded succeeded same)

/-- The thread after its operation. -/
def observed (memory : LossMemory Sample) (thread : TracingThread) (op : TracingOp Sample)
    (answer : op.Ret) : TracingThread :=
  (lossSystem Sample Unit).observe () memory thread op answer

/-- An operation of the thread itself. -/
theorem FlagKnown.own (known : FlagKnown memory thread)
    (outcome : (answer, runtime) ∈ TracingOp.outcomes op memory.runtime) :
    FlagKnown (memory.after runtime op answer) (observed memory thread op answer) := by
  have kept := known.other outcome
  cases op with
  | getDataLossFlag =>
      cases List.mem_singleton.mp outcome
      constructor
      · exact Nat.le_refl _
      · intro dataLossBit found _ isSet
        cases found
        exact isSet
      · intro succeeded
        cases succeeded
  | setDataLossFlag newValue =>
      constructor
      · exact kept.past
      · exact kept.metaInfo
      · intro succeeded
        cases succeeded
  | traceWithApi metaInfo chunk contextId | traceLocalWithApi metaInfo =>
      cases answer with
      | ok _ =>
          constructor
          · exact kept.past
          · exact kept.metaInfo
          · intro succeeded _
            have carries : metaInfo.dataLossBit = true := Option.some.inj succeeded
            show (memory.isReported || metaInfo.dataLossBit) = true
            rw [carries, Bool.or_true]
      | error error => exact ⟨kept.past, kept.metaInfo, kept.succeeded⟩
  | _ => exact ⟨kept.past, kept.metaInfo, kept.succeeded⟩

end Steps

section Obligations

variable {config : LossConfig Sample Thread} {thread : Thread}

/-- What one thread does changes no other thread's view. -/
theorem unseen_update {memory : LossMemory Sample} {object : TracingThread}
    {activity : Activity (TracingOp Sample) TracingOp.Ret (TraceLossCall Sample)
      (Option SkeletonEventBase)} :
    lossContract.Unseen thread config (config.update memory thread object activity) := by
  intro other distinct
  show lossView _ other = lossView config other
  rw [lossView, lossView, Config.update_object_of_ne distinct,
    Config.update_activity_of_ne distinct]

theorem LossInv.call (inv : LossInv config)
    {activity : Activity (TracingOp Sample) TracingOp.Ret (TraceLossCall Sample)
      (Option SkeletonEventBase)} :
    LossInv (config.update config.memory thread
      { config.object thread with progress := .start } activity) := by
  constructor
  · constructor
    · intro other
      by_cases same : other = thread
      · rw [same, Config.update_object_self]
        exact inv.law.noticed thread
      · rw [Config.update_object_of_ne same]
        exact inv.law.noticed other
    · exact inv.law.kept
  · intro other
    by_cases same : other = thread
    · rw [same, Config.update_object_self]
      exact ⟨(inv.known thread).past, nofun, nofun⟩
    · rw [Config.update_object_of_ne same]
      exact inv.known other

variable {call : TraceLossCall Sample}

omit [DecidableEq Thread] in
/-- What is left to do when a call starts. -/
theorem code_respects {view : LossView}
    (mayCall : (lossSystem Sample Thread).mayCall thread (config.object thread) call)
    (noticed : isNoticed config (.call thread call) = true)
    (unreferenced : ∀ event tracePoint around, call = .send event tracePoint around →
      view.isUnreferenced = !around.sample.isSome) :
    call.code.Respects lossRules view (lossPost call) := by
  cases call with
  | send event tracePoint around =>
      have withCopy : tracePoint = .sendWithAllocate → around.sample.isSome = true := by
        intro isWithAllocate
        rw [isWithAllocate] at noticed
        exact noticed
      apply (SkeletonEventBase.traceSent_respects mayCall withCopy _).bind
      · intro event after traced ended member
        cases List.mem_singleton.mp member
        rw [Bool.not_eq_true']
        exact traced
      · intro none
        rw [unreferenced event tracePoint around rfl, none]
        rfl
  | other call =>
      apply call.program_respects.bind
      intro result after _ ended member
      cases member

theorem perform_inv {op : TracingOp Sample}
    {next : op.Ret → TracingProgram Sample (Option SkeletonEventBase)} {answer : op.Ret}
    {memory : LossMemory Sample} (inv : LossInv config)
    (noticed : isNoticed config (.perform thread op answer) = true)
    (may : lossRules.may (lossView config thread) op)
    (outcome : (answer, memory) ∈ lossOutcomes op config.memory) :
    LossInv (config.update memory thread (observed config.memory (config.object thread) op answer)
      (.running call (next answer))) := by
  obtain ⟨⟨given, runtime⟩, possible, same⟩ := List.mem_map.mp outcome
  cases same
  constructor
  · constructor
    · intro other
      by_cases same : other = thread
      · rw [same, Config.update_object_self]
        exact inv.law.noticed thread
      · rw [Config.update_object_of_ne same]
        exact inv.law.noticed other
    · by_cases sets : ∃ newValue, op = .setDataLossFlag newValue
      · obtain ⟨newValue, rfl⟩ := sets
        cases newValue with
        | true => exact inv.law.kept
        | false =>
            -- a flag that is set was set when the meta info was created
            obtain ⟨dataLossBit, metaInfo, succeeded⟩ := may
            have known := inv.known thread
            have sinceMetaInfo := of_decide_eq_true noticed
            show (config.memory.isLost ||
              (config.memory.runtime.dataLossFlag && !config.memory.isReported)) = false
            rw [inv.law.kept, Bool.false_or]
            cases isSet : config.memory.runtime.dataLossFlag with
            | false => rfl
            | true =>
                have carries := known.metaInfo dataLossBit metaInfo sinceMetaInfo isSet
                rw [carries] at succeeded
                rw [known.succeeded succeeded sinceMetaInfo]
                rfl
      · have notSet : ∀ newValue, op ≠ .setDataLossFlag newValue :=
          fun newValue same => sets ⟨newValue, same⟩
        show (config.memory.after runtime op given).isLost = false
        rw [(after_of_notSet config.memory runtime given notSet).2.2.1]
        exact inv.law.kept
  · intro other
    by_cases same : other = thread
    · rw [same, Config.update_object_self]
      exact (inv.known thread).own possible
    · rw [Config.update_object_of_ne same]
      exact (inv.known other).other possible

omit [DecidableEq Thread] in
theorem expected {op : TracingOp Sample} {answer : op.Ret}
    (noticed : isNoticed config (.perform thread op answer) = true) :
    lossRules.expects (lossView config thread) op answer := by
  cases op with
  | isTracingEnabled =>
      cases answer with
      | true => trivial
      | false =>
          show (!isReferenced (config.activity thread)) = false
          rw [Bool.not_eq_false']
          exact noticed
  | _ => trivial

theorem finish_inv {reply : Option SkeletonEventBase} (inv : LossInv config)
    (post : lossPost call reply (lossView config thread)) :
    LossInv (config.update config.memory thread { config.object thread with
        ended := call.endedSend (config.object thread).progress reply ++
          (config.object thread).ended } .idle) := by
  constructor
  · constructor
    · intro other
      by_cases same : other = thread
      · rw [same, Config.update_object_self]
        intro ended member
        rcases List.mem_append.mp member with isNew | isOld
        · exact post ended isNew
        · exact inv.law.noticed thread ended isOld
      · rw [Config.update_object_of_ne same]
        exact inv.law.noticed other
    · exact inv.law.kept
  · intro other
    by_cases same : other = thread
    · rw [same, Config.update_object_self]
      exact ⟨(inv.known thread).past, (inv.known thread).metaInfo, (inv.known thread).succeeded⟩
    · rw [Config.update_object_of_ne same]
      exact inv.known other

/-- The obligations of the threads, one for each kind of step. -/
theorem loss_obligations : (lossContract : Contract (lossSystem Sample Thread) LossView).Obligations
      fun config event => isNoticed config event = true where
  call {config thread call} inv noticed idle mayCall after same := by
    subst same
    refine ⟨inv.call, unseen_update, code_respects mayCall noticed ?_⟩
    intro event tracePoint around isSend
    show (lossView _ thread).isUnreferenced = _
    rw [lossView, Config.update_activity_self, isSend]
    rfl
  perform {config thread call op next answer memory} inv noticed running may outcome after
      same := by
    subst same
    refine ⟨perform_inv inv noticed may outcome, unseen_update, expected noticed, ?_⟩
    show lossView _ thread = _
    rw [lossView, Config.update_activity_self, Config.update_object_self]
    show _ = lossRules.next (lossView config thread) op answer
    rw [lossView, running]
    cases call with
    | send event tracePoint around => rfl
    | other call => rfl
  finish {config thread call reply} inv _ running post after same := by
    subst same
    exact ⟨finish_inv inv post, unseen_update⟩
  crash _ _ killed := nomatch killed
  environment {config memory} inv _ moved after same := by
    subst same
    obtain ⟨answers, rfl⟩ := moved
    refine ⟨⟨⟨inv.law.noticed, inv.law.kept⟩, ?_⟩, fun thread => rfl⟩
    intro thread
    exact ⟨(inv.known thread).past, (inv.known thread).metaInfo, (inv.known thread).succeeded⟩

/-- In every run in which unreferenced samples are noticed and nobody sets the flag
between a meta info and the end of its trace, no sample is lost silently. -/
theorem traceLossLaw_of_reached {capacity : Nat} {answers : GenericTraceAnswers}
    (reached : Reaches (lossSystem Sample Thread)
      (fun config event => isNoticed config event = true) (lossStart capacity answers)
      config) : TraceLossLaw config := by
  have initially : LossInv (lossStart capacity answers : LossConfig Sample Thread) := by
    constructor
    · exact ⟨fun _ => List.forall_mem_nil _, rfl⟩
    · intro thread
      exact ⟨Nat.le_refl _, nofun, nofun⟩
  exact (Contract.run loss_obligations initially (fun _ => rfl) reached).inv.law

end Obligations

section Examples

/-- An event whose samples are traced when they were allocated by the user. -/
def tracedEvent : SkeletonEventBase where
  elementName := "event"
  tracingData := ⟨⟨⟨"service", "event", .event⟩, "instance"⟩, 0, true, true⟩
  isBindingTraced := true
  serviceOfferedFlag := true
  isTracingLogRegistered := true

/-- The sample could not be referenced. -/
def unreferenced : SendSurroundings Unit := ⟨true, ⟨0, 100, 4⟩, none⟩

/-- Nobody else moves in these runs. -/
noncomputable instance lossSystem_environment (before after : LossMemory Unit) :
    Decidable ((lossSystem Unit Unit).environment before after) :=
  Classical.propDecidable _

instance lossSystem_mayCall (thread : Unit) (object : TracingThread) :
    (call : TraceLossCall Unit) → Decidable ((lossSystem Unit Unit).mayCall thread object call)
  | .send event tracePoint _ =>
      inferInstanceAs (Decidable (event.tracingData.isEnabled tracePoint = true))
  | .other _ => inferInstanceAs (Decidable True)

/-- A sample that could not be referenced is sent with a copy. -/
theorem traceLossLaw_of_copy : ∃ config : LossConfig Unit Unit,
      (config.object ()).ended = [⟨false, true, false⟩] ∧ TraceLossLaw config := by
  obtain ⟨config, reached, ended⟩ :=
    exists_reached (lossSystem Unit Unit) (fun config event => isNoticed config event = true)
      (lossStart 1 answersWithoutErrors)
      [.call () (.send tracedEvent .send unreferenced), .perform () 0, .perform () 0, .finish ()]
      (fun config => (config.object ()).ended = [⟨false, true, false⟩]) (by decide +kernel)
  exact ⟨config, ended, traceLossLaw_of_reached reached⟩

/-- One that was allocated by the user is not noticed. -/
theorem traceLoss_silent : ¬∀ config : LossConfig Unit Unit,
      Reaches (lossSystem Unit Unit) (fun _ _ => True) (lossStart 1 answersWithoutErrors) config →
        TraceLossLaw config := by
  intro law
  obtain ⟨config, reached, ended⟩ :=
    exists_reached (lossSystem Unit Unit) (fun _ _ => True) (lossStart 1 answersWithoutErrors)
      [.call () (.send tracedEvent .sendWithAllocate unreferenced), .finish ()]
      (fun config => (config.object ()).ended = [⟨false, false, false⟩]) (by decide +kernel)
  have noticed := (law config reached).noticed () ⟨false, false, false⟩
  rw [ended] at noticed
  rcases noticed List.mem_cons_self with handed | disabled | setsFlag
  · cases handed
  · cases disabled
  · cases setsFlag

end Examples

end MwCom.Tracing
