/-
Module: MwCom.Tracing.ShmRegistration
Purpose: What becomes of a shared memory object whose registration for tracing failed
  with an error that may pass, when an element of its service instance is traced next.
Trusted boundary: none
Main exports: RetryLaw, RetryCondition, firstTrace_retries_iff, firstTrace_does_not_retry
-/
import MwCom.Tracing.TracingCalls

namespace MwCom.Tracing

open Interleaving

variable {Sample : Type}

/-! ## What every run keeps -/

section Runs

variable {runtime after : TracingRuntime Sample} {answered : AnsweredCall Sample}
  {calls : List (AnsweredCall Sample)} {result : Except TraceErrorCode Unit}

/-- Descriptors are kept for whole service instances. -/
def CachedForInstances (runtime : TracingRuntime Sample) : Prop :=
  ∀ identifier, (∀ serviceInstance : ServiceInstance, identifier ≠ serviceInstance.shmIdentifier) →
    runtime.failedShmObjectRegistrationCache identifier = none

theorem cachedForInstances_of_run (cached : CachedForInstances runtime)
    (ran : answered.run runtime = some (result, after)) : CachedForInstances after := by
  intro identifier other
  apply fileDescriptor_absent _ _ answered.call.sectioned.performs ran (cached identifier other)
  cases answered.call with
  | registerShmObject serviceInstance shmObjectFd startAddress => exact other serviceInstance
  | _ => exact not_false

/-- A call that is not about a service instance leaves its descriptor alone. -/
theorem fileDescriptor_of_other {serviceInstance : ServiceInstance}
    (other : answered.call.serviceInstance ≠ some serviceInstance)
    (ran : answered.run runtime = some (result, after)) :
    after.failedShmObjectRegistrationCache serviceInstance.shmIdentifier =
      runtime.failedShmObjectRegistrationCache serviceInstance.shmIdentifier := by
  have sectioned := answered.call.sectioned
  apply fileDescriptor_untouched _ _ _ sectioned.performs ran
  · cases called : answered.call with
    | registerShmObject registered shmObjectFd startAddress =>
        intro same
        apply other
        rw [called, TracingCall.serviceInstance]
        exact congrArg (some ∘ ServiceElementInstanceIdentifierView.serviceInstance) same.symm
    | _ => exact not_false
  · cases called : answered.call with
    | unregisterShmObject registered | trace call sample =>
        intro same
        apply other
        rw [called, TracingCall.serviceInstance]
        exact congrArg (some ∘ ServiceElementInstanceIdentifierView.serviceInstance) same.symm
    | _ => exact not_false

end Runs

/-! ## What a trace does -/

section Trace

variable {runtime : TracingRuntime Sample}

/-- Where the handle comes from. -/
theorem obtainShmObjectHandle_runAlone (identifier : ServiceElementInstanceIdentifierView) :
    (obtainShmObjectHandle identifier).runAlone TracingOp.outcomes runtime =
      match runtime.shmObjectHandleMap identifier.serviceInstance.shmIdentifier with
      | some (handle, _) => some (.ok handle, runtime)
      | none =>
        match runtime.failedShmObjectRegistrationCache identifier with
        | none => some (.error .disableTracePointInstance, runtime)
        | some (shmObjectFd, startAddress) =>
          let called := { runtime with calls := runtime.calls ++ [.registerShmObject shmObjectFd] }
          match runtime.answers.registerShmObject with
          | .error error =>
              if error.isTerminalFatal then
                some (.error .disableAllTracePoints, { called with isTracingEnabled := false })
              else
                some (.error .disableTracePointInstance, { called with
                  failedShmObjectRegistrationCache :=
                    Function.update runtime.failedShmObjectRegistrationCache identifier none })
          | .ok handle =>
              ((LolaTracingRuntime.registerShmObject identifier handle startAddress).runAlone
                TracingOp.outcomes called).map fun ended => (.ok handle, ended.2) := by
  have found : (LolaTracingRuntime.getShmObjectHandle identifier).runAlone
      TracingOp.outcomes runtime =
        some ((runtime.shmObjectHandleMap identifier.serviceInstance.shmIdentifier).map
          Prod.fst, runtime) := rfl
  rw [obtainShmObjectHandle, Program.runAlone_bind, found, Option.bind_some]
  cases runtime.shmObjectHandleMap identifier.serviceInstance.shmIdentifier with
  | some entry => rfl
  | none =>
      have lookedUp : (LolaTracingRuntime.getCachedFileDescriptorForReregisteringShmObject
          identifier).runAlone TracingOp.outcomes runtime =
            some (runtime.failedShmObjectRegistrationCache identifier, runtime) := rfl
      rw [Option.map_none, Program.runAlone_bind, lookedUp, Option.bind_some]
      cases runtime.failedShmObjectRegistrationCache identifier with
      | none => rfl
      | some cached =>
          dsimp only
          rw [Program.perform_bind, Program.runAlone_step rfl]
          cases answered : runtime.answers.registerShmObject with
          | error error =>
              dsimp only
              by_cases terminal : error.isTerminalFatal = true
              · rw [if_pos terminal, if_pos terminal]
                rfl
              · rw [if_neg terminal, if_neg terminal]
                rfl
          | ok handle =>
              dsimp only
              rw [Program.runAlone_bind, Option.map_eq_bind]
              rfl

/-- What is done before there is a handle. -/
theorem trace_runAlone {call : ShmTrace} {sample : Sample} (unlocked : Unlocked runtime)
    (inRange : call.traceContextId < runtime.capacity) :
    (trace call sample).runAlone TracingOp.outcomes runtime =
      if runtime.isTracingEnabled then
        if (runtime.typeErasedSamplePtrs call.traceContextId).isSome then
          some (.ok (), { runtime with dataLossFlag := true })
        else
          ((obtainShmObjectHandle call.serviceElement).runAlone TracingOp.outcomes
            runtime).bind fun obtained =>
              match obtained.1 with
              | .error error => some (.error error, obtained.2)
              | .ok handle =>
                  (traceWithHandle call sample handle).runAlone TracingOp.outcomes obtained.2
      else
        some (.error .disableAllTracePoints, runtime) := by
  rw [trace, Program.perform_bind, Program.runAlone_step rfl]
  by_cases enabled : runtime.isTracingEnabled = true
  · rw [if_pos enabled, if_pos enabled, Program.runAlone_bind,
      isServiceElementTracingActive_runAlone unlocked inRange, Option.bind_some]
    by_cases pending : (runtime.typeErasedSamplePtrs call.traceContextId).isSome = true
    · rw [if_pos pending, if_pos pending]
      rfl
    · rw [if_neg pending, if_neg pending, Program.runAlone_bind]
      apply Option.bind_congr
      rintro ⟨obtained, middle⟩ _
      cases obtained with
      | error error => rfl
      | ok handle => rfl
  · rw [if_neg enabled, if_neg enabled]
    rfl

end Trace

/-! ## The retry -/

/-- The handles that data was traced with. -/
def tracedHandles (calls : List GenericTraceCall) : List ShmObjectHandle :=
  calls.filterMap fun call =>
    match call with
    | .trace _ chunk _ => some chunk.shmObjectHandle
    | _ => none

/-- Until the service instance is offered or withdrawn again, its elements are traced
with this handle only, and no assertion fails. -/
def KeepsHandle (serviceInstance : ServiceInstance) (handle : ShmObjectHandle)
    (runtime : TracingRuntime Sample) : Prop :=
  ∀ (between : List (AnsweredCall Sample)) (later : TracingRuntime Sample),
    (∀ answered ∈ between, ∀ shmObjectFd startAddress,
      answered.call ≠ .registerShmObject serviceInstance shmObjectFd startAddress ∧
        answered.call ≠ .unregisterShmObject serviceInstance) →
    runCalls between runtime = some later →
    ∀ (answers : GenericTraceAnswers) (call : ShmTrace) (sample : Sample),
      call.serviceElement.serviceInstance = serviceInstance →
      call.traceContextId < later.currentServiceElementIdx →
      ∃ result after, AnsweredCall.run ⟨answers, .trace call sample⟩ later = some (result, after) ∧
        (tracedHandles after.calls = tracedHandles later.calls ∨
          tracedHandles after.calls = tracedHandles later.calls ++ [handle])

/-- What the first trace of an element has to do with a descriptor that is cached for its
service instance. -/
structure Retries (serviceInstance : ServiceInstance) (shmObjectFd : FileDescriptor)
    (answers : GenericTraceAnswers) (before : TracingRuntime Sample)
    (result : Except TraceErrorCode Unit) (after : TracingRuntime Sample) : Prop where
  once : registrations after.calls = registrations before.calls ++ [shmObjectFd]
  succeeded : ∀ handle, answers.registerShmObject = .ok handle →
    tracedHandles after.calls = tracedHandles before.calls ++ [handle] ∧
      KeepsHandle serviceInstance handle after
  failed : ∀ error, answers.registerShmObject = .error error → ∃ disabled, result = .error disabled
  gone : after.failedShmObjectRegistrationCache serviceInstance.shmIdentifier = none

/-- The first trace does so, and the process goes on. -/
def RetryLaw (serviceInstance : ServiceInstance) (shmObjectFd : FileDescriptor)
    (answers : GenericTraceAnswers) (call : ShmTrace) (sample : Sample)
    (runtime : TracingRuntime Sample) : Prop :=
  ∃ result after, AnsweredCall.run ⟨answers, .trace call sample⟩ runtime = some (result, after) ∧
    Retries serviceInstance shmObjectFd answers runtime result after

/-- The element has the name under which the object is registered, and the repeated
registration fails with an error that does not end tracing. -/
structure RetryCondition (serviceInstance : ServiceInstance) (answers : GenericTraceAnswers)
    (call : ShmTrace) (runtime : TracingRuntime Sample) : Prop where
  isEnabled : runtime.isTracingEnabled = true
  notPending : runtime.typeErasedSamplePtrs call.traceContextId = none
  noHandle : runtime.shmObjectHandleMap serviceInstance.shmIdentifier = none
  isDummy : call.serviceElement = serviceInstance.shmIdentifier
  fails : ∃ error, answers.registerShmObject = .error error ∧ error.isTerminalFatal = false

section Retry

variable {serviceInstance : ServiceInstance} {shmObjectFd : FileDescriptor}
  {startAddress : Address} {answers : GenericTraceAnswers} {call : ShmTrace}
  {sample : Sample} {runtime : TracingRuntime Sample}

/-- A descriptor is cached for the service instance, and for no other of its names. -/
structure Cached (serviceInstance : ServiceInstance) (shmObjectFd : FileDescriptor)
    (startAddress : Address) (runtime : TracingRuntime Sample) : Prop where
  atRest : AtRest runtime
  forInstances : CachedForInstances runtime
  isCached : runtime.failedShmObjectRegistrationCache serviceInstance.shmIdentifier =
    some (shmObjectFd, startAddress)

theorem Cached.retries (sample : Sample)
    (cached : Cached serviceInstance shmObjectFd startAddress runtime)
    (inRange : call.traceContextId < runtime.capacity)
    (condition : RetryCondition serviceInstance runtime.answers call runtime) :
    ∃ result after, (trace call sample).runAlone TracingOp.outcomes runtime = some (result, after) ∧
      Retries serviceInstance shmObjectFd runtime.answers runtime result after := by
  obtain ⟨error, answered, notTerminal⟩ := condition.fails
  have notPending : ¬(runtime.typeErasedSamplePtrs call.traceContextId).isSome = true := by
    simp [condition.notPending]
  refine ⟨.error .disableTracePointInstance, { runtime with
    calls := runtime.calls ++ [.registerShmObject shmObjectFd]
    failedShmObjectRegistrationCache := Function.update
      runtime.failedShmObjectRegistrationCache call.serviceElement none }, ?_, ?_⟩
  · rw [trace_runAlone cached.atRest.unlocked inRange, if_pos condition.isEnabled,
      if_neg notPending, obtainShmObjectHandle_runAlone]
    simp [condition.isDummy, condition.noHandle, cached.isCached, answered, notTerminal]
  · constructor
    · simp [registrations]
    · intro handle succeeded
      rw [answered] at succeeded
      cases succeeded
    · intro _ _
      exact ⟨_, rfl⟩
    · simp [condition.isDummy]

variable {result : Except TraceErrorCode Unit} {after : TracingRuntime Sample}

/-- One more registration is not none. -/
theorem Retries.not_same
    (retries : Retries serviceInstance shmObjectFd answers runtime result after)
    (same : registrations after.calls = registrations runtime.calls) : False := by
  have longer := retries.once
  rw [same, List.self_eq_append_right] at longer
  cases longer

/-- After a registration that the trace library accepts, the descriptor stays cached. -/
theorem fileDescriptor_of_accepted {handle : ShmObjectHandle} {startAddress : Address}
    {called : TracingRuntime Sample}
    (ran : (((LolaTracingRuntime.registerShmObject call.serviceElement handle
        startAddress).runAlone TracingOp.outcomes called).bind fun registered =>
          (traceWithHandle call sample handle).runAlone TracingOp.outcomes registered.2) =
      some (result, after)) :
    after.failedShmObjectRegistrationCache = called.failedShmObjectRegistrationCache := by
  obtain ⟨⟨_, registered⟩, first, rest⟩ := Option.bind_eq_some_iff.mp ran
  funext identifier
  rw [fileDescriptor_untouched .nothing not_false not_false sectioned_traceWithHandle.performs rest]
  exact fileDescriptor_untouched
    { Footprint.nothing with registers := (· = call.serviceElement) } not_false not_false (sectioned_binding_registerShmObject rfl).performs first

theorem Cached.retryCondition (cached : Cached serviceInstance shmObjectFd startAddress runtime)
    (inRange : call.traceContextId < runtime.capacity)
    (ofInstance : call.serviceElement.serviceInstance = serviceInstance)
    (ran : (trace call sample).runAlone TracingOp.outcomes runtime = some (result, after))
    (retries : Retries serviceInstance shmObjectFd runtime.answers runtime result after) :
    RetryCondition serviceInstance runtime.answers call runtime := by
  rw [trace_runAlone cached.atRest.unlocked inRange] at ran
  by_cases enabled : runtime.isTracingEnabled = true
  · rw [if_pos enabled] at ran
    by_cases pending : (runtime.typeErasedSamplePtrs call.traceContextId).isSome = true
    · rw [if_pos pending] at ran
      cases ran
      exact (retries.not_same rfl).elim
    · rw [if_neg pending, obtainShmObjectHandle_runAlone, ofInstance] at ran
      cases handled : runtime.shmObjectHandleMap serviceInstance.shmIdentifier with
      | some entry =>
          rw [handled] at ran
          exact (retries.not_same (registrations_untouched .nothing not_false
            sectioned_traceWithHandle.performs ran)).elim
      | none =>
          rw [handled] at ran
          cases found : runtime.failedShmObjectRegistrationCache call.serviceElement with
          | none =>
              rw [found] at ran
              cases ran
              exact (retries.not_same rfl).elim
          | some entry =>
              rw [found] at ran
              have isDummy : call.serviceElement = serviceInstance.shmIdentifier := by
                by_contra other
                rw [cached.forInstances call.serviceElement] at found
                · cases found
                · intro another same
                  apply other
                  rw [same, ServiceInstance.serviceInstance_shmIdentifier] at ofInstance
                  rw [same, ofInstance]
              cases answered : runtime.answers.registerShmObject with
              | ok handle =>
                  rw [answered] at ran
                  have gone := retries.gone
                  rw [Option.bind_map] at ran
                  rw [fileDescriptor_of_accepted ran] at gone
                  rw [cached.isCached] at gone
                  cases gone
              | error error =>
                  rw [answered] at ran
                  cases terminal : error.isTerminalFatal with
                  | true =>
                      simp only [terminal, if_true] at ran
                      cases ran
                      have gone := retries.gone
                      rw [cached.isCached] at gone
                      cases gone
                  | false =>
                      exact ⟨enabled, by simpa using pending, handled, isDummy,
                        error, answered, terminal⟩
  · rw [if_neg enabled] at ran
    cases ran
    exact (retries.not_same rfl).elim

/-- A registration that fails with an error that may pass leaves the descriptor. -/
theorem cached_of_failed {error : ErrorCode} {atOffer offered : TracingRuntime Sample}
    (atRest : AtRest atOffer) (forInstances : CachedForInstances atOffer)
    (enabled : atOffer.isTracingEnabled = true) (failed : answers.registerShmObject = .error error)
    (recoverable : (error.isNonRecoverable : TracingProgram Sample Bool) = .done false)
    (ran : AnsweredCall.run ⟨answers, .registerShmObject serviceInstance shmObjectFd
      startAddress⟩ atOffer = some (result, offered)) :
    Cached serviceInstance shmObjectFd startAddress offered := by
  constructor
  · exact atRest.run ran
  · exact cachedForInstances_of_run forInstances ran
  · have recorded : (registerShmObject serviceInstance.shmIdentifier shmObjectFd
        startAddress).runAlone TracingOp.outcomes { atOffer with answers := answers } =
      (LolaTracingRuntime.cacheFileDescriptorForReregisteringShmObject
        serviceInstance.shmIdentifier shmObjectFd startAddress).runAlone TracingOp.outcomes
          { atOffer with
            answers := answers
            calls := atOffer.calls ++ [.registerShmObject shmObjectFd] } := by
      rw [registerShmObject, Program.perform_bind, Program.runAlone_step rfl, if_pos enabled,
        Program.perform_bind, Program.runAlone_step rfl]
      simp [failed, recoverable]
    rw [AnsweredCall.run, TracingCall.program, Program.runAlone_bind, recorded] at ran
    cases present : atOffer.failedShmObjectRegistrationCache serviceInstance.shmIdentifier with
    | some entry =>
        -- the entry that is there ends the process
        have full : (LolaTracingRuntime.cacheFileDescriptorForReregisteringShmObject
            serviceInstance.shmIdentifier shmObjectFd startAddress).runAlone
              TracingOp.outcomes { atOffer with
                answers := answers
                calls := atOffer.calls ++ [.registerShmObject shmObjectFd] } = none := by
          rw [LolaTracingRuntime.cacheFileDescriptorForReregisteringShmObject, Program.perform_bind]
          simp [Program.runAlone, TracingOp.outcomes, TracingOp.inserted, present, abort]
        rw [full] at ran
        cases ran
    | none =>
        have added : (LolaTracingRuntime.cacheFileDescriptorForReregisteringShmObject
            serviceInstance.shmIdentifier shmObjectFd startAddress).runAlone
              TracingOp.outcomes { atOffer with
                answers := answers
                calls := atOffer.calls ++ [.registerShmObject shmObjectFd] } =
            some ((), { atOffer with
              answers := answers
              calls := atOffer.calls ++ [.registerShmObject shmObjectFd]
              failedShmObjectRegistrationCache := Function.update
                atOffer.failedShmObjectRegistrationCache serviceInstance.shmIdentifier
                  (some (shmObjectFd, startAddress)) }) := by
          rw [LolaTracingRuntime.cacheFileDescriptorForReregisteringShmObject, Program.perform_bind]
          simp [Program.runAlone, TracingOp.outcomes, TracingOp.inserted, present]
        rw [added] at ran
        cases ran
        exact Function.update_self _ _ _

/-- What is not about the service instance leaves it so. -/
theorem Cached.run {answered : AnsweredCall Sample}
    (cached : Cached serviceInstance shmObjectFd startAddress runtime)
    (other : answered.call.serviceInstance ≠ some serviceInstance)
    (ran : answered.run runtime = some (result, after)) :
    Cached serviceInstance shmObjectFd startAddress after where
  atRest := cached.atRest.run ran
  forInstances := cachedForInstances_of_run cached.forInstances ran
  isCached := (fileDescriptor_of_other other ran).trans cached.isCached

/-- In a run in which the registration of a shared memory object failed with an error that
may pass, the first trace of an element of the service instance repeats it as it should
exactly if that element is the one under whose name it is registered, and the repeated
registration fails as well. -/
theorem firstTrace_retries_iff {capacity : Nat} {startAnswers offerAnswers : GenericTraceAnswers}
    {before between : List (AnsweredCall Sample)}
    {atOffer offered : TracingRuntime Sample} {offerResult : Except TraceErrorCode Unit}
    {error : ErrorCode}
    (reached : runCalls before (.new capacity startAnswers) = some atOffer)
    (enabled : atOffer.isTracingEnabled = true)
    (failed : offerAnswers.registerShmObject = .error error)
    (recoverable : (error.isNonRecoverable : TracingProgram Sample Bool) = .done false)
    (offers : AnsweredCall.run ⟨offerAnswers, .registerShmObject serviceInstance shmObjectFd
      startAddress⟩ atOffer = some (offerResult, offered))
    (others : ∀ answered ∈ between, answered.call.serviceInstance ≠ some serviceInstance)
    (ran : runCalls between offered = some runtime)
    (ofInstance : call.serviceElement.serviceInstance = serviceInstance)
    (registered : call.traceContextId < runtime.currentServiceElementIdx) :
    RetryLaw serviceInstance shmObjectFd answers call sample runtime ↔
      RetryCondition serviceInstance answers call runtime := by
  have rested : AtRest atOffer ∧ CachedForInstances atOffer := by
    apply runCalls_keeps _ reached ⟨atRest_new, fun _ _ => rfl⟩
    intro answered _ middle result after ran kept
    exact ⟨kept.1.run ran, cachedForInstances_of_run kept.2 ran⟩
  have cached : Cached serviceInstance shmObjectFd startAddress runtime := by
    apply runCalls_keeps _ ran
      (cached_of_failed rested.1 rested.2 enabled failed recoverable offers)
    intro answered member middle result after ran kept
    exact kept.run (others answered member) ran
  have answering : Cached serviceInstance shmObjectFd startAddress
      { runtime with answers := answers } :=
    ⟨⟨cached.atRest.unlocked, cached.atRest.numbered⟩, cached.forInstances, cached.isCached⟩
  have inRange := Nat.lt_of_lt_of_le registered cached.atRest.numbered
  constructor
  · rintro ⟨result, after, traced, retries⟩
    have condition := answering.retryCondition inRange ofInstance traced
      ⟨retries.once, retries.succeeded, retries.failed, retries.gone⟩
    exact ⟨condition.isEnabled, condition.notPending, condition.noHandle, condition.isDummy,
      condition.fails⟩
  · intro condition
    obtain ⟨result, after, traced, retries⟩ := answering.retries sample inRange
      ⟨condition.isEnabled, condition.notPending, condition.noHandle, condition.isDummy,
        condition.fails⟩
    exact ⟨result, after, traced, retries.once, retries.succeeded, retries.failed, retries.gone⟩

end Retry

section Examples

def retriedInstance : ServiceInstance := ⟨"service", "instance"⟩

/-- Memory is short once. -/
def answersNotEnoughMemory : GenericTraceAnswers where
  registerShmObject := .error .notEnoughMemoryRecoverable
  unregisterShmObject := .ok ()
  trace := .ok ()

def answersOk : GenericTraceAnswers where
  registerShmObject := .ok 1
  unregisterShmObject := .ok ()
  trace := .ok ()

/-- One element was registered. -/
def retriedAtOffer : TracingRuntime Unit :=
  { TracingRuntime.new 1 answersOk with currentServiceElementIdx := 1 }

/-- The registration of its shared memory object failed. -/
def retriedOffered : TracingRuntime Unit :=
  { retriedAtOffer with
    answers := answersNotEnoughMemory
    calls := [.registerShmObject 7]
    failedShmObjectRegistrationCache :=
      Function.update (fun _ => none) retriedInstance.shmIdentifier (some (7, 0)) }

/-- A trace of an element. -/
def retriedTrace (serviceElement : ServiceElementInstanceIdentifierView) : ShmTrace where
  traceContextId := 0
  serviceElement := serviceElement
  tracePointType := .skeletonEventSend
  tracePointDataId := 1
  shmDataPtr := 0
  shmDataSize := 8

theorem retriedAtOffer_reached :
    runCalls [⟨answersOk, .registerServiceElement 255⟩] (.new 1 answersOk) =
      some retriedAtOffer := rfl

theorem retriedOffered_offered :
    AnsweredCall.run ⟨answersNotEnoughMemory, .registerShmObject retriedInstance 7 0⟩
      retriedAtOffer = some (.ok (), retriedOffered) := rfl

/-- The element under whose name the object is registered, when memory is still short. -/
theorem firstTrace_retries_dummy : RetryLaw retriedInstance 7 answersNotEnoughMemory
      (retriedTrace retriedInstance.shmIdentifier) () retriedOffered := by
  have failed : answersNotEnoughMemory.registerShmObject = .error .notEnoughMemoryRecoverable := rfl
  have others : ∀ answered ∈ ([] : List (AnsweredCall Unit)),
      answered.call.serviceInstance ≠ some retriedInstance := List.forall_mem_nil _
  have between : runCalls [] retriedOffered = some retriedOffered := rfl
  have registered : (retriedTrace retriedInstance.shmIdentifier).traceContextId <
      retriedOffered.currentServiceElementIdx := by decide
  have condition : RetryCondition retriedInstance answersNotEnoughMemory
      (retriedTrace retriedInstance.shmIdentifier) retriedOffered :=
    ⟨rfl, rfl, rfl, rfl, .notEnoughMemoryRecoverable, rfl, rfl⟩
  exact (firstTrace_retries_iff retriedAtOffer_reached rfl failed rfl retriedOffered_offered
    others between rfl registered).mpr condition

/-- A sent event is traced after the registration of its shared memory object failed: the
registration is not repeated, although it would succeed by now. -/
theorem firstTrace_does_not_retry :
    ¬∀ (capacity : Nat) (startAnswers offerAnswers answers : GenericTraceAnswers)
        (before between : List (AnsweredCall Unit)) (atOffer offered runtime : TracingRuntime Unit)
        (serviceInstance : ServiceInstance) (shmObjectFd : FileDescriptor)
        (startAddress : Address) (offerResult : Except TraceErrorCode Unit)
        (error : ErrorCode) (call : ShmTrace),
      runCalls before (.new capacity startAnswers) = some atOffer →
      atOffer.isTracingEnabled = true →
      offerAnswers.registerShmObject = .error error →
      (error.isNonRecoverable : TracingProgram Unit Bool) = .done false →
      AnsweredCall.run ⟨offerAnswers, .registerShmObject serviceInstance shmObjectFd
        startAddress⟩ atOffer = some (offerResult, offered) →
      (∀ answered ∈ between, answered.call.serviceInstance ≠ some serviceInstance) →
      runCalls between offered = some runtime →
      call.serviceElement.serviceInstance = serviceInstance →
      call.traceContextId < runtime.currentServiceElementIdx →
        RetryLaw serviceInstance shmObjectFd answers call () runtime := by
  intro law
  have failed : answersNotEnoughMemory.registerShmObject = .error .notEnoughMemoryRecoverable := rfl
  have others : ∀ answered ∈ ([] : List (AnsweredCall Unit)),
      answered.call.serviceInstance ≠ some retriedInstance := List.forall_mem_nil _
  have between : runCalls [] retriedOffered = some retriedOffered := rfl
  obtain ⟨result, after, ran, retries⟩ := law 1 answersOk answersNotEnoughMemory answersOk _ _ _ _
    _ _ _ _ _ _ (retriedTrace ⟨⟨"service", "event", .event⟩, "instance"⟩)
    retriedAtOffer_reached rfl failed rfl retriedOffered_offered others between rfl
    (by decide)
  have once := retries.once
  cases ran
  cases once

end Examples

end MwCom.Tracing
