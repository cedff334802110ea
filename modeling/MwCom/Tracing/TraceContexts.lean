/-
Module: MwCom.Tracing.TraceContexts
Purpose: Skeletons that are constructed and destroyed in one process, the trace contexts
  that their events and fields get, and how long there are any left.
Trusted boundary: the largest `TraceContextId` is a parameter.
Main exports: SkeletonDescription, construct, ContextAction, runContexts,
  traceContexts_last_iff, traceContexts_run_out
-/
import Mathlib.Data.List.Flatten
import MwCom.Tracing.SkeletonEventTracing
import MwCom.Tracing.TracingCalls

namespace MwCom.Tracing

open Interleaving

variable {Sample : Type}

/-! ## Skeletons -/

inductive SkeletonElementKind where
  | event
  | field
deriving DecidableEq

/-- An event or field of a skeleton. -/
structure SkeletonElement where
  kind : SkeletonElementKind
  elementName : String
deriving DecidableEq

/-- A service instance as it is configured, with its elements in the order in which they
are constructed. -/
structure SkeletonDescription where
  serviceType : String
  instanceSpecifier : InstanceSpecifierView
  elements : List SkeletonElement
deriving DecidableEq

section Construct

variable (config : TracingFilterConfig) (maxTraceContextId : Nat)
  (description : SkeletonDescription)

/-- What the constructor of an event or field does for tracing. -/
def constructElement (element : SkeletonElement) : TracingProgram Sample SkeletonEventTracingData :=
  match element.kind with
  | .event =>
      generateSkeletonTracingStructFromEventConfig config maxTraceContextId
        description.serviceType description.instanceSpecifier element.elementName
  | .field =>
      generateSkeletonTracingStructFromFieldConfig config maxTraceContextId
        description.serviceType description.instanceSpecifier element.elementName

def constructElements : List SkeletonElement → TracingProgram Sample (List SkeletonEventTracingData)
  | [] => pure []
  | element :: rest => do
      let tracingData ← constructElement config maxTraceContextId description element
      let others ← constructElements rest
      pure (tracingData :: others)

/-- What the constructor of a skeleton does for tracing. -/
def construct : TracingProgram Sample (List SkeletonEventTracingData) :=
  constructElements config maxTraceContextId description description.elements

/-- A trace point of the element that needs a callback is enabled. -/
def isElementTraced (element : SkeletonElement) : Bool :=
  match element.kind with
  | .event =>
      config.isSkeletonEventTracePointEnabled description.serviceType element.elementName
          description.instanceSpecifier .send ||
        config.isSkeletonEventTracePointEnabled description.serviceType element.elementName
          description.instanceSpecifier .sendWithAllocate
  | .field =>
      config.isSkeletonFieldTracePointEnabled description.serviceType element.elementName
          description.instanceSpecifier .update ||
        config.isSkeletonFieldTracePointEnabled description.serviceType element.elementName
          description.instanceSpecifier .updateWithAllocate

/-- How many of its elements are traced. -/
def numberOfTracedElements : Nat := description.elements.countP (isElementTraced config description)

end Construct

/-! ## The process -/

/-- A skeleton that lives. -/
structure LiveSkeleton where
  description : SkeletonDescription
  tracingData : List SkeletonEventTracingData

/-- The contexts of the elements of a skeleton that are traced. -/
def LiveSkeleton.traceContextIds (skeleton : LiveSkeleton) : List TraceContextId :=
  (skeleton.tracingData.filter (·.isTracingEnabled)).map (·.traceContextId)

structure ContextProcess (Sample : Type) where
  runtime : TracingRuntime Sample
  skeletons : List LiveSkeleton

namespace ContextProcess

/-- A process after its start; `none`: more contexts are needed than are possible. -/
def start (config : TracingFilterConfig) (answers : GenericTraceAnswers) :
    Option (ContextProcess Sample) :=
  config.getNumberOfServiceElementsWithTraceDoneCb.map fun capacity =>
    { runtime := .new capacity answers, skeletons := [] }

/-- The contexts of all traced elements that live. -/
def traceContextIds (process : ContextProcess Sample) : List TraceContextId :=
  process.skeletons.flatMap LiveSkeleton.traceContextIds

end ContextProcess

inductive ContextAction where
  | construct (description : SkeletonDescription)
  /-- The skeleton of this service instance is destroyed. -/
  | destroy (instanceSpecifier : InstanceSpecifierView)
deriving DecidableEq

section Run

variable (config : TracingFilterConfig) (maxTraceContextId : Nat)

/-- One action; `none`: the process ends. -/
def actContexts (process : ContextProcess Sample) : ContextAction → Option (ContextProcess Sample)
  | .construct description =>
      ((construct config maxTraceContextId description).runAlone TracingOp.outcomes
          process.runtime).map fun constructed =>
        { runtime := constructed.2
          skeletons := ⟨description, constructed.1⟩ :: process.skeletons }
  | .destroy instanceSpecifier =>
      some { process with
        skeletons := process.skeletons.eraseP fun skeleton =>
          skeleton.description.instanceSpecifier = instanceSpecifier }

def runContexts : List ContextAction → ContextProcess Sample → Option (ContextProcess Sample)
  | [], process => some process
  | action :: rest, process =>
      (actContexts config maxTraceContextId process action).bind (runContexts rest)

/-- No service instance has two skeletons at a time. -/
def OneSkeletonEach : List ContextAction → List InstanceSpecifierView → Prop
  | [], _ => True
  | .construct description :: rest, alive =>
      description.instanceSpecifier ∉ alive ∧
        OneSkeletonEach rest (description.instanceSpecifier :: alive)
  | .destroy instanceSpecifier :: rest, alive =>
      instanceSpecifier ∈ alive ∧ OneSkeletonEach rest (alive.erase instanceSpecifier)

instance decidableOneSkeletonEach : ∀ actions alive, Decidable (OneSkeletonEach actions alive)
  | [], _ => .isTrue trivial
  | .construct _ :: rest, _ =>
      have := decidableOneSkeletonEach rest
      inferInstanceAs (Decidable (_ ∧ _))
  | .destroy _ :: rest, _ =>
      have := decidableOneSkeletonEach rest
      inferInstanceAs (Decidable (_ ∧ _))

/-- How many traced elements are constructed, no matter how long they live. -/
def tracedConstructions : List ContextAction → Nat
  | [] => 0
  | .construct description :: rest =>
      numberOfTracedElements config description + tracedConstructions rest
  | .destroy _ :: rest => tracedConstructions rest

/-- Whatever was done so far, the process goes on, and no two traced elements that live
share a context. -/
def ContextsLast (start : ContextProcess Sample) (actions : List ContextAction) : Prop :=
  ∀ before after, actions = before ++ after →
    ∃ process, runContexts config maxTraceContextId before start = some process ∧
      process.traceContextIds.Nodup

end Run

/-! ## What a construction does -/

section Constructing

variable {config : TracingFilterConfig} {maxTraceContextId : Nat}
  {description : SkeletonDescription} {runtime : TracingRuntime Sample}

/-- An element that is traced takes a context, one that is not takes none. -/
theorem generateSkeletonTracingStruct_runAlone {identifier : ServiceElementInstanceIdentifierView}
    {enableSend enableSendWithAllocate : Bool} :
    (generateSkeletonTracingStruct maxTraceContextId identifier enableSend
        enableSendWithAllocate).runAlone TracingOp.outcomes runtime =
      if enableSend || enableSendWithAllocate then
        if runtime.currentServiceElementIdx < runtime.capacity ∧
            runtime.currentServiceElementIdx < maxTraceContextId then
          some (⟨identifier, runtime.currentServiceElementIdx, enableSend, enableSendWithAllocate⟩,
            { runtime with currentServiceElementIdx := runtime.currentServiceElementIdx + 1 })
        else
          none
      else
        some (⟨identifier, 0, enableSend, enableSendWithAllocate⟩, runtime) := by
  unfold generateSkeletonTracingStruct
  by_cases traced : (enableSend || enableSendWithAllocate) = true
  · rw [if_pos traced, if_pos traced, Program.runAlone_bind, registerServiceElement_runAlone]
    split
    · rfl
    · rfl
  · rw [if_neg traced, if_neg traced]
    rfl

/-- The constructor of an element, by the trace points that are enabled for it. -/
theorem constructElement_eq (config : TracingFilterConfig) (maxTraceContextId : Nat)
    (description : SkeletonDescription) (element : SkeletonElement) :
    ∃ identifier enableSend enableSendWithAllocate,
      (constructElement config maxTraceContextId description element :
          TracingProgram Sample SkeletonEventTracingData) =
          generateSkeletonTracingStruct maxTraceContextId identifier enableSend
            enableSendWithAllocate ∧
        (enableSend || enableSendWithAllocate) = isElementTraced config description element := by
  unfold constructElement isElementTraced
  cases element.kind with
  | event | field => exact ⟨_, _, _, rfl, rfl⟩

variable {element : SkeletonElement}

theorem constructElement_of_untraced (maxTraceContextId : Nat) (runtime : TracingRuntime Sample)
    (untraced : isElementTraced config description element = false) :
    ∃ tracingData, (constructElement config maxTraceContextId description element).runAlone
          TracingOp.outcomes runtime = some (tracingData, runtime) ∧
        tracingData.isTracingEnabled = false := by
  obtain ⟨identifier, enableSend, enableSendWithAllocate, constructs, traced⟩ :=
    constructElement_eq config maxTraceContextId description element
  rw [untraced] at traced
  rw [constructs, generateSkeletonTracingStruct_runAlone, traced, if_neg Bool.false_ne_true]
  exact ⟨_, rfl, traced⟩

theorem constructElement_of_traced (traced : isElementTraced config description element = true)
    (left : runtime.currentServiceElementIdx < runtime.capacity ∧
      runtime.currentServiceElementIdx < maxTraceContextId) :
    ∃ tracingData, (constructElement config maxTraceContextId description element).runAlone
          TracingOp.outcomes runtime =
        some (tracingData,
          { runtime with currentServiceElementIdx := runtime.currentServiceElementIdx + 1 }) ∧
        tracingData.isTracingEnabled = true ∧
        tracingData.traceContextId = runtime.currentServiceElementIdx := by
  obtain ⟨identifier, enableSend, enableSendWithAllocate, constructs, same⟩ :=
    constructElement_eq config maxTraceContextId description element
  rw [traced] at same
  rw [constructs, generateSkeletonTracingStruct_runAlone, same, if_pos rfl, if_pos left]
  exact ⟨_, rfl, same, rfl⟩

theorem constructElement_of_full (traced : isElementTraced config description element = true)
    (full : ¬(runtime.currentServiceElementIdx < runtime.capacity ∧
      runtime.currentServiceElementIdx < maxTraceContextId)) :
    (constructElement config maxTraceContextId description element).runAlone
      TracingOp.outcomes runtime = none := by
  obtain ⟨identifier, enableSend, enableSendWithAllocate, constructs, same⟩ :=
    constructElement_eq config maxTraceContextId description element
  rw [traced] at same
  rw [constructs, generateSkeletonTracingStruct_runAlone, same, if_pos rfl, if_neg full]

/-- The traced elements of a skeleton get the next contexts, as long as there are any. -/
theorem constructElements_of_left {elements : List SkeletonElement}
    (left : runtime.currentServiceElementIdx +
        elements.countP (isElementTraced config description) ≤ runtime.capacity ∧
      runtime.currentServiceElementIdx +
        elements.countP (isElementTraced config description) ≤ maxTraceContextId) :
    ∃ tracingData, (constructElements config maxTraceContextId description elements).runAlone
          TracingOp.outcomes runtime =
        some (tracingData, { runtime with
          currentServiceElementIdx := runtime.currentServiceElementIdx +
            elements.countP (isElementTraced config description) }) ∧
        (LiveSkeleton.mk description tracingData).traceContextIds =
          List.range' runtime.currentServiceElementIdx
            (elements.countP (isElementTraced config description)) := by
  induction elements generalizing runtime with
  | nil => exact ⟨[], rfl, rfl⟩
  | cons element rest ih =>
      cases traced : isElementTraced config description element with
      | false =>
          rw [List.countP_cons_of_neg (by simp [traced])] at left ⊢
          obtain ⟨first, constructed, disabled⟩ :=
            constructElement_of_untraced maxTraceContextId runtime traced
          obtain ⟨others, continued, numbered⟩ := ih left
          refine ⟨first :: others, ?_, ?_⟩
          · simp [constructElements, Program.runAlone_bind, constructed, continued]
          · simpa [LiveSkeleton.traceContextIds, disabled] using numbered
      | true =>
          rw [List.countP_cons_of_pos traced] at left ⊢
          obtain ⟨first, constructed, enabled, number⟩ := constructElement_of_traced traced
              (show runtime.currentServiceElementIdx < runtime.capacity ∧
                runtime.currentServiceElementIdx < maxTraceContextId by omega)
          obtain ⟨others, continued, numbered⟩ := @ih
            { runtime with currentServiceElementIdx := runtime.currentServiceElementIdx + 1 }
            (by dsimp only; omega)
          refine ⟨first :: others, ?_, ?_⟩
          · simp [constructElements, Program.runAlone_bind, constructed, continued]
            omega
          · simpa [LiveSkeleton.traceContextIds, enabled, number, List.range'_succ] using numbered

/-- No skeleton is constructed that needs more contexts than there are. -/
theorem constructElements_of_full {elements : List SkeletonElement}
    (full : ¬(runtime.currentServiceElementIdx +
        elements.countP (isElementTraced config description) ≤ runtime.capacity ∧
      runtime.currentServiceElementIdx +
        elements.countP (isElementTraced config description) ≤ maxTraceContextId))
    (within : runtime.currentServiceElementIdx ≤ runtime.capacity ∧
      runtime.currentServiceElementIdx ≤ maxTraceContextId) :
    (constructElements config maxTraceContextId description elements).runAlone
      TracingOp.outcomes runtime = none := by
  induction elements generalizing runtime with
  | nil => exact absurd within full
  | cons element rest ih =>
      cases traced : isElementTraced config description element with
      | false =>
          rw [List.countP_cons_of_neg (by simp [traced])] at full
          obtain ⟨first, constructed, disabled⟩ :=
            constructElement_of_untraced maxTraceContextId runtime traced
          have continued := ih full within
          simp [constructElements, Program.runAlone_bind, constructed, continued]
      | true =>
          rw [List.countP_cons_of_pos traced] at full
          by_cases left : runtime.currentServiceElementIdx < runtime.capacity ∧
              runtime.currentServiceElementIdx < maxTraceContextId
          · obtain ⟨first, constructed, enabled, number⟩ := constructElement_of_traced traced left
            have continued := @ih
              { runtime with
                currentServiceElementIdx := runtime.currentServiceElementIdx + 1 }
              (by dsimp only; omega) left
            simp [constructElements, Program.runAlone_bind, constructed, continued]
          · simp [constructElements, Program.runAlone_bind, constructElement_of_full traced left]

end Constructing

/-! ## What a run does -/

section Running

variable {config : TracingFilterConfig} {maxTraceContextId : Nat}
  {process : ContextProcess Sample}

/-- The contexts that were handed out are the numbers below the next one. -/
structure Numbered (maxTraceContextId : Nat) (process : ContextProcess Sample) : Prop where
  within : process.runtime.currentServiceElementIdx ≤ process.runtime.capacity ∧
    process.runtime.currentServiceElementIdx ≤ maxTraceContextId
  distinct : process.traceContextIds.Nodup
  below : ∀ id ∈ process.traceContextIds, id < process.runtime.currentServiceElementIdx

/-- There are contexts for so many more elements. -/
def HasContexts (maxTraceContextId : Nat) (process : ContextProcess Sample)
    (needed : Nat) : Prop :=
  process.runtime.currentServiceElementIdx + needed ≤ process.runtime.capacity ∧
    process.runtime.currentServiceElementIdx + needed ≤ maxTraceContextId

theorem Numbered.construct {description : SkeletonDescription}
    (numbered : Numbered maxTraceContextId process) (left : HasContexts maxTraceContextId process
      (numberOfTracedElements config description)) :
    ∃ after, actContexts config maxTraceContextId process (.construct description) = some after ∧
      Numbered maxTraceContextId after ∧
      after.runtime.capacity = process.runtime.capacity ∧
      after.runtime.currentServiceElementIdx = process.runtime.currentServiceElementIdx +
          numberOfTracedElements config description := by
  obtain ⟨tracingData, constructed, ids⟩ := constructElements_of_left left
  let after : ContextProcess Sample :=
    { runtime := { process.runtime with
        currentServiceElementIdx := process.runtime.currentServiceElementIdx +
          numberOfTracedElements config description }
      skeletons := ⟨description, tracingData⟩ :: process.skeletons }
  have acted : actContexts config maxTraceContextId process (.construct description) =
      some after := by
    rw [actContexts, Tracing.construct, constructed]
    rfl
  refine ⟨after, acted, ?_, rfl, rfl⟩
  have together : after.traceContextIds = List.range' process.runtime.currentServiceElementIdx
          (numberOfTracedElements config description) ++ process.traceContextIds := by
    rw [ContextProcess.traceContextIds, List.flatMap_cons, ids]
    rfl
  constructor
  · exact left
  · rw [together, List.nodup_append]
    refine ⟨List.nodup_range', numbered.distinct, ?_⟩
    intro new isNew old isOld same
    rw [same] at isNew
    exact Nat.not_lt.mpr (List.mem_range'_1.mp isNew).1 (numbered.below old isOld)
  · intro id member
    rw [together, List.mem_append] at member
    rcases member with isNew | isOld
    · exact (List.mem_range'_1.mp isNew).2
    · exact Nat.lt_add_right _ (numbered.below id isOld)

theorem Numbered.construct_full {description : SkeletonDescription}
    (numbered : Numbered maxTraceContextId process) (full : ¬HasContexts maxTraceContextId process
      (numberOfTracedElements config description)) :
    actContexts config maxTraceContextId process (.construct description) = none := by
  rw [actContexts, Tracing.construct, constructElements_of_full full numbered.within]
  rfl

/-- A skeleton that is destroyed gives nothing back. -/
theorem Numbered.destroy (instanceSpecifier : InstanceSpecifierView)
    (numbered : Numbered maxTraceContextId process) :
    Numbered maxTraceContextId { process with
      skeletons := process.skeletons.eraseP fun skeleton =>
        skeleton.description.instanceSpecifier = instanceSpecifier } := by
  have fewer : (process.skeletons.eraseP fun skeleton =>
      skeleton.description.instanceSpecifier = instanceSpecifier).Sublist
        process.skeletons := List.eraseP_sublist
  have fewerIds := fewer.flatMap LiveSkeleton.traceContextIds
  constructor
  · exact numbered.within
  · exact numbered.distinct.sublist fewerIds
  · intro id member
    exact numbered.below id (fewerIds.subset member)

/-- With enough contexts for all that is constructed, the run gets to its end. -/
theorem Numbered.run {actions : List ContextAction} (numbered : Numbered maxTraceContextId process)
    (left : HasContexts maxTraceContextId process (tracedConstructions config actions)) :
    ∃ after, runContexts config maxTraceContextId actions process = some after ∧
      Numbered maxTraceContextId after := by
  induction actions generalizing process with
  | nil => exact ⟨process, rfl, numbered⟩
  | cons action rest ih =>
      cases action with
      | construct description =>
          obtain ⟨enough, enoughIds⟩ := left
          rw [tracedConstructions] at enough enoughIds
          obtain ⟨after, acted, numberedAfter, sameCapacity, nextIdx⟩ :=
            numbered.construct (show HasContexts maxTraceContextId process
              (numberOfTracedElements config description) from ⟨by omega, by omega⟩)
          obtain ⟨final, ran, numberedFinal⟩ := ih numberedAfter ⟨by omega, by omega⟩
          refine ⟨final, ?_, numberedFinal⟩
          rw [runContexts, acted]
          exact ran
      | destroy instanceSpecifier =>
          exact ih (numbered.destroy instanceSpecifier) left

/-- Without, it does not. -/
theorem Numbered.run_full {actions : List ContextAction}
    (numbered : Numbered maxTraceContextId process)
    (full : ¬HasContexts maxTraceContextId process (tracedConstructions config actions)) :
    runContexts config maxTraceContextId actions process = none := by
  induction actions generalizing process with
  | nil => exact absurd numbered.within full
  | cons action rest ih =>
      cases action with
      | construct description =>
          rw [runContexts]
          by_cases left : HasContexts maxTraceContextId process
              (numberOfTracedElements config description)
          · obtain ⟨after, acted, numberedAfter, sameCapacity, nextIdx⟩ := numbered.construct left
            rw [acted]
            apply ih numberedAfter
            intro enough
            apply full
            rw [HasContexts, tracedConstructions, ← Nat.add_assoc, ← nextIdx, ← sameCapacity]
            exact enough
          · rw [numbered.construct_full left]
            rfl
      | destroy instanceSpecifier =>
          exact ih (numbered.destroy instanceSpecifier) full

theorem tracedConstructions_append (before after : List ContextAction) :
    tracedConstructions config (before ++ after) =
      tracedConstructions config before + tracedConstructions config after := by
  induction before with
  | nil => simp [tracedConstructions]
  | cons action rest ih =>
      cases action with
      | construct description => simp [tracedConstructions, ih, Nat.add_assoc]
      | destroy instanceSpecifier => simpa [tracedConstructions] using ih

theorem numbered_start (maxTraceContextId : Nat) {answers : GenericTraceAnswers}
    (started : ContextProcess.start config answers = some process) :
    Numbered maxTraceContextId process := by
  obtain ⟨capacity, _, rfl⟩ := Option.map_eq_some_iff.mp started
  constructor
  · exact ⟨Nat.zero_le _, Nat.zero_le _⟩
  · exact List.nodup_nil
  · intro id member
    cases member

end Running

/-! ## The contexts of a process -/

/-- Contexts are handed out in a process without end exactly if all its constructions
together, also those of skeletons that are gone, need no more than were counted in the
filter at its start. -/
theorem traceContexts_last_iff {config : TracingFilterConfig} {maxTraceContextId : Nat}
    (answers : GenericTraceAnswers) {start : ContextProcess Sample}
    {actions : List ContextAction}
    (started : ContextProcess.start config answers = some start) :
    ContextsLast config maxTraceContextId start actions ↔
      tracedConstructions config actions ≤ start.runtime.capacity ∧
        tracedConstructions config actions ≤ maxTraceContextId := by
  have numbered := numbered_start maxTraceContextId started
  have none : start.runtime.currentServiceElementIdx = 0 := by
    obtain ⟨capacity, _, rfl⟩ := Option.map_eq_some_iff.mp started
    rfl
  constructor
  · intro last
    by_contra tooMany
    obtain ⟨process, ran, _⟩ := last actions [] (List.append_nil actions).symm
    rw [numbered.run_full (by rwa [HasContexts, none, Nat.zero_add])] at ran
    cases ran
  · rintro ⟨enough, enoughIds⟩ before after rfl
    rw [tracedConstructions_append] at enough enoughIds
    obtain ⟨process, ran, numberedAfter⟩ := numbered.run
      (show HasContexts maxTraceContextId start (tracedConstructions config before) by
        rw [HasContexts, none]
        omega)
    exact ⟨process, ran, numberedAfter.distinct⟩

section Examples

/-- A service with one event, whose `Send` is traced for one instance. -/
def oneTracedEvent : SkeletonDescription where
  serviceType := "service"
  instanceSpecifier := "instance"
  elements := [⟨.event, "event"⟩]

def oneTracedEventConfig : TracingFilterConfig where
  skeletonEventTracePoints := [(⟨⟨"service", "event", .event⟩, .send⟩, ["instance"])]
  skeletonFieldTracePoints := []
  proxyEventTracePoints := []
  proxyFieldTracePoints := []

/-- A trace library without errors. -/
def answersWithoutErrors : GenericTraceAnswers where
  registerShmObject := .ok 1
  unregisterShmObject := .ok ()
  trace := .ok ()

/-- A process that traces one event. -/
def oneTracedEventProcess : ContextProcess Unit where
  runtime := .new 1 answersWithoutErrors
  skeletons := []

/-- The skeleton may be constructed once. -/
theorem traceContexts_last_once :
    ContextsLast oneTracedEventConfig 255 oneTracedEventProcess [.construct oneTracedEvent] ↔
      tracedConstructions oneTracedEventConfig [.construct oneTracedEvent] ≤ 1 ∧
        tracedConstructions oneTracedEventConfig [.construct oneTracedEvent] ≤ 255 :=
  traceContexts_last_iff answersWithoutErrors rfl

/-- A skeleton that is constructed, destroyed and constructed once more needs a context
for either construction, but only one was counted. -/
theorem traceContexts_run_out : ¬∀ (config : TracingFilterConfig) (maxTraceContextId : Nat)
        (answers : GenericTraceAnswers) (start : ContextProcess Unit)
        (actions : List ContextAction),
      ContextProcess.start config answers = some start → OneSkeletonEach actions [] →
        ContextsLast config maxTraceContextId start actions := by
  intro last
  obtain ⟨process, ran, _⟩ := last oneTracedEventConfig 255 answersWithoutErrors
    oneTracedEventProcess
    [.construct oneTracedEvent, .destroy "instance", .construct oneTracedEvent] rfl
    (by decide) _ [] (List.append_nil _).symm
  cases ran

end Examples

end MwCom.Tracing
