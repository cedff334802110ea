/-
Module: MwCom.Configuration.TracingSlots
Purpose: How many slots an element is given that is traced, and one that is not.
Trusted boundary: none
Main exports: SlotsDimensioned, slotsDimensioned_iff
-/
import MwCom.Configuration.ConfigParser
import MwCom.Configuration.RoundTrip

namespace MwCom.Configuration

open Containers Json
open Tracing (ServiceElementType)

variable {Any Object : Type} {json : ConfigLibrary Any Object} {document : Any}
  {configuration : Configuration}

/-! ## What is parsed is not marked as traced -/

namespace ConfigParser

variable {object : Object} {deployment : LolaEventInstanceDeployment}

theorem isTracingEnabled_of_fillWith {Value : Type} {as : Any → Option Value}
    {set : LolaEventInstanceDeployment → Value → LolaEventInstanceDeployment} {key : String}
    {filled : LolaEventInstanceDeployment}
    (isFilled : fillWith json as set object key deployment = some filled)
    (unmarked : deployment.isTracingEnabled = false) (keeps : ∀ deployment value,
      (set deployment value).isTracingEnabled = deployment.isTracingEnabled) :
    filled.isTracingEnabled = false := by
  rw [fillWith] at isFilled
  obtain ⟨value, -, isFilled⟩ := Option.bind_eq_some_iff.mp isFilled
  cases value with
  | none =>
      cases isFilled
      exact unmarked
  | some value =>
      cases isFilled
      rw [keeps]
      exact unmarked

/-- The members of a deployment that are filled in one after the other. -/
theorem isTracingEnabled_of_fill
    {slots subscribers allocations filled : LolaEventInstanceDeployment}
    (unmarked : deployment.isTracingEnabled = false)
    (fillSlots : fillNumberOfSampleSlots json object "numberOfSampleSlots" deployment = some slots)
    (fillSubscribers : fillMaxSubscribers json object "maxSubscribers" slots = some subscribers)
    (fillAllocations : fillMaxConcurrentAllocations json object "maxConcurrentAllocations"
      subscribers = some allocations)
    (fillEnforce : fillEnforceMaxSamples json object "enforceMaxSamples" allocations =
      some filled) :
    filled.isTracingEnabled = false := by
  have slotsUnmarked := isTracingEnabled_of_fillWith fillSlots unmarked fun _ _ => rfl
  have subscribersUnmarked :=
    isTracingEnabled_of_fillWith fillSubscribers slotsUnmarked fun _ _ => rfl
  have allocationsUnmarked :=
    isTracingEnabled_of_fillWith fillAllocations subscribersUnmarked fun _ _ => rfl
  exact isTracingEnabled_of_fillWith fillEnforce allocationsUnmarked fun _ _ => rfl

theorem isTracingEnabled_of_parseEventInstance {event : Any} {name : String}
    (parsed : parseEventInstance json event = some (name, deployment)) :
    deployment.isTracingEnabled = false := by
  simp only [parseEventInstance, Option.bind_eq_bind, Option.bind_eq_some_iff,
    Option.pure_def, Option.some.injEq, Prod.mk.injEq] at parsed
  obtain ⟨object, -, -, -, found, -, -, -, samples, fillSamples, slots, fillSlots, subscribers,
    fillSubscribers, allocations, fillAllocations, filled, fillEnforce, -, rfl⟩ := parsed
  have samplesUnmarked := isTracingEnabled_of_fillWith fillSamples rfl fun _ _ => rfl
  exact isTracingEnabled_of_fill samplesUnmarked fillSlots fillSubscribers fillAllocations
    fillEnforce

theorem isTracingEnabled_of_parseFieldInstance {field : Any} {name : String}
    {deployment : LolaFieldInstanceDeployment}
    (parsed : parseFieldInstance json field = some (name, deployment)) :
    deployment.isTracingEnabled = false := by
  simp only [parseFieldInstance, Option.bind_eq_bind, Option.bind_eq_some_iff,
    Option.pure_def, Option.some.injEq, Prod.mk.injEq] at parsed
  obtain ⟨object, -, -, -, found, -, slots, fillSlots, subscribers, fillSubscribers,
    allocations, fillAllocations, filled, fillEnforce, -, rfl⟩ := parsed
  exact isTracingEnabled_of_fill rfl fillSlots fillSubscribers fillAllocations fillEnforce

/-- An element that is found is one of those that were listed. -/
theorem find_of_parseElements {Value : Type} {parseElement : Any → Option (String × Value)}
    {key name : String} {elements : UnorderedMap String Value} {value : Value}
    (parsed : parseElements json parseElement object key = some elements)
    (found : elements.find name = some value) :
    ∃ element, parseElement element = some (name, value) := by
  rw [parseElements] at parsed
  split at parsed
  · cases parsed
    cases found
  · obtain ⟨listed, -, isFilled⟩ := Option.bind_eq_some_iff.mp parsed
    obtain before | ⟨element, -, isParsed⟩ := UnorderedMap.find_of_fill isFilled found
    · cases before
    · exact ⟨element, isParsed⟩

theorem untraced_of_parseLolaServiceInstanceDeployment {lola : LolaServiceInstanceDeployment}
    (parsed : parseLolaServiceInstanceDeployment json object = some lola) : lola.Untraced := by
  simp only [parseLolaServiceInstanceDeployment, Option.bind_eq_bind, Option.bind_eq_some_iff,
    Option.pure_def, Option.some.injEq] at parsed
  obtain ⟨size, -, id, -, events, parsedEvents, fields, parsedFields, -, -, -, -, -, -, rfl⟩ :=
    parsed
  constructor
  · intro name event found
    obtain ⟨element, isParsed⟩ := find_of_parseElements parsedEvents found
    exact isTracingEnabled_of_parseEventInstance isParsed
  · intro name field found
    obtain ⟨element, isParsed⟩ := find_of_parseElements parsedFields found
    exact isTracingEnabled_of_parseFieldInstance isParsed

/-- A deployment as the parser makes it for a specifier. -/
structure Parsed (specifier : InstanceSpecifier) (deployment : ServiceInstanceDeployment) :
    Prop where
  specifier : deployment.instanceSpecifier = specifier
  service : Char.ofNat 0 ∉ deployment.service.serviceTypeName.toList
  untraced : deployment.bindingInfo.Untraced

theorem not_mem_cString (text : String) : Char.ofNat 0 ∉ (String.ofList (cString text)).toList := by
  rw [String.toList_ofList]
  intro member
  have differs := List.mem_takeWhile_imp member
  simp at differs

/-- The name of a service ends before its first NUL. -/
theorem service_of_parseServiceTypeIdentifier {service : ServiceIdentifierType}
    (parsed : parseServiceTypeIdentifier json object = some service) :
    Char.ofNat 0 ∉ service.serviceTypeName.toList := by
  simp only [parseServiceTypeIdentifier, Option.bind_eq_bind, Option.bind_eq_some_iff,
    Option.pure_def, Option.some.injEq] at parsed
  obtain ⟨name, -, version, -, rfl⟩ := parsed
  exact not_mem_cString name

theorem parsed_of_parseServiceInstanceDeployments {tracing after : TracingConfiguration}
    {service : ServiceIdentifierType} {specifier : InstanceSpecifier}
    {deployments : List ServiceInstanceDeployment}
    (clean : Char.ofNat 0 ∉ service.serviceTypeName.toList)
    (parsed : parseServiceInstanceDeployments json object tracing service specifier =
      some (deployments, after)) :
    ∀ deployment ∈ deployments, Parsed specifier deployment := by
  obtain ⟨listed, -, folded⟩ := Option.bind_eq_some_iff.mp parsed
  refine foldlM_keeps
    (fun made : List ServiceInstanceDeployment × TracingConfiguration =>
      ∀ deployment ∈ made.1, Parsed specifier deployment) ?_ (by simp) folded
  intro made item result kept isMade
  obtain ⟨soFar, tracingSoFar⟩ := made
  simp only [parseServiceInstanceDeployment, Option.bind_eq_bind, Option.bind_eq_some_iff] at isMade
  obtain ⟨object, -, level, -, asilLevel, -, -, -, binding, -, -, -, lola, parsedLola, isMade⟩ :=
    isMade
  have extended : result.1 = soFar ++ [⟨service, .lola lola, asilLevel, specifier⟩] := by
    split at isMade
    · simp only [Option.bind_eq_some_iff, Option.pure_def] at isMade
      obtain ⟨_, -, _, -, isMade⟩ := isMade
      cases isMade
      rfl
    · cases isMade
      rfl
  intro deployment member
  rw [extended] at member
  obtain before | isNew := List.mem_append.mp member
  · exact kept deployment before
  · obtain rfl := List.mem_singleton.mp isNew
    exact ⟨rfl, clean, untraced_of_parseLolaServiceInstanceDeployment parsedLola⟩

theorem parsed_of_parseServiceInstances {tracing after : TracingConfiguration}
    {instances : UnorderedMap InstanceSpecifier ServiceInstanceDeployment}
    (parsed : parseServiceInstances json object tracing = some (instances, after)) :
    ∀ specifier deployment, instances.find specifier = some deployment →
      Parsed specifier deployment := by
  obtain ⟨listed, -, folded⟩ := Option.bind_eq_some_iff.mp parsed
  refine foldlM_keeps
    (fun made : UnorderedMap InstanceSpecifier ServiceInstanceDeployment × TracingConfiguration =>
      ∀ specifier deployment, made.1.find specifier = some deployment →
        Parsed specifier deployment) ?_ ?_ folded
  · intro made item result kept isMade
    obtain ⟨soFar, tracingSoFar⟩ := made
    simp only [parseServiceInstance, Option.bind_eq_bind, Option.bind_eq_some_iff] at isMade
    obtain ⟨object, -, specifier, -, service, parsedService, ⟨deployments, tracing⟩,
      parsedDeployments, isMade⟩ := isMade
    split at isMade
    · rename_i deployment isOnly
      simp only [Option.bind_eq_some_iff, Option.pure_def, Option.some.injEq] at isMade
      obtain ⟨extended, isInserted, rfl⟩ := isMade
      intro sought found isFound
      rw [(UnorderedMap.find_insert? isInserted sought).2] at isFound
      by_cases same : sought = specifier
      · rw [if_pos same] at isFound
        cases isFound
        rw [same]
        apply parsed_of_parseServiceInstanceDeployments
          (service_of_parseServiceTypeIdentifier parsedService) parsedDeployments
        have only : deployments = [deployment] := isOnly
        simp [only]
      · rw [if_neg same] at isFound
        exact kept sought found isFound
    · cases isMade
  · intro specifier deployment found
    cases found

/-- What holds of a document that is accepted. -/
theorem parsed_of_parse (parsed : parse json document = some configuration)
    {specifier : InstanceSpecifier} {deployment : ServiceInstanceDeployment}
    (present : configuration.serviceInstances.find specifier = some deployment) :
    Parsed specifier deployment := by
  simp only [parse, Option.bind_eq_bind, Option.bind_eq_some_iff, Option.pure_def,
    Option.some.injEq] at parsed
  obtain ⟨object, -, tracing, -, serviceTypes, -, ⟨instances, after⟩, parsedInstances, global, -,
    -, -, -, -, rfl⟩ := parsed
  exact parsed_of_parseServiceInstances parsedInstances specifier deployment present

end ConfigParser

/-! ## The law -/

/-- The elements of a kind. -/
def LolaServiceInstanceDeployment.elements (lola : LolaServiceInstanceDeployment) :
    ServiceElementType → UnorderedMap String LolaEventInstanceDeployment
  | .event => lola.events
  | .field => lola.fields
  | _ => .empty

theorem LolaServiceInstanceDeployment.Untraced.element {lola : LolaServiceInstanceDeployment}
    (untraced : lola.Untraced) {elementType : ServiceElementType} {name : String}
    {element : LolaEventInstanceDeployment}
    (found : (lola.elements elementType).find name = some element) :
    element.isTracingEnabled = false := by
  cases elementType with
  | event => exact untraced.1 name element found
  | field => exact untraced.2 name element found
  | invalid => cases found
  | method => cases found

/-- An element has the slots that are configured, and one more if it is traced; the numbers
have no limit here. -/
def SlotsDimensioned (element : LolaEventInstanceDeployment) (slots : BitVec 16)
    (traced : Bool) : Prop :=
  element.getNumberOfSampleSlots.map BitVec.toNat = some (slots.toNat + if traced then 1 else 0) ∧
    element.getNumberOfSampleSlotsExcludingTracingSlot = some slots

/-- The law holds of the elements that are not enabled for tracing, and of no others. -/
theorem slotsDimensioned_iff {specifier : InstanceSpecifier}
    {deployment : ServiceInstanceDeployment} {lola : LolaServiceInstanceDeployment}
    {elementType : ServiceElementType} {name : String} {element : LolaEventInstanceDeployment}
    {slots : BitVec 16} (parsed : ConfigParser.parse json document = some configuration)
    (present : configuration.serviceInstances.find specifier = some deployment)
    (binding : deployment.bindingInfo = .lola lola)
    (found : (lola.elements elementType).find name = some element)
    (configured : element.numberOfSampleSlots = some slots) :
    ∃ traced, configuration.tracingConfiguration.isServiceElementTracingEnabled
        ⟨deployment.service.serviceTypeName, name, elementType⟩
        specifier.instanceSpecifierString = some traced ∧
      (SlotsDimensioned element slots traced ↔ traced = false) := by
  have untraced : lola.Untraced := by
    have ofBinding := (ConfigParser.parsed_of_parse parsed present).untraced
    rw [binding] at ofBinding
    exact ofBinding
  have unmarked := untraced.element found
  have answers : ∃ traced, configuration.tracingConfiguration.isServiceElementTracingEnabled
      ⟨deployment.service.serviceTypeName, name, elementType⟩
      specifier.instanceSpecifierString = some traced := by
    rw [TracingConfiguration.isServiceElementTracingEnabled]
    split
    · exact ⟨false, rfl⟩
    · rw [InstanceSpecifier.create_instanceSpecifierString]
      exact ⟨_, rfl⟩
  obtain ⟨traced, isAnswer⟩ := answers
  refine ⟨traced, isAnswer, ?_⟩
  cases traced <;>
    simp [SlotsDimensioned, LolaEventInstanceDeployment.getNumberOfSampleSlots,
      LolaEventInstanceDeployment.getNumberOfSampleSlotsExcludingTracingSlot, configured, unmarked]

section Inputs

/-- A JSON library for configurations; a number is read if it is not negative. -/
def sortedConfig : ConfigLibrary JsonValue JsonObject where
  toJsonLibrary := sortedJson
  asSigned width
    | .number value => if value < 2 ^ (width - 1) then some (.ofNat width value) else none
    | _ => none

def serviceName : List (String × JsonValue) := [("serviceTypeName", .string "/bmw/service"),
    ("version", .object [("major", .number 1), ("minor", .number 0)])]

/-- One instance of one service with one event of five slots. -/
def documentWith (traced : Bool) : JsonValue := .object
    [("serviceInstances", .list [.object ([("instanceSpecifier", .string "abc/port"),
          ("instances", .list [.object [("asil-level", .string "QM"), ("binding", .string "SHM"),
                ("events", .list [.object
                    [("enableIpcTracing", .bool traced), ("eventName", .string "event"),
                      ("numberOfSampleSlots", .number 5)]]),
                ("instanceId", .number 1)]])] ++ serviceName)]), ("serviceTypes", .list [.object
          ([("bindings", .list [.object [("binding", .string "SHM"), ("events", .list
                  [.object [("eventId", .number 1), ("eventName", .string "event")]]),
                ("serviceId", .number 7)]])] ++ serviceName)]), ("tracing", .object
        [("applicationInstanceID", .string "app"), ("enable", .bool true)])]

def configuredSpecifier : InstanceSpecifier := ⟨"abc/port", isShortNameValid_port⟩

/-- What is found of the event in a configuration. -/
def configuredEvent (configuration : Configuration) :
    Option (ServiceInstanceDeployment × LolaServiceInstanceDeployment ×
      LolaEventInstanceDeployment) := do
  let deployment ← configuration.serviceInstances.find configuredSpecifier
  match deployment.bindingInfo with
  | .lola lola => do
      let event ← (lola.elements .event).find "event"
      pure (deployment, lola, event)
  | _ => none

/-- The document is accepted, and its event is there with five slots. -/
theorem exists_configuredEvent (traced : Bool) : ∃ configuration deployment lola event,
      ConfigParser.parse sortedConfig (documentWith traced) = some configuration ∧
        configuration.serviceInstances.find configuredSpecifier = some deployment ∧
        deployment.bindingInfo = .lola lola ∧
        (lola.elements .event).find "event" = some event ∧
        event.numberOfSampleSlots = some 5 ∧
        configuration.tracingConfiguration.isServiceElementTracingEnabled
          ⟨deployment.service.serviceTypeName, "event", .event⟩
          configuredSpecifier.instanceSpecifierString = some traced := by
  have evaluated : ((ConfigParser.parse sortedConfig (documentWith traced)).any
      fun configuration => (configuredEvent configuration).any
        fun (deployment, lola, event) =>
          decide (event.numberOfSampleSlots = some 5 ∧
            configuration.tracingConfiguration.isServiceElementTracingEnabled
              ⟨deployment.service.serviceTypeName, "event", .event⟩
              configuredSpecifier.instanceSpecifierString = some traced)) = true := by
    cases traced <;> decide +kernel
  obtain ⟨configuration, parsed, evaluated⟩ := (Option.any_eq_true _ _).mp evaluated
  obtain ⟨⟨deployment, lola, event⟩, isEvent, evaluated⟩ := (Option.any_eq_true _ _).mp evaluated
  obtain ⟨configured, enabled⟩ := of_decide_eq_true evaluated
  obtain ⟨found, present, isEvent⟩ := Option.bind_eq_some_iff.mp isEvent
  split at isEvent
  · rename_i binding
    obtain ⟨element, isElement, isEvent⟩ := Option.bind_eq_some_iff.mp isEvent
    cases isEvent
    exact ⟨configuration, deployment, lola, event, parsed, present, binding, isElement,
      configured, enabled⟩
  · cases isEvent

/-- The event that is not traced has its five slots. -/
theorem slotsDimensioned_untraced : ∃ configuration deployment lola event,
      ConfigParser.parse sortedConfig (documentWith false) = some configuration ∧
        configuration.serviceInstances.find configuredSpecifier = some deployment ∧
        deployment.bindingInfo = .lola lola ∧
        (lola.elements .event).find "event" = some event ∧
        SlotsDimensioned event 5 false := by
  obtain ⟨configuration, deployment, lola, event, parsed, present, binding, found, configured,
    enabled⟩ := exists_configuredEvent false
  obtain ⟨traced, isTraced, dimensioned⟩ :=
    slotsDimensioned_iff parsed present binding found configured
  rw [enabled] at isTraced
  cases isTraced
  exact ⟨configuration, deployment, lola, event, parsed, present, binding, found,
    dimensioned.mpr rfl⟩

/-- The event that is traced has no slot for it. -/
theorem slotsDimensioned_violated :
    ¬ ∀ (configuration : Configuration) (deployment : ServiceInstanceDeployment)
        (lola : LolaServiceInstanceDeployment) (event : LolaEventInstanceDeployment),
      ConfigParser.parse sortedConfig (documentWith true) = some configuration →
        configuration.serviceInstances.find configuredSpecifier = some deployment →
        deployment.bindingInfo = .lola lola →
        (lola.elements .event).find "event" = some event →
        configuration.tracingConfiguration.isServiceElementTracingEnabled
          ⟨deployment.service.serviceTypeName, "event", .event⟩
          configuredSpecifier.instanceSpecifierString = some true →
        SlotsDimensioned event 5 true := by
  intro law
  obtain ⟨configuration, deployment, lola, event, parsed, present, binding, found, configured,
    enabled⟩ := exists_configuredEvent true
  have dimensioned := law configuration deployment lola event parsed present binding found enabled
  have unmarked : event.isTracingEnabled = false := by
    have untraced := (ConfigParser.parsed_of_parse parsed present).untraced
    rw [binding] at untraced
    exact LolaServiceInstanceDeployment.Untraced.element untraced found
  have slots := dimensioned.1
  simp [LolaEventInstanceDeployment.getNumberOfSampleSlots, configured, unmarked] at slots

end Inputs

end MwCom.Configuration
