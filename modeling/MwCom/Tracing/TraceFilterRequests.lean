/-
Module: MwCom.Tracing.TraceFilterRequests
Purpose: What a trace filter document asks for, and what the calls that add trace points
  enable.
Trusted boundary: none
Main exports: Requested, FilterLaw, WellTyped, NamesElements, RequestsNoNul, RequestsFit,
  isTracePointEnabled_foldlM
-/
import MwCom.Tracing.TracingFilterConfigParser

namespace MwCom.Tracing

open Containers Json MwCom.Configuration

/-! ## Calls and what they enable -/

namespace TracePointCall

def instanceSpecifier : TracePointCall → InstanceSpecifierView
  | .skeletonEvent _ _ instanceSpecifier _ => instanceSpecifier
  | .skeletonField _ _ instanceSpecifier _ => instanceSpecifier
  | .proxyEvent _ _ instanceSpecifier _ => instanceSpecifier
  | .proxyField _ _ instanceSpecifier _ => instanceSpecifier

end TracePointCall

namespace TracingFilterConfig

/-- The overloads of `IsTracePointEnabled`. -/
def isTracePointEnabled (config : TracingFilterConfig) : TracePointCall → Bool
  | .skeletonEvent serviceType eventName instanceSpecifier tracePointType =>
      config.isSkeletonEventTracePointEnabled serviceType eventName instanceSpecifier
        tracePointType
  | .skeletonField serviceType fieldName instanceSpecifier tracePointType =>
      config.isSkeletonFieldTracePointEnabled serviceType fieldName instanceSpecifier
        tracePointType
  | .proxyEvent serviceType eventName instanceSpecifier tracePointType =>
      isTracePointEnabledInMap ⟨serviceType, eventName, .event⟩ instanceSpecifier tracePointType
        config.proxyEventTracePoints
  | .proxyField serviceType fieldName instanceSpecifier tracePointType =>
      isTracePointEnabledInMap ⟨serviceType, fieldName, .field⟩ instanceSpecifier tracePointType
        config.proxyFieldTracePoints

end TracingFilterConfig

section Enabled

variable {TracePoint : Type} [DecidableEq TracePoint]
  {serviceElement : ServiceElementIdentifierView} {instanceSpecifier : InstanceSpecifierView}
  {tracePointType : TracePoint}

theorem isTracePointEnabledInMap_cons
    {entry : TracePointKey TracePoint × List InstanceSpecifierView}
    {rest : TracePointMap TracePoint} :
    isTracePointEnabledInMap serviceElement instanceSpecifier tracePointType (entry :: rest) =
      if entry.1 = ⟨serviceElement, tracePointType⟩ then entry.2.contains instanceSpecifier
      else isTracePointEnabledInMap serviceElement instanceSpecifier tracePointType rest := by
  unfold isTracePointEnabledInMap
  by_cases isKey : entry.1 = ⟨serviceElement, tracePointType⟩
  · simp [isKey]
  · simp [isKey]

theorem isTracePointEnabledInMap_insert {key : TracePointKey TracePoint}
    {added : InstanceSpecifierView} {map : TracePointMap TracePoint} :
    isTracePointEnabledInMap serviceElement instanceSpecifier tracePointType
        (insertTracePointIntoMap key added map) = true ↔
      (key = ⟨serviceElement, tracePointType⟩ ∧ instanceSpecifier = added) ∨
        isTracePointEnabledInMap serviceElement instanceSpecifier tracePointType map = true := by
  induction map with
  | nil =>
      rw [insertTracePointIntoMap, isTracePointEnabledInMap_cons]
      by_cases isKey : key = ⟨serviceElement, tracePointType⟩
      · simp [isKey, isTracePointEnabledInMap]
      · simp [isKey, isTracePointEnabledInMap]
  | cons entry rest ih =>
      rw [insertTracePointIntoMap]
      by_cases same : entry.1 = key
      · rw [if_pos same, isTracePointEnabledInMap_cons, isTracePointEnabledInMap_cons, same]
        by_cases isKey : key = ⟨serviceElement, tracePointType⟩
        · simp [isKey]
        · simp [isKey]
      · rw [if_neg same, isTracePointEnabledInMap_cons, isTracePointEnabledInMap_cons]
        by_cases isKey : entry.1 = ⟨serviceElement, tracePointType⟩
        · have differs : key ≠ ⟨serviceElement, tracePointType⟩ := by
            intro isSame
            exact same (isKey.trans isSame.symm)
          simp [isKey, differs]
        · simp only [isKey, if_false]
          exact ih

variable {config after : TracingFilterConfig} {asked call : TracePointCall}

/-- A call enables what is kept of it. -/
theorem isTracePointEnabled_addTracePoint (added : config.addTracePoint call = some after) :
    after.isTracePointEnabled asked = true ↔
      asked = call.stored ∨ config.isTracePointEnabled asked = true := by
  cases call <;>
    (obtain ⟨map, isMap, rfl⟩ := Option.map_eq_some_iff.mp added
     cases TracingFilterConfig.addTracePointToMap_eq_some isMap
     cases asked <;>
      simp [TracingFilterConfig.isTracePointEnabled,
        TracingFilterConfig.isSkeletonEventTracePointEnabled,
        TracingFilterConfig.isSkeletonFieldTracePointEnabled, TracePointCall.stored,
        isTracePointEnabledInMap_insert] <;> grind)

theorem isTracePointEnabled_foldlM {calls : List TracePointCall}
    (added : calls.foldlM TracingFilterConfig.addTracePoint config = some after) :
    after.isTracePointEnabled asked = true ↔
      (∃ call ∈ calls, asked = call.stored) ∨ config.isTracePointEnabled asked = true := by
  induction calls generalizing config with
  | nil =>
      cases added
      simp
  | cons first rest ih =>
      obtain ⟨between, isBetween, isAfter⟩ := Option.bind_eq_some_iff.mp added
      rw [ih isAfter, isTracePointEnabled_addTracePoint isBetween]
      simp [or_left_comm, or_assoc]

theorem not_isTracePointEnabled_empty :
    TracingFilterConfig.empty.isTracePointEnabled asked = false := by
  cases asked <;> rfl

end Enabled

namespace TracingFilterConfigParser

/-! ## What a document asks for -/

section Asked

variable {Any Object Value TracePoint : Type} (json : JsonLibrary Any Object)

/-- The property is there and true. -/
def IsTrue (object : Object) (property : String) : Prop :=
  getValueFromJson json json.asBool object property = some true

/-- Some property that is mapped to the trace point is true. -/
def SetsMapped (object : Object) (mappings : List (String × TracePoint))
    (tracePointType : TracePoint) : Prop :=
  ∃ property, (property, tracePointType) ∈ mappings ∧ IsTrue json object property

def SetsInSubObject (object : Object) (subObjectName : String)
    (mappings : List (String × TracePoint)) (tracePointType : TracePoint) : Prop :=
  ∃ block, getValueFromJson json json.asObject object subObjectName = some block ∧
    SetsMapped json block mappings tracePointType

/-- What an entry asks for, of an event in its own properties and of a field in those of
its sub-objects. -/
def SetsTracePoint (object : Object) : TracePointCall → Prop
  | .skeletonEvent _ _ _ tracePointType =>
      SetsMapped json object filterPropertySkeletonEventMappings tracePointType
  | .proxyEvent _ _ _ tracePointType =>
      SetsMapped json object filterPropertyProxyEventMappings tracePointType
  | .skeletonField _ _ _ tracePointType =>
      SetsInSubObject json object "notifier" filterPropertySkeletonFieldNotifierMappings
          tracePointType ∨
        SetsInSubObject json object "getter" filterPropertySkeletonFieldGetterMappings
          tracePointType ∨
        SetsInSubObject json object "setter" filterPropertySkeletonFieldSetterMappings
          tracePointType
  | .proxyField _ _ _ tracePointType =>
      SetsInSubObject json object "notifier" filterPropertyProxyFieldNotifierMappings
          tracePointType ∨
        SetsInSubObject json object "getter" filterPropertyProxyFieldGetterMappings
          tracePointType ∨
        SetsInSubObject json object "setter" filterPropertyProxyFieldSetterMappings
          tracePointType

/-- The list of a service entry in which elements of the kind are. -/
def elementsKey : ServiceElementType → String
  | .event => "events"
  | .field => "fields"
  | .method => "methods"
  | .invalid => ""

/-- An entry with the name of the element asks for the trace point. -/
def EntryAsks (element : Any) (call : TracePointCall) : Prop :=
  ∃ object, json.asObject element = some object ∧
    getValueFromJson json json.asString object "shortname" =
      some call.serviceElement.serviceElementName ∧
    SetsTracePoint json object call

def ServiceAsks (service : Any) (call : TracePointCall) : Prop :=
  ∃ object, json.asObject service = some object ∧
    getValueFromJson json json.asString object "shortname_path" =
      some call.serviceElement.serviceTypeName ∧
    ∃ elements, getValueFromJson json json.asList object
        (elementsKey call.serviceElement.serviceElementType) = some elements ∧
      ∃ element ∈ elements, EntryAsks json element call

def DocumentAsks (document : Any) (call : TracePointCall) : Prop :=
  ∃ object, json.asObject document = some object ∧
    ∃ services, getValueFromJson json json.asList object "services" = some services ∧
      ∃ service ∈ services, ServiceAsks json service call

variable (configuration : Configuration.Configuration)

/-- A deployment of the service type has the element. -/
def HasElement (serviceElement : ServiceElementIdentifierView) : Prop :=
  ∃ entry ∈ configuration.serviceTypes.entries,
    entry.1.serviceTypeName = serviceElement.serviceTypeName ∧
      ∃ deployment, entry.2 = .lola deployment ∧
        match serviceElement.serviceElementType with
        | .event => serviceElement.serviceElementName ∈ deployment.events.entries.map Prod.fst
        | .field => serviceElement.serviceElementName ∈ deployment.fields.entries.map Prod.fst
        | _ => False

/-- An instance of the service type has the specifier, and tracing of the element is
enabled for it. -/
def TracesInstance (serviceElement : ServiceElementIdentifierView)
    (instanceSpecifier : InstanceSpecifierView) : Prop :=
  ∃ entry ∈ configuration.serviceInstances.entries,
    entry.2.service.serviceTypeName = serviceElement.serviceTypeName ∧
      entry.1.instanceSpecifierString = instanceSpecifier ∧
      ∃ specifiers, configuration.tracingConfiguration.serviceElementTracingEnabledMap.find
          serviceElement = some specifiers ∧ entry.1 ∈ specifiers

/-- The service type is configured, has the element and the traced instance, and some entry
for the element asks for the trace point. -/
structure Requested (document : Any) (call : TracePointCall) : Prop where
  hasElement : HasElement configuration call.serviceElement
  tracesInstance : TracesInstance configuration call.serviceElement call.instanceSpecifier
  asks : DocumentAsks json document call

/-- The document is read without an end, and the filter enables what it requests. -/
def FilterLaw (document : Any) : Prop := ∃ filter, parse json configuration document = some filter ∧
    ∀ call, filter.isTracePointEnabled call = true ↔ Requested json configuration document call

/-! ## Documents whose properties have the expected types -/

/-- The property has the type if it is there, and its value is of the kind. -/
def Typed (as : Any → Option Value) (object : Object) (key : String)
    (IsKind : Value → Prop) : Prop :=
  ∀ property, json.find object key = some property →
    ∃ value, as property = some value ∧ IsKind value

def HasBools (object : Object) (properties : List String) : Prop :=
  ∀ property ∈ properties, Typed json json.asBool object property fun _ => True

def WellTypedEvent (event : Any) : Prop := ∃ object, json.asObject event = some object ∧
    Typed json json.asString object "shortname" (fun _ => True) ∧
    HasBools json object (filterPropertyProxyEventMappings.map Prod.fst) ∧
    HasBools json object (filterPropertySkeletonEventMappings.map Prod.fst) ∧
    HasBools json object serviceElementNotifierFilterPropertiesNotImplemented

def WellTypedField (field : Any) : Prop := ∃ object, json.asObject field = some object ∧
    Typed json json.asString object "shortname" (fun _ => True) ∧
    Typed json json.asObject object "notifier" (fun block =>
      HasBools json block (filterPropertyProxyFieldNotifierMappings.map Prod.fst) ∧
      HasBools json block (filterPropertySkeletonFieldNotifierMappings.map Prod.fst) ∧
      HasBools json block serviceElementNotifierFilterPropertiesNotImplemented) ∧
    Typed json json.asObject object "getter" (fun block =>
      HasBools json block (filterPropertyProxyFieldGetterMappings.map Prod.fst) ∧
      HasBools json block (filterPropertySkeletonFieldGetterMappings.map Prod.fst)) ∧
    Typed json json.asObject object "setter" (fun block =>
      HasBools json block (filterPropertyProxyFieldSetterMappings.map Prod.fst) ∧
      HasBools json block (filterPropertySkeletonFieldSetterMappings.map Prod.fst))

def WellTypedService (service : Any) : Prop := ∃ object, json.asObject service = some object ∧
    Typed json json.asString object "shortname_path" (fun _ => True) ∧
    Typed json json.asList object "events" (fun events =>
      ∀ event ∈ events, WellTypedEvent json event) ∧
    Typed json json.asList object "fields" (fun fields =>
      ∀ field ∈ fields, WellTypedField json field) ∧
    Typed json json.asList object "methods" (fun _ => True)

def WellTyped (document : Any) : Prop := ∃ object, json.asObject document = some object ∧
    Typed json json.asList object "services" fun services =>
      ∀ service ∈ services, WellTypedService json service

/-! ## Documents that name their elements -/

/-- The entry has a name. -/
def Names (element : Any) : Prop :=
  ∀ object, json.asObject element = some object → json.find object "shortname" ≠ none

/-- The events and fields of a service entry for a configured type have names. -/
def ServiceNames (service : Any) : Prop := ∀ object, json.asObject service = some object →
    ∀ shortnamePath,
      getValueFromJson json json.asString object "shortname_path" = some shortnamePath →
      shortnamePath ∈ configuredServiceTypes configuration →
      ∀ key ∈ ["events", "fields"], ∀ elements,
        getValueFromJson json json.asList object key = some elements →
          ∀ element ∈ elements, Names json element

def NamesElements (document : Any) : Prop := ∀ object, json.asObject document = some object →
    ∀ services, getValueFromJson json json.asList object "services" = some services →
      ∀ service ∈ services, ServiceNames json configuration service

end Asked

/-- A text that is a C string. -/
def HasNoNul (text : String) : Prop := Char.ofNat 0 ∉ text.toList

/-- The names of what is requested are C strings. -/
def RequestsNoNul {Any Object : Type} (json : JsonLibrary Any Object)
    (configuration : Configuration.Configuration) (document : Any) : Prop :=
  ∀ call, Requested json configuration document call →
    HasNoNul call.serviceElement.serviceTypeName ∧ HasNoNul call.serviceElement.serviceElementName

/-- The names of what is requested fit into the buffer of the hash. -/
def RequestsFit {Any Object : Type} (json : JsonLibrary Any Object)
    (configuration : Configuration.Configuration) (document : Any) : Prop :=
  ∀ call, Requested json configuration document call → call.Fits

end TracingFilterConfigParser

end MwCom.Tracing
