/-
Module: MwCom.Tracing.TracingFilterConfigParser
Purpose: Reading from a trace filter document which trace points are enabled.
Trusted boundary: the JSON library reads the text of the document; what is logged is left
  out.
Main exports: parse, parseService, parseEvent, parseField
-/
import Mathlib.Data.Finset.Sort
import MwCom.Configuration.ConfigParser
import MwCom.Containers.Accumulation
import MwCom.Tracing.TraceContextCount

namespace MwCom.Tracing

open Containers Json MwCom.Configuration

/-! ## Properties of the document -/

namespace TracingFilterConfigParser

/-- Properties that are only warned about. -/
def serviceElementNotifierFilterPropertiesNotImplemented : List String :=
  ["trace_subscribe_received", "trace_unsubscribe_received"]

def filterPropertyProxyEventMappings : List (String × ProxyEventTracePointType) :=
  [("trace_subscribe_send", .subscribe), ("trace_unsubscribe_send", .unsubscribe),
    ("trace_subscription_state_changed", .subscribeStateChange),
    ("trace_subscription_state_change_handler_registered", .setSubscriptionStateChangeHandler),
    ("trace_subscription_state_change_handler_deregistered", .unsetSubscriptionStateChangeHandler),
    ("trace_subscription_state_change_handler_callback", .subscriptionStateChangeHandlerCallback),
    ("trace_get_new_samples", .getNewSamples),
    ("trace_get_new_samples_callback", .getNewSamplesCallback),
    ("trace_receive_handler_registered", .setReceiveHandler),
    ("trace_receive_handler_deregistered", .unsetReceiveHandler),
    ("trace_receive_handler_callback", .receiveHandlerCallback)]

def filterPropertySkeletonEventMappings : List (String × SkeletonEventTracePointType) :=
  [("trace_send_allocate", .sendWithAllocate), ("trace_send", .send)]

def filterPropertyProxyFieldNotifierMappings : List (String × ProxyFieldTracePointType) :=
  [("trace_subscribe_send", .subscribe), ("trace_unsubscribe_send", .unsubscribe),
    ("trace_subscription_state_changed", .subscribeStateChange),
    ("trace_subscription_state_change_handler_registered", .setSubscriptionStateChangeHandler),
    ("trace_subscription_state_change_handler_deregistered", .unsetSubscriptionStateChangeHandler),
    ("trace_subscription_state_change_handler_callback", .subscriptionStateChangeHandlerCallback),
    ("trace_get_new_samples", .getNewSamples),
    ("trace_get_new_samples_callback", .getNewSamplesCallback),
    ("trace_receive_handler_registered", .setReceiveHandler),
    ("trace_receive_handler_deregistered", .unsetReceiveHandler),
    ("trace_receive_handler_callback", .receiveHandlerCallback)]

def filterPropertyProxyFieldGetterMappings : List (String × ProxyFieldTracePointType) :=
  [("trace_request_send", .get), ("trace_response_received", .getResult)]

def filterPropertyProxyFieldSetterMappings : List (String × ProxyFieldTracePointType) :=
  [("trace_request_send", .set), ("trace_response_received", .setResult)]

/-- One property enables both ways to update a field. -/
def filterPropertySkeletonFieldNotifierMappings : List (String × SkeletonFieldTracePointType) :=
  [("trace_update", .updateWithAllocate), ("trace_update", .update)]

def filterPropertySkeletonFieldGetterMappings : List (String × SkeletonFieldTracePointType) :=
  [("trace_request_received", .getCall), ("trace_response_send", .getCallResult)]

def filterPropertySkeletonFieldSetterMappings : List (String × SkeletonFieldTracePointType) :=
  [("trace_request_received", .setCall), ("trace_response_send", .setCallResult)]

/-! ## What the configuration says -/

section Lookup

variable (configuration : Configuration.Configuration) (serviceType : String)

def getInstancesOfServiceType : Finset String := ((configuration.serviceInstances.entries.filter
    fun entry => entry.2.service.serviceTypeName = serviceType).map
      fun entry => entry.1.instanceSpecifierString).toFinset

/-- `none`: there are no elements of the kind, and the process ends. -/
def elementNames (elementType : ServiceElementType) : ServiceTypeDeployment → Option (List String)
  | .lola deployment =>
      match elementType with
      | .event => some (deployment.events.entries.map Prod.fst)
      | .field => some (deployment.fields.entries.map Prod.fst)
      | _ => none
  | .blank => some []

/-- The elements of all versions of the service type. -/
def getElementNamesOfServiceType (elementType : ServiceElementType) : Option (List String) :=
  (((configuration.serviceTypes.entries.filter
    fun entry => entry.1.serviceTypeName = serviceType).mapM
      fun entry => elementNames elementType entry.2)).map List.flatten

def configuredServiceTypes : List String :=
  configuration.serviceTypes.entries.map fun entry => entry.1.serviceTypeName

end Lookup

/-! ## Reading -/

section Reading

variable {Any Object TracePoint : Type} (json : JsonLibrary Any Object)

/-- `none` throughout: the process ends, or the end of an object is read. -/
def isOptionalBoolPropertyEnabled (object : Object) (boolPropertyName : String) : Option Bool :=
  match json.find object boolPropertyName with
  | none => some false
  | some property => json.asBool property

def addTracePoint (object : Object) (boolPropName : String) (call : TracePointCall)
    (filterConfig : TracingFilterConfig) : Option TracingFilterConfig := do
  if ← isOptionalBoolPropertyEnabled json object boolPropName then
    filterConfig.addTracePoint call
  else
    pure filterConfig

/-- The loop over the mappings of a kind of trace points. -/
def addTracePoints (object : Object) (mappings : List (String × TracePoint))
    (call : TracePoint → TracePointCall) (filterConfig : TracingFilterConfig) :
    Option TracingFilterConfig :=
  mappings.foldlM
    (fun filterConfig mapping => addTracePoint json object mapping.1 (call mapping.2) filterConfig)
    filterConfig

/-- The loop over the properties that are not implemented. -/
def warnNotImplementedTracePoints (object : Object) : Option Unit :=
  serviceElementNotifierFilterPropertiesNotImplemented.forM fun property => do
    let _ ← isOptionalBoolPropertyEnabled json object property
    pure ()

def addTracePointsFromSubObject (object : Object) (subObjectName : String)
    (mappings : List (String × TracePoint)) (call : TracePoint → TracePointCall)
    (filterConfig : TracingFilterConfig) : Option TracingFilterConfig :=
  match json.find object subObjectName with
  | none => some filterConfig
  | some block => do
      let block ← json.asObject block
      addTracePoints json block mappings call filterConfig

def warnNotImplementedTracePointsFromSubObject (object : Object) (subObjectName : String) :
    Option Unit :=
  match json.find object subObjectName with
  | none => some ()
  | some block => do
      let block ← json.asObject block
      warnNotImplementedTracePoints json block

/-- The trace points of an event for one instance. -/
def addEventTracePoints (object : Object) (serviceType eventName : String)
    (instance' : InstanceSpecifierView) (filterConfig : TracingFilterConfig) :
    Option TracingFilterConfig := do
  let filterConfig ← addTracePoints json object filterPropertyProxyEventMappings
    (.proxyEvent serviceType eventName instance') filterConfig
  let filterConfig ← addTracePoints json object filterPropertySkeletonEventMappings
    (.skeletonEvent serviceType eventName instance') filterConfig
  warnNotImplementedTracePoints json object
  pure filterConfig

/-- The trace points of a field for one instance. -/
def addFieldTracePoints (object : Object) (serviceType fieldName : String)
    (instance' : InstanceSpecifierView) (filterConfig : TracingFilterConfig) :
    Option TracingFilterConfig := do
  let filterConfig ← addTracePointsFromSubObject json object "notifier"
    filterPropertyProxyFieldNotifierMappings (.proxyField serviceType fieldName instance')
    filterConfig
  let filterConfig ← addTracePointsFromSubObject json object "notifier"
    filterPropertySkeletonFieldNotifierMappings (.skeletonField serviceType fieldName instance')
    filterConfig
  let filterConfig ← addTracePointsFromSubObject json object "getter"
    filterPropertyProxyFieldGetterMappings (.proxyField serviceType fieldName instance')
    filterConfig
  let filterConfig ← addTracePointsFromSubObject json object "getter"
    filterPropertySkeletonFieldGetterMappings (.skeletonField serviceType fieldName instance')
    filterConfig
  let filterConfig ← addTracePointsFromSubObject json object "setter"
    filterPropertyProxyFieldSetterMappings (.proxyField serviceType fieldName instance')
    filterConfig
  let filterConfig ← addTracePointsFromSubObject json object "setter"
    filterPropertySkeletonFieldSetterMappings (.skeletonField serviceType fieldName instance')
    filterConfig
  warnNotImplementedTracePointsFromSubObject json object "notifier"
  pure filterConfig

variable (configuration : Configuration.Configuration)

/-- What `ParseEvent` and `ParseField` have in common. -/
def parseElement (elementType : ServiceElementType)
    (addElementTracePoints : Object → String → String → InstanceSpecifierView →
      TracingFilterConfig → Option TracingFilterConfig)
    (serviceType : String) (elementNames : List String) (instanceSpecifiers : Finset String)
    (filterConfig : TracingFilterConfig) (element : Any) : Option TracingFilterConfig := do
  let object ← json.asObject element
  -- that the name is missing is logged, but then the end of the object is read for a name
  let shortname ← json.find object "shortname"
  let elementName ← json.asString shortname
  if elementName ∈ elementNames then
    (instanceSpecifiers.sort (· ≤ ·)).foldlM
      (fun filterConfig instance' => do
        if ← configuration.tracingConfiguration.isServiceElementTracingEnabled
            ⟨serviceType, elementName, elementType⟩ instance' then
          addElementTracePoints object serviceType elementName instance' filterConfig
        else
          pure filterConfig)
      filterConfig
  else
    pure filterConfig

def parseEvent : (serviceType : String) → (eventNames : List String) →
    (instanceSpecifiers : Finset String) → TracingFilterConfig → Any → Option TracingFilterConfig :=
  parseElement json configuration .event (addEventTracePoints json)

def parseField : (serviceType : String) → (fieldNames : List String) →
    (instanceSpecifiers : Finset String) → TracingFilterConfig → Any → Option TracingFilterConfig :=
  parseElement json configuration .field (addFieldTracePoints json)

/-- What `ParseEvents` and `ParseFields` have in common. -/
def parseElements (key : String) (elementType : ServiceElementType)
    (parseElement : String → List String → Finset String → TracingFilterConfig → Any →
      Option TracingFilterConfig)
    (service : Any) (serviceType : String) (instanceSpecifiers : Finset String)
    (filterConfig : TracingFilterConfig) : Option TracingFilterConfig := do
  let object ← json.asObject service
  match json.find object key with
  | none => pure filterConfig
  | some elements => do
      let elementNames ← getElementNamesOfServiceType configuration serviceType elementType
      let elements ← json.asList elements
      elements.foldlM (parseElement serviceType elementNames instanceSpecifiers) filterConfig

def parseEvents : (service : Any) → (serviceType : String) →
    (instanceSpecifiers : Finset String) → TracingFilterConfig → Option TracingFilterConfig :=
  parseElements json configuration "events" .event (parseEvent json configuration)

def parseFields : (service : Any) → (serviceType : String) →
    (instanceSpecifiers : Finset String) → TracingFilterConfig → Option TracingFilterConfig :=
  parseElements json configuration "fields" .field (parseField json configuration)

/-- Methods are not supported yet. -/
def parseMethods (service : Any) : Option Unit := do
  let object ← json.asObject service
  match json.find object "methods" with
  | none => pure ()
  | some _ => pure ()

def parseService (filterConfig : TracingFilterConfig) (service : Any) :
    Option TracingFilterConfig := do
  let object ← json.asObject service
  match json.find object "shortname_path" with
  | none => pure filterConfig
  | some shortnamePath => do
      let shortnamePath ← json.asString shortnamePath
      if shortnamePath ∈ configuredServiceTypes configuration then do
        let instanceSpecifiers := getInstancesOfServiceType configuration shortnamePath
        let filterConfig ← parseEvents json configuration service shortnamePath
          instanceSpecifiers filterConfig
        let filterConfig ← parseFields json configuration service shortnamePath
          instanceSpecifiers filterConfig
        parseMethods json service
        pure filterConfig
      else
        pure filterConfig

def parseServices (document : Any) : Option TracingFilterConfig := do
  let object ← json.asObject document
  match json.find object "services" with
  | none => pure .empty
  | some services => do
      let services ← json.asList services
      services.foldlM (parseService json configuration) .empty

def parse (document : Any) : Option TracingFilterConfig := parseServices json configuration document

end Reading

end TracingFilterConfigParser

end MwCom.Tracing
