/-
Module: MwCom.Configuration.ConfigParser
Purpose: Reading the configuration of a process from its JSON document.
Trusted boundary: the JSON library reads the text of the document; what is logged before
  the process ends is left out.
Main exports: ConfigLibrary, TracingConfiguration, GlobalConfiguration, Configuration,
  ConfigParser.parse
-/
import MwCom.Configuration.Serialization
import MwCom.Tracing.TracingRuntime

namespace MwCom.Configuration

open Containers Json
open Tracing (ServiceElementType ServiceElementIdentifierView)

/-! ## Configuration -/

/-- A library that reads signed numbers too. -/
structure ConfigLibrary (Any Object : Type) extends JsonLibrary Any Object where
  asSigned : (width : Nat) → Any → Option (BitVec width)

inductive ShmSizeCalculationMode where
  | estimation
  | simulation
deriving DecidableEq

structure GlobalConfiguration where
  processAsilLevel : QualityType
  messageRxQueueSizeQm : BitVec 32
  messageRxQueueSizeB : BitVec 32
  messageTxQueueSizeB : BitVec 32
  shmSizeCalcMode : ShmSizeCalculationMode
deriving DecidableEq

def GlobalConfiguration.initial : GlobalConfiguration where
  processAsilLevel := .asilQm
  messageRxQueueSizeQm := 10
  messageRxQueueSizeB := 10
  messageTxQueueSizeB := 20
  shmSizeCalcMode := .simulation

structure TracingConfiguration where
  enabled : Bool
  applicationInstanceId : String
  traceFilterConfigPath : String
  serviceElementTracingEnabledMap :
    UnorderedMap ServiceElementIdentifierView (List InstanceSpecifier)
deriving DecidableEq

namespace TracingConfiguration

def initial : TracingConfiguration where
  enabled := false
  applicationInstanceId := ""
  traceFilterConfigPath := ""
  serviceElementTracingEnabledMap := .empty

/-- `none`: the element is enabled already, and the process ends. -/
def setServiceElementTracingEnabled (configuration : TracingConfiguration)
    (element : ServiceElementIdentifierView) (specifier : InstanceSpecifier) :
    Option TracingConfiguration :=
  let map := configuration.serviceElementTracingEnabledMap
  match map.find element with
  | none => do
      let map ← map.insert? element [specifier]
      pure { configuration with serviceElementTracingEnabledMap := map }
  | some specifiers =>
      if specifier ∈ specifiers then
        none
      else
        some
          { configuration with
            serviceElementTracingEnabledMap := map.assign element (specifier :: specifiers) }

/-- `none`: there is no such specifier, and the process ends. -/
def isServiceElementTracingEnabled (configuration : TracingConfiguration)
    (element : ServiceElementIdentifierView) (specifier : String) : Option Bool :=
  match configuration.serviceElementTracingEnabledMap.find element with
  | none => some false
  | some specifiers =>
      (InstanceSpecifier.create specifier).map fun specifier => decide (specifier ∈ specifiers)

end TracingConfiguration

set_option linter.dupNamespace false in
structure Configuration where
  serviceTypes : UnorderedMap ServiceIdentifierType ServiceTypeDeployment
  serviceInstances : UnorderedMap InstanceSpecifier ServiceInstanceDeployment
  globalConfiguration : GlobalConfiguration
  tracingConfiguration : TracingConfiguration
deriving DecidableEq

/-! ## Deployments of elements -/

namespace LolaEventInstanceDeployment

/-- A deployment in which nothing is configured yet. -/
def initial : LolaEventInstanceDeployment where
  maxSubscribers := none
  maxConcurrentAllocations := some 1
  enforceMaxSamples := some true
  numberOfSampleSlots := none
  isTracingEnabled := false

variable (deployment : LolaEventInstanceDeployment)

/-- The sum is stored in sixteen bits. -/
def getNumberOfSampleSlots : Option (BitVec 16) := deployment.numberOfSampleSlots.map fun slots =>
    slots + if deployment.isTracingEnabled then 1 else 0

def getNumberOfSampleSlotsExcludingTracingSlot : Option (BitVec 16) :=
  deployment.numberOfSampleSlots

end LolaEventInstanceDeployment

def LolaServiceInstanceDeployment.initial : LolaServiceInstanceDeployment where
  instanceId := none
  sharedMemorySize := none
  events := .empty
  fields := .empty
  strictPermissions := false
  allowedConsumer := .empty
  allowedProvider := .empty

namespace ConfigParser

variable {Any Object : Type} (json : ConfigLibrary Any Object)

/-- `none` throughout: the document is refused, which ends the process. -/
def parseInstanceSpecifier (object : Object) : Option InstanceSpecifier := do
  let specifier ← getValueFromJson json.toJsonLibrary json.asString object "instanceSpecifier"
  InstanceSpecifier.create specifier

def parseServiceTypeName (object : Object) : Option String :=
  getValueFromJson json.toJsonLibrary json.asString object "serviceTypeName"

def parseVersion (object : Object) : Option ServiceVersionType := do
  let version ← getValueFromJson json.toJsonLibrary json.asObject object "version"
  let major ← getValueFromJson json.toJsonLibrary (json.asUnsigned 32) version "major"
  let minor ← getValueFromJson json.toJsonLibrary (json.asUnsigned 32) version "minor"
  pure ⟨major, minor⟩

/-- The name is passed on as `data()`. -/
def parseServiceTypeIdentifier (object : Object) : Option ServiceIdentifierType := do
  let name ← parseServiceTypeName json object
  let version ← parseVersion json object
  pure ⟨String.ofList (cString name), version⟩

def asilLevelOf (quality : String) : QualityType :=
  if quality = "QM" then .asilQm else if quality = "B" then .asilB else .invalid

def parseAsilLevel (object : Object) : Option (Option QualityType) := do
  let quality ← getOptionalFromJson json.toJsonLibrary json.asString object "asil-level"
  pure (quality.map asilLevelOf)

def shmSizeCalcModeOf (mode : String) : Option ShmSizeCalculationMode :=
  if mode = "ESTIMATION" then some .estimation
  else if mode = "SIMULATION" then some .simulation
  else none

def parseShmSizeCalcMode (object : Object) : Option (Option ShmSizeCalculationMode) :=
  getOptionalFromJson json.toJsonLibrary (fun mode => (json.asString mode).bind shmSizeCalcModeOf)
    object "shm-size-calc-mode"

/-- The quality type that users are listed for. -/
def userQualityOf (quality : String) : Option QualityType :=
  if quality = "QM" then some .asilQm else if quality = "B" then some .asilB else none

def parseUser (users : UnorderedMap QualityType (List (BitVec 32))) (user : String × Any) :
    Option (UnorderedMap QualityType (List (BitVec 32))) := do
  let ids ← json.asList user.2
  let ids ← ids.mapM (json.asUnsigned 32)
  let quality ← userQualityOf user.1
  pure (users.assign quality ids)

def parseAllowedUser (object : Object) (key : String) :
    Option (UnorderedMap QualityType (List (BitVec 32))) :=
  match json.find object key with
  | none => some .empty
  | some users => do
      let users ← json.asObject users
      (json.members users).foldlM (parseUser json) .empty

def parseAllowedConsumer (object : Object) : Option (UnorderedMap QualityType (List (BitVec 32))) :=
  parseAllowedUser json object "allowedConsumer"

def parseAllowedProvider (object : Object) : Option (UnorderedMap QualityType (List (BitVec 32))) :=
  parseAllowedUser json object "allowedProvider"

/-! ## Elements of an instance -/

section Elements

variable {Value : Type}

/-- Of a member that is there its value is set. -/
def fillWith (as : Any → Option Value)
    (set : LolaEventInstanceDeployment → Value → LolaEventInstanceDeployment)
    (object : Object) (key : String) (deployment : LolaEventInstanceDeployment) :
    Option LolaEventInstanceDeployment := do
  match ← getOptionalFromJson json.toJsonLibrary as object key with
  | none => pure deployment
  | some value => pure (set deployment value)

def fillNumberOfSampleSlots : Object → String → LolaEventInstanceDeployment →
    Option LolaEventInstanceDeployment :=
  fillWith json (json.asUnsigned 16) fun deployment slots =>
    { deployment with numberOfSampleSlots := some slots }

def fillMaxSubscribers : Object → String → LolaEventInstanceDeployment →
    Option LolaEventInstanceDeployment :=
  fillWith json (json.asUnsigned 8) fun deployment subscribers =>
    { deployment with maxSubscribers := some subscribers }

def fillMaxConcurrentAllocations : Object → String → LolaEventInstanceDeployment →
    Option LolaEventInstanceDeployment :=
  fillWith json (json.asUnsigned 8) fun deployment allocations =>
    { deployment with maxConcurrentAllocations := some allocations }

def fillEnforceMaxSamples : Object → String → LolaEventInstanceDeployment →
    Option LolaEventInstanceDeployment :=
  fillWith json json.asBool fun deployment enforce =>
    { deployment with enforceMaxSamples := some enforce }

end Elements

/-- One pass of the loop of `ParseLolaEventInstanceDeployment`. -/
def parseEventInstance (event : Any) : Option (String × LolaEventInstanceDeployment) := do
  let object ← json.asObject event
  -- `error_if_found`
  guard ((json.find object "maxConcurrentAllocations").isNone)
  let name ← getValueFromJson json.toJsonLibrary json.asString object "eventName"
  guard ((json.find object "maxSamples").isNone ∨ (json.find object "numberOfSampleSlots").isNone)
  let deployment ← fillNumberOfSampleSlots json object "maxSamples" .initial
  let deployment ← fillNumberOfSampleSlots json object "numberOfSampleSlots" deployment
  let deployment ← fillMaxSubscribers json object "maxSubscribers" deployment
  let deployment ← fillMaxConcurrentAllocations json object "maxConcurrentAllocations" deployment
  let deployment ← fillEnforceMaxSamples json object "enforceMaxSamples" deployment
  pure (name, deployment)

/-- One pass of the loop of `ParseLolaFieldInstanceDeployment`. -/
def parseFieldInstance (field : Any) : Option (String × LolaFieldInstanceDeployment) := do
  let object ← json.asObject field
  guard ((json.find object "maxConcurrentAllocations").isNone)
  let name ← getValueFromJson json.toJsonLibrary json.asString object "fieldName"
  let deployment ← fillNumberOfSampleSlots json object "numberOfSampleSlots" .initial
  let deployment ← fillMaxSubscribers json object "maxSubscribers" deployment
  let deployment ← fillMaxConcurrentAllocations json object "maxConcurrentAllocations" deployment
  let deployment ← fillEnforceMaxSamples json object "enforceMaxSamples" deployment
  pure (name, deployment)

/-- The elements that are listed; a name that is listed twice ends the process. -/
def parseElements {Value : Type} (parseElement : Any → Option (String × Value))
    (object : Object) (key : String) : Option (UnorderedMap String Value) :=
  match json.find object key with
  | none => some .empty
  | some elements => do
      let elements ← json.asList elements
      UnorderedMap.fill parseElement elements .empty

def parseLolaEventInstanceDeployment (object : Object) :
    Option (UnorderedMap String LolaEventInstanceDeployment) :=
  parseElements json (parseEventInstance json) object "events"

def parseLolaFieldInstanceDeployment (object : Object) :
    Option (UnorderedMap String LolaFieldInstanceDeployment) :=
  parseElements json (parseFieldInstance json) object "fields"

/-! ## Tracing of elements -/

/-- One pass of the loop over the elements of a kind. -/
def parseElementTracingEnabled (nameKey : String) (elementType : ServiceElementType)
    (serviceTypeName : String) (specifier : InstanceSpecifier)
    (tracing : TracingConfiguration) (element : Any) : Option TracingConfiguration := do
  let object ← json.asObject element
  let name ← getValueFromJson json.toJsonLibrary json.asString object nameKey
  match ← getOptionalFromJson json.toJsonLibrary json.asBool object "enableIpcTracing" with
  | some true =>
      tracing.setServiceElementTracingEnabled ⟨serviceTypeName, name, elementType⟩ specifier
  | _ => pure tracing

def parseElementsTracingEnabled (key nameKey : String) (elementType : ServiceElementType)
    (object : Object) (tracing : TracingConfiguration) (serviceTypeName : String)
    (specifier : InstanceSpecifier) : Option TracingConfiguration :=
  match json.find object key with
  | none => some tracing
  | some elements => do
      let elements ← json.asList elements
      elements.foldlM
        (parseElementTracingEnabled json nameKey elementType serviceTypeName specifier) tracing

def parseEventTracingEnabled (object : Object) (tracing : TracingConfiguration)
    (serviceTypeName : String) (specifier : InstanceSpecifier) : Option TracingConfiguration :=
  parseElementsTracingEnabled json "events" "eventName" .event object tracing serviceTypeName
    specifier

def parseFieldTracingEnabled (object : Object) (tracing : TracingConfiguration)
    (serviceTypeName : String) (specifier : InstanceSpecifier) : Option TracingConfiguration :=
  parseElementsTracingEnabled json "fields" "fieldName" .field object tracing serviceTypeName
    specifier

/-! ## Instances -/

/-- Whether the permissions are strict. -/
def parsePermissionChecks (object : Object) : Option Bool := do
  match ← getOptionalFromJson json.toJsonLibrary json.asString object "permission-checks" with
  | none => pure false
  | some permission => do
      guard (permission = "file-permissions-on-empty" ∨ permission = "strict")
      pure (decide (permission = "strict"))

def parseLolaServiceInstanceDeployment (object : Object) :
    Option LolaServiceInstanceDeployment := do
  let sharedMemorySize ← getOptionalFromJson json.toJsonLibrary (json.asUnsigned 64) object
    "shm-size"
  let instanceId ← getOptionalFromJson json.toJsonLibrary (json.asUnsigned 16) object
    "instanceId"
  let events ← parseLolaEventInstanceDeployment json object
  let fields ← parseLolaFieldInstanceDeployment json object
  let strictPermissions ← parsePermissionChecks json object
  let allowedConsumer ← parseAllowedConsumer json object
  let allowedProvider ← parseAllowedProvider json object
  pure
    { instanceId := instanceId.map .mk, sharedMemorySize, events, fields, strictPermissions,
      allowedConsumer, allowedProvider }

/-- One pass of the loop of `ParseServiceInstanceDeployments`. -/
def parseServiceInstanceDeployment (service : ServiceIdentifierType)
    (specifier : InstanceSpecifier)
    (deployments : List ServiceInstanceDeployment × TracingConfiguration) (deployment : Any) :
    Option (List ServiceInstanceDeployment × TracingConfiguration) := do
  let (deployments, tracing) := deployments
  let object ← json.asObject deployment
  let asilLevel ← parseAsilLevel json object
  let asilLevel ← asilLevel
  guard (asilLevel ≠ .invalid)
  let binding ← getValueFromJson json.toJsonLibrary json.asString object "binding"
  guard (binding = "SHM")
  let lola ← parseLolaServiceInstanceDeployment json object
  let deployments := deployments ++ [⟨service, .lola lola, asilLevel, specifier⟩]
  if tracing.enabled then do
    let tracing ← parseEventTracingEnabled json object tracing service.serviceTypeName specifier
    let tracing ← parseFieldTracingEnabled json object tracing service.serviceTypeName specifier
    pure (deployments, tracing)
  else
    pure (deployments, tracing)

def parseServiceInstanceDeployments (object : Object) (tracing : TracingConfiguration)
    (service : ServiceIdentifierType) (specifier : InstanceSpecifier) :
    Option (List ServiceInstanceDeployment × TracingConfiguration) := do
  let deployments ← getValueFromJson json.toJsonLibrary json.asList object "instances"
  deployments.foldlM (parseServiceInstanceDeployment json service specifier) ([], tracing)

/-- One pass of the loop of `ParseServiceInstances`. -/
def parseServiceInstance
    (parsed : UnorderedMap InstanceSpecifier ServiceInstanceDeployment × TracingConfiguration)
    (serviceInstance : Any) :
    Option (UnorderedMap InstanceSpecifier ServiceInstanceDeployment × TracingConfiguration) := do
  let (instances, tracing) := parsed
  let object ← json.asObject serviceInstance
  let specifier ← parseInstanceSpecifier json object
  let service ← parseServiceTypeIdentifier json object
  let (deployments, tracing) ← parseServiceInstanceDeployments json object tracing service
    specifier
  match deployments with
  | [deployment] => do
      let instances ← instances.insert? specifier deployment
      pure (instances, tracing)
  -- several bindings are not supported
  | _ => none

def parseServiceInstances (object : Object) (tracing : TracingConfiguration) :
    Option (UnorderedMap InstanceSpecifier ServiceInstanceDeployment × TracingConfiguration) := do
  let instances ← getValueFromJson json.toJsonLibrary json.asList object "serviceInstances"
  instances.foldlM (parseServiceInstance json) (.empty, tracing)

/-! ## Types -/

/-- One pass of the loops over the elements of a type; the id is stored in eight bits. -/
def parseElementType (nameKey idKey : String) (element : Any) : Option (String × BitVec 8) := do
  let object ← json.asObject element
  let name ← getValueFromJson json.toJsonLibrary json.asString object nameKey
  let id ← getValueFromJson json.toJsonLibrary (json.asUnsigned 16) object idKey
  pure (name, id.setWidth 8)

def parseLolaEventTypeDeployments (object : Object) : Option (UnorderedMap String (BitVec 8)) :=
  parseElements json (parseElementType json "eventName" "eventId") object "events"

def parseLolaFieldTypeDeployments (object : Object) : Option (UnorderedMap String (BitVec 8)) :=
  parseElements json (parseElementType json "fieldName" "fieldId") object "fields"

def areEventAndFieldIdsUnique (deployment : LolaServiceTypeDeployment) : Bool :=
  decide (deployment.events.entries.map Prod.snd ++ deployment.fields.entries.map Prod.snd).Nodup

def parseLolaServiceTypeDeployments (object : Object) : Option LolaServiceTypeDeployment := do
  let serviceId ← getValueFromJson json.toJsonLibrary (json.asUnsigned 16) object "serviceId"
  let events ← parseLolaEventTypeDeployments json object
  let fields ← parseLolaFieldTypeDeployments json object
  guard ((json.find object "events").isSome ∨ (json.find object "fields").isSome)
  let deployment : LolaServiceTypeDeployment := { serviceId, events, fields }
  guard (areEventAndFieldIdsUnique deployment)
  pure deployment

/-- The first binding that is supported. -/
def parseBindings : List Any → Option ServiceTypeDeployment
  | [] => some .blank
  | binding :: rest => do
      let object ← json.asObject binding
      let value ← getValueFromJson json.toJsonLibrary json.asString object "binding"
      if value = "SHM" then
        (parseLolaServiceTypeDeployments json object).map .lola
      else do
        guard (value = "SOME/IP")
        parseBindings rest

/-- Bindings that are missing are not checked for: what happens then is not defined. -/
def parseServiceTypeDeployment (object : Object) : Option ServiceTypeDeployment := do
  let bindings ← getValueFromJson json.toJsonLibrary json.asList object "bindings"
  parseBindings json bindings

def parseServiceType (serviceType : Any) :
    Option (ServiceIdentifierType × ServiceTypeDeployment) := do
  let object ← json.asObject serviceType
  let service ← parseServiceTypeIdentifier json object
  let deployment ← parseServiceTypeDeployment json object
  pure (service, deployment)

def parseServiceTypes (object : Object) :
    Option (UnorderedMap ServiceIdentifierType ServiceTypeDeployment) := do
  let serviceTypes ← getValueFromJson json.toJsonLibrary json.asList object "serviceTypes"
  UnorderedMap.fill (parseServiceType json) serviceTypes .empty

/-! ## Properties of the process -/

/-- A queue size that may be missing, as may all of them. -/
def parseQueueSize (object : Object) (key : String) : Option (Option (BitVec 32)) := do
  match ← getOptionalFromJson json.toJsonLibrary json.asObject object "queue-size" with
  | none => pure none
  | some sizes => getOptionalFromJson json.toJsonLibrary (json.asSigned 32) sizes key

def parseReceiverQueueSize (object : Object) (quality : QualityType) :
    Option (Option (BitVec 32)) :=
  match quality with
  | .asilQm => parseQueueSize json object "QM-receiver"
  | .asilB => parseQueueSize json object "B-receiver"
  | .invalid => none

def parseSenderQueueSize (object : Object) : Option (Option (BitVec 32)) :=
  parseQueueSize json object "B-sender"

def parseGlobalProperties (object : Object) : Option GlobalConfiguration := do
  match ← getOptionalFromJson json.toJsonLibrary json.asObject object "global" with
  | none => pure .initial
  | some properties => do
      let asilLevel ← parseAsilLevel json properties
      guard (asilLevel ≠ some .invalid)
      let receiverQm ← parseReceiverQueueSize json properties .asilQm
      let receiverB ← parseReceiverQueueSize json properties .asilB
      let senderB ← parseSenderQueueSize json properties
      let mode ← parseShmSizeCalcMode json properties
      let initial := GlobalConfiguration.initial
      pure
        { processAsilLevel := asilLevel.getD initial.processAsilLevel
          messageRxQueueSizeQm := receiverQm.getD initial.messageRxQueueSizeQm
          messageRxQueueSizeB := receiverB.getD initial.messageRxQueueSizeB
          messageTxQueueSizeB := senderB.getD initial.messageTxQueueSizeB
          shmSizeCalcMode := mode.getD initial.shmSizeCalcMode }

def parseTracingEnabled (object : Object) : Option Bool := do
  let enabled ← getOptionalFromJson json.toJsonLibrary json.asBool object "enable"
  pure (enabled.getD false)

def parseTracingApplicationInstanceId (object : Object) : Option String :=
  getValueFromJson json.toJsonLibrary json.asString object "applicationInstanceID"

def parseTracingTraceFilterConfigPath (object : Object) : Option String := do
  let path ← getOptionalFromJson json.toJsonLibrary json.asString object "traceFilterConfigPath"
  pure (path.getD "./etc/mw_com_trace_filter.json")

def parseTracingProperties (object : Object) : Option TracingConfiguration := do
  match ← getOptionalFromJson json.toJsonLibrary json.asObject object "tracing" with
  | none => pure .initial
  | some properties => do
      let enabled ← parseTracingEnabled json properties
      let applicationInstanceId ← parseTracingApplicationInstanceId json properties
      let traceFilterConfigPath ← parseTracingTraceFilterConfigPath json properties
      pure
        { TracingConfiguration.initial with
          enabled, applicationInstanceId, traceFilterConfigPath }

/-! ## Documents -/

/-- No instance has a higher level than the process. -/
def crosscheckAsilLevels (configuration : Configuration) : Bool :=
  configuration.serviceInstances.entries.all fun entry =>
    decide (entry.2.asilLevel ≠ .asilB) ||
      decide (configuration.globalConfiguration.processAsilLevel = .asilB)

/-- The elements of an instance are those of its type; a type without a binding ends the
process too. -/
def crosscheckInstance (configuration : Configuration) (deployment : ServiceInstanceDeployment) :
    Bool :=
  match configuration.serviceTypes.find deployment.service, deployment.bindingInfo with
  | some (.lola serviceType), .lola lola =>
      (lola.events.entries.all fun event => (serviceType.events.find event.1).isSome) &&
        lola.fields.entries.all fun field => (serviceType.fields.find field.1).isSome
  | _, _ => false

def crosscheckServiceInstancesToTypes (configuration : Configuration) : Bool :=
  configuration.serviceInstances.entries.all fun entry => crosscheckInstance configuration entry.2

def parse (document : Any) : Option Configuration := do
  let object ← json.asObject document
  let tracing ← parseTracingProperties json object
  let serviceTypes ← parseServiceTypes json object
  let (serviceInstances, tracingConfiguration) ← parseServiceInstances json object tracing
  let globalConfiguration ← parseGlobalProperties json object
  let configuration : Configuration :=
    { serviceTypes, serviceInstances, globalConfiguration, tracingConfiguration }
  guard (crosscheckAsilLevels configuration)
  guard (crosscheckServiceInstancesToTypes configuration)
  pure configuration

end ConfigParser

end MwCom.Configuration
