/-
Module: MwCom.Configuration.Serialization
Purpose: Writing deployments and identifiers as JSON, and reading deployments
  back.
Trusted boundary: numbers are read with the type they are written with; the index
  of a variant is one of 64 bits.
Main exports: serialize and ofJson of each deployment, InstanceIdentifier.toText
-/
import MwCom.Configuration.Deployments
import MwCom.Json.JsonLibrary

namespace MwCom.Configuration

open Containers Json

/-- Every class has the same version, and each checks its own. -/
def serializationVersion : BitVec 32 := 1

section Reading

variable {Any Object Value : Type} (json : JsonLibrary Any Object)

/-- `none` throughout: an assertion fails or the process ends. -/
def getValueFromJson (as : Any → Option Value) (object : Object) (key : String) : Option Value :=
  (json.find object key).bind as

def checkSerializationVersion (object : Object) : Option Unit := do
  let version ← getValueFromJson json (json.asUnsigned 32) object "serializationVersion"
  guard (version = serializationVersion)

/-- A member that may be missing, but not be of another type. -/
def getOptionalFromJson (as : Any → Option Value) (object : Object) (key : String) :
    Option (Option Value) :=
  match json.find object key with
  | none => some none
  | some value => (as value).map some

end Reading

variable {Any Object : Type} (json : JsonLibrary Any Object)

/-! ## Identification -/

def QualityType.toText : QualityType → String
  | .invalid => "kInvalid"
  | .asilQm => "kASIL_QM"
  | .asilB => "kASIL_B"

def QualityType.fromString (qualityType : String) : Option QualityType :=
  if qualityType = "kInvalid" then some .invalid
  else if qualityType = "kASIL_QM" then some .asilQm
  else if qualityType = "kASIL_B" then some .asilB
  else none

namespace ServiceVersionType

def serialize (version : ServiceVersionType) : Object :=
  let object := json.set json.empty "serializationVersion"
    (json.unsigned 32 serializationVersion)
  let object := json.set object "majorVersion" (json.unsigned 32 version.major)
  json.set object "minorVersion" (json.unsigned 32 version.minor)

def ofJson (object : Object) : Option ServiceVersionType := do
  let major ← getValueFromJson json (json.asUnsigned 32) object "majorVersion"
  let minor ← getValueFromJson json (json.asUnsigned 32) object "minorVersion"
  checkSerializationVersion json object
  pure ⟨major, minor⟩

end ServiceVersionType

namespace ServiceIdentifierType

def serialize (service : ServiceIdentifierType) : Object :=
  let object := json.set json.empty "serviceType" (json.string service.serviceTypeName)
  let object := json.set object "version" (json.object (service.version.serialize json))
  json.set object "serializationVersion" (json.unsigned 32 serializationVersion)

/-- The name is passed on as `data()` of a view. -/
def ofJson (object : Object) : Option ServiceIdentifierType := do
  let serviceTypeName ← getValueFromJson json json.asString object "serviceType"
  let version ← getValueFromJson json json.asObject object "version"
  let version ← ServiceVersionType.ofJson json version
  checkSerializationVersion json object
  pure ⟨String.ofList (cString serviceTypeName), version⟩

end ServiceIdentifierType

/-- The instance ids of all bindings are written alike. -/
def serializeInstanceId (id : BitVec 16) : Object :=
  let object := json.set json.empty "instanceId" (json.unsigned 16 id)
  json.set object "serializationVersion" (json.unsigned 32 serializationVersion)

def instanceIdOfJson (object : Object) : Option (BitVec 16) := do
  let id ← getValueFromJson json (json.asUnsigned 16) object "instanceId"
  checkSerializationVersion json object
  pure id

def LolaServiceInstanceId.serialize (id : LolaServiceInstanceId) : Object :=
  serializeInstanceId json id.id

def LolaServiceInstanceId.ofJson (object : Object) : Option LolaServiceInstanceId :=
  (instanceIdOfJson json object).map .mk

def SomeIpServiceInstanceId.serialize (id : SomeIpServiceInstanceId) : Object :=
  serializeInstanceId json id.id

def SomeIpServiceInstanceId.ofJson (object : Object) : Option SomeIpServiceInstanceId :=
  (instanceIdOfJson json object).map .mk

/-! ## Deployments of an instance -/

namespace LolaEventInstanceDeployment

def serialize (deployment : LolaEventInstanceDeployment) : Object :=
  let object := json.setOptional json.empty "numberOfSampleSlots"
    (deployment.numberOfSampleSlots.map (json.unsigned 16))
  let object := json.setOptional object "maxSubscribers"
    (deployment.maxSubscribers.map (json.unsigned 8))
  let object := json.set object "serializationVersion"
    (json.unsigned 32 serializationVersion)
  let object := json.setOptional object "maxConcurrentAllocations"
    (deployment.maxConcurrentAllocations.map (json.unsigned 8))
  json.setOptional object "enforceMaxSamples" (deployment.enforceMaxSamples.map json.bool)

def ofJson (object : Object) : Option LolaEventInstanceDeployment := do
  checkSerializationVersion json object
  pure
    { numberOfSampleSlots :=
        getValueFromJson json (json.asUnsigned 16) object "numberOfSampleSlots"
      maxSubscribers := getValueFromJson json (json.asUnsigned 8) object "maxSubscribers"
      maxConcurrentAllocations :=
        getValueFromJson json (json.asUnsigned 8) object "maxConcurrentAllocations"
      enforceMaxSamples := getValueFromJson json json.asBool object "enforceMaxSamples"
      isTracingEnabled := false }

end LolaEventInstanceDeployment

def SomeIpEventInstanceDeployment.serialize (_deployment : SomeIpEventInstanceDeployment) :
    Object :=
  json.empty

def SomeIpEventInstanceDeployment.ofJson (_object : Object) :
    Option SomeIpEventInstanceDeployment :=
  some {}

section ServiceElements

variable {Element : Type}

def convertServiceElementMapToJson (serialize : Element → Object)
    (elements : UnorderedMap String Element) : Option Object :=
  json.writeMap id (fun element => json.object (serialize element)) elements

def convertJsonToServiceElementMap (ofJson : Object → Option Element) (object : Object)
    (key : String) : Option (UnorderedMap String Element) := do
  let elements ← getValueFromJson json json.asObject object key
  json.readMap some (fun value => (json.asObject value).bind ofJson) elements

end ServiceElements

def convertUidMapToJson (uids : UnorderedMap QualityType (List (BitVec 32))) : Option Object :=
  json.writeMap QualityType.toText
    (fun uids => json.list (uids.map (json.unsigned 32))) uids

def convertJsonToUidMap (object : Object) (key : String) :
    Option (UnorderedMap QualityType (List (BitVec 32))) := do
  let uids ← getValueFromJson json json.asObject object key
  json.readMap QualityType.fromString
    (fun value => (json.asList value).bind (List.mapM (json.asUnsigned 32))) uids

namespace LolaServiceInstanceDeployment

def serialize (deployment : LolaServiceInstanceDeployment) : Option Object := do
  let object := json.set json.empty "serializationVersion"
    (json.unsigned 32 serializationVersion)
  let object := json.setOptional object "instanceId"
    (deployment.instanceId.map fun id => json.object (id.serialize json))
  let object := json.setOptional object "sharedMemorySize"
    (deployment.sharedMemorySize.map (json.unsigned 64))
  let events ← convertServiceElementMapToJson json
    (LolaEventInstanceDeployment.serialize json) deployment.events
  let object := json.set object "events" (json.object events)
  let fields ← convertServiceElementMapToJson json
    (LolaEventInstanceDeployment.serialize json) deployment.fields
  let object := json.set object "fields" (json.object fields)
  let object := json.set object "strict" (json.bool deployment.strictPermissions)
  let allowedConsumer ← convertUidMapToJson json deployment.allowedConsumer
  let object := json.set object "allowedConsumer" (json.object allowedConsumer)
  let allowedProvider ← convertUidMapToJson json deployment.allowedProvider
  pure (json.set object "allowedProvider" (json.object allowedProvider))

def ofJson (object : Object) : Option LolaServiceInstanceDeployment := do
  let events ← convertJsonToServiceElementMap json
    (LolaEventInstanceDeployment.ofJson json) object "events"
  let fields ← convertJsonToServiceElementMap json
    (LolaEventInstanceDeployment.ofJson json) object "fields"
  let strictPermissions ← getValueFromJson json json.asBool object "strict"
  let allowedConsumer ← convertJsonToUidMap json object "allowedConsumer"
  let allowedProvider ← convertJsonToUidMap json object "allowedProvider"
  checkSerializationVersion json object
  let instanceId ← getOptionalFromJson json
    (fun value => (json.asObject value).bind (LolaServiceInstanceId.ofJson json))
    object "instanceId"
  let sharedMemorySize ← getOptionalFromJson json (json.asUnsigned 64) object
    "sharedMemorySize"
  pure
    ⟨instanceId, sharedMemorySize, events, fields, strictPermissions, allowedConsumer,
      allowedProvider⟩

end LolaServiceInstanceDeployment

namespace SomeIpServiceInstanceDeployment

def serialize (deployment : SomeIpServiceInstanceDeployment) : Option Object := do
  let object := json.set json.empty "serializationVersion"
    (json.unsigned 32 serializationVersion)
  let object := json.setOptional object "instanceId"
    (deployment.instanceId.map fun id => json.object (id.serialize json))
  let events ← convertServiceElementMapToJson json
    (SomeIpEventInstanceDeployment.serialize json) deployment.events
  let object := json.set object "events" (json.object events)
  let fields ← convertServiceElementMapToJson json
    (SomeIpEventInstanceDeployment.serialize json) deployment.fields
  pure (json.set object "fields" (json.object fields))

def ofJson (object : Object) : Option SomeIpServiceInstanceDeployment := do
  let events ← convertJsonToServiceElementMap json
    SomeIpEventInstanceDeployment.ofJson object "events"
  let fields ← convertJsonToServiceElementMap json
    SomeIpEventInstanceDeployment.ofJson object "fields"
  let instanceId ← getOptionalFromJson json
    (fun value => (json.asObject value).bind (SomeIpServiceInstanceId.ofJson json))
    object "instanceId"
  checkSerializationVersion json object
  pure ⟨instanceId, events, fields⟩

end SomeIpServiceInstanceDeployment

namespace BindingInformation

/-- The place of the alternative in the variant. -/
def index : BindingInformation → BitVec 64
  | .lola _ => 0
  | .someIp _ => 1
  | .blank => 2

/-- What the visitor of `Serialize` adds. -/
def serializeInto (object : Object) : BindingInformation → Option Object
  | .lola deployment => do
      let deployment ← deployment.serialize json
      pure (json.set object "bindingInfo" (json.object deployment))
  | .someIp deployment => do
      let deployment ← deployment.serialize json
      pure (json.set object "bindingInfo" (json.object deployment))
  | .blank => some object

/-- `GetBindingInfoFromJson`, with `DeserializeVariant` over the alternatives. -/
def ofJson (object : Object) : Option BindingInformation := do
  let variantIndex ← getValueFromJson json (json.asUnsigned 64) object "bindingInfoIndex"
  if variantIndex = 0 then
    let deployment ← getValueFromJson json json.asObject object "bindingInfo"
    (LolaServiceInstanceDeployment.ofJson json deployment).map .lola
  else if variantIndex = 1 then
    let deployment ← getValueFromJson json json.asObject object "bindingInfo"
    (SomeIpServiceInstanceDeployment.ofJson json deployment).map .someIp
  else if variantIndex = 2 then
    some .blank
  else
    none

end BindingInformation

namespace ServiceInstanceDeployment

def serialize (deployment : ServiceInstanceDeployment) : Option Object := do
  let object := json.set json.empty "bindingInfoIndex"
    (json.unsigned 64 deployment.bindingInfo.index)
  let object ← deployment.bindingInfo.serializeInto json object
  let object := json.set object "asilLevel" (json.string deployment.asilLevel.toText)
  let object := json.set object "service" (json.object (deployment.service.serialize json))
  let object := json.set object "instanceSpecifier"
    (json.string deployment.instanceSpecifier.instanceSpecifierString)
  pure (json.set object "serializationVersion" (json.unsigned 32 serializationVersion))

def ofJson (object : Object) : Option ServiceInstanceDeployment := do
  let service ← getValueFromJson json json.asObject object "service"
  let service ← ServiceIdentifierType.ofJson json service
  let bindingInfo ← BindingInformation.ofJson json object
  let asilLevel ← getValueFromJson json json.asString object "asilLevel"
  let asilLevel ← QualityType.fromString asilLevel
  let instanceSpecifier ← getValueFromJson json json.asString object "instanceSpecifier"
  let instanceSpecifier ← InstanceSpecifier.create instanceSpecifier
  checkSerializationVersion json object
  pure { service, bindingInfo, asilLevel, instanceSpecifier }

end ServiceInstanceDeployment

/-! ## Deployments of a type -/

section ServiceElementIds

def convertServiceElementIdMapToJson (ids : UnorderedMap String (BitVec 8)) : Option Object :=
  json.writeMap id (json.unsigned 8) ids

def convertJsonToServiceElementIdMap (object : Object) (key : String) :
    Option (UnorderedMap String (BitVec 8)) := do
  let ids ← getValueFromJson json json.asObject object key
  json.readMap some (json.asUnsigned 8) ids

end ServiceElementIds

namespace LolaServiceTypeDeployment

def serialize (deployment : LolaServiceTypeDeployment) : Option Object := do
  let object := json.set json.empty "serializationVersion"
    (json.unsigned 32 serializationVersion)
  let object := json.set object "serviceId" (json.unsigned 16 deployment.serviceId)
  let events ← convertServiceElementIdMapToJson json deployment.events
  let object := json.set object "events" (json.object events)
  let fields ← convertServiceElementIdMapToJson json deployment.fields
  pure (json.set object "fields" (json.object fields))

def ofJson (object : Object) : Option LolaServiceTypeDeployment := do
  let serviceId ← getValueFromJson json (json.asUnsigned 16) object "serviceId"
  let events ← convertJsonToServiceElementIdMap json object "events"
  let fields ← convertJsonToServiceElementIdMap json object "fields"
  checkSerializationVersion json object
  pure { serviceId, events, fields }

end LolaServiceTypeDeployment

namespace ServiceTypeDeployment

def index : ServiceTypeDeployment → BitVec 64
  | .lola _ => 0
  | .blank => 1

def serialize (deployment : ServiceTypeDeployment) : Option Object := do
  let object := json.set json.empty "bindingInfoIndex" (json.unsigned 64 deployment.index)
  let object := json.set object "serializationVersion"
    (json.unsigned 32 serializationVersion)
  match deployment with
  | .lola deployment => do
      let deployment ← deployment.serialize json
      pure (json.set object "bindingInfo" (json.object deployment))
  | .blank => pure object

def ofJson (object : Object) : Option ServiceTypeDeployment := do
  let variantIndex ← getValueFromJson json (json.asUnsigned 64) object "bindingInfoIndex"
  let deployment ←
    if variantIndex = 0 then do
      let deployment ← getValueFromJson json json.asObject object "bindingInfo"
      (LolaServiceTypeDeployment.ofJson json deployment).map .lola
    else if variantIndex = 1 then
      some .blank
    else
      none
  checkSerializationVersion json object
  pure deployment

end ServiceTypeDeployment

/-! ## Identifiers -/

namespace InstanceIdentifier

def serialize (identifier : InstanceIdentifier) : Option Object := do
  let object := json.set json.empty "serializationVersion"
    (json.unsigned 32 serializationVersion)
  let instanceDeployment ← identifier.instanceDeployment.serialize json
  let object := json.set object "serviceInstanceDeployment" (json.object instanceDeployment)
  let typeDeployment ← identifier.typeDeployment.serialize json
  pure (json.set object "serviceTypeDeployment" (json.object typeDeployment))

/-- `ToString`: the text is made when the identifier is. -/
def toText (identifier : InstanceIdentifier) : Option String :=
  (identifier.serialize json).map json.toBuffer

end InstanceIdentifier

end MwCom.Configuration
