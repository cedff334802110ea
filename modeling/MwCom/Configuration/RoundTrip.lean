/-
Module: MwCom.Configuration.RoundTrip
Purpose: What is left of a deployment that is written as JSON and read back.
Trusted boundary: the JSON library returns the values put into it.
Main exports: BindingInformation.Agree, ServiceInstanceDeployment.exists_ofJson,
  FieldsEqual, roundTrips_iff
-/
import Mathlib.Data.List.TakeWhile
import MwCom.Configuration.Serialization
import MwCom.Json.SortedJson

namespace MwCom.Configuration

open Containers Json LolaEventInstanceDeployment

/-! ## Deployments that agree -/

/-- An event as it comes back: that it is traced is not written. -/
def LolaEventInstanceDeployment.withoutTracing (event : LolaEventInstanceDeployment) :
    LolaEventInstanceDeployment :=
  { event with isTracingEnabled := false }

theorem LolaEventInstanceDeployment.withoutTracing_comp :
    withoutTracing ∘ withoutTracing = withoutTracing :=
  rfl

theorem LolaEventInstanceDeployment.isTracingEnabled_of_map
    {original : Option LolaEventInstanceDeployment} {event : LolaEventInstanceDeployment}
    (found : original.map withoutTracing = some event) : event.isTracingEnabled = false := by
  obtain ⟨present, _, isEvent⟩ := Option.map_eq_some_iff.mp found
  rw [← isEvent]
  rfl

/-- Equal in every field, as far as a view on the events shows; the entries of a
map have no order. -/
structure LolaServiceInstanceDeployment.Agree
    (view : LolaEventInstanceDeployment → LolaEventInstanceDeployment)
    (lhs rhs : LolaServiceInstanceDeployment) : Prop where
  instanceId : lhs.instanceId = rhs.instanceId
  sharedMemorySize : lhs.sharedMemorySize = rhs.sharedMemorySize
  events : ∀ name, (lhs.events.find name).map view = (rhs.events.find name).map view
  fields : ∀ name, (lhs.fields.find name).map view = (rhs.fields.find name).map view
  strictPermissions : lhs.strictPermissions = rhs.strictPermissions
  allowedConsumer : ∀ quality, lhs.allowedConsumer.find quality = rhs.allowedConsumer.find quality
  allowedProvider : ∀ quality, lhs.allowedProvider.find quality = rhs.allowedProvider.find quality

/-- No event and no field is traced. -/
def LolaServiceInstanceDeployment.Untraced (deployment : LolaServiceInstanceDeployment) : Prop :=
  (∀ name event, deployment.events.find name = some event → event.isTracingEnabled = false) ∧
    ∀ name field, deployment.fields.find name = some field → field.isTracingEnabled = false

structure SomeIpServiceInstanceDeployment.Agree
    (lhs rhs : SomeIpServiceInstanceDeployment) : Prop where
  instanceId : lhs.instanceId = rhs.instanceId
  events : ∀ name, lhs.events.find name = rhs.events.find name
  fields : ∀ name, lhs.fields.find name = rhs.fields.find name

def BindingInformation.Agree
    (view : LolaEventInstanceDeployment → LolaEventInstanceDeployment) :
    (lhs rhs : BindingInformation) → Prop
  | .lola lhs, .lola rhs => lhs.Agree view rhs
  | .someIp lhs, .someIp rhs => lhs.Agree rhs
  | .blank, .blank => True
  | _, _ => False

structure LolaServiceTypeDeployment.Agree (lhs rhs : LolaServiceTypeDeployment) : Prop where
  serviceId : lhs.serviceId = rhs.serviceId
  events : ∀ name, lhs.events.find name = rhs.events.find name
  fields : ∀ name, lhs.fields.find name = rhs.fields.find name

def ServiceTypeDeployment.Agree : (lhs rhs : ServiceTypeDeployment) → Prop
  | .lola lhs, .lola rhs => lhs.Agree rhs
  | .blank, .blank => True
  | _, _ => False

/-! ## Reading what was written -/

variable {Any Object : Type} {json : JsonLibrary Any Object}

theorem QualityType.fromString_eq_some_iff (text : String) (quality : QualityType) :
    QualityType.fromString text = some quality ↔ text = quality.toText := by
  unfold QualityType.fromString
  constructor
  · intro isRead
    split at isRead
    · cases isRead
      assumption
    · split at isRead
      · cases isRead
        assumption
      · split at isRead
        · cases isRead
          assumption
        · cases isRead
  · intro isText
    cases quality <;> simp [isText, QualityType.toText]

theorem ServiceVersionType.ofJson_serialize (lawful : json.Lawful) (version : ServiceVersionType) :
    ServiceVersionType.ofJson json (version.serialize json) = some version := by
  simp [ServiceVersionType.ofJson, ServiceVersionType.serialize, getValueFromJson,
    checkSerializationVersion, lawful.find_set, lawful.asUnsigned_unsigned]

/-- The name ends at its first NUL. -/
theorem ServiceIdentifierType.ofJson_serialize (lawful : json.Lawful)
    (service : ServiceIdentifierType) :
    ServiceIdentifierType.ofJson json (service.serialize json) =
      some ⟨String.ofList (cString service.serviceTypeName), service.version⟩ := by
  simp [ServiceIdentifierType.ofJson, ServiceIdentifierType.serialize, getValueFromJson,
    checkSerializationVersion, lawful.find_set, lawful.asUnsigned_unsigned,
    lawful.asString_string, lawful.asObject_object, ServiceVersionType.ofJson_serialize lawful]

theorem instanceIdOfJson_serializeInstanceId (lawful : json.Lawful) (id : BitVec 16) :
    instanceIdOfJson json (serializeInstanceId json id) = some id := by
  simp [instanceIdOfJson, serializeInstanceId, getValueFromJson,
    checkSerializationVersion, lawful.find_set, lawful.asUnsigned_unsigned]

theorem LolaServiceInstanceId.ofJson_serialize (lawful : json.Lawful) (id : LolaServiceInstanceId) :
    LolaServiceInstanceId.ofJson json (id.serialize json) = some id := by
  rw [LolaServiceInstanceId.ofJson, LolaServiceInstanceId.serialize,
    instanceIdOfJson_serializeInstanceId lawful]
  rfl

theorem SomeIpServiceInstanceId.ofJson_serialize (lawful : json.Lawful)
    (id : SomeIpServiceInstanceId) :
    SomeIpServiceInstanceId.ofJson json (id.serialize json) = some id := by
  rw [SomeIpServiceInstanceId.ofJson, SomeIpServiceInstanceId.serialize,
    instanceIdOfJson_serializeInstanceId lawful]
  rfl

/-- A member that is written if it has a value is read as that. -/
theorem getOptionalFromJson_eq {Value : Type} (value : Option Value) {write : Value → Any}
    {read : Any → Option Value} (reads : ∀ value, read (write value) = some value)
    {object : Object} {key : String} (found : json.find object key = value.map write) :
    getOptionalFromJson json read object key = some value := by
  rw [getOptionalFromJson, found]
  cases value with
  | none => rfl
  | some value =>
      simp only [Option.map_some, reads]

/-- Everything but the tracing flag. -/
theorem LolaEventInstanceDeployment.ofJson_serialize (lawful : json.Lawful)
    (event : LolaEventInstanceDeployment) :
    ofJson json (event.serialize json) = some event.withoutTracing := by
  have optional {Value : Type} (write : Value → Any) (read : Any → Option Value)
      (reads : ∀ value, read (write value) = some value) (value : Option Value) :
      (value.map write).bind read = value := by
    cases value with
    | none => rfl
    | some value => exact reads value
  simp [ofJson, serialize,
    getValueFromJson, checkSerializationVersion, lawful.find_set, lawful.find_setOptional,
    lawful.find_empty, withoutTracing, lawful.asUnsigned_unsigned, optional, lawful.asBool_bool]

section Maps

variable {Element : Type} {serialize : Element → Object} {ofJson : Object → Option Element}

/-- Each element comes back as it is read. -/
theorem exists_convertServiceElementMap (lawful : json.Lawful) {back : Element → Element}
    (reads : ∀ element, ofJson (serialize element) = some (back element))
    (elements : UnorderedMap String Element) :
    ∃ written read, convertServiceElementMapToJson json serialize elements = some written ∧
      json.readMap some (fun value => (json.asObject value).bind ofJson) written = some read ∧
      ∀ name, read.find name = (elements.find name).map back := by
  apply lawful.exists_readMap
  · intro text name
    simp
  · intro element
    rw [lawful.asObject_object]
    exact reads element

theorem exists_convertServiceElementIdMap (lawful : json.Lawful)
    (ids : UnorderedMap String (BitVec 8)) :
    ∃ written read, convertServiceElementIdMapToJson json ids = some written ∧
      json.readMap some (json.asUnsigned 8) written = some read ∧
      ∀ name, read.find name = ids.find name := by
  have comesBack : ∃ written read, convertServiceElementIdMapToJson json ids = some written ∧
      json.readMap some (json.asUnsigned 8) written = some read ∧
      ∀ name, read.find name = (ids.find name).map id := by
    apply lawful.exists_readMap
    · intro text name
      simp
    · exact lawful.asUnsigned_unsigned 8
  simpa using comesBack

theorem exists_convertUidMap (lawful : json.Lawful)
    (uids : UnorderedMap QualityType (List (BitVec 32))) :
    ∃ written read, convertUidMapToJson json uids = some written ∧
      json.readMap QualityType.fromString
        (fun value => (json.asList value).bind (List.mapM (json.asUnsigned 32))) written =
        some read ∧
      ∀ quality, read.find quality = uids.find quality := by
  have reads (ids : List (BitVec 32)) : (json.asList (json.list (ids.map (json.unsigned 32)))).bind
        (List.mapM (json.asUnsigned 32)) = some (id ids) := by
    rw [lawful.asList_list, Option.bind_some, id]
    induction ids with
    | nil => rfl
    | cons first rest ih =>
        rw [List.map_cons, List.mapM_cons, lawful.asUnsigned_unsigned, ih]
        rfl
  have comesBack : ∃ written read, convertUidMapToJson json uids = some written ∧
      json.readMap QualityType.fromString
        (fun value => (json.asList value).bind (List.mapM (json.asUnsigned 32))) written =
        some read ∧
      ∀ quality, read.find quality = (uids.find quality).map id := by
    apply lawful.exists_readMap
    · exact QualityType.fromString_eq_some_iff
    · exact reads
  simpa using comesBack

end Maps

/-- Everything comes back but the tracing flags. -/
theorem LolaServiceInstanceDeployment.exists_ofJson (lawful : json.Lawful)
    (deployment : LolaServiceInstanceDeployment) :
    ∃ read, (deployment.serialize json).bind (LolaServiceInstanceDeployment.ofJson json) =
        some read ∧
      read.Agree withoutTracing deployment ∧ read.Untraced := by
  obtain ⟨events, readEvents, eventsWritten, eventsRead, eventsFind⟩ :=
    exists_convertServiceElementMap lawful
      (ofJson_serialize lawful) deployment.events
  obtain ⟨fields, readFields, fieldsWritten, fieldsRead, fieldsFind⟩ :=
    exists_convertServiceElementMap lawful
      (ofJson_serialize lawful) deployment.fields
  obtain ⟨consumers, readConsumers, consumersWritten, consumersRead, consumersFind⟩ :=
    exists_convertUidMap lawful deployment.allowedConsumer
  obtain ⟨providers, readProviders, providersWritten, providersRead, providersFind⟩ :=
    exists_convertUidMap lawful deployment.allowedProvider
  refine ⟨⟨deployment.instanceId, deployment.sharedMemorySize, readEvents, readFields,
    deployment.strictPermissions, readConsumers, readProviders⟩, ?_, ?_, ?_⟩
  · have idReads (id : LolaServiceInstanceId) :
        (json.asObject (json.object (id.serialize json))).bind
          (LolaServiceInstanceId.ofJson json) = some id := by
      rw [lawful.asObject_object]
      exact LolaServiceInstanceId.ofJson_serialize lawful id
    have sizeReads := lawful.asUnsigned_unsigned 64
    rw [serialize, eventsWritten, fieldsWritten, consumersWritten, providersWritten]
    simp only [Option.bind_eq_bind, Option.bind_some, Option.pure_def]
    rw [ofJson, getOptionalFromJson_eq deployment.instanceId idReads,
      getOptionalFromJson_eq deployment.sharedMemorySize sizeReads]
    · simp [convertJsonToServiceElementMap, convertJsonToUidMap, getValueFromJson,
        checkSerializationVersion, lawful.find_set, lawful.find_setOptional,
        lawful.asUnsigned_unsigned, lawful.asObject_object, lawful.asBool_bool, eventsRead,
        fieldsRead, consumersRead, providersRead]
    · simp [lawful.find_set, lawful.find_setOptional, lawful.find_empty]
    · simp [lawful.find_set, lawful.find_setOptional, lawful.find_empty]
  · exact
      { instanceId := rfl
        sharedMemorySize := rfl
        events := fun name => by rw [eventsFind, Option.map_map, withoutTracing_comp]
        fields := fun name => by rw [fieldsFind, Option.map_map, withoutTracing_comp]
        strictPermissions := rfl
        allowedConsumer := consumersFind
        allowedProvider := providersFind }
  · constructor
    · intro name event found
      rw [eventsFind] at found
      exact isTracingEnabled_of_map found
    · intro name field found
      rw [fieldsFind] at found
      exact isTracingEnabled_of_map found

theorem SomeIpServiceInstanceDeployment.exists_ofJson (lawful : json.Lawful)
    (deployment : SomeIpServiceInstanceDeployment) :
    ∃ read, (deployment.serialize json).bind (SomeIpServiceInstanceDeployment.ofJson json) =
        some read ∧ read.Agree deployment := by
  have elementReads (element : SomeIpEventInstanceDeployment) : SomeIpEventInstanceDeployment.ofJson
        (SomeIpEventInstanceDeployment.serialize json element) = some (id element) :=
    rfl
  obtain ⟨events, readEvents, eventsWritten, eventsRead, eventsFind⟩ :=
    exists_convertServiceElementMap lawful elementReads deployment.events
  obtain ⟨fields, readFields, fieldsWritten, fieldsRead, fieldsFind⟩ :=
    exists_convertServiceElementMap lawful elementReads deployment.fields
  refine ⟨⟨deployment.instanceId, readEvents, readFields⟩, ?_, ?_⟩
  · have idReads (id : SomeIpServiceInstanceId) :
        (json.asObject (json.object (id.serialize json))).bind
          (SomeIpServiceInstanceId.ofJson json) = some id := by
      rw [lawful.asObject_object]
      exact SomeIpServiceInstanceId.ofJson_serialize lawful id
    rw [serialize, eventsWritten, fieldsWritten]
    simp only [Option.bind_eq_bind, Option.bind_some, Option.pure_def]
    rw [ofJson, getOptionalFromJson_eq deployment.instanceId idReads]
    · simp [convertJsonToServiceElementMap, getValueFromJson, checkSerializationVersion,
        lawful.find_set, lawful.find_setOptional, lawful.asUnsigned_unsigned,
        lawful.asObject_object, eventsRead, fieldsRead]
    · simp [lawful.find_set, lawful.find_setOptional, lawful.find_empty]
  · exact
      { instanceId := rfl
        events := fun name => by rw [eventsFind, Option.map_id, id]
        fields := fun name => by rw [fieldsFind, Option.map_id, id] }

/-- No event or field of the binding is traced. -/
def BindingInformation.Untraced : BindingInformation → Prop
  | .lola deployment => deployment.Untraced
  | _ => True

/-- The index and the binding are read from where they are written, whatever is
written besides. -/
theorem BindingInformation.exists_ofJson (lawful : json.Lawful)
    (binding : BindingInformation) (object : Object) :
    ∃ written read, binding.serializeInto json object = some written ∧
      (∀ key, key ≠ "bindingInfo" → json.find written key = json.find object key) ∧
      (∀ whole, json.find whole "bindingInfoIndex" = some (json.unsigned 64 binding.index) →
        json.find whole "bindingInfo" = json.find written "bindingInfo" →
        BindingInformation.ofJson json whole = some read) ∧
      read.Agree withoutTracing binding ∧ read.Untraced := by
  cases binding with
  | lola deployment =>
      obtain ⟨read, comesBack, agrees, untraced⟩ := deployment.exists_ofJson lawful
      obtain ⟨inner, written, isRead⟩ := Option.bind_eq_some_iff.mp comesBack
      refine ⟨json.set object "bindingInfo" (json.object inner), .lola read, ?_, ?_, ?_,
        agrees, untraced⟩
      · simp [serializeInto, written]
      · intro key differs
        rw [lawful.find_set, if_neg differs]
      · intro whole indexFound bindingFound
        rw [lawful.find_set, if_pos rfl] at bindingFound
        simp [ofJson, getValueFromJson, indexFound, bindingFound, index,
          lawful.asUnsigned_unsigned, lawful.asObject_object, isRead]
  | someIp deployment =>
      obtain ⟨read, comesBack, agrees⟩ := deployment.exists_ofJson lawful
      obtain ⟨inner, written, isRead⟩ := Option.bind_eq_some_iff.mp comesBack
      refine ⟨json.set object "bindingInfo" (json.object inner), .someIp read, ?_, ?_, ?_,
        agrees, trivial⟩
      · simp [serializeInto, written]
      · intro key differs
        rw [lawful.find_set, if_neg differs]
      · intro whole indexFound bindingFound
        rw [lawful.find_set, if_pos rfl] at bindingFound
        simp [ofJson, getValueFromJson, indexFound, bindingFound, index,
          lawful.asUnsigned_unsigned, lawful.asObject_object, isRead]
  | blank =>
      refine ⟨object, .blank, rfl, fun _ _ => rfl, ?_, trivial, trivial⟩
      intro whole indexFound _
      simp [ofJson, getValueFromJson, indexFound, index, lawful.asUnsigned_unsigned]

/-- The deployment of a type comes back with the same entries. -/
theorem ServiceTypeDeployment.exists_ofJson (lawful : json.Lawful)
    (deployment : ServiceTypeDeployment) :
    ∃ read, (deployment.serialize json).bind (ServiceTypeDeployment.ofJson json) =
        some read ∧ read.Agree deployment := by
  cases deployment with
  | blank =>
      refine ⟨.blank, ?_, trivial⟩
      simp [serialize, ofJson, getValueFromJson, checkSerializationVersion, index,
        lawful.find_set, lawful.asUnsigned_unsigned]
  | lola deployment =>
      obtain ⟨events, readEvents, eventsWritten, eventsRead, eventsFind⟩ :=
        exists_convertServiceElementIdMap lawful deployment.events
      obtain ⟨fields, readFields, fieldsWritten, fieldsRead, fieldsFind⟩ :=
        exists_convertServiceElementIdMap lawful deployment.fields
      refine ⟨.lola ⟨deployment.serviceId, readEvents, readFields⟩, ?_,
        ⟨rfl, eventsFind, fieldsFind⟩⟩
      rw [serialize, LolaServiceTypeDeployment.serialize, eventsWritten, fieldsWritten]
      simp [ofJson, LolaServiceTypeDeployment.ofJson, convertJsonToServiceElementIdMap,
        getValueFromJson, checkSerializationVersion, index, lawful.find_set,
        lawful.asUnsigned_unsigned, lawful.asObject_object, eventsRead, fieldsRead]

/-- What is left of a deployment: its service up to a NUL in the name, its binding
up to the tracing flags, and everything else. -/
theorem ServiceInstanceDeployment.exists_ofJson (lawful : json.Lawful)
    (deployment : ServiceInstanceDeployment) :
    ∃ read, (deployment.serialize json).bind (ServiceInstanceDeployment.ofJson json) = some read ∧
      read.service = ⟨String.ofList (cString deployment.service.serviceTypeName),
        deployment.service.version⟩ ∧
      read.bindingInfo.Agree withoutTracing
        deployment.bindingInfo ∧
      read.bindingInfo.Untraced ∧
      read.asilLevel = deployment.asilLevel ∧
      read.instanceSpecifier = deployment.instanceSpecifier := by
  obtain ⟨written, binding, isWritten, besides, isRead, agrees, untraced⟩ :=
    deployment.bindingInfo.exists_ofJson lawful
      (json.set json.empty "bindingInfoIndex" (json.unsigned 64 deployment.bindingInfo.index))
  refine ⟨⟨⟨String.ofList (cString deployment.service.serviceTypeName),
    deployment.service.version⟩, binding, deployment.asilLevel,
    deployment.instanceSpecifier⟩, ?_, rfl, agrees, untraced, rfl, rfl⟩
  have quality := (QualityType.fromString_eq_some_iff _ deployment.asilLevel).mpr rfl
  rw [serialize]
  simp only [Option.bind_eq_bind, isWritten, Option.bind_some, Option.pure_def]
  rw [ofJson, isRead]
  · simp [getValueFromJson, checkSerializationVersion, lawful.find_set,
      lawful.asUnsigned_unsigned, lawful.asObject_object, lawful.asString_string, quality,
      ServiceIdentifierType.ofJson_serialize lawful,
      InstanceSpecifier.create_instanceSpecifierString]
  · simp [lawful.find_set, besides]
  · simp [lawful.find_set]

/-! ## The law -/

/-- Two events that differ at most in the flag, neither of them traced. -/
theorem LolaEventInstanceDeployment.eq_of_untraced {one two : Option LolaEventInstanceDeployment}
    (same : one.map withoutTracing = two.map withoutTracing)
    (oneUntraced : ∀ event, one = some event → event.isTracingEnabled = false)
    (twoUntraced : ∀ event, two = some event → event.isTracingEnabled = false) :
    one = two := by
  have unchanged {event : Option LolaEventInstanceDeployment}
      (untraced : ∀ value, event = some value → value.isTracingEnabled = false) :
      event.map withoutTracing = event := by
    cases event with
    | none => rfl
    | some value =>
        rw [Option.map_some, withoutTracing, ← untraced value rfl]
  rw [unchanged oneUntraced, unchanged twoUntraced] at same
  exact same

/-- What comes back has every field exactly if nothing was traced. -/
theorem LolaServiceInstanceDeployment.agree_id_iff {read deployment : LolaServiceInstanceDeployment}
    (agrees : read.Agree withoutTracing deployment)
    (untraced : read.Untraced) : read.Agree id deployment ↔ deployment.Untraced := by
  constructor
  · intro same
    have events := same.events
    have fields := same.fields
    simp only [Option.map_id, id] at events fields
    constructor
    · intro name event found
      exact untraced.1 name event (by rw [events, found])
    · intro name field found
      exact untraced.2 name field (by rw [fields, found])
  · intro alsoUntraced
    exact
      { instanceId := agrees.instanceId
        sharedMemorySize := agrees.sharedMemorySize
        events := fun name => congrArg _ (eq_of_untraced
          (agrees.events name) (untraced.1 name) (alsoUntraced.1 name))
        fields := fun name => congrArg _ (eq_of_untraced
          (agrees.fields name) (untraced.2 name) (alsoUntraced.2 name))
        strictPermissions := agrees.strictPermissions
        allowedConsumer := agrees.allowedConsumer
        allowedProvider := agrees.allowedProvider }

/-- A text without a NUL is passed on whole. -/
theorem ofList_cString_eq_iff (text : String) :
    String.ofList (cString text) = text ↔ Char.ofNat 0 ∉ text.toList := by
  rw [cString, ← String.toList_inj, String.toList_ofList, List.takeWhile_eq_self_iff]
  constructor
  · intro noneEnds member
    have differs := noneEnds _ member
    simp at differs
  · intro absent character member
    have differs : character ≠ Char.ofNat 0 := fun same => absent (same ▸ member)
    simp [differs]

/-- Every field of two deployments is equal. -/
structure ServiceInstanceDeployment.FieldsEqual (lhs rhs : ServiceInstanceDeployment) : Prop where
  service : lhs.service = rhs.service
  bindingInfo : lhs.bindingInfo.Agree id rhs.bindingInfo
  asilLevel : lhs.asilLevel = rhs.asilLevel
  instanceSpecifier : lhs.instanceSpecifier = rhs.instanceSpecifier

/-- A deployment that was written is always read, and equal as the deployments
compare; it has every field exactly if nothing is traced and the name of the service
has no NUL. -/
theorem roundTrips_iff (lawful : json.Lawful) (deployment : ServiceInstanceDeployment)
    (lola : LolaServiceInstanceDeployment) (binding : deployment.bindingInfo = .lola lola) :
    ∃ read, (deployment.serialize json).bind (ServiceInstanceDeployment.ofJson json) = some read ∧
      read.Equal deployment ∧
      (read.FieldsEqual deployment ↔
        lola.Untraced ∧ Char.ofNat 0 ∉ deployment.service.serviceTypeName.toList) := by
  obtain ⟨read, comesBack, service, agrees, untraced, asilLevel, instanceSpecifier⟩ :=
    deployment.exists_ofJson lawful
  refine ⟨read, comesBack, ?_⟩
  have name : read.service = deployment.service ↔
      Char.ofNat 0 ∉ deployment.service.serviceTypeName.toList := by
    rw [service, ← ofList_cString_eq_iff]
    constructor
    · intro same
      exact congrArg ServiceIdentifierType.serviceTypeName same
    · intro whole
      rw [whole]
  obtain ⟨readService, readBinding, readLevel, readSpecifier⟩ := read
  rw [binding] at agrees
  cases readBinding with
  | someIp other => exact agrees.elim
  | blank => exact agrees.elim
  | lola readLola =>
      constructor
      · refine ⟨asilLevel, ?_⟩
        rw [binding]
        exact agrees.instanceId
      · rw [← name, ← LolaServiceInstanceDeployment.agree_id_iff agrees untraced]
        constructor
        · intro same
          have bindings := same.bindingInfo
          rw [binding] at bindings
          exact ⟨bindings, same.service⟩
        · intro same
          refine ⟨same.2, ?_, asilLevel, instanceSpecifier⟩
          rw [binding]
          exact same.1

section Inputs

/-- An event with a value for everything. -/
def eventWith (isTracingEnabled : Bool) : LolaEventInstanceDeployment where
  maxSubscribers := some 3
  maxConcurrentAllocations := some 1
  enforceMaxSamples := some true
  numberOfSampleSlots := some 10
  isTracingEnabled := isTracingEnabled

def deploymentWith (isTracingEnabled : Bool) : LolaServiceInstanceDeployment where
  instanceId := some ⟨1⟩
  sharedMemorySize := some 500
  events := ⟨[("event", eventWith isTracingEnabled)], List.nodup_singleton _⟩
  fields := .empty
  strictPermissions := true
  allowedConsumer := ⟨[(.asilQm, [42, 43])], List.nodup_singleton _⟩
  allowedProvider := .empty

def instanceWith (isTracingEnabled : Bool) : ServiceInstanceDeployment where
  service := ⟨"/bmw/service", ⟨1, 0⟩⟩
  bindingInfo := .lola (deploymentWith isTracingEnabled)
  asilLevel := .asilB
  instanceSpecifier := ⟨"abc/port", isShortNameValid_port⟩

theorem roundTrips_untraced : ∃ read, ((instanceWith false).serialize sortedJson).bind
        (ServiceInstanceDeployment.ofJson sortedJson) = some read ∧
      read.Equal (instanceWith false) ∧
      (read.FieldsEqual (instanceWith false) ↔ (deploymentWith false).Untraced ∧
        Char.ofNat 0 ∉ (instanceWith false).service.serviceTypeName.toList) :=
  roundTrips_iff sortedJson_lawful (instanceWith false) (deploymentWith false) rfl

/-- That an event is traced does not come back. -/
theorem roundTrip_violated : ¬ ∀ (Any Object : Type) (json : JsonLibrary Any Object), json.Lawful →
      ∀ (deployment : ServiceInstanceDeployment) (lola : LolaServiceInstanceDeployment),
        deployment.bindingInfo = .lola lola →
        ∃ read, (deployment.serialize json).bind (ServiceInstanceDeployment.ofJson json) =
            some read ∧ read.Equal deployment ∧ read.FieldsEqual deployment := by
  intro always
  obtain ⟨read, comesBack, _, same⟩ := always JsonValue JsonObject sortedJson
    sortedJson_lawful (instanceWith true) (deploymentWith true) rfl
  obtain ⟨other, alsoComesBack, _, _, untraced, _⟩ :=
    (instanceWith true).exists_ofJson sortedJson_lawful
  rw [comesBack, Option.some.injEq] at alsoComesBack
  rw [← alsoComesBack] at untraced
  have bindings := same.bindingInfo
  obtain ⟨readService, readBinding, readLevel, readSpecifier⟩ := read
  cases readBinding with
  | someIp _ => exact bindings.elim
  | blank => exact bindings.elim
  | lola readLola =>
      have events : readLola.events.find "event" = some (eventWith true) := by
        have found := bindings.events "event"
        rw [Option.map_id, id, id] at found
        exact found
      exact absurd (untraced.1 "event" (eventWith true) events) (by decide)

end Inputs

end MwCom.Configuration
