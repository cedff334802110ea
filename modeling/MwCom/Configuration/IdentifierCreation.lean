/-
Module: MwCom.Configuration.IdentifierCreation
Purpose: Identifiers that are resolved from a configuration or made of a string, and which
  strings cannot be made identifiers.
Trusted boundary: the JSON library is a parameter.
Main exports: TextLibrary, create, resolve, Recognized, create_of_recognized, create_returns
-/
import Mathlib.Data.Option.Basic
import MwCom.Configuration.HashCoherence
import MwCom.Configuration.TracingSlots
import MwCom.Json.CleanText

namespace MwCom.Configuration

open Containers Json

/-! ## Creation -/

/-- A library that reads the text of a document too. -/
structure TextLibrary (Any Object : Type) extends ConfigLibrary Any Object where
  fromBuffer : String → Option Any

set_option linter.dupNamespace false

namespace Configuration

variable (configuration : Configuration)

/-- `none`: there is a deployment already, and the process ends. -/
def addServiceTypeDeployment (service : ServiceIdentifierType)
    (deployment : ServiceTypeDeployment) : Option Configuration := do
  let serviceTypes ← configuration.serviceTypes.insert? service deployment
  pure { configuration with serviceTypes }

def addServiceInstanceDeployments (specifier : InstanceSpecifier)
    (deployment : ServiceInstanceDeployment) : Option Configuration := do
  let serviceInstances ← configuration.serviceInstances.insert? specifier deployment
  pure { configuration with serviceInstances }

end Configuration

/-- The entries of the configuration that an identifier points to, and its string. -/
structure HeldIdentifier where
  instanceKey : InstanceSpecifier
  typeKey : ServiceIdentifierType
  serializedString : String
deriving DecidableEq

/-- The deployments that an identifier points to. -/
def HeldIdentifier.deployments (identifier : HeldIdentifier) (configuration : Configuration) :
    Option InstanceIdentifier := do
  let instanceDeployment ← configuration.serviceInstances.find identifier.instanceKey
  let typeDeployment ← configuration.serviceTypes.find identifier.typeKey
  pure { instanceDeployment, typeDeployment }

inductive CreationError where
  | invalidConfiguration
  | invalidInstanceIdentifierString
deriving DecidableEq

/-- What `InstanceIdentifier::Create` ends with. -/
inductive Creation where
  | terminates
  | fails (error : CreationError)
  | returns (configuration : Configuration) (identifier : HeldIdentifier)

section Creation

variable {Any Object : Type}

/-- `none` throughout: the process ends. -/
def InstanceIdentifier.ofJson (json : JsonLibrary Any Object) (object : Object) :
    Option InstanceIdentifier := do
  checkSerializationVersion json object
  let instanceDeployment ← getValueFromJson json json.asObject object "serviceInstanceDeployment"
  let instanceDeployment ← ServiceInstanceDeployment.ofJson json instanceDeployment
  let typeDeployment ← getValueFromJson json json.asObject object "serviceTypeDeployment"
  let typeDeployment ← ServiceTypeDeployment.ofJson json typeDeployment
  pure { instanceDeployment, typeDeployment }

variable (json : TextLibrary Any Object)

/-- The deployments of a document are added; the identifier points to them. -/
def addDeployments (configuration : Configuration) (document : Any) (serializedString : String) :
    Option (Configuration × HeldIdentifier) := do
  let object ← json.asObject document
  let identifier ← InstanceIdentifier.ofJson json.toJsonLibrary object
  let service := identifier.instanceDeployment.service
  let specifier := identifier.instanceDeployment.instanceSpecifier
  let configuration ← configuration.addServiceTypeDeployment service identifier.typeDeployment
  let configuration ←
    configuration.addServiceInstanceDeployments specifier identifier.instanceDeployment
  pure (configuration, { instanceKey := specifier, typeKey := service, serializedString })

/-- `InstanceIdentifier::Create` with a configuration to add to. -/
def create (configuration : Configuration) (serializedFormat : String) : Creation :=
  match json.fromBuffer (String.ofList (cString serializedFormat)) with
  | none => .fails .invalidInstanceIdentifierString
  | some document =>
      match addDeployments json configuration document serializedFormat with
      | some (configuration, identifier) => .returns configuration identifier
      | none => .terminates

/-- `Runtime::resolve`: at most one identifier. -/
def resolve (configuration : Configuration) (specifier : InstanceSpecifier) :
    Option (List HeldIdentifier) :=
  match configuration.serviceInstances.find specifier with
  | none => some []
  | some instanceDeployment =>
      match configuration.serviceTypes.find instanceDeployment.service with
      | none => some []
      | some typeDeployment => do
          let identifier : InstanceIdentifier := { instanceDeployment, typeDeployment }
          let serializedString ← identifier.toText json.toJsonLibrary
          pure
            [{ instanceKey := specifier, typeKey := instanceDeployment.service,
               serializedString }]

end Creation

/-! ## Strings of known services -/

variable {Any Object : Type} (json : TextLibrary Any Object)

/-- A string is read as an identifier of a service that the configuration knows. -/
def Recognized (configuration : Configuration) (text : String) : Prop :=
  ∃ document object identifier, json.fromBuffer (String.ofList (cString text)) = some document ∧
      json.asObject document = some object ∧
      InstanceIdentifier.ofJson json.toJsonLibrary object = some identifier ∧
      configuration.serviceTypes.find identifier.instanceDeployment.service ≠ none

variable {json} {configuration after : Configuration} {identifier : HeldIdentifier}
  {text : String}

/-- A service that is known is not added again. -/
theorem create_of_recognized (recognized : Recognized json configuration text) :
    create json configuration text = .terminates := by
  obtain ⟨document, object, identifier, isRead, isObject, isIdentifier, known⟩ := recognized
  obtain ⟨present, found⟩ := Option.ne_none_iff_exists'.mp known
  have refused : addDeployments json configuration document text = none := by
    simp [addDeployments, isObject, isIdentifier, Configuration.addServiceTypeDeployment,
      UnorderedMap.insert?_of_find found]
  rw [create, isRead]
  simp only [refused]

/-- An identifier that is written is read with its service, if the name has no NUL. -/
theorem InstanceIdentifier.exists_ofJson {library : JsonLibrary Any Object}
    (lawful : library.Lawful) (identifier : InstanceIdentifier)
    (clean : Char.ofNat 0 ∉ identifier.instanceDeployment.service.serviceTypeName.toList) :
    ∃ object read, identifier.serialize library = some object ∧
      InstanceIdentifier.ofJson library object = some read ∧
      read.instanceDeployment.service = identifier.instanceDeployment.service := by
  obtain ⟨instanceRead, instanceReads, service, -, -, -, -⟩ :=
    identifier.instanceDeployment.exists_ofJson lawful
  obtain ⟨typeRead, typeReads, -⟩ := identifier.typeDeployment.exists_ofJson lawful
  obtain ⟨instanceObject, instanceWritten, instanceIsRead⟩ :=
    Option.bind_eq_some_iff.mp instanceReads
  obtain ⟨typeObject, typeWritten, typeIsRead⟩ := Option.bind_eq_some_iff.mp typeReads
  rw [(ofList_cString_eq_iff _).mpr clean] at service
  have written : identifier.serialize library = some
      (library.set (library.set (library.set library.empty "serializationVersion"
            (library.unsigned 32 serializationVersion))
          "serviceInstanceDeployment" (library.object instanceObject))
        "serviceTypeDeployment" (library.object typeObject)) := by
    rw [serialize, instanceWritten, typeWritten]
    rfl
  refine ⟨_, { instanceDeployment := instanceRead, typeDeployment := typeRead }, written, ?_,
    service⟩
  · simp [ofJson, checkSerializationVersion, getValueFromJson, lawful.find_set,
      lawful.asUnsigned_unsigned, lawful.asObject_object, instanceIsRead, typeIsRead]

/-! ## What is kept -/

/-- What a creation adds, and what it leaves as it is. -/
theorem create_returns (isCreated : create json configuration text = .returns after identifier) :
    identifier.serializedString = text ∧ Recognized json after text ∧
      ∀ service, configuration.serviceTypes.find service ≠ none →
        after.serviceTypes.find service ≠ none := by
  rw [create] at isCreated
  split at isCreated
  · cases isCreated
  · rename_i document isRead
    split at isCreated
    · rename_i added made isAdded
      cases isCreated
      simp only [addDeployments, Configuration.addServiceTypeDeployment,
        Configuration.addServiceInstanceDeployments, Option.bind_eq_bind,
        Option.bind_eq_some_iff, Option.pure_def, Option.some.injEq, Prod.mk.injEq] at isAdded
      obtain ⟨object, isObject, read, isIdentifier, between, ⟨types, typesAdded, rfl⟩, added,
        ⟨instances, instancesAdded, rfl⟩, rfl, rfl⟩ := isAdded
      have findsType := UnorderedMap.find_insert? typesAdded
      have known : types.find read.instanceDeployment.service ≠ none := by
        rw [(findsType _).2, if_pos rfl]
        simp
      refine ⟨rfl, ⟨document, object, read, isRead, isObject, isIdentifier, known⟩, ?_⟩
      intro service present
      change types.find service ≠ none
      rw [(findsType service).2]
      by_cases same : service = read.instanceDeployment.service
      · simp [same]
      · rw [if_neg same]
        exact present
    · cases isCreated

/-- An identifier points to two entries. -/
theorem HeldIdentifier.deployments_ne_none_iff {held : HeldIdentifier} :
    held.deployments configuration ≠ none ↔
      configuration.serviceInstances.find held.instanceKey ≠ none ∧
        configuration.serviceTypes.find held.typeKey ≠ none := by
  rw [HeldIdentifier.deployments]
  cases configuration.serviceInstances.find held.instanceKey with
  | none => simp
  | some instanceDeployment =>
      cases configuration.serviceTypes.find held.typeKey with
      | none => simp
      | some typeDeployment => simp

/-- The entries that an identifier points to stay when others are added. -/
theorem create_keeps (isCreated : create json configuration text = .returns after identifier) :
    identifier.deployments after ≠ none ∧
      ∀ held : HeldIdentifier, held.deployments configuration ≠ none →
        held.deployments after ≠ none := by
  rw [create] at isCreated
  split at isCreated
  · cases isCreated
  · split at isCreated
    · rename_i added made isAdded
      cases isCreated
      simp only [addDeployments, Configuration.addServiceTypeDeployment,
        Configuration.addServiceInstanceDeployments, Option.bind_eq_bind,
        Option.bind_eq_some_iff, Option.pure_def, Option.some.injEq, Prod.mk.injEq] at isAdded
      obtain ⟨object, -, read, -, between, ⟨types, typesAdded, rfl⟩, added,
        ⟨instances, instancesAdded, rfl⟩, rfl, rfl⟩ := isAdded
      have findsType := UnorderedMap.find_insert? typesAdded
      have findsInstance := UnorderedMap.find_insert? instancesAdded
      simp only [HeldIdentifier.deployments_ne_none_iff]
      constructor
      · simp [(findsType _).2, (findsInstance _).2]
      · intro held present
        rw [(findsType _).2, (findsInstance _).2]
        constructor
        · by_cases same : held.instanceKey = read.instanceDeployment.instanceSpecifier
          · simp [same]
          · rw [if_neg same]
            exact present.1
        · by_cases same : held.typeKey = read.instanceDeployment.service
          · simp [same]
          · rw [if_neg same]
            exact present.2
    · cases isCreated

theorem resolve_keeps {specifier : InstanceSpecifier} {found : List HeldIdentifier}
    (isFound : resolve json configuration specifier = some found) :
    ∀ identifier ∈ found, identifier.deployments configuration ≠ none := by
  intro identifier member
  rw [resolve] at isFound
  split at isFound
  · cases isFound
    cases member
  · rename_i instanceDeployment instanceFound
    split at isFound
    · cases isFound
      cases member
    · rename_i typeDeployment typeFound
      obtain ⟨text, -, isFound⟩ := Option.bind_eq_some_iff.mp isFound
      cases isFound
      obtain rfl := List.mem_singleton.mp member
      rw [HeldIdentifier.deployments_ne_none_iff, instanceFound, typeFound]
      simp

theorem Recognized.mono (recognized : Recognized json configuration text)
    (keeps : ∀ service, configuration.serviceTypes.find service ≠ none →
      after.serviceTypes.find service ≠ none) : Recognized json after text := by
  obtain ⟨document, object, read, isRead, isObject, isIdentifier, known⟩ := recognized
  exact ⟨document, object, read, isRead, isObject, isIdentifier, keeps _ known⟩

section Inputs

/-- The texts that are written have no NUL, and they are read again. -/
noncomputable def cleanJson : TextLibrary JsonValue JsonObject where
  toConfigLibrary :=
    { toJsonLibrary := { sortedJson with toBuffer := cleanText }
      asSigned := sortedConfig.asSigned }
  fromBuffer text := (readClean text).map sortedJson.object

theorem cleanJson_lawful : cleanJson.Lawful where
  asUnsigned_unsigned := sortedJson_lawful.asUnsigned_unsigned
  asBool_bool := sortedJson_lawful.asBool_bool
  asString_string := sortedJson_lawful.asString_string
  asList_list := sortedJson_lawful.asList_list
  asObject_object := sortedJson_lawful.asObject_object
  find_empty := sortedJson_lawful.find_empty
  find_set := sortedJson_lawful.find_set
  mem_members := sortedJson_lawful.mem_members
  nodup_members := sortedJson_lawful.nodup_members

/-- What was written is read again. -/
theorem cleanJson_fromBuffer (object : JsonObject) :
    cleanJson.fromBuffer (String.ofList (cString (cleanText object))) =
      some (cleanJson.object object) := by
  have whole : String.ofList (cString (cleanText object)) = cleanText object :=
    (ofList_cString_eq_iff _).mpr (not_mem_cleanText object)
  change (readClean (String.ofList (cString (cleanText object)))).map _ = _
  rw [whole, readClean_cleanText]
  rfl

/-- The one instance is resolved to one identifier, the text of which is read again. -/
theorem exists_configuredIdentifier : ∃ configuration object read,
      ConfigParser.parse cleanJson.toConfigLibrary (documentWith false) = some configuration ∧
        InstanceIdentifier.ofJson cleanJson.toJsonLibrary object = some read ∧
        resolve cleanJson configuration configuredSpecifier =
          some [⟨configuredSpecifier, read.instanceDeployment.service, cleanText object⟩] := by
  have evaluated : ((ConfigParser.parse cleanJson.toConfigLibrary (documentWith false)).any
      fun configuration => (configuration.serviceInstances.find configuredSpecifier).any
        fun deployment => (configuration.serviceTypes.find deployment.service).isSome) = true := by
    decide +kernel
  obtain ⟨configuration, parsed, evaluated⟩ := (Option.any_eq_true _ _).mp evaluated
  obtain ⟨instanceDeployment, present, evaluated⟩ := (Option.any_eq_true _ _).mp evaluated
  obtain ⟨typeDeployment, known⟩ := Option.isSome_iff_exists.mp evaluated
  obtain ⟨object, read, written, isRead, service⟩ :=
    InstanceIdentifier.exists_ofJson cleanJson_lawful ⟨instanceDeployment, typeDeployment⟩
      (ConfigParser.parsed_of_parse parsed present).service
  refine ⟨configuration, object, read, parsed, isRead, ?_⟩
  rw [resolve, present]
  simp only [known]
  rw [InstanceIdentifier.toText, written, service]
  rfl

/-- A configuration without services takes the deployments of a text that can be read. -/
theorem create_of_empty {object : JsonObject} {read : InstanceIdentifier}
    (isRead : InstanceIdentifier.ofJson cleanJson.toJsonLibrary object = some read)
    (noTypes : configuration.serviceTypes.entries = [])
    (noInstances : configuration.serviceInstances.entries = []) :
    ∃ after identifier,
      create cleanJson configuration (cleanText object) = .returns after identifier := by
  have isObject : cleanJson.asObject (cleanJson.object object) = some object :=
    cleanJson_lawful.asObject_object object
  rw [create, cleanJson_fromBuffer]
  simp [addDeployments, isObject, isRead, Configuration.addServiceTypeDeployment,
    Configuration.addServiceInstanceDeployments, noTypes, noInstances, UnorderedMap.insert?]

/-- No instances of no services. -/
def emptyDocument : JsonValue :=
  .object [("serviceInstances", .list []), ("serviceTypes", .list [])]

theorem exists_emptyConfiguration : ∃ configuration,
      ConfigParser.parse cleanJson.toConfigLibrary emptyDocument = some configuration ∧
        configuration.serviceTypes.entries = [] ∧
        configuration.serviceInstances.entries = [] := by
  have evaluated : ((ConfigParser.parse cleanJson.toConfigLibrary emptyDocument).any
      fun configuration => configuration.serviceTypes.entries.isEmpty &&
        configuration.serviceInstances.entries.isEmpty) = true := by
    decide +kernel
  obtain ⟨configuration, parsed, evaluated⟩ := (Option.any_eq_true _ _).mp evaluated
  obtain ⟨noTypes, noInstances⟩ := Bool.and_eq_true_iff.mp evaluated
  exact ⟨configuration, parsed, List.isEmpty_iff.mp noTypes, List.isEmpty_iff.mp noInstances⟩

end Inputs

end MwCom.Configuration
