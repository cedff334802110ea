/-
Module: MwCom.Configuration.ElementIds
Purpose: Which ids of events and fields a configuration has, against the document it was
  read from, and what the cross-checks promise.
Trusted boundary: none
Main exports: ElementKind, Written, Stored, FaithfulLaw, ConfigParser.faithfulLaw_iff
-/
import MwCom.Configuration.TracingSlots

namespace MwCom.Configuration

open Containers Json

/-! ## Elements of a document -/

inductive ElementKind where
  | event
  | field
deriving DecidableEq, Repr

namespace ElementKind

/-- The member of a binding that lists the elements. -/
def key : ElementKind → String
  | .event => "events"
  | .field => "fields"

def nameKey : ElementKind → String
  | .event => "eventName"
  | .field => "fieldName"

def idKey : ElementKind → String
  | .event => "eventId"
  | .field => "fieldId"

end ElementKind

def LolaServiceTypeDeployment.elements (deployment : LolaServiceTypeDeployment) :
    ElementKind → UnorderedMap String (BitVec 8)
  | .event => deployment.events
  | .field => deployment.fields

def LolaServiceInstanceDeployment.elementsOf (deployment : LolaServiceInstanceDeployment) :
    ElementKind → UnorderedMap String LolaEventInstanceDeployment
  | .event => deployment.events
  | .field => deployment.fields

section Written

variable {Any Object : Type} (json : ConfigLibrary Any Object)

/-- The members of a binding, if it is one over shared memory. -/
def shmBinding (binding : Any) : Option Object := do
  let object ← json.asObject binding
  let value ← getValueFromJson json.toJsonLibrary json.asString object "binding"
  if value = "SHM" then some object else none

/-- The document describes a type of services, and this is its first binding over shared
memory. -/
def DescribesType (document : Any) (service : ServiceIdentifierType) (binding : Object) : Prop :=
  ∃ object serviceTypes serviceType members bindings, json.asObject document = some object ∧
      getValueFromJson json.toJsonLibrary json.asList object "serviceTypes" =
        some serviceTypes ∧ serviceType ∈ serviceTypes ∧
      json.asObject serviceType = some members ∧
      ConfigParser.parseServiceTypeIdentifier json members = some service ∧
      getValueFromJson json.toJsonLibrary json.asList members "bindings" = some bindings ∧
      bindings.findSome? (shmBinding json) = some binding

/-- A binding lists an element with an id. -/
def ListsElement (binding : Object) (kind : ElementKind) (name : String)
    (number : BitVec 16) : Prop :=
  ∃ elements element members,
    getValueFromJson json.toJsonLibrary json.asList binding kind.key = some elements ∧
      element ∈ elements ∧ json.asObject element = some members ∧
      getValueFromJson json.toJsonLibrary json.asString members kind.nameKey = some name ∧
      getValueFromJson json.toJsonLibrary (json.asUnsigned 16) members kind.idKey = some number

/-- The id that is written for an element of a type of services. -/
def Written (document : Any) (service : ServiceIdentifierType) (kind : ElementKind)
    (name : String) (number : BitVec 16) : Prop :=
  ∃ binding, DescribesType json document service binding ∧
    ListsElement json binding kind name number

end Written

/-- The id that a configuration has for an element of a type of services. -/
def Stored (configuration : Configuration) (service : ServiceIdentifierType)
    (kind : ElementKind) (name : String) (id : BitVec 8) : Prop :=
  ∃ deployment, configuration.serviceTypes.find service = some (.lola deployment) ∧
    (deployment.elements kind).find name = some id

/-- What is promised of a configuration that was read from a document. -/
structure FaithfulLaw {Any Object : Type} (json : ConfigLibrary Any Object) (document : Any)
    (configuration : Configuration) : Prop where
  /-- The ids are those that are written, and no others. -/
  ids : ∀ service kind name number, Written json document service kind name number →
    ∃ id, Stored configuration service kind name id ∧ id.toNat = number.toNat
  written : ∀ service kind name id, Stored configuration service kind name id →
    ∃ number, Written json document service kind name number
  /-- The elements of a type have ids of their own. -/
  distinct : ∀ service kind otherKind name otherName id, Stored configuration service kind name id →
      Stored configuration service otherKind otherName id → kind = otherKind ∧ name = otherName
  /-- An instance has only elements of its type. -/
  elements : ∀ specifier deployment,
    configuration.serviceInstances.find specifier = some deployment →
      ∃ lola serviceType, deployment.bindingInfo = .lola lola ∧
        configuration.serviceTypes.find deployment.service = some (.lola serviceType) ∧
        ∀ kind name, ((lola.elementsOf kind).find name).isSome →
          ((serviceType.elements kind).find name).isSome
  /-- No instance has a higher level than the process. -/
  levels : ∀ specifier deployment, configuration.serviceInstances.find specifier = some deployment →
      deployment.asilLevel = .asilB → configuration.globalConfiguration.processAsilLevel = .asilB

/-! ## What is read -/

namespace ConfigParser

variable {Any Object : Type} {json : ConfigLibrary Any Object} {document : Any}
  {configuration : Configuration}

variable {deployment : LolaServiceTypeDeployment}

/-- The elements of both kinds are read in the same way. -/
theorem elements_of_parseLolaServiceTypeDeployments {object : Object}
    (parsed : parseLolaServiceTypeDeployments json object = some deployment) (kind : ElementKind) :
    parseElements json (parseElementType json kind.nameKey kind.idKey) object kind.key =
      some (deployment.elements kind) := by
  simp only [parseLolaServiceTypeDeployments, Option.bind_eq_bind, Option.bind_eq_some_iff,
    Option.pure_def, Option.some.injEq] at parsed
  obtain ⟨serviceId, _, events, parsedEvents, fields, parsedFields, _, _, _, _, rfl⟩ := parsed
  cases kind with
  | event => exact parsedEvents
  | field => exact parsedFields

variable {name : String} {id : BitVec 8}

theorem parseElementType_eq_some_iff {nameKey idKey : String} {element : Any} :
    parseElementType json nameKey idKey element = some (name, id) ↔
      ∃ members number, json.asObject element = some members ∧
        getValueFromJson json.toJsonLibrary json.asString members nameKey = some name ∧
        getValueFromJson json.toJsonLibrary (json.asUnsigned 16) members idKey = some number ∧
        id = number.setWidth 8 := by
  simp only [parseElementType, Option.bind_eq_bind, Option.bind_eq_some_iff, Option.pure_def,
    Option.some.injEq, Prod.mk.injEq]
  constructor
  · rintro ⟨members, isObject, _, isName, number, isId, rfl, rfl⟩
    exact ⟨members, number, isObject, isName, isId, rfl⟩
  · rintro ⟨members, number, isObject, isName, isId, rfl⟩
    exact ⟨members, isObject, name, isName, number, isId, rfl, rfl⟩

variable {kind : ElementKind}

/-- The id of an element is the lower half of the number that is written. -/
theorem find_elements_iff {object : Object}
    (parsed : parseLolaServiceTypeDeployments json object = some deployment) :
    (deployment.elements kind).find name = some id ↔
      ∃ number, ListsElement json object kind name number ∧ id = number.setWidth 8 := by
  have parsedElements := elements_of_parseLolaServiceTypeDeployments parsed kind
  rw [parseElements] at parsedElements
  cases listed : json.find object kind.key with
  | none =>
      rw [listed] at parsedElements
      rw [← Option.some.inj parsedElements]
      constructor
      · intro found
        cases found
      · rintro ⟨number, ⟨elements, _, _, isListed, _⟩, _⟩
        rw [getValueFromJson, listed] at isListed
        cases isListed
  | some value =>
      rw [listed] at parsedElements
      obtain ⟨elements, isList, isFilled⟩ := Option.bind_eq_some_iff.mp parsedElements
      rw [UnorderedMap.find_fill_iff isFilled]
      constructor
      · rintro (before | ⟨element, member, isRead⟩)
        · cases before
        · obtain ⟨members, number, isObject, isName, isId, isHalf⟩ :=
            parseElementType_eq_some_iff.mp isRead
          refine ⟨number, ⟨elements, element, members, ?_, member, isObject, isName, isId⟩, isHalf⟩
          rw [getValueFromJson, listed]
          exact isList
      · rintro ⟨number, ⟨others, element, members, isListed, member, isObject, isName, isId⟩,
          isHalf⟩
        rw [getValueFromJson, listed] at isListed
        cases isList.symm.trans isListed
        right
        exact ⟨element, member, parseElementType_eq_some_iff.mpr
          ⟨members, number, isObject, isName, isId, isHalf⟩⟩

/-- The deployment of a type is the one of its first binding over shared memory. -/
theorem parseBindings_cases {bindings : List Any} {deployment : ServiceTypeDeployment}
    (parsed : parseBindings json bindings = some deployment) :
    (bindings.findSome? (shmBinding json) = none ∧ deployment = .blank) ∨
      ∃ binding lola, bindings.findSome? (shmBinding json) = some binding ∧
        parseLolaServiceTypeDeployments json binding = some lola ∧ deployment = .lola lola := by
  induction bindings with
  | nil =>
      cases parsed
      exact .inl ⟨rfl, rfl⟩
  | cons binding rest ih =>
      simp only [parseBindings, Option.bind_eq_bind, Option.bind_eq_some_iff] at parsed
      obtain ⟨object, isObject, value, isValue, parsed⟩ := parsed
      have checked : shmBinding json binding = if value = "SHM" then some object else none := by
        rw [shmBinding, isObject]
        change (getValueFromJson _ _ _ _ >>= _) = _
        rw [isValue]
        rfl
      rw [List.findSome?_cons, checked]
      split at parsed
      · rename_i isShm
        obtain ⟨lola, parsedLola, rfl⟩ := Option.map_eq_some_iff.mp parsed
        rw [if_pos isShm]
        exact .inr ⟨object, lola, rfl, parsedLola, rfl⟩
      · rename_i otherBinding
        obtain ⟨_, _, parsedRest⟩ := Option.bind_eq_some_iff.mp parsed
        rw [if_neg otherBinding]
        exact ih parsedRest

variable {service : ServiceIdentifierType}

theorem parseServiceType_eq_some_iff {serviceType : Any} {deployment : ServiceTypeDeployment} :
    parseServiceType json serviceType = some (service, deployment) ↔
      ∃ members bindings, json.asObject serviceType = some members ∧
        parseServiceTypeIdentifier json members = some service ∧
        getValueFromJson json.toJsonLibrary json.asList members "bindings" = some bindings ∧
        parseBindings json bindings = some deployment := by
  simp only [parseServiceType, parseServiceTypeDeployment, Option.bind_eq_bind,
    Option.bind_eq_some_iff, Option.pure_def, Option.some.injEq, Prod.mk.injEq]
  constructor
  · rintro ⟨members, isObject, _, isService, _, ⟨bindings, isList, isParsed⟩, rfl, rfl⟩
    exact ⟨members, bindings, isObject, isService, isList, isParsed⟩
  · rintro ⟨members, bindings, isObject, isService, isList, isParsed⟩
    exact ⟨members, isObject, service, isService, deployment, ⟨bindings, isList, isParsed⟩,
      rfl, rfl⟩

/-- The parts of a configuration, and the checks it has passed. -/
theorem parse_cases (parsed : parse json document = some configuration) :
    ∃ object serviceTypes, json.asObject document = some object ∧
      getValueFromJson json.toJsonLibrary json.asList object "serviceTypes" = some serviceTypes ∧
      UnorderedMap.fill (parseServiceType json) serviceTypes .empty =
        some configuration.serviceTypes ∧
      crosscheckAsilLevels configuration = true ∧
      crosscheckServiceInstancesToTypes configuration = true := by
  simp only [parse, parseServiceTypes, Option.bind_eq_bind, Option.bind_eq_some_iff,
    Option.pure_def, Option.some.injEq] at parsed
  obtain ⟨object, isObject, tracing, _, types, ⟨serviceTypes, isList, isFilled⟩,
    ⟨instances, after⟩, _, global, _, _, levels, _, instancesMatch, rfl⟩ := parsed
  refine ⟨object, serviceTypes, isObject, isList, isFilled, ?_, ?_⟩
  · by_contra fails
    rw [guard, if_neg fails] at levels
    cases levels
  · by_contra fails
    rw [guard, if_neg fails] at instancesMatch
    cases instancesMatch

/-- The type of a binding that the document describes is there as it is parsed. -/
theorem find_of_describes (parsed : parse json document = some configuration) {binding : Object}
    (describes : DescribesType json document service binding) :
    ∃ deployment, configuration.serviceTypes.find service = some (.lola deployment) ∧
      parseLolaServiceTypeDeployments json binding = some deployment := by
  obtain ⟨object, serviceTypes, isObject, isList, isFilled, _⟩ := parse_cases parsed
  obtain ⟨document, types, serviceType, members, bindings, isDocument, isTypes, member,
    isMembers, isService, isBindings, isFirst⟩ := describes
  cases isObject.symm.trans isDocument
  cases isList.symm.trans isTypes
  obtain ⟨⟨named, deployment⟩, isRead⟩ := UnorderedMap.reads_of_fill isFilled serviceType member
  obtain ⟨others, listed, isOthers, isNamed, isListed, parsedBindings⟩ :=
    parseServiceType_eq_some_iff.mp isRead
  cases isMembers.symm.trans isOthers
  cases isService.symm.trans isNamed
  cases isBindings.symm.trans isListed
  rcases parseBindings_cases parsedBindings with ⟨isNone, _⟩ | ⟨first, lola, isFound, parsedLola,
    rfl⟩
  · rw [isFirst] at isNone
    cases isNone
  · cases isFirst.symm.trans isFound
    exact ⟨lola, (UnorderedMap.find_fill_iff isFilled).mpr (.inr ⟨serviceType, member, isRead⟩),
      parsedLola⟩

/-- Every type over shared memory is described in the document. -/
theorem describes_of_find (parsed : parse json document = some configuration)
    (found : configuration.serviceTypes.find service = some (.lola deployment)) :
    ∃ binding, DescribesType json document service binding ∧
      parseLolaServiceTypeDeployments json binding = some deployment := by
  obtain ⟨object, serviceTypes, isObject, isList, isFilled, _⟩ := parse_cases parsed
  rcases (UnorderedMap.find_fill_iff isFilled).mp found with before | ⟨serviceType, member, isRead⟩
  · cases before
  · obtain ⟨members, bindings, isMembers, isService, isBindings, parsedBindings⟩ :=
      parseServiceType_eq_some_iff.mp isRead
    rcases parseBindings_cases parsedBindings with ⟨_, isBlank⟩ | ⟨binding, lola, isFirst,
      parsedLola, isLola⟩
    · cases isBlank
    · cases isLola
      exact ⟨binding, ⟨object, serviceTypes, serviceType, members, bindings, isObject, isList,
        member, isMembers, isService, isBindings, isFirst⟩, parsedLola⟩

/-- The ids of a configuration are the lower halves of those that are written. -/
theorem stored_iff (parsed : parse json document = some configuration) :
    Stored configuration service kind name id ↔
      ∃ number, Written json document service kind name number ∧ id = number.setWidth 8 := by
  constructor
  · rintro ⟨deployment, isType, isStored⟩
    obtain ⟨binding, describes, parsedLola⟩ := describes_of_find parsed isType
    obtain ⟨number, lists, isHalf⟩ := (find_elements_iff parsedLola).mp isStored
    exact ⟨number, ⟨binding, describes, lists⟩, isHalf⟩
  · rintro ⟨number, ⟨binding, describes, lists⟩, isHalf⟩
    obtain ⟨deployment, isType, parsedLola⟩ := find_of_describes parsed describes
    exact ⟨deployment, isType, (find_elements_iff parsedLola).mpr ⟨number, lists, isHalf⟩⟩

/-! ## What is checked -/

/-- The ids of the elements of a type differ. -/
theorem distinct_of_parse (parsed : parse json document = some configuration)
    {otherKind : ElementKind} {otherName : String}
    (stored : Stored configuration service kind name id)
    (storedToo : Stored configuration service otherKind otherName id) :
    kind = otherKind ∧ name = otherName := by
  obtain ⟨deployment, isType, found⟩ := stored
  obtain ⟨sameDeployment, isTypeToo, foundToo⟩ := storedToo
  cases isType.symm.trans isTypeToo
  obtain ⟨binding, _, parsedLola⟩ := describes_of_find parsed isType
  have unique : (deployment.events.entries.map Prod.snd ++
      deployment.fields.entries.map Prod.snd).Nodup := by
    simp only [parseLolaServiceTypeDeployments, Option.bind_eq_bind, Option.bind_eq_some_iff,
      Option.pure_def, Option.some.injEq] at parsedLola
    obtain ⟨_, _, _, _, _, _, _, _, _, checked, rfl⟩ := parsedLola
    by_contra fails
    rw [areEventAndFieldIdsUnique, decide_eq_false fails] at checked
    cases checked
  obtain ⟨uniqueEvents, uniqueFields, apart⟩ := List.nodup_append.mp unique
  have isEntry := UnorderedMap.find_eq_some_iff.mp found
  have isEntryToo := UnorderedMap.find_eq_some_iff.mp foundToo
  have isId := List.mem_map_of_mem (f := Prod.snd) isEntry
  have isIdToo := List.mem_map_of_mem (f := Prod.snd) isEntryToo
  cases kind with
  | event =>
      cases otherKind with
      | event =>
          have same := List.inj_on_of_nodup_map uniqueEvents isEntry isEntryToo rfl
          exact ⟨rfl, congrArg Prod.fst same⟩
      | field => exact absurd rfl (apart id isId id isIdToo)
  | field =>
      cases otherKind with
      | event => exact absurd rfl (apart id isIdToo id isId)
      | field =>
          have same := List.inj_on_of_nodup_map uniqueFields isEntry isEntryToo rfl
          exact ⟨rfl, congrArg Prod.fst same⟩

/-- An instance has a type, and only elements of it. -/
theorem elements_of_parse (parsed : parse json document = some configuration)
    {specifier : InstanceSpecifier} {deployment : ServiceInstanceDeployment}
    (found : configuration.serviceInstances.find specifier = some deployment) :
    ∃ lola serviceType, deployment.bindingInfo = .lola lola ∧
      configuration.serviceTypes.find deployment.service = some (.lola serviceType) ∧
      ∀ kind name, ((lola.elementsOf kind).find name).isSome →
        ((serviceType.elements kind).find name).isSome := by
  obtain ⟨_, _, _, _, _, _, checked⟩ := parse_cases parsed
  have isEntry := UnorderedMap.find_eq_some_iff.mp found
  have ofInstance := List.all_eq_true.mp checked _ isEntry
  dsimp only at ofInstance
  rw [crosscheckInstance] at ofInstance
  split at ofInstance
  · rename_i serviceType lola isType isLola
    obtain ⟨events, fields⟩ := Bool.and_eq_true_iff.mp ofInstance
    refine ⟨lola, serviceType, isLola, isType, ?_⟩
    intro kind name isThere
    obtain ⟨element, isElement⟩ := Option.isSome_iff_exists.mp isThere
    have isElementEntry := UnorderedMap.find_eq_some_iff.mp isElement
    cases kind with
    | event => exact List.all_eq_true.mp events _ isElementEntry
    | field => exact List.all_eq_true.mp fields _ isElementEntry
  · cases ofInstance

/-- No instance has a higher level than the process. -/
theorem levels_of_parse (parsed : parse json document = some configuration)
    {specifier : InstanceSpecifier} {deployment : ServiceInstanceDeployment}
    (found : configuration.serviceInstances.find specifier = some deployment)
    (isB : deployment.asilLevel = .asilB) :
    configuration.globalConfiguration.processAsilLevel = .asilB := by
  obtain ⟨_, _, _, _, _, checked, _⟩ := parse_cases parsed
  have isEntry := UnorderedMap.find_eq_some_iff.mp found
  have ofInstance := List.all_eq_true.mp checked _ isEntry
  simpa [isB] using ofInstance

/-- The law holds of the configuration of a document exactly if all ids of its events and
fields fit in eight bits. -/
theorem faithfulLaw_iff (parsed : parse json document = some configuration) :
    FaithfulLaw json document configuration ↔
      ∀ service kind name number, Written json document service kind name number →
        number.toNat < 2 ^ 8 := by
  constructor
  · intro law service kind name number isWritten
    obtain ⟨id, _, same⟩ := law.ids service kind name number isWritten
    rw [← same]
    exact id.isLt
  · intro fits
    refine ⟨?_, ?_, ?_, ?_, ?_⟩
    · intro service kind name number isWritten
      refine ⟨number.setWidth 8, (stored_iff parsed).mpr ⟨number, isWritten, rfl⟩, ?_⟩
      rw [BitVec.toNat_setWidth]
      exact Nat.mod_eq_of_lt (fits service kind name number isWritten)
    · intro service kind name id isStored
      obtain ⟨number, isWritten, _⟩ := (stored_iff parsed).mp isStored
      exact ⟨number, isWritten⟩
    · intro service kind otherKind name otherName id isStored isStoredToo
      exact distinct_of_parse parsed isStored isStoredToo
    · intro specifier deployment found
      exact elements_of_parse parsed found
    · intro specifier deployment found isB
      exact levels_of_parse parsed found isB

end ConfigParser

/-! ## A document with one event -/

section Inputs

/-- An event with this id. -/
def eventObject (id : Nat) : JsonObject where
  members := [("eventId", .number id), ("eventName", .string "event")]
  sorted := by
    change List.Pairwise (· < ·) ["eventId", "eventName"]
    decide

def bindingObject (id : Nat) : JsonObject where
  members := [("binding", .string "SHM"), ("events", .list [sortedJson.object (eventObject id)]),
      ("serviceId", .number 7)]
  sorted := by
    change List.Pairwise (· < ·) ["binding", "events", "serviceId"]
    decide

def versionObject : JsonObject where
  members := [("major", .number 1), ("minor", .number 0)]
  sorted := by decide

def typeObject (id : Nat) : JsonObject where
  members := [("bindings", .list [sortedJson.object (bindingObject id)]),
      ("serviceTypeName", .string "/bmw/service"), ("version", sortedJson.object versionObject)]
  sorted := by
    change List.Pairwise (· < ·) ["bindings", "serviceTypeName", "version"]
    decide

/-- One type of services with one event, and no instance. -/
def documentObject (id : Nat) : JsonObject where
  members :=
    [("serviceInstances", .list []), ("serviceTypes", .list [sortedJson.object (typeObject id)])]
  sorted := by
    change List.Pairwise (· < ·) ["serviceInstances", "serviceTypes"]
    decide

def documentWithId (id : Nat) : JsonValue := sortedJson.object (documentObject id)

def describedService : ServiceIdentifierType := ⟨"/bmw/service", ⟨1, 0⟩⟩

theorem shmBinding_bindingObject (id : Nat) :
    shmBinding sortedConfig (sortedJson.object (bindingObject id)) = some (bindingObject id) := by
  have isBinding : sortedConfig.asObject (sortedJson.object (bindingObject id)) =
      some (bindingObject id) := sortedJson_lawful.asObject_object _
  rw [shmBinding, isBinding]
  rfl

/-- The id of the event is written. -/
theorem written_of_documentWithId {id : Nat} (within : id < 2 ^ 16) :
    Written sortedConfig (documentWithId id) describedService .event "event"
      (.ofNat 16 id) := by
  have isObject := sortedJson_lawful.asObject_object
  have isNumber : sortedJson.asUnsigned 16 (.number id) = some (.ofNat 16 id) := if_pos within
  refine ⟨bindingObject id, ⟨documentObject id, [sortedJson.object (typeObject id)],
    sortedJson.object (typeObject id), typeObject id, [sortedJson.object (bindingObject id)],
    isObject _, rfl, List.mem_singleton_self _, isObject _, ?_, rfl, ?_⟩,
    [sortedJson.object (eventObject id)], sortedJson.object (eventObject id), eventObject id,
    rfl, List.mem_singleton_self _, isObject _, rfl, isNumber⟩
  · have isName : ConfigParser.parseServiceTypeName sortedConfig (typeObject id) =
        some "/bmw/service" := rfl
    have isVersion : ConfigParser.parseVersion sortedConfig (typeObject id) = some ⟨1, 0⟩ := by
      have isVersionObject : getValueFromJson sortedConfig.toJsonLibrary sortedConfig.asObject
          (typeObject id) "version" = some versionObject := isObject versionObject
      rw [ConfigParser.parseVersion, isVersionObject]
      rfl
    have isText : String.ofList (cString "/bmw/service") = "/bmw/service" := by decide +kernel
    rw [ConfigParser.parseServiceTypeIdentifier, isName, isVersion]
    change some (ServiceIdentifierType.mk (String.ofList (cString "/bmw/service")) _) = _
    rw [isText]
    rfl
  · rw [List.findSome?_cons, shmBinding_bindingObject]

/-- No other id is. -/
theorem number_of_written {id : Nat} (within : id < 2 ^ 16) {service : ServiceIdentifierType}
    {kind : ElementKind} {name : String} {number : BitVec 16}
    (isWritten : Written sortedConfig (documentWithId id) service kind name number) :
    number = .ofNat 16 id := by
  have isObject := sortedJson_lawful.asObject_object
  obtain ⟨binding, ⟨object, types, type, members, bindings, isDocument, isTypes, isType,
    isMembers, _, isBindings, isFirst⟩, elements, element, fields, isElements, isElement,
    isFields, _, isNumber⟩ := isWritten
  cases (isObject (documentObject id)).symm.trans isDocument
  have onlyType : [sortedJson.object (typeObject id)] = types := Option.some.inj isTypes
  subst onlyType
  cases List.mem_singleton.mp isType
  cases (isObject (typeObject id)).symm.trans isMembers
  have onlyBinding : [sortedJson.object (bindingObject id)] = bindings := Option.some.inj isBindings
  subst onlyBinding
  rw [List.findSome?_cons, shmBinding_bindingObject] at isFirst
  cases isFirst
  cases kind with
  | field => cases isElements
  | event =>
      have onlyElement : [sortedJson.object (eventObject id)] = elements :=
        Option.some.inj isElements
      subst onlyElement
      cases List.mem_singleton.mp isElement
      cases (isObject (eventObject id)).symm.trans isFields
      have isId : sortedJson.asUnsigned 16 (.number id) = some number := isNumber
      rw [show sortedJson.asUnsigned 16 (.number id) = some (.ofNat 16 id) from
        if_pos within] at isId
      exact (Option.some.inj isId).symm

/-- A document is accepted whose ids fit. -/
theorem faithfulLaw_of_small :
    ∃ configuration, ConfigParser.parse sortedConfig (documentWithId 1) = some configuration ∧
      FaithfulLaw sortedConfig (documentWithId 1) configuration := by
  have accepted : (ConfigParser.parse sortedConfig (documentWithId 1)).isSome = true := by
    decide +kernel
  obtain ⟨configuration, parsed⟩ := Option.isSome_iff_exists.mp accepted
  refine ⟨configuration, parsed, (ConfigParser.faithfulLaw_iff parsed).mpr ?_⟩
  intro service kind name number isWritten
  rw [number_of_written (by decide) isWritten]
  decide

/-- A document is accepted too whose id does not fit. -/
theorem faithfulLaw_violated : ¬∀ (document : JsonValue) (configuration : Configuration),
      ConfigParser.parse sortedConfig document = some configuration →
        FaithfulLaw sortedConfig document configuration := by
  intro claimed
  have accepted : (ConfigParser.parse sortedConfig (documentWithId 256)).isSome = true := by
    decide +kernel
  obtain ⟨configuration, parsed⟩ := Option.isSome_iff_exists.mp accepted
  obtain ⟨id, _, same⟩ := (claimed _ configuration parsed).ids _ _ _ _
    (written_of_documentWithId (by decide))
  have isLarge : id.toNat = 256 := same
  have fits := id.isLt
  omega

end Inputs

end MwCom.Configuration
