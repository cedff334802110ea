/-
Module: MwCom.Tracing.TraceFilterLaw
Purpose: That a trace filter document enables what it requests, and when it does not.
Trusted boundary: none
Main exports: addsCalls_parseService, parse_of_namesElements, parse_eq_none, filterLaw_iff
-/
import Mathlib.Data.List.TakeWhile
import MwCom.Configuration.RoundTrip
import MwCom.Json.SortedJson
import MwCom.Tracing.TraceFilterRequests

namespace MwCom.Tracing

open Containers Containers.Accumulation Json MwCom.Configuration

namespace TracingFilterConfigParser

/-! ## What each step adds -/

section Adds

variable {Any Object TracePoint : Type} {json : JsonLibrary Any Object} {object : Object}
  {serviceType elementName : String} {instanceSpecifier : InstanceSpecifierView}

/-- A program that adds trace points. -/
abbrev AddsCalls (program : TracingFilterConfig → Option TracingFilterConfig)
    (Added : TracePointCall → Prop) : Prop :=
  Adds TracingFilterConfig.addTracePoint program Added

theorem isOptionalBoolPropertyEnabled_of_typed {property : String}
    (typed : Typed json json.asBool object property fun _ => True) :
    ∃ enabled, isOptionalBoolPropertyEnabled json object property = some enabled ∧
      (enabled = true ↔ IsTrue json object property) := by
  unfold isOptionalBoolPropertyEnabled IsTrue getValueFromJson
  cases found : json.find object property with
  | none => exact ⟨false, rfl, by simp⟩
  | some value =>
      obtain ⟨enabled, isEnabled, _⟩ := typed value found
      exact ⟨enabled, isEnabled, by simp [isEnabled]⟩

theorem addsCalls_addTracePoint {property : String} (call : TracePointCall)
    (typed : Typed json json.asBool object property fun _ => True) :
    AddsCalls (addTracePoint json object property call) fun other =>
      other = call ∧ IsTrue json object property := by
  obtain ⟨enabled, isEnabled, isTrue⟩ := isOptionalBoolPropertyEnabled_of_typed typed
  unfold addTracePoint
  simp only [isEnabled, Option.bind_eq_bind, Option.bind_some]
  cases enabled with
  | false => exact Adds.nothing.congr (by simp [← isTrue])
  | true => exact (Adds.single call).congr (by simp [← isTrue])

/-- The loop over the mappings adds the trace points whose property is true. -/
theorem addsCalls_addTracePoints {mappings : List (String × TracePoint)}
    (call : TracePoint → TracePointCall) (typed : HasBools json object (mappings.map Prod.fst)) :
    AddsCalls (addTracePoints json object mappings call) fun other =>
      ∃ tracePointType, other = call tracePointType ∧
        SetsMapped json object mappings tracePointType := by
  have passes : ∀ mapping ∈ mappings,
      AddsCalls (fun filter => addTracePoint json object mapping.1 (call mapping.2) filter)
        fun other => other = call mapping.2 ∧ IsTrue json object mapping.1 := by
    intro mapping member
    exact addsCalls_addTracePoint (call mapping.2) (typed mapping.1 (List.mem_map_of_mem member))
  apply (adds_foldlM passes).congr
  intro other
  constructor
  · rintro ⟨⟨property, tracePointType⟩, member, isCall, isTrue⟩
    exact ⟨tracePointType, isCall, property, member, isTrue⟩
  · rintro ⟨tracePointType, isCall, property, member, isTrue⟩
    exact ⟨(property, tracePointType), member, isCall, isTrue⟩

theorem addsCalls_addTracePointsFromSubObject {mappings : List (String × TracePoint)}
    {subObjectName : String} (call : TracePoint → TracePointCall)
    (typed : Typed json json.asObject object subObjectName fun block =>
      HasBools json block (mappings.map Prod.fst)) :
    AddsCalls (addTracePointsFromSubObject json object subObjectName mappings call) fun other =>
      ∃ tracePointType, other = call tracePointType ∧
        SetsInSubObject json object subObjectName mappings tracePointType := by
  unfold addTracePointsFromSubObject SetsInSubObject getValueFromJson
  cases found : json.find object subObjectName with
  | none => exact Adds.nothing.congr (by simp)
  | some value =>
      obtain ⟨block, isBlock, hasBools⟩ := typed value found
      simp only [isBlock, Option.bind_eq_bind, Option.bind_some]
      exact (addsCalls_addTracePoints call hasBools).congr (by simp)

theorem warnNotImplementedTracePoints_of_typed
    (typed : HasBools json object serviceElementNotifierFilterPropertiesNotImplemented) :
    warnNotImplementedTracePoints json object = some () := by
  have first := typed "trace_subscribe_received" (by decide)
  have second := typed "trace_unsubscribe_received" (by decide)
  obtain ⟨_, isFirst, _⟩ := isOptionalBoolPropertyEnabled_of_typed first
  obtain ⟨_, isSecond, _⟩ := isOptionalBoolPropertyEnabled_of_typed second
  simp [warnNotImplementedTracePoints, serviceElementNotifierFilterPropertiesNotImplemented,
    isFirst, isSecond]

theorem warnNotImplementedTracePointsFromSubObject_of_typed {subObjectName : String}
    (typed : Typed json json.asObject object subObjectName fun block =>
      HasBools json block serviceElementNotifierFilterPropertiesNotImplemented) :
    warnNotImplementedTracePointsFromSubObject json object subObjectName = some () := by
  unfold warnNotImplementedTracePointsFromSubObject
  cases found : json.find object subObjectName with
  | none => rfl
  | some value =>
      obtain ⟨block, isBlock, hasBools⟩ := typed value found
      simp only [isBlock, Option.bind_eq_bind, Option.bind_some]
      exact warnNotImplementedTracePoints_of_typed hasBools

/-- A step that only reads adds nothing. -/
theorem adds_of_reads {State Addition : Type} {add : State → Addition → Option State}
    {read : Option Unit} (reads : read = some ()) :
    Adds add (fun before => read.bind fun _ => some before) fun _ => False := by
  rw [reads]
  exact Adds.nothing

/-- The calls for one element and one instance that its entry asks for. -/
def AsksFor (json : JsonLibrary Any Object) (object : Object)
    (serviceElement : ServiceElementIdentifierView) (instanceSpecifier : InstanceSpecifierView)
    (call : TracePointCall) : Prop :=
  call.serviceElement = serviceElement ∧ call.instanceSpecifier = instanceSpecifier ∧
    SetsTracePoint json object call

theorem addsCalls_addEventTracePoints
    (proxies : HasBools json object (filterPropertyProxyEventMappings.map Prod.fst))
    (skeletons : HasBools json object (filterPropertySkeletonEventMappings.map Prod.fst))
    (others : HasBools json object serviceElementNotifierFilterPropertiesNotImplemented) :
    AddsCalls
      (addEventTracePoints json object serviceType elementName instanceSpecifier)
      (AsksFor json object ⟨serviceType, elementName, .event⟩ instanceSpecifier) := by
  have adds := (addsCalls_addTracePoints
      (.proxyEvent serviceType elementName instanceSpecifier) proxies).bind
    ((addsCalls_addTracePoints
      (.skeletonEvent serviceType elementName instanceSpecifier) skeletons).bind
    (adds_of_reads (warnNotImplementedTracePoints_of_typed others)))
  apply adds.congr
  intro other
  cases other with
  | proxyEvent otherType otherName otherInstance tracePointType
  | skeletonEvent otherType otherName otherInstance tracePointType =>
      simp [AsksFor, TracePointCall.serviceElement, TracePointCall.instanceSpecifier,
        SetsTracePoint, and_assoc]
  | proxyField otherType otherName otherInstance tracePointType
  | skeletonField otherType otherName otherInstance tracePointType =>
      simp [AsksFor, TracePointCall.serviceElement]

theorem Typed.imp {Value : Type} {as : Any → Option Value} {key : String}
    {IsKind Weaker : Value → Prop} (typed : Typed json as object key IsKind)
    (weakens : ∀ value, IsKind value → Weaker value) : Typed json as object key Weaker := by
  intro property found
  obtain ⟨value, isValue, isKind⟩ := typed property found
  exact ⟨value, isValue, weakens value isKind⟩

theorem addsCalls_addFieldTracePoints
    (notifier : Typed json json.asObject object "notifier" fun block =>
      HasBools json block (filterPropertyProxyFieldNotifierMappings.map Prod.fst) ∧
      HasBools json block (filterPropertySkeletonFieldNotifierMappings.map Prod.fst) ∧
      HasBools json block serviceElementNotifierFilterPropertiesNotImplemented)
    (getter : Typed json json.asObject object "getter" fun block =>
      HasBools json block (filterPropertyProxyFieldGetterMappings.map Prod.fst) ∧
      HasBools json block (filterPropertySkeletonFieldGetterMappings.map Prod.fst))
    (setter : Typed json json.asObject object "setter" fun block =>
      HasBools json block (filterPropertyProxyFieldSetterMappings.map Prod.fst) ∧
      HasBools json block (filterPropertySkeletonFieldSetterMappings.map Prod.fst)) :
    AddsCalls
      (addFieldTracePoints json object serviceType elementName instanceSpecifier)
      (AsksFor json object ⟨serviceType, elementName, .field⟩ instanceSpecifier) := by
  let proxy := TracePointCall.proxyField serviceType elementName instanceSpecifier
  let skeleton := TracePointCall.skeletonField serviceType elementName instanceSpecifier
  have proxyNotifier := addsCalls_addTracePointsFromSubObject proxy
    (notifier.imp fun _ bools => bools.1)
  have skeletonNotifier := addsCalls_addTracePointsFromSubObject skeleton
    (notifier.imp fun _ bools => bools.2.1)
  have proxyGetter := addsCalls_addTracePointsFromSubObject proxy
    (getter.imp fun _ bools => bools.1)
  have skeletonGetter := addsCalls_addTracePointsFromSubObject skeleton
    (getter.imp fun _ bools => bools.2)
  have proxySetter := addsCalls_addTracePointsFromSubObject proxy
    (setter.imp fun _ bools => bools.1)
  have skeletonSetter := addsCalls_addTracePointsFromSubObject skeleton
    (setter.imp fun _ bools => bools.2)
  have warns := warnNotImplementedTracePointsFromSubObject_of_typed
    (notifier.imp fun _ bools => bools.2.2)
  have adds := proxyNotifier.bind (skeletonNotifier.bind (proxyGetter.bind (skeletonGetter.bind
    (proxySetter.bind (skeletonSetter.bind (adds_of_reads warns))))))
  apply adds.congr
  intro other
  cases other with
  | proxyField otherType otherName otherInstance tracePointType
  | skeletonField otherType otherName otherInstance tracePointType =>
      simp [AsksFor, TracePointCall.serviceElement, TracePointCall.instanceSpecifier,
        SetsTracePoint, proxy, skeleton, and_or_left, and_assoc]
  | proxyEvent otherType otherName otherInstance tracePointType
  | skeletonEvent otherType otherName otherInstance tracePointType =>
      simp [AsksFor, TracePointCall.serviceElement, proxy, skeleton]

/-! ## What the configuration permits -/

section Configured

variable {configuration : Configuration.Configuration}
  {serviceElement : ServiceElementIdentifierView}

theorem mem_getInstancesOfServiceType :
    instanceSpecifier ∈ getInstancesOfServiceType configuration serviceType ↔
      ∃ entry ∈ configuration.serviceInstances.entries,
        entry.2.service.serviceTypeName = serviceType ∧
          entry.1.instanceSpecifierString = instanceSpecifier := by
  unfold getInstancesOfServiceType
  simp only [List.mem_toFinset, List.mem_map, List.mem_filter, decide_eq_true_eq, and_assoc]

/-- Whether tracing is enabled is known of every configured instance. -/
theorem isServiceElementTracingEnabled_of_mem (serviceElement : ServiceElementIdentifierView)
    (member : instanceSpecifier ∈
      getInstancesOfServiceType configuration serviceElement.serviceTypeName) :
    ∃ enabled, configuration.tracingConfiguration.isServiceElementTracingEnabled serviceElement
        instanceSpecifier = some enabled ∧
      (enabled = true ↔ TracesInstance configuration serviceElement instanceSpecifier) := by
  obtain ⟨entry, isEntry, isService, isInstance⟩ := mem_getInstancesOfServiceType.mp member
  have created := InstanceSpecifier.create_instanceSpecifierString entry.1
  rw [isInstance] at created
  unfold TracingConfiguration.isServiceElementTracingEnabled
  cases found : configuration.tracingConfiguration.serviceElementTracingEnabledMap.find
      serviceElement with
  | none => exact ⟨false, rfl, by simp [TracesInstance, found]⟩
  | some specifiers =>
      simp only [created, Option.map_some]
      refine ⟨decide (entry.1 ∈ specifiers), rfl, ?_⟩
      rw [decide_eq_true_iff]
      constructor
      · intro traced
        exact ⟨entry, isEntry, isService, isInstance, specifiers, found, traced⟩
      · rintro ⟨other, _, _, isOther, others, isOthers, traced⟩
        have sameEntry : other.1 = entry.1 := by
          have createdOther := InstanceSpecifier.create_instanceSpecifierString other.1
          rw [isOther, created] at createdOther
          exact (Option.some.inj createdOther).symm
        rw [found] at isOthers
        rw [Option.some.inj isOthers, ← sameEntry]
        exact traced

theorem TracesInstance.mem
    (traces : TracesInstance configuration serviceElement instanceSpecifier) :
    instanceSpecifier ∈ getInstancesOfServiceType configuration serviceElement.serviceTypeName := by
  obtain ⟨entry, isEntry, isService, isInstance, _⟩ := traces
  exact mem_getInstancesOfServiceType.mpr ⟨entry, isEntry, isService, isInstance⟩

/-- The kinds of elements that are traced. -/
def IsTraced (elementType : ServiceElementType) : Prop :=
  elementType = .event ∨ elementType = .field

theorem exists_elementNames_of_traced (configuration : Configuration.Configuration)
    {elementType : ServiceElementType} (traced : IsTraced elementType) :
    ∃ namesOf : ServiceTypeDeployment → List String,
      (∀ deployment, elementNames elementType deployment = some (namesOf deployment)) ∧
        ∀ serviceType name, HasElement configuration ⟨serviceType, name, elementType⟩ ↔
          ∃ entry ∈ configuration.serviceTypes.entries,
            entry.1.serviceTypeName = serviceType ∧ name ∈ namesOf entry.2 := by
  let namesOf (deployment : ServiceTypeDeployment) : List String :=
    (elementNames elementType deployment).getD []
  refine ⟨namesOf, ?_, ?_⟩
  · intro deployment
    rcases traced with isEvent | isField
    · subst isEvent
      cases deployment with
      | lola deployment => rfl
      | blank => rfl
    · subst isField
      cases deployment with
      | lola deployment => rfl
      | blank => rfl
  · intro serviceType name
    unfold HasElement
    apply exists_congr
    intro entry
    apply and_congr_right
    intro _
    apply and_congr_right
    intro _
    rcases traced with isEvent | isField
    · subst isEvent
      cases isDeployment : entry.2 with
      | lola deployment | blank => simp [namesOf, elementNames]
    · subst isField
      cases isDeployment : entry.2 with
      | lola deployment | blank => simp [namesOf, elementNames]

theorem getElementNamesOfServiceType_of_traced (configuration : Configuration.Configuration)
    (serviceType : String) {elementType : ServiceElementType} (traced : IsTraced elementType) :
    ∃ names, getElementNamesOfServiceType configuration serviceType elementType = some names ∧
      ∀ name, name ∈ names ↔ HasElement configuration ⟨serviceType, name, elementType⟩ := by
  obtain ⟨namesOf, areNames, hasElement⟩ := exists_elementNames_of_traced configuration traced
  unfold getElementNamesOfServiceType
  simp only [areNames]
  refine ⟨_, congrArg (Option.map List.flatten) List.mapM_pure, ?_⟩
  intro name
  rw [hasElement]
  simp only [List.mem_flatten, List.mem_map, List.mem_filter, decide_eq_true_eq]
  constructor
  · rintro ⟨_, ⟨entry, ⟨isEntry, isService⟩, rfl⟩, isName⟩
    exact ⟨entry, isEntry, isService, isName⟩
  · rintro ⟨entry, isEntry, isService, isName⟩
    exact ⟨_, ⟨entry, ⟨isEntry, isService⟩, rfl⟩, isName⟩

theorem mem_configuredServiceTypes_of_hasElement
    (hasElement : HasElement configuration serviceElement) :
    serviceElement.serviceTypeName ∈ configuredServiceTypes configuration := by
  obtain ⟨entry, isEntry, isService, _⟩ := hasElement
  exact List.mem_map.mpr ⟨entry, isEntry, isService⟩

end Configured

/-! ## What entries add -/

section Entries

variable {configuration : Configuration.Configuration} {element service document : Any}
  {elementType : ServiceElementType}

/-- The configuration has the element of a call and traces its instance. -/
def Permits (configuration : Configuration.Configuration) (call : TracePointCall) : Prop :=
  HasElement configuration call.serviceElement ∧
    TracesInstance configuration call.serviceElement call.instanceSpecifier

/-- The permitted calls for elements of a kind of the service type. -/
def PermitsOf (configuration : Configuration.Configuration) (serviceType : String)
    (elementType : ServiceElementType) (call : TracePointCall) : Prop :=
  Permits configuration call ∧ call.serviceElement.serviceTypeName = serviceType ∧
    call.serviceElement.serviceElementType = elementType

variable {call : TracePointCall}

theorem entryAsks_iff (isObject : json.asObject element = some object)
    (isName : getValueFromJson json json.asString object "shortname" = some elementName) :
    EntryAsks json element call ↔ call.serviceElement.serviceElementName = elementName ∧
        SetsTracePoint json object call := by
  unfold EntryAsks
  constructor
  · rintro ⟨other, isOther, otherName, sets⟩
    rw [isObject] at isOther
    cases isOther
    rw [isName] at otherName
    exact ⟨(Option.some.inj otherName).symm, sets⟩
  · rintro ⟨sameName, sets⟩
    exact ⟨object, isObject, by rw [isName, sameName], sets⟩

variable {names : List String}

/-- An entry with a name adds what it asks for and the configuration permits. -/
theorem addsCalls_parseElement
    {addElementTracePoints : Object → String → String → InstanceSpecifierView →
      TracingFilterConfig → Option TracingFilterConfig}
    (isObject : json.asObject element = some object)
    (isName : getValueFromJson json json.asString object "shortname" = some elementName)
    (addsElement : ∀ instance',
      AddsCalls (addElementTracePoints object serviceType elementName instance')
        (AsksFor json object ⟨serviceType, elementName, elementType⟩ instance'))
    (areNames : ∀ name, name ∈ names ↔ HasElement configuration ⟨serviceType, name, elementType⟩) :
    AddsCalls
      (fun filter => parseElement json configuration elementType addElementTracePoints serviceType
        names (getInstancesOfServiceType configuration serviceType) filter element)
      fun call => PermitsOf configuration serviceType elementType call ∧
        EntryAsks json element call := by
  have sameElement : ∀ call : TracePointCall, call.serviceElement.serviceTypeName = serviceType →
      call.serviceElement.serviceElementType = elementType →
      call.serviceElement.serviceElementName = elementName →
      call.serviceElement = ⟨serviceType, elementName, elementType⟩ := by
    rintro call rfl rfl rfl
    rfl
  obtain ⟨shortname, hasShortname, isString⟩ := Option.bind_eq_some_iff.mp isName
  unfold parseElement
  simp only [isObject, hasShortname, isString, Option.bind_eq_bind, Option.bind_some]
  by_cases member : elementName ∈ names
  · have passes : ∀ instance' ∈ (getInstancesOfServiceType configuration serviceType).sort (· ≤ ·),
        AddsCalls
          (fun filter => do
            if ← configuration.tracingConfiguration.isServiceElementTracingEnabled
                ⟨serviceType, elementName, elementType⟩ instance' then
              addElementTracePoints object serviceType elementName instance' filter
            else
              pure filter)
          fun call =>
            TracesInstance configuration ⟨serviceType, elementName, elementType⟩ instance' ∧
              AsksFor json object ⟨serviceType, elementName, elementType⟩ instance' call := by
      intro instance' isInstance
      rw [Finset.mem_sort] at isInstance
      obtain ⟨enabled, isEnabled, traces⟩ :=
        isServiceElementTracingEnabled_of_mem ⟨serviceType, elementName, elementType⟩ isInstance
      simp only [isEnabled, Option.bind_eq_bind, Option.bind_some]
      cases enabled with
      | false => exact Adds.nothing.congr (by simp [← traces])
      | true => exact (addsElement instance').congr (by simp [← traces])
    simp only [member, if_true]
    apply (adds_foldlM passes).congr
    intro call
    rw [entryAsks_iff isObject isName]
    constructor
    · rintro ⟨instance', _, traces, isElement, isInstance, sets⟩
      refine ⟨⟨⟨?_, ?_⟩, ?_, ?_⟩, ?_, sets⟩
      · rw [isElement]
        exact (areNames elementName).mp member
      · rw [isElement, isInstance]
        exact traces
      · rw [isElement]
      · rw [isElement]
      · rw [isElement]
    · rintro ⟨⟨⟨_, traces⟩, isType, isKind⟩, sameName, sets⟩
      have isElement := sameElement call isType isKind sameName
      have isInstance := traces.mem
      rw [isType] at isInstance
      rw [isElement] at traces
      exact ⟨call.instanceSpecifier, (Finset.mem_sort _).mpr isInstance, traces, isElement, rfl,
        sets⟩
  · simp only [member, if_false]
    apply Adds.nothing.congr
    intro call
    rw [entryAsks_iff isObject isName, false_iff]
    rintro ⟨⟨⟨hasElement, _⟩, isType, isKind⟩, sameName, _⟩
    rw [sameElement call isType isKind sameName] at hasElement
    exact member ((areNames elementName).mpr hasElement)

variable {instanceSpecifiers : Finset String}

/-- A list of entries adds what its entries add. -/
theorem addsCalls_parseElements {key : String}
    {parseElement : String → List String → Finset String → TracingFilterConfig → Any →
      Option TracingFilterConfig}
    {AddedBy : Any → TracePointCall → Prop} (traced : IsTraced elementType)
    (isObject : json.asObject service = some object)
    (typed : Typed json json.asList object key fun elements =>
      ∀ names, (∀ name, name ∈ names ↔ HasElement configuration ⟨serviceType, name, elementType⟩) →
        ∀ element ∈ elements, AddsCalls
          (fun filter => parseElement serviceType names instanceSpecifiers filter element)
          (AddedBy element)) :
    AddsCalls
      (parseElements json configuration key elementType parseElement service serviceType
        instanceSpecifiers)
      fun call => ∃ elements, getValueFromJson json json.asList object key = some elements ∧
        ∃ element ∈ elements, AddedBy element call := by
  unfold parseElements getValueFromJson
  simp only [isObject, Option.bind_eq_bind, Option.bind_some]
  cases found : json.find object key with
  | none => exact Adds.nothing.congr (by simp)
  | some value =>
      obtain ⟨elements, areElements, adds⟩ := typed value found
      obtain ⟨names, isLookup, areNames⟩ :=
        getElementNamesOfServiceType_of_traced configuration serviceType traced
      simp only [areElements, isLookup, Option.bind_some]
      exact (adds_foldlM (adds names areNames)).congr (by simp)

/-- An entry of the expected types that has a name. -/
theorem exists_name (isObject : json.asObject element = some object) (named : Names json element)
    (typed : Typed json json.asString object "shortname" fun _ => True) :
    ∃ name, getValueFromJson json json.asString object "shortname" = some name := by
  obtain ⟨shortname, found⟩ := Option.ne_none_iff_exists'.mp (named object isObject)
  obtain ⟨name, isName, _⟩ := typed shortname found
  exact ⟨name, by simp [getValueFromJson, found, isName]⟩

theorem addsCalls_parseEvent (typed : WellTypedEvent json element) (named : Names json element)
    (areNames : ∀ name, name ∈ names ↔ HasElement configuration ⟨serviceType, name, .event⟩) :
    AddsCalls
      (fun filter => parseEvent json configuration serviceType names
        (getInstancesOfServiceType configuration serviceType) filter element)
      fun call => PermitsOf configuration serviceType .event call ∧
        EntryAsks json element call := by
  obtain ⟨object, isObject, shortname, proxies, skeletons, others⟩ := typed
  obtain ⟨name, isName⟩ := exists_name isObject named shortname
  exact addsCalls_parseElement isObject isName
    (fun _ => addsCalls_addEventTracePoints proxies skeletons others) areNames

theorem addsCalls_parseField (typed : WellTypedField json element) (named : Names json element)
    (areNames : ∀ name, name ∈ names ↔ HasElement configuration ⟨serviceType, name, .field⟩) :
    AddsCalls
      (fun filter => parseField json configuration serviceType names
        (getInstancesOfServiceType configuration serviceType) filter element)
      fun call => PermitsOf configuration serviceType .field call ∧
        EntryAsks json element call := by
  obtain ⟨object, isObject, shortname, notifier, getter, setter⟩ := typed
  obtain ⟨name, isName⟩ := exists_name isObject named shortname
  exact addsCalls_parseElement isObject isName
    (fun _ => addsCalls_addFieldTracePoints notifier getter setter) areNames

theorem isTraced_of_hasElement {serviceElement : ServiceElementIdentifierView}
    (hasElement : HasElement configuration serviceElement) :
    IsTraced serviceElement.serviceElementType := by
  obtain ⟨_, _, _, _, _, isMember⟩ := hasElement
  cases kind : serviceElement.serviceElementType with
  | event => exact Or.inl rfl
  | field => exact Or.inr rfl
  | invalid | method => simp [kind] at isMember

/-- The permitted calls that entries under a key of a service ask for. -/
def AsksUnder (json : JsonLibrary Any Object) (configuration : Configuration.Configuration)
    (object : Object) (serviceType key : String) (elementType : ServiceElementType)
    (call : TracePointCall) : Prop :=
  ∃ elements, getValueFromJson json json.asList object key = some elements ∧
    ∃ element ∈ elements, PermitsOf configuration serviceType elementType call ∧
      EntryAsks json element call

/-- What a service asks for is under one of its two keys. -/
theorem permits_and_serviceAsks_iff (isObject : json.asObject service = some object)
    (isPath : getValueFromJson json json.asString object "shortname_path" = some serviceType) :
    Permits configuration call ∧ ServiceAsks json service call ↔
      AsksUnder json configuration object serviceType "events" .event call ∨
        AsksUnder json configuration object serviceType "fields" .field call := by
  constructor
  · rintro ⟨permits, other, isOther, otherPath, elements, areElements, element, isElement, asks⟩
    rw [isObject] at isOther
    cases isOther
    rw [isPath] at otherPath
    have isType := (Option.some.inj otherPath).symm
    rcases isTraced_of_hasElement permits.1 with isEvent | isField
    · rw [isEvent] at areElements
      exact Or.inl ⟨elements, areElements, element, isElement, ⟨permits, isType, isEvent⟩, asks⟩
    · rw [isField] at areElements
      exact Or.inr ⟨elements, areElements, element, isElement, ⟨permits, isType, isField⟩, asks⟩
  · rintro (⟨elements, areElements, element, isElement, ⟨permits, isType, isKind⟩, asks⟩ |
      ⟨elements, areElements, element, isElement, ⟨permits, isType, isKind⟩, asks⟩)
    · refine ⟨permits, object, isObject, by rw [isPath, isType], elements, ?_, element, isElement,
        asks⟩
      rw [isKind]
      exact areElements
    · refine ⟨permits, object, isObject, by rw [isPath, isType], elements, ?_, element, isElement,
        asks⟩
      rw [isKind]
      exact areElements

theorem getValueFromJson_eq_some {Value : Type} {as : Any → Option Value} {key : String}
    {property : Any} {value : Value} (found : json.find object key = some property)
    (isValue : as property = some value) : getValueFromJson json as object key = some value := by
  simp [getValueFromJson, found, isValue]

theorem addsCalls_parseService (typed : WellTypedService json service)
    (named : ServiceNames json configuration service) :
    AddsCalls (fun filter => parseService json configuration filter service) fun call =>
      Permits configuration call ∧ ServiceAsks json service call := by
  obtain ⟨object, isObject, path, events, fields, _⟩ := typed
  unfold parseService
  simp only [isObject, Option.bind_eq_bind, Option.bind_some]
  cases found : json.find object "shortname_path" with
  | none =>
      apply Adds.nothing.congr
      intro call
      rw [false_iff]
      rintro ⟨_, other, isOther, otherPath, _⟩
      rw [isObject] at isOther
      cases isOther
      simp [getValueFromJson, found] at otherPath
  | some property =>
      obtain ⟨serviceType, isString, _⟩ := path property found
      have isPath := getValueFromJson_eq_some found isString
      simp only [isString, Option.bind_some]
      by_cases configured : serviceType ∈ configuredServiceTypes configuration
      · have namedUnder := named object isObject serviceType isPath configured
        have addsEvents : AddsCalls
            (parseEvents json configuration service serviceType
              (getInstancesOfServiceType configuration serviceType))
            (AsksUnder json configuration object serviceType "events" .event) := by
          apply addsCalls_parseElements (Or.inl rfl) isObject
          intro property found
          obtain ⟨elements, areElements, wellTyped⟩ := events property found
          refine ⟨elements, areElements, ?_⟩
          intro names areNames element member
          exact addsCalls_parseEvent (wellTyped element member)
            (namedUnder "events" (by simp) elements (getValueFromJson_eq_some found areElements)
              element member) areNames
        have addsFields : AddsCalls
            (parseFields json configuration service serviceType
              (getInstancesOfServiceType configuration serviceType))
            (AsksUnder json configuration object serviceType "fields" .field) := by
          apply addsCalls_parseElements (Or.inr rfl) isObject
          intro property found
          obtain ⟨elements, areElements, wellTyped⟩ := fields property found
          refine ⟨elements, areElements, ?_⟩
          intro names areNames element member
          exact addsCalls_parseField (wellTyped element member)
            (namedUnder "fields" (by simp) elements (getValueFromJson_eq_some found areElements)
              element member) areNames
        have readsMethods : parseMethods json service = some () := by
          unfold parseMethods
          simp only [isObject, Option.bind_eq_bind, Option.bind_some]
          cases json.find object "methods" <;> rfl
        simp only [configured, if_true]
        apply (addsEvents.bind (addsFields.bind (adds_of_reads readsMethods))).congr
        intro call
        rw [permits_and_serviceAsks_iff isObject isPath, or_false]
      · simp only [configured, if_false]
        apply Adds.nothing.congr
        intro call
        rw [false_iff]
        rintro ⟨permits, other, isOther, otherPath, _⟩
        rw [isObject] at isOther
        cases isOther
        rw [isPath] at otherPath
        apply configured
        rw [Option.some.inj otherPath]
        exact mem_configuredServiceTypes_of_hasElement permits.1

/-- A document whose elements have names adds what it requests. -/
theorem parse_of_namesElements (typed : WellTyped json document)
    (named : NamesElements json configuration document) :
    ∃ calls, parse json configuration document = TracingFilterConfig.ofCalls calls ∧
      ∀ call, call ∈ calls ↔ Requested json configuration document call := by
  obtain ⟨object, isObject, services⟩ := typed
  unfold parse parseServices
  simp only [isObject, Option.bind_eq_bind, Option.bind_some]
  cases found : json.find object "services" with
  | none =>
      refine ⟨[], rfl, ?_⟩
      intro call
      refine ⟨fun member => absurd member List.not_mem_nil, ?_⟩
      rintro ⟨_, _, other, isOther, _, otherServices, _⟩
      rw [isObject] at isOther
      cases isOther
      simp [getValueFromJson, found] at otherServices
  | some property =>
      obtain ⟨entries, areEntries, wellTyped⟩ := services property found
      have isList := getValueFromJson_eq_some found areEntries
      simp only [areEntries, Option.bind_some]
      have passes : ∀ service ∈ entries,
          AddsCalls (fun filter => parseService json configuration filter service) fun call =>
            Permits configuration call ∧ ServiceAsks json service call := by
        intro service member
        exact addsCalls_parseService (wellTyped service member)
          (named object isObject entries isList service member)
      obtain ⟨calls, areAdded, exactly⟩ := adds_foldlM passes TracingFilterConfig.empty
      refine ⟨calls, areAdded, ?_⟩
      intro call
      rw [exactly]
      constructor
      · rintro ⟨service, member, ⟨hasElement, traces⟩, asks⟩
        exact ⟨hasElement, traces, object, isObject, entries, isList, service, member, asks⟩
      · rintro ⟨hasElement, traces, other, isOther, others, areOthers, service, member, asks⟩
        rw [isObject] at isOther
        cases isOther
        rw [isList] at areOthers
        cases areOthers
        exact ⟨service, member, ⟨hasElement, traces⟩, asks⟩

/-! ## Documents that do not name their elements -/

/-- Of an entry without a name the end of the object is read. -/
theorem parseElement_eq_none
    {addElementTracePoints : Object → String → String → InstanceSpecifierView →
      TracingFilterConfig → Option TracingFilterConfig}
    (isObject : json.asObject element = some object)
    (nameless : json.find object "shortname" = none) (filter : TracingFilterConfig) :
    parseElement json configuration elementType addElementTracePoints serviceType names
      instanceSpecifiers filter element = none := by
  simp [parseElement, isObject, nameless]

theorem parseElements_eq_none {key : String} {elements : List Any}
    {parseElement : String → List String → Finset String → TracingFilterConfig → Any →
      Option TracingFilterConfig}
    (isObject : json.asObject service = some object)
    (areElements : getValueFromJson json json.asList object key = some elements)
    (member : element ∈ elements) (fails : ∀ names filter,
      parseElement serviceType names instanceSpecifiers filter element = none)
    (filter : TracingFilterConfig) :
    parseElements json configuration key elementType parseElement service serviceType
      instanceSpecifiers filter = none := by
  obtain ⟨property, found, isList⟩ := Option.bind_eq_some_iff.mp areElements
  unfold parseElements
  simp only [isObject, found, Option.bind_eq_bind, Option.bind_some]
  cases getElementNamesOfServiceType configuration serviceType elementType with
  | none => rfl
  | some names =>
      simp only [isList, Option.bind_some]
      exact foldlM_eq_none member (fails names) filter

theorem parseService_eq_none (nameless : ¬ServiceNames json configuration service)
    (filter : TracingFilterConfig) : parseService json configuration filter service = none := by
  unfold ServiceNames Names at nameless
  push Not at nameless
  obtain ⟨object, isObject, serviceType, isPath, configured, key, isKey, elements, areElements,
    element, member, entry, isEntry, noName⟩ := nameless
  obtain ⟨property, found, isString⟩ := Option.bind_eq_some_iff.mp isPath
  unfold parseService
  simp only [isObject, found, isString, configured, Option.bind_eq_bind, Option.bind_some, if_true]
  simp only [List.mem_cons, List.not_mem_nil, or_false] at isKey
  rcases isKey with isEvents | isFields
  · subst isEvents
    have fails : parseEvents json configuration service serviceType
        (getInstancesOfServiceType configuration serviceType) filter = none :=
      parseElements_eq_none isObject areElements member
        (fun _ filter => parseElement_eq_none isEntry noName filter) filter
    rw [fails]
    rfl
  · subst isFields
    have fails : ∀ between, parseFields json configuration service serviceType
        (getInstancesOfServiceType configuration serviceType) between = none :=
      parseElements_eq_none isObject areElements member
        (fun _ filter => parseElement_eq_none isEntry noName filter)
    cases parseEvents json configuration service serviceType
        (getInstancesOfServiceType configuration serviceType) filter with
    | none => rfl
    | some between =>
        rw [Option.bind_some, fails]
        rfl

theorem parse_eq_none (nameless : ¬NamesElements json configuration document) :
    parse json configuration document = none := by
  unfold NamesElements at nameless
  push Not at nameless
  obtain ⟨object, isObject, services, areServices, service, member, serviceNameless⟩ := nameless
  obtain ⟨property, found, isList⟩ := Option.bind_eq_some_iff.mp areServices
  unfold parse parseServices
  simp only [isObject, found, isList, Option.bind_eq_bind, Option.bind_some]
  exact foldlM_eq_none member (fun filter => parseService_eq_none serviceNameless filter) _

/-! ## The law -/

/-- A name that is kept is a C string. -/
theorem hasNoNul_getOrInsertStringInSet (text : String) :
    HasNoNul (getOrInsertStringInSet text) := by
  unfold HasNoNul getOrInsertStringInSet Configuration.cString
  rw [String.toList_ofList]
  intro member
  have isKept := List.mem_takeWhile_imp member
  simp at isKept

theorem getOrInsertStringInSet_of_hasNoNul {text : String} (noNul : HasNoNul text) :
    getOrInsertStringInSet text = text :=
  (ofList_cString_eq_iff text).mpr noNul

theorem hasNoNul_stored (call : TracePointCall) :
    HasNoNul call.stored.serviceElement.serviceTypeName ∧
      HasNoNul call.stored.serviceElement.serviceElementName := by
  cases call <;>
    exact ⟨hasNoNul_getOrInsertStringInSet _, hasNoNul_getOrInsertStringInSet _⟩

theorem stored_eq_self (typeName : HasNoNul call.serviceElement.serviceTypeName)
    (elementName : HasNoNul call.serviceElement.serviceElementName) : call.stored = call := by
  cases call <;>
    simp only [TracePointCall.serviceElement] at typeName elementName <;>
    simp [TracePointCall.stored, getOrInsertStringInSet_of_hasNoNul typeName,
      getOrInsertStringInSet_of_hasNoNul elementName]

/-- What is enabled is what is kept of the calls. -/
theorem isTracePointEnabled_iff_of_ofCalls {filter : TracingFilterConfig}
    {calls : List TracePointCall} (added : TracingFilterConfig.ofCalls calls = some filter)
    {asked : TracePointCall} :
    filter.isTracePointEnabled asked = true ↔ ∃ call ∈ calls, asked = call.stored := by
  rw [isTracePointEnabled_foldlM added, not_isTracePointEnabled_empty]
  simp

/-- The document is read and enables what it requests, exactly if all events and fields of
the services in question have a name, no requested name has a NUL and the requested names are
short enough. -/
theorem filterLaw_iff (typed : WellTyped json document) : FilterLaw json configuration document ↔
      NamesElements json configuration document ∧ RequestsNoNul json configuration document ∧
        RequestsFit json configuration document := by
  constructor
  · rintro ⟨filter, isFilter, enables⟩
    have named : NamesElements json configuration document := by
      by_contra nameless
      rw [parse_eq_none nameless] at isFilter
      cases isFilter
    obtain ⟨calls, areAdded, exactly⟩ := parse_of_namesElements typed named
    rw [isFilter] at areAdded
    refine ⟨named, ?_, ?_⟩
    · intro call requested
      obtain ⟨added, _, isStored⟩ :=
        (isTracePointEnabled_iff_of_ofCalls areAdded.symm).mp ((enables call).mpr requested)
      rw [isStored]
      exact hasNoNul_stored added
    · intro call requested
      exact (TracingFilterConfig.exists_foldlM_iff calls).mp ⟨filter, areAdded.symm⟩ call
        ((exactly call).mpr requested)
  · rintro ⟨named, noNul, fits⟩
    obtain ⟨calls, areAdded, exactly⟩ := parse_of_namesElements typed named
    obtain ⟨filter, isFilter⟩ := (TracingFilterConfig.exists_foldlM_iff calls).mpr
      fun call member => fits call ((exactly call).mp member)
    refine ⟨filter, areAdded.trans isFilter, ?_⟩
    intro call
    rw [isTracePointEnabled_iff_of_ofCalls isFilter]
    constructor
    · rintro ⟨added, member, isStored⟩
      have requested := (exactly added).mp member
      obtain ⟨typeName, elementName⟩ := noNul added requested
      rw [isStored, stored_eq_self typeName elementName]
      exact requested
    · intro requested
      obtain ⟨typeName, elementName⟩ := noNul call requested
      exact ⟨call, (exactly call).mpr requested, (stored_eq_self typeName elementName).symm⟩

end Entries

end Adds

/-! ## A document with one event -/

section Inputs

def eventService : ServiceIdentifierType := ⟨"/bmw/service", ⟨1, 0⟩⟩

def eventPort : InstanceSpecifier := ⟨"abc/port", isShortNameValid_port⟩

/-- A service with one event, and an instance of it for which the event is traced. -/
def eventConfiguration : Configuration.Configuration where
  serviceTypes :=
    { entries :=
        [(eventService, .lola
          { serviceId := 7
            events := ⟨[("event", 1)], List.nodup_singleton _⟩
            fields := .empty })]
      unique := List.nodup_singleton _ }
  serviceInstances :=
    { entries :=
        [(eventPort,
          { service := eventService
            bindingInfo := .lola { LolaServiceInstanceDeployment.initial with instanceId := some ⟨1⟩ }
            asilLevel := .asilQm
            instanceSpecifier := eventPort })]
      unique := List.nodup_singleton _ }
  globalConfiguration := .initial
  tracingConfiguration :=
    { TracingConfiguration.initial with
      enabled := true
      serviceElementTracingEnabledMap :=
        ⟨[(⟨"/bmw/service", "event", .event⟩, [eventPort])], List.nodup_singleton _⟩ }

/-- An entry that asks for `trace_send` of the event. -/
def namedEvent : JsonObject where
  members := [("shortname", .string "event"), ("trace_send", .bool true)]
  sorted := by
    change List.Pairwise (· < ·) ["shortname", "trace_send"]
    decide

/-- An entry that asks for `trace_send` of no event. -/
def namelessEvent : JsonObject where
  members := [("trace_send", .bool true)]
  sorted := List.pairwise_singleton _ _

def serviceObject (event : JsonObject) : JsonObject where
  members :=
    [("events", .list [sortedJson.object event]), ("shortname_path", .string "/bmw/service")]
  sorted := by
    change List.Pairwise (· < ·) ["events", "shortname_path"]
    decide

def filterObject (event : JsonObject) : JsonObject where
  members := [("services", .list [sortedJson.object (serviceObject event)])]
  sorted := List.pairwise_singleton _ _

/-- The document of one service with one entry for an event. -/
def documentOf (event : JsonObject) : JsonValue := sortedJson.object (filterObject event)

/-- Whether the properties that are there are boolean can be computed. -/
theorem hasBools_of_all {Any Object : Type} {json : JsonLibrary Any Object} {object : Object}
    {properties : List String} (areBools : (properties.all fun property =>
      (json.find object property).all fun value => (json.asBool value).isSome) = true) :
    HasBools json object properties := by
  intro property member value found
  have isBool := List.all_eq_true.mp areBools property member
  rw [found] at isBool
  obtain ⟨enabled, isEnabled⟩ := Option.isSome_iff_exists.mp isBool
  exact ⟨enabled, isEnabled, trivial⟩

theorem wellTyped_documentOf {event : JsonObject}
    (typed : WellTypedEvent sortedJson (sortedJson.object event)) :
    WellTyped sortedJson (documentOf event) := by
  have isObject := sortedJson_lawful.asObject_object
  refine ⟨filterObject event, isObject _, ?_⟩
  intro property found
  cases found
  refine ⟨[sortedJson.object (serviceObject event)], rfl, ?_⟩
  intro service member
  rw [List.mem_singleton.mp member]
  refine ⟨serviceObject event, isObject _, ?_, ?_, ?_, ?_⟩
  · intro property found
    cases found
    exact ⟨"/bmw/service", rfl, trivial⟩
  · intro property found
    cases found
    refine ⟨[sortedJson.object event], rfl, ?_⟩
    intro entry isEntry
    rw [List.mem_singleton.mp isEntry]
    exact typed
  · intro property found
    cases found
  · intro property found
    cases found

theorem wellTyped_namedEvent : WellTyped sortedJson (documentOf namedEvent) := by
  apply wellTyped_documentOf
  refine ⟨namedEvent, sortedJson_lawful.asObject_object _, ?_, hasBools_of_all (by decide +kernel),
    hasBools_of_all (by decide +kernel), hasBools_of_all (by decide +kernel)⟩
  intro property found
  cases found
  exact ⟨"event", rfl, trivial⟩

theorem wellTyped_namelessEvent : WellTyped sortedJson (documentOf namelessEvent) := by
  apply wellTyped_documentOf
  refine ⟨namelessEvent, sortedJson_lawful.asObject_object _, ?_,
    hasBools_of_all (by decide +kernel), hasBools_of_all (by decide +kernel),
    hasBools_of_all (by decide +kernel)⟩
  intro property found
  cases found

theorem namesElements_namedEvent :
    NamesElements sortedJson eventConfiguration (documentOf namedEvent) := by
  intro object isObject services areServices service member other isService path isPath
    configured key isKey elements areElements element isElement entry isEntry
  cases isObject
  cases areServices
  cases List.mem_singleton.mp member
  cases isService
  simp only [List.mem_cons, List.not_mem_nil, or_false] at isKey
  rcases isKey with isEvents | isFields
  · subst isEvents
    cases areElements
    cases List.mem_singleton.mp isElement
    cases isEntry
    exact Option.some_ne_none _
  · subst isFields
    cases areElements

/-- The one element that can be requested. -/
theorem serviceElement_of_hasElement {serviceElement : ServiceElementIdentifierView}
    (hasElement : HasElement eventConfiguration serviceElement) :
    serviceElement = ⟨"/bmw/service", "event", .event⟩ := by
  obtain ⟨entry, isEntry, isService, deployment, isLola, member⟩ := hasElement
  cases List.mem_singleton.mp isEntry
  cases isLola
  obtain ⟨serviceType, elementName, elementType⟩ := serviceElement
  cases isService
  cases elementType with
  | event =>
      cases List.mem_singleton.mp member
      rfl
  | field | method | invalid => cases member

theorem filterLaw_of_namedEvent : WellTyped sortedJson (documentOf namedEvent) ∧
      FilterLaw sortedJson eventConfiguration (documentOf namedEvent) := by
  refine ⟨wellTyped_namedEvent, (filterLaw_iff wellTyped_namedEvent).mpr
    ⟨namesElements_namedEvent, ?_, ?_⟩⟩
  · intro call requested
    rw [serviceElement_of_hasElement requested.hasElement]
    exact ⟨by unfold HasNoNul; decide, by unfold HasNoNul; decide⟩
  · intro call requested
    have isEvent := serviceElement_of_hasElement requested.hasElement
    have isStored : call.stored = call := by
      apply stored_eq_self <;> rw [isEvent] <;> unfold HasNoNul <;> decide
    unfold TracePointCall.Fits
    rw [isStored, isEvent]
    decide

/-- The entry without a name is not skipped. -/
theorem filterLaw_violated : WellTyped sortedJson (documentOf namelessEvent) ∧
      ¬FilterLaw sortedJson eventConfiguration (documentOf namelessEvent) := by
  refine ⟨wellTyped_namelessEvent, ?_⟩
  rintro ⟨filter, isFilter, _⟩
  have ends : (parse sortedJson eventConfiguration (documentOf namelessEvent)).isSome = false := by
    decide +kernel
  rw [isFilter] at ends
  cases ends

end Inputs

end TracingFilterConfigParser

end MwCom.Tracing
