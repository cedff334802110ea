/-
Module: MwCom.Tracing.TraceContextCount
Purpose: How many trace contexts the filter counts for the trace points that were added to
  it.
Trusted boundary: none
Main exports: addTracePoint, Fits, tracedPairs, IterationOrder, EvenlyEnabled, CountsPairs,
  getNumberOfServiceElementsWithTraceDoneCb_iff
-/
import MwCom.Configuration.Deployments
import MwCom.Search.FirstEntries
import MwCom.Tracing.TraceContexts

namespace MwCom.Tracing

open Search

/-! ## Adding trace points -/

/-- The view of a name that is kept: it is made from a C string. -/
def getOrInsertStringInSet (key : String) : String := String.ofList (Configuration.cString key)

/-- The buffer in which the hash of a key is made. -/
def maxBufferSize : Nat := 1024

section Map

variable {TracePoint : Type} [DecidableEq TracePoint]

omit [DecidableEq TracePoint] in
/-- The bytes of the names, and one for each of the two types. -/
def TracePointKey.inputValueSize (value : TracePointKey TracePoint) : Nat :=
  value.serviceElement.serviceTypeName.utf8ByteSize +
    value.serviceElement.serviceElementName.utf8ByteSize + 1 + 1

def insertTracePointIntoMap (tracePointKey : TracePointKey TracePoint)
    (instanceSpecifier : InstanceSpecifierView) :
    TracePointMap TracePoint → TracePointMap TracePoint
  | [] => [(tracePointKey, [instanceSpecifier])]
  | entry :: rest =>
      if entry.1 = tracePointKey then
        (entry.1, entry.2.insert instanceSpecifier) :: rest
      else
        entry :: insertTracePointIntoMap tracePointKey instanceSpecifier rest

/-- `none`: the hash of the key, which every insertion takes, ends the process. -/
def addTracePointToMap (serviceType serviceElementName : String)
    (serviceElementType : ServiceElementType) (instanceSpecifier : InstanceSpecifierView)
    (tracePointType : TracePoint) (tracePointMap : TracePointMap TracePoint) :
    Option (TracePointMap TracePoint) :=
  let serviceTypeStored := getOrInsertStringInSet serviceType
  let serviceElementNameStored := getOrInsertStringInSet serviceElementName
  let tracePointKey : TracePointKey TracePoint :=
    ⟨⟨serviceTypeStored, serviceElementNameStored, serviceElementType⟩, tracePointType⟩
  if tracePointKey.inputValueSize > maxBufferSize then none
  else some (insertTracePointIntoMap tracePointKey instanceSpecifier tracePointMap)

end Map

/-- The overloads of `AddTracePoint`. -/
inductive TracePointCall where
  | skeletonEvent (serviceType eventName : String) (instanceSpecifier : InstanceSpecifierView)
      (tracePointType : SkeletonEventTracePointType)
  | skeletonField (serviceType fieldName : String) (instanceSpecifier : InstanceSpecifierView)
      (tracePointType : SkeletonFieldTracePointType)
  | proxyEvent (serviceType eventName : String) (instanceSpecifier : InstanceSpecifierView)
      (tracePointType : ProxyEventTracePointType)
  | proxyField (serviceType fieldName : String) (instanceSpecifier : InstanceSpecifierView)
      (tracePointType : ProxyFieldTracePointType)

namespace TracePointCall

def serviceElement : TracePointCall → ServiceElementIdentifierView
  | .skeletonEvent serviceType eventName _ _ => ⟨serviceType, eventName, .event⟩
  | .skeletonField serviceType fieldName _ _ => ⟨serviceType, fieldName, .field⟩
  | .proxyEvent serviceType eventName _ _ => ⟨serviceType, eventName, .event⟩
  | .proxyField serviceType fieldName _ _ => ⟨serviceType, fieldName, .field⟩

/-- The call with the names that are kept of it. -/
def stored : TracePointCall → TracePointCall
  | .skeletonEvent serviceType eventName instanceSpecifier tracePointType =>
      .skeletonEvent (getOrInsertStringInSet serviceType) (getOrInsertStringInSet eventName)
        instanceSpecifier tracePointType
  | .skeletonField serviceType fieldName instanceSpecifier tracePointType =>
      .skeletonField (getOrInsertStringInSet serviceType) (getOrInsertStringInSet fieldName)
        instanceSpecifier tracePointType
  | .proxyEvent serviceType eventName instanceSpecifier tracePointType =>
      .proxyEvent (getOrInsertStringInSet serviceType) (getOrInsertStringInSet eventName)
        instanceSpecifier tracePointType
  | .proxyField serviceType fieldName instanceSpecifier tracePointType =>
      .proxyField (getOrInsertStringInSet serviceType) (getOrInsertStringInSet fieldName)
        instanceSpecifier tracePointType

/-- The names that are kept fit into the buffer, with a byte for each of the two types. -/
def Fits (call : TracePointCall) : Prop := call.stored.serviceElement.serviceTypeName.utf8ByteSize +
    call.stored.serviceElement.serviceElementName.utf8ByteSize + 2 ≤ maxBufferSize

end TracePointCall

namespace TracingFilterConfig

def empty : TracingFilterConfig where
  skeletonEventTracePoints := []
  skeletonFieldTracePoints := []
  proxyEventTracePoints := []
  proxyFieldTracePoints := []

def addTracePoint (config : TracingFilterConfig) : TracePointCall → Option TracingFilterConfig
  | .skeletonEvent serviceType eventName instanceSpecifier tracePointType =>
      (addTracePointToMap serviceType eventName .event instanceSpecifier tracePointType
        config.skeletonEventTracePoints).map fun tracePoints =>
          { config with skeletonEventTracePoints := tracePoints }
  | .skeletonField serviceType fieldName instanceSpecifier tracePointType =>
      (addTracePointToMap serviceType fieldName .field instanceSpecifier tracePointType
        config.skeletonFieldTracePoints).map fun tracePoints =>
          { config with skeletonFieldTracePoints := tracePoints }
  | .proxyEvent serviceType eventName instanceSpecifier tracePointType =>
      (addTracePointToMap serviceType eventName .event instanceSpecifier tracePointType
        config.proxyEventTracePoints).map fun tracePoints =>
          { config with proxyEventTracePoints := tracePoints }
  | .proxyField serviceType fieldName instanceSpecifier tracePointType =>
      (addTracePointToMap serviceType fieldName .field instanceSpecifier tracePointType
        config.proxyFieldTracePoints).map fun tracePoints =>
          { config with proxyFieldTracePoints := tracePoints }

/-- The filter after a sequence of calls, `none` if one of them ends the process.  An invalid
trace point type, which does so too, is none of the types. -/
def ofCalls (calls : List TracePointCall) : Option TracingFilterConfig :=
  calls.foldlM addTracePoint empty

/-- The entries of a filter in an order in which an unordered map may go through them. -/
structure IterationOrder (config order : TracingFilterConfig) : Prop where
  skeletonEvents : order.skeletonEventTracePoints.Perm config.skeletonEventTracePoints
  skeletonFields : order.skeletonFieldTracePoints.Perm config.skeletonFieldTracePoints
  proxyEvents : order.proxyEventTracePoints.Perm config.proxyEventTracePoints
  proxyFields : order.proxyFieldTracePoints.Perm config.proxyFieldTracePoints

/-- A trace point of the element that needs a callback is enabled for the instance. -/
def isTraced (config : TracingFilterConfig) (serviceElement : ServiceElementIdentifierView)
    (instanceSpecifier : InstanceSpecifierView) : Bool :=
  match serviceElement.serviceElementType with
  | .event =>
      config.isSkeletonEventTracePointEnabled serviceElement.serviceTypeName
          serviceElement.serviceElementName instanceSpecifier .send ||
        config.isSkeletonEventTracePointEnabled serviceElement.serviceTypeName
          serviceElement.serviceElementName instanceSpecifier .sendWithAllocate
  | .field =>
      config.isSkeletonFieldTracePointEnabled serviceElement.serviceTypeName
          serviceElement.serviceElementName instanceSpecifier .update ||
        config.isSkeletonFieldTracePointEnabled serviceElement.serviceTypeName
          serviceElement.serviceElementName instanceSpecifier .updateWithAllocate
  | _ => false

/-- The elements and instances that take a trace context. -/
def tracedPairs (config : TracingFilterConfig) :
    Set (ServiceElementIdentifierView × InstanceSpecifierView) :=
  { pair | config.isTraced pair.1 pair.2 = true }

end TracingFilterConfig

/-- If two trace points of an element that need a callback are enabled at all, they are
enabled for the same instances. -/
def EvenlyEnabled {TracePoint : Type} (needsTraceDoneCb : TracePoint → Bool)
    (isEnabled : String → String → InstanceSpecifierView → TracePoint → Bool) : Prop :=
  ∀ serviceType elementName one two, needsTraceDoneCb one = true → needsTraceDoneCb two = true →
    ∀ instanceSpecifier other, isEnabled serviceType elementName instanceSpecifier one = true →
      isEnabled serviceType elementName other two = true →
        isEnabled serviceType elementName instanceSpecifier two = true

/-! ## Maps of trace points -/

section SoundMap

variable {TracePoint : Type} [DecidableEq TracePoint]

/-- What the calls make of a map: one entry for each key, for a set of instances. -/
structure SoundMap (serviceElementType : ServiceElementType)
    (map : TracePointMap TracePoint) : Prop where
  keys : (map.map Prod.fst).Nodup
  instances : ∀ entry ∈ map, entry.2.Nodup
  nonempty : ∀ entry ∈ map, entry.2 ≠ []
  kind : ∀ entry ∈ map, entry.1.serviceElement.serviceElementType = serviceElementType

variable {serviceElementType : ServiceElementType} {map order : TracePointMap TracePoint}

variable {instanceSpecifier : InstanceSpecifierView}

theorem keys_insertTracePointIntoMap {tracePointKey key : TracePointKey TracePoint}
    (member : key ∈ (insertTracePointIntoMap tracePointKey instanceSpecifier map).map Prod.fst) :
    key = tracePointKey ∨ key ∈ map.map Prod.fst := by
  induction map with
  | nil => exact .inl (List.mem_singleton.mp member)
  | cons entry rest ih =>
      rw [insertTracePointIntoMap] at member
      split at member
      · exact .inr member
      · rcases List.mem_cons.mp member with isEntry | later
        · exact .inr (List.mem_cons.mpr (.inl isEntry))
        · exact (ih later).imp_right (List.mem_cons_of_mem _)

variable {entry : TracePointKey TracePoint × List InstanceSpecifierView}

omit [DecidableEq TracePoint] in
theorem SoundMap.tail (sound : SoundMap serviceElementType (entry :: map)) :
    SoundMap serviceElementType map where
  keys := (List.nodup_cons.mp sound.keys).2
  instances := fun other member => sound.instances other (List.mem_cons_of_mem _ member)
  nonempty := fun other member => sound.nonempty other (List.mem_cons_of_mem _ member)
  kind := fun other member => sound.kind other (List.mem_cons_of_mem _ member)

omit [DecidableEq TracePoint] in
theorem SoundMap.cons (sound : SoundMap serviceElementType map)
    (isNew : entry.1 ∉ map.map Prod.fst) (instances : entry.2.Nodup) (nonempty : entry.2 ≠ [])
    (kind : entry.1.serviceElement.serviceElementType = serviceElementType) :
    SoundMap serviceElementType (entry :: map) where
  keys := List.nodup_cons.mpr ⟨isNew, sound.keys⟩
  instances := List.forall_mem_cons.mpr ⟨instances, sound.instances⟩
  nonempty := List.forall_mem_cons.mpr ⟨nonempty, sound.nonempty⟩
  kind := List.forall_mem_cons.mpr ⟨kind, sound.kind⟩

omit [DecidableEq TracePoint] in
theorem SoundMap.nil : SoundMap serviceElementType ([] : TracePointMap TracePoint) where
  keys := List.nodup_nil
  instances := by simp
  nonempty := by simp
  kind := by simp

theorem SoundMap.insert {tracePointKey : TracePointKey TracePoint}
    (sound : SoundMap serviceElementType map) (instanceSpecifier : InstanceSpecifierView)
    (kind : tracePointKey.serviceElement.serviceElementType = serviceElementType) :
    SoundMap serviceElementType
      (insertTracePointIntoMap tracePointKey instanceSpecifier map) := by
  induction map with
  | nil => exact SoundMap.nil.cons (by simp) (List.nodup_singleton _) (by simp) kind
  | cons entry rest ih =>
      have isNew := (List.nodup_cons.mp sound.keys).1
      rw [insertTracePointIntoMap]
      split
      · refine sound.tail.cons isNew ?_ ?_ ?_
        · exact (sound.instances entry List.mem_cons_self).insert
        · exact List.ne_nil_of_mem List.mem_insert_self
        · exact sound.kind entry List.mem_cons_self
      · rename_i otherKey
        apply (ih sound.tail).cons
        · intro again
          rcases keys_insertTracePointIntoMap again with isKey | inRest
          · exact otherKey isKey
          · exact isNew inRest
        · exact sound.instances entry List.mem_cons_self
        · exact sound.nonempty entry List.mem_cons_self
        · exact sound.kind entry List.mem_cons_self

/-- In a sound map a trace point is enabled if its entry has the instance. -/
theorem SoundMap.isTracePointEnabledInMap_iff (sound : SoundMap serviceElementType map)
    {serviceElement : ServiceElementIdentifierView} {tracePointType : TracePoint} :
    isTracePointEnabledInMap serviceElement instanceSpecifier tracePointType map = true ↔
      ∃ entry ∈ map, entry.1 = ⟨serviceElement, tracePointType⟩ ∧ instanceSpecifier ∈ entry.2 := by
  rw [isTracePointEnabledInMap]
  constructor
  · intro isEnabled
    split at isEnabled
    · cases isEnabled
    · rename_i entry found
      have isKey := List.find?_some found
      exact ⟨entry, List.mem_of_find?_eq_some found, of_decide_eq_true isKey,
        List.contains_iff_mem.mp isEnabled⟩
  · rintro ⟨entry, member, isKey, isInstance⟩
    cases found : map.find? fun entry => decide (entry.1 = ⟨serviceElement, tracePointType⟩) with
    | none =>
        have differs := List.find?_eq_none.mp found entry member
        exact absurd (decide_eq_true isKey) differs
    | some first =>
        have isFirst : first.1 = ⟨serviceElement, tracePointType⟩ := by
          simpa using List.find?_some found
        have same : first = entry := List.inj_on_of_nodup_map sound.keys
          (List.mem_of_find?_eq_some found) member (isFirst.trans isKey.symm)
        rw [same]
        exact List.contains_iff_mem.mpr isInstance

theorem SoundMap.kind_of_enabled (sound : SoundMap serviceElementType map)
    {serviceElement : ServiceElementIdentifierView} {tracePointType : TracePoint}
    (enabled : isTracePointEnabledInMap serviceElement instanceSpecifier tracePointType map =
      true) : serviceElement.serviceElementType = serviceElementType := by
  obtain ⟨entry, isEntry, isKey, _⟩ := sound.isTracePointEnabledInMap_iff.mp enabled
  have kind := sound.kind entry isEntry
  rw [isKey] at kind
  exact kind

/-! ### The entries that are counted -/

omit [DecidableEq TracePoint] in
/-- The entries of the trace points that need a callback. -/
def doneEntries (needsTraceDoneCb : TracePoint → Bool) (map : TracePointMap TracePoint) :
    List (ServiceElementIdentifierView × List InstanceSpecifierView) :=
  (map.filter fun entry => needsTraceDoneCb entry.1.tracePointType).map fun entry =>
    (entry.1.serviceElement, entry.2)

variable {needsTraceDoneCb : TracePoint → Bool}

omit [DecidableEq TracePoint] in
theorem mem_doneEntries {entry : ServiceElementIdentifierView × List InstanceSpecifierView} :
    entry ∈ doneEntries needsTraceDoneCb map ↔
      ∃ tracePointType, needsTraceDoneCb tracePointType = true ∧
        (⟨entry.1, tracePointType⟩, entry.2) ∈ map := by
  rw [doneEntries, List.mem_map]
  constructor
  · rintro ⟨⟨⟨serviceElement, tracePointType⟩, instances⟩, member, rfl⟩
    obtain ⟨isEntry, needs⟩ := List.mem_filter.mp member
    exact ⟨tracePointType, needs, isEntry⟩
  · rintro ⟨tracePointType, needs, isEntry⟩
    exact ⟨_, List.mem_filter.mpr ⟨isEntry, needs⟩, rfl⟩

omit [DecidableEq TracePoint] in
theorem doneEntries_cons_of_pos (needs : needsTraceDoneCb entry.1.tracePointType = true) :
    doneEntries needsTraceDoneCb (entry :: map) =
      (entry.1.serviceElement, entry.2) :: doneEntries needsTraceDoneCb map := by
  simp [doneEntries, needs]

omit [DecidableEq TracePoint] in
theorem doneEntries_cons_of_neg (needs : ¬needsTraceDoneCb entry.1.tracePointType = true) :
    doneEntries needsTraceDoneCb (entry :: map) = doneEntries needsTraceDoneCb map := by
  simp [doneEntries, needs]

omit [DecidableEq TracePoint] in
/-- The search counts the instances of the first entries, and goes on behind them. -/
theorem findNumberOfTracePointsNeedingTraceDoneCb_spec
    (counted : List ServiceElementIdentifierView) (tracePointsCount : Nat) :
    ∃ countedAfter,
      findNumberOfTracePointsNeedingTraceDoneCb needsTraceDoneCb map counted tracePointsCount =
          (tracePointsCount +
            (pairs (firstEntries (doneEntries needsTraceDoneCb map) counted)).length,
            countedAfter) ∧
        ∀ later, firstEntries (doneEntries needsTraceDoneCb map ++ later) counted =
          firstEntries (doneEntries needsTraceDoneCb map) counted ++
            firstEntries later countedAfter := by
  induction map generalizing counted tracePointsCount with
  | nil => exact ⟨counted, rfl, fun _ => rfl⟩
  | cons entry rest ih =>
      rw [findNumberOfTracePointsNeedingTraceDoneCb]
      by_cases needs : needsTraceDoneCb entry.1.tracePointType = true
      · rw [doneEntries_cons_of_pos needs]
        by_cases isCounted : entry.1.serviceElement ∈ counted
        · obtain ⟨countedAfter, found, continues⟩ := ih counted tracePointsCount
          refine ⟨countedAfter, ?_, ?_⟩
          · rw [if_neg (by simp [isCounted]), found, firstEntries, if_pos isCounted]
          · intro later
            rw [List.cons_append, firstEntries, if_pos isCounted, firstEntries, if_pos isCounted]
            exact continues later
        · obtain ⟨countedAfter, found, continues⟩ := ih (entry.1.serviceElement :: counted)
              (tracePointsCount + entry.2.length)
          refine ⟨countedAfter, ?_, ?_⟩
          · rw [if_pos (by simp [isCounted, needs]), found, firstEntries,
              if_neg isCounted, length_pairs_cons, Nat.add_assoc]
          · intro later
            rw [List.cons_append, firstEntries, if_neg isCounted, firstEntries,
              if_neg isCounted, List.cons_append, continues]
      · rw [if_neg (by simp [needs]), doneEntries_cons_of_neg needs]
        exact ih counted tracePointsCount

/-- In which pairs the trace points of a map are enabled. -/
theorem SoundMap.mem_pairs_doneEntries (sound : SoundMap serviceElementType map)
    {pair : ServiceElementIdentifierView × InstanceSpecifierView} :
    pair ∈ pairs (doneEntries needsTraceDoneCb map) ↔
      ∃ tracePointType, needsTraceDoneCb tracePointType = true ∧
        isTracePointEnabledInMap pair.1 pair.2 tracePointType map = true := by
  rw [mem_pairs]
  constructor
  · rintro ⟨entry, member, sameElement, isInstance⟩
    obtain ⟨tracePointType, needs, isEntry⟩ := mem_doneEntries.mp member
    refine ⟨tracePointType, needs, sound.isTracePointEnabledInMap_iff.mpr ?_⟩
    exact ⟨_, isEntry, by rw [sameElement], isInstance⟩
  · rintro ⟨tracePointType, needs, isEnabled⟩
    obtain ⟨⟨key, instances⟩, isEntry, isKey, isInstance⟩ :=
      sound.isTracePointEnabledInMap_iff.mp isEnabled
    cases isKey
    exact ⟨(pair.1, instances), mem_doneEntries.mpr ⟨tracePointType, needs, isEntry⟩, rfl,
      isInstance⟩

omit [DecidableEq TracePoint] in
theorem doneEntries_perm (samePairs : order.Perm map) :
    (doneEntries needsTraceDoneCb order).Perm (doneEntries needsTraceDoneCb map) :=
  (samePairs.filter _).map _

omit [DecidableEq TracePoint] in
/-- An entry that needs a callback can be the first one of its map. -/
theorem exists_order_first {entry : ServiceElementIdentifierView × List InstanceSpecifierView}
    (member : entry ∈ doneEntries needsTraceDoneCb map) :
    ∃ order : TracePointMap TracePoint, order.Perm map ∧
      ∃ behind, doneEntries needsTraceDoneCb order = entry :: behind := by
  obtain ⟨tracePointType, needs, isEntry⟩ := mem_doneEntries.mp member
  obtain ⟨before, behind, rfl⟩ := List.append_of_mem isEntry
  exact ⟨_ :: (before ++ behind), List.perm_middle.symm, doneEntries needsTraceDoneCb _,
    doneEntries_cons_of_pos needs⟩

/-- Entries of one element have the same instances if its trace points are enabled for the
same ones. -/
theorem SoundMap.agree_of_evenlyEnabled (sound : SoundMap serviceElementType map)
    (samePairs : order.Perm map)
    (evenly : EvenlyEnabled needsTraceDoneCb fun serviceType elementName instanceSpecifier
      tracePointType => isTracePointEnabledInMap ⟨serviceType, elementName, serviceElementType⟩
        instanceSpecifier tracePointType map) :
    Agree (doneEntries needsTraceDoneCb order) := by
  intro one isOne two isTwo sameElement value isValue
  obtain ⟨first, needsFirst, memberFirst⟩ :=
    mem_doneEntries.mp ((doneEntries_perm samePairs).mem_iff.mp isOne)
  obtain ⟨second, needsSecond, memberSecond⟩ :=
    mem_doneEntries.mp ((doneEntries_perm samePairs).mem_iff.mp isTwo)
  obtain ⟨⟨serviceType, elementName, type⟩, instances⟩ := two
  obtain ⟨_, values⟩ := one
  have isType : type = serviceElementType := sound.kind _ memberSecond
  subst isType
  cases sameElement
  obtain ⟨other, isOther⟩ := List.exists_mem_of_ne_nil _ (sound.nonempty _ memberSecond)
  have enabled := evenly serviceType elementName first second needsFirst needsSecond value other
    (sound.isTracePointEnabledInMap_iff.mpr ⟨_, memberFirst, rfl, isValue⟩)
    (sound.isTracePointEnabledInMap_iff.mpr ⟨_, memberSecond, rfl, isOther⟩)
  obtain ⟨entry, isEntry, isKey, isInstance⟩ := sound.isTracePointEnabledInMap_iff.mp enabled
  have same := List.inj_on_of_nodup_map sound.keys isEntry memberSecond isKey
  rw [same] at isInstance
  exact isInstance

end SoundMap

/-! ## The filter -/

namespace TracingFilterConfig

/-- The maps of the skeletons are sound. -/
structure Sound (config : TracingFilterConfig) : Prop where
  events : SoundMap .event config.skeletonEventTracePoints
  fields : SoundMap .field config.skeletonFieldTracePoints

variable {config : TracingFilterConfig}

theorem addTracePointToMap_eq_some {TracePoint : Type} [DecidableEq TracePoint]
    {serviceType serviceElementName : String} {serviceElementType : ServiceElementType}
    {instanceSpecifier : InstanceSpecifierView} {tracePointType : TracePoint}
    {before after : TracePointMap TracePoint}
    (added : addTracePointToMap serviceType serviceElementName serviceElementType
      instanceSpecifier tracePointType before = some after) :
    after = insertTracePointIntoMap
      ⟨⟨getOrInsertStringInSet serviceType, getOrInsertStringInSet serviceElementName,
        serviceElementType⟩, tracePointType⟩ instanceSpecifier before := by
  simp only [addTracePointToMap] at added
  split at added
  · cases added
  · exact (Option.some.inj added).symm

theorem addTracePoint_eq_none_iff {call : TracePointCall} :
    config.addTracePoint call = none ↔ ¬call.Fits := by
  cases call <;>
    simp [addTracePoint, addTracePointToMap, TracePointCall.Fits, TracePointCall.stored,
      TracePointCall.serviceElement, TracePointKey.inputValueSize, Nat.add_assoc]

theorem Sound.addTracePoint (sound : config.Sound) {call : TracePointCall}
    {after : TracingFilterConfig} (added : config.addTracePoint call = some after) :
    after.Sound := by
  cases call with
  | skeletonEvent =>
      obtain ⟨map, isMap, rfl⟩ := Option.map_eq_some_iff.mp added
      rw [addTracePointToMap_eq_some isMap]
      exact ⟨sound.events.insert _ rfl, sound.fields⟩
  | skeletonField =>
      obtain ⟨map, isMap, rfl⟩ := Option.map_eq_some_iff.mp added
      rw [addTracePointToMap_eq_some isMap]
      exact ⟨sound.events, sound.fields.insert _ rfl⟩
  | proxyEvent | proxyField =>
      obtain ⟨map, isMap, rfl⟩ := Option.map_eq_some_iff.mp added
      exact ⟨sound.events, sound.fields⟩

theorem Sound.foldlM {calls : List TracePointCall} {after : TracingFilterConfig}
    (sound : config.Sound) (added : calls.foldlM TracingFilterConfig.addTracePoint config =
      some after) : after.Sound := by
  induction calls generalizing config with
  | nil =>
      cases added
      exact sound
  | cons call rest ih =>
      obtain ⟨between, isBetween, isAfter⟩ := Option.bind_eq_some_iff.mp added
      exact ih (sound.addTracePoint isBetween) isAfter

theorem sound_of_ofCalls {calls : List TracePointCall} (added : ofCalls calls = some config) :
    config.Sound :=
  Sound.foldlM ⟨SoundMap.nil, SoundMap.nil⟩ added

/-- The process goes on exactly if the names of all calls fit. -/
theorem exists_foldlM_iff (calls : List TracePointCall) :
    (∃ after, calls.foldlM addTracePoint config = some after) ↔ ∀ call ∈ calls, call.Fits := by
  induction calls generalizing config with
  | nil => simp
  | cons call rest ih =>
      rw [List.forall_mem_cons, List.foldlM_cons]
      cases added : config.addTracePoint call with
      | none => simp [addTracePoint_eq_none_iff.mp added]
      | some between =>
          have fits : call.Fits := by
            by_contra tooLong
            rw [addTracePoint_eq_none_iff.mpr tooLong] at added
            cases added
          simp only [fits, true_and]
          exact ih

/-- The entries that are counted, in the order of the maps. -/
def countedEntries (config : TracingFilterConfig) :
    List (ServiceElementIdentifierView × List InstanceSpecifierView) :=
  doneEntries SkeletonEventTracePointType.needsTraceDoneCb config.skeletonEventTracePoints ++
    doneEntries SkeletonFieldTracePointType.needsTraceDoneCb config.skeletonFieldTracePoints

/-- The number that is returned, if it is small enough. -/
theorem getNumberOfServiceElementsWithTraceDoneCb_eq (config : TracingFilterConfig) :
    config.getNumberOfServiceElementsWithTraceDoneCb =
      if (pairs (firstEntries config.countedEntries [])).length < 2 ^ 16 - 1 then
        some (pairs (firstEntries config.countedEntries [])).length
      else none := by
  obtain ⟨afterEvents, events, split⟩ := @findNumberOfTracePointsNeedingTraceDoneCb_spec _
    config.skeletonEventTracePoints SkeletonEventTracePointType.needsTraceDoneCb [] 0
  obtain ⟨afterFields, fields, _⟩ := @findNumberOfTracePointsNeedingTraceDoneCb_spec _
    config.skeletonFieldTracePoints SkeletonFieldTracePointType.needsTraceDoneCb afterEvents 0
  obtain ⟨afterProxyEvents, proxyEvents, _⟩ := @findNumberOfTracePointsNeedingTraceDoneCb_spec _
    config.proxyEventTracePoints ProxyEventTracePointType.needsTraceDoneCb afterFields 0
  obtain ⟨afterProxyFields, proxyFields, _⟩ := @findNumberOfTracePointsNeedingTraceDoneCb_spec _
    config.proxyFieldTracePoints ProxyFieldTracePointType.needsTraceDoneCb afterProxyEvents 0
  have noProxyEvents : doneEntries ProxyEventTracePointType.needsTraceDoneCb
      config.proxyEventTracePoints = [] := by
    simp [doneEntries, ProxyEventTracePointType.needsTraceDoneCb]
  have noProxyFields : doneEntries ProxyFieldTracePointType.needsTraceDoneCb
      config.proxyFieldTracePoints = [] := by
    simp [doneEntries, ProxyFieldTracePointType.needsTraceDoneCb]
  rw [getNumberOfServiceElementsWithTraceDoneCb]
  simp only [events, fields, proxyEvents, proxyFields, noProxyEvents, noProxyFields, firstEntries]
  rw [countedEntries, split, pairs_append, List.length_append]
  simp [pairs]

section Counted

variable {config order : TracingFilterConfig}

variable {instanceSpecifier : InstanceSpecifierView}

/-- An event is traced if one of its trace points that need a callback is enabled. -/
theorem event_mem_tracedPairs {serviceType eventName : String} :
    (⟨serviceType, eventName, .event⟩, instanceSpecifier) ∈ config.tracedPairs ↔
      ∃ tracePointType : SkeletonEventTracePointType, tracePointType.needsTraceDoneCb = true ∧
        config.isSkeletonEventTracePointEnabled serviceType eventName instanceSpecifier
          tracePointType = true := by
  constructor
  · intro traced
    rcases Bool.or_eq_true_iff.mp traced with enabled | enabled
    · exact ⟨.send, rfl, enabled⟩
    · exact ⟨.sendWithAllocate, rfl, enabled⟩
  · rintro ⟨tracePointType, _, enabled⟩
    cases tracePointType with
    | send => exact Bool.or_eq_true_iff.mpr (.inl enabled)
    | sendWithAllocate => exact Bool.or_eq_true_iff.mpr (.inr enabled)

theorem field_mem_tracedPairs {serviceType fieldName : String} :
    (⟨serviceType, fieldName, .field⟩, instanceSpecifier) ∈ config.tracedPairs ↔
      ∃ tracePointType : SkeletonFieldTracePointType, tracePointType.needsTraceDoneCb = true ∧
        config.isSkeletonFieldTracePointEnabled serviceType fieldName instanceSpecifier
          tracePointType = true := by
  constructor
  · intro traced
    rcases Bool.or_eq_true_iff.mp traced with enabled | enabled
    · exact ⟨.update, rfl, enabled⟩
    · exact ⟨.updateWithAllocate, rfl, enabled⟩
  · rintro ⟨tracePointType, needs, enabled⟩
    cases tracePointType with
    | update => exact Bool.or_eq_true_iff.mpr (.inl enabled)
    | updateWithAllocate => exact Bool.or_eq_true_iff.mpr (.inr enabled)
    | _ => cases needs

section

variable (sound : config.Sound) (isOrder : config.IterationOrder order)

include sound isOrder

/-- Whatever the order, the pairs of the entries are the traced ones. -/
theorem Sound.mem_pairs_countedEntries
    {pair : ServiceElementIdentifierView × InstanceSpecifierView} :
    pair ∈ pairs order.countedEntries ↔ pair ∈ config.tracedPairs := by
  have samePairs : order.countedEntries.Perm config.countedEntries :=
    (doneEntries_perm isOrder.skeletonEvents).append (doneEntries_perm isOrder.skeletonFields)
  have sameMembers : pair ∈ pairs order.countedEntries ↔ pair ∈ pairs config.countedEntries :=
    (samePairs.flatMap_right _).mem_iff
  rw [sameMembers, countedEntries, pairs_append, List.mem_append,
    sound.events.mem_pairs_doneEntries, sound.fields.mem_pairs_doneEntries]
  constructor
  · rintro (⟨tracePointType, needs, enabled⟩ | ⟨tracePointType, needs, enabled⟩)
    · have kind := sound.events.kind_of_enabled enabled
      obtain ⟨⟨serviceType, eventName, type⟩, instanceSpecifier⟩ := pair
      cases kind
      exact event_mem_tracedPairs.mpr ⟨tracePointType, needs, enabled⟩
    · have kind := sound.fields.kind_of_enabled enabled
      obtain ⟨⟨serviceType, fieldName, type⟩, instanceSpecifier⟩ := pair
      cases kind
      exact field_mem_tracedPairs.mpr ⟨tracePointType, needs, enabled⟩
  · intro traced
    obtain ⟨⟨serviceType, elementName, type⟩, instanceSpecifier⟩ := pair
    cases type with
    | event => exact .inl (event_mem_tracedPairs.mp traced)
    | field => exact .inr (field_mem_tracedPairs.mp traced)
    | invalid => cases traced
    | method => cases traced

/-- No instance comes twice in an entry. -/
theorem Sound.nodup_countedEntries : ∀ entry ∈ order.countedEntries, entry.2.Nodup := by
  intro entry member
  rcases List.mem_append.mp member with isEvent | isField
  · obtain ⟨_, _, isEntry⟩ := mem_doneEntries.mp isEvent
    exact sound.events.instances _ (isOrder.skeletonEvents.mem_iff.mp isEntry)
  · obtain ⟨_, _, isEntry⟩ := mem_doneEntries.mp isField
    exact sound.fields.instances _ (isOrder.skeletonFields.mem_iff.mp isEntry)

/-- The first entries are as many as the traced pairs exactly if they have them all. -/
theorem Sound.length_eq_iff :
    (pairs (firstEntries order.countedEntries [])).length = config.tracedPairs.ncard ↔
      ∀ pair ∈ config.tracedPairs, pair ∈ pairs (firstEntries order.countedEntries []) := by
  have samePairs : { pair | pair ∈ pairs order.countedEntries } = config.tracedPairs := by
    ext pair
    exact sound.mem_pairs_countedEntries isOrder
  rw [← samePairs]
  exact length_firstEntries_eq_iff (sound.nodup_countedEntries isOrder)

/-- If the number is right, an entry that comes first has all instances of its element. -/
theorem Sound.mem_of_counted
    (counts : order.getNumberOfServiceElementsWithTraceDoneCb = some config.tracedPairs.ncard)
    {before behind : List (ServiceElementIdentifierView × List InstanceSpecifierView)}
    {entry : ServiceElementIdentifierView × List InstanceSpecifierView}
    (split : order.countedEntries = before ++ entry :: behind)
    (noneBefore : ∀ other ∈ before, other.1 ≠ entry.1)
    (traced : (entry.1, instanceSpecifier) ∈ config.tracedPairs) :
    instanceSpecifier ∈ entry.2 := by
  rw [getNumberOfServiceElementsWithTraceDoneCb_eq] at counts
  split at counts
  · have all := (sound.length_eq_iff isOrder).mp (Option.some.inj counts)
    obtain ⟨first, isFirst, isKey, isInstance⟩ := mem_pairs.mp (all _ traced)
    have entryFirst : entry ∈ firstEntries order.countedEntries [] := by
      rw [split]
      exact mem_firstEntries_append List.not_mem_nil noneBefore
    have same := eq_of_mem_firstEntries isFirst entryFirst isKey
    rw [same] at isInstance
    exact isInstance
  · cases counts

end

end Counted

/-- The trace points of each event and of each field are evenly enabled. -/
structure EvenlyTraced (config : TracingFilterConfig) : Prop where
  events : EvenlyEnabled SkeletonEventTracePointType.needsTraceDoneCb
    config.isSkeletonEventTracePointEnabled
  fields : EvenlyEnabled SkeletonFieldTracePointType.needsTraceDoneCb
    config.isSkeletonFieldTracePointEnabled

/-- Then the counted entries of each element agree. -/
theorem Sound.agree {order : TracingFilterConfig} (sound : config.Sound)
    (evenly : config.EvenlyTraced) (isOrder : config.IterationOrder order) :
    Agree order.countedEntries := by
  have kinds : ∀ event ∈ doneEntries SkeletonEventTracePointType.needsTraceDoneCb
      order.skeletonEventTracePoints, ∀ field ∈
        doneEntries SkeletonFieldTracePointType.needsTraceDoneCb order.skeletonFieldTracePoints,
          event.1 ≠ field.1 := by
    intro event isEvent field isField same
    obtain ⟨_, _, isEventEntry⟩ := mem_doneEntries.mp isEvent
    obtain ⟨_, _, isFieldEntry⟩ := mem_doneEntries.mp isField
    have eventKind := sound.events.kind _ (isOrder.skeletonEvents.mem_iff.mp isEventEntry)
    have fieldKind := sound.fields.kind _ (isOrder.skeletonFields.mem_iff.mp isFieldEntry)
    rw [same] at eventKind
    cases eventKind.symm.trans fieldKind
  have events := sound.events.agree_of_evenlyEnabled isOrder.skeletonEvents evenly.events
  have fields := sound.fields.agree_of_evenlyEnabled isOrder.skeletonFields evenly.fields
  intro one isOne two isTwo sameElement value isValue
  rcases List.mem_append.mp isOne with oneEvent | oneField
  · rcases List.mem_append.mp isTwo with twoEvent | twoField
    · exact events one oneEvent two twoEvent sameElement value isValue
    · exact absurd sameElement (kinds one oneEvent two twoField)
  · rcases List.mem_append.mp isTwo with twoEvent | twoField
    · exact absurd sameElement.symm (kinds two twoEvent one oneField)
    · exact fields one oneField two twoField sameElement value isValue

/-- In every order of the maps the number is the one of the traced pairs, exactly if the
trace points of each element that need a callback are enabled for the same instances. -/
theorem Sound.counts_iff (sound : config.Sound)
    (few : config.tracedPairs.ncard < 2 ^ 16 - 1) :
    (∀ order, config.IterationOrder order →
      order.getNumberOfServiceElementsWithTraceDoneCb = some config.tracedPairs.ncard) ↔
        config.EvenlyTraced := by
  constructor
  · intro counts
    constructor
    · intro serviceType eventName one two needsOne needsTwo instanceSpecifier other isOne isTwo
      obtain ⟨⟨key, instances⟩, isEntry, isKey, _⟩ :=
        sound.events.isTracePointEnabledInMap_iff.mp isTwo
      cases isKey
      have isDone : (⟨serviceType, eventName, .event⟩, instances) ∈
          doneEntries SkeletonEventTracePointType.needsTraceDoneCb
            config.skeletonEventTracePoints :=
        mem_doneEntries.mpr ⟨two, needsTwo, isEntry⟩
      obtain ⟨events, samePairs, behind, isFirst⟩ := exists_order_first isDone
      -- the maps are gone through with this entry at first
      let order := { config with skeletonEventTracePoints := events }
      have isOrder : config.IterationOrder order := ⟨samePairs, .refl _, .refl _, .refl _⟩
      have split : order.countedEntries =
          [] ++ (⟨serviceType, eventName, .event⟩, instances) :: (behind ++
            doneEntries SkeletonFieldTracePointType.needsTraceDoneCb
              config.skeletonFieldTracePoints) := by
        rw [countedEntries, isFirst]
        rfl
      have isInstance := sound.mem_of_counted isOrder (counts order isOrder) split (by simp)
        (event_mem_tracedPairs.mpr ⟨one, needsOne, isOne⟩)
      exact sound.events.isTracePointEnabledInMap_iff.mpr ⟨_, isEntry, rfl, isInstance⟩
    · intro serviceType fieldName one two needsOne needsTwo instanceSpecifier other isOne isTwo
      obtain ⟨⟨key, instances⟩, isEntry, isKey, _⟩ :=
        sound.fields.isTracePointEnabledInMap_iff.mp isTwo
      cases isKey
      have isDone : (⟨serviceType, fieldName, .field⟩, instances) ∈
          doneEntries SkeletonFieldTracePointType.needsTraceDoneCb
            config.skeletonFieldTracePoints :=
        mem_doneEntries.mpr ⟨two, needsTwo, isEntry⟩
      obtain ⟨fields, samePairs, behind, isFirst⟩ := exists_order_first isDone
      let order := { config with skeletonFieldTracePoints := fields }
      have isOrder : config.IterationOrder order := ⟨.refl _, samePairs, .refl _, .refl _⟩
      have split : order.countedEntries = doneEntries SkeletonEventTracePointType.needsTraceDoneCb
              config.skeletonEventTracePoints ++
            (⟨serviceType, fieldName, .field⟩, instances) :: behind := by
        rw [countedEntries, isFirst]
      have isInstance := sound.mem_of_counted isOrder (counts order isOrder) split
        (by
          intro event isEvent same
          obtain ⟨_, _, isEventEntry⟩ := mem_doneEntries.mp isEvent
          have kind := sound.events.kind _ isEventEntry
          rw [same] at kind
          cases kind)
        (field_mem_tracedPairs.mpr ⟨one, needsOne, isOne⟩)
      exact sound.fields.isTracePointEnabledInMap_iff.mpr ⟨_, isEntry, rfl, isInstance⟩
  · intro evenly order isOrder
    have sameNumber := (sound.length_eq_iff isOrder).mpr fun pair traced =>
      pairs_firstEntries_of_agree (sound.agree evenly isOrder) pair
        ((sound.mem_pairs_countedEntries isOrder).mpr traced)
    rw [getNumberOfServiceElementsWithTraceDoneCb_eq, sameNumber, if_pos few]

/-- The calls return, and in every order of the maps the number is the one of the traced
pairs. -/
def CountsPairs (calls : List TracePointCall) : Prop :=
  ∃ config, ofCalls calls = some config ∧ ∀ order, config.IterationOrder order →
    order.getNumberOfServiceElementsWithTraceDoneCb = some config.tracedPairs.ncard

/-- There are no more traced pairs than there are in all entries. -/
theorem Sound.ncard_le (sound : config.Sound) :
    config.tracedPairs.ncard ≤ (pairs config.countedEntries).length := by
  have samePairs : config.tracedPairs = ↑(pairs config.countedEntries).toFinset := by
    ext pair
    rw [List.coe_toFinset, ← sound.mem_pairs_countedEntries ⟨.refl _, .refl _, .refl _, .refl _⟩]
    rfl
  rw [samePairs, Set.ncard_coe_finset]
  exact List.toFinset_card_le _

/-- `Send` is traced for one instance. -/
def sendCall : TracePointCall := .skeletonEvent "service" "event" "one" .send

/-- `Send` with a sample that was allocated is traced for another one. -/
def sendWithAllocateCall : TracePointCall :=
  .skeletonEvent "service" "event" "two" .sendWithAllocate

/-- The filter after the first call. -/
def sendFilter : TracingFilterConfig :=
  { empty with skeletonEventTracePoints := [(⟨⟨"service", "event", .event⟩, .send⟩, ["one"])] }

/-- The filter after both calls. -/
def bothFilter : TracingFilterConfig :=
  { empty with
    skeletonEventTracePoints := [(⟨⟨"service", "event", .event⟩, .send⟩, ["one"]),
        (⟨⟨"service", "event", .event⟩, .sendWithAllocate⟩, ["two"])] }

theorem ofCalls_sendCall : ofCalls [sendCall] = some sendFilter := by
  rfl

theorem ofCalls_both : ofCalls [sendCall, sendWithAllocateCall] = some bothFilter := by
  rfl

/-- One trace point of one event is enabled at all. -/
theorem evenlyTraced_sendFilter : sendFilter.EvenlyTraced := by
  have sound := sound_of_ofCalls ofCalls_sendCall
  constructor
  · intro serviceType eventName one two _ _ instanceSpecifier other isOne isTwo
    obtain ⟨first, isFirst, firstKey, _⟩ := sound.events.isTracePointEnabledInMap_iff.mp isOne
    obtain ⟨second, isSecond, secondKey, _⟩ := sound.events.isTracePointEnabledInMap_iff.mp isTwo
    rw [List.mem_singleton.mp isFirst] at firstKey
    rw [List.mem_singleton.mp isSecond] at secondKey
    cases firstKey
    cases secondKey
    exact isOne
  · intro serviceType fieldName one two _ _ instanceSpecifier other isOne
    cases isOne

end TracingFilterConfig

end MwCom.Tracing
