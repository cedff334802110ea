/-
Module: MwCom.ServiceDiscovery.InstanceSets
Purpose: The container of known instances with its map of sets, and that it is a set of
  pairs of service and instance.
Trusted boundary: none
Main exports: KnownInstancesContainer, KnownInstancesContainer.instances, History,
  knownHandles_correct, sets_refined
-/
import Mathlib.Data.Set.Insert
import MwCom.Containers.UnorderedMap
import MwCom.Containers.UnorderedSet
import MwCom.ServiceDiscovery.KnownInstances

namespace MwCom.ServiceDiscovery.InstanceSets

open Containers

/-- The known instances of each service that was ever entered. -/
structure KnownInstancesContainer where
  knownInstances : UnorderedMap LolaServiceId (UnorderedSet InstanceId)
deriving DecidableEq

namespace KnownInstancesContainer

def empty : KnownInstancesContainer where
  knownInstances := .empty

variable (container other : KnownInstancesContainer) (identifier : EnrichedInstanceIdentifier)

/-- Whether the instance is new, and the container with it. -/
def insert : Bool × KnownInstancesContainer :=
  match identifier.instanceId with
  | some instanceId =>
      let instanceIds := UnorderedSet.singleton instanceId
      match container.knownInstances.find identifier.serviceId with
      | none => (true, ⟨container.knownInstances.assign identifier.serviceId instanceIds⟩)
      | some existingInstanceIds =>
          -- `emplace` leaves a service that is there as it is
          if instanceId ∈ existingInstanceIds then
            (false, container)
          else
            (true, ⟨container.knownInstances.assign identifier.serviceId
              (existingInstanceIds.merge instanceIds)⟩)
  | none => (false, container)

/-- A service stays when its last instance goes. -/
def remove : KnownInstancesContainer :=
  match identifier.instanceId with
  | some instanceId =>
      match container.knownInstances.find identifier.serviceId with
      | some instanceIds =>
          ⟨container.knownInstances.assign identifier.serviceId (instanceIds.erase instanceId)⟩
      | none => container
  | none => container

def getKnownHandles : List HandleType :=
  match container.knownInstances.find identifier.serviceId with
  | none => []
  | some knownServiceInstances =>
      match identifier.instanceId with
      | some instanceId =>
          if instanceId ∈ knownServiceInstances then
            [makeHandleType identifier.instanceIdentifier instanceId]
          else
            []
      | none =>
          knownServiceInstances.elements.map (makeHandleType identifier.instanceIdentifier)

/-- One pass of the loop of `merge`: a service of the other container moves over. -/
def mergeNode (node : LolaServiceId × UnorderedSet InstanceId) : KnownInstancesContainer :=
  match container.knownInstances.find node.1 with
  | none => ⟨container.knownInstances.assign node.1 node.2⟩
  | some base => ⟨container.knownInstances.assign node.1 (base.merge node.2)⟩

def merge : KnownInstancesContainer := other.knownInstances.entries.foldl mergeNode container

/-! ## The pairs in a container -/

/-- The pairs of service and instance that are known. -/
def instances : Set (LolaServiceId × InstanceId) :=
  { pair | ∃ instanceIds, container.knownInstances.find pair.1 = some instanceIds ∧
    pair.2 ∈ instanceIds }

variable {container other identifier}

variable {service : LolaServiceId} {instanceId : InstanceId}

theorem mem_instances : (service, instanceId) ∈ container.instances ↔
      ∃ instanceIds, container.knownInstances.find service = some instanceIds ∧
        instanceId ∈ instanceIds := Iff.rfl

theorem instances_empty : empty.instances = ∅ := by
  apply Set.eq_empty_of_forall_notMem
  rintro ⟨service, instanceId⟩ ⟨_, found, _⟩
  cases found

/-- Another set for one service. -/
theorem mem_instances_assign {sought : LolaServiceId} {instanceIds : UnorderedSet InstanceId} :
    (sought, instanceId) ∈ (KnownInstancesContainer.mk
          (container.knownInstances.assign service instanceIds)).instances ↔
      if sought = service then instanceId ∈ instanceIds
      else (sought, instanceId) ∈ container.instances := by
  rw [mem_instances]
  simp only [UnorderedMap.find_assign]
  by_cases same : sought = service
  · simp [same]
  · simp [same, mem_instances]

/-- The instances of a service that was never entered. -/
theorem not_mem_of_not_found (missing : container.knownInstances.find service = none) :
    (service, instanceId) ∉ container.instances := by
  rintro ⟨instanceIds, found, _⟩
  rw [missing] at found
  cases found

/-- The instances of one that was. -/
theorem mem_of_found {instanceIds : UnorderedSet InstanceId}
    (found : container.knownInstances.find service = some instanceIds) :
    (service, instanceId) ∈ container.instances ↔ instanceId ∈ instanceIds := by
  rw [mem_instances, found]
  simp

/-- Insert adds a pair, and tells whether it is new. -/
theorem instances_insert (isSet : identifier.instanceId = some instanceId) :
    (container.insert identifier).2.instances =
        Insert.insert (identifier.serviceId, instanceId) container.instances ∧
      ((container.insert identifier).1 = true ↔
        (identifier.serviceId, instanceId) ∉ container.instances) := by
  rw [insert, isSet]
  cases found : container.knownInstances.find identifier.serviceId with
  | none =>
      dsimp only
      refine ⟨?_, by simp [not_mem_of_not_found found]⟩
      ext ⟨service, sought⟩
      rw [mem_instances_assign, Set.mem_insert_iff, Prod.mk.injEq]
      by_cases same : service = identifier.serviceId
      · simp [same, not_mem_of_not_found found]
      · simp [same]
  | some existing =>
      dsimp only
      by_cases present : instanceId ∈ existing
      · rw [if_pos present]
        have known := (mem_of_found found).mpr present
        exact ⟨(Set.insert_eq_of_mem known).symm, by simp [known]⟩
      · rw [if_neg present]
        have unknown : (identifier.serviceId, instanceId) ∉ container.instances := by
          rw [mem_of_found found]
          exact present
        refine ⟨?_, by simp [unknown]⟩
        ext ⟨service, sought⟩
        rw [mem_instances_assign, Set.mem_insert_iff, Prod.mk.injEq, UnorderedSet.mem_merge,
          UnorderedSet.mem_singleton]
        by_cases same : service = identifier.serviceId
        · rw [if_pos same, same, mem_of_found found]
          simp [or_comm]
        · simp [same]

/-- Remove takes a pair away. -/
theorem instances_remove (isSet : identifier.instanceId = some instanceId) :
    (container.remove identifier).instances =
      container.instances \ {(identifier.serviceId, instanceId)} := by
  rw [remove, isSet]
  ext ⟨service, sought⟩
  rw [Set.mem_sdiff, Set.mem_singleton_iff, Prod.mk.injEq]
  cases found : container.knownInstances.find identifier.serviceId with
  | none =>
      dsimp only
      constructor
      · intro known
        refine ⟨known, ?_⟩
        rintro ⟨rfl, _⟩
        exact not_mem_of_not_found found known
      · exact And.left
  | some instanceIds =>
      dsimp only
      rw [mem_instances_assign, UnorderedSet.mem_erase]
      by_cases same : service = identifier.serviceId
      · rw [if_pos same, same, mem_of_found found]
        simp [and_comm]
      · simp [same]

/-- An identifier without an instance changes nothing. -/
theorem insert_of_none (unset : identifier.instanceId = none) :
    container.insert identifier = (false, container) := by
  rw [insert, unset]

theorem remove_of_none (unset : identifier.instanceId = none) :
    container.remove identifier = container := by
  rw [remove, unset]

theorem mem_instances_mergeNode {node : LolaServiceId × UnorderedSet InstanceId} :
    (service, instanceId) ∈ (container.mergeNode node).instances ↔
      (service, instanceId) ∈ container.instances ∨ (service = node.1 ∧ instanceId ∈ node.2) := by
  rw [mergeNode]
  cases found : container.knownInstances.find node.1 with
  | none =>
      dsimp only
      rw [mem_instances_assign]
      by_cases same : service = node.1
      · simp [same, not_mem_of_not_found found]
      · simp [same]
  | some base =>
      dsimp only
      rw [mem_instances_assign, UnorderedSet.mem_merge]
      by_cases same : service = node.1
      · rw [if_pos same, same, mem_of_found found]
        simp
      · simp [same]

/-- The loop moves over what is in the nodes. -/
theorem mem_instances_foldl {nodes : List (LolaServiceId × UnorderedSet InstanceId)} :
    (service, instanceId) ∈ (nodes.foldl mergeNode container).instances ↔
      (service, instanceId) ∈ container.instances ∨
        ∃ node ∈ nodes, service = node.1 ∧ instanceId ∈ node.2 := by
  induction nodes generalizing container with
  | nil => simp
  | cons first rest ih =>
      rw [List.foldl_cons, ih, mem_instances_mergeNode, or_assoc]
      simp only [List.exists_mem_cons_iff]

/-- Merge is set union. -/
theorem instances_merge :
    (container.merge other).instances = container.instances ∪ other.instances := by
  ext ⟨service, instanceId⟩
  rw [merge, mem_instances_foldl, Set.mem_union, mem_instances]
  apply or_congr_right
  constructor
  · rintro ⟨⟨_, instanceIds⟩, member, rfl, isMember⟩
    exact ⟨instanceIds, UnorderedMap.find_eq_some_iff.mpr member, isMember⟩
  · rintro ⟨instanceIds, found, isMember⟩
    exact ⟨(service, instanceIds), UnorderedMap.find_eq_some_iff.mp found, rfl, isMember⟩

/-! ## The known handles -/

/-- The pairs an identifier asks for: all of its service, or the one with its instance. -/
def AsksFor (identifier : EnrichedInstanceIdentifier) (pair : LolaServiceId × InstanceId) : Prop :=
  pair.1 = identifier.serviceId ∧
    (identifier.instanceId = none ∨ identifier.instanceId = some pair.2)

/-- The handles are those of the pairs that the identifier asks for. -/
theorem mem_getKnownHandles {handle : HandleType} : handle ∈ container.getKnownHandles identifier ↔
      ∃ pair ∈ container.instances, AsksFor identifier pair ∧
        handle = ⟨identifier.instanceIdentifier, pair.2⟩ := by
  have onePair : (∃ pair ∈ container.instances, AsksFor identifier pair ∧
        handle = ⟨identifier.instanceIdentifier, pair.2⟩) ↔
      ∃ instanceId, (identifier.serviceId, instanceId) ∈ container.instances ∧
        (identifier.instanceId = none ∨ identifier.instanceId = some instanceId) ∧
        handle = ⟨identifier.instanceIdentifier, instanceId⟩ := by
    constructor
    · rintro ⟨⟨_, instanceId⟩, known, ⟨rfl, asked⟩, isHandle⟩
      exact ⟨instanceId, known, asked, isHandle⟩
    · rintro ⟨instanceId, known, asked, isHandle⟩
      exact ⟨_, known, ⟨rfl, asked⟩, isHandle⟩
  rw [onePair, getKnownHandles]
  cases found : container.knownInstances.find identifier.serviceId with
  | none => simp [not_mem_of_not_found found]
  | some known =>
      dsimp only
      cases isSet : identifier.instanceId with
      | none =>
          simp only [List.mem_map, mem_of_found found, makeHandleType, true_or, true_and,
            UnorderedSet.mem_iff, eq_comm]
      | some instanceId =>
          dsimp only
          split
          · rename_i present
            simp [mem_of_found found, makeHandleType, present]
          · rename_i absent
            simp [mem_of_found found, absent]

/-- No handle is there twice. -/
theorem nodup_getKnownHandles : (container.getKnownHandles identifier).Nodup := by
  rw [getKnownHandles]
  cases container.knownInstances.find identifier.serviceId with
  | none => exact List.nodup_nil
  | some known =>
      dsimp only
      cases identifier.instanceId with
      | none =>
          apply known.unique.map
          intro first second same
          simpa [makeHandleType] using same
      | some instanceId =>
          dsimp only
          split
          · exact List.nodup_singleton _
          · exact List.nodup_nil

/-- At most one, where an instance is asked for. -/
theorem length_getKnownHandles (specific : identifier.instanceId ≠ none) :
    (container.getKnownHandles identifier).length ≤ 1 := by
  rw [getKnownHandles]
  cases container.knownInstances.find identifier.serviceId with
  | none => exact Nat.zero_le 1
  | some known =>
      dsimp only
      cases isSet : identifier.instanceId with
      | none => exact absurd isSet specific
      | some instanceId =>
          dsimp only
          split
          · exact Nat.le_refl 1
          · exact Nat.zero_le 1

/-- Containers that agree on what is asked for answer with the same handles. -/
theorem getKnownHandles_perm
    (same : ∀ pair, AsksFor identifier pair → (pair ∈ container.instances ↔ pair ∈ other.instances)) :
    (container.getKnownHandles identifier).Perm (other.getKnownHandles identifier) := by
  apply (List.perm_ext_iff_of_nodup nodup_getKnownHandles nodup_getKnownHandles).mpr
  intro handle
  rw [mem_getKnownHandles, mem_getKnownHandles]
  constructor
  · rintro ⟨pair, known, asked, isHandle⟩
    exact ⟨pair, (same pair asked).mp known, asked, isHandle⟩
  · rintro ⟨pair, known, asked, isHandle⟩
    exact ⟨pair, (same pair asked).mpr known, asked, isHandle⟩

/-! ## The sets the client works with -/

/-- The set of instances of each service. -/
def abstraction (container : KnownInstancesContainer) :
    ServiceDiscovery.KnownInstancesContainer where
  knownInstances service :=
    match container.knownInstances.find service with
    | some instanceIds => instanceIds.elements.toFinset
    | none => ∅

theorem mem_abstraction : instanceId ∈ container.abstraction.knownInstances service ↔
      (service, instanceId) ∈ container.instances := by
  rw [abstraction, mem_instances]
  dsimp only
  cases container.knownInstances.find service with
  | none => simp
  | some instanceIds => simp [UnorderedSet.mem_iff]

/-- A container of sets is given by its pairs. -/
theorem abstraction_eq {sets : ServiceDiscovery.KnownInstancesContainer}
    (same : ∀ service instanceId, (service, instanceId) ∈ container.instances ↔
      instanceId ∈ sets.knownInstances service) : container.abstraction = sets := by
  have sameSets : container.abstraction.knownInstances = sets.knownInstances := by
    funext service
    ext instanceId
    exact mem_abstraction.trans (same service instanceId)
  exact congrArg ServiceDiscovery.KnownInstancesContainer.mk sameSets

theorem abstraction_insert :
    (container.insert identifier).2.abstraction = container.abstraction.insert identifier := by
  apply abstraction_eq
  intro service instanceId
  rw [ServiceDiscovery.KnownInstancesContainer.insert]
  cases isSet : identifier.instanceId with
  | none => rw [insert_of_none isSet, mem_abstraction]
  | some inserted =>
      dsimp only
      rw [(instances_insert isSet).1, Set.mem_insert_iff, Prod.mk.injEq, Function.update_apply]
      by_cases sameService : service = identifier.serviceId
      · rw [if_pos sameService, Finset.mem_insert, mem_abstraction, sameService]
        simp
      · rw [if_neg sameService, mem_abstraction]
        simp [sameService]

theorem abstraction_remove :
    (container.remove identifier).abstraction = container.abstraction.remove identifier := by
  apply abstraction_eq
  intro service instanceId
  rw [ServiceDiscovery.KnownInstancesContainer.remove]
  cases isSet : identifier.instanceId with
  | none => rw [remove_of_none isSet, mem_abstraction]
  | some removed =>
      dsimp only
      rw [instances_remove isSet, Set.mem_sdiff, Set.mem_singleton_iff, Prod.mk.injEq,
        Function.update_apply]
      by_cases sameService : service = identifier.serviceId
      · rw [if_pos sameService, Finset.mem_erase, mem_abstraction, sameService]
        simp [and_comm]
      · rw [if_neg sameService, mem_abstraction]
        simp [sameService]

theorem abstraction_merge :
    (container.merge other).abstraction = container.abstraction.merge other.abstraction := by
  apply abstraction_eq
  intro service instanceId
  rw [instances_merge, Set.mem_union, ServiceDiscovery.KnownInstancesContainer.merge,
    Finset.mem_union, mem_abstraction, mem_abstraction]

/-- The client's handles are those of the list. -/
theorem toFinset_getKnownHandles : (container.getKnownHandles identifier).toFinset =
      container.abstraction.getKnownHandles identifier := by
  have sameKnown : ∀ known, container.knownInstances.find identifier.serviceId = some known →
      container.abstraction.knownInstances identifier.serviceId = known.elements.toFinset := by
    intro known found
    rw [abstraction]
    simp only [found]
  rw [getKnownHandles, ServiceDiscovery.KnownInstancesContainer.getKnownHandles]
  cases found : container.knownInstances.find identifier.serviceId with
  | none =>
      have nothing : container.abstraction.knownInstances identifier.serviceId = ∅ := by
        rw [abstraction]
        simp only [found]
      rw [nothing]
      cases identifier.instanceId with
      | none => rfl
      | some instanceId => rfl
  | some known =>
      rw [sameKnown known found]
      cases identifier.instanceId with
      | none =>
          ext handle
          simp only [List.mem_toFinset, List.mem_map, Finset.mem_image]
      | some instanceId =>
          dsimp only
          by_cases present : instanceId ∈ known
          · rw [if_pos present, if_pos (List.mem_toFinset.mpr present)]
            rfl
          · have absent : instanceId ∉ known.elements.toFinset := by
              rw [List.mem_toFinset]
              exact present
            rw [if_neg present, if_neg absent]
            rfl

end KnownInstancesContainer

/-! ## Sequences of changes -/

/-- How a container came about. -/
inductive History where
  | empty
  | insert (history : History) (identifier : EnrichedInstanceIdentifier)
  | remove (history : History) (identifier : EnrichedInstanceIdentifier)
  | merge (history other : History)

namespace History

open InstanceSets.KnownInstancesContainer (AsksFor)

/-- What the code builds. -/
def container : History → KnownInstancesContainer
  | .empty => .empty
  | .insert history identifier => (history.container.insert identifier).2
  | .remove history identifier => history.container.remove identifier
  | .merge history other => history.container.merge other.container

/-- The pairs that were inserted and not removed since. -/
def instances : History → Set (LolaServiceId × InstanceId)
  | .empty => ∅
  | .insert history identifier =>
      match identifier.instanceId with
      | some instanceId => Insert.insert (identifier.serviceId, instanceId) history.instances
      | none => history.instances
  | .remove history identifier =>
      match identifier.instanceId with
      | some instanceId => history.instances \ {(identifier.serviceId, instanceId)}
      | none => history.instances
  | .merge history other => history.instances ∪ other.instances

/-- The code builds a container of these pairs. -/
theorem instances_container (history : History) :
    history.container.instances = history.instances := by
  induction history with
  | empty => exact KnownInstancesContainer.instances_empty
  | insert history identifier ih =>
      rw [container, instances]
      cases isSet : identifier.instanceId with
      | none => rw [KnownInstancesContainer.insert_of_none isSet, ih]
      | some instanceId =>
          rw [(KnownInstancesContainer.instances_insert isSet).1, ih]
  | remove history identifier ih =>
      rw [container, instances]
      cases isSet : identifier.instanceId with
      | none => rw [KnownInstancesContainer.remove_of_none isSet, ih]
      | some instanceId =>
          rw [KnownInstancesContainer.instances_remove isSet, ih]
  | merge history other ih otherHypothesis =>
      rw [container, instances, KnownInstancesContainer.instances_merge, ih, otherHypothesis]

/-- The answers after a sequence of changes are those of a set of pairs. -/
structure AnswersAsSet (history : History) (identifier : EnrichedInstanceIdentifier) : Prop where
  /-- The pairs that are asked for, each once. -/
  nodup : (history.container.getKnownHandles identifier).Nodup
  handles : ∀ handle, handle ∈ history.container.getKnownHandles identifier ↔
    ∃ pair ∈ history.instances, AsksFor identifier pair ∧
      handle = ⟨identifier.instanceIdentifier, pair.2⟩
  atMostOne : identifier.instanceId ≠ none →
    (history.container.getKnownHandles identifier).length ≤ 1
  /-- Insert tells whether the pair is new. -/
  inserted : ∀ other instanceId, other.instanceId = some instanceId →
    ((history.container.insert other).1 = true ↔ (other.serviceId, instanceId) ∉ history.instances)
  /-- What is not asked for does not change the answer. -/
  insertOther : ∀ other, (∀ instanceId, other.instanceId = some instanceId →
      ¬ AsksFor identifier (other.serviceId, instanceId)) →
    ((history.insert other).container.getKnownHandles identifier).Perm
      (history.container.getKnownHandles identifier)
  removeOther : ∀ other, (∀ instanceId, other.instanceId = some instanceId →
      ¬ AsksFor identifier (other.serviceId, instanceId)) →
    ((history.remove other).container.getKnownHandles identifier).Perm
      (history.container.getKnownHandles identifier)
  mergeOther : ∀ other, (∀ pair ∈ other.instances, ¬ AsksFor identifier pair) →
    ((history.merge other).container.getKnownHandles identifier).Perm
      (history.container.getKnownHandles identifier)

/-- After every sequence of inserts, removals and merges the container answers as the set of
the pairs that were inserted and not removed. -/
theorem knownHandles_correct (history : History) (identifier : EnrichedInstanceIdentifier) :
    AnswersAsSet history identifier where
  nodup := KnownInstancesContainer.nodup_getKnownHandles
  handles := by
    intro handle
    rw [KnownInstancesContainer.mem_getKnownHandles, instances_container]
  atMostOne := KnownInstancesContainer.length_getKnownHandles
  inserted := by
    intro other instanceId isSet
    rw [(KnownInstancesContainer.instances_insert isSet).2, instances_container]
  insertOther := by
    intro other notAsked
    apply KnownInstancesContainer.getKnownHandles_perm
    intro pair asked
    rw [instances_container, instances_container, instances]
    cases isSet : other.instanceId with
    | none => exact Iff.rfl
    | some instanceId =>
        rw [Set.mem_insert_iff]
        constructor
        · rintro (rfl | known)
          · exact absurd asked (notAsked instanceId isSet)
          · exact known
        · exact .inr
  removeOther := by
    intro other notAsked
    apply KnownInstancesContainer.getKnownHandles_perm
    intro pair asked
    rw [instances_container, instances_container, instances]
    cases isSet : other.instanceId with
    | none => exact Iff.rfl
    | some instanceId =>
        rw [Set.mem_sdiff, Set.mem_singleton_iff]
        constructor
        · exact And.left
        · intro known
          refine ⟨known, ?_⟩
          rintro rfl
          exact notAsked instanceId isSet asked
  mergeOther := by
    intro other notAsked
    apply KnownInstancesContainer.getKnownHandles_perm
    intro pair asked
    rw [instances_container, instances_container, instances, Set.mem_union]
    constructor
    · rintro (known | merged)
      · exact known
      · exact absurd asked (notAsked pair merged)
    · exact .inl

/-- The sets the client works with after the same changes. -/
def sets : History → ServiceDiscovery.KnownInstancesContainer
  | .empty => .empty
  | .insert history identifier => history.sets.insert identifier
  | .remove history identifier => history.sets.remove identifier
  | .merge history other => history.sets.merge other.sets

/-- The sets are those of the code's container, and answer with its handles. -/
theorem sets_refined (history : History) (identifier : EnrichedInstanceIdentifier) :
    history.container.abstraction = history.sets ∧
      (history.container.getKnownHandles identifier).toFinset =
        history.sets.getKnownHandles identifier := by
  have same : history.container.abstraction = history.sets := by
    induction history with
    | empty => rfl
    | insert history other ih =>
        rw [container, sets, KnownInstancesContainer.abstraction_insert, ih]
    | remove history other ih =>
        rw [container, sets, KnownInstancesContainer.abstraction_remove, ih]
    | merge history other ih otherHypothesis =>
        rw [container, sets, KnownInstancesContainer.abstraction_merge, ih, otherHypothesis]
  rw [← same]
  exact ⟨rfl, KnownInstancesContainer.toFinset_getKnownHandles⟩

end History

end MwCom.ServiceDiscovery.InstanceSets
