/-
Module: MwCom.ServiceDiscovery.KnownInstances
Purpose: What a search looks for, and the container of the instances that are known
  to be offered.
Trusted boundary: none
Main exports: EnrichedInstanceIdentifier, HandleType, KnownInstancesContainer,
  QualityAwareContainer
-/
import Mathlib.Data.Finset.Image
import Mathlib.Data.Finset.Lattice.Basic
import MwCom.ServiceDiscovery.FileSystem

namespace MwCom.ServiceDiscovery

open MwCom.Configuration (QualityType)

/-! ## Identifiers -/

/-- The parts of a configured identifier that discovery reads. -/
structure InstanceIdentifier where
  serviceId : LolaServiceId
  serviceInstanceId : Option InstanceId
  asilLevel : QualityType
deriving DecidableEq

/-- An identifier with an instance id and a quality of its own; an instance id that is
configured is not overwritten. -/
structure EnrichedInstanceIdentifier where
  instanceIdentifier : InstanceIdentifier
  instanceId : Option InstanceId
  qualityType : QualityType
  configured : ∀ id, instanceIdentifier.serviceInstanceId = some id → instanceId = some id
deriving DecidableEq

namespace EnrichedInstanceIdentifier

def ofInstanceIdentifier (identifier : InstanceIdentifier) : EnrichedInstanceIdentifier where
  instanceIdentifier := identifier
  instanceId := identifier.serviceInstanceId
  qualityType := identifier.asilLevel
  configured := fun _ isId => isId

/-- For an identifier without an instance id. -/
def withInstanceId (identifier : InstanceIdentifier) (instanceId : InstanceId)
    (unset : identifier.serviceInstanceId = none) : EnrichedInstanceIdentifier where
  instanceIdentifier := identifier
  instanceId := some instanceId
  qualityType := identifier.asilLevel
  configured := fun _ isId => nomatch unset.symm.trans isId

def withQualityType (identifier : EnrichedInstanceIdentifier) (qualityType : QualityType) :
    EnrichedInstanceIdentifier :=
  { identifier with qualityType := qualityType }

variable (identifier : EnrichedInstanceIdentifier)

def serviceId : LolaServiceId := identifier.instanceIdentifier.serviceId

def lolaServiceInstanceIdentifier : LolaServiceInstanceIdentifier :=
  ⟨identifier.serviceId, identifier.instanceId⟩

variable {identifier}

/-- Where no instance id is set, none is configured. -/
theorem unset_of_none (none : identifier.instanceId = none) :
    identifier.instanceIdentifier.serviceInstanceId = Option.none := by
  cases isSet : identifier.instanceIdentifier.serviceInstanceId with
  | none => rfl
  | some id =>
      have same := identifier.configured id isSet
      rw [none] at same
      cases same

end EnrichedInstanceIdentifier

structure HandleType where
  identifier : InstanceIdentifier
  instanceId : InstanceId
deriving DecidableEq

/-- The instance id that is given is used, whatever is configured. -/
def makeHandleType (identifier : InstanceIdentifier) (instanceId : InstanceId) : HandleType :=
  ⟨identifier, instanceId⟩

/-! ## Known instances -/

/-- The known instances of each service. -/
structure KnownInstancesContainer where
  knownInstances : LolaServiceId → Finset InstanceId

namespace KnownInstancesContainer

def empty : KnownInstancesContainer where
  knownInstances _ := ∅

variable (container : KnownInstancesContainer) (identifier : EnrichedInstanceIdentifier)

def insert : KnownInstancesContainer :=
  match identifier.instanceId with
  | some instanceId =>
      { knownInstances := Function.update container.knownInstances identifier.serviceId
          (Insert.insert instanceId (container.knownInstances identifier.serviceId)) }
  | none => container

def remove : KnownInstancesContainer :=
  match identifier.instanceId with
  | some instanceId =>
      { knownInstances := Function.update container.knownInstances identifier.serviceId
          ((container.knownInstances identifier.serviceId).erase instanceId) }
  | none => container

def getKnownHandles : Finset HandleType :=
  let known := container.knownInstances identifier.serviceId
  match identifier.instanceId with
  | some instanceId =>
      if instanceId ∈ known then {makeHandleType identifier.instanceIdentifier instanceId}
      else ∅
  | none => known.image (makeHandleType identifier.instanceIdentifier)

def merge (other : KnownInstancesContainer) : KnownInstancesContainer where
  knownInstances serviceId := container.knownInstances serviceId ∪ other.knownInstances serviceId

end KnownInstancesContainer

/-- One for each quality. -/
structure QualityAwareContainer (T : Type) where
  asilB : T
  asilQm : T

namespace QualityAwareContainer

variable {T : Type}

/-- `none`: the quality is not set. -/
def get (container : QualityAwareContainer T) : QualityType → Option T
  | .asilB => some container.asilB
  | .asilQm => some container.asilQm
  | .invalid => none

def map (container : QualityAwareContainer T) (f : T → T) : QualityAwareContainer T :=
  ⟨f container.asilB, f container.asilQm⟩

/-- Changes the one of a quality, if it is set. -/
def modify (container : QualityAwareContainer T) (f : T → T) : QualityType → QualityAwareContainer T
  | .asilB => { container with asilB := f container.asilB }
  | .asilQm => { container with asilQm := f container.asilQm }
  | .invalid => container

end QualityAwareContainer

abbrev KnownInstances := QualityAwareContainer KnownInstancesContainer

end MwCom.ServiceDiscovery
