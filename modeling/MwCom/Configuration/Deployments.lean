/-
Module: MwCom.Configuration.Deployments
Purpose: What identifies a service instance, the deployment it is configured
  with, and the comparisons of both.
Trusted boundary: characters of a string compare as their code points.
Main exports: ServiceInstanceDeployment, InstanceIdentifier, HandleType, their
  equal and less, makeHandleType
-/
import Mathlib.Data.List.Infix
import Mathlib.Data.Prod.Lex
import Mathlib.Data.String.Basic
import MwCom.Containers.UnorderedMap

namespace MwCom.Configuration

open Containers

/-! ## Identification -/

inductive QualityType where
  | invalid
  | asilQm
  | asilB
deriving DecidableEq

def QualityType.toNat : QualityType → Nat
  | .invalid => 0
  | .asilQm => 1
  | .asilB => 2

structure ServiceVersionType where
  major : BitVec 32
  minor : BitVec 32
deriving DecidableEq

def ServiceVersionType.Less (lhs rhs : ServiceVersionType) : Prop :=
  if lhs.major = rhs.major then lhs.minor < rhs.minor else lhs.major < rhs.major

instance (lhs rhs : ServiceVersionType) : Decidable (lhs.Less rhs) :=
  inferInstanceAs (Decidable (ite _ _ _))

structure ServiceIdentifierType where
  serviceTypeName : String
  version : ServiceVersionType
deriving DecidableEq

def ServiceIdentifierType.Less (lhs rhs : ServiceIdentifierType) : Prop :=
  if lhs.serviceTypeName = rhs.serviceTypeName then lhs.version.Less rhs.version
  else lhs.serviceTypeName < rhs.serviceTypeName

instance (lhs rhs : ServiceIdentifierType) : Decidable (lhs.Less rhs) :=
  inferInstanceAs (Decidable (ite _ _ _))

structure LolaServiceInstanceId where
  id : BitVec 16
deriving DecidableEq

structure SomeIpServiceInstanceId where
  id : BitVec 16
deriving DecidableEq

/-- A variant over the bindings. -/
inductive ServiceInstanceId where
  | lola (id : LolaServiceInstanceId)
  | someIp (id : SomeIpServiceInstanceId)
  | blank
deriving DecidableEq

namespace ServiceInstanceId

/-- A blank left side equals everything. -/
def Equal : (lhs rhs : ServiceInstanceId) → Prop
  | .lola lhs, .lola rhs => lhs = rhs
  | .lola _, _ => False
  | .someIp lhs, .someIp rhs => lhs = rhs
  | .someIp _, _ => False
  | .blank, _ => True

/-- A blank left side is less than everything. -/
def Less : (lhs rhs : ServiceInstanceId) → Prop
  | .lola lhs, .lola rhs => lhs.id < rhs.id
  | .lola _, _ => False
  | .someIp lhs, .someIp rhs => lhs.id < rhs.id
  | .someIp _, _ => False
  | .blank, _ => True

instance (lhs rhs : ServiceInstanceId) : Decidable (lhs.Equal rhs) := by
  unfold Equal
  split <;> exact inferInstance

instance (lhs rhs : ServiceInstanceId) : Decidable (lhs.Less rhs) := by
  unfold Less
  split <;> exact inferInstance

end ServiceInstanceId

/-! ## Deployment -/

structure LolaEventInstanceDeployment where
  maxSubscribers : Option (BitVec 8)
  maxConcurrentAllocations : Option (BitVec 8)
  enforceMaxSamples : Option Bool
  numberOfSampleSlots : Option (BitVec 16)
  isTracingEnabled : Bool
deriving DecidableEq

abbrev LolaFieldInstanceDeployment := LolaEventInstanceDeployment

structure LolaServiceInstanceDeployment where
  instanceId : Option LolaServiceInstanceId
  sharedMemorySize : Option (BitVec 64)
  events : UnorderedMap String LolaEventInstanceDeployment
  fields : UnorderedMap String LolaFieldInstanceDeployment
  strictPermissions : Bool
  allowedConsumer : UnorderedMap QualityType (List (BitVec 32))
  allowedProvider : UnorderedMap QualityType (List (BitVec 32))
deriving DecidableEq

/-- Nothing is configured for an event of this binding. -/
structure SomeIpEventInstanceDeployment where
deriving DecidableEq

abbrev SomeIpFieldInstanceDeployment := SomeIpEventInstanceDeployment

structure SomeIpServiceInstanceDeployment where
  instanceId : Option SomeIpServiceInstanceId
  events : UnorderedMap String SomeIpEventInstanceDeployment
  fields : UnorderedMap String SomeIpFieldInstanceDeployment
deriving DecidableEq

inductive BindingInformation where
  | lola (deployment : LolaServiceInstanceDeployment)
  | someIp (deployment : SomeIpServiceInstanceDeployment)
  | blank
deriving DecidableEq

namespace BindingInformation

/-- `==` of the variant: deployments of a binding are compared by their instance
ids alone. -/
def Equal : (lhs rhs : BindingInformation) → Prop
  | .lola lhs, .lola rhs => lhs.instanceId = rhs.instanceId
  | .someIp lhs, .someIp rhs => lhs.instanceId = rhs.instanceId
  | .blank, .blank => True
  | _, _ => False

/-- No id is less than any id. -/
def optionalLess : (lhs rhs : Option LolaServiceInstanceId) → Prop
  | none, some _ => True
  | some lhs, some rhs => lhs.id < rhs.id
  | _, none => False

/-- The `bindingLess` that `operator<` of a deployment computes. -/
def Less : (lhs rhs : BindingInformation) → Prop
  | .lola lhs, .lola rhs => optionalLess lhs.instanceId rhs.instanceId
  | .someIp lhs, .someIp rhs => lhs.instanceId = rhs.instanceId
  | _, _ => False

instance (lhs rhs : BindingInformation) : Decidable (lhs.Equal rhs) := by
  unfold Equal
  split <;> exact inferInstance

instance (lhs rhs : Option LolaServiceInstanceId) : Decidable (optionalLess lhs rhs) := by
  unfold optionalLess
  split <;> exact inferInstance

instance (lhs rhs : BindingInformation) : Decidable (lhs.Less rhs) := by
  unfold Less
  split <;> exact inferInstance

end BindingInformation

/-- What code that takes a C string sees of a text: nothing from a NUL on. -/
def cString (text : String) : List Char := text.toList.takeWhile (· ≠ Char.ofNat 0)

/-- Letters, underscores and slashes, and digits behind the first character; no
slash at the end and no two in a row. -/
def isShortNameValid (shortname : String) : Bool :=
  let path := cString shortname
  let startsName (character : Char) := character.isAlpha || character ∈ ['_', '/']
  let allCharactersValid :=
    match path with
    | [] => false
    | first :: rest =>
        startsName first && rest.all fun character => startsName character || character.isDigit
  allCharactersValid && path.getLast? ≠ some '/' && ¬ ['/', '/'] <:+: path

/-- The path of a port in the model of an application. -/
structure InstanceSpecifier where
  instanceSpecifierString : String
  valid : isShortNameValid instanceSpecifierString = true
deriving DecidableEq

/-- The name of a port in an application. -/
theorem isShortNameValid_port : isShortNameValid "abc/port" = true := by
  decide +kernel

namespace InstanceSpecifier

def create (shortnamePath : String) : Option InstanceSpecifier :=
  if valid : isShortNameValid shortnamePath = true then some ⟨shortnamePath, valid⟩
  else none

/-- What a specifier is made of makes it again. -/
theorem create_instanceSpecifierString (specifier : InstanceSpecifier) :
    create specifier.instanceSpecifierString = some specifier :=
  dif_pos specifier.valid

end InstanceSpecifier

structure ServiceInstanceDeployment where
  service : ServiceIdentifierType
  bindingInfo : BindingInformation
  asilLevel : QualityType
  instanceSpecifier : InstanceSpecifier
deriving DecidableEq

namespace ServiceInstanceDeployment

def Equal (lhs rhs : ServiceInstanceDeployment) : Prop :=
  lhs.asilLevel = rhs.asilLevel ∧ lhs.bindingInfo.Equal rhs.bindingInfo

def Less (lhs rhs : ServiceInstanceDeployment) : Prop :=
  lhs.asilLevel.toNat < rhs.asilLevel.toNat ∧ lhs.bindingInfo.Less rhs.bindingInfo

instance (lhs rhs : ServiceInstanceDeployment) : Decidable (lhs.Equal rhs) :=
  inferInstanceAs (Decidable (_ ∧ _))

instance (lhs rhs : ServiceInstanceDeployment) : Decidable (lhs.Less rhs) :=
  inferInstanceAs (Decidable (_ ∧ _))

end ServiceInstanceDeployment

structure LolaServiceTypeDeployment where
  serviceId : BitVec 16
  events : UnorderedMap String (BitVec 8)
  fields : UnorderedMap String (BitVec 8)
deriving DecidableEq

inductive ServiceTypeDeployment where
  | lola (deployment : LolaServiceTypeDeployment)
  | blank
deriving DecidableEq

/-! ## Identifiers and handles -/

/-- The two deployments that an identifier points to. -/
structure InstanceIdentifier where
  instanceDeployment : ServiceInstanceDeployment
  typeDeployment : ServiceTypeDeployment
deriving DecidableEq

namespace InstanceIdentifier

def Equal (lhs rhs : InstanceIdentifier) : Prop :=
  lhs.instanceDeployment.service = rhs.instanceDeployment.service ∧
    lhs.instanceDeployment.Equal rhs.instanceDeployment

def Less (lhs rhs : InstanceIdentifier) : Prop :=
  lhs.instanceDeployment.service.Less rhs.instanceDeployment.service ∨
    lhs.instanceDeployment.Less rhs.instanceDeployment

instance (lhs rhs : InstanceIdentifier) : Decidable (lhs.Equal rhs) :=
  inferInstanceAs (Decidable (_ ∧ _))

instance (lhs rhs : InstanceIdentifier) : Decidable (lhs.Less rhs) :=
  inferInstanceAs (Decidable (_ ∨ _))

/-- `GetServiceInstanceId` of a view on the identifier. -/
def serviceInstanceId (identifier : InstanceIdentifier) : Option ServiceInstanceId :=
  match identifier.instanceDeployment.bindingInfo with
  | .lola deployment => deployment.instanceId.map .lola
  | .someIp deployment => deployment.instanceId.map .someIp
  | .blank => none

end InstanceIdentifier

structure HandleType where
  identifier : InstanceIdentifier
  instanceId : ServiceInstanceId
deriving DecidableEq

/-- `none`: no instance id is given or configured, the process ends. -/
def makeHandleType (identifier : InstanceIdentifier)
    (instanceId : Option ServiceInstanceId) : Option HandleType := do
  let instanceId ← instanceId <|> identifier.serviceInstanceId
  pure { identifier, instanceId }

namespace HandleType

def Equal (lhs rhs : HandleType) : Prop :=
  lhs.identifier.Equal rhs.identifier ∧ lhs.instanceId.Equal rhs.instanceId

def Less (lhs rhs : HandleType) : Prop :=
  lhs.identifier.Less rhs.identifier ∨ lhs.instanceId.Less rhs.instanceId

instance (lhs rhs : HandleType) : Decidable (lhs.Equal rhs) := inferInstanceAs (Decidable (_ ∧ _))

instance (lhs rhs : HandleType) : Decidable (lhs.Less rhs) := inferInstanceAs (Decidable (_ ∨ _))

end HandleType

end MwCom.Configuration
