/-
Module: MwCom.Configuration.AccessControl
Purpose: Who may open the control objects of the configured service instances, and who
  may send to the receivers of the process that offers them.
Trusted boundary: the operating system grants a user what the permissions of a shared-memory
  object list for that user.
Main exports: createSharedMemoryForControl, getMessagePassingCfg, ioOpen, AccessAgreement,
  accessAgreement_iff
-/
import Mathlib.Data.Finset.Sort
import MwCom.Configuration.ConfigParser
import MwCom.Containers.Wildcards

namespace MwCom.Configuration

open Containers

namespace AccessControl

/-! ## Control objects -/

inductive Permission where
  | read
  | write
deriving DecidableEq

abbrev UserPermissionsMap := UnorderedMap Permission (List (BitVec 32))

def UserPermissionsMap.pushBack (permissions : UserPermissionsMap) (permission : Permission)
    (user : BitVec 32) : UserPermissionsMap :=
  permissions.assign permission ((permissions.find permission).getD [] ++ [user])

/-- A variant over the ways to create a shared-memory object. -/
inductive ObjectPermissions where
  | worldWritable
  | userPermissions (permissions : UserPermissionsMap)
deriving DecidableEq

/-- Whoever may read and write opens the object. -/
def ObjectPermissions.admits (user : BitVec 32) : ObjectPermissions → Bool
  | .worldWritable => true
  | .userPermissions permissions =>
      decide (user ∈ (permissions.find .read).getD []) &&
        decide (user ∈ (permissions.find .write).getD [])

def consumerPermissions (instance' : LolaServiceInstanceDeployment) (asilLevel : QualityType) :
    UserPermissionsMap :=
  match instance'.allowedConsumer.find asilLevel with
  | none => .empty
  | some users =>
      users.foldl
        (fun permissions user => (permissions.pushBack .read user).pushBack .write user) .empty

/-- `none`: the instance has no id, and the process ends. -/
def createSharedMemoryForControl (instance' : LolaServiceInstanceDeployment)
    (asilLevel : QualityType) : Option ObjectPermissions := do
  let _ ← instance'.instanceId
  let permissions := consumerPermissions instance' asilLevel
  if permissions.entries.isEmpty && instance'.strictPermissions = false then
    pure .worldWritable
  else
    pure (.userPermissions permissions)

def hasAsilBSupport (deployment : ServiceInstanceDeployment) : Bool :=
  decide (deployment.asilLevel = .asilB)

/-- What a skeleton of the instance creates for a level, if anything. -/
def controlObject (deployment : ServiceInstanceDeployment) (asilLevel : QualityType) :
    Option ObjectPermissions :=
  match deployment.bindingInfo, asilLevel with
  | .lola instance', .asilQm => createSharedMemoryForControl instance' .asilQm
  | .lola instance', .asilB =>
      if hasAsilBSupport deployment then createSharedMemoryForControl instance' .asilB else none
  | _, _ => none

/-! ## Receivers -/

structure AsilSpecificCfg where
  messageQueueRxSize : BitVec 32
  allowedUserIds : List (BitVec 32)
deriving DecidableEq

/-- With the users, whether everybody is allowed. -/
def aggregateAllowedUsers (aggregated : Finset (BitVec 32))
    (allowedUserIds : UnorderedMap QualityType (List (BitVec 32))) (asilLevel : QualityType) :
    Finset (BitVec 32) × Bool :=
  match allowedUserIds.find asilLevel with
  | none => (aggregated, false)
  | some userIds =>
      if userIds.isEmpty then
        (∅, true)
      else
        (userIds.foldl (fun aggregated user => insert user aggregated) aggregated, false)

def aggregateInstances (asilLevel : QualityType) :
    List ServiceInstanceDeployment → Finset (BitVec 32) → Finset (BitVec 32)
  | [], aggregated => aggregated
  | deployment :: rest, aggregated =>
      match deployment.bindingInfo with
      | .lola instance' =>
          match aggregateAllowedUsers aggregated instance'.allowedConsumer asilLevel with
          | (aggregated, true) => aggregated
          | (aggregated, false) =>
              match aggregateAllowedUsers aggregated instance'.allowedProvider asilLevel with
              | (aggregated, true) => aggregated
              | (aggregated, false) => aggregateInstances asilLevel rest aggregated
      | _ => aggregateInstances asilLevel rest aggregated

/-- `none`: the level is no level, and the process ends. -/
def getReceiverMessageQueueSize (configuration : GlobalConfiguration) :
    QualityType → Option (BitVec 32)
  | .invalid => none
  | .asilQm => some configuration.messageRxQueueSizeQm
  | .asilB => some configuration.messageRxQueueSizeB

namespace Runtime

variable (configuration : Configuration)

def hasAsilBSupport : Bool := decide (configuration.globalConfiguration.processAsilLevel = .asilB)

/-- `none`: the process has no receiver for the level, and it ends. -/
def getMessagePassingCfg (asilLevel : QualityType) : Option AsilSpecificCfg := do
  guard (asilLevel = .asilB ∨ asilLevel = .asilQm)
  guard ¬(hasAsilBSupport configuration = false ∧ asilLevel = .asilB)
  let instances := configuration.serviceInstances.entries.map Prod.snd
  let aggregated := aggregateInstances asilLevel instances ∅
  let messageQueueRxSize ←
    getReceiverMessageQueueSize configuration.globalConfiguration asilLevel
  pure { messageQueueRxSize, allowedUserIds := aggregated.sort (· ≤ ·) }

end Runtime

/-- Whether opening the receiver with these user ids passes its check. -/
def ioOpen (allowedUids : List (BitVec 32)) (theirUid : BitVec 32) : Bool :=
  if allowedUids.isEmpty then true else decide (theirUid ∈ allowedUids)

/-! ## Whom a control object admits -/

section ControlObject

variable {permissions : UserPermissionsMap} {permission : Permission} {user : BitVec 32}
  {users : List (BitVec 32)} {instance' : LolaServiceInstanceDeployment}
  {deployment : ServiceInstanceDeployment} {asilLevel : QualityType}
  {object : ObjectPermissions}

theorem find_pushBack (sought : Permission) :
    ((permissions.pushBack permission user).find sought).getD [] =
      (permissions.find sought).getD [] ++ if sought = permission then [user] else [] := by
  unfold UserPermissionsMap.pushBack
  rw [UnorderedMap.find_assign]
  by_cases same : sought = permission
  · simp [same]
  · simp [same]

/-- Each user gets both permissions. -/
theorem find_foldl_pushBack (users : List (BitVec 32)) (permissions : UserPermissionsMap)
    (sought : Permission) :
    ((users.foldl (fun permissions user => (permissions.pushBack .read user).pushBack .write user)
      permissions).find sought).getD [] = (permissions.find sought).getD [] ++ users := by
  induction users generalizing permissions with
  | nil => simp
  | cons first others ih =>
      rw [List.foldl_cons, ih, find_pushBack, find_pushBack]
      cases sought
      · simp
      · simp

theorem find_consumerPermissions (instance' : LolaServiceInstanceDeployment)
    (asilLevel : QualityType) (sought : Permission) :
    ((consumerPermissions instance' asilLevel).find sought).getD [] =
      (instance'.allowedConsumer.find asilLevel).getD [] := by
  unfold consumerPermissions
  cases instance'.allowedConsumer.find asilLevel with
  | none => rfl
  | some users =>
      have pushed := find_foldl_pushBack users .empty sought
      simpa [UnorderedMap.find, UnorderedMap.empty] using pushed

theorem consumerPermissions_isEmpty_iff :
    (consumerPermissions instance' asilLevel).entries.isEmpty ↔
      (instance'.allowedConsumer.find asilLevel).getD [] = [] := by
  constructor
  · intro nothing
    have entries := List.isEmpty_iff.mp nothing
    have found := find_consumerPermissions instance' asilLevel .read
    rw [UnorderedMap.find, entries] at found
    simpa using found.symm
  · intro nobody
    unfold consumerPermissions
    cases given : instance'.allowedConsumer.find asilLevel with
    | none => rfl
    | some users =>
        have noUsers : users = [] := by simpa [given] using nobody
        simp [noUsers, UnorderedMap.empty]

/-- The user is listed as a consumer, or no consumer is listed and permission checks are
not strict. -/
def AdmitsConsumer (instance' : LolaServiceInstanceDeployment) (asilLevel : QualityType)
    (user : BitVec 32) : Prop :=
  user ∈ (instance'.allowedConsumer.find asilLevel).getD [] ∨
    (instance'.allowedConsumer.find asilLevel).getD [] = [] ∧ instance'.strictPermissions = false

theorem createSharedMemoryForControl_admits_iff
    (created : createSharedMemoryForControl instance' asilLevel = some object) :
    object.admits user = true ↔ AdmitsConsumer instance' asilLevel user := by
  unfold createSharedMemoryForControl at created
  cases hasId : instance'.instanceId with
  | none => simp [hasId] at created
  | some id =>
      simp only [hasId, Option.bind_eq_bind, Option.bind_some] at created
      by_cases unchecked : (consumerPermissions instance' asilLevel).entries.isEmpty &&
            instance'.strictPermissions = false
      · rw [if_pos unchecked] at created
        have isObject : ObjectPermissions.worldWritable = object := by simpa using created
        rw [Bool.and_eq_true, consumerPermissions_isEmpty_iff] at unchecked
        subst isObject
        have lax : instance'.strictPermissions = false := by simpa using unchecked.2
        simp [ObjectPermissions.admits, AdmitsConsumer, unchecked.1, lax]
      · rw [if_neg unchecked] at created
        have isObject : ObjectPermissions.userPermissions
            (consumerPermissions instance' asilLevel) = object := by simpa using created
        rw [Bool.and_eq_true, consumerPermissions_isEmpty_iff] at unchecked
        subst isObject
        have checked : ¬((instance'.allowedConsumer.find asilLevel).getD [] = [] ∧
            instance'.strictPermissions = false) := by simpa using unchecked
        simp [ObjectPermissions.admits, AdmitsConsumer, find_consumerPermissions, checked]

/-- A control object belongs to an instance of this binding. -/
theorem controlObject_cases (created : controlObject deployment asilLevel = some object) :
    ∃ instance', deployment.bindingInfo = .lola instance' ∧
      createSharedMemoryForControl instance' asilLevel = some object := by
  unfold controlObject at created
  split at created
  · next instance' isLola => exact ⟨instance', isLola, created⟩
  · next instance' isLola =>
      split at created
      · exact ⟨instance', isLola, created⟩
      · cases created
  · cases created

end ControlObject

/-! ## Whom a receiver admits -/

section Receiver

variable {configuration : Configuration} {asilLevel : QualityType} {user : BitVec 32}
  {users : Finset (BitVec 32)} {listed : List (BitVec 32)} {cfg : AsilSpecificCfg}

/-- Some instance lists these users for the level, as consumers or as providers. -/
def Lists (configuration : Configuration) (asilLevel : QualityType) (users : List (BitVec 32)) :
    Prop :=
  ∃ entry ∈ configuration.serviceInstances.entries, ∃ instance',
    entry.2.bindingInfo = .lola instance' ∧ (instance'.allowedConsumer.find asilLevel = some users ∨
        instance'.allowedProvider.find asilLevel = some users)

/-- The lists of a deployment for the level, in the order of the aggregation. -/
def listsOf (asilLevel : QualityType) (deployment : ServiceInstanceDeployment) :
    List (Option (List (BitVec 32))) :=
  match deployment.bindingInfo with
  | .lola instance' =>
      [instance'.allowedConsumer.find asilLevel, instance'.allowedProvider.find asilLevel]
  | _ => []

theorem mem_listsOf_iff {deployment : ServiceInstanceDeployment} :
    some listed ∈ listsOf asilLevel deployment ↔
      ∃ instance', deployment.bindingInfo = .lola instance' ∧
        (instance'.allowedConsumer.find asilLevel = some listed ∨
          instance'.allowedProvider.find asilLevel = some listed) := by
  unfold listsOf
  split
  · next instance' isLola => simp [isLola, eq_comm]
  · next other =>
      constructor
      · intro member
        cases member
      · rintro ⟨instance', isLola, _⟩
        exact absurd isLola (other instance')

/-- One list of an instance is one step of the collection. -/
theorem collect_find_cons (allowed : UnorderedMap QualityType (List (BitVec 32)))
    (lists : List (Option (List (BitVec 32)))) :
    Wildcards.collect users (allowed.find asilLevel :: lists) =
      match aggregateAllowedUsers users allowed asilLevel with
      | (aggregated, true) => aggregated
      | (aggregated, false) => Wildcards.collect aggregated lists := by
  unfold aggregateAllowedUsers
  rcases allowed.find asilLevel with _ | ⟨_ | ⟨first, others⟩⟩
  · rfl
  · rfl
  · have inserted := Wildcards.foldl_insert users (first :: others)
    simp only [Wildcards.collect, List.isEmpty_cons, Bool.false_eq_true, if_false, inserted]

theorem aggregateInstances_eq_collect (instances : List ServiceInstanceDeployment) :
    aggregateInstances asilLevel instances users =
      Wildcards.collect users (instances.flatMap (listsOf asilLevel)) := by
  induction instances generalizing users with
  | nil => rfl
  | cons deployment rest ih =>
      rw [List.flatMap_cons, aggregateInstances, listsOf]
      cases isLola : deployment.bindingInfo with
      | lola instance' =>
          simp only [List.cons_append, List.nil_append, collect_find_cons, ih]
      | someIp instance' => exact ih
      | blank => exact ih

theorem ioOpen_sort_iff :
    ioOpen (users.sort (· ≤ ·)) user = true ↔ Wildcards.Admits users user := by
  have noneSorted : users.sort (· ≤ ·) = [] ↔ users = ∅ := by
    rw [← List.length_eq_zero_iff, Finset.length_sort, Finset.card_eq_zero]
  unfold ioOpen Wildcards.Admits
  by_cases nobody : users = ∅
  · simp [nobody]
  · simp [nobody, noneSorted]

/-- The process has a receiver for the level. -/
def Supports (configuration : Configuration) : QualityType → Prop
  | .invalid => False
  | .asilQm => True
  | .asilB => configuration.globalConfiguration.processAsilLevel = .asilB

theorem getMessagePassingCfg_isSome_iff :
    (Runtime.getMessagePassingCfg configuration asilLevel).isSome ↔
      Supports configuration asilLevel := by
  unfold Runtime.getMessagePassingCfg Supports Runtime.hasAsilBSupport
  cases asilLevel with
  | invalid => simp [guard]
  | asilQm => simp [guard, getReceiverMessageQueueSize]
  | asilB =>
      by_cases supported : configuration.globalConfiguration.processAsilLevel = .asilB
      · simp [guard, getReceiverMessageQueueSize, supported]
      · simp [guard, supported]

/-- Everybody may send where some list is empty or there is no list at all, and otherwise
whoever is in one of the lists. -/
theorem getMessagePassingCfg_admits_iff
    (received : Runtime.getMessagePassingCfg configuration asilLevel = some cfg) :
    ioOpen cfg.allowedUserIds user = true ↔
      Lists configuration asilLevel [] ∨ (∀ listed, ¬Lists configuration asilLevel listed) ∨
        ∃ listed, Lists configuration asilLevel listed ∧ user ∈ listed := by
  have allowed : cfg.allowedUserIds =
      (aggregateInstances asilLevel (configuration.serviceInstances.entries.map Prod.snd)
        ∅).sort (· ≤ ·) := by
    unfold Runtime.getMessagePassingCfg at received
    simp only [Option.bind_eq_bind, Option.bind_eq_some_iff] at received
    obtain ⟨_, _, _, _, size, _, isCfg⟩ := received
    have isCfg' := Option.some.inj isCfg
    rw [← isCfg']
  have mem_lists : ∀ listed, some listed ∈
          (configuration.serviceInstances.entries.map Prod.snd).flatMap (listsOf asilLevel) ↔
        Lists configuration asilLevel listed := by
    intro listed
    simp only [Lists, List.mem_flatMap, List.mem_map, mem_listsOf_iff]
    constructor
    · rintro ⟨deployment, ⟨entry, member, rfl⟩, lists⟩
      exact ⟨entry, member, lists⟩
    · rintro ⟨entry, member, lists⟩
      exact ⟨entry.2, ⟨entry, member, rfl⟩, lists⟩
  rw [allowed, ioOpen_sort_iff, aggregateInstances_eq_collect, Wildcards.admits_collect_iff]
  simp only [mem_lists]

end Receiver

/-! ## Agreement -/

section Agreement

variable (configuration : Configuration) (asilLevel : QualityType) (user : BitVec 32)

/-- Whoever some control object for the level admits, the receiver for the level admits. -/
def AccessAgreement : Prop := ∀ entry ∈ configuration.serviceInstances.entries,
    ∀ object, controlObject entry.2 asilLevel = some object → object.admits user = true →
      ∀ cfg, Runtime.getMessagePassingCfg configuration asilLevel = some cfg →
        ioOpen cfg.allowedUserIds user = true

/-- Some instance creates a world-writable control object, for it has no consumers for the
level, while others have lists for the level, none of them empty and the user in none. -/
structure ShutOut : Prop where
  supported : Supports configuration asilLevel
  worldWritable : ∃ entry ∈ configuration.serviceInstances.entries, ∃ instance',
    entry.2.bindingInfo = .lola instance' ∧ instance'.instanceId ≠ none ∧
      (asilLevel = .asilB → entry.2.asilLevel = .asilB) ∧
      instance'.allowedConsumer.find asilLevel = none ∧ instance'.strictPermissions = false
  listed : ∃ users, Lists configuration asilLevel users
  excluded : ∀ users, Lists configuration asilLevel users → users ≠ [] ∧ user ∉ users

variable {configuration asilLevel user}

/-- Every instance with an id creates a control object for a level it has. -/
theorem exists_controlObject {deployment : ServiceInstanceDeployment}
    {instance' : LolaServiceInstanceDeployment}
    (isLola : deployment.bindingInfo = .lola instance') (identified : instance'.instanceId ≠ none)
    (isLevel : asilLevel ≠ .invalid) (hasLevel : asilLevel = .asilB → deployment.asilLevel = .asilB) :
    ∃ object, controlObject deployment asilLevel = some object ∧
      createSharedMemoryForControl instance' asilLevel = some object := by
  have created : ∃ object, createSharedMemoryForControl instance' asilLevel = some object := by
    obtain ⟨id, hasId⟩ := Option.ne_none_iff_exists'.mp identified
    unfold createSharedMemoryForControl
    simp only [hasId, Option.bind_eq_bind, Option.bind_some]
    split
    · exact ⟨_, rfl⟩
    · exact ⟨_, rfl⟩
  obtain ⟨object, created⟩ := created
  refine ⟨object, ?_, created⟩
  unfold controlObject
  cases asilLevel with
  | invalid => exact absurd rfl isLevel
  | asilQm => rw [isLola]; exact created
  | asilB => rw [isLola]; simpa [AccessControl.hasAsilBSupport, hasLevel rfl] using created

/-- An instance for which a user outside of all the lists is admitted has no list. -/
theorem no_consumers_of_admits {instance' : LolaServiceInstanceDeployment}
    (admitted : AdmitsConsumer instance' asilLevel user)
    (excluded : ∀ users, instance'.allowedConsumer.find asilLevel = some users →
      users ≠ [] ∧ user ∉ users) :
    instance'.allowedConsumer.find asilLevel = none ∧ instance'.strictPermissions = false := by
  cases given : instance'.allowedConsumer.find asilLevel with
  | none =>
      rcases admitted with isConsumer | ⟨_, lax⟩
      · simp [given] at isConsumer
      · exact ⟨rfl, lax⟩
  | some users =>
      obtain ⟨filled, outside⟩ := excluded users given
      rcases admitted with isConsumer | ⟨nobody, _⟩
      · exact absurd (by simpa [given] using isConsumer) outside
      · exact absurd (by simpa [given] using nobody) filled

theorem shutOut_of_not_agreement (disagrees : ¬AccessAgreement configuration asilLevel user) :
    ShutOut configuration asilLevel user := by
  unfold AccessAgreement at disagrees
  push Not at disagrees
  obtain ⟨entry, member, object, created, admitted, cfg, received, rejected⟩ := disagrees
  obtain ⟨instance', isLola, createdFor⟩ := controlObject_cases created
  rw [createSharedMemoryForControl_admits_iff createdFor] at admitted
  rw [Ne, getMessagePassingCfg_admits_iff received] at rejected
  push Not at rejected
  obtain ⟨noWildcard, listed, outside⟩ := rejected
  have excluded : ∀ users, Lists configuration asilLevel users → users ≠ [] ∧ user ∉ users := by
    intro users lists
    constructor
    · intro isEmpty
      exact noWildcard (isEmpty ▸ lists)
    · exact outside users lists
  have missing := no_consumers_of_admits admitted (by
    intro users given
    exact excluded users ⟨entry, member, instance', isLola, Or.inl given⟩)
  have identified : instance'.instanceId ≠ none := by
    intro noId
    simp [createSharedMemoryForControl, noId] at createdFor
  have hasLevel : asilLevel = .asilB → entry.2.asilLevel = .asilB := by
    rintro rfl
    by_contra other
    simp [controlObject, isLola, AccessControl.hasAsilBSupport, other] at created
  exact
    { supported := getMessagePassingCfg_isSome_iff.mp (by simp [received])
      worldWritable := ⟨entry, member, instance', isLola, identified, hasLevel, missing⟩
      listed := listed
      excluded := excluded }

theorem not_agreement_of_shutOut (shutOut : ShutOut configuration asilLevel user) :
    ¬AccessAgreement configuration asilLevel user := by
  intro agreement
  obtain ⟨entry, member, instance', isLola, identified, hasLevel, noConsumers, lax⟩ :=
    shutOut.worldWritable
  have isLevel : asilLevel ≠ .invalid := by
    rintro rfl
    exact shutOut.supported
  obtain ⟨object, created, createdFor⟩ := exists_controlObject isLola identified isLevel hasLevel
  have admitted : object.admits user = true := by
    rw [createSharedMemoryForControl_admits_iff createdFor]
    exact Or.inr ⟨by rw [noConsumers]; rfl, lax⟩
  obtain ⟨cfg, received⟩ :=
    Option.isSome_iff_exists.mp (getMessagePassingCfg_isSome_iff.mpr shutOut.supported)
  have allowed := agreement entry member object created admitted cfg received
  rcases (getMessagePassingCfg_admits_iff received).mp allowed with
    wildcard | noList | ⟨users, lists, isListed⟩
  · exact (shutOut.excluded [] wildcard).1 rfl
  · obtain ⟨users, lists⟩ := shutOut.listed
    exact noList users lists
  · exact (shutOut.excluded users lists).2 isListed

/-- The receiver admits whomever the control objects admit, unless a control object is
world-writable for want of a list of its own while lists of others shut the user out. -/
theorem accessAgreement_iff :
    AccessAgreement configuration asilLevel user ↔ ¬ShutOut configuration asilLevel user := by
  constructor
  · intro agreement shutOut
    exact not_agreement_of_shutOut shutOut agreement
  · intro admitted
    by_contra disagrees
    exact admitted (shutOut_of_not_agreement disagrees)

/-! ### Two instances of one process -/

/-- An instance with these consumers for QM. -/
def instanceFor (id : BitVec 16) (instanceSpecifier : InstanceSpecifier)
    (consumers : Option (List (BitVec 32))) : ServiceInstanceDeployment where
  service := ⟨"/bmw/service", ⟨1, 0⟩⟩
  bindingInfo := .lola
    { LolaServiceInstanceDeployment.initial with
      instanceId := some ⟨id⟩
      allowedConsumer :=
        match consumers with
        | none => .empty
        | some users => ⟨[(.asilQm, users)], List.nodup_singleton _⟩ }
  asilLevel := .asilQm
  instanceSpecifier := instanceSpecifier

def openPort : InstanceSpecifier := ⟨"abc/open", by decide +kernel⟩

def guardedPort : InstanceSpecifier := ⟨"abc/guarded", by decide +kernel⟩

/-- One instance is for everybody, the other one for the user 1000. -/
def openBesideGuarded : Configuration where
  serviceTypes := .empty
  serviceInstances :=
    { entries :=
        [(openPort, instanceFor 1 openPort none),
          (guardedPort, instanceFor 2 guardedPort (some [1000]))]
      unique := by decide +kernel }
  globalConfiguration := .initial
  tracingConfiguration := .initial

/-- The user 2000 may open the first instance and not send to its process. -/
theorem accessAgreement_violated : ¬AccessAgreement openBesideGuarded .asilQm 2000 := by
  apply not_agreement_of_shutOut
  exact
    { supported := trivial
      worldWritable :=
        ⟨(openPort, instanceFor 1 openPort none), List.mem_cons_self, _, rfl, by decide, by decide,
          rfl, rfl⟩
      listed := ⟨[1000], (guardedPort, instanceFor 2 guardedPort (some [1000])),
          List.mem_cons_of_mem _ List.mem_cons_self, _, rfl, Or.inl rfl⟩
      excluded := by
        rintro users ⟨entry, member, instance', isLola, lists⟩
        simp only [openBesideGuarded, List.mem_cons, List.not_mem_nil, or_false] at member
        rcases member with rfl | rfl
        · cases isLola
          rcases lists with none | none
          · cases none
          · cases none
        · cases isLola
          rcases lists with isListed | none
          · cases isListed
            decide
          · cases none }

end Agreement

end AccessControl

end MwCom.Configuration
