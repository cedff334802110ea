/-
Module: MwCom.Lola.UsageMarker
Purpose: How the provider and the consumers of a service instance attach to its
  shared-memory objects under locks on the usage marker file.
Trusted boundary: none
Main exports: ServiceMemory, ServiceOp, prepareOffer, prepareStopOffer, register,
  createProxy, getEventControl, getRawDataStorage
-/
import MwCom.Lola.EventDataControlComposite
import MwCom.Lola.ExistenceMarker

namespace MwCom.Lola

open Interleaving Locking

/-- The shared-memory objects of a service instance. -/
inductive ShmPath where
  | control (quality : QualityType)
  | data
deriving DecidableEq, Repr

/-- The maps in the objects: event_controls_, events_ and events_metainfo_. -/
inductive ElementTable where
  | eventControls (quality : QualityType)
  | events
  | eventsMetainfo
deriving DecidableEq, Repr

def ElementTable.path : ElementTable → ShmPath
  | .eventControls quality => .control quality
  | .events => .data
  | .eventsMetainfo => .data

/-- What is configured of a service instance. -/
structure ServiceDeployment (Element : Type) where
  hasAsilBSupport : Bool
  elements : List Element

namespace ServiceDeployment

variable {Element : Type} (deployment : ServiceDeployment Element)

/-- The objects that an offer creates. -/
def has : ShmPath → Bool
  | .control .asilB => deployment.hasAsilBSupport
  | _ => true

end ServiceDeployment

/-- The objects of one call of PrepareOffer: who called it, and its how many-th call. -/
abbrev Incarnation (Provider : Type) := Provider × Nat

/-- What provider and consumers share of a service instance. -/
structure ServiceMemory (Provider Consumer Element : Type) where
  files : LockedFiles Unit (Provider ⊕ Consumer)
  /-- The object under each path. -/
  named : ShmPath → Option (Incarnation Provider)
  /-- The elements that are entered in the tables of the objects. -/
  entries : ElementTable → Incarnation Provider → List Element

/-- What provider and consumers do about the service instance. -/
inductive ServiceOp (Provider Element : Type) where
  | onFile (op : FileOp Unit)
  | remove (path : ShmPath)
  | create (path : ShmPath) (incarnation : Incarnation Provider)
  | open (path : ShmPath)
  | emplace (table : ElementTable) (incarnation : Incarnation Provider) (element : Element)
  | find (table : ElementTable) (incarnation : Incarnation Provider) (element : Element)
  | partialRestart
  | terminate

abbrev ServiceOp.Ret {Provider Element : Type} : ServiceOp Provider Element → Type
  | .onFile op => op.Ret
  | .remove _ => Unit
  | .create _ _ => Bool
  | .open _ => Option (Incarnation Provider)
  | .emplace _ _ _ => Bool
  | .find _ _ _ => Bool
  | .partialRestart => Bool
  | .terminate => Unit

section Outcomes

variable {Provider Consumer Element : Type} [DecidableEq Provider] [DecidableEq Consumer]
  [DecidableEq Element]

namespace ServiceMemory

variable (memory : ServiceMemory Provider Consumer Element)

/-- A new object with empty tables. -/
def create (path : ShmPath) (incarnation : Incarnation Provider) :
    ServiceMemory Provider Consumer Element :=
  { memory with
    named := Function.update memory.named path (some incarnation)
    entries := fun table other =>
      if table.path = path ∧ other = incarnation then [] else memory.entries table other }

def remove (path : ShmPath) : ServiceMemory Provider Consumer Element :=
  { memory with named := Function.update memory.named path none }

def emplace (table : ElementTable) (incarnation : Incarnation Provider) (element : Element) :
    ServiceMemory Provider Consumer Element :=
  { memory with
    entries := fun at_ other =>
      if at_ = table ∧ other = incarnation then element :: memory.entries at_ other
      else memory.entries at_ other }

end ServiceMemory

/-- The outcomes of an operation.  Creating an object may fail; who fails an assertion or
terminates does not continue. -/
def ServiceOp.outcomes (party : Provider ⊕ Consumer) :
    (op : ServiceOp Provider Element) → ServiceMemory Provider Consumer Element →
      List (op.Ret × ServiceMemory Provider Consumer Element)
  | .onFile op, memory =>
      (op.outcomes party memory.files).map fun outcome =>
        (outcome.1, { memory with files := outcome.2 })
  | .remove path, memory => [((), memory.remove path)]
  | .create path incarnation, memory =>
      [(true, memory.create path incarnation), (false, memory)]
  | .open path, memory => [(memory.named path, memory)]
  | .emplace table incarnation element, memory =>
      if element ∈ memory.entries table incarnation then
        [(false, memory)]
      else
        [(true, memory.emplace table incarnation element)]
  | .find table incarnation element, memory =>
      [(decide (element ∈ memory.entries table incarnation), memory)]
  | .partialRestart, memory => [(true, memory), (false, memory)]
  | .terminate, _ => []

end Outcomes

variable {Provider Element : Type}

abbrev ServiceProgram (Provider Element : Type) :=
  Program (ServiceOp Provider Element) ServiceOp.Ret

namespace ServiceProgram

def openMarker : ServiceProgram Provider Element (Option Nat) :=
  Program.perform (ServiceOp.onFile (.open ()))

def openOrCreateMarker : ServiceProgram Provider Element (Option Nat) :=
  Program.perform (ServiceOp.onFile (.openOrCreate ()))

def tryLock (file : Nat) (mode : Mode) : ServiceProgram Provider Element Bool :=
  Program.perform (ServiceOp.onFile (.tryLock file mode))

def unlock (file : Nat) : ServiceProgram Provider Element Unit :=
  Program.perform (ServiceOp.onFile (.unlock file))

def remove (path : ShmPath) : ServiceProgram Provider Element Unit :=
  Program.perform (ServiceOp.remove path)

def create (path : ShmPath) (incarnation : Incarnation Provider) :
    ServiceProgram Provider Element Bool :=
  Program.perform (ServiceOp.create path incarnation)

def openShm (path : ShmPath) : ServiceProgram Provider Element (Option (Incarnation Provider)) :=
  Program.perform (ServiceOp.open path)

def emplace (table : ElementTable) (incarnation : Incarnation Provider) (element : Element) :
    ServiceProgram Provider Element Bool :=
  Program.perform (ServiceOp.emplace table incarnation element)

def find (table : ElementTable) (incarnation : Incarnation Provider) (element : Element) :
    ServiceProgram Provider Element Bool :=
  Program.perform (ServiceOp.find table incarnation element)

def partialRestart : ServiceProgram Provider Element Bool :=
  Program.perform ServiceOp.partialRestart

def terminate : ServiceProgram Provider Element Unit := Program.perform ServiceOp.terminate

/-- AMP_ASSERT_PRD: terminates unless the condition holds. -/
def assert (condition : Bool) : ServiceProgram Provider Element Unit :=
  if condition then pure () else terminate

end ServiceProgram

/-! ## The provider -/

/-- The members of a Skeleton that attach it to its shared memory. -/
structure AttachedSkeleton (Provider : Type) where
  serviceInstanceUsageMarkerFile : Option LockFile
  /-- Which of the data_*_path_ members are set. -/
  hasPath : ShmPath → Bool
  /-- control_qm_, control_asil_b_ and storage_ with their resources. -/
  pointer : ShmPath → Option (Incarnation Provider)
  wasOldShmRegionReopened : Bool

namespace AttachedSkeleton

/-- A Skeleton that was just created. -/
def fresh : AttachedSkeleton Provider := ⟨none, fun _ => false, fun _ => none, false⟩

/-- The Skeleton refers to an object and notes its path. -/
def attach (skeleton : AttachedSkeleton Provider) (path : ShmPath)
    (incarnation : Incarnation Provider) : AttachedSkeleton Provider :=
  { skeleton with
    hasPath := Function.update skeleton.hasPath path true
    pointer := Function.update skeleton.pointer path (some incarnation) }

end AttachedSkeleton

open ServiceProgram

/-- RemoveStaleSharedMemoryArtefacts. -/
def removeStaleSharedMemoryArtefacts : ServiceProgram Provider Element Unit := do
  remove (.control .asilQm)
  remove (.control .asilB)
  remove .data

/-- CreateSharedMemoryForControl and CreateSharedMemoryForData. -/
def createSharedMemoryFor (path : ShmPath) (incarnation : Incarnation Provider)
    (skeleton : AttachedSkeleton Provider) :
    ServiceProgram Provider Element (Bool × AttachedSkeleton Provider) := do
  if ← create path incarnation then
    pure (true, skeleton.attach path incarnation)
  else
    pure (false, skeleton)

/-- OpenSharedMemoryForControl and OpenSharedMemoryForData. -/
def openSharedMemoryFor (path : ShmPath) (skeleton : AttachedSkeleton Provider) :
    ServiceProgram Provider Element (Bool × AttachedSkeleton Provider) := do
  match ← openShm path with
  | some incarnation => pure (true, skeleton.attach path incarnation)
  | none => pure (false, skeleton)

/-- The ASIL-B control object, if the instance has one. -/
def forAsilB (hasAsilBSupport : Bool)
    (attach : ShmPath → AttachedSkeleton Provider →
      ServiceProgram Provider Element (Bool × AttachedSkeleton Provider))
    (skeleton : AttachedSkeleton Provider) :
    ServiceProgram Provider Element (Bool × AttachedSkeleton Provider) :=
  if hasAsilBSupport then attach (.control .asilB) skeleton else pure (true, skeleton)

/-- The objects of an instance one after the other, up to the first failure. -/
def forObjects (hasAsilBSupport : Bool)
    (attach : ShmPath → AttachedSkeleton Provider →
      ServiceProgram Provider Element (Bool × AttachedSkeleton Provider))
    (skeleton : AttachedSkeleton Provider) :
    ServiceProgram Provider Element (Bool × AttachedSkeleton Provider) := do
  let (isQmDone, skeleton) ← attach (.control .asilQm) skeleton
  if isQmDone then
    let (isAsilBDone, skeleton) ← forAsilB hasAsilBSupport attach skeleton
    if isAsilBDone then attach .data skeleton else pure (false, skeleton)
  else
    pure (false, skeleton)

def createSharedMemory (hasAsilBSupport : Bool) (incarnation : Incarnation Provider) :
    AttachedSkeleton Provider →
      ServiceProgram Provider Element (Bool × AttachedSkeleton Provider) :=
  forObjects hasAsilBSupport fun path => createSharedMemoryFor path incarnation

def openExistingSharedMemory (hasAsilBSupport : Bool) : AttachedSkeleton Provider →
      ServiceProgram Provider Element (Bool × AttachedSkeleton Provider) :=
  forObjects hasAsilBSupport openSharedMemoryFor

/-- Skeleton::PrepareOffer; whether it succeeded, and the Skeleton after it. -/
def prepareOffer (hasAsilBSupport : Bool) (incarnation : Incarnation Provider)
    (skeleton : AttachedSkeleton Provider) :
    ServiceProgram Provider Element (Bool × AttachedSkeleton Provider) := do
  let file ← openOrCreateMarker
  let skeleton := { skeleton with
    serviceInstanceUsageMarkerFile := file.map fun file => ⟨file, false⟩ }
  match file with
  | none => pure (false, skeleton)
  | some file =>
      let previousShmRegionUnusedByProxies ← tryLock file .exclusive
      let skeleton := { skeleton with
        wasOldShmRegionReopened := !previousShmRegionUnusedByProxies }
      if previousShmRegionUnusedByProxies then
        removeStaleSharedMemoryArtefacts
        let result ← createSharedMemory hasAsilBSupport incarnation skeleton
        -- The lock is given up at the end of its scope.
        unlock file
        pure result
      else
        openExistingSharedMemory hasAsilBSupport skeleton

/-- The RemoveMemoryIfExists of RemoveSharedMemory. -/
def removeMemoryIfExists (skeleton : AttachedSkeleton Provider) (path : ShmPath) :
    ServiceProgram Provider Element Unit :=
  if skeleton.hasPath path then remove path else pure ()

/-- RemoveSharedMemory unlinks the objects whose paths are known. -/
def removeSharedMemory (skeleton : AttachedSkeleton Provider) :
    ServiceProgram Provider Element Unit := do
  removeMemoryIfExists skeleton (.control .asilQm)
  removeMemoryIfExists skeleton (.control .asilB)
  removeMemoryIfExists skeleton .data

/-- Skeleton::PrepareStopOffer. -/
def prepareStopOffer (skeleton : AttachedSkeleton Provider) :
    ServiceProgram Provider Element (AttachedSkeleton Provider) :=
  match skeleton.serviceInstanceUsageMarkerFile with
  | none => do
      terminate
      pure skeleton
  | some markerFile => do
      if ← tryLock markerFile.file .exclusive then
        removeSharedMemory skeleton
        unlock markerFile.file
        pure { skeleton with
          serviceInstanceUsageMarkerFile := none, pointer := fun _ => none }
      else
        pure skeleton

/-- What a null pointer of the Skeleton leads to. -/
def AttachedSkeleton.deref (skeleton : AttachedSkeleton Provider) (path : ShmPath)
    (use : Incarnation Provider → ServiceProgram Provider Element Unit) :
    ServiceProgram Provider Element Unit :=
  match skeleton.pointer path with
  | some incarnation => use incarnation
  | none => terminate

/-- The find_element of OpenEventDataFromOpenedSharedMemory. -/
def AttachedSkeleton.findElement (skeleton : AttachedSkeleton Provider)
    (table : ElementTable) (element : Element) : ServiceProgram Provider Element Unit :=
  skeleton.deref table.path fun incarnation => do
    assert (← find table incarnation element)

/-- An emplace of CreateEventDataFromOpenedSharedMemory. -/
def AttachedSkeleton.emplaceElement (skeleton : AttachedSkeleton Provider)
    (table : ElementTable) (element : Element) (isAsserted : Bool) :
    ServiceProgram Provider Element Unit :=
  skeleton.deref table.path fun incarnation => do
    let inserted ← emplace table incarnation element
    assert (!isAsserted || inserted)

def openEventDataFromOpenedSharedMemory (hasAsilBSupport : Bool)
    (skeleton : AttachedSkeleton Provider) (element : Element) :
    ServiceProgram Provider Element Unit := do
  skeleton.findElement .eventsMetainfo element
  skeleton.findElement .events element
  skeleton.findElement (.eventControls .asilQm) element
  if hasAsilBSupport then skeleton.findElement (.eventControls .asilB) element else pure ()

def createEventDataFromOpenedSharedMemory (skeleton : AttachedSkeleton Provider)
    (element : Element) : ServiceProgram Provider Element Unit := do
  skeleton.emplaceElement .events element true
  skeleton.emplaceElement .eventsMetainfo element true
  skeleton.emplaceElement (.eventControls .asilQm) element true
  if (skeleton.pointer (.control .asilB)).isSome then
    skeleton.emplaceElement (.eventControls .asilB) element false
  else
    pure ()

/-- Skeleton::Register, as each element of an offered service calls it. -/
def register (hasAsilBSupport : Bool) (skeleton : AttachedSkeleton Provider)
    (element : Element) : ServiceProgram Provider Element Unit :=
  if skeleton.wasOldShmRegionReopened then
    openEventDataFromOpenedSharedMemory hasAsilBSupport skeleton element
  else
    createEventDataFromOpenedSharedMemory skeleton element

/-! ## The consumers -/

/-- The members of a Proxy that attach it to the shared memory. -/
structure AttachedProxy (Provider : Type) where
  quality : QualityType
  control : Incarnation Provider
  data : Incarnation Provider
  serviceInstanceUsageMarkerFile : LockFile

/-- Proxy::Create; `quality` is the one of the handle. -/
def createProxy (quality : QualityType) :
    ServiceProgram Provider Element (Option (AttachedProxy Provider)) := do
  match ← openMarker with
  | none => pure none
  | some file =>
      if ← tryLock file .shared then
        let control ← openShm (.control quality)
        let data ← openShm .data
        match control, data with
        | some control, some data =>
            if ← partialRestart then
              pure (some ⟨quality, control, data, ⟨file, false⟩⟩)
            else do
              unlock file
              pure none
        | _, _ => do
            unlock file
            pure none
      else
        pure none

/-- The destructor of a Proxy, as far as the usage marker is concerned. -/
def AttachedProxy.destroy (proxy : AttachedProxy Provider) : ServiceProgram Provider Element Unit :=
  unlock proxy.serviceInstanceUsageMarkerFile.file

def getEventControl (proxy : AttachedProxy Provider) (element : Element) :
    ServiceProgram Provider Element Unit := do
  assert (← find (.eventControls proxy.quality) proxy.control element)

def getRawDataStorage (proxy : AttachedProxy Provider) (element : Element) :
    ServiceProgram Provider Element Unit := do
  assert (← find .events proxy.data element)

end MwCom.Lola
