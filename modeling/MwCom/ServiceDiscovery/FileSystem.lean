/-
Module: MwCom.ServiceDiscovery.FileSystem
Purpose: The directories and flag files through which services are discovered, and
  the events that watching them gives.
Trusted boundary: below a search path there are directories named by an instance id
  and in these flag files; adding a watch for a path twice gives the same descriptor,
  and a descriptor that was given up does not come again.
Main exports: LolaServiceInstanceIdentifier, FlagFileName, InotifyEvent, FileSystem,
  FileChange, FileSystem.change
-/
import Mathlib.Data.List.Basic
import Mathlib.Logic.Function.Basic
import MwCom.Configuration.Deployments

namespace MwCom.ServiceDiscovery

open MwCom.Configuration (QualityType)

/-! ## Sets -/

/-- A set from which an item is erased. -/
def without {α : Type} [DecidableEq α] (set : List α) (item : α) : List α :=
  set.filter fun other => decide (other ≠ item)

/-! ## Paths -/

abbrev LolaServiceId := BitVec 16

abbrev InstanceId := BitVec 16

/-- Names the search path of a service, or of one of its instances. -/
structure LolaServiceInstanceIdentifier where
  serviceId : LolaServiceId
  instanceId : Option InstanceId
deriving DecidableEq

namespace LolaServiceInstanceIdentifier

/-- The identifier of any instance of the service. -/
def any (serviceId : LolaServiceId) : LolaServiceInstanceIdentifier := ⟨serviceId, none⟩

def one (serviceId : LolaServiceId) (instanceId : InstanceId) : LolaServiceInstanceIdentifier :=
  ⟨serviceId, some instanceId⟩

end LolaServiceInstanceIdentifier

/-- The name of a flag file; a name without a quality does not follow the
convention. -/
structure FlagFileName where
  pid : BitVec 32
  qualityType : QualityType
  offerDisambiguator : Nat
deriving DecidableEq

/-- What a directory holds. -/
inductive Entry where
  | directory (instanceId : InstanceId)
  | flagFile (name : FlagFileName)
deriving DecidableEq

/-! ## Events -/

abbrev WatchDescriptor := Nat

inductive InotifyEvent where
  /-- `kInCreate` -/
  | created (watch : WatchDescriptor) (entry : Entry)
  /-- `kInDelete` -/
  | deleted (watch : WatchDescriptor) (entry : Entry)
  /-- `kInIgnored` -/
  | ignored (watch : WatchDescriptor)
  /-- `kInQOverflow` -/
  | overflowed
deriving DecidableEq

/-! ## The file system -/

/-- The directories and flag files, the watches on directories, and the events that
nobody has read yet. -/
structure FileSystem where
  directories : List LolaServiceInstanceIdentifier
  flagFiles : List (LolaServiceInstanceIdentifier × FlagFileName)
  watchOf : LolaServiceInstanceIdentifier → Option WatchDescriptor
  nextWatch : WatchDescriptor
  queue : List InotifyEvent

namespace FileSystem

def empty : FileSystem where
  directories := []
  flagFiles := []
  watchOf _ := none
  nextWatch := 1
  queue := []

variable (files : FileSystem) (path : LolaServiceInstanceIdentifier)

/-- Events are queued for directories that are watched. -/
def emit (event : WatchDescriptor → InotifyEvent) : FileSystem :=
  match files.watchOf path with
  | some watch => { files with queue := files.queue ++ [event watch] }
  | none => files

/-- One directory, whose parent is there. -/
def makeDirectory : FileSystem :=
  if path ∈ files.directories then files
  else
    let files := { files with directories := path :: files.directories }
    match path.instanceId with
    | some instanceId =>
        files.emit (.any path.serviceId) fun watch => .created watch (.directory instanceId)
    | none => files

/-- A directory and those it is in. -/
def createDirectories : FileSystem := (files.makeDirectory (.any path.serviceId)).makeDirectory path

/-- A directory that holds nothing; its watch ends with it. -/
def removeDirectory : FileSystem :=
  let unwatched := files.emit path .ignored
  let unwatched :=
    { unwatched with
      directories := without unwatched.directories path
      watchOf := Function.update unwatched.watchOf path none }
  match path.instanceId with
  | some instanceId =>
      unwatched.emit (.any path.serviceId) fun watch =>
        .deleted watch (.directory instanceId)
  | none => unwatched

def createFlagFile (name : FlagFileName) : FileSystem :=
  { files with flagFiles := (path, name) :: files.flagFiles }.emit path fun watch =>
    .created watch (.flagFile name)

def removeFlagFile (name : FlagFileName) : FileSystem :=
  { files with flagFiles := without files.flagFiles (path, name) }.emit path fun watch =>
    .deleted watch (.flagFile name)

/-- `FlagFile::Exists` -/
def flagFileExists (qualityType : QualityType) : Bool :=
  files.flagFiles.any fun file => file.1 = path && file.2.qualityType = qualityType

/-- The instances whose directories a service has. -/
def instanceDirectories (serviceId : LolaServiceId) : List InstanceId :=
  files.directories.filterMap fun path =>
    if path.serviceId = serviceId then path.instanceId else none

def addWatch : WatchDescriptor × FileSystem :=
  match files.watchOf path with
  | some watch => (watch, files)
  | none =>
      (files.nextWatch, { files with
          watchOf := Function.update files.watchOf path (some files.nextWatch)
          nextWatch := files.nextWatch + 1 })

def removeWatch (watch : WatchDescriptor) : FileSystem :=
  { files with
    watchOf := fun path =>
      if files.watchOf path = some watch then none else files.watchOf path
    queue := files.queue ++ [.ignored watch] }

end FileSystem

/-! ## What processes do -/

/-- A change that any process may make. -/
inductive FileChange where
  | createDirectory (path : LolaServiceInstanceIdentifier)
  | removeDirectory (path : LolaServiceInstanceIdentifier)
  | createFlagFile (path : LolaServiceInstanceIdentifier) (name : FlagFileName)
  | removeFlagFile (path : LolaServiceInstanceIdentifier) (name : FlagFileName)
  /-- The system drops events because nobody reads them. -/
  | overflow
deriving DecidableEq

namespace FileChange

/-- A flag file is in the directory of an instance, and directories go when they are
empty. -/
def Possible (files : FileSystem) : FileChange → Prop
  | .createDirectory path => path ∉ files.directories
  | .removeDirectory path =>
      path ∈ files.directories ∧ (∀ file ∈ files.flagFiles, file.1 ≠ path) ∧
        (path.instanceId = none → files.instanceDirectories path.serviceId = [])
  | .createFlagFile path name =>
      path ∈ files.directories ∧ path.instanceId ≠ none ∧ (path, name) ∉ files.flagFiles
  | .removeFlagFile path name => (path, name) ∈ files.flagFiles
  | .overflow => True

instance (files : FileSystem) (change : FileChange) : Decidable (change.Possible files) := by
  cases change <;> unfold Possible <;> infer_instance

end FileChange

def FileSystem.change (files : FileSystem) : FileChange → FileSystem
  | .createDirectory path => files.createDirectories path
  | .removeDirectory path => files.removeDirectory path
  | .createFlagFile path name => files.createFlagFile path name
  | .removeFlagFile path name => files.removeFlagFile path name
  | .overflow => { files with queue := files.queue ++ [.overflowed] }

end MwCom.ServiceDiscovery
