/-
Module: MwCom.ServiceDiscovery.FlagFileCrawler
Purpose: What discovery does with the file system, and how it crawls a search path
  for the instances that are offered, adding watches on the way.
Trusted boundary: each access to the file system is indivisible.
Main exports: DiscoveryOp, DiscoveryOp.outcomes, Abort,
  FlagFileCrawler.crawlAndWatch
-/
import MwCom.Interleaving.Program
import MwCom.ServiceDiscovery.KnownInstances

namespace MwCom.ServiceDiscovery

open Interleaving
open MwCom.Configuration (QualityType)

/-! ## Operations -/

/-- Why the process ends. -/
inductive Abort where
  | qualityNotSet
  | findServiceHandleNotUnique
  | noMatchingWatch
  | invalidIterators
  | searchKeyNotInserted
  | watchKeyNotInserted
  | searchKeyNotErased
  | watchKeyNotErased
  | watchStillLinked
  | crawlingFailed
  | notOneWatch
  | directoryDeleted
  | queueOverflowed
deriving DecidableEq

/-- Watches with the identifiers whose directories they are for. -/
abbrev WatchDescriptors := List (WatchDescriptor × EnrichedInstanceIdentifier)

inductive DiscoveryOp where
  | createSearchPath (path : LolaServiceInstanceIdentifier)
  | addWatch (path : LolaServiceInstanceIdentifier)
  | removeWatch (watch : WatchDescriptor)
  | instanceDirectories (serviceId : LolaServiceId)
  | flagFileExists (path : LolaServiceInstanceIdentifier) (qualityType : QualityType)
  /-- The order in which a container is gone through. -/
  | visit (watches : WatchDescriptors)
  | read (count : Nat)
  | abort (reason : Abort)

namespace DiscoveryOp

abbrev Ret : DiscoveryOp → Type
  | .createSearchPath _ => Bool
  | .addWatch _ => Option WatchDescriptor
  | .removeWatch _ => Unit
  | .instanceDirectories _ => Option (List InstanceId)
  | .flagFileExists _ _ => Bool
  | .visit _ => WatchDescriptors
  | .read _ => List InotifyEvent
  | .abort _ => Empty

/-- Paths, watches and listings may fail, and a directory that cannot be opened or an
entry whose status cannot be read is passed over; a process that was aborted does not
go on. -/
def outcomes : (op : DiscoveryOp) → FileSystem → List (op.Ret × FileSystem)
  | .createSearchPath path, files => [(true, files.createDirectories path), (false, files)]
  | .addWatch path, files =>
      if path ∈ files.directories then
        let (watch, after) := files.addWatch path
        [(some watch, after), (none, files)]
      else [(none, files)]
  | .removeWatch watch, files => [((), files.removeWatch watch)]
  | .instanceDirectories serviceId, files =>
      [(some (files.instanceDirectories serviceId), files), (none, files), (some [], files)]
  | .flagFileExists path qualityType, files =>
      [(files.flagFileExists path qualityType, files), (false, files)]
  | .visit watches, files => watches.permutations.map fun order => (order, files)
  | .read count, files =>
      [(files.queue.take count, { files with queue := files.queue.drop count })]
  | .abort _, _ => []

end DiscoveryOp

abbrev DiscoveryProgram := Program DiscoveryOp DiscoveryOp.Ret

open Program (perform)

/-- What is asserted holds or ends the process. -/
def orAbort {α : Type} : Except Abort α → DiscoveryProgram α
  | .ok result => pure result
  | .error reason => .step (.abort reason) nofun

/-! ## Crawling -/

namespace FlagFileCrawler

/-- Adds a watch to a search path, which is created where it is missing. -/
def addWatchToInotifyInstance (identifier : EnrichedInstanceIdentifier) :
    DiscoveryProgram (Option WatchDescriptor) := do
  let created ← perform (DiscoveryOp.createSearchPath identifier.lolaServiceInstanceIdentifier)
  if created then perform (DiscoveryOp.addWatch identifier.lolaServiceInstanceIdentifier)
  else pure none

section Gathering

variable (identifier : EnrichedInstanceIdentifier) (unset : identifier.instanceId = none)

/-- The identifier of one of the instances of a service. -/
def identifierOf (instanceId : InstanceId) : EnrichedInstanceIdentifier :=
  (EnrichedInstanceIdentifier.withInstanceId identifier.instanceIdentifier instanceId
    (EnrichedInstanceIdentifier.unset_of_none unset)).withQualityType .invalid

/-- The identifiers of the instances whose directories a service has. -/
def gatherExistingInstanceDirectories :
    DiscoveryProgram (Option (List EnrichedInstanceIdentifier)) := do
  let found ← perform (DiscoveryOp.instanceDirectories identifier.serviceId)
  pure (found.map (·.map (identifierOf identifier unset)))

end Gathering

/-- Adds what was found to a map; an entry that is there stays. -/
def emplaceWatch (watches : WatchDescriptors) (watch : WatchDescriptor)
    (identifier : EnrichedInstanceIdentifier) : WatchDescriptors :=
  if watch ∈ watches.map Prod.fst then watches else watches ++ [(watch, identifier)]

/-- Watches for the instances found; the first that fails ends it. -/
def addInstanceWatches : List EnrichedInstanceIdentifier → WatchDescriptors →
      DiscoveryProgram (Option WatchDescriptors)
  | [], watches => pure (some watches)
  | identifier :: rest, watches => do
      let watch ← addWatchToInotifyInstance identifier
      match watch with
      | none => pure none
      | some watch => addInstanceWatches rest (emplaceWatch watches watch identifier)

/-- Looks for flag files of both qualities. -/
def mapInstancesToQualityTypes :
    List EnrichedInstanceIdentifier → KnownInstances → DiscoveryProgram KnownInstances
  | [], known => pure known
  | identifier :: rest, known => do
      let asilB ← perform
        (.flagFileExists identifier.lolaServiceInstanceIdentifier .asilB)
      let known := if asilB then known.modify (·.insert identifier) .asilB else known
      let asilQm ← perform
        (.flagFileExists identifier.lolaServiceInstanceIdentifier .asilQm)
      let known := if asilQm then known.modify (·.insert identifier) .asilQm else known
      mapInstancesToQualityTypes rest known

def noInstances : KnownInstances := ⟨.empty, .empty⟩

/-- The watches for an identifier and for the instances that `gather` finds below it,
and which instances are offered. -/
def crawlAndWatchWith (gather : (identifier : EnrichedInstanceIdentifier) →
      identifier.instanceId = none → DiscoveryProgram (Option (List EnrichedInstanceIdentifier)))
    (identifier : EnrichedInstanceIdentifier) :
    DiscoveryProgram (Option (WatchDescriptors × KnownInstances)) := do
  let unaware := identifier.withQualityType .invalid
  let watch ← addWatchToInotifyInstance unaware
  match watch with
  | none => pure none
  | some watch =>
      if unset : identifier.instanceId = none then do
        let found ← gather unaware unset
        match found with
        | none => pure none
        | some found => do
            let watches ← addInstanceWatches found [(watch, unaware)]
            match watches with
            | none => pure none
            | some watches => do
                let known ← mapInstancesToQualityTypes found noInstances
                pure (some (watches, known))
      else do
        let known ← mapInstancesToQualityTypes [unaware] noInstances
        pure (some ([(watch, unaware)], known))

def crawlAndWatch (identifier : EnrichedInstanceIdentifier) :
    DiscoveryProgram (Option (WatchDescriptors × KnownInstances)) :=
  crawlAndWatchWith gatherExistingInstanceDirectories identifier

end FlagFileCrawler

end MwCom.ServiceDiscovery
