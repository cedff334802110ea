/-
Module: MwCom.ServiceDiscovery.ServiceDiscoveryClient
Purpose: The searches of a process, the watches they are linked with, and what is
  known of the instances they look for.
Trusted boundary: sets are lists without repetition; a handler is called with the set
  of the handles that it is given.
Main exports: ServiceDiscoveryClient, storeWatch, eraseWatch,
  linkWatchWithSearchRequest, unlinkWatchWithSearchRequest, startFindService,
  handleDeletionEvents, handleCreationEvent, callHandler
-/
import MwCom.ServiceDiscovery.FlagFileCrawler

namespace MwCom.ServiceDiscovery

open Interleaving
open Program (perform)
open MwCom.Configuration (QualityType)

/-! ## State -/

abbrev FindServiceHandle := Nat

structure SearchRequest where
  watches : List WatchDescriptor
  identifier : EnrichedInstanceIdentifier
  previousHandles : Finset HandleType
  /-- The sets of handles that the handler was called with. -/
  delivered : List (Finset HandleType)
deriving DecidableEq

structure Watch where
  identifier : EnrichedInstanceIdentifier
  searches : List FindServiceHandle
deriving DecidableEq

structure IdentifierWatches where
  watchDescriptor : Option WatchDescriptor
  childWatches : List WatchDescriptor
deriving DecidableEq

structure ServiceDiscoveryClient where
  searchRequests : FindServiceHandle → Option SearchRequest
  obsoleteSearchRequests : List FindServiceHandle
  watches : WatchDescriptor → Option Watch
  watchedIdentifiers : LolaServiceInstanceIdentifier → Option IdentifierWatches
  knownInstances : KnownInstances

namespace ServiceDiscoveryClient

def initial : ServiceDiscoveryClient where
  searchRequests _ := none
  obsoleteSearchRequests := []
  watches _ := none
  watchedIdentifiers _ := none
  knownInstances := FlagFileCrawler.noInstances

variable (client : ServiceDiscoveryClient)

def setSearch (handle : FindServiceHandle) (search : Option SearchRequest) :
    ServiceDiscoveryClient :=
  { client with searchRequests := Function.update client.searchRequests handle search }

def setWatch (descriptor : WatchDescriptor) (watch : Option Watch) : ServiceDiscoveryClient :=
  { client with watches := Function.update client.watches descriptor watch }

def setWatched (identifier : LolaServiceInstanceIdentifier)
    (watched : Option IdentifierWatches) : ServiceDiscoveryClient :=
  { client with watchedIdentifiers := Function.update client.watchedIdentifiers identifier watched }

/-! ## Watches -/

/-- An entry for the identifier, unless there is one. -/
def emplaceWatched (identifier : LolaServiceInstanceIdentifier)
    (watched : IdentifierWatches) : ServiceDiscoveryClient :=
  match client.watchedIdentifiers identifier with
  | some _ => client
  | none => client.setWatched identifier (some watched)

/-- Enters the watch of an instance below the identifier of any instance. -/
def storeChildWatch (serviceId : LolaServiceId) (descriptor : WatchDescriptor) :
    ServiceDiscoveryClient :=
  match client.watchedIdentifiers (.any serviceId) with
  | some watched =>
      client.setWatched (.any serviceId)
        (some { watched with childWatches := watched.childWatches.insert descriptor })
  | none => client.setWatched (.any serviceId) (some ⟨none, [descriptor]⟩)

/-- Enters a watch for an identifier, and for any instance of its service. -/
def enterWatched (descriptor : WatchDescriptor) (identifier : LolaServiceInstanceIdentifier) :
    ServiceDiscoveryClient :=
  let client := client.emplaceWatched identifier ⟨some descriptor, []⟩
  match identifier.instanceId with
  | some _ => client.storeChildWatch identifier.serviceId descriptor
  | none => client

/-- A watch without a search, unless there is one for the descriptor. -/
def emplaceWatch (descriptor : WatchDescriptor) (enriched : EnrichedInstanceIdentifier) :
    ServiceDiscoveryClient :=
  match client.watches descriptor with
  | some _ => client
  | none => client.setWatch descriptor (some ⟨enriched, []⟩)

def storeWatch (descriptor : WatchDescriptor) (enriched : EnrichedInstanceIdentifier) :
    ServiceDiscoveryClient :=
  (client.emplaceWatch descriptor enriched).enterWatched descriptor
    enriched.lolaServiceInstanceIdentifier

/-- Takes a watch out of what is known of the identifiers that are watched. -/
def forgetWatched (descriptor : WatchDescriptor) (identifier : LolaServiceInstanceIdentifier) :
    ServiceDiscoveryClient :=
  match identifier.instanceId with
  | some _ =>
      let client := client.setWatched identifier none
      match client.watchedIdentifiers (.any identifier.serviceId) with
      | some watched =>
          client.setWatched (.any identifier.serviceId)
            (some { watched with childWatches := without watched.childWatches descriptor })
      | none => client
  | none =>
      match client.watchedIdentifiers identifier with
      | some watched =>
          client.setWatched identifier (some { watched with watchDescriptor := none })
      | none => client

def eraseWatch (descriptor : WatchDescriptor) (watch : Watch) :
    Except Abort ServiceDiscoveryClient :=
  if watch.searches ≠ [] then .error .watchStillLinked
  else
    .ok <| (client.forgetWatched descriptor watch.identifier.lolaServiceInstanceIdentifier).setWatch
        descriptor none

def linkWatchWithSearchRequest (descriptor : WatchDescriptor) (handle : FindServiceHandle) :
    Except Abort ServiceDiscoveryClient :=
  match client.watches descriptor, client.searchRequests handle with
  | some watch, some search =>
      if handle ∈ watch.searches then .error .searchKeyNotInserted
      else if descriptor ∈ search.watches then .error .watchKeyNotInserted
      else
        .ok <| (client.setWatch descriptor
            (some { watch with searches := handle :: watch.searches })).setSearch handle
            (some { search with watches := descriptor :: search.watches })
  | _, _ => .error .invalidIterators

def unlinkWatchWithSearchRequest (descriptor : WatchDescriptor) (handle : FindServiceHandle) :
    Except Abort ServiceDiscoveryClient :=
  match client.watches descriptor, client.searchRequests handle with
  | some watch, some search =>
      if handle ∉ watch.searches then .error .searchKeyNotErased
      else if descriptor ∉ search.watches then .error .watchKeyNotErased
      else
        .ok <| (client.setWatch descriptor
            (some { watch with searches := without watch.searches handle })).setSearch handle
            (some { search with watches := without search.watches descriptor })
  | _, _ => .error .invalidIterators

/-! ## Known instances -/

def mergeKnown (found : KnownInstances) : ServiceDiscoveryClient :=
  { client with
    knownInstances := ⟨client.knownInstances.asilB.merge found.asilB,
        client.knownInstances.asilQm.merge found.asilQm⟩ }

def removeKnown (identifier : EnrichedInstanceIdentifier) : ServiceDiscoveryClient :=
  { client with knownInstances := client.knownInstances.map (·.remove identifier) }

/-- The process ends for an identifier without a quality. -/
def getKnownHandles (identifier : EnrichedInstanceIdentifier) (known : KnownInstances) :
    Except Abort (Finset HandleType) :=
  match known.get identifier.qualityType with
  | some container => .ok (container.getKnownHandles identifier)
  | none => .error .qualityNotSet

def onInstanceFlagFileCreated (identifier : EnrichedInstanceIdentifier) (entry : Entry) :
    ServiceDiscoveryClient :=
  match entry with
  | .flagFile name =>
      { client with
        knownInstances := client.knownInstances.modify (·.insert identifier) name.qualityType }
  -- does not follow the convention
  | .directory _ => client

def onInstanceFlagFileRemoved (identifier : EnrichedInstanceIdentifier) (entry : Entry) :
    ServiceDiscoveryClient :=
  match entry with
  | .flagFile name =>
      { client with
        knownInstances := client.knownInstances.modify (·.remove identifier) name.qualityType }
  | .directory _ => client

/-! ## Search requests -/

/-- Stores watches and links each of them with a search. -/
def storeAndLinkWatches (client : ServiceDiscoveryClient) (handle : FindServiceHandle) :
    WatchDescriptors → Except Abort ServiceDiscoveryClient
  | [] => .ok client
  | (descriptor, identifier) :: rest => do
      let client ←
        (client.storeWatch descriptor identifier).linkWatchWithSearchRequest descriptor handle
      client.storeAndLinkWatches handle rest

/-- `TransferNewSearchRequest` with the watches in the order in which they are gone
through. -/
def transferNewSearchRequest (handle : FindServiceHandle)
    (identifier : EnrichedInstanceIdentifier) (watches : WatchDescriptors)
    (known : KnownInstances) (previousHandles : Finset HandleType) :
    Except Abort ServiceDiscoveryClient :=
  match client.searchRequests handle with
  | some _ => .error .findServiceHandleNotUnique
  | none => do
      let client := client.setSearch handle (some ⟨[], identifier, previousHandles, []⟩)
      let client ← client.storeAndLinkWatches handle watches
      .ok (client.mergeKnown known)

/-- The handler of a search is called. -/
def callStoredHandler (handle : FindServiceHandle) (handles : Finset HandleType) :
    ServiceDiscoveryClient :=
  match client.searchRequests handle with
  | some search =>
      client.setSearch handle (some { search with delivered := search.delivered ++ [handles] })
  | none => client

/-- The watches of an identifier that is watched, from the cache. -/
def matchingWatches : List WatchDescriptor → Except Abort WatchDescriptors
  | [] => .ok []
  | descriptor :: rest =>
      match client.watches descriptor with
      | none => .error .noMatchingWatch
      | some watch => do
          let watches ← matchingWatches rest
          .ok (if descriptor ∈ watches.map Prod.fst then watches
            else (descriptor, watch.identifier) :: watches)

/-- Stores a search with what was found for it, and calls its handler if something was
found. -/
def storeSearch (handle : FindServiceHandle) (identifier : EnrichedInstanceIdentifier)
    (watches : WatchDescriptors) (known : KnownInstances) (handles : Finset HandleType) :
    DiscoveryProgram ServiceDiscoveryClient := do
  let watches ← perform (DiscoveryOp.visit watches)
  let client ← orAbort (client.transferNewSearchRequest handle identifier watches known handles)
  pure (if handles = ∅ then client else client.callStoredHandler handle handles)

/-- Looks for an identifier whose directory is not watched. -/
def startCrawling (handle : FindServiceHandle) (identifier : EnrichedInstanceIdentifier) :
    DiscoveryProgram ServiceDiscoveryClient := do
  let crawled ← FlagFileCrawler.crawlAndWatch identifier
  match crawled with
  -- failed to crawl the file system
  | none => pure client
  | some (watches, known) => do
      let handles ← orAbort (getKnownHandles identifier known)
      client.storeSearch handle identifier watches known handles

def startFindService (handle : FindServiceHandle) (identifier : EnrichedInstanceIdentifier) :
    DiscoveryProgram ServiceDiscoveryClient :=
  match client.watchedIdentifiers identifier.lolaServiceInstanceIdentifier with
  | some ⟨some descriptor, children⟩ => do
      -- the same search is in progress already: reuse what is known
      let handles ← orAbort (getKnownHandles identifier client.knownInstances)
      let watches ← orAbort (client.matchingWatches (descriptor :: children))
      client.storeSearch handle identifier watches FlagFileCrawler.noInstances handles
  | some ⟨none, _⟩ => client.startCrawling handle identifier
  | none => client.startCrawling handle identifier

def stopFindService (handle : FindServiceHandle) : ServiceDiscoveryClient :=
  { client with obsoleteSearchRequests := client.obsoleteSearchRequests.insert handle }

/-! ## Obsolete searches -/

/-- Unlinks a search from watches; a watch without a search is given up, and what was
known through it. -/
def unlinkEach (handle : FindServiceHandle) :
    List WatchDescriptor → ServiceDiscoveryClient → DiscoveryProgram ServiceDiscoveryClient
  | [], client => pure client
  | descriptor :: rest, client =>
      match client.watches descriptor with
      -- could not find the watch
      | none => unlinkEach handle rest client
      | some watch => do
          let client ← orAbort (client.unlinkWatchWithSearchRequest descriptor handle)
          if without watch.searches handle = [] then do
            let client := client.removeKnown watch.identifier
            let _ ← perform (.removeWatch descriptor)
            let client ← orAbort (client.eraseWatch descriptor ⟨watch.identifier, []⟩)
            unlinkEach handle rest client
          else
            unlinkEach handle rest client

def transferObsoleteSearchRequest (handle : FindServiceHandle) :
    DiscoveryProgram ServiceDiscoveryClient :=
  match client.searchRequests handle with
  -- could not find the search request
  | none => pure client
  | some search => do
      let client ← unlinkEach handle search.watches client
      pure (client.setSearch handle none)

def transferEach :
    List FindServiceHandle → ServiceDiscoveryClient → DiscoveryProgram ServiceDiscoveryClient
  | [], client => pure client
  | handle :: rest, client => do
      let client ← client.transferObsoleteSearchRequest handle
      transferEach rest client

def transferObsoleteSearchRequests : DiscoveryProgram ServiceDiscoveryClient := do
  let client ← transferEach client.obsoleteSearchRequests client
  pure { client with obsoleteSearchRequests := [] }

/-! ## Events -/

def addImpacted (impacted searches : List FindServiceHandle) : List FindServiceHandle :=
  searches.foldr List.insert impacted

/-- One deletion event, and the searches it concerns. -/
def handleDeletionEvent (impacted : List FindServiceHandle) :
    InotifyEvent → Except Abort (ServiceDiscoveryClient × List FindServiceHandle)
  | .deleted descriptor entry =>
      match client.watches descriptor with
      | none => .ok (client, impacted)
      | some watch =>
          if watch.identifier.instanceId = none then .error .directoryDeleted
          else
            .ok (client.onInstanceFlagFileRemoved watch.identifier entry,
              addImpacted impacted watch.searches)
  | _ => .ok (client, impacted)

/-- The loop of `HandleDeletionEvents`. -/
def handleDeletionEvents (client : ServiceDiscoveryClient) (impacted : List FindServiceHandle) :
    List InotifyEvent → Except Abort (ServiceDiscoveryClient × List FindServiceHandle)
  | [] => .ok (client, impacted)
  | event :: rest => do
      let (client, impacted) ← client.handleDeletionEvent impacted event
      client.handleDeletionEvents impacted rest

def linkEach (client : ServiceDiscoveryClient) (descriptor : WatchDescriptor) :
    List FindServiceHandle → Except Abort ServiceDiscoveryClient
  | [] => .ok client
  | handle :: rest => do
      let client ← client.linkWatchWithSearchRequest descriptor handle
      client.linkEach descriptor rest

/-- The searches that look for any instance of a service look for one whose directory
was created. -/
def onInstanceDirectoryCreated (watch : Watch) (unset : watch.identifier.instanceId = none)
    (entry : Entry) : DiscoveryProgram ServiceDiscoveryClient :=
  match entry with
  -- could not determine an instance id
  | .flagFile _ => pure client
  | .directory instanceId => do
      let identifier := EnrichedInstanceIdentifier.withInstanceId
        watch.identifier.instanceIdentifier instanceId
        (EnrichedInstanceIdentifier.unset_of_none unset)
      let crawled ← FlagFileCrawler.crawlAndWatch identifier
      match crawled with
      | none => orAbort (.error .crawlingFailed)
      | some ([(descriptor, found)], known) => do
          let client ← orAbort
            ((client.storeWatch descriptor found).linkEach descriptor watch.searches)
          pure (client.mergeKnown known)
      | some _ => orAbort (.error .notOneWatch)

/-- One creation event, and the searches it concerns. -/
def handleCreationEvent (impacted : List FindServiceHandle) :
    InotifyEvent → DiscoveryProgram (ServiceDiscoveryClient × List FindServiceHandle)
  | .created descriptor entry =>
      match client.watches descriptor with
      | none => pure (client, impacted)
      | some watch =>
          if unset : watch.identifier.instanceId = none then do
            let client ← client.onInstanceDirectoryCreated watch unset entry
            pure (client, addImpacted impacted watch.searches)
          else
            pure (client.onInstanceFlagFileCreated watch.identifier entry,
              addImpacted impacted watch.searches)
  | _ => pure (client, impacted)

/-! ## Handlers -/

/-- The pass of `CallHandlers` for one search. -/
def callHandler (handle : FindServiceHandle) : Except Abort ServiceDiscoveryClient :=
  match client.searchRequests handle with
  | none => .ok client
  | some search =>
      if handle ∈ client.obsoleteSearchRequests then .ok client
      else do
        let handles ← getKnownHandles search.identifier client.knownInstances
        if search.previousHandles = handles then .ok client
        else
          .ok <| (client.setSearch handle
              (some { search with previousHandles := handles })).callStoredHandler handle handles

end ServiceDiscoveryClient

end MwCom.ServiceDiscovery
