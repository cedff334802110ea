/-
Module: MwCom.ServiceDiscovery.ClientSteps
Purpose: What each function of the client changes, in the terms of its fields.
Trusted boundary: none
Main exports: link_ok, unlink_ok, eraseWatch_ok, link_same, unlink_same
-/
import MwCom.ServiceDiscovery.ServiceDiscoveryClient

namespace MwCom.ServiceDiscovery

namespace ServiceDiscoveryClient

variable {client after : ServiceDiscoveryClient} {descriptor : WatchDescriptor}
  {handle : FindServiceHandle}

/-! ## Fields -/

section Fields

variable {search : Option SearchRequest} {watch : Option Watch}

@[simp] theorem setSearch_searchRequests : (client.setSearch handle search).searchRequests =
      Function.update client.searchRequests handle search := rfl

@[simp] theorem setSearch_watches : (client.setSearch handle search).watches = client.watches := rfl

@[simp] theorem setWatch_searchRequests :
    (client.setWatch descriptor watch).searchRequests = client.searchRequests := rfl

@[simp] theorem setWatch_watches : (client.setWatch descriptor watch).watches =
      Function.update client.watches descriptor watch := rfl

end Fields

/-! ## What is known of identifiers -/

/-- What differs between two clients is what they know of identifiers. -/
structure SameButWatched (client after : ServiceDiscoveryClient) : Prop where
  searchRequests : after.searchRequests = client.searchRequests
  obsoleteSearchRequests : after.obsoleteSearchRequests = client.obsoleteSearchRequests
  watches : after.watches = client.watches
  knownInstances : after.knownInstances = client.knownInstances

theorem SameButWatched.refl : SameButWatched client client := ⟨rfl, rfl, rfl, rfl⟩

theorem SameButWatched.setWatched (same : SameButWatched client after)
    (identifier : LolaServiceInstanceIdentifier) (watched : Option IdentifierWatches) :
    SameButWatched client (after.setWatched identifier watched) :=
  ⟨same.searchRequests, same.obsoleteSearchRequests, same.watches, same.knownInstances⟩

theorem SameButWatched.trans {last : ServiceDiscoveryClient}
    (first : SameButWatched client after) (second : SameButWatched after last) :
    SameButWatched client last :=
  ⟨second.searchRequests.trans first.searchRequests,
    second.obsoleteSearchRequests.trans first.obsoleteSearchRequests,
    second.watches.trans first.watches, second.knownInstances.trans first.knownInstances⟩

theorem emplaceWatched_same (identifier : LolaServiceInstanceIdentifier)
    (watched : IdentifierWatches) :
    SameButWatched client (client.emplaceWatched identifier watched) := by
  rw [emplaceWatched]
  split
  · exact .refl
  · exact SameButWatched.refl.setWatched _ _

theorem storeChildWatch_same (serviceId : LolaServiceId) :
    SameButWatched client (client.storeChildWatch serviceId descriptor) := by
  rw [storeChildWatch]
  split
  · exact SameButWatched.refl.setWatched _ _
  · exact SameButWatched.refl.setWatched _ _

theorem forgetWatched_same (identifier : LolaServiceInstanceIdentifier) :
    SameButWatched client (client.forgetWatched descriptor identifier) := by
  rw [forgetWatched]
  split
  · have gone : SameButWatched client (client.setWatched identifier none) :=
      SameButWatched.refl.setWatched identifier none
    simp only
    split
    · exact gone.setWatched _ _
    · exact gone
  · split
    · exact SameButWatched.refl.setWatched _ _
    · exact .refl

theorem enterWatched_same (identifier : LolaServiceInstanceIdentifier) :
    SameButWatched client (client.enterWatched descriptor identifier) := by
  rw [enterWatched]
  have entered : SameButWatched client
      (client.emplaceWatched identifier ⟨some descriptor, []⟩) :=
    emplaceWatched_same identifier ⟨some descriptor, []⟩
  cases identifier.instanceId with
  | none => exact entered
  | some instanceId => exact entered.trans (storeChildWatch_same identifier.serviceId)

/-! ## Watches -/

/-- What a sequence of assertions comes to. -/
theorem ok_of_bind {α β : Type} {first : Except Abort α} {rest : α → Except Abort β} {result : β}
    (isOk : (first >>= rest) = .ok result) :
    ∃ value, first = .ok value ∧ rest value = .ok result := by
  cases first with
  | error reason => cases isOk
  | ok value => exact ⟨value, rfl, isOk⟩

/-- Both sides of a new link. -/
theorem link_ok (linked : client.linkWatchWithSearchRequest descriptor handle = .ok after) :
    ∃ watch search, client.watches descriptor = some watch ∧
      client.searchRequests handle = some search ∧
      handle ∉ watch.searches ∧ descriptor ∉ search.watches ∧
      after = (client.setWatch descriptor
          (some { watch with searches := handle :: watch.searches })).setSearch handle
          (some { search with watches := descriptor :: search.watches }) := by
  rw [linkWatchWithSearchRequest] at linked
  split at linked
  · rename_i watch search isWatch isSearch
    split at linked
    · cases linked
    · rename_i newSearch
      split at linked
      · cases linked
      · rename_i newWatch
        cases linked
        exact ⟨watch, search, isWatch, isSearch, newSearch, newWatch, rfl⟩
  · cases linked

/-- Both sides of a link that goes. -/
theorem unlink_ok (unlinked : client.unlinkWatchWithSearchRequest descriptor handle = .ok after) :
    ∃ watch search, client.watches descriptor = some watch ∧
      client.searchRequests handle = some search ∧
      handle ∈ watch.searches ∧ descriptor ∈ search.watches ∧
      after = (client.setWatch descriptor
          (some { watch with searches := without watch.searches handle })).setSearch handle
          (some { search with watches := without search.watches descriptor }) := by
  rw [unlinkWatchWithSearchRequest] at unlinked
  split at unlinked
  · rename_i watch search isWatch isSearch
    split at unlinked
    · cases unlinked
    · rename_i listed
      split at unlinked
      · cases unlinked
      · rename_i watched
        cases unlinked
        exact ⟨watch, search, isWatch, isSearch, not_not.mp listed, not_not.mp watched, rfl⟩
  · cases unlinked

/-- Only a watch without searches is erased. -/
theorem eraseWatch_ok {watch : Watch} (erased : client.eraseWatch descriptor watch = .ok after) :
    watch.searches = [] ∧ after = (client.forgetWatched descriptor
        watch.identifier.lolaServiceInstanceIdentifier).setWatch descriptor none := by
  rw [eraseWatch] at erased
  split at erased
  · cases erased
  · rename_i unlinked
    cases erased
    exact ⟨not_not.mp unlinked, rfl⟩

/-! ## Links

Which watches there are and for what, and which searches there are and what their handlers
were told. -/

variable (client)

def identifierOf (descriptor : WatchDescriptor) : Option EnrichedInstanceIdentifier :=
  (client.watches descriptor).map Watch.identifier

/-- A search without its watches. -/
structure SearchRecord where
  identifier : EnrichedInstanceIdentifier
  previousHandles : Finset HandleType
  delivered : List (Finset HandleType)

def recordOf (handle : FindServiceHandle) : Option SearchRecord :=
  (client.searchRequests handle).map fun search =>
    ⟨search.identifier, search.previousHandles, search.delivered⟩

variable {client}

theorem identifierOf_of_watch {watch : Watch} (isWatch : client.watches descriptor = some watch) :
    client.identifierOf descriptor = some watch.identifier := by
  rw [identifierOf, isWatch]
  rfl

theorem recordOf_of_search {search : SearchRequest}
    (isSearch : client.searchRequests handle = some search) :
    client.recordOf handle =
      some ⟨search.identifier, search.previousHandles, search.delivered⟩ := by
  rw [recordOf, isSearch]
  rfl

/-- What two clients agree on when only their links differ. -/
structure SameButLinks (client after : ServiceDiscoveryClient) : Prop where
  identifierOf : after.identifierOf = client.identifierOf
  recordOf : after.recordOf = client.recordOf
  obsoleteSearchRequests : after.obsoleteSearchRequests = client.obsoleteSearchRequests
  watchedIdentifiers : after.watchedIdentifiers = client.watchedIdentifiers
  knownInstances : after.knownInstances = client.knownInstances

/-- A watch and a search whose sides of the links are replaced. -/
theorem relink_same {watch : Watch} {search : SearchRequest}
    (isWatch : client.watches descriptor = some watch)
    (isSearch : client.searchRequests handle = some search)
    (searches : List FindServiceHandle) (watches : List WatchDescriptor) :
    SameButLinks client
      ((client.setWatch descriptor (some { watch with searches := searches })).setSearch handle
        (some { search with watches := watches })) := by
  constructor
  · funext other
    by_cases same : other = descriptor
    · rw [same, identifierOf_of_watch isWatch]
      simp [identifierOf]
    · simp [identifierOf, Function.update_of_ne same]
  · funext other
    by_cases same : other = handle
    · rw [same, recordOf_of_search isSearch]
      simp [recordOf]
    · simp [recordOf, Function.update_of_ne same]
  · rfl
  · rfl
  · rfl

theorem link_same (linked : client.linkWatchWithSearchRequest descriptor handle = .ok after) :
    SameButLinks client after := by
  rcases link_ok linked with ⟨watch, search, isWatch, isSearch, _, _, isAfter⟩
  rw [isAfter]
  exact relink_same isWatch isSearch _ _

theorem unlink_same (unlinked : client.unlinkWatchWithSearchRequest descriptor handle = .ok after) :
    SameButLinks client after := by
  rcases unlink_ok unlinked with ⟨watch, search, isWatch, isSearch, _, _, isAfter⟩
  rw [isAfter]
  exact relink_same isWatch isSearch _ _

end ServiceDiscoveryClient

end MwCom.ServiceDiscovery
