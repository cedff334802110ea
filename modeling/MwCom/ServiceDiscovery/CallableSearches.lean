/-
Module: MwCom.ServiceDiscovery.CallableSearches
Purpose: Which searches the client still calls handlers of, and that none of its functions
  but the start of a search adds one.
Trusted boundary: none
Main exports: ServiceDiscoveryClient.Callable, startSearch_returns, handleEvents_returns,
  handleCreation_returns, callHandler_noNew
-/
import MwCom.ServiceDiscovery.ClientSteps
import MwCom.ServiceDiscovery.DiscoveryThreads

namespace MwCom.ServiceDiscovery

open Interleaving
open Program (Returns)
open Program (perform)

namespace ServiceDiscoveryClient

variable {client after : ServiceDiscoveryClient} {handle : FindServiceHandle}

/-- The handler of the search may still be called. -/
def Callable (client : ServiceDiscoveryClient) (handle : FindServiceHandle) : Prop :=
  client.searchRequests handle ≠ none ∧ handle ∉ client.obsoleteSearchRequests

/-- A search that is not there does not come, and those to be removed stay the same. -/
structure NoNewSearch (client after : ServiceDiscoveryClient) : Prop where
  searches : ∀ handle, client.searchRequests handle = none → after.searchRequests handle = none
  obsolete : after.obsoleteSearchRequests = client.obsoleteSearchRequests

namespace NoNewSearch

theorem refl : NoNewSearch client client := ⟨fun _ absent => absent, rfl⟩

theorem trans {last : ServiceDiscoveryClient} (first : NoNewSearch client after)
    (second : NoNewSearch after last) : NoNewSearch client last :=
  ⟨fun handle absent => second.searches handle (first.searches handle absent),
    second.obsolete.trans first.obsolete⟩

theorem callable (noNew : NoNewSearch client after) (callable : after.Callable handle) :
    client.Callable handle := by
  constructor
  · intro absent
    exact callable.1 (noNew.searches handle absent)
  · rw [← noNew.obsolete]
    exact callable.2

theorem of_watched (same : SameButWatched client after) : NoNewSearch client after :=
  ⟨fun handle absent => by rw [same.searchRequests, absent], same.obsoleteSearchRequests⟩

theorem of_links (same : SameButLinks client after) : NoNewSearch client after := by
  refine ⟨fun handle absent => ?_, same.obsoleteSearchRequests⟩
  have record : after.recordOf handle = none := by
    rw [same.recordOf]
    simp [recordOf, absent]
  simpa [recordOf] using record

theorem setWatch (noNew : NoNewSearch client after) (descriptor : WatchDescriptor)
    (watch : Option Watch) : NoNewSearch client (after.setWatch descriptor watch) :=
  ⟨noNew.searches, noNew.obsolete⟩

theorem removeKnown (noNew : NoNewSearch client after) (identifier : EnrichedInstanceIdentifier) :
    NoNewSearch client (after.removeKnown identifier) :=
  ⟨noNew.searches, noNew.obsolete⟩

theorem mergeKnown (noNew : NoNewSearch client after) (found : KnownInstances) :
    NoNewSearch client (after.mergeKnown found) :=
  ⟨noNew.searches, noNew.obsolete⟩

end NoNewSearch

/-- What is asserted or ends the process. -/
theorem orAbort_returns {α : Type} {result : Except Abort α} {post : α → Prop}
    (holds : ∀ value, result = .ok value → post value) : (orAbort result).Returns post := by
  cases result with
  | ok value => exact holds value rfl
  | error reason => exact fun answer => nomatch answer

theorem storeWatch_noNew (descriptor : WatchDescriptor) (enriched : EnrichedInstanceIdentifier) :
    NoNewSearch client (client.storeWatch descriptor enriched) := by
  rw [storeWatch]
  apply NoNewSearch.trans _ (NoNewSearch.of_watched (enterWatched_same _))
  rw [emplaceWatch]
  split
  · exact .refl
  · exact NoNewSearch.refl.setWatch _ _

theorem eraseWatch_noNew {descriptor : WatchDescriptor} {watch : Watch}
    (erased : client.eraseWatch descriptor watch = .ok after) : NoNewSearch client after := by
  obtain ⟨-, rfl⟩ := eraseWatch_ok erased
  exact (NoNewSearch.of_watched (forgetWatched_same _)).setWatch _ _

/-! ## Obsolete searches -/

theorem unlinkEach_noNew (handle : FindServiceHandle) (watches : List WatchDescriptor)
    (client : ServiceDiscoveryClient) :
    (unlinkEach handle watches client).Returns (NoNewSearch client) := by
  induction watches generalizing client with
  | nil => exact NoNewSearch.refl
  | cons descriptor rest ih =>
      rw [unlinkEach]
      split
      · exact ih client
      · rename_i watch isWatch
        apply Returns.bind (orAbort_returns fun value unlinked =>
          NoNewSearch.of_links (unlink_same unlinked))
        intro unlinked noNew
        split
        · intro _
          apply Returns.bind (orAbort_returns fun value erased => eraseWatch_noNew erased)
          intro erased noNewErased
          apply (ih erased).mono
          intro result noNewRest
          exact (noNew.removeKnown _).trans (noNewErased.trans noNewRest)
        · apply (ih unlinked).mono
          intro result noNewRest
          exact noNew.trans noNewRest

theorem transferObsoleteSearchRequest_noNew (handle : FindServiceHandle) :
    (client.transferObsoleteSearchRequest handle).Returns fun after =>
      NoNewSearch client after ∧ after.searchRequests handle = none := by
  rw [transferObsoleteSearchRequest]
  split
  · rename_i absent
    exact ⟨.refl, absent⟩
  · apply Returns.bind (unlinkEach_noNew handle _ client)
    intro unlinked noNew
    constructor
    · constructor
      · intro other absent
        have still := noNew.searches other absent
        by_cases same : other = handle
        · simp [same]
        · simpa [same] using still
      · exact noNew.obsolete
    · simp

theorem transferEach_noNew (handles : List FindServiceHandle) (client : ServiceDiscoveryClient) :
    (transferEach handles client).Returns fun after =>
      NoNewSearch client after ∧ ∀ handle ∈ handles, after.searchRequests handle = none := by
  induction handles generalizing client with
  | nil => exact ⟨.refl, fun _ member => nomatch member⟩
  | cons handle rest ih =>
      apply Returns.bind (transferObsoleteSearchRequest_noNew handle)
      intro transferred first
      apply (ih transferred).mono
      intro result second
      constructor
      · exact first.1.trans second.1
      · intro other member
        obtain rfl | below := List.mem_cons.mp member
        · exact second.1.searches _ first.2
        · exact second.2 other below

/-- The searches that are removed were not to be called any more. -/
theorem transferObsoleteSearchRequests_returns :
    client.transferObsoleteSearchRequests.Returns fun after =>
      ∀ handle, after.Callable handle → client.Callable handle := by
  apply Returns.bind (transferEach_noNew _ client)
  intro transferred noNew handle callable
  constructor
  · intro absent
    exact callable.1 (noNew.1.searches handle absent)
  · intro obsolete
    exact callable.1 (noNew.2 handle obsolete)

/-! ## Events -/

theorem modifyKnown_noNew (known : KnownInstances) :
    NoNewSearch client { client with knownInstances := known } :=
  ⟨fun _ absent => absent, rfl⟩

theorem handleDeletionEvent_noNew {impacted : List FindServiceHandle} {event : InotifyEvent}
    {result : ServiceDiscoveryClient × List FindServiceHandle}
    (handled : client.handleDeletionEvent impacted event = .ok result) :
    NoNewSearch client result.1 := by
  rw [handleDeletionEvent.eq_def] at handled
  split at handled
  · split at handled
    · cases handled
      exact .refl
    · split at handled
      · cases handled
      · cases handled
        rw [onInstanceFlagFileRemoved.eq_def]
        split
        · exact modifyKnown_noNew _
        · exact .refl
  · cases handled
    exact .refl

theorem handleDeletionEvents_noNew {impacted : List FindServiceHandle}
    {events : List InotifyEvent} {result : ServiceDiscoveryClient × List FindServiceHandle}
    (handled : client.handleDeletionEvents impacted events = .ok result) :
    NoNewSearch client result.1 := by
  induction events generalizing client impacted with
  | nil =>
      cases handled
      exact .refl
  | cons event rest ih =>
      rw [handleDeletionEvents] at handled
      obtain ⟨first, handledFirst, handledRest⟩ := ok_of_bind handled
      exact (handleDeletionEvent_noNew handledFirst).trans (ih handledRest)

theorem linkEach_noNew {descriptor : WatchDescriptor} {handles : List FindServiceHandle}
    (linked : client.linkEach descriptor handles = .ok after) : NoNewSearch client after := by
  induction handles generalizing client with
  | nil =>
      cases linked
      exact .refl
  | cons handle rest ih =>
      rw [linkEach] at linked
      obtain ⟨first, linkedFirst, linkedRest⟩ := ok_of_bind linked
      exact (NoNewSearch.of_links (link_same linkedFirst)).trans (ih linkedRest)

theorem onInstanceDirectoryCreated_noNew (watch : Watch)
    (unset : watch.identifier.instanceId = none) (entry : Entry) :
    (client.onInstanceDirectoryCreated watch unset entry).Returns (NoNewSearch client) := by
  rw [onInstanceDirectoryCreated.eq_def]
  split
  · exact NoNewSearch.refl
  · apply Returns.bind (Returns.any _)
    intro crawled _
    split
    · exact fun answer => nomatch answer
    · apply Returns.bind (orAbort_returns fun value linked =>
        (storeWatch_noNew _ _).trans (linkEach_noNew linked))
      intro linked noNew
      exact noNew.mergeKnown _
    · exact fun answer => nomatch answer

theorem handleCreationEvent_noNew (impacted : List FindServiceHandle) (event : InotifyEvent) :
    (client.handleCreationEvent impacted event).Returns fun result =>
      NoNewSearch client result.1 := by
  rw [handleCreationEvent.eq_def]
  split
  · split
    · exact NoNewSearch.refl
    · split
      · apply Returns.bind (onInstanceDirectoryCreated_noNew _ _ _)
        intro created noNew
        exact noNew
      · change NoNewSearch _ _
        rw [onInstanceFlagFileCreated.eq_def]
        split
        · exact modifyKnown_noNew _
        · exact .refl
  · exact NoNewSearch.refl

/-! ## Handlers -/

theorem callStoredHandler_noNew (handles : Finset HandleType) :
    NoNewSearch client (client.callStoredHandler handle handles) := by
  rw [callStoredHandler]
  split
  · rename_i search present
    refine ⟨fun other absent => ?_, rfl⟩
    by_cases same : other = handle
    · rw [same, present] at absent
      cases absent
    · simpa [same] using absent
  · exact .refl

/-- A handler is called only if it may be. -/
theorem callHandler_noNew (called : client.callHandler handle = .ok after) :
    NoNewSearch client after ∧
      (client.deliveries handle < after.deliveries handle → client.Callable handle) := by
  rw [callHandler] at called
  split at called
  · cases called
    exact ⟨.refl, fun more => absurd more (Nat.lt_irrefl _)⟩
  · rename_i search present
    split at called
    · cases called
      exact ⟨.refl, fun more => absurd more (Nat.lt_irrefl _)⟩
    · rename_i listed
      obtain ⟨handles, -, rest⟩ := ok_of_bind called
      split at rest
      · cases rest
        exact ⟨.refl, fun more => absurd more (Nat.lt_irrefl _)⟩
      · cases rest
        constructor
        · apply NoNewSearch.trans _ (callStoredHandler_noNew handles)
          refine ⟨fun other absent => ?_, rfl⟩
          by_cases same : other = handle
          · rw [same, present] at absent
            cases absent
          · simpa [same] using absent
        · intro _
          exact ⟨by simp [present], listed⟩

/-! ## The start of a search -/

/-- No search but one comes. -/
structure OneNewSearch (handle : FindServiceHandle) (client after : ServiceDiscoveryClient) :
    Prop where
  searches : ∀ other, other ≠ handle → client.searchRequests other = none →
    after.searchRequests other = none
  obsolete : after.obsoleteSearchRequests = client.obsoleteSearchRequests

theorem OneNewSearch.noNew {last : ServiceDiscoveryClient}
    (first : OneNewSearch handle client after) (second : NoNewSearch after last) :
    OneNewSearch handle client last :=
  ⟨fun other distinct absent => second.searches other (first.searches other distinct absent),
    second.obsolete.trans first.obsolete⟩

theorem OneNewSearch.callable {other : FindServiceHandle}
    (one : OneNewSearch handle client after) (callable : after.Callable other) :
    client.Callable other ∨ handle = other := by
  by_cases same : handle = other
  · exact .inr same
  · refine .inl ⟨fun absent => ?_, ?_⟩
    · exact callable.1 (one.searches other (fun equal => same equal.symm) absent)
    · rw [← one.obsolete]
      exact callable.2

variable {watches : WatchDescriptors}

theorem storeAndLinkWatches_noNew (stored : client.storeAndLinkWatches handle watches = .ok after) :
    NoNewSearch client after := by
  induction watches generalizing client with
  | nil =>
      cases stored
      exact .refl
  | cons watch rest ih =>
      rw [storeAndLinkWatches] at stored
      obtain ⟨linked, isLinked, storedRest⟩ := ok_of_bind stored
      exact (storeWatch_noNew _ _).trans
        ((NoNewSearch.of_links (link_same isLinked)).trans (ih storedRest))

theorem transferNewSearchRequest_one {identifier : EnrichedInstanceIdentifier}
    {known : KnownInstances} {previousHandles : Finset HandleType}
    (transferred : client.transferNewSearchRequest handle identifier watches known
      previousHandles = .ok after) :
    OneNewSearch handle client after := by
  rw [transferNewSearchRequest] at transferred
  split at transferred
  · cases transferred
  · obtain ⟨linked, isLinked, rest⟩ := ok_of_bind transferred
    cases rest
    have one : OneNewSearch handle client
        (client.setSearch handle (some ⟨[], identifier, previousHandles, []⟩)) := by
      refine ⟨fun other distinct absent => ?_, rfl⟩
      simpa [distinct] using absent
    exact one.noNew ((storeAndLinkWatches_noNew isLinked).mergeKnown known)

theorem storeSearch_one {identifier : EnrichedInstanceIdentifier} {known : KnownInstances}
    {handles : Finset HandleType} :
    (client.storeSearch handle identifier watches known handles).Returns
      (OneNewSearch handle client) := by
  intro order
  apply Returns.bind (orAbort_returns fun value transferred =>
    transferNewSearchRequest_one transferred)
  intro stored one
  change OneNewSearch handle client _
  split
  · exact one
  · exact one.noNew (callStoredHandler_noNew handles)

theorem startCrawling_one (identifier : EnrichedInstanceIdentifier) :
    (client.startCrawling handle identifier).Returns (OneNewSearch handle client) := by
  apply Returns.bind (Returns.any _)
  intro crawled _
  split
  · exact ⟨fun _ _ absent => absent, rfl⟩
  · apply Returns.bind (orAbort_returns fun _ _ => trivial)
    intro handles _
    exact storeSearch_one

theorem startFindService_one (identifier : EnrichedInstanceIdentifier) :
    (client.startFindService handle identifier).Returns (OneNewSearch handle client) := by
  rw [startFindService]
  split
  · apply Returns.bind (orAbort_returns fun _ _ => trivial)
    intro handles _
    apply Returns.bind (orAbort_returns fun _ _ => trivial)
    intro watches _
    exact storeSearch_one
  · exact startCrawling_one identifier
  · exact startCrawling_one identifier

/-! ## The work under the mutex -/

/-- The work makes no search callable but the one it starts. -/
structure Starts (client : ServiceDiscoveryClient) (starting : Option FindServiceHandle)
    (result : ServiceDiscoveryClient × Outcome) : Prop where
  callable : ∀ handle, result.1.Callable handle → client.Callable handle ∨ starting = some handle
  outcome : ∀ handle found, result.2 = .searchStarted handle found → starting = some handle

theorem startSearch_returns (identifier : EnrichedInstanceIdentifier) :
    (client.startSearch handle identifier).Returns (client.Starts (some handle)) := by
  apply Returns.bind (startFindService_one identifier)
  intro started one
  have callable : ∀ other, started.Callable other →
      client.Callable other ∨ some handle = some other := by
    intro other callable
    obtain before | same := one.callable callable
    · exact .inl before
    · exact .inr (congrArg some same)
  split
  · exact ⟨callable, fun _ _ isStarted => nomatch isStarted⟩
  · refine ⟨callable, fun other found isStarted => ?_⟩
    cases isStarted
    rfl

theorem handleEvents_returns (events : Option (List InotifyEvent)) :
    (client.handleEvents events).Returns (client.Starts none) := by
  cases events with
  | none =>
      apply Returns.bind transferObsoleteSearchRequests_returns
      intro transferred callable
      exact ⟨fun other still => .inl (callable other still), fun _ _ isStarted => nomatch isStarted⟩
  | some events =>
      apply Returns.bind transferObsoleteSearchRequests_returns
      intro transferred callable
      split
      · exact fun answer => nomatch answer
      · apply Returns.bind (orAbort_returns fun value handled =>
          handleDeletionEvents_noNew handled)
        intro handled noNew
        exact ⟨fun other still => .inl (callable other (noNew.callable still)),
          fun _ _ isStarted => nomatch isStarted⟩

theorem handleCreation_returns (impacted : List FindServiceHandle) (event : InotifyEvent)
    (rest : List InotifyEvent) :
    (client.handleCreation impacted event rest).Returns (client.Starts none) := by
  apply Returns.bind (handleCreationEvent_noNew impacted event)
  intro handled noNew
  exact ⟨fun other still => .inl (noNew.callable still), fun _ _ isStarted => nomatch isStarted⟩

end ServiceDiscoveryClient

end MwCom.ServiceDiscovery
