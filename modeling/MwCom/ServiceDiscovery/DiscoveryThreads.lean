/-
Module: MwCom.ServiceDiscovery.DiscoveryThreads
Purpose: The threads that search for services in a process: the application's, whose
  handlers may search and stop again, and the worker that reads the events.
Trusted boundary: an access to a container is indivisible; a handler is code of the
  application or that of a proxy, and takes no mutex of its own beyond those here.
Main exports: DiscoveryMutex, DiscoveryMemory, DiscoveryInstr, discoveryMachine,
  discoveryThreads
-/
import MwCom.Locking.ThreadStacks
import MwCom.ServiceDiscovery.ServiceDiscoveryClient

namespace MwCom.ServiceDiscovery

open Interleaving Locking

/-! ## State -/

inductive DiscoveryThread where
  /-- It reads events and handles them. -/
  | worker
  | user (number : Nat)
  /-- Other processes, which change the file system. -/
  | others
deriving DecidableEq

abbrev ProxyId := Nat

inductive DiscoveryMutex where
  /-- `ServiceDiscovery::container_mutex_` -/
  | container
  /-- `ServiceDiscoveryClient::worker_mutex_` -/
  | worker
  /-- `Proxy::proxy_event_registration_mutex_` -/
  | registration (proxy : ProxyId)
deriving DecidableEq

namespace DiscoveryMutex

def recursive : DiscoveryMutex → Bool
  | .container => true
  | .worker => true
  | .registration _ => false

end DiscoveryMutex

/-- Whose code a handler is. -/
inductive Callback where
  | application
  | proxy (proxy : ProxyId)
deriving DecidableEq

/-- What the threads share; the mutexes are apart. -/
structure DiscoveryMemory where
  files : FileSystem
  client : ServiceDiscoveryClient
  nextFreeUid : FindServiceHandle
  userCallbacks : FindServiceHandle → Option Callback
  handleToInstances : FindServiceHandle → List EnrichedInstanceIdentifier
  /-- What the last search that a thread started has returned. -/
  returned : DiscoveryThread → Option FindServiceHandle
  /-- The handles that code outside of the discovery was given. -/
  issued : List FindServiceHandle

/-! ## What the client does -/

/-- What the work on the client under its mutex has led to. -/
inductive Outcome where
  | searchFailed
  | searchStarted (handle : FindServiceHandle) (found : Bool)
  | searchesTransferred
  | deletionsHandled (impacted : List FindServiceHandle) (creations : List InotifyEvent)
  | creationHandled (impacted : List FindServiceHandle) (creations : List InotifyEvent)

namespace InotifyEvent

def isDeletion : InotifyEvent → Bool
  | .deleted _ _ => true
  | .ignored _ => true
  | _ => false

def isCreation : InotifyEvent → Bool
  | .created _ _ => true
  | _ => false

end InotifyEvent

abbrev ClientProgram := DiscoveryProgram (ServiceDiscoveryClient × Outcome)

namespace ServiceDiscoveryClient

variable (client : ServiceDiscoveryClient)

/-- How often the handler of a search was called. -/
def deliveries (handle : FindServiceHandle) : Nat :=
  match client.searchRequests handle with
  | some search => search.delivered.length
  | none => 0

/-- `StartFindService` up to the call of the handler, which is the last it does. -/
def startSearch (handle : FindServiceHandle) (identifier : EnrichedInstanceIdentifier) :
    ClientProgram := do
  let client ← client.startFindService handle identifier
  match client.searchRequests handle with
  | none => pure (client, .searchFailed)
  | some _ => pure (client, .searchStarted handle (decide (0 < client.deliveries handle)))

/-- `HandleEvents` up to the handlers that the deletions concern; `none`: the events
could not be read. -/
def handleEvents : Option (List InotifyEvent) → ClientProgram
  | none => do
      let client ← client.transferObsoleteSearchRequests
      pure (client, .searchesTransferred)
  | some events => do
      let client ← client.transferObsoleteSearchRequests
      if InotifyEvent.overflowed ∈ events then
        orAbort (.error .queueOverflowed)
      else do
        let (client, impacted) ← orAbort
          (client.handleDeletionEvents [] (events.filter InotifyEvent.isDeletion))
        pure (client, .deletionsHandled impacted (events.filter InotifyEvent.isCreation))

/-- One pass of the loop of `HandleCreationEvents`. -/
def handleCreation (impacted : List FindServiceHandle) (event : InotifyEvent)
    (rest : List InotifyEvent) : ClientProgram := do
  let (client, impacted) ← client.handleCreationEvent impacted event
  pure (client, .creationHandled impacted rest)

end ServiceDiscoveryClient

/-! ## Instructions -/

inductive DiscoveryInstr where
  /-- Code of the application: of one of its threads, or of a handler. -/
  | application
  | otherProcesses
  /-- `ServiceDiscovery::StartFindService` for an identifier -/
  | startFindService (callback : Callback) (identifier : EnrichedInstanceIdentifier)
  /-- `StartFindService` for a specifier and the instance that it is resolved to, if any -/
  | startFindServiceOf (callback : Callback) (resolved : Option InstanceIdentifier)
  /-- `GetNextFreeFindServiceHandle` -/
  | getNextFreeFindServiceHandle (callback : Callback)
      (identifier : Option EnrichedInstanceIdentifier)
  | storeUserCallback (handle : FindServiceHandle) (callback : Callback)
      (identifier : Option EnrichedInstanceIdentifier)
  | startFindServiceImpl (handle : FindServiceHandle) (identifier : EnrichedInstanceIdentifier)
  /-- `ServiceDiscoveryClient::StartFindService` under its mutex -/
  | startSearch (handle : FindServiceHandle) (identifier : EnrichedInstanceIdentifier)
  /-- `StartFindServiceImpl` after `BindingSpecificStartFindService` -/
  | checkStarted (handle : FindServiceHandle)
  | returns (result : Option FindServiceHandle)
  /-- A handle is returned to the caller. -/
  | handOver
  /-- The constructor of `FindServiceGuard` after `StartFindService` -/
  | findServiceGuard
  /-- `ServiceDiscovery::StopFindService` -/
  | stopFindService (handle : FindServiceHandle)
  /-- `StopFindService` under its mutex: the searches of the handle -/
  | stopEach (handle : FindServiceHandle)
  /-- `ServiceDiscoveryClient::StopFindService` under its mutex -/
  | addObsolete (handle : FindServiceHandle)
  | eraseUserCallback (handle : FindServiceHandle)
  | eraseInstances (handle : FindServiceHandle)
  | stopReturns (handle : FindServiceHandle)
  /-- The worker thread -/
  | readEvents
  | handleEvents (events : Option (List InotifyEvent))
  | callHandlers (impacted : List FindServiceHandle)
  | handleCreationEvents (creations : List InotifyEvent) (impacted : List FindServiceHandle)
  /-- The client under its mutex, for a search that it starts if there is one. -/
  | working (starting : Option FindServiceHandle) (program : ClientProgram)
  /-- What `Proxy` does to its event bindings under its mutex. -/
  | eventBindings (proxy : ProxyId)
  /-- A handler returns. -/
  | invocationEnds (handle : FindServiceHandle)

abbrev DiscoveryStatement := Statement DiscoveryMutex DiscoveryInstr

/-- What code of the application may do with the discovery. -/
inductive ApplicationCall where
  | startFindService (identifier : EnrichedInstanceIdentifier)
  | startFindServiceOf (resolved : Option InstanceIdentifier)
  | stopFindService (handle : FindServiceHandle)
  | createProxy (proxy : ProxyId) (identifier : EnrichedInstanceIdentifier)
  /-- `Proxy::RegisterEventBinding` or `UnregisterEventBinding` -/
  | changeEventBindings (proxy : ProxyId)
  | finish

inductive DiscoveryChoice where
  | none
  | call (call : ApplicationCall)
  /-- Which outcome an access to the file system has. -/
  | outcome (number : Nat)
  /-- The order in which a container is gone through. -/
  | order (watches : WatchDescriptors)
  | read (count : Nat)
  /-- The search that a loop goes on with. -/
  | search (handle : FindServiceHandle)
  | change (change : FileChange)

namespace DiscoveryMemory

variable (memory : DiscoveryMemory)

/-- A handler is called with its handle.  The callback is referred to, not copied: if it
is erased nothing is known of what happens. -/
def invocation (handle : FindServiceHandle) : Option (DiscoveryMemory × List DiscoveryStatement) :=
  match memory.userCallbacks handle with
  | some .application =>
      some ({ memory with issued := handle :: memory.issued },
        [.act .application, .act (.invocationEnds handle)])
  | some (.proxy proxy) =>
      some ({ memory with issued := handle :: memory.issued },
        [.guarded (.registration proxy) .exclusive (.eventBindings proxy),
          .act (.invocationEnds handle)])
  | none => none

/-- The handler of a search is called, if it has to be, and then the rest follows. -/
def invokeThen (handle : FindServiceHandle) (called : Bool) (rest : List DiscoveryStatement) :
    Option (DiscoveryMemory × List DiscoveryStatement) :=
  if called then
    (memory.invocation handle).map fun (memory, statements) => (memory, statements ++ rest)
  else
    some (memory, rest)

def execCall : ApplicationCall → Option (List DiscoveryStatement)
  | .startFindService identifier =>
      some [.act (.startFindService .application identifier), .act .application]
  | .startFindServiceOf resolved =>
      some [.act (.startFindServiceOf .application resolved), .act .application]
  | .stopFindService handle =>
      if handle ∈ memory.issued then
        some [.act (.stopFindService handle), .act .application]
      else
        none
  | .createProxy proxy identifier =>
      some [.act (.startFindService (.proxy proxy) identifier), .act .findServiceGuard,
        .act .application]
  | .changeEventBindings proxy =>
      some [.guarded (.registration proxy) .exclusive (.eventBindings proxy), .act .application]
  | .finish => some []

/-- An operation of the client on the file system. -/
def execOp (choice : DiscoveryChoice) (op : DiscoveryOp) : Option (op.Ret × FileSystem) :=
  match op, choice with
  | .visit watches, .order order =>
      if order.isPerm watches then some (order, memory.files) else none
  | op, .outcome number => (DiscoveryOp.outcomes op memory.files)[number]?
  | _, _ => none

/-- What follows the work on the client. -/
def conclude : Outcome → Option (DiscoveryMemory × List DiscoveryStatement)
  | .searchFailed => some (memory, [.act (.returns none)])
  | .searchStarted handle found =>
      memory.invokeThen handle found [.act (.returns (some handle))]
  | .searchesTransferred => some (memory, [])
  | .deletionsHandled impacted creations =>
      some (memory, [.act (.callHandlers impacted), .act (.handleCreationEvents creations [])])
  | .creationHandled impacted creations =>
      some (memory, [.act (.handleCreationEvents creations impacted)])

/-- One instruction; `none`: the process has ended, or this cannot be chosen. -/
def exec (thread : DiscoveryThread) (choice : DiscoveryChoice) (memory : DiscoveryMemory) :
    DiscoveryInstr → Option (DiscoveryMemory × List DiscoveryStatement)
  | .application =>
      match choice with
      | .call call => (memory.execCall call).map fun statements => (memory, statements)
      | _ => none
  | .otherProcesses =>
      match choice with
      | .change change =>
          if change.Possible memory.files then
            some ({ memory with files := memory.files.change change }, [.act .otherProcesses])
          else
            none
      | _ => none
  | .startFindService callback identifier =>
      some (memory,
        [.guarded .container .exclusive (.getNextFreeFindServiceHandle callback (some identifier)),
          .act .handOver])
  | .startFindServiceOf callback resolved =>
      some (memory, [.act (.getNextFreeFindServiceHandle callback
            (resolved.map EnrichedInstanceIdentifier.ofInstanceIdentifier)), .act .handOver])
  | .getNextFreeFindServiceHandle callback identifier =>
      some ({ memory with nextFreeUid := memory.nextFreeUid + 1 },
        [.act (.storeUserCallback memory.nextFreeUid callback identifier)])
  | .storeUserCallback handle callback identifier =>
      let stored := (memory.userCallbacks handle).getD callback
      let memory :=
        { memory with userCallbacks := Function.update memory.userCallbacks handle (some stored) }
      match identifier with
      | some identifier => some (memory, [.act (.startFindServiceImpl handle identifier)])
      | none => some (memory, [.act (.returns (some handle))])
  | .startFindServiceImpl handle identifier =>
      some
        ({ memory with
          handleToInstances := Function.update memory.handleToInstances handle
            (identifier :: memory.handleToInstances handle) },
        [.guarded .worker .exclusive (.startSearch handle identifier), .act (.checkStarted handle)])
  | .startSearch handle identifier =>
      some (memory, [.act (.working (some handle) (memory.client.startSearch handle identifier))])
  | .checkStarted handle =>
      match memory.returned thread with
      | none => some (memory, [.act (.stopFindService handle), .act (.returns none)])
      | some _ => some (memory, [])
  | .returns result =>
      some ({ memory with returned := Function.update memory.returned thread result }, [])
  | .handOver =>
      match memory.returned thread with
      | none => some (memory, [])
      | some handle => some ({ memory with issued := handle :: memory.issued }, [])
  | .findServiceGuard =>
      match memory.returned thread with
      -- `std::terminate`
      | none => none
      | some _ => some (memory, [])
  | .stopFindService handle =>
      some (memory, [.guarded .container .exclusive (.stopEach handle), .act (.stopReturns handle)])
  | .stopEach handle =>
      some (memory, (memory.handleToInstances handle).map
            (fun _ => Statement.guarded .worker .exclusive (.addObsolete handle)) ++
          [.act (.eraseUserCallback handle), .act (.eraseInstances handle)])
  | .addObsolete handle =>
      some ({ memory with client := memory.client.stopFindService handle }, [])
  | .eraseUserCallback handle =>
      some
        ({ memory with userCallbacks := Function.update memory.userCallbacks handle none }, [])
  | .eraseInstances handle =>
      some
        ({ memory with handleToInstances := Function.update memory.handleToInstances handle [] },
          [])
  | .stopReturns _ => some (memory, [])
  | .readEvents =>
      match choice with
      | .read count =>
          (DiscoveryOp.outcomes (.read count) memory.files).head?.map fun (events, files) =>
            ({ memory with files := files },
              [.guarded .worker .exclusive (.handleEvents (some events)), .act .readEvents])
      | _ =>
          -- the events could not be read
          some (memory, [.guarded .worker .exclusive (.handleEvents none), .act .readEvents])
  | .handleEvents events =>
      some (memory, [.act (.working none (memory.client.handleEvents events))])
  | .callHandlers [] => some (memory, [])
  | .callHandlers impacted =>
      match choice with
      | .search handle =>
          if handle ∈ impacted then
            match memory.client.callHandler handle with
            | .ok client =>
                { memory with client := client }.invokeThen handle
                  (decide (memory.client.deliveries handle < client.deliveries handle))
                  [.act (.callHandlers (without impacted handle))]
            | .error _ => none
          else
            none
      | _ => none
  | .handleCreationEvents [] impacted => some (memory, [.act (.callHandlers impacted)])
  | .handleCreationEvents (event :: rest) impacted =>
      some (memory, [.act (.working none (memory.client.handleCreation impacted event rest))])
  | .working _ (.done (client, outcome)) => { memory with client := client }.conclude outcome
  | .working starting (.step op next) =>
      (memory.execOp choice op).map fun (answer, files) =>
        ({ memory with files := files }, [.act (.working starting (next answer))])
  | .eventBindings _ => some (memory, [])
  | .invocationEnds _ => some (memory, [])

end DiscoveryMemory

/-! ## The machine -/

def discoveryMachine : Machine DiscoveryThread DiscoveryChoice DiscoveryMutex DiscoveryMemory
    DiscoveryInstr where
  recursive := DiscoveryMutex.recursive
  exec := DiscoveryMemory.exec

abbrev DiscoveryThreads :=
  Machine.State DiscoveryThread DiscoveryMutex DiscoveryMemory DiscoveryInstr

abbrev DiscoveryTurn := Machine.Turn DiscoveryThread DiscoveryChoice

abbrev DiscoveryCommand := Command DiscoveryMutex DiscoveryInstr

def DiscoveryMemory.initial : DiscoveryMemory where
  files := .empty
  client := .initial
  nextFreeUid := 0
  userCallbacks _ := none
  handleToInstances _ := []
  returned _ := none
  issued := []

/-- No search has been started. -/
def discoveryThreads : DiscoveryThreads where
  memory := .initial
  holders _ := []
  stack
    | .worker => [.todo (.act .readEvents)]
    | .user _ => [.todo (.act .application)]
    | .others => [.todo (.act .otherProcesses)]

namespace DiscoveryThreads

variable (state : DiscoveryThreads)

/-- A thread runs inside an invocation of the handler. -/
def Inside (thread : DiscoveryThread) (handle : FindServiceHandle) : Prop :=
  .todo (.act (.invocationEnds handle)) ∈ state.stack thread

/-- An invocation of the handler is in progress. -/
def InProgress (handle : FindServiceHandle) : Prop := ∃ thread, state.Inside thread handle

end DiscoveryThreads

end MwCom.ServiceDiscovery
