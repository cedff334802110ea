/-
Module: MwCom.ServiceDiscovery.DiscoveryRules
Purpose: The instructions of the discovery as rules, one for each way an instruction is
  executed, and what the rules have in common.
Trusted boundary: none
Main exports: DiscoveryInstr.Executes, executes_of_exec, DiscoveryMemory.Invokes
-/
import MwCom.ServiceDiscovery.CallableSearches

namespace MwCom.ServiceDiscovery

open Interleaving Locking

/-- A handler is called: its callback is there, and it is given its handle. -/
inductive DiscoveryMemory.Invokes (memory : DiscoveryMemory) (handle : FindServiceHandle) :
    DiscoveryMemory → List DiscoveryStatement → Prop where
  | application (present : memory.userCallbacks handle = some .application) :
      Invokes memory handle { memory with issued := handle :: memory.issued }
        [.act .application, .act (.invocationEnds handle)]
  | proxy {proxy : ProxyId} (present : memory.userCallbacks handle = some (.proxy proxy)) :
      Invokes memory handle { memory with issued := handle :: memory.issued }
        [.guarded (.registration proxy) .exclusive (.eventBindings proxy),
          .act (.invocationEnds handle)]

/-- The handler is called, if it has to be, and then the rest follows. -/
inductive DiscoveryMemory.InvokesThen (memory : DiscoveryMemory) (handle : FindServiceHandle)
    (rest : List DiscoveryStatement) (called : Bool) :
    DiscoveryMemory → List DiscoveryStatement → Prop where
  | quiet (isQuiet : called = false) : InvokesThen memory handle rest called memory rest
  | called {after : DiscoveryMemory} {statements : List DiscoveryStatement}
      (isCalled : called = true) (invokes : memory.Invokes handle after statements) :
      InvokesThen memory handle rest called after (statements ++ rest)

namespace DiscoveryInstr

/-- What executing an instruction gives. -/
inductive Executes (thread : DiscoveryThread) (memory : DiscoveryMemory) :
    DiscoveryInstr → DiscoveryMemory → List DiscoveryStatement → Prop where
  | callStart (identifier : EnrichedInstanceIdentifier) : Executes thread memory .application memory
        [.act (.startFindService .application identifier), .act .application]
  | callStartOf (resolved : Option InstanceIdentifier) : Executes thread memory .application memory
        [.act (.startFindServiceOf .application resolved), .act .application]
  | callStop {handle : FindServiceHandle} (issued : handle ∈ memory.issued) :
      Executes thread memory .application memory
        [.act (.stopFindService handle), .act .application]
  | createProxy (proxy : ProxyId) (identifier : EnrichedInstanceIdentifier) :
      Executes thread memory .application memory
        [.act (.startFindService (.proxy proxy) identifier), .act .findServiceGuard,
          .act .application]
  | changeEventBindings (proxy : ProxyId) : Executes thread memory .application memory
        [.guarded (.registration proxy) .exclusive (.eventBindings proxy), .act .application]
  | finish : Executes thread memory .application memory []
  | changed (files : FileSystem) :
      Executes thread memory .otherProcesses { memory with files := files }
        [.act .otherProcesses]
  | startFindService (callback : Callback) (identifier : EnrichedInstanceIdentifier) :
      Executes thread memory (.startFindService callback identifier) memory
        [.guarded .container .exclusive (.getNextFreeFindServiceHandle callback (some identifier)),
          .act .handOver]
  | startFindServiceOf (callback : Callback) (resolved : Option InstanceIdentifier) :
      Executes thread memory (.startFindServiceOf callback resolved) memory
        [.act (.getNextFreeFindServiceHandle callback
            (resolved.map EnrichedInstanceIdentifier.ofInstanceIdentifier)), .act .handOver]
  | getNextFreeFindServiceHandle (callback : Callback)
      (identifier : Option EnrichedInstanceIdentifier) :
      Executes thread memory (.getNextFreeFindServiceHandle callback identifier)
        { memory with nextFreeUid := memory.nextFreeUid + 1 }
        [.act (.storeUserCallback memory.nextFreeUid callback identifier)]
  | storeUserCallback (handle : FindServiceHandle) (callback stored : Callback)
      (identifier : EnrichedInstanceIdentifier) :
      Executes thread memory (.storeUserCallback handle callback (some identifier))
        { memory with userCallbacks := Function.update memory.userCallbacks handle (some stored) }
        [.act (.startFindServiceImpl handle identifier)]
  | nothingToFind (handle : FindServiceHandle) (callback stored : Callback) :
      Executes thread memory (.storeUserCallback handle callback none)
        { memory with userCallbacks := Function.update memory.userCallbacks handle (some stored) }
        [.act (.returns (some handle))]
  | startFindServiceImpl (handle : FindServiceHandle) (identifier : EnrichedInstanceIdentifier) :
      Executes thread memory (.startFindServiceImpl handle identifier)
        { memory with
          handleToInstances := Function.update memory.handleToInstances handle
            (identifier :: memory.handleToInstances handle) }
        [.guarded .worker .exclusive (.startSearch handle identifier), .act (.checkStarted handle)]
  | startSearch (handle : FindServiceHandle) (identifier : EnrichedInstanceIdentifier) :
      Executes thread memory (.startSearch handle identifier) memory
        [.act (.working (some handle) (memory.client.startSearch handle identifier))]
  | notStarted {handle : FindServiceHandle} (failed : memory.returned thread = none) :
      Executes thread memory (.checkStarted handle) memory
        [.act (.stopFindService handle), .act (.returns none)]
  | started {handle returned : FindServiceHandle} (done : memory.returned thread = some returned) :
      Executes thread memory (.checkStarted handle) memory []
  | returns (result : Option FindServiceHandle) : Executes thread memory (.returns result)
        { memory with returned := Function.update memory.returned thread result } []
  | nothingHandedOver (failed : memory.returned thread = none) :
      Executes thread memory .handOver memory []
  | handOver {handle : FindServiceHandle} (done : memory.returned thread = some handle) :
      Executes thread memory .handOver { memory with issued := handle :: memory.issued } []
  | findServiceGuard {handle : FindServiceHandle} (done : memory.returned thread = some handle) :
      Executes thread memory .findServiceGuard memory []
  | stopFindService (handle : FindServiceHandle) :
      Executes thread memory (.stopFindService handle) memory
        [.guarded .container .exclusive (.stopEach handle), .act (.stopReturns handle)]
  | stopEach (handle : FindServiceHandle) : Executes thread memory (.stopEach handle) memory
        ((memory.handleToInstances handle).map
            (fun _ => Statement.guarded .worker .exclusive (.addObsolete handle)) ++
          [.act (.eraseUserCallback handle), .act (.eraseInstances handle)])
  | addObsolete (handle : FindServiceHandle) : Executes thread memory (.addObsolete handle)
        { memory with client := memory.client.stopFindService handle } []
  | eraseUserCallback (handle : FindServiceHandle) :
      Executes thread memory (.eraseUserCallback handle)
        { memory with userCallbacks := Function.update memory.userCallbacks handle none } []
  | eraseInstances (handle : FindServiceHandle) : Executes thread memory (.eraseInstances handle)
        { memory with handleToInstances := Function.update memory.handleToInstances handle [] } []
  | stopReturns (handle : FindServiceHandle) :
      Executes thread memory (.stopReturns handle) memory []
  | readEvents (events : Option (List InotifyEvent)) (files : FileSystem) :
      Executes thread memory .readEvents { memory with files := files }
        [.guarded .worker .exclusive (.handleEvents events), .act .readEvents]
  | handleEvents (events : Option (List InotifyEvent)) :
      Executes thread memory (.handleEvents events) memory
        [.act (.working none (memory.client.handleEvents events))]
  | handlersCalled : Executes thread memory (.callHandlers []) memory []
  | callHandler {handle : FindServiceHandle} {impacted : List FindServiceHandle}
      {client : ServiceDiscoveryClient} {after : DiscoveryMemory}
      {pushed : List DiscoveryStatement} (called : memory.client.callHandler handle = .ok client)
      (invokes : DiscoveryMemory.InvokesThen { memory with client := client } handle
        [.act (.callHandlers (without impacted handle))]
        (decide (memory.client.deliveries handle < client.deliveries handle)) after pushed) :
      Executes thread memory (.callHandlers impacted) after pushed
  | creationsHandled (impacted : List FindServiceHandle) :
      Executes thread memory (.handleCreationEvents [] impacted) memory
        [.act (.callHandlers impacted)]
  | handleCreation (event : InotifyEvent) (rest : List InotifyEvent)
      (impacted : List FindServiceHandle) :
      Executes thread memory (.handleCreationEvents (event :: rest) impacted) memory
        [.act (.working none (memory.client.handleCreation impacted event rest))]
  | performed {starting : Option FindServiceHandle} {op : DiscoveryOp}
      {next : op.Ret → ClientProgram} (answer : op.Ret) (files : FileSystem) :
      Executes thread memory (.working starting (.step op next)) { memory with files := files }
        [.act (.working starting (next answer))]
  | searchFailed (starting : Option FindServiceHandle) (client : ServiceDiscoveryClient) :
      Executes thread memory (.working starting (.done (client, .searchFailed)))
        { memory with client := client } [.act (.returns none)]
  | searchStarted {starting : Option FindServiceHandle} {client : ServiceDiscoveryClient}
      {handle : FindServiceHandle} {found : Bool} {after : DiscoveryMemory}
      {pushed : List DiscoveryStatement}
      (invokes : DiscoveryMemory.InvokesThen { memory with client := client } handle
        [.act (.returns (some handle))] found after pushed) :
      Executes thread memory (.working starting (.done (client, .searchStarted handle found)))
        after pushed
  | searchesTransferred (starting : Option FindServiceHandle) (client : ServiceDiscoveryClient) :
      Executes thread memory (.working starting (.done (client, .searchesTransferred)))
        { memory with client := client } []
  | deletionsHandled (starting : Option FindServiceHandle) (client : ServiceDiscoveryClient)
      (impacted : List FindServiceHandle) (creations : List InotifyEvent) :
      Executes thread memory
        (.working starting (.done (client, .deletionsHandled impacted creations)))
        { memory with client := client }
        [.act (.callHandlers impacted), .act (.handleCreationEvents creations [])]
  | creationHandled (starting : Option FindServiceHandle) (client : ServiceDiscoveryClient)
      (impacted : List FindServiceHandle) (creations : List InotifyEvent) :
      Executes thread memory
        (.working starting (.done (client, .creationHandled impacted creations)))
        { memory with client := client } [.act (.handleCreationEvents creations impacted)]
  | eventBindings (proxy : ProxyId) : Executes thread memory (.eventBindings proxy) memory []
  | invocationEnds (handle : FindServiceHandle) :
      Executes thread memory (.invocationEnds handle) memory []

end DiscoveryInstr

namespace DiscoveryMemory

variable {memory after : DiscoveryMemory} {handle : FindServiceHandle}
  {pushed rest : List DiscoveryStatement}

theorem invokes_of_invocation (invoked : memory.invocation handle = some (after, pushed)) :
    memory.Invokes handle after pushed := by
  rw [invocation] at invoked
  split at invoked
  · rename_i present
    cases invoked
    exact .application present
  · rename_i proxy present
    cases invoked
    exact .proxy present
  · cases invoked

theorem invokesThen_of_invokeThen {called : Bool}
    (invoked : memory.invokeThen handle called rest = some (after, pushed)) :
    memory.InvokesThen handle rest called after pushed := by
  rw [invokeThen] at invoked
  cases called with
  | true =>
      obtain ⟨⟨between, statements⟩, isInvocation, result⟩ := Option.map_eq_some_iff.mp invoked
      cases result
      exact .called rfl (invokes_of_invocation isInvocation)
  | false =>
      cases invoked
      exact .quiet rfl

variable {thread : DiscoveryThread} {choice : DiscoveryChoice} {instr : DiscoveryInstr}

theorem executes_of_call {call : ApplicationCall} (called : memory.execCall call = some pushed) :
    DiscoveryInstr.Executes thread memory .application memory pushed := by
  cases call with
  | startFindService identifier =>
      cases called
      exact .callStart identifier
  | startFindServiceOf resolved =>
      cases called
      exact .callStartOf resolved
  | stopFindService handle =>
      rw [execCall] at called
      split at called
      · rename_i issued
        cases called
        exact .callStop issued
      · cases called
  | createProxy proxy identifier =>
      cases called
      exact .createProxy proxy identifier
  | changeEventBindings proxy =>
      cases called
      exact .changeEventBindings proxy
  | finish =>
      cases called
      exact .finish

theorem executes_of_conclude {starting : Option FindServiceHandle}
    {client : ServiceDiscoveryClient} {outcome : Outcome}
    (concluded : { memory with client := client }.conclude outcome = some (after, pushed)) :
    DiscoveryInstr.Executes thread memory (.working starting (.done (client, outcome))) after
      pushed := by
  cases outcome with
  | searchFailed =>
      cases concluded
      exact .searchFailed starting client
  | searchStarted handle found => exact .searchStarted (invokesThen_of_invokeThen concluded)
  | searchesTransferred =>
      cases concluded
      exact .searchesTransferred starting client
  | deletionsHandled impacted creations =>
      cases concluded
      exact .deletionsHandled starting client impacted creations
  | creationHandled impacted creations =>
      cases concluded
      exact .creationHandled starting client impacted creations

/-- Each instruction is executed by one of the rules. -/
theorem executes_of_exec (executed : memory.exec thread choice instr = some (after, pushed)) :
    instr.Executes thread memory after pushed := by
  cases instr with
  | application =>
      simp only [exec] at executed
      split at executed
      · rename_i call
        obtain ⟨statements, called, result⟩ := Option.map_eq_some_iff.mp executed
        cases result
        exact executes_of_call called
      · cases executed
  | otherProcesses =>
      simp only [exec] at executed
      split at executed
      · split at executed
        · cases executed
          exact .changed _
        · cases executed
      · cases executed
  | startFindService callback identifier =>
      cases executed
      exact .startFindService callback identifier
  | startFindServiceOf callback resolved =>
      cases executed
      exact .startFindServiceOf callback resolved
  | getNextFreeFindServiceHandle callback identifier =>
      cases executed
      exact .getNextFreeFindServiceHandle callback identifier
  | storeUserCallback handle callback identifier =>
      cases identifier with
      | none =>
          cases executed
          exact .nothingToFind handle callback _
      | some identifier =>
          cases executed
          exact .storeUserCallback handle callback _ identifier
  | startFindServiceImpl handle identifier =>
      cases executed
      exact .startFindServiceImpl handle identifier
  | startSearch handle identifier =>
      cases executed
      exact .startSearch handle identifier
  | checkStarted handle =>
      simp only [exec] at executed
      split at executed
      · rename_i failed
        cases executed
        exact .notStarted failed
      · rename_i returned done
        cases executed
        exact .started done
  | returns result =>
      cases executed
      exact .returns result
  | handOver =>
      simp only [exec] at executed
      split at executed
      · rename_i failed
        cases executed
        exact .nothingHandedOver failed
      · rename_i handle done
        cases executed
        exact .handOver done
  | findServiceGuard =>
      simp only [exec] at executed
      split at executed
      · cases executed
      · rename_i handle done
        cases executed
        exact .findServiceGuard done
  | stopFindService handle =>
      cases executed
      exact .stopFindService handle
  | stopEach handle =>
      cases executed
      exact .stopEach handle
  | addObsolete handle =>
      cases executed
      exact .addObsolete handle
  | eraseUserCallback handle =>
      cases executed
      exact .eraseUserCallback handle
  | eraseInstances handle =>
      cases executed
      exact .eraseInstances handle
  | stopReturns handle =>
      cases executed
      exact .stopReturns handle
  | readEvents =>
      simp only [exec] at executed
      split at executed
      · obtain ⟨⟨events, files⟩, -, result⟩ := Option.map_eq_some_iff.mp executed
        cases result
        exact .readEvents (some events) files
      · cases executed
        exact .readEvents none memory.files
  | handleEvents events =>
      cases executed
      exact .handleEvents events
  | callHandlers impacted =>
      cases impacted with
      | nil =>
          cases executed
          exact .handlersCalled
      | cons first others =>
          simp only [exec] at executed
          split at executed
          · split at executed
            · split at executed
              · rename_i client called
                exact .callHandler called (invokesThen_of_invokeThen executed)
              · cases executed
            · cases executed
          · cases executed
  | handleCreationEvents creations impacted =>
      cases creations with
      | nil =>
          cases executed
          exact .creationsHandled impacted
      | cons event rest =>
          cases executed
          exact .handleCreation event rest impacted
  | working starting program =>
      cases program with
      | done result =>
          obtain ⟨client, outcome⟩ := result
          exact executes_of_conclude executed
      | step op next =>
          simp only [exec] at executed
          obtain ⟨⟨answer, files⟩, -, result⟩ := Option.map_eq_some_iff.mp executed
          cases result
          exact .performed answer files
  | eventBindings proxy =>
      cases executed
      exact .eventBindings proxy
  | invocationEnds handle =>
      cases executed
      exact .invocationEnds handle

end DiscoveryMemory

end MwCom.ServiceDiscovery
