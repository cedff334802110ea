/-
Module: MwCom.ServiceDiscovery.HandlerSilence
Purpose: When StopFindService has returned outside of a search's handler, that handler is
  not running and is not called again, unless its search was stopped before.
Trusted boundary: none
Main exports: DiscoveryThreads.HandlerSilence, DiscoveryThreads.StopsRegistered,
  handlerSilence_of_registered, handlerSilence_violated
-/
import MwCom.ServiceDiscovery.StoppedSearches

namespace MwCom.ServiceDiscovery

open Interleaving Locking
open Machine (has_enter has_leave has_proceed has_top)
open DiscoveryInstr (Pending Closing Ending)

namespace DiscoveryThreads

variable {state after : DiscoveryThreads} {turn : DiscoveryTurn} {thread : DiscoveryThread}
  {handle : FindServiceHandle}

/-! ## The law -/

/-- Once a stop returns to a caller that does not run inside the handler, no invocation of
the handler is in progress, in this state or in any that comes after it. -/
def HandlerSilence (state : DiscoveryThreads) : Prop :=
  ∀ thread handle rest, state.stack thread = .todo (.act (.stopReturns handle)) :: rest →
    ¬ state.Inside thread handle →
      ∀ later : DiscoveryThreads, discoveryMachine.Reaches (fun _ _ => True) state later →
        ¬ later.InProgress handle

/-- A stop outside of the handler that finds no search of the handle, because it was
stopped before, finds no invocation of the handler in progress either. -/
def StopsRegistered (state : DiscoveryThreads) (turn : DiscoveryTurn) : Prop :=
  ∀ handle rest, state.stack turn.thread = .todo (.act (.stopEach handle)) :: rest →
    ¬ state.Inside turn.thread handle → state.memory.handleToInstances handle = [] →
      ¬ state.InProgress handle

/-! ## Invocations -/

/-- The handlers that the commands of a stack are inside of. -/
def invocations (stack : List DiscoveryCommand) : List FindServiceHandle :=
  stack.filterMap fun command =>
    match command with
    | .todo (.act (.invocationEnds handle)) => some handle
    | _ => none

theorem mem_invocations {stack : List DiscoveryCommand} :
    handle ∈ invocations stack ↔ .todo (.act (.invocationEnds handle)) ∈ stack := by
  constructor
  · intro member
    obtain ⟨command, inStack, isEnd⟩ := List.mem_filterMap.mp member
    split at isEnd
    · cases isEnd
      exact inStack
    · cases isEnd
  · intro member
    exact List.mem_filterMap.mpr ⟨_, member, rfl⟩

instance (state : DiscoveryThreads) (thread : DiscoveryThread) (handle : FindServiceHandle) :
    Decidable (state.Inside thread handle) :=
  decidable_of_iff (handle ∈ invocations (state.stack thread)) mem_invocations

theorem Lifecycle.inside (life : state.Lifecycle) (has : state.Has thread (Ending handle)) :
    state.Inside thread handle := by
  obtain ⟨command, member, ending⟩ := has
  cases command with
  | unlock mutex mode => exact ending.elim
  | todo statement =>
      have bodies := life.bodies thread statement member
      cases statement with
      | act instr =>
          cases instr with
          | invocationEnds other =>
              obtain rfl : other = handle := ending
              exact member
          | _ => exact ending.elim
      | guarded mutex mode body =>
          cases body with
          | invocationEnds other => cases mutex <;> exact bodies.elim
          | _ => exact ending.elim

theorem Inside.has (inside : state.Inside thread handle) : state.Has thread (Ending handle) :=
  ⟨_, inside, rfl⟩

/-- A handler is called only for a search that may be called or has just been stored. -/
theorem executes_ending {instr : DiscoveryInstr} {memory result : DiscoveryMemory}
    {statements : List DiscoveryStatement} (sound : instr.Sound memory.client)
    (executes : instr.Executes thread memory result statements)
    (pushes : Pushes statements (Ending handle)) :
    memory.client.Callable handle ∨ instr.Searching handle := by
  cases executes with
  | @callHandler other impacted client after pushed called invokes =>
      obtain isRest | ⟨isCalled, isCode | ⟨proxy, isBindings⟩ | isEnd⟩ :=
        InvokesThen.pushes invokes pushes
      · simp [Ending] at isRest
      · exact isCode.elim
      · exact isBindings.elim
      · obtain rfl : other = handle := isEnd
        have callable := (ServiceDiscoveryClient.callHandler_noNew called).2
        exact .inl (callable (of_decide_eq_true isCalled))
  | @searchStarted starting client other found result pushed invokes =>
      obtain isRest | ⟨-, isCode | ⟨proxy, isBindings⟩ | isEnd⟩ := InvokesThen.pushes invokes pushes
      · simp [Ending] at isRest
      · exact isCode.elim
      · exact isBindings.elim
      · obtain rfl : other = handle := isEnd
        exact .inr (ServiceDiscoveryClient.Starts.outcome sound other found rfl)
  | _ => simp [Ending, Statement.instr] at pushes

/-- The handler does not run, and is not called any more. -/
def Silenced (state : DiscoveryThreads) (handle : FindServiceHandle) : Prop :=
  state.Muted handle ∧ ∀ thread, ¬ state.Has thread (Ending handle)

theorem Silenced.step (silenced : state.Silenced handle) (life : state.Lifecycle)
    (stepped : discoveryMachine.step state turn = some after) : after.Silenced handle := by
  refine ⟨silenced.1.step life stepped, fun other has => ?_⟩
  obtain before | ⟨-, instr, rest, memory, pushed, top, executes, pushes, -⟩ :=
    has_of_step stepped has
  · exact silenced.2 other before
  · obtain callable | isSearching := executes_ending (life.sound top) executes pushes
    · exact silenced.1.2 callable
    · exact silenced.1.1.2 turn.thread
        (has_top top (DiscoveryInstr.starting_of_searching isSearching))

/-- A stop from inside of the handler does not silence it. -/
def SilencedOrInside (state : DiscoveryThreads) (behind : List DiscoveryCommand)
    (handle : FindServiceHandle) : Prop :=
  (∃ command ∈ behind, command.For (Ending handle)) ∨ state.Silenced handle

/-- When the client has been told, no other thread can be inside of the handler. -/
theorem silenced_of_told (life : state.Lifecycle) (registered : state.Registered)
    (allowed : state.StopsRegistered turn) (stepped : discoveryMachine.step state turn = some after)
    (told : state.Told turn.thread handle) {before behind : List DiscoveryCommand}
    (split : after.stack turn.thread = before ++ behind) (quiet : Quiet handle before) :
    after.SilencedOrInside behind handle := by
  by_cases inside : ∃ command ∈ behind, command.For (Ending handle)
  · exact .inl inside
  · have outside : ¬ after.Has turn.thread (Ending handle) := by
      rintro ⟨command, member, ending⟩
      rw [split] at member
      obtain above | below := List.mem_append.mp member
      · exact quiet command above ending
      · exact inside ⟨command, below, ending⟩
    refine .inr ⟨muted_of_told life registered stepped told, fun other has => ?_⟩
    by_cases own : other = turn.thread
    · exact outside (own ▸ has)
    · have insideOther : state.Inside other handle := by
        apply life.inside
        obtain ⟨command, member, ending⟩ := has
        exact ⟨command, stack_of_ne stepped own ▸ member, ending⟩
      obtain ⟨rest, top | ⟨top, gone⟩⟩ := told
      · have here : .todo (.act (.addObsolete handle)) ∈ state.stack turn.thread := by
          rw [top]
          exact List.mem_cons_self
        exact own (life.toUnderMutex.alone insideOther trivial here trivial)
      · refine allowed handle rest top (fun insideHere => ?_) gone ⟨other, insideOther⟩
        apply outside
        obtain ⟨instr, rest', memory, pushed, top', -, rfl⟩ |
          ⟨mutex, mode, body, rest', top', -, rfl⟩ | ⟨mutex, mode, rest', top', rfl⟩ :=
          discoveryMachine.step_cases stepped
        · have below : .todo (.act (.invocationEnds handle)) ∈ rest' := by
            have member : _ ∈ state.stack turn.thread := insideHere
            rw [top'] at member
            obtain same | below := List.mem_cons.mp member
            · rw [top] at top'
              cases top'
              cases same
            · exact below
          refine ⟨.todo (.act (.invocationEnds handle)), ?_, rfl⟩
          simp [Machine.proceed, below]
        · rw [top] at top'
          cases top'
        · rw [top] at top'
          cases top'

/-- What holds in the runs that the law holds in. -/
structure Silencing (state : DiscoveryThreads) : Prop where
  life : state.Lifecycle
  registered : state.Registered
  closed : Closed SilencedOrInside state

theorem Silencing.step (silencing : state.Silencing) (allowed : state.StopsRegistered turn)
    (stepped : discoveryMachine.step state turn = some after) : after.Silencing where
  life := silencing.life.step stepped
  registered := silencing.registered.step silencing.life stepped
  closed := by
    apply silencing.closed.step silencing.life stepped
    · intro behind handle goal
      obtain inside | silenced := goal
      · exact .inl inside
      · exact .inr (silenced.step silencing.life stepped)
    · intro handle told before behind split quiet
      exact silenced_of_told silencing.life silencing.registered allowed stepped told split quiet

theorem silencing_discoveryThreads : discoveryThreads.Silencing where
  life := lifecycle_discoveryThreads
  registered := registered_discoveryThreads
  closed := closed_discoveryThreads

/-- A silenced handler stays silent, whatever the threads do. -/
theorem Silenced.later {later : DiscoveryThreads} (silenced : state.Silenced handle)
    (life : state.Lifecycle) (reached : discoveryMachine.Reaches (fun _ _ => True) state later) :
    ¬ later.InProgress handle := by
  have kept : later.Lifecycle ∧ later.Silenced handle := by
    refine reached.invariant
      (fun state : DiscoveryThreads => state.Lifecycle ∧ state.Silenced handle)
      ⟨life, silenced⟩ ?_
    intro before turn after inv _ stepped
    exact ⟨inv.1.step stepped, inv.2.step inv.1 stepped⟩
  rintro ⟨thread, inside⟩
  exact kept.2.2 thread inside.has

/-- The law holds in every run in which a stop outside of the handler finds its search, or
finds no invocation of the handler in progress. -/
theorem handlerSilence_of_registered
    (reached : discoveryMachine.Reaches StopsRegistered discoveryThreads state) :
    state.HandlerSilence := by
  have silencing : state.Silencing := reached.invariant Silencing silencing_discoveryThreads
      fun _ _ _ silencing allowed stepped => silencing.step allowed stepped
  intro thread handle rest top outside later laterReached
  obtain ⟨command, below, ending⟩ | silenced := silencing.closed.top top rfl
  · have has : state.Has thread (Ending handle) := by
      refine ⟨command, ?_, ending⟩
      rw [top]
      exact List.mem_cons_of_mem _ below
    exact absurd (silencing.life.inside has) outside
  · exact silenced.later silencing.life laterReached

/-! ## Runs -/

/-- The search of the runs below: one instance of a service. -/
def oneInstance : EnrichedInstanceIdentifier := .ofInstanceIdentifier ⟨1, some 1, .asilQm⟩

/-- Turns of a thread for which nothing has to be chosen. -/
def turnsOf (thread : DiscoveryThread) (count : Nat) : List DiscoveryTurn :=
  List.replicate count ⟨thread, .none⟩

/-- A thread starts the search; nothing is found yet. -/
def startTurns (thread : DiscoveryThread) : List DiscoveryTurn := List.flatten
    [⟨thread, .call (.startFindService oneInstance)⟩ :: turnsOf thread 7,
     List.replicate 4 ⟨thread, .outcome 0⟩,
     [⟨thread, .order [(1, oneInstance.withQualityType .invalid)]⟩], turnsOf thread 6]

/-- The instance is offered, and the worker calls the handler. -/
def foundTurns : List DiscoveryTurn := List.flatten
    [[⟨.others, .change (.createFlagFile ⟨1, some 1⟩ ⟨7, .asilQm, 1⟩)⟩, ⟨.worker, .read 1⟩],
     turnsOf .worker 7, [⟨.worker, .search 0⟩]]

/-- A thread stops the search up to some turn of the stop. -/
def stopTurns (thread : DiscoveryThread) (count : Nat) : List DiscoveryTurn :=
  ⟨thread, .call (.stopFindService 0)⟩ :: turnsOf thread count

/-- What searches are called with is stored, and each is started by one thread. -/
theorem registered_of_reached {permitted : DiscoveryThreads → DiscoveryTurn → Prop}
    (reached : discoveryMachine.Reaches permitted discoveryThreads state) :
    state.Lifecycle ∧ state.Registered := by
  refine reached.invariant (fun state : DiscoveryThreads => state.Lifecycle ∧ state.Registered)
    ⟨lifecycle_discoveryThreads, registered_discoveryThreads⟩ ?_
  intro before turn after inv _ stepped
  exact ⟨inv.1.step stepped, inv.2.step inv.1 stepped⟩

/-- A search is started and finds an instance. -/
theorem registered_of_found : ∃ state : DiscoveryThreads, state.memory.handleToInstances 0 ≠ [] ∧
      state.Lifecycle ∧ state.Registered := by
  obtain ⟨state, reached, stored⟩ := Machine.exists_reached discoveryMachine (fun _ _ => True)
    discoveryThreads (startTurns (.user 0) ++ foundTurns)
    (fun state : DiscoveryThreads => state.memory.handleToInstances 0 ≠ []) (by decide +kernel)
  exact ⟨state, stored, registered_of_reached reached⟩

/-- The stop that a stack returns from. -/
def returning : List DiscoveryCommand → Option FindServiceHandle
  | .todo (.act (.stopReturns handle)) :: _ => some handle
  | _ => none

theorem returning_eq {stack : List DiscoveryCommand} (isReturn : returning stack = some handle) :
    ∃ rest, stack = .todo (.act (.stopReturns handle)) :: rest := by
  rw [returning.eq_def] at isReturn
  split at isReturn
  · cases isReturn
    exact ⟨_, rfl⟩
  · cases isReturn

/-- The lookup of a stop that is on top of a stack. -/
def lookingUp : List DiscoveryCommand → Option FindServiceHandle
  | .todo (.act (.stopEach handle)) :: _ => some handle
  | _ => none

/-- The stop finds its search. -/
def Found (state : DiscoveryThreads) (turn : DiscoveryTurn) : Prop :=
  ∀ handle ∈ lookingUp (state.stack turn.thread), state.memory.handleToInstances handle ≠ []

instance (state : DiscoveryThreads) (turn : DiscoveryTurn) : Decidable (state.Found turn) :=
  inferInstanceAs (Decidable (∀ handle ∈ lookingUp (state.stack turn.thread),
    state.memory.handleToInstances handle ≠ []))

theorem stopsRegistered_of_found (found : state.Found turn) : state.StopsRegistered turn := by
  intro handle rest top _ gone
  have isLookup : handle ∈ lookingUp (state.stack turn.thread) := by
    rw [top]
    rfl
  exact absurd gone (found handle isLookup)

/-- The search is stopped by its own thread after its handler was called and has returned. -/
theorem handlerSilence_of_stopped : ∃ state : DiscoveryThreads,
      returning (state.stack (.user 0)) = some 0 ∧ state.HandlerSilence ∧
        ∀ later : DiscoveryThreads, discoveryMachine.Reaches (fun _ _ => True) state later →
          ¬ later.InProgress 0 := by
  obtain ⟨state, reached, returns, outside⟩ := Machine.exists_reached discoveryMachine Found
    discoveryThreads
    (startTurns (.user 0) ++ foundTurns ++ [⟨.worker, .call .finish⟩] ++ turnsOf .worker 3 ++
      stopTurns (.user 0) 9)
    (fun state : DiscoveryThreads => returning (state.stack (.user 0)) = some 0 ∧
      ¬ state.Inside (.user 0) 0)
    (by decide +kernel)
  have silence := handlerSilence_of_registered
    (reached.weaken fun _ _ found => stopsRegistered_of_found found)
  obtain ⟨rest, top⟩ := returning_eq returns
  exact ⟨state, returns, silence, silence (.user 0) 0 rest top outside⟩

/-- The handler stops its own search and goes on; another thread's stop returns. -/
theorem handlerSilence_violated : ¬ ∀ state : DiscoveryThreads,
      discoveryMachine.Reaches (fun _ _ => True) discoveryThreads state → state.HandlerSilence := by
  intro silent
  obtain ⟨state, reached, returns, outside, inside⟩ := Machine.exists_reached discoveryMachine
    (fun _ _ => True) discoveryThreads
    (startTurns (.user 0) ++ foundTurns ++ stopTurns .worker 10 ++ stopTurns (.user 0) 6)
    (fun state : DiscoveryThreads => returning (state.stack (.user 0)) = some 0 ∧
      ¬ state.Inside (.user 0) 0 ∧ state.Inside .worker 0)
    (by decide +kernel)
  obtain ⟨rest, top⟩ := returning_eq returns
  exact silent state reached (.user 0) 0 rest top outside state .refl ⟨.worker, inside⟩

end DiscoveryThreads

end MwCom.ServiceDiscovery
