/-
Module: MwCom.ServiceDiscovery.StoppedSearches
Purpose: What a stop of a search has reached when its callback is erased and when it
  returns, and that callbacks and instances are there as long as handlers may be called.
Trusted boundary: none
Main exports: Closed, Closed.step, Registered, Registered.step
-/
import MwCom.ServiceDiscovery.SearchLifecycle

namespace MwCom.ServiceDiscovery

open Interleaving Locking
open Machine (has_enter has_leave has_proceed has_top)

namespace DiscoveryInstr

/-- `StopFindService` from the look-up of the searches to the erasure of the handle -/
def StopStep (handle : FindServiceHandle) : DiscoveryInstr → Prop
  | .stopEach other => other = handle
  | .addObsolete other => other = handle
  | .eraseUserCallback other => other = handle
  | .eraseInstances other => other = handle
  | _ => False

/-- The client has not been told yet that the search is obsolete. -/
def Pending (handle : FindServiceHandle) : DiscoveryInstr → Prop
  | .stopEach other => other = handle
  | .addObsolete other => other = handle
  | _ => False

/-- What follows when the client has been told. -/
def Closing (handle : FindServiceHandle) : DiscoveryInstr → Prop
  | .eraseUserCallback other => other = handle
  | .eraseInstances other => other = handle
  | .stopReturns other => other = handle
  | _ => False

def Ending (handle : FindServiceHandle) : DiscoveryInstr → Prop
  | .invocationEnds other => other = handle
  | _ => False

/-- The callback of the search is stored. -/
def Located (handle : FindServiceHandle) : DiscoveryInstr → Prop
  | .startFindServiceImpl other _ => other = handle
  | .startSearch other _ => other = handle
  | .working starting _ => starting = some handle
  | _ => False

end DiscoveryInstr

open DiscoveryInstr (Starting Searching Settling StopStep Pending Closing Ending Located Scoped)

namespace DiscoveryThreads

variable {state after : DiscoveryThreads} {turn : DiscoveryTurn} {thread : DiscoveryThread}
  {handle : FindServiceHandle}

/-- No end of an invocation is among the commands. -/
def Quiet (handle : FindServiceHandle) (commands : List DiscoveryCommand) : Prop :=
  ∀ command ∈ commands, ¬ command.For (Ending handle)

/-- The commands stop the search, and the client has still to be told. -/
structure Stops (handle : FindServiceHandle) (commands : List DiscoveryCommand) : Prop where
  steps : ∀ command ∈ commands, ¬ command.For fun instr => ¬ instr.StopStep handle
  pending : ∃ command ∈ commands, command.For (Pending handle)

/-- Whatever closes a stop of a search has reached its goal, or the stop is still at it. -/
def Closed (Goal : DiscoveryThreads → List DiscoveryCommand → FindServiceHandle → Prop)
    (state : DiscoveryThreads) : Prop :=
  ∀ thread handle before command behind,
    state.stack thread = before ++ command :: behind → command.For (Closing handle) →
      Goal state behind handle ∨ Stops handle before

/-! ## Steps of a stop -/

variable {command : DiscoveryCommand}

theorem not_ending_of_stopStep (step : ¬ command.For fun instr => ¬ instr.StopStep handle) :
    ¬ command.For (Ending handle) := by
  intro ending
  apply step
  cases command with
  | unlock mutex mode => exact ending
  | todo statement =>
      simp only [Command.for_todo] at ending ⊢
      cases isInstr : statement.instr <;> rw [isInstr] at ending <;>
        first | exact ending.elim | exact id

theorem not_ending_of_closing (closing : command.For (Closing handle)) :
    ¬ command.For (Ending handle) := by
  intro ending
  cases command with
  | unlock mutex mode => exact ending
  | todo statement =>
      simp only [Command.for_todo] at ending closing
      cases isInstr : statement.instr <;> rw [isInstr] at ending closing <;>
        first | exact ending.elim | exact closing.elim

theorem Quiet.append {upper lower : List DiscoveryCommand} (upperQuiet : Quiet handle upper)
    (lowerQuiet : Quiet handle lower) : Quiet handle (upper ++ lower) := by
  intro command member
  obtain isUpper | isLower := List.mem_append.mp member
  · exact upperQuiet command isUpper
  · exact lowerQuiet command isLower

/-- What `StopFindService` does under its mutex, as commands. -/
def stopCommands (handle : FindServiceHandle) (instances : List EnrichedInstanceIdentifier) :
    List DiscoveryCommand :=
  let statements : List DiscoveryStatement :=
    instances.map (fun _ => Statement.guarded .worker .exclusive (.addObsolete handle)) ++
      [.act (.eraseUserCallback handle), .act (.eraseInstances handle)]
  statements.map .todo

theorem stopStep_of_mem (instances : List EnrichedInstanceIdentifier)
    (member : command ∈ stopCommands handle instances) :
    ¬ command.For fun instr => ¬ instr.StopStep handle := by
  obtain ⟨statement, isStatement, rfl⟩ := List.mem_map.mp member
  simp only [List.mem_append, List.mem_map, List.mem_cons, List.not_mem_nil, or_false]
    at isStatement
  obtain ⟨_, -, rfl⟩ | rfl | rfl := isStatement
  · exact fun no => no rfl
  · exact fun no => no rfl
  · exact fun no => no rfl

/-- Before what closes a stop, the client is told of each search there is. -/
theorem stops_of_split {instances : List EnrichedInstanceIdentifier} (some : instances ≠ [])
    {before behind : List DiscoveryCommand}
    (split : stopCommands handle instances = before ++ command :: behind)
    (closing : command.For (Closing handle)) : Stops handle before := by
  constructor
  · intro other member
    apply stopStep_of_mem instances
    rw [split]
    exact List.mem_append_left _ member
  · cases instances with
    | nil => exact absurd rfl some
    | cons first others =>
        cases before with
        | nil =>
            obtain ⟨rfl, -⟩ := List.cons.inj split
            exact closing.elim
        | cons upper before =>
            obtain ⟨rfl, -⟩ := List.cons.inj split
            exact ⟨_, List.mem_cons_self, rfl⟩

variable {instr : DiscoveryInstr}

/-- Only a stop pushes what closes it. -/
theorem executes_closing {memory : DiscoveryMemory} {result : DiscoveryMemory}
    {pushed : List DiscoveryStatement} (executes : instr.Executes thread memory result pushed)
    (pushes : Pushes pushed (Closing handle)) :
    (instr = .stopFindService handle ∧
        pushed = [.guarded .container .exclusive (.stopEach handle), .act (.stopReturns handle)]) ∨
      (instr = .stopEach handle ∧
        pushed.map .todo = stopCommands handle (memory.handleToInstances handle)) := by
  cases executes with
  | stopFindService other =>
      simp [Closing] at pushes
      subst pushes
      exact .inl ⟨rfl, rfl⟩
  | stopEach other =>
      simp [Closing, Statement.instr] at pushes
      subst pushes
      exact .inr ⟨rfl, rfl⟩
  | callHandler called invokes | searchStarted invokes =>
      have never := InvokesThen.pushes invokes pushes
      simp [Closing] at never
  | _ => simp [Closing] at pushes

/-- A step at which the client has been told all that a stop has to tell it. -/
def Told (state : DiscoveryThreads) (thread : DiscoveryThread) (handle : FindServiceHandle) :
    Prop :=
  ∃ rest, state.stack thread = .todo (.act (.addObsolete handle)) :: rest ∨
    (state.stack thread = .todo (.act (.stopEach handle)) :: rest ∧
      state.memory.handleToInstances handle = [])

variable {Goal : DiscoveryThreads → List DiscoveryCommand → FindServiceHandle → Prop}

theorem Closed.step (closed : Closed Goal state) (life : state.Lifecycle)
    (stepped : discoveryMachine.step state turn = some after)
    (kept : ∀ behind handle, Goal state behind handle → Goal after behind handle)
    (told : ∀ handle, state.Told turn.thread handle → ∀ before behind,
      after.stack turn.thread = before ++ behind → Quiet handle before → Goal after behind handle) :
    Closed Goal after := by
  intro thread handle before command behind split closing
  by_cases own : thread = turn.thread
  · subst own
    obtain ⟨instr, rest, memory, pushed, top, executed, rfl⟩ |
      ⟨mutex, mode, body, rest, top, -, rfl⟩ | ⟨mutex, mode, rest, top, rfl⟩ :=
      discoveryMachine.step_cases stepped
    · have executes := DiscoveryMemory.executes_of_exec executed
      have isAfter : pushed.map Command.todo ++ rest = before ++ command :: behind := by
        simpa [Machine.proceed] using split
      obtain ⟨middle, isNew, rfl⟩ | ⟨middle, rfl, isBelow⟩ := Machine.split_of_append isAfter
      · -- the command has just been pushed
        have pushes : Pushes pushed (Closing handle) := by
          have member : command ∈ pushed.map Command.todo := by
            rw [isNew]
            simp
          obtain ⟨statement, statementPushed, rfl⟩ := List.mem_map.mp member
          exact ⟨statement, statementPushed, closing⟩
        obtain ⟨rfl, rfl⟩ | ⟨rfl, isStop⟩ := executes_closing executes pushes
        · cases before with
          | nil =>
              obtain ⟨rfl, -⟩ := List.cons.inj isNew
              exact closing.elim
          | cons first before =>
              obtain ⟨rfl, isNew⟩ := List.cons.inj isNew
              cases before with
              | nil =>
                  refine .inr ⟨fun other member => ?_, _, List.mem_cons_self, rfl⟩
                  obtain rfl := List.mem_singleton.mp member
                  exact fun no => no rfl
              | cons second before => simp at isNew
        · rw [isStop] at isNew
          by_cases gone : state.memory.handleToInstances handle = []
          · refine .inl (told handle ⟨rest, .inr ⟨top, gone⟩⟩ (before ++ [command]) _ ?_ ?_)
            · rw [split]
              simp
            · have quiet : Quiet handle (stopCommands handle
                  (state.memory.handleToInstances handle)) :=
                fun other member => not_ending_of_stopStep (stopStep_of_mem _ member)
              intro other member
              apply quiet other
              rw [isNew, List.append_cons]
              exact List.mem_append_left _ member
          · exact .inr (stops_of_split gone isNew closing)
      · -- it was there before
        have closedBefore := closed turn.thread handle (.todo (.act instr) :: middle) command
          behind (by rw [top, isBelow]; rfl) closing
        obtain goal | stops := closedBefore
        · exact .inl (kept behind handle goal)
        · have middleSteps : ∀ other ∈ middle, ¬ other.For fun instr => ¬ instr.StopStep handle :=
            fun other member => stops.steps other (List.mem_cons_of_mem _ member)
          have middleQuiet : Quiet handle (middle ++ [command]) := by
            apply Quiet.append
            · exact fun other member => not_ending_of_stopStep (middleSteps other member)
            · intro other member
              obtain rfl := List.mem_singleton.mp member
              exact not_ending_of_closing closing
          have isStep : instr.StopStep handle := not_not.mp (stops.steps _ List.mem_cons_self)
          -- nothing is pushed, and what is pending is below
          have onward : ¬ instr.Pending handle → Stops handle middle := by
            intro done
            obtain ⟨other, member, pending⟩ := stops.pending
            obtain rfl | below := List.mem_cons.mp member
            · exact absurd pending done
            · exact ⟨middleSteps, other, below, pending⟩
          cases executes with
          | stopEach other =>
              obtain rfl : other = handle := isStep
              by_cases gone : state.memory.handleToInstances other = []
              · refine .inl (told other ⟨rest, .inr ⟨top, gone⟩⟩ _ behind
                  (split.trans (List.append_cons _ _ _)) ?_)
                rw [List.append_assoc]
                refine Quiet.append (fun upper member => ?_) middleQuiet
                exact not_ending_of_stopStep (stopStep_of_mem _ member)
              · refine .inr ⟨fun upper member => ?_, ?_⟩
                · obtain isPushed | below := List.mem_append.mp member
                  · exact stopStep_of_mem _ isPushed
                  · exact middleSteps upper below
                · refine ⟨.todo (.guarded .worker .exclusive (.addObsolete other)), ?_, rfl⟩
                  simp [gone]
          | addObsolete other =>
              obtain rfl : other = handle := isStep
              refine .inl (told other ⟨rest, .inl top⟩ _ behind
                (split.trans (List.append_cons _ _ _)) ?_)
              exact middleQuiet
          | eraseUserCallback other | eraseInstances other => exact .inr (onward id)
          | _ => exact isStep.elim
    · have entered : [Command.todo (.act body), .unlock mutex mode] ++ rest =
          before ++ command :: behind := by
        simpa [Machine.enter] using split
      obtain ⟨middle, isNew, rfl⟩ | ⟨middle, rfl, isBelow⟩ := Machine.split_of_append entered
      · cases before with
        | nil =>
            obtain ⟨rfl, -⟩ := List.cons.inj isNew
            have bodies := life.bodies turn.thread (.guarded mutex mode body) (by simp [top])
            cases body <;> first | exact closing.elim | (cases mutex <;> exact bodies.elim)
        | cons first before =>
            cases before with
            | nil =>
                cases isNew
                exact closing.elim
            | cons second before => simp at isNew
      · obtain goal | stops := closed turn.thread handle (.todo (.guarded mutex mode body) :: middle)
          command behind (by rw [top, isBelow]; rfl) closing
        · exact .inl (kept behind handle goal)
        · refine .inr ⟨fun other member => ?_, ?_⟩
          · obtain rfl | rfl | below : other = .todo (.act body) ∨ other = .unlock mutex mode ∨
                other ∈ middle := by
              simpa using member
            · exact fun no =>
                stops.steps (.todo (.guarded mutex mode body)) List.mem_cons_self no
            · exact id
            · exact stops.steps other (List.mem_cons_of_mem _ below)
          · obtain ⟨other, member, pending⟩ := stops.pending
            obtain rfl | below := List.mem_cons.mp member
            · exact ⟨.todo (.act body), by simp, pending⟩
            · exact ⟨other, by simp [below], pending⟩
    · have left : rest = before ++ command :: behind := by
        simpa [Machine.leave] using split
      obtain goal | stops := closed turn.thread handle (.unlock mutex mode :: before) command
        behind (by rw [top, left]; rfl) closing
      · exact .inl (kept behind handle goal)
      · refine .inr ⟨fun other member => stops.steps other (List.mem_cons_of_mem _ member), ?_⟩
        obtain ⟨other, member, pending⟩ := stops.pending
        obtain rfl | below := List.mem_cons.mp member
        · exact pending.elim
        · exact ⟨other, below, pending⟩
  · rw [stack_of_ne stepped own] at split
    obtain goal | stops := closed thread handle before command behind split closing
    · exact .inl (kept behind handle goal)
    · exact .inr stops

/-- A closing command on top has reached its goal. -/
theorem Closed.top (closed : Closed Goal state) {rest : List DiscoveryCommand}
    (top : state.stack thread = command :: rest) (closing : command.For (Closing handle)) :
    Goal state rest handle := by
  obtain goal | stops := closed thread handle [] command rest top closing
  · exact goal
  · obtain ⟨_, member, -⟩ := stops.pending
    cases member

/-! ## Callbacks and instances -/

section Rules

variable {memory result : DiscoveryMemory} {instr : DiscoveryInstr}
  {statements : List DiscoveryStatement}

section

variable (executes : instr.Executes thread memory result statements)

include executes

theorem executes_userCallbacks (present : memory.userCallbacks handle ≠ none) :
    result.userCallbacks handle ≠ none ∨ instr = .eraseUserCallback handle := by
  cases executes with
  | storeUserCallback other callback stored identifier | nothingToFind other callback stored =>
      by_cases same : handle = other
      · simp [same]
      · simpa [same] using present
  | eraseUserCallback other =>
      by_cases same : handle = other
      · exact .inr (congrArg _ same.symm)
      · simpa [same] using .inl present
  | callHandler called invokes | searchStarted invokes =>
      obtain rfl | ⟨-, rfl⟩ := InvokesThen.same invokes
      · exact .inl present
      · exact .inl present
  | _ => exact .inl present

theorem executes_instances (present : memory.handleToInstances handle ≠ []) :
    result.handleToInstances handle ≠ [] ∨ instr = .eraseInstances handle := by
  cases executes with
  | startFindServiceImpl other identifier =>
      by_cases same : handle = other
      · simp [same]
      · simpa [same] using present
  | eraseInstances other =>
      by_cases same : handle = other
      · exact .inr (congrArg _ same.symm)
      · simpa [same] using .inl present
  | callHandler called invokes | searchStarted invokes =>
      obtain rfl | ⟨-, rfl⟩ := InvokesThen.same invokes
      · exact .inl present
      · exact .inl present
  | _ => exact .inl present

/-- A search is gone on with when its callback is stored. -/
theorem executes_located (pushes : Pushes statements (Located handle)) :
    result.userCallbacks handle ≠ none ∨
      (instr.Located handle ∧ result.userCallbacks = memory.userCallbacks) := by
  cases executes with
  | storeUserCallback other callback stored identifier =>
      simp [Located] at pushes
      simp [pushes]
  | startFindServiceImpl other identifier | startSearch other identifier
  | performed answer files =>
      simp [Located] at pushes
      exact .inr ⟨pushes, rfl⟩
  | callHandler called invokes | searchStarted invokes =>
      have never := InvokesThen.pushes invokes pushes
      simp [Located] at never
  | _ => simp [Located, Statement.instr] at pushes

/-- The client looks for a search when its instance is stored. -/
theorem executes_searching (pushes : Pushes statements (Searching handle)) :
    result.handleToInstances handle ≠ [] ∨
      (instr.Searching handle ∧ result.handleToInstances = memory.handleToInstances) := by
  cases executes with
  | startFindServiceImpl other identifier =>
      simp [Searching] at pushes
      simp [pushes]
  | startSearch other identifier | performed answer files =>
      simp [Searching] at pushes
      exact .inr ⟨pushes, rfl⟩
  | callHandler called invokes | searchStarted invokes =>
      have never := InvokesThen.pushes invokes pushes
      simp [Searching] at never
  | _ => simp [Searching, Statement.instr] at pushes

end

end Rules

theorem starting_of_located (located : instr.Located handle) : instr.Starting handle := by
  cases instr with
  | startFindServiceImpl other identifier | startSearch other identifier
  | working starting program => exact located
  | _ => exact located.elim

theorem located_of_searching (searching : instr.Searching handle) : instr.Located handle := by
  cases instr with
  | startSearch other identifier | working starting program => exact searching
  | _ => exact searching.elim

/-- What a search is, or may be, called with is stored; a stop erases it last. -/
structure Registered (state : DiscoveryThreads) : Prop where
  located : ∀ thread handle, state.Has thread (Located handle) →
    state.memory.userCallbacks handle ≠ none
  searching : ∀ thread handle, state.Has thread (Searching handle) →
    state.memory.handleToInstances handle ≠ []
  callable : ∀ handle, state.memory.client.Callable handle →
    state.memory.userCallbacks handle ≠ none ∧ state.memory.handleToInstances handle ≠ []
  closed : Closed (fun state _ handle => state.Muted handle) state

/-- A search that may be called after a step may have been before, or was looked for. -/
theorem Lifecycle.callable_before (life : state.Lifecycle)
    (stepped : discoveryMachine.step state turn = some after)
    (callable : after.memory.client.Callable handle) :
    state.memory.client.Callable handle ∨ state.Has turn.thread (Searching handle) := by
  obtain ⟨instr, rest, memory, pushed, top, executed, rfl⟩ |
    ⟨mutex, mode, body, rest, top, -, rfl⟩ | ⟨mutex, mode, rest, top, rfl⟩ :=
    discoveryMachine.step_cases stepped
  · obtain before | ⟨isSearching, -⟩ := executes_callable (life.sound top)
      (DiscoveryMemory.executes_of_exec executed) callable
    · exact .inl before
    · exact .inr (has_top top isSearching)
  · exact .inl callable
  · exact .inl callable

theorem Muted.step (muted : state.Muted handle) (life : state.Lifecycle)
    (stepped : discoveryMachine.step state turn = some after) : after.Muted handle := by
  refine ⟨muted.1.step stepped, fun callable => ?_⟩
  obtain before | has := life.callable_before stepped callable
  · exact muted.2 before
  · exact muted.1.2 turn.thread (has.weaken fun _ => DiscoveryInstr.starting_of_searching)

/-- A search whose stop has told the client all is not called any more. -/
theorem muted_of_told (life : state.Lifecycle) (registered : state.Registered)
    (stepped : discoveryMachine.step state turn = some after)
    (told : state.Told turn.thread handle) : after.Muted handle := by
  obtain ⟨rest, top | ⟨top, gone⟩⟩ := told
  · have settled := life.settling turn.thread handle (has_top top rfl)
    refine ⟨settled.step stepped, fun callable => ?_⟩
    obtain ⟨instr, rest', memory, pushed, top', executed, rfl⟩ |
      ⟨mutex, mode, body, rest', top', -, rfl⟩ | ⟨mutex, mode, rest', top', rfl⟩ :=
      discoveryMachine.step_cases stepped
    · rw [top] at top'
      cases top'
      have executes : DiscoveryInstr.Executes turn.thread state.memory (.addObsolete handle)
          memory pushed :=
        DiscoveryMemory.executes_of_exec
          (show state.memory.exec turn.thread turn.choice _ = some (memory, pushed) from executed)
      cases executes with
      | addObsolete other => exact callable.2 List.mem_insert_self
    · rw [top] at top'
      cases top'
    · rw [top] at top'
      cases top'
  · have muted : state.Muted handle := by
      refine ⟨life.settling turn.thread handle (has_top top rfl), fun callable => ?_⟩
      exact (registered.callable handle callable).2 gone
    exact muted.step life stepped

section

variable (registered : state.Registered) (stepped : discoveryMachine.step state turn = some after)

include registered stepped

/-- What is stored for a handle is erased when nothing refers to it any more. -/
theorem Registered.present : (state.memory.userCallbacks handle ≠ none →
        after.memory.userCallbacks handle ≠ none ∨ state.Muted handle) ∧
      (state.memory.handleToInstances handle ≠ [] →
        after.memory.handleToInstances handle ≠ [] ∨ state.Muted handle) := by
  obtain ⟨instr, rest, memory, pushed, top, executed, rfl⟩ |
    ⟨mutex, mode, body, rest, top, -, rfl⟩ | ⟨mutex, mode, rest, top, rfl⟩ :=
    discoveryMachine.step_cases stepped
  · have executes := DiscoveryMemory.executes_of_exec executed
    constructor
    · intro present
      obtain still | rfl := executes_userCallbacks executes present
      · exact .inl still
      · exact .inr (registered.closed.top top rfl)
    · intro present
      obtain still | rfl := executes_instances executes present
      · exact .inl still
      · exact .inr (registered.closed.top top rfl)
  · exact ⟨.inl, .inl⟩
  · exact ⟨.inl, .inl⟩

theorem Registered.located_step (thread : DiscoveryThread) (handle : FindServiceHandle)
    (has : after.Has thread (Located handle)) :
    after.memory.userCallbacks handle ≠ none := by
  have goesOn : state.Has thread (Located handle) → after.memory.userCallbacks handle ≠ none := by
    intro before
    obtain still | muted := (registered.present stepped).1 (registered.located thread handle before)
    · exact still
    · exact absurd (before.weaken fun _ => starting_of_located) (muted.1.2 thread)
  obtain before | ⟨rfl, instr, rest, memory, pushed, top, executes, pushes, rfl⟩ :=
    has_of_step stepped has
  · exact goesOn before
  · obtain stored | ⟨isLocated, same⟩ := executes_located executes pushes
    · exact stored
    · exact goesOn (has_top top isLocated)

theorem Registered.searching_step (thread : DiscoveryThread) (handle : FindServiceHandle)
    (has : after.Has thread (Searching handle)) :
    after.memory.handleToInstances handle ≠ [] := by
  have goesOn : state.Has thread (Searching handle) →
      after.memory.handleToInstances handle ≠ [] := by
    intro before
    obtain still | muted :=
      (registered.present stepped).2 (registered.searching thread handle before)
    · exact still
    · exact absurd (before.weaken fun _ => DiscoveryInstr.starting_of_searching) (muted.1.2 thread)
  obtain before | ⟨rfl, instr, rest, memory, pushed, top, executes, pushes, rfl⟩ :=
    has_of_step stepped has
  · exact goesOn before
  · obtain stored | ⟨isSearching, same⟩ := executes_searching executes pushes
    · exact stored
    · exact goesOn (has_top top isSearching)

end

theorem Registered.callable_step (registered : state.Registered) (life : state.Lifecycle)
    (stepped : discoveryMachine.step state turn = some after) (handle : FindServiceHandle)
    (callable : after.memory.client.Callable handle) :
    after.memory.userCallbacks handle ≠ none ∧ after.memory.handleToInstances handle ≠ [] := by
  have before : (state.memory.userCallbacks handle ≠ none ∧
      state.memory.handleToInstances handle ≠ []) ∧ ¬ state.Muted handle := by
    obtain wasCallable | has := life.callable_before stepped callable
    · exact ⟨registered.callable handle wasCallable, fun muted => muted.2 wasCallable⟩
    · refine ⟨⟨?_, registered.searching turn.thread handle has⟩, fun muted => ?_⟩
      · exact registered.located turn.thread handle (has.weaken fun _ => located_of_searching)
      · exact muted.1.2 turn.thread (has.weaken fun _ => DiscoveryInstr.starting_of_searching)
  have present := @present _ _ _ handle registered stepped
  constructor
  · obtain still | muted := present.1 before.1.1
    · exact still
    · exact absurd muted before.2
  · obtain still | muted := present.2 before.1.2
    · exact still
    · exact absurd muted before.2

theorem Registered.step (registered : state.Registered) (life : state.Lifecycle)
    (stepped : discoveryMachine.step state turn = some after) : after.Registered where
  located := registered.located_step stepped
  searching := registered.searching_step stepped
  callable := registered.callable_step life stepped
  closed := registered.closed.step life stepped (fun _ _ muted => muted.step life stepped)
    fun _ told _ _ _ _ => muted_of_told life registered stepped told

theorem closed_discoveryThreads : Closed Goal discoveryThreads := by
  intro thread handle before command behind split closing
  have has : discoveryThreads.Has thread (Closing handle) := by
    refine ⟨command, ?_, closing⟩
    rw [split]
    simp
  refine absurd has (not_has_discoveryThreads thread ?_)
  simp [Closing]

theorem registered_discoveryThreads : discoveryThreads.Registered where
  located thread handle has := by
    refine absurd has (not_has_discoveryThreads thread ?_)
    simp [Located]
  searching thread handle has := by
    refine absurd has (not_has_discoveryThreads thread ?_)
    simp [Searching]
  callable handle callable := absurd rfl callable.1
  closed := closed_discoveryThreads

end DiscoveryThreads

end MwCom.ServiceDiscovery
