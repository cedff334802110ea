/-
Module: MwCom.ServiceDiscovery.CallbackLifetime
Purpose: The callback of a search is erased when nothing refers to it any more, unless a
  handler stops its own search.
Trusted boundary: none
Main exports: DiscoveryThreads.ErasesUnused, DiscoveryThreads.StopsOthers,
  erasesUnused_of_stopsOthers, erasesUnused_violated
-/
import MwCom.ServiceDiscovery.HandlerSilence

namespace MwCom.ServiceDiscovery

open Interleaving Locking
open Machine (has_enter has_leave has_proceed has_top)
open DiscoveryInstr (Searching StopStep Ending)

namespace DiscoveryThreads

variable {state after : DiscoveryThreads} {turn : DiscoveryTurn} {thread : DiscoveryThread}
  {handle : FindServiceHandle}

/-! ## The law -/

/-- A callback is erased only when no invocation of it is in progress and no search that is
still to be called refers to it. -/
def ErasesUnused (state : DiscoveryThreads) : Prop :=
  ∀ turn after handle, discoveryMachine.step state turn = some after →
    state.memory.userCallbacks handle ≠ none → after.memory.userCallbacks handle = none →
      ¬ state.InProgress handle ∧ ¬ state.memory.client.Callable handle

/-- `StopFindService` is not called inside of the handler of the search. -/
def StopsOthers (state : DiscoveryThreads) (turn : DiscoveryTurn) : Prop :=
  ∀ handle rest, state.stack turn.thread = .todo (.act (.stopFindService handle)) :: rest →
    ¬ state.Inside turn.thread handle

/-! ## Stops outside of handlers -/

/-- A stop goes on outside of the handler of its search. -/
def StopsOutside (state : DiscoveryThreads) : Prop := ∀ thread handle before command behind,
    state.stack thread = before ++ command :: behind → command.For (StopStep handle) →
      Quiet handle behind

/-- Only a stop pushes steps of a stop. -/
theorem executes_stopStep {instr : DiscoveryInstr} {memory result : DiscoveryMemory}
    {pushed : List DiscoveryStatement} (executes : instr.Executes thread memory result pushed)
    (pushes : Pushes pushed (StopStep handle)) :
    (instr = .stopFindService handle ∧
        pushed = [.guarded .container .exclusive (.stopEach handle), .act (.stopReturns handle)]) ∨
      (instr = .stopEach handle ∧
        pushed.map .todo = stopCommands handle (memory.handleToInstances handle)) := by
  cases executes with
  | stopFindService other =>
      simp [StopStep] at pushes
      subst pushes
      exact .inl ⟨rfl, rfl⟩
  | stopEach other =>
      have same : other = handle := by
        simp [StopStep, Statement.instr] at pushes
        obtain ⟨-, isStop⟩ | isErase := pushes
        · exact isStop
        · exact isErase
      subst same
      exact .inr ⟨rfl, rfl⟩
  | callHandler called invokes | searchStarted invokes =>
      have never := InvokesThen.pushes invokes pushes
      simp [StopStep] at never
  | _ => simp [StopStep] at pushes

theorem StopsOutside.step (outside : StopsOutside state) (life : state.Lifecycle)
    (allowed : state.StopsOthers turn)
    (stepped : discoveryMachine.step state turn = some after) : StopsOutside after := by
  intro thread handle before command behind split isStep
  by_cases own : thread = turn.thread
  · subst own
    obtain ⟨instr, rest, memory, pushed, top, executed, rfl⟩ |
      ⟨mutex, mode, body, rest, top, -, rfl⟩ | ⟨mutex, mode, rest, top, rfl⟩ :=
      discoveryMachine.step_cases stepped
    · have isAfter : pushed.map Command.todo ++ rest = before ++ command :: behind := by
        simpa [Machine.proceed] using split
      obtain ⟨middle, isNew, rfl⟩ | ⟨middle, rfl, isBelow⟩ := Machine.split_of_append isAfter
      · have member : command ∈ pushed.map Command.todo := by
          rw [isNew]
          simp
        obtain ⟨statement, statementPushed, rfl⟩ := List.mem_map.mp member
        have middlePushed : ∀ other ∈ middle, other ∈ pushed.map Command.todo := by
          intro other below
          rw [isNew]
          simp [below]
        obtain ⟨rfl, rfl⟩ | ⟨rfl, isStop⟩ := executes_stopStep
          (DiscoveryMemory.executes_of_exec executed) ⟨statement, statementPushed, isStep⟩
        · apply Quiet.append
          · intro other below ending
            have pushedHere := middlePushed other below
            simp only [List.map_cons, List.map_nil, List.mem_cons, List.not_mem_nil, or_false]
              at pushedHere
            obtain rfl | rfl := pushedHere
            · exact ending
            · exact ending
          · intro other below ending
            apply allowed handle rest top
            apply life.inside
            exact ⟨other, by rw [top]; exact List.mem_cons_of_mem _ below, ending⟩
        · apply Quiet.append
          · intro other below
            apply not_ending_of_stopStep
            apply stopStep_of_mem
            exact isStop ▸ middlePushed other below
          · exact outside turn.thread handle [] _ rest top rfl
      · exact outside turn.thread handle (.todo (.act instr) :: middle) command behind
          (by rw [top, isBelow]; rfl) isStep
    · have entered : [Command.todo (.act body), .unlock mutex mode] ++ rest =
          before ++ command :: behind := by
        simpa [Machine.enter] using split
      obtain ⟨middle, isNew, rfl⟩ | ⟨middle, rfl, isBelow⟩ := Machine.split_of_append entered
      · cases before with
        | nil =>
            obtain ⟨rfl, rfl⟩ := List.cons.inj isNew
            have quiet := outside turn.thread handle [] _ rest top isStep
            intro other member
            obtain rfl | below := List.mem_cons.mp member
            · exact id
            · exact quiet other below
        | cons first before =>
            cases before with
            | nil =>
                cases isNew
                exact isStep.elim
            | cons second before => simp at isNew
      · exact outside turn.thread handle (.todo (.guarded mutex mode body) :: middle) command
          behind (by rw [top, isBelow]; rfl) isStep
    · have left : rest = before ++ command :: behind := by
        simpa [Machine.leave] using split
      exact outside turn.thread handle (.unlock mutex mode :: before) command behind
        (by rw [top, left]; rfl) isStep
  · rw [stack_of_ne stepped own] at split
    exact outside thread handle before command behind split isStep

/-! ## Runs -/

/-- What holds in the runs that the law holds in. -/
structure Lasting (state : DiscoveryThreads) : Prop extends state.Silencing where
  outside : StopsOutside state
  listed : ∀ thread handle, state.Has thread (Ending handle) →
    state.memory.handleToInstances handle ≠ []

/-- A stop that finds no search finds no invocation either. -/
theorem Lasting.stopsRegistered (lasting : state.Lasting) : state.StopsRegistered turn := by
  intro handle rest _ _ gone inProgress
  obtain ⟨thread, inside⟩ := inProgress
  exact lasting.listed thread handle inside.has gone

/-- What a stop outside of the handler erases is not used any more. -/
theorem Lasting.silenced (lasting : state.Lasting) {instr : DiscoveryInstr}
    {rest : List DiscoveryCommand} (top : state.stack thread = .todo (.act instr) :: rest)
    (closing : instr.Closing handle) (isStep : instr.StopStep handle) :
    state.Silenced handle := by
  obtain ⟨command, below, ending⟩ | silenced := lasting.closed.top top closing
  · exact absurd ending (lasting.outside thread handle [] _ rest top isStep command below)
  · exact silenced

theorem Lasting.listed_step (lasting : state.Lasting)
    (stepped : discoveryMachine.step state turn = some after) (thread : DiscoveryThread)
    (handle : FindServiceHandle) (has : after.Has thread (Ending handle)) :
    after.memory.handleToInstances handle ≠ [] := by
  obtain ⟨instr, rest, memory, pushed, top, executed, rfl⟩ |
    ⟨mutex, mode, body, rest, top, -, rfl⟩ | ⟨mutex, mode, rest, top, rfl⟩ :=
    discoveryMachine.step_cases stepped
  · have executes := DiscoveryMemory.executes_of_exec executed
    have before : state.memory.handleToInstances handle ≠ [] ∧ ¬ state.Silenced handle := by
      obtain ⟨-, pushes⟩ | before := has_proceed top has
      · obtain callable | isSearching := executes_ending (lasting.life.sound top) executes pushes
        · exact ⟨(lasting.registered.callable handle callable).2,
            fun silenced => silenced.1.2 callable⟩
        · have searching := has_top top isSearching
          refine ⟨lasting.registered.searching turn.thread handle searching, fun silenced => ?_⟩
          exact silenced.1.1.2 turn.thread
            (searching.weaken fun _ => DiscoveryInstr.starting_of_searching)
      · exact ⟨lasting.listed thread handle before, fun silenced => silenced.2 thread before⟩
    obtain still | rfl := executes_instances executes before.1
    · exact still
    · exact absurd (lasting.silenced top rfl rfl) before.2
  · exact lasting.listed thread handle ((has_enter top).mp has)
  · exact lasting.listed thread handle ((has_leave top).mp has)

theorem Lasting.step (lasting : state.Lasting) (allowed : state.StopsOthers turn)
    (stepped : discoveryMachine.step state turn = some after) : after.Lasting where
  toSilencing := lasting.toSilencing.step lasting.stopsRegistered stepped
  outside := lasting.outside.step lasting.life allowed stepped
  listed := lasting.listed_step stepped

theorem lasting_discoveryThreads : discoveryThreads.Lasting where
  toSilencing := silencing_discoveryThreads
  outside := by
    intro thread handle before command behind split isStep
    have has : discoveryThreads.Has thread (StopStep handle) := by
      refine ⟨command, ?_, isStep⟩
      rw [split]
      simp
    refine absurd has (not_has_discoveryThreads thread ?_)
    simp [StopStep]
  listed thread handle has := by
    refine absurd has (not_has_discoveryThreads thread ?_)
    simp [Ending]

/-- The law holds in every run in which no handler stops its own search. -/
theorem erasesUnused_of_stopsOthers
    (reached : discoveryMachine.Reaches StopsOthers discoveryThreads state) :
    state.ErasesUnused := by
  have lasting : state.Lasting := reached.invariant Lasting lasting_discoveryThreads
      fun _ _ _ lasting allowed stepped => lasting.step allowed stepped
  intro turn after handle stepped present erased
  obtain ⟨instr, rest, memory, pushed, top, executed, rfl⟩ |
    ⟨mutex, mode, body, rest, top, -, rfl⟩ | ⟨mutex, mode, rest, top, rfl⟩ :=
    discoveryMachine.step_cases stepped
  · obtain still | rfl := executes_userCallbacks (DiscoveryMemory.executes_of_exec executed) present
    · exact absurd erased still
    · have silenced := lasting.silenced top rfl rfl
      refine ⟨fun inProgress => ?_, silenced.1.2⟩
      obtain ⟨other, inside⟩ := inProgress
      exact silenced.2 other inside.has
  · exact absurd erased present
  · exact absurd erased present

/-- The call of a stop that is on top of a stack. -/
def stopping : List DiscoveryCommand → Option FindServiceHandle
  | .todo (.act (.stopFindService handle)) :: _ => some handle
  | _ => none

/-- The stop is not called inside of the handler. -/
def CallsOutside (state : DiscoveryThreads) (turn : DiscoveryTurn) : Prop :=
  ∀ handle ∈ stopping (state.stack turn.thread), ¬ state.Inside turn.thread handle

instance (state : DiscoveryThreads) (turn : DiscoveryTurn) : Decidable (state.CallsOutside turn) :=
  inferInstanceAs (Decidable (∀ handle ∈ stopping (state.stack turn.thread),
    ¬ state.Inside turn.thread handle))

theorem stopsOthers_of_callsOutside (calls : state.CallsOutside turn) : state.StopsOthers turn := by
  intro handle rest top
  apply calls handle
  rw [top]
  rfl

/-- A search whose handler was called is stopped by its own thread, and its callback is
about to be erased. -/
theorem erasesUnused_of_stopped : ∃ state : DiscoveryThreads, state.ErasesUnused ∧
      state.memory.userCallbacks 0 ≠ none ∧
        ((discoveryMachine.step state ⟨.user 0, .none⟩).any fun after =>
          (after.memory.userCallbacks 0).isNone) = true := by
  obtain ⟨state, reached, present, erases⟩ := Machine.exists_reached discoveryMachine
    CallsOutside discoveryThreads
    (startTurns (.user 0) ++ foundTurns ++ [⟨.worker, .call .finish⟩] ++ turnsOf .worker 3 ++
      stopTurns (.user 0) 6)
    (fun state : DiscoveryThreads => state.memory.userCallbacks 0 ≠ none ∧
      ((discoveryMachine.step state ⟨.user 0, .none⟩).any fun after =>
        (after.memory.userCallbacks 0).isNone) = true)
    (by decide +kernel)
  have law := erasesUnused_of_stopsOthers
    (reached.weaken fun _ _ calls => stopsOthers_of_callsOutside calls)
  exact ⟨state, law, present, erases⟩

/-- A handler stops its own search, which erases the callback that is running. -/
theorem erasesUnused_violated : ¬ ∀ state : DiscoveryThreads,
      discoveryMachine.Reaches (fun _ _ => True) discoveryThreads state → state.ErasesUnused := by
  intro law
  obtain ⟨state, reached, present, erases, inside⟩ := Machine.exists_reached discoveryMachine
    (fun _ _ => True) discoveryThreads
    (startTurns (.user 0) ++ foundTurns ++ stopTurns .worker 6)
    (fun state : DiscoveryThreads => state.memory.userCallbacks 0 ≠ none ∧
      ((discoveryMachine.step state ⟨.worker, .none⟩).any fun after =>
        (after.memory.userCallbacks 0).isNone) = true ∧ state.Inside .worker 0)
    (by decide +kernel)
  obtain ⟨after, stepped, erased⟩ := (Option.any_eq_true _ _).mp erases
  have unused := law state reached ⟨.worker, .none⟩ after 0 stepped present
    (Option.isNone_iff_eq_none.mp erased)
  exact unused.1 ⟨.worker, inside⟩

end DiscoveryThreads

end MwCom.ServiceDiscovery
