/-
Module: MwCom.ServiceDiscovery.DiscoveryDeadlock
Purpose: The threads that search for services do not wait for each other in a cycle, unless
  a handler calls into the discovery while another thread is on its way from the container's
  mutex to the client's.
Trusted boundary: none
Main exports: DiscoveryThreads.Heading, DiscoveryThreads.Orderly,
  not_deadlocked_of_orderly, discovery_deadlocks
-/
import Mathlib.Data.List.Chain
import MwCom.ServiceDiscovery.HandlerSilence

namespace MwCom.ServiceDiscovery

open Interleaving Locking
open Function (update_of_ne update_self)
open Machine (has_top nextLock)
open DiscoveryInstr (Starting Settling Checking NeedsWorker Scoped)

/-! ## Who goes on to lock what -/

namespace DiscoveryInstr

/-- A call that locks the mutex of the container. -/
def Calls : DiscoveryInstr → Prop
  | .startFindService _ _ => True
  | .stopFindService _ => True
  | _ => False

/-- It goes on to lock the mutex of the client, with what is stored when it is executed. -/
def LocksWorker (thread : DiscoveryThread) (memory : DiscoveryMemory) : DiscoveryInstr → Prop
  | .application => True
  | .startFindService _ _ => True
  | .startFindServiceOf _ resolved => resolved.isSome
  | .getNextFreeFindServiceHandle _ identifier => identifier.isSome
  | .storeUserCallback _ _ identifier => identifier.isSome
  | .startFindServiceImpl _ _ => True
  | .checkStarted _ => memory.returned thread = none
  | .stopFindService handle => memory.handleToInstances handle ≠ []
  | .stopEach handle => memory.handleToInstances handle ≠ []
  | .readEvents => True
  | _ => False

def IsEventBindings : DiscoveryInstr → Prop
  | .eventBindings _ => True
  | _ => False

end DiscoveryInstr

def DiscoveryMutex.IsRegistration : DiscoveryMutex → Prop
  | .registration _ => True
  | _ => False

open DiscoveryInstr (Calls LocksWorker IsEventBindings)

/-- A command locks the mutex of the client, or leads there. -/
def TakesWorker (thread : DiscoveryThread) (memory : DiscoveryMemory) : DiscoveryCommand → Prop
  | .todo (.guarded .worker _ _) => True
  | .todo statement => statement.instr.LocksWorker thread memory
  | .unlock _ _ => False

/-- A command ends with a lock of the client given up, or has it to take. -/
def PassesWorker : DiscoveryCommand → Prop
  | .todo (.guarded .worker _ _) => True
  | .unlock .worker _ => True
  | _ => False

/-- The check of a start comes right after what was done under the client's mutex. -/
def Follows (upper lower : DiscoveryCommand) : Prop :=
  (∃ handle, lower.For (Checking handle)) → PassesWorker upper

namespace DiscoveryThreads

variable {state after : DiscoveryThreads} {turn : DiscoveryTurn} {thread other : DiscoveryThread}
  {handle : FindServiceHandle}

/-- A thread that holds the client's mutex and not the container's has that to lock next. -/
def Waiting (state : DiscoveryThreads) (thread : DiscoveryThread) : Prop :=
  (thread, .exclusive) ∈ state.holders .worker ∧ (thread, .exclusive) ∉ state.holders .container ∧
    ∃ mode, nextLock (state.stack thread) = some (.container, mode)

/-- A thread holds the container's mutex and locks the client's before it gives it up. -/
def Heading (state : DiscoveryThreads) (thread : DiscoveryThread) : Prop :=
  ∃ before mode behind, state.stack thread = before ++ .unlock .container mode :: behind ∧
    ∃ command ∈ before, TakesWorker thread state.memory command

/-- The two mutexes are not locked in opposite orders at once. -/
structure Orderly (state : DiscoveryThreads) (turn : DiscoveryTurn) : Prop where
  /-- Whoever holds only the client's mutex does not call while another is heading for it. -/
  calls : ∀ instr rest, state.stack turn.thread = .todo (.act instr) :: rest → instr.Calls →
    (turn.thread, .exclusive) ∈ state.holders .worker →
      (turn.thread, .exclusive) ∉ state.holders .container →
        ∀ other, other ≠ turn.thread → ¬ state.Heading other
  /-- Nobody locks the container's mutex to go on to the client's while another who holds
  that waits. -/
  locks : ∀ mode body rest,
    state.stack turn.thread = .todo (.guarded .container mode body) :: rest →
      body.LocksWorker turn.thread state.memory →
        ∀ other, other ≠ turn.thread → ¬ state.Waiting other

/-! ## What the rules have in common -/

section Rules

variable {memory result : DiscoveryMemory} {instr : DiscoveryInstr}
  {pushed : List DiscoveryStatement}

/-- What goes on to the client's mutex comes from what did, or from under it. -/
theorem executes_takesWorker (executes : instr.Executes thread memory result pushed)
    {statement : DiscoveryStatement} (member : statement ∈ pushed)
    (takes : TakesWorker thread result (.todo statement)) :
    instr.LocksWorker thread memory ∨ instr.NeedsWorker := by
  cases executes with
  | startFindServiceOf callback resolved =>
      simp only [List.mem_cons, List.not_mem_nil, or_false] at member
      obtain rfl | rfl := member
      · left
        simpa [TakesWorker, Statement.instr, LocksWorker] using takes
      · exact takes.elim
  | getNextFreeFindServiceHandle callback identifier =>
      obtain rfl := List.mem_singleton.mp member
      exact .inl takes
  | storeUserCallback other callback stored identifier => exact .inl rfl
  | nothingToFind other callback stored =>
      obtain rfl := List.mem_singleton.mp member
      exact takes.elim
  | notStarted failed => exact .inl failed
  | stopFindService other =>
      simp only [List.mem_cons, List.not_mem_nil, or_false] at member
      obtain rfl | rfl := member
      · exact .inl takes
      · exact takes.elim
  | stopEach other =>
      simp only [List.mem_append, List.mem_map, List.mem_cons, List.not_mem_nil, or_false] at member
      obtain ⟨instance', stored, -⟩ | rfl | rfl := member
      · exact .inl (List.ne_nil_of_mem stored)
      · exact takes.elim
      · exact takes.elim
  | changed files =>
      obtain rfl := List.mem_singleton.mp member
      exact takes.elim
  | started done | returns result | nothingHandedOver failed | handOver done
  | findServiceGuard done | eraseUserCallback other | eraseInstances other | stopReturns other
  | eventBindings proxy => cases member
  | _ => first | exact .inl trivial | exact .inr trivial

theorem executes_instances_back (executes : instr.Executes thread memory result pushed)
    (present : result.handleToInstances handle ≠ []) :
    memory.handleToInstances handle ≠ [] ∨ instr.Starting handle := by
  cases executes with
  | startFindServiceImpl other identifier =>
      by_cases same : handle = other
      · exact .inr same.symm
      · simpa [same] using Or.inl present
  | eraseInstances other =>
      by_cases same : handle = other
      · simp [same] at present
      · simpa [same] using Or.inl present
  | callHandler called invokes | searchStarted invokes =>
      obtain rfl | ⟨-, rfl⟩ := InvokesThen.same invokes
      · exact .inl present
      · exact .inl present
  | _ => exact .inl present

theorem executes_returned_back (executes : instr.Executes thread memory result pushed)
    (failed : result.returned other = none) :
    memory.returned other = none ∨ (other = thread ∧ ∃ outcome, instr = .returns outcome) := by
  cases executes with
  | returns outcome =>
      by_cases own : other = thread
      · exact .inr ⟨own, outcome, rfl⟩
      · simp only [update_of_ne own] at failed
        exact .inl failed
  | callHandler called invokes | searchStarted invokes =>
      obtain rfl | ⟨-, rfl⟩ := InvokesThen.same invokes
      · exact .inl failed
      · exact .inl failed
  | _ => exact .inl failed

theorem TakesWorker.congr {command : DiscoveryCommand} (takes : TakesWorker other result command)
    (instances : ∀ handle, command.For (Settling handle) →
      result.handleToInstances handle ≠ [] → memory.handleToInstances handle ≠ [])
    (returned : ∀ handle, command.For (Checking handle) → result.returned other = none →
      memory.returned other = none) :
    TakesWorker other memory command := by
  have same : ∀ instr : DiscoveryInstr, (∀ handle, instr.Settling handle →
        result.handleToInstances handle ≠ [] → memory.handleToInstances handle ≠ []) →
      (∀ handle, instr.Checking handle → result.returned other = none →
        memory.returned other = none) →
      instr.LocksWorker other result → instr.LocksWorker other memory := by
    intro instr instances returned locks
    cases instr with
    | checkStarted handle => exact returned handle rfl locks
    | stopFindService handle | stopEach handle => exact instances handle rfl locks
    | _ => exact locks
  cases command with
  | unlock mutex mode => exact takes.elim
  | todo statement =>
      cases statement with
      | act instr => exact same instr instances returned takes
      | guarded mutex mode body =>
          cases mutex with
          | worker => trivial
          | container | registration proxy => exact same body instances returned takes

theorem Invokes.not_container (invokes : memory.Invokes handle result pushed) {mode : Mode}
    {body : DiscoveryInstr} : .guarded .container mode body ∉ pushed := by
  intro member
  cases invokes with
  | application present => simp at member
  | proxy present => simp at member

theorem InvokesThen.not_container {rest : List DiscoveryStatement} {called : Bool}
    (mode : Mode) (body : DiscoveryInstr)
    (invokes : memory.InvokesThen handle rest called result pushed) (restNot : .guarded .container mode body ∉ rest) :
    .guarded .container mode body ∉ pushed := by
  intro member
  cases invokes with
  | quiet isQuiet => exact restNot member
  | called isCalled invokes =>
      obtain isNew | isRest := List.mem_append.mp member
      · exact Invokes.not_container invokes isNew
      · exact restNot isRest

/-- Only a call locks the container's mutex, and at once. -/
theorem executes_container (executes : instr.Executes thread memory result pushed)
    {mode : Mode} {body : DiscoveryInstr} (member : .guarded .container mode body ∈ pushed) :
    instr.Calls ∧ result = memory ∧
      ∃ last, pushed = [.guarded .container mode body, .act last] := by
  cases executes with
  | startFindService callback identifier | stopFindService other =>
      simp at member
      obtain ⟨rfl, rfl⟩ := member
      exact ⟨trivial, rfl, _, rfl⟩
  | callHandler called invokes | searchStarted invokes =>
      have never := InvokesThen.not_container mode body invokes (by simp)
      exact absurd member never
  | _ => simp at member

/-- A check is pushed right below the lock of the client's mutex. -/
theorem executes_follows (executes : instr.Executes thread memory result pushed) :
    (pushed.map Command.todo).IsChain Follows := by
  by_cases checks : ∃ handle, Pushes pushed (Checking handle)
  · obtain ⟨handle, pushes⟩ := checks
    cases executes with
    | startFindServiceImpl other identifier =>
        exact .cons_cons (fun _ => trivial) (.singleton _)
    | callHandler called invokes | searchStarted invokes =>
        have never := InvokesThen.pushes invokes pushes
        simp [Checking] at never
    | _ => simp [Checking, Statement.instr] at pushes
  · apply List.Pairwise.isChain
    apply List.pairwise_of_forall_mem_list
    rintro upper - lower member ⟨handle, checking⟩
    obtain ⟨statement, statementPushed, rfl⟩ := List.mem_map.mp member
    exact absurd ⟨handle, statement, statementPushed, checking⟩ checks

end Rules

/-! ## What is kept -/

/-- What holds in every state of how the mutexes are locked. -/
structure LockDiscipline (state : DiscoveryThreads) : Prop extends state.Lifecycle where
  modes : ∀ mutex, ∀ holder ∈ state.holders mutex, holder.2 = .exclusive
  onTop : ∀ thread mode body, .todo (.guarded .container mode body) ∉ (state.stack thread).tail
  follows : ∀ thread, (state.stack thread).IsChain Follows
  leaf : ∀ thread, Machine.Leaf IsEventBindings DiscoveryMutex.IsRegistration (state.stack thread)

section

variable (locks : state.LockDiscipline) (stepped : discoveryMachine.step state turn = some after)

include locks stepped

theorem LockDiscipline.modes_step (mutex : DiscoveryMutex) (holder : DiscoveryThread × Mode)
    (held : holder ∈ after.holders mutex) :
    holder.2 = .exclusive := by
  obtain ⟨instr, rest, memory, pushed, top, executed, rfl⟩ |
    ⟨locked, mode, body, rest, top, -, rfl⟩ | ⟨locked, mode, rest, top, rfl⟩ :=
    discoveryMachine.step_cases stepped
  · exact locks.modes mutex holder held
  · by_cases same : mutex = locked
    · subst same
      simp only [Machine.enter, update_self, List.mem_cons] at held
      obtain rfl | before := held
      · have within := locks.bodies turn.thread (.guarded mutex mode body) (by simp [top])
        cases mutex <;> cases body <;> first | exact within | exact within.elim
      · exact locks.modes mutex holder before
    · simp only [Machine.enter, update_of_ne same] at held
      exact locks.modes mutex holder held
  · by_cases same : mutex = locked
    · subst same
      simp only [Machine.leave, update_self] at held
      exact locks.modes mutex holder (List.mem_of_mem_erase held)
    · simp only [Machine.leave, update_of_ne same] at held
      exact locks.modes mutex holder held

theorem LockDiscipline.onTop_step (thread : DiscoveryThread) (mode : Mode) (body : DiscoveryInstr) :
    .todo (.guarded .container mode body) ∉ (after.stack thread).tail := by
  have before := locks.onTop thread mode body
  by_cases own : thread = turn.thread
  · subst own
    obtain ⟨instr, rest, memory, pushed, top, executed, rfl⟩ |
      ⟨locked, kind, other, rest, top, -, rfl⟩ | ⟨locked, kind, rest, top, rfl⟩ :=
      discoveryMachine.step_cases stepped
    · rw [top] at before
      intro member
      simp only [Machine.proceed, update_self] at member
      cases pushed with
      | nil => exact before (List.mem_of_mem_tail member)
      | cons first others =>
          obtain isPushed | below := List.mem_append.mp member
          · obtain ⟨statement, statementPushed, same⟩ := List.mem_map.mp isPushed
            cases same
            obtain ⟨-, -, last, isPair⟩ := executes_container
              (DiscoveryMemory.executes_of_exec executed)
              (List.mem_cons_of_mem _ statementPushed)
            cases isPair
            simp at statementPushed
          · exact before below
    · rw [top] at before
      intro member
      simp only [Machine.enter, update_self, List.tail_cons, List.mem_cons] at member
      obtain isUnlock | below := member
      · cases isUnlock
      · exact before below
    · rw [top] at before
      simp only [Machine.leave, update_self]
      exact fun member => before (List.mem_of_mem_tail member)
  · rw [stack_of_ne stepped own]
    exact before

theorem LockDiscipline.follows_step (thread : DiscoveryThread) :
    (after.stack thread).IsChain Follows := by
  have before := locks.follows thread
  by_cases own : thread = turn.thread
  · subst own
    obtain ⟨instr, rest, memory, pushed, top, executed, rfl⟩ |
      ⟨mutex, mode, body, rest, top, -, rfl⟩ | ⟨mutex, mode, rest, top, rfl⟩ :=
      discoveryMachine.step_cases stepped
    · rw [top, List.isChain_cons] at before
      simp only [Machine.proceed, update_self, List.isChain_append]
      refine ⟨executes_follows (DiscoveryMemory.executes_of_exec executed), before.2, ?_⟩
      intro upper _ lower isNext checking
      exact (before.1 lower isNext checking).elim
    · rw [top, List.isChain_cons] at before
      simp only [Machine.enter, update_self]
      refine .cons_cons (fun checking => ?_) (List.isChain_cons.mpr ⟨?_, before.2⟩)
      · obtain ⟨handle, never⟩ := checking
        exact never.elim
      · intro lower isNext checking
        have passes := before.1 lower isNext checking
        cases mutex with
        | worker => trivial
        | container | registration proxy => exact passes.elim
    · rw [top, List.isChain_cons] at before
      simpa [Machine.leave] using before.2
  · rw [stack_of_ne stepped own]
    exact before

theorem LockDiscipline.step : after.LockDiscipline where
  toLifecycle := locks.toLifecycle.step stepped
  modes := locks.modes_step stepped
  onTop := locks.onTop_step stepped
  follows := locks.follows_step stepped
  leaf thread := by
    apply (locks.leaf thread).step stepped
    · intro choice memory instr result inner executed statement member
      obtain ⟨changed, pushed⟩ := result
      have executes := DiscoveryMemory.executes_of_exec executed
      cases executes with
      | eventBindings proxy => cases member
      | _ => exact inner.elim
    · intro mutex mode body member isLeaf
      have within := locks.bodies thread _ member
      cases mutex with
      | registration proxy =>
          cases body with
          | eventBindings other => trivial
          | _ => exact within.elim
      | container | worker => exact isLeaf.elim

end

theorem lockDiscipline_discoveryThreads : discoveryThreads.LockDiscipline where
  toLifecycle := lifecycle_discoveryThreads
  modes mutex holder held := by cases held
  onTop thread mode body := by cases thread <;> simp [discoveryThreads]
  follows thread := by cases thread <;> simp [discoveryThreads]
  leaf thread before mutex mode behind isLeaf split command member := by
    have held : .unlock mutex mode ∈ discoveryThreads.stack thread := by
      rw [split]
      simp
    exact absurd held (fresh_discoveryThreads.stack thread mutex mode)

variable {mode : Mode}

variable {mutex : DiscoveryMutex}

theorem LockDiscipline.holds (locks : state.LockDiscipline)
    (member : .unlock mutex mode ∈ state.stack thread) :
    (thread, .exclusive) ∈ state.holders mutex := by
  have held := (Machine.holds_iff locks.accounted).mpr member
  have isExclusive : mode = .exclusive := locks.modes mutex _ held
  exact isExclusive ▸ held

/-- Whoever holds a mutex holds it alone. -/
theorem LockDiscipline.owner (locks : state.LockDiscipline) {kind : Mode}
    (held : (thread, mode) ∈ state.holders mutex)
    (otherHeld : (other, kind) ∈ state.holders mutex) : thread = other := by
  have isExclusive : kind = .exclusive := locks.modes mutex _ otherHeld
  exact locks.exclusive mutex other (thread, mode) (isExclusive ▸ otherHeld) held

theorem Waiting.not_holds (locks : state.LockDiscipline) (waiting : state.Waiting thread)
    (distinct : thread ≠ other) :
    .unlock .worker mode ∉ state.stack other :=
  fun member => distinct (locks.owner waiting.1 (locks.holds member))

/-- What goes on to the client's mutex after a step did so before it. -/
theorem LockDiscipline.takes_before (locks : state.LockDiscipline) {instr : DiscoveryInstr}
    {rest : List DiscoveryCommand} {memory : DiscoveryMemory} {pushed : List DiscoveryStatement}
    (top : state.stack thread = .todo (.act instr) :: rest)
    (executes : instr.Executes thread state.memory memory pushed) {command : DiscoveryCommand}
    (member : command ∈ state.stack other) (takes : TakesWorker other memory command) :
    TakesWorker other state.memory command ∨
      (other = thread ∧ (∃ outcome, instr = .returns outcome) ∧
        ∃ handle, command.For (Checking handle)) := by
  by_cases checks : other = thread ∧ (∃ outcome, instr = .returns outcome) ∧
      ∃ handle, command.For (Checking handle)
  · exact .inr checks
  · left
    apply TakesWorker.congr takes
    · intro handle settling present
      obtain before | isStarting := executes_instances_back executes present
      · exact before
      · have settled := locks.settling other handle ⟨command, member, settling⟩
        exact absurd (has_top top isStarting) (settled.2 thread)
    · intro handle checking failed
      obtain before | ⟨own, isReturn⟩ := executes_returned_back executes failed
      · exact before
      · exact absurd ⟨own, isReturn, handle, checking⟩ checks

/-! ## Opposite orders -/

/-- No thread waits with the client's mutex while another is heading for it. -/
def Apart (state : DiscoveryThreads) : Prop :=
  ∀ thread other, thread ≠ other → state.Waiting thread → ¬ state.Heading other

theorem next_of_split {stack : List DiscoveryCommand} (before behind : List DiscoveryCommand)
    {command : DiscoveryCommand} (split : stack = before ++ command :: behind) (chain : stack.IsChain Follows)
    (checking : command.For (Checking handle)) :
    before = [] ∨ ∃ upper ∈ before, PassesWorker upper := by
  obtain rfl | ⟨init, upper, rfl⟩ := List.eq_nil_or_concat before
  · exact .inl rfl
  · right
    refine ⟨upper, by simp, ?_⟩
    have pair : (init ++ upper :: command :: behind).IsChain Follows := by
      simpa [split] using chain
    exact (List.isChain_append_cons_cons.mp pair).2.1 ⟨handle, checking⟩

/-- The step of a thread that is heading after it, while another waits with the client's
mutex. -/
theorem LockDiscipline.heading_own (locks : state.LockDiscipline) (apart : state.Apart)
    (orderly : state.Orderly turn) (stepped : discoveryMachine.step state turn = some after)
    (distinct : thread ≠ turn.thread) (waiting : state.Waiting thread) :
    ¬ after.Heading turn.thread := by
  rintro ⟨before, mode, behind, split, command, member, takes⟩
  have notHeading := apart thread turn.thread distinct waiting
  have notHolds : ∀ kind, .unlock .worker kind ∉ state.stack turn.thread :=
    fun kind => waiting.not_holds locks distinct
  obtain ⟨instr, rest, memory, pushed, top, executed, rfl⟩ |
    ⟨locked, kind, body, rest, top, may, rfl⟩ | ⟨locked, kind, rest, top, rfl⟩ :=
    discoveryMachine.step_cases stepped
  · have executes := DiscoveryMemory.executes_of_exec executed
    have isAfter : pushed.map Command.todo ++ rest =
        before ++ .unlock .container mode :: behind := by
      simpa [Machine.proceed] using split
    obtain ⟨middle, isNew, -⟩ | ⟨middle, rfl, isBelow⟩ := Machine.split_of_append isAfter
    · have isPushed : .unlock .container mode ∈ pushed.map Command.todo := by
        rw [isNew]
        simp
      simp at isPushed
    · have isStack : state.stack turn.thread =
          (.todo (.act instr) :: middle) ++ .unlock .container mode :: behind := by
        rw [top, isBelow]
        rfl
      obtain isPushed | below := List.mem_append.mp member
      · obtain ⟨statement, statementPushed, rfl⟩ := List.mem_map.mp isPushed
        obtain locksWorker | needs := executes_takesWorker executes statementPushed takes
        · exact notHeading ⟨_, mode, behind, isStack, _, List.mem_cons_self, locksWorker⟩
        · have held := (locks.covered turn.thread).unlock_mem (by simp [top]) needs
          exact notHolds .exclusive held
      · have inStack : command ∈ state.stack turn.thread := by
          rw [isStack]
          simp [below]
        obtain takesBefore | ⟨-, ⟨outcome, rfl⟩, handle, checking⟩ :=
          locks.takes_before top executes inStack takes
        · exact notHeading ⟨_, mode, behind, isStack, command, List.mem_cons_of_mem _ below,
            takesBefore⟩
        · -- a check that is not next comes after a lock of the client's mutex
          obtain ⟨upper, lower, rfl⟩ := List.append_of_mem below
          obtain isEmpty | ⟨passing, isAbove, passes⟩ :=
            next_of_split (.todo (.act (.returns outcome)) :: upper)
              (lower ++ .unlock .container mode :: behind) (by rw [isStack]; simp)
              (locks.follows turn.thread) checking
          · cases isEmpty
          · obtain rfl | above := List.mem_cons.mp isAbove
            · exact passes
            · have inMiddle : passing ∈ upper ++ command :: lower := by
                simp [above]
              rcases passing with ⟨_ | ⟨_ | _ | _, _, _⟩⟩ | ⟨_ | _ | _, kind⟩
              · exact passes
              · exact passes
              · exact notHeading ⟨_, mode, behind, isStack, _, List.mem_cons_of_mem _ inMiddle,
                  trivial⟩
              · exact passes
              · exact passes
              · apply notHolds kind
                rw [isStack]
                simp [above]
              · exact passes
  · cases locked with
    | worker =>
        rw [Machine.mayLock, List.all_eq_true] at may
        have free := may _ waiting.1
        simp [Machine.blocks] at free
        exact distinct free.2
    | container =>
        have entered : [Command.todo (.act body), .unlock .container kind] ++ rest =
            before ++ .unlock .container mode :: behind := by
          simpa [Machine.enter] using split
        have bodyFree : ¬ body.LocksWorker turn.thread state.memory := fun locksWorker =>
          orderly.locks kind body rest top locksWorker thread distinct waiting
        obtain ⟨middle, isNew, rfl⟩ | ⟨middle, rfl, isBelow⟩ := Machine.split_of_append entered
        · cases before with
          | nil => cases member
          | cons first before =>
              obtain ⟨rfl, isNew⟩ := List.cons.inj isNew
              cases before with
              | nil =>
                  obtain rfl := List.mem_singleton.mp member
                  exact bodyFree takes
              | cons second before => simp at isNew
        · obtain rfl | rfl | below : command = .todo (.act body) ∨
              command = .unlock .container kind ∨ command ∈ middle := by
            simpa using member
          · exact bodyFree takes
          · exact takes
          · refine notHeading ⟨.todo (.guarded .container kind body) :: middle, mode, behind, ?_,
              command, List.mem_cons_of_mem _ below, takes⟩
            rw [top, isBelow]
            rfl
    | registration proxy =>
        have entered : [Command.todo (.act body), .unlock (.registration proxy) kind] ++ rest =
            before ++ .unlock .container mode :: behind := by
          simpa [Machine.enter] using split
        obtain ⟨middle, isNew, -⟩ | ⟨middle, rfl, isBelow⟩ := Machine.split_of_append entered
        · cases before with
          | nil => cases isNew
          | cons first before =>
              cases before with
              | nil => cases isNew
              | cons second before => simp at isNew
        · have isStack : state.stack turn.thread =
              (.todo (.guarded (.registration proxy) kind body) :: middle) ++
                .unlock .container mode :: behind := by
            rw [top, isBelow]
            rfl
          obtain rfl | rfl | below : command = .todo (.act body) ∨
              command = .unlock (.registration proxy) kind ∨ command ∈ middle := by
            simpa using member
          · exact notHeading ⟨_, mode, behind, isStack, _, List.mem_cons_self, takes⟩
          · exact takes
          · exact notHeading ⟨_, mode, behind, isStack, command, List.mem_cons_of_mem _ below,
              takes⟩
  · have left : rest = before ++ .unlock .container mode :: behind := by
      simpa [Machine.leave] using split
    refine notHeading ⟨.unlock locked kind :: before, mode, behind, ?_, command,
      List.mem_cons_of_mem _ member, takes⟩
    rw [top, left]
    rfl

/-- What another thread does does not set a thread on its way to the client's mutex. -/
theorem LockDiscipline.heading_other (locks : state.LockDiscipline)
    (stepped : discoveryMachine.step state turn = some after) (distinct : other ≠ turn.thread)
    (heading : after.Heading other) : state.Heading other := by
  obtain ⟨before, mode, behind, split, command, member, takes⟩ := heading
  rw [stack_of_ne stepped distinct] at split
  refine ⟨before, mode, behind, split, command, member, ?_⟩
  obtain ⟨instr, rest, memory, pushed, top, executed, rfl⟩ |
    ⟨locked, kind, body, rest, -, -, rfl⟩ | ⟨locked, kind, rest, -, rfl⟩ :=
    discoveryMachine.step_cases stepped
  · have inStack : command ∈ state.stack other := by
      rw [split]
      simp [member]
    obtain takesBefore | ⟨own, -⟩ :=
      locks.takes_before top (DiscoveryMemory.executes_of_exec executed) inStack takes
    · exact takesBefore
    · exact absurd own distinct
  · exact takes
  · exact takes

/-- A thread waits with the client's mutex because it did or has just called. -/
theorem LockDiscipline.waiting_before (locks : state.LockDiscipline)
    (stepped : discoveryMachine.step state turn = some after) (waiting : after.Waiting thread) :
    state.Waiting thread ∨ (thread = turn.thread ∧ after.memory = state.memory ∧
      (thread, .exclusive) ∈ state.holders .worker ∧
        (thread, .exclusive) ∉ state.holders .container ∧
          ∃ instr rest, state.stack thread = .todo (.act instr) :: rest ∧ instr.Calls) := by
  obtain ⟨held, notHeld, mode, isNext⟩ := waiting
  obtain ⟨body, below, isTop⟩ := Machine.nextLock_eq isNext
  by_cases own : thread = turn.thread
  · subst own
    right
    have onTop := locks.onTop turn.thread
    obtain ⟨instr, rest, memory, pushed, top, executed, rfl⟩ |
      ⟨locked, kind, other, rest, top, -, rfl⟩ | ⟨locked, kind, rest, top, rfl⟩ :=
      discoveryMachine.step_cases stepped
    · simp only [Machine.proceed, update_self] at isTop
      cases pushed with
      | nil =>
          refine absurd ?_ (onTop mode body)
          rw [top, List.tail_cons]
          have same : rest = .todo (.guarded .container mode body) :: below := isTop
          simp [same]
      | cons first others =>
          obtain ⟨isFirst, -⟩ := List.cons.inj isTop
          cases isFirst
          obtain ⟨calls, sameMemory, -⟩ := executes_container
            (DiscoveryMemory.executes_of_exec executed) List.mem_cons_self
          exact ⟨rfl, sameMemory, held, notHeld, instr, rest, top, calls⟩
    · simp [Machine.enter] at isTop
    · refine absurd ?_ (onTop mode body)
      have same : rest = .todo (.guarded .container mode body) :: below := by
        simpa [Machine.leave] using isTop
      simp [top, same]
  · left
    rw [stack_of_ne stepped own] at isTop
    have holdersKept : ∀ mutex, (thread, .exclusive) ∈ after.holders mutex ↔
        (thread, .exclusive) ∈ state.holders mutex := by
      intro mutex
      rw [Machine.holds_iff locks.accounted, ← stack_of_ne stepped own,
        Machine.holds_iff (locks.step stepped).accounted]
    refine ⟨(holdersKept _).mp held, fun stillHeld => notHeld ((holdersKept _).mpr stillHeld),
      mode, ?_⟩
    rw [isTop]
    rfl

theorem LockDiscipline.apart_step (locks : state.LockDiscipline) (apart : state.Apart)
    (orderly : state.Orderly turn) (stepped : discoveryMachine.step state turn = some after) :
    after.Apart := by
  intro thread other distinct waiting heading
  obtain waitingBefore | ⟨rfl, sameMemory, held, notHeld, instr, rest, top, calls⟩ :=
    locks.waiting_before stepped waiting
  · by_cases own : other = turn.thread
    · subst own
      exact locks.heading_own apart orderly stepped distinct waitingBefore heading
    · exact apart thread other distinct waitingBefore (locks.heading_other stepped own heading)
  · have before := locks.heading_other stepped distinct.symm heading
    exact orderly.calls instr rest top calls held notHeld other distinct.symm before

/-! ## No cycle -/

/-- A thread that another waits for, and that waits itself, holds no mutex of a proxy. -/
theorem LockDiscipline.not_registration (locks : state.LockDiscipline) {next : DiscoveryThread}
    {proxy : ProxyId} (held : (thread, mode) ∈ state.holders (.registration proxy)) :
    ¬ discoveryMachine.Waits state thread next :=
  (locks.leaf thread).not_waits (show DiscoveryMutex.IsRegistration (.registration proxy) from trivial)
    ((Machine.holds_iff locks.accounted).mp held)

/-- Nobody waits for a mutex that is locked again and that it holds. -/
theorem LockDiscipline.not_blocked (locks : state.LockDiscipline) {kind own : Mode}
    (recursive : mutex.recursive = true) (held : (thread, own) ∈ state.holders mutex)
    (otherHeld : (other, kind) ∈ state.holders mutex)
    (blocked : discoveryMachine.blocks thread mutex mode (other, kind) = true) : False := by
  obtain rfl := locks.owner held otherHeld
  have isRecursive : discoveryMachine.recursive mutex = true := recursive
  simp [Machine.blocks, isRecursive] at blocked

/-- A thread that holds the container's mutex does not start a chain of four that wait. -/
theorem LockDiscipline.no_chain (locks : state.LockDiscipline) (apart : state.Apart)
    {second third fourth fifth : DiscoveryThread} {kind : Mode}
    (held : (second, kind) ∈ state.holders .container)
    (secondWaits : discoveryMachine.Waits state second third)
    (thirdWaits : discoveryMachine.Waits state third fourth)
    (fourthWaits : discoveryMachine.Waits state fourth fifth) : False := by
  obtain ⟨wanted, wantedMode, heldMode, secondNext, thirdHolds, secondBlocked⟩ := secondWaits.lock
  cases wanted with
  | registration proxy => exact locks.not_registration thirdHolds thirdWaits
  | container => exact locks.not_blocked rfl held thirdHolds secondBlocked
  | worker =>
      have distinct : third ≠ second := by
        intro same
        exact locks.not_blocked rfl (same ▸ thirdHolds) thirdHolds secondBlocked
      have heading : state.Heading second := by
        obtain ⟨body, rest, top⟩ := Machine.nextLock_eq secondNext
        have inStack := (Machine.holds_iff locks.accounted).mp held
        rw [top, List.mem_cons] at inStack
        obtain isTop | below := inStack
        · cases isTop
        · obtain ⟨before, behind, rfl⟩ := List.append_of_mem below
          exact ⟨.todo (.guarded .worker wantedMode body) :: before, kind, behind, top, _,
            List.mem_cons_self, trivial⟩
      obtain ⟨last, lastMode, lastHeld, thirdNext, fourthHolds, thirdBlocked⟩ := thirdWaits.lock
      cases last with
      | registration proxy => exact locks.not_registration fourthHolds fourthWaits
      | worker => exact locks.not_blocked rfl thirdHolds fourthHolds thirdBlocked
      | container =>
          have thirdExclusive : heldMode = .exclusive := locks.modes .worker _ thirdHolds
          refine apart third second distinct ⟨thirdExclusive ▸ thirdHolds, ?_, lastMode, thirdNext⟩
            heading
          exact fun thirdOwns => distinct (locks.owner thirdOwns held)

theorem LockDiscipline.not_deadlocked (locks : state.LockDiscipline) (apart : state.Apart) :
    ¬ discoveryMachine.Deadlocked state := by
  rintro ⟨first, cycle⟩
  have onward : ∀ thread, Relation.ReflTransGen (discoveryMachine.Waits state) thread first →
        ∃ next, discoveryMachine.Waits state thread next ∧
          Relation.ReflTransGen (discoveryMachine.Waits state) next first :=
    fun thread member => Machine.waits_of_cycle cycle member
  obtain ⟨second, firstWaits, secondMember⟩ := onward first .refl
  obtain ⟨third, secondWaits, thirdMember⟩ := onward second secondMember
  obtain ⟨fourth, thirdWaits, fourthMember⟩ := onward third thirdMember
  obtain ⟨fifth, fourthWaits, fifthMember⟩ := onward fourth fourthMember
  obtain ⟨sixth, fifthWaits, -⟩ := onward fifth fifthMember
  obtain ⟨wanted, mode, kind, -, secondHolds, -⟩ := firstWaits.lock
  cases wanted with
  | registration proxy => exact locks.not_registration secondHolds secondWaits
  | container => exact locks.no_chain apart secondHolds secondWaits thirdWaits fourthWaits
  | worker =>
      obtain ⟨last, lastMode, lastKind, -, thirdHolds, secondBlocked⟩ := secondWaits.lock
      cases last with
      | registration proxy => exact locks.not_registration thirdHolds thirdWaits
      | worker => exact locks.not_blocked rfl secondHolds thirdHolds secondBlocked
      | container => exact locks.no_chain apart thirdHolds thirdWaits fourthWaits fifthWaits

/-- No deadlock in any run in which the two mutexes are not locked in opposite orders at
once. -/
theorem not_deadlocked_of_orderly
    (reached : discoveryMachine.Reaches Orderly discoveryThreads state) :
    ¬ discoveryMachine.Deadlocked state := by
  have kept : state.LockDiscipline ∧ state.Apart := by
    refine reached.invariant
      (fun state : DiscoveryThreads => state.LockDiscipline ∧ state.Apart)
      ⟨lockDiscipline_discoveryThreads, ?_⟩ ?_
    · intro thread other distinct waiting
      cases waiting.1
    · intro before turn after inv orderly stepped
      exact ⟨inv.1.step stepped, inv.1.apart_step inv.2 orderly stepped⟩
  exact kept.1.not_deadlocked kept.2

/-! ## Runs -/

/-- A stack that calls, or locks the mutex of the container. -/
def entering : List DiscoveryCommand → Bool
  | .todo (.act (.startFindService _ _)) :: _ => true
  | .todo (.act (.stopFindService _)) :: _ => true
  | .todo (.guarded .container _ _) :: _ => true
  | _ => false

/-- Nobody holds the client's mutex when the container's is about to be locked. -/
def Quiescent (state : DiscoveryThreads) (turn : DiscoveryTurn) : Prop :=
  entering (state.stack turn.thread) = true → state.holders .worker = []

instance (state : DiscoveryThreads) (turn : DiscoveryTurn) : Decidable (state.Quiescent turn) :=
  inferInstanceAs (Decidable (entering (state.stack turn.thread) = true →
    state.holders .worker = []))

theorem orderly_of_quiescent (quiescent : state.Quiescent turn) : state.Orderly turn where
  calls instr rest top calls held := by
    have isEntering : entering (state.stack turn.thread) = true := by
      rw [top]
      cases instr with
      | startFindService callback identifier => rfl
      | stopFindService handle => rfl
      | _ => exact calls.elim
    rw [quiescent isEntering] at held
    cases held
  locks mode body rest top _ other _ waiting := by
    have isEntering : entering (state.stack turn.thread) = true := by
      rw [top]
      rfl
    have held := waiting.1
    rw [quiescent isEntering] at held
    cases held

/-- A stop waits for the client's mutex while the worker handles events. -/
theorem not_deadlocked_of_quiescent :
    ∃ state : DiscoveryThreads, discoveryMachine.Waits state (.user 0) .worker ∧
      ¬ discoveryMachine.Deadlocked state := by
  obtain ⟨state, reached, waits⟩ := Machine.exists_reached discoveryMachine Quiescent
    discoveryThreads
    (startTurns (.user 0) ++ stopTurns (.user 0) 3 ++
      [⟨.others, .change (.createFlagFile ⟨1, some 1⟩ ⟨7, .asilQm, 1⟩)⟩, ⟨.worker, .read 1⟩,
        ⟨.worker, .none⟩])
    (fun state : DiscoveryThreads => discoveryMachine.Waits state (.user 0) .worker)
    (by decide +kernel)
  have free := not_deadlocked_of_orderly
    (reached.weaken fun _ _ quiescent => orderly_of_quiescent quiescent)
  exact ⟨state, waits, free⟩

/-- A thread stops a search while the handler of that search stops it too. -/
theorem discovery_deadlocks : ¬ ∀ state : DiscoveryThreads,
      discoveryMachine.Reaches (fun _ _ => True) discoveryThreads state →
        ¬ discoveryMachine.Deadlocked state := by
  intro free
  obtain ⟨state, reached, waits, back⟩ := Machine.exists_reached discoveryMachine
    (fun _ _ => True) discoveryThreads
    (startTurns (.user 0) ++ foundTurns ++ stopTurns (.user 0) 3 ++ stopTurns .worker 1)
    (fun state : DiscoveryThreads => discoveryMachine.Waits state (.user 0) .worker ∧
      discoveryMachine.Waits state .worker (.user 0))
    (by decide +kernel)
  exact free state reached (Machine.deadlocked_of_pair waits back)

end DiscoveryThreads

end MwCom.ServiceDiscovery
