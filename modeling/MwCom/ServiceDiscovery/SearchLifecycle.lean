/-
Module: MwCom.ServiceDiscovery.SearchLifecycle
Purpose: What is settled once a handle is known outside of the discovery: its search is no
  longer being started, and a search that was stopped is not called again.
Trusted boundary: none
Main exports: DiscoveryThreads.Settled, DiscoveryThreads.Muted, Lifecycle, Lifecycle.step
-/
import MwCom.ServiceDiscovery.DiscoveryRules

namespace MwCom.ServiceDiscovery

open Interleaving Locking Function
open Machine (has_enter has_leave has_proceed has_top)

/-! ## Kinds of instructions -/

namespace DiscoveryInstr

/-- It leads to the search of a handle being stored. -/
def Starting (handle : FindServiceHandle) : DiscoveryInstr → Prop
  | .storeUserCallback other _ _ => other = handle
  | .startFindServiceImpl other _ => other = handle
  | .startSearch other _ => other = handle
  | .working starting _ => starting = some handle
  | _ => False

/-- The client looks for the instances of a search. -/
def Searching (handle : FindServiceHandle) : DiscoveryInstr → Prop
  | .startSearch other _ => other = handle
  | .working starting _ => starting = some handle
  | _ => False

theorem starting_of_searching {handle : FindServiceHandle} {instr : DiscoveryInstr}
    (searching : instr.Searching handle) : instr.Starting handle := by
  cases instr with
  | startSearch other identifier | working starting program => exact searching
  | _ => exact searching.elim

/-- It comes after the search of a handle was stored, or was not. -/
def Settling (handle : FindServiceHandle) : DiscoveryInstr → Prop
  | .returns result => result = some handle
  | .stopFindService other => other = handle
  | .stopEach other => other = handle
  | .addObsolete other => other = handle
  | .eraseUserCallback other => other = handle
  | .eraseInstances other => other = handle
  | .stopReturns other => other = handle
  | .invocationEnds other => other = handle
  | _ => False

def Checking (handle : FindServiceHandle) : DiscoveryInstr → Prop
  | .checkStarted other => other = handle
  | _ => False

def Working : DiscoveryInstr → Prop
  | .working _ _ => True
  | _ => False

/-- It is executed under the mutex of the client. -/
def NeedsWorker : DiscoveryInstr → Prop
  | .startSearch _ _ => True
  | .addObsolete _ => True
  | .handleEvents _ => True
  | .callHandlers _ => True
  | .handleCreationEvents _ _ => True
  | .working _ _ => True
  | .invocationEnds _ => True
  | _ => False

/-- Which instructions are executed under which mutex, of those that lock for them. -/
def Scoped : DiscoveryStatement → Prop
  | .act _ => True
  | .guarded .container mode (.getNextFreeFindServiceHandle _ _) => mode = .exclusive
  | .guarded .container mode (.stopEach _) => mode = .exclusive
  | .guarded .worker mode (.startSearch _ _) => mode = .exclusive
  | .guarded .worker mode (.addObsolete _) => mode = .exclusive
  | .guarded .worker mode (.handleEvents _) => mode = .exclusive
  | .guarded (.registration _) mode (.eventBindings _) => mode = .exclusive
  | _ => False

/-- The client that the work is done on is the one that is there. -/
def Sound (client : ServiceDiscoveryClient) : DiscoveryInstr → Prop
  | .working starting program => program.Returns (client.Starts starting)
  | _ => True

end DiscoveryInstr

open DiscoveryInstr (Starting Searching Settling Checking Working NeedsWorker Scoped Sound)

/-! ## What the rules have in common -/

section Rules

variable {thread : DiscoveryThread} {memory after : DiscoveryMemory} {instr : DiscoveryInstr}
  {statements : List DiscoveryStatement} {handle : FindServiceHandle}

theorem Invokes.same (invokes : memory.Invokes handle after statements) :
    after = { memory with issued := handle :: memory.issued } := by
  cases invokes with
  | application present => rfl
  | proxy present => rfl

variable {Property : DiscoveryInstr → Prop}

/-- What is pushed for a call of a handler. -/
theorem Invokes.pushes (invokes : memory.Invokes handle after statements)
    (pushes : Pushes statements Property) :
    Property .application ∨ (∃ proxy, Property (.eventBindings proxy)) ∨
      Property (.invocationEnds handle) := by
  cases invokes with
  | application present =>
      obtain isCode | isEnd := by simpa using pushes
      · exact .inl isCode
      · exact .inr (.inr isEnd)
  | @proxy proxy present =>
      obtain isCode | isEnd := by simpa using pushes
      · exact .inr (.inl ⟨proxy, isCode⟩)
      · exact .inr (.inr isEnd)

variable {rest : List DiscoveryStatement}

/-- A call leaves all but the handles that are known as it is. -/
theorem InvokesThen.same {called : Bool}
    (invokes : memory.InvokesThen handle rest called after statements) :
    after = memory ∨
      (called = true ∧ after = { memory with issued := handle :: memory.issued }) := by
  cases invokes with
  | quiet isQuiet => exact .inl rfl
  | called isCalled invokes => exact .inr ⟨isCalled, Invokes.same invokes⟩

/-- What is pushed for a call of a handler, and what follows. -/
theorem InvokesThen.pushes {called : Bool}
    (invokes : memory.InvokesThen handle rest called after statements)
    (pushes : Pushes statements Property) :
    Pushes rest Property ∨ (called = true ∧ (Property .application ∨
      (∃ proxy, Property (.eventBindings proxy)) ∨ Property (.invocationEnds handle))) := by
  cases invokes with
  | quiet isQuiet => exact .inl pushes
  | called isCalled invokes =>
      obtain isNew | isRest := pushes_append.mp pushes
      · exact .inr ⟨isCalled, Invokes.pushes invokes isNew⟩
      · exact .inl isRest

theorem executes_nextFreeUid (executes : instr.Executes thread memory after statements) :
    memory.nextFreeUid ≤ after.nextFreeUid := by
  cases executes with
  | getNextFreeFindServiceHandle callback identifier => exact Nat.le_succ _
  | callHandler called invokes | searchStarted invokes =>
      obtain rfl | ⟨-, rfl⟩ := InvokesThen.same invokes
      · exact Nat.le_refl _
      · exact Nat.le_refl _
  | _ => exact Nat.le_refl _

/-- A search is started by what already leads to it, or gets a handle of its own. -/
theorem executes_starting (executes : instr.Executes thread memory after statements)
    (pushes : Pushes statements (Starting handle)) :
    instr.Starting handle ∨
      (handle = memory.nextFreeUid ∧ after.nextFreeUid = memory.nextFreeUid + 1) := by
  cases executes with
  | getNextFreeFindServiceHandle callback identifier =>
      simp [Starting] at pushes
      exact .inr ⟨pushes.symm, rfl⟩
  | callHandler called invokes | searchStarted invokes =>
      have never := InvokesThen.pushes invokes pushes
      simp [Starting] at never
  | _ => simp_all [Starting, Statement.instr]

theorem Pushes.of_tail (pushes : Pushes statements.tail Property) : Pushes statements Property := by
  obtain ⟨statement, member, holds⟩ := pushes
  exact ⟨statement, List.mem_of_mem_tail member, holds⟩

/-- Only the first statement pushed goes on with a search. -/
theorem executes_tail (handle : FindServiceHandle)
    (executes : instr.Executes thread memory after statements) :
    ¬ Pushes statements.tail (Starting handle) := by
  intro pushes
  cases executes with
  | stopEach other =>
      have never := Pushes.of_tail pushes
      simp [Statement.instr, Starting] at never
  | callHandler called invokes | searchStarted invokes =>
      have never := InvokesThen.pushes invokes (Pushes.of_tail pushes)
      simp [Starting] at never
  | _ => simp_all [Starting]

/-- What shows that the search of a handle is no longer being started. -/
def Grounds (thread : DiscoveryThread) (memory : DiscoveryMemory) (instr : DiscoveryInstr)
    (statements : List DiscoveryStatement) (handle : FindServiceHandle) : Prop :=
  instr.Settling handle ∨ instr.Checking handle ∨ handle ∈ memory.issued ∨
    memory.returned thread = some handle ∨ memory.client.Callable handle ∨
      (instr.Starting handle ∧ ¬ Pushes statements (Starting handle))

/-- The client after the work on it, and the search that was started. -/
theorem callable_of_done {starting : Option FindServiceHandle}
    {client : ServiceDiscoveryClient} {outcome : Outcome}
    (sound : (DiscoveryInstr.working starting (.done (client, outcome))).Sound memory.client)
    (callable : client.Callable handle) :
    memory.client.Callable handle ∨ starting = some handle :=
  ServiceDiscoveryClient.Starts.callable sound handle callable

theorem grounds_of_invokes {called : Bool} {other : FindServiceHandle}
    {rest : List DiscoveryStatement} {client : ServiceDiscoveryClient}
    (invokes : DiscoveryMemory.InvokesThen { memory with client := client } other rest called
      after statements)
    (reason : called = true → Grounds thread memory instr statements other)
    (restReason : Pushes rest (Settling handle) → Grounds thread memory instr statements handle) :
    (Pushes statements (Settling handle) → Grounds thread memory instr statements handle) ∧
      (handle ∈ after.issued → Grounds thread memory instr statements handle) := by
  constructor
  · intro pushes
    obtain isRest | ⟨isCalled, isCode | ⟨proxy, isBindings⟩ | isEnd⟩ :=
      InvokesThen.pushes invokes pushes
    · exact restReason isRest
    · exact isCode.elim
    · exact isBindings.elim
    · obtain rfl : other = handle := isEnd
      exact reason isCalled
  · intro issued
    obtain rfl | ⟨isCalled, rfl⟩ := InvokesThen.same invokes
    · exact .inr (.inr (.inl issued))
    · obtain rfl | before := List.mem_cons.mp issued
      · exact reason isCalled
      · exact .inr (.inr (.inl before))

/-- A search that was stored is no longer being started. -/
theorem grounds_of_searchStarted (thread : DiscoveryThread) {starting : Option FindServiceHandle}
    {client : ServiceDiscoveryClient} {found : Bool}
    (sound : (DiscoveryInstr.working starting (.done (client, .searchStarted handle found))).Sound
      memory.client)
    (invokes : DiscoveryMemory.InvokesThen { memory with client := client } handle
      [.act (.returns (some handle))] found after statements) :
    Grounds thread memory (.working starting (.done (client, .searchStarted handle found)))
      statements handle := by
  have isStarting := ServiceDiscoveryClient.Starts.outcome sound handle found rfl
  refine .inr (.inr (.inr (.inr (.inr ⟨isStarting, fun pushes => ?_⟩))))
  have never := InvokesThen.pushes invokes pushes
  simp [Starting] at never

/-- What comes after the start of a search is pushed when there are grounds for it. -/
theorem executes_settling (sound : instr.Sound memory.client)
    (executes : instr.Executes thread memory after statements)
    (pushes : Pushes statements (Settling handle)) :
    Grounds thread memory instr statements handle := by
  cases executes with
  | callStop issued =>
      simp [Settling] at pushes
      subst pushes
      exact .inr (.inr (.inl issued))
  | nothingToFind other callback stored =>
      simp [Settling] at pushes
      subst pushes
      refine .inr (.inr (.inr (.inr (.inr ⟨rfl, ?_⟩))))
      simp [Starting]
  | notStarted failed =>
      simp [Settling] at pushes
      exact .inr (.inl pushes)
  | stopFindService other =>
      simp [Settling] at pushes
      exact .inl pushes
  | stopEach other =>
      simp [Settling, Statement.instr] at pushes
      obtain ⟨-, isStop⟩ | isErase := pushes
      · exact .inl isStop
      · exact .inl isErase
  | @callHandler other impacted client after pushed called invokes =>
      refine (grounds_of_invokes invokes (fun isCalled => ?_) fun isRest => ?_).1 pushes
      · have callable := (ServiceDiscoveryClient.callHandler_noNew called).2
        exact .inr (.inr (.inr (.inr (.inl (callable (of_decide_eq_true isCalled))))))
      · simp [Settling] at isRest
  | searchStarted invokes =>
      have grounds := grounds_of_searchStarted thread sound invokes
      refine (grounds_of_invokes invokes (fun _ => grounds) fun isRest => ?_).1 pushes
      simp [Settling] at isRest
      subst isRest
      exact grounds
  | _ => simp [Settling] at pushes

theorem executes_issued (sound : instr.Sound memory.client)
    (executes : instr.Executes thread memory after statements)
    (issued : handle ∈ after.issued) : Grounds thread memory instr statements handle := by
  cases executes with
  | handOver done =>
      obtain rfl | before := List.mem_cons.mp issued
      · exact .inr (.inr (.inr (.inl done)))
      · exact .inr (.inr (.inl before))
  | @callHandler other impacted client after pushed called invokes =>
      refine (grounds_of_invokes invokes (fun isCalled => ?_) fun isRest => ?_).2 issued
      · have callable := (ServiceDiscoveryClient.callHandler_noNew called).2
        exact .inr (.inr (.inr (.inr (.inl (callable (of_decide_eq_true isCalled))))))
      · simp [Settling] at isRest
  | searchStarted invokes =>
      have grounds := grounds_of_searchStarted thread sound invokes
      refine (grounds_of_invokes invokes (fun _ => grounds) fun isRest => ?_).2 issued
      simp [Settling] at isRest
      subst isRest
      exact grounds
  | _ => exact .inr (.inr (.inl issued))

theorem executes_returned {other : DiscoveryThread}
    (executes : instr.Executes thread memory after statements)
    (returned : after.returned other = some handle) :
    memory.returned other = some handle ∨ instr.Settling handle := by
  cases executes with
  | returns result =>
      by_cases own : other = thread
      · subst own
        simp only [update_self] at returned
        exact .inr returned
      · simp only [update_of_ne own] at returned
        exact .inl returned
  | callHandler called invokes | searchStarted invokes =>
      obtain rfl | ⟨-, rfl⟩ := InvokesThen.same invokes
      · exact .inl returned
      · exact .inl returned
  | _ => exact .inl returned

/-- A search that may be called was callable before, or has just been started. -/
theorem executes_callable (sound : instr.Sound memory.client)
    (executes : instr.Executes thread memory after statements)
    (callable : after.client.Callable handle) :
    memory.client.Callable handle ∨
      (instr.Searching handle ∧ ¬ Pushes statements (Starting handle)) := by
  cases executes with
  | addObsolete other =>
      refine .inl ⟨callable.1, fun listed => ?_⟩
      exact callable.2 (List.mem_insert_of_mem listed)
  | callHandler called invokes =>
      have noNew := (ServiceDiscoveryClient.callHandler_noNew called).1
      obtain rfl | ⟨-, rfl⟩ := InvokesThen.same invokes
      · exact .inl (noNew.callable callable)
      · exact .inl (noNew.callable callable)
  | searchFailed starting client =>
      obtain before | isStarting := callable_of_done sound callable
      · exact .inl before
      · exact .inr ⟨isStarting, by simp [Starting]⟩
  | @searchStarted starting client other found result pushed invokes =>
      have stored : memory.client.Callable handle ∨ starting = some handle := by
        obtain rfl | ⟨-, rfl⟩ := InvokesThen.same invokes
        · exact callable_of_done sound callable
        · exact callable_of_done sound callable
      obtain before | isStarting := stored
      · exact .inl before
      · refine .inr ⟨isStarting, fun pushes => ?_⟩
        have never := InvokesThen.pushes invokes pushes
        simp [Starting] at never
  | searchesTransferred starting client =>
      obtain before | isStarting := callable_of_done sound callable
      · exact .inl before
      · exact .inr ⟨isStarting, by simp⟩
  | deletionsHandled starting client impacted creations
  | creationHandled starting client impacted creations =>
      obtain before | isStarting := callable_of_done sound callable
      · exact .inl before
      · exact .inr ⟨isStarting, by simp [Starting]⟩
  | _ => exact .inl callable

/-- The client is changed under its mutex only. -/
theorem executes_client (executes : instr.Executes thread memory after statements) :
    after.client = memory.client ∨ instr.NeedsWorker := by
  cases executes with
  | addObsolete other | callHandler called invokes | searchFailed starting client
  | searchStarted invokes | searchesTransferred starting client
  | deletionsHandled starting client impacted creations
  | creationHandled starting client impacted creations => exact .inr trivial
  | _ => exact .inl rfl

theorem sound_of_not_working {client : ServiceDiscoveryClient} (idle : ¬ instr.Working) :
    instr.Sound client := by
  cases instr with
  | working starting program => exact absurd trivial idle
  | _ => trivial

/-- Work on the client is all that is pushed, and begins with the client that is there. -/
theorem executes_working (sound : instr.Sound memory.client)
    (executes : instr.Executes thread memory after statements)
    (pushes : Pushes statements Working) :
    ∃ work, statements = [.act work] ∧ work.Sound after.client := by
  cases executes with
  | startSearch other identifier =>
      exact ⟨_, rfl, ServiceDiscoveryClient.startSearch_returns identifier⟩
  | handleEvents events => exact ⟨_, rfl, ServiceDiscoveryClient.handleEvents_returns events⟩
  | handleCreation event rest impacted =>
      exact ⟨_, rfl, ServiceDiscoveryClient.handleCreation_returns impacted event rest⟩
  | performed answer files => exact ⟨_, rfl, sound answer⟩
  | callHandler called invokes | searchStarted invokes =>
      have never := InvokesThen.pushes invokes pushes
      simp [Working] at never
  | _ => simp [Working, Statement.instr] at pushes

variable {statement : DiscoveryStatement}

theorem Invokes.scoped (invokes : memory.Invokes handle after statements)
    (member : statement ∈ statements) : Scoped statement := by
  cases invokes with
  | application present =>
      simp only [List.mem_cons, List.not_mem_nil, or_false] at member
      obtain rfl | rfl := member
      · trivial
      · trivial
  | proxy present =>
      simp only [List.mem_cons, List.not_mem_nil, or_false] at member
      obtain rfl | rfl := member
      · rfl
      · trivial

theorem InvokesThen.scoped {called : Bool}
    (invokes : memory.InvokesThen handle rest called after statements)
    (restScoped : ∀ statement ∈ rest, Scoped statement) (member : statement ∈ statements) :
    Scoped statement := by
  cases invokes with
  | quiet isQuiet => exact restScoped statement member
  | called isCalled invokes =>
      obtain isNew | isRest := List.mem_append.mp member
      · exact Invokes.scoped invokes isNew
      · exact restScoped statement isRest

theorem executes_scoped (executes : instr.Executes thread memory after statements) :
    ∀ statement ∈ statements, Scoped statement := by
  cases executes with
  | callHandler called invokes | searchStarted invokes =>
      intro statement member
      apply InvokesThen.scoped invokes _ member
      simp [Scoped]
  | stopEach other =>
      intro statement member
      simp only [List.mem_append, List.mem_map, List.mem_cons, List.not_mem_nil, or_false] at member
      obtain ⟨_, -, rfl⟩ | rfl | rfl := member
      · rfl
      · trivial
      · trivial
  | _ => simp [Scoped]

/-- Under the mutex of the client only what is there already goes on. -/
theorem executes_needsWorker (executes : instr.Executes thread memory after statements)
    (member : statement ∈ statements) (needs : statement.instr.NeedsWorker) :
    instr.NeedsWorker ∨ statement = .guarded .worker .exclusive statement.instr := by
  cases executes with
  | startFindServiceImpl other identifier =>
      simp only [List.mem_cons, List.not_mem_nil, or_false] at member
      obtain rfl | rfl := member
      · exact .inr rfl
      · exact needs.elim
  | stopEach other =>
      simp only [List.mem_append, List.mem_map, List.mem_cons, List.not_mem_nil, or_false] at member
      obtain ⟨_, -, rfl⟩ | rfl | rfl := member
      · exact .inr rfl
      · exact needs.elim
      · exact needs.elim
  | readEvents events files =>
      simp only [List.mem_cons, List.not_mem_nil, or_false] at member
      obtain rfl | rfl := member
      · exact .inr rfl
      · exact needs.elim
  | callHandler called invokes | searchStarted invokes | startSearch other identifier
  | handleEvents events | handleCreation event rest impacted | creationsHandled impacted
  | performed answer files | deletionsHandled starting client impacted creations
  | creationHandled starting client impacted creations => exact .inl trivial
  | _ =>
      have pushes : Pushes _ NeedsWorker := ⟨statement, member, needs⟩
      simp [NeedsWorker] at pushes

end Rules

/-! ## What is kept -/

namespace DiscoveryThreads

variable {state after : DiscoveryThreads} {turn : DiscoveryTurn} {thread : DiscoveryThread}
  {handle : FindServiceHandle}

/-- The handle was given out, and its search is no longer being started. -/
def Settled (state : DiscoveryThreads) (handle : FindServiceHandle) : Prop :=
  handle < state.memory.nextFreeUid ∧ ∀ thread, ¬ state.Has thread (Starting handle)

/-- No handler is called for the handle any more. -/
def Muted (state : DiscoveryThreads) (handle : FindServiceHandle) : Prop :=
  state.Settled handle ∧ ¬ state.memory.client.Callable handle

/-- What a thread has after a step it had before, or an instruction has pushed it. -/
theorem has_of_step (stepped : discoveryMachine.step state turn = some after)
    {property : DiscoveryInstr → Prop} (has : after.Has thread property) :
    state.Has thread property ∨ thread = turn.thread ∧ ∃ instr rest memory pushed,
      state.stack turn.thread = .todo (.act instr) :: rest ∧
      instr.Executes turn.thread state.memory memory pushed ∧ Pushes pushed property ∧
      after = Machine.proceed state turn.thread memory pushed rest := by
  obtain ⟨instr, rest, memory, pushed, top, executed, rfl⟩ |
    ⟨mutex, mode, body, rest, top, -, rfl⟩ | ⟨mutex, mode, rest, top, rfl⟩ :=
    discoveryMachine.step_cases stepped
  · obtain ⟨own, pushes⟩ | before := has_proceed top has
    · exact .inr ⟨own, instr, rest, memory, pushed, top,
        DiscoveryMemory.executes_of_exec executed, pushes, rfl⟩
    · exact .inl before
  · exact .inl ((has_enter top).mp has)
  · exact .inl ((has_leave top).mp has)

theorem nextFreeUid_step (stepped : discoveryMachine.step state turn = some after) :
    state.memory.nextFreeUid ≤ after.memory.nextFreeUid := by
  obtain ⟨instr, rest, memory, pushed, -, executed, rfl⟩ | ⟨mutex, mode, body, rest, -, -, rfl⟩ |
    ⟨mutex, mode, rest, -, rfl⟩ := discoveryMachine.step_cases stepped
  · exact executes_nextFreeUid (DiscoveryMemory.executes_of_exec executed)
  · exact le_rfl
  · exact le_rfl

theorem Settled.step (settled : state.Settled handle)
    (stepped : discoveryMachine.step state turn = some after) : after.Settled handle := by
  refine ⟨settled.1.trans_le (nextFreeUid_step stepped), fun other has => ?_⟩
  obtain before | ⟨-, instr, rest, memory, pushed, top, executes, pushes, -⟩ :=
    has_of_step stepped has
  · exact settled.2 other before
  · obtain isStarting | ⟨isNew, -⟩ := executes_starting executes pushes
    · exact settled.2 turn.thread (has_top top isStarting)
    · exact Nat.lt_irrefl _ (isNew ▸ settled.1)

/-- Work under the mutex of the client is done by one thread at a time. -/
structure UnderMutex (state : DiscoveryThreads) : Prop where
  accounted : Machine.Accounted state
  exclusive : Machine.Exclusive state
  covered : ∀ thread,
    Machine.Covered NeedsWorker DiscoveryMutex.worker .exclusive (state.stack thread)

theorem handed_needsWorker :
    discoveryMachine.Handed NeedsWorker DiscoveryMutex.worker .exclusive := by
  intro thread choice memory instr result executed statement member needs
  exact executes_needsWorker (DiscoveryMemory.executes_of_exec executed) member needs

theorem UnderMutex.step (under : state.UnderMutex)
    (stepped : discoveryMachine.step state turn = some after) : after.UnderMutex where
  accounted := under.accounted.step stepped
  exclusive := under.exclusive.step stepped
  covered := Machine.Covered.step handed_needsWorker under.covered stepped

theorem fresh_discoveryThreads : Machine.Fresh discoveryThreads := by
  constructor
  · intro mutex
    rfl
  · intro thread mutex mode member
    cases thread <;> simp [discoveryThreads] at member

theorem underMutex_discoveryThreads : discoveryThreads.UnderMutex where
  accounted := fresh_discoveryThreads.accounted
  exclusive := by
    intro mutex thread holder owned
    cases owned
  covered thread := by
    cases thread <;> simp [discoveryThreads, Machine.Covered, NeedsWorker]

variable {instr : DiscoveryInstr}

theorem UnderMutex.holds (under : state.UnderMutex)
    (member : .todo (.act instr) ∈ state.stack thread) (needs : instr.NeedsWorker) :
    (thread, .exclusive) ∈ state.holders .worker :=
  (Machine.holds_iff under.accounted).mpr ((under.covered thread).unlock_mem member needs)

theorem UnderMutex.alone (under : state.UnderMutex) {other : DiscoveryThread}
    {one two : DiscoveryInstr} (oneMember : .todo (.act one) ∈ state.stack thread)
    (oneNeeds : one.NeedsWorker) (twoMember : .todo (.act two) ∈ state.stack other)
    (twoNeeds : two.NeedsWorker) : thread = other :=
  under.exclusive _ _ _ (under.holds twoMember twoNeeds) (under.holds oneMember oneNeeds)

/-! ## Lifecycle -/

/-- A search is started by one thread only; what is known of it elsewhere is settled. -/
structure Lifecycle (state : DiscoveryThreads) : Prop extends state.UnderMutex where
  bodies : ∀ thread statement, .todo statement ∈ state.stack thread → Scoped statement
  working : ∀ thread, state.Has thread Working →
    ∃ instr rest, state.stack thread = .todo (.act instr) :: rest ∧
      instr.Sound state.memory.client ∧ ∀ command ∈ rest, ¬ command.For Working
  begun : ∀ thread handle, state.Has thread (Starting handle) → handle < state.memory.nextFreeUid
  alone : ∀ thread other handle, state.Has thread (Starting handle) →
    state.Has other (Starting handle) → thread = other
  once : ∀ thread handle, (state.stack thread).Pairwise fun upper lower =>
    upper.For (Starting handle) → ¬ lower.For (Starting handle)
  settling : ∀ thread handle, state.Has thread (Settling handle) → state.Settled handle
  issued : ∀ handle ∈ state.memory.issued, state.Settled handle
  returned : ∀ thread handle, state.memory.returned thread = some handle → state.Settled handle
  callable : ∀ handle, state.memory.client.Callable handle → state.Settled handle
  checked : ∀ thread handle before command behind,
    state.stack thread = before ++ command :: behind → command.For (Checking handle) →
      state.Settled handle ∨ ∃ upper ∈ before, upper.For (Starting handle)

theorem Lifecycle.sound (life : state.Lifecycle) {rest : List DiscoveryCommand}
    (top : state.stack thread = .todo (.act instr) :: rest) :
    instr.Sound state.memory.client := by
  by_cases isWorking : instr.Working
  · obtain ⟨work, below, isTop, sound, -⟩ := life.working thread (has_top top isWorking)
    rw [top] at isTop
    cases isTop
    exact sound
  · exact sound_of_not_working isWorking

/-- With grounds for it, a handle is settled after the step. -/
theorem Lifecycle.settled (life : state.Lifecycle) {rest : List DiscoveryCommand}
    {memory : DiscoveryMemory} {pushed : List DiscoveryStatement}
    (top : state.stack thread = .todo (.act instr) :: rest)
    (executes : instr.Executes thread state.memory memory pushed)
    (kept : ∀ handle, state.Settled handle →
      Settled (Machine.proceed state thread memory pushed rest) handle)
    (grounds : Grounds thread state.memory instr pushed handle) :
    Settled (Machine.proceed state thread memory pushed rest) handle := by
  obtain isSettling | isChecking | isIssued | isReturned | isCallable | ⟨isStarting, ends⟩ :=
    grounds
  · exact kept handle (life.settling thread handle (has_top top isSettling))
  · obtain settled | ⟨upper, member, -⟩ := life.checked thread handle [] _ rest top isChecking
    · exact kept handle settled
    · cases member
  · exact kept handle (life.issued handle isIssued)
  · exact kept handle (life.returned thread handle isReturned)
  · exact kept handle (life.callable handle isCallable)
  · have startingHere := has_top top isStarting
    refine ⟨(life.begun thread handle startingHere).trans_le (executes_nextFreeUid executes),
      fun other has => ?_⟩
    by_cases own : other = thread
    · subst own
      obtain ⟨command, member, isStart⟩ := has
      simp only [Machine.proceed, update_self] at member
      obtain isPushed | below := List.mem_append.mp member
      · obtain ⟨statement, statementPushed, rfl⟩ := List.mem_map.mp isPushed
        exact ends ⟨statement, statementPushed, isStart⟩
      · have once := life.once other handle
        rw [top] at once
        exact (List.pairwise_cons.mp once).1 command below isStarting isStart
    · obtain ⟨own', -⟩ | before := has_proceed top has
      · exact own own'
      · exact own (life.alone other thread handle before startingHere)

/-- The stack of another thread is not changed by a step. -/
theorem stack_of_ne (stepped : discoveryMachine.step state turn = some after)
    (distinct : thread ≠ turn.thread) : after.stack thread = state.stack thread := by
  obtain ⟨instr, rest, memory, pushed, -, -, rfl⟩ | ⟨mutex, mode, body, rest, -, -, rfl⟩ |
    ⟨mutex, mode, rest, -, rfl⟩ := discoveryMachine.step_cases stepped
  · simp [Machine.proceed, distinct]
  · simp [Machine.enter, distinct]
  · simp [Machine.leave, distinct]

section

variable (life : state.Lifecycle) (stepped : discoveryMachine.step state turn = some after)

include life stepped

theorem Lifecycle.bodies_step (thread : DiscoveryThread) (statement : DiscoveryStatement)
    (member : .todo statement ∈ after.stack thread) :
    Scoped statement := by
  by_cases own : thread = turn.thread
  · subst own
    obtain ⟨instr, rest, memory, pushed, top, executed, rfl⟩ |
      ⟨mutex, mode, body, rest, top, -, rfl⟩ | ⟨mutex, mode, rest, top, rfl⟩ :=
      discoveryMachine.step_cases stepped
    · simp only [Machine.proceed, update_self] at member
      obtain isPushed | below := List.mem_append.mp member
      · obtain ⟨other, otherPushed, same⟩ := List.mem_map.mp isPushed
        cases same
        exact executes_scoped (DiscoveryMemory.executes_of_exec executed) statement otherPushed
      · exact life.bodies turn.thread statement (by simp [top, below])
    · simp only [Machine.enter, update_self, List.mem_cons] at member
      obtain same | isUnlock | below := member
      · cases same
        trivial
      · cases isUnlock
      · exact life.bodies turn.thread statement (by simp [top, below])
    · simp only [Machine.leave, update_self] at member
      exact life.bodies turn.thread statement (by simp [top, member])
  · exact life.bodies thread statement (stack_of_ne stepped own ▸ member)

theorem Lifecycle.working_step (thread : DiscoveryThread) (has : after.Has thread Working) :
    ∃ instr rest, after.stack thread = .todo (.act instr) :: rest ∧
      instr.Sound after.memory.client ∧ ∀ command ∈ rest, ¬ command.For Working := by
  by_cases own : thread = turn.thread
  · subst own
    obtain ⟨instr, rest, memory, pushed, top, executed, rfl⟩ |
      ⟨mutex, mode, body, rest, top, -, rfl⟩ | ⟨mutex, mode, rest, top, rfl⟩ :=
      discoveryMachine.step_cases stepped
    · have executes := DiscoveryMemory.executes_of_exec executed
      have idle : ∀ command ∈ rest, ¬ command.For Working := by
        intro command below isWorking
        have before : state.Has turn.thread Working := by
          refine ⟨command, ?_, isWorking⟩
          rw [top]
          exact List.mem_cons_of_mem _ below
        obtain ⟨work, below', isTop, -, idle⟩ := life.working turn.thread before
        rw [top] at isTop
        cases isTop
        exact idle command below isWorking
      obtain ⟨command, member, isWorking⟩ := has
      simp only [Machine.proceed, update_self] at member ⊢
      obtain isPushed | below := List.mem_append.mp member
      · obtain ⟨statement, statementPushed, rfl⟩ := List.mem_map.mp isPushed
        obtain ⟨work, rfl, sound⟩ := executes_working (life.sound top) executes
          ⟨statement, statementPushed, isWorking⟩
        exact ⟨work, rest, rfl, sound, idle⟩
      · exact absurd isWorking (idle command below)
    · obtain ⟨work, below, isTop, -⟩ := life.working turn.thread ((has_enter top).mp has)
      rw [top] at isTop
      cases isTop
    · obtain ⟨work, below, isTop, -⟩ := life.working turn.thread ((has_leave top).mp has)
      rw [top] at isTop
      cases isTop
  · have same := stack_of_ne stepped own
    have before : state.Has thread Working := by
      obtain ⟨command, member, isWorking⟩ := has
      exact ⟨command, same ▸ member, isWorking⟩
    obtain ⟨work, below, isTop, sound, idle⟩ := life.working thread before
    refine ⟨work, below, same.trans isTop, ?_, idle⟩
    by_cases isWorking : work.Working
    · have workNeeds : work.NeedsWorker := by
        cases work with
        | working starting program => trivial
        | _ => exact isWorking.elim
      have workMember : .todo (.act work) ∈ state.stack thread := by
        rw [isTop]
        exact List.mem_cons_self
      obtain ⟨instr, rest, memory, pushed, top, executed, rfl⟩ |
        ⟨mutex, mode, body, rest, -, -, rfl⟩ | ⟨mutex, mode, rest, -, rfl⟩ :=
        discoveryMachine.step_cases stepped
      · have instrMember : .todo (.act instr) ∈ state.stack turn.thread := by
          rw [top]
          exact List.mem_cons_self
        obtain sameClient | needs := executes_client (DiscoveryMemory.executes_of_exec executed)
        · simpa only [Machine.proceed, sameClient] using sound
        · exact absurd (life.toUnderMutex.alone workMember workNeeds instrMember needs) own
      · exact sound
      · exact sound
    · exact sound_of_not_working isWorking

theorem Lifecycle.begun_step (thread : DiscoveryThread) (handle : FindServiceHandle)
    (has : after.Has thread (Starting handle)) :
    handle < after.memory.nextFreeUid := by
  have grows := nextFreeUid_step stepped
  obtain before | ⟨-, instr, rest, memory, pushed, top, executes, pushes, rfl⟩ :=
    has_of_step stepped has
  · exact (life.begun thread handle before).trans_le grows
  · obtain isStarting | ⟨rfl, isNext⟩ := executes_starting executes pushes
    · exact (life.begun turn.thread handle (has_top top isStarting)).trans_le grows
    · exact isNext ▸ Nat.lt_succ_self _

theorem Lifecycle.alone_step (thread other : DiscoveryThread) (handle : FindServiceHandle)
    (has : after.Has thread (Starting handle)) (otherHas : after.Has other (Starting handle)) :
    thread = other := by
  -- what is pushed for a search belongs to the thread that starts it, or is new
  have owner : ∀ third, after.Has third (Starting handle) →
      state.Has third (Starting handle) ∨ third = turn.thread ∧
        ∀ fourth, state.Has fourth (Starting handle) → fourth = turn.thread := by
    intro third hasAfter
    obtain before | ⟨own, instr, rest, memory, pushed, top, executes, pushes, -⟩ :=
      has_of_step stepped hasAfter
    · exact .inl before
    · refine .inr ⟨own, fun fourth before => ?_⟩
      obtain isStarting | ⟨rfl, -⟩ := executes_starting executes pushes
      · exact life.alone fourth turn.thread handle before (has_top top isStarting)
      · exact absurd (life.begun fourth _ before) (Nat.lt_irrefl _)
  obtain before | ⟨rfl, only⟩ := owner thread has
  · obtain otherBefore | ⟨rfl, only⟩ := owner other otherHas
    · exact life.alone thread other handle before otherBefore
    · exact only thread before
  · obtain otherBefore | ⟨rfl, -⟩ := owner other otherHas
    · exact (only other otherBefore).symm
    · rfl

theorem Lifecycle.once_step (thread : DiscoveryThread) (handle : FindServiceHandle) :
    (after.stack thread).Pairwise fun upper lower =>
      upper.For (Starting handle) → ¬ lower.For (Starting handle) := by
  have before := life.once thread handle
  by_cases own : thread = turn.thread
  · subst own
    obtain ⟨instr, rest, memory, pushed, top, executed, rfl⟩ |
      ⟨mutex, mode, body, rest, top, -, rfl⟩ | ⟨mutex, mode, rest, top, rfl⟩ :=
      discoveryMachine.step_cases stepped
    · have executes := DiscoveryMemory.executes_of_exec executed
      rw [top, List.pairwise_cons] at before
      simp only [Machine.proceed, update_self, List.pairwise_append]
      refine ⟨?_, before.2, ?_⟩
      · cases pushed with
        | nil => exact .nil
        | cons first others =>
            have tail := executes_tail handle executes
            have idle : ∀ command ∈ others.map Command.todo, ¬ command.For (Starting handle) := by
              intro command member isStart
              obtain ⟨statement, statementMember, rfl⟩ := List.mem_map.mp member
              exact tail ⟨statement, statementMember, isStart⟩
            refine List.pairwise_cons.mpr ⟨fun lower member _ => idle lower member, ?_⟩
            exact List.pairwise_of_forall_mem_list fun _ _ lower member _ => idle lower member
      · intro upper isPushed lower below isStart lowerStart
        obtain ⟨statement, statementPushed, rfl⟩ := List.mem_map.mp isPushed
        obtain isStarting | ⟨rfl, -⟩ :=
          executes_starting executes ⟨statement, statementPushed, isStart⟩
        · exact before.1 lower below isStarting lowerStart
        · have hasLower : state.Has turn.thread (Starting state.memory.nextFreeUid) := by
            refine ⟨lower, ?_, lowerStart⟩
            rw [top]
            exact List.mem_cons_of_mem _ below
          exact Nat.lt_irrefl _ (life.begun turn.thread _ hasLower)
    · rw [top] at before
      simpa [Machine.enter, Statement.instr] using before
    · rw [top, List.pairwise_cons] at before
      simpa [Machine.leave] using before.2
  · rw [stack_of_ne stepped own]
    exact before

theorem Lifecycle.settling_step (thread : DiscoveryThread) (handle : FindServiceHandle)
    (has : after.Has thread (Settling handle)) :
    after.Settled handle := by
  obtain before | ⟨-, instr, rest, memory, pushed, top, executes, pushes, rfl⟩ :=
    has_of_step stepped has
  · exact (life.settling thread handle before).step stepped
  · exact life.settled top executes (fun _ settled => settled.step stepped)
      (executes_settling (life.sound top) executes pushes)

/-- What the memory shows of a handle is settled after a step too. -/
theorem Lifecycle.memory_step (handle : FindServiceHandle) :
    (handle ∈ after.memory.issued → after.Settled handle) ∧
      (∀ thread, after.memory.returned thread = some handle → after.Settled handle) ∧
      (after.memory.client.Callable handle → after.Settled handle) := by
  have kept : ∀ handle, state.Settled handle → after.Settled handle :=
    fun _ settled => settled.step stepped
  obtain ⟨instr, rest, memory, pushed, top, executed, rfl⟩ |
    ⟨mutex, mode, body, rest, top, -, rfl⟩ | ⟨mutex, mode, rest, top, rfl⟩ :=
    discoveryMachine.step_cases stepped
  · have executes := DiscoveryMemory.executes_of_exec executed
    have sound := life.sound top
    refine ⟨fun issued => ?_, fun thread returned => ?_, fun callable => ?_⟩
    · exact life.settled top executes kept (executes_issued sound executes issued)
    · obtain before | isSettling := executes_returned executes returned
      · exact kept handle (life.returned thread handle before)
      · exact kept handle (life.settling turn.thread handle (has_top top isSettling))
    · obtain before | ⟨searching, ends⟩ := executes_callable sound executes callable
      · exact kept handle (life.callable handle before)
      · have isStarting := DiscoveryInstr.starting_of_searching searching
        exact life.settled top executes kept (.inr (.inr (.inr (.inr (.inr ⟨isStarting, ends⟩)))))
  · exact ⟨fun issued => kept _ (life.issued handle issued),
      fun thread returned => kept _ (life.returned thread handle returned),
      fun callable => kept _ (life.callable handle callable)⟩
  · exact ⟨fun issued => kept _ (life.issued handle issued),
      fun thread returned => kept _ (life.returned thread handle returned),
      fun callable => kept _ (life.callable handle callable)⟩

end

/-- A check is pushed below the start of the search that it waits for. -/
theorem executes_checking {memory : DiscoveryMemory} {after : DiscoveryMemory}
    {pushed : List DiscoveryStatement} (executes : instr.Executes thread memory after pushed)
    {before behind : List DiscoveryCommand} {command : DiscoveryCommand}
    (split : pushed.map Command.todo = before ++ command :: behind)
    (checking : command.For (Checking handle)) :
    ∃ upper ∈ before, upper.For (Starting handle) := by
  have pushes : Pushes pushed (Checking handle) := by
    have member : command ∈ pushed.map Command.todo := by
      rw [split]
      simp
    obtain ⟨statement, statementPushed, rfl⟩ := List.mem_map.mp member
    exact ⟨statement, statementPushed, checking⟩
  cases executes with
  | startFindServiceImpl other identifier =>
      simp [Checking] at pushes
      subst pushes
      cases before with
      | nil =>
          cases split
          exact checking.elim
      | cons first middle =>
          obtain ⟨rfl, -⟩ := List.cons.inj split
          exact ⟨_, List.mem_cons_self, rfl⟩
  | callHandler called invokes | searchStarted invokes =>
      have never := InvokesThen.pushes invokes pushes
      simp [Checking] at never
  | _ => simp [Checking, Statement.instr] at pushes

theorem Lifecycle.checked_step (life : state.Lifecycle)
    (stepped : discoveryMachine.step state turn = some after) (thread : DiscoveryThread)
    (handle : FindServiceHandle) (before : List DiscoveryCommand) (command : DiscoveryCommand)
    (behind : List DiscoveryCommand) (split : after.stack thread = before ++ command :: behind)
    (checking : command.For (Checking handle)) :
    after.Settled handle ∨ ∃ upper ∈ before, upper.For (Starting handle) := by
  have kept : ∀ handle, state.Settled handle → after.Settled handle :=
    fun _ settled => settled.step stepped
  by_cases own : thread = turn.thread
  · subst own
    obtain ⟨instr, rest, memory, pushed, top, executed, rfl⟩ |
      ⟨mutex, mode, body, rest, top, -, rfl⟩ | ⟨mutex, mode, rest, top, rfl⟩ :=
      discoveryMachine.step_cases stepped
    · have executes := DiscoveryMemory.executes_of_exec executed
      simp only [Machine.proceed, update_self] at split
      obtain ⟨middle, isNew, -⟩ | ⟨middle, rfl, isBelow⟩ := Machine.split_of_append split
      · exact .inr (executes_checking executes isNew checking)
      · obtain settled | ⟨upper, member, isStart⟩ :=
          life.checked turn.thread handle (.todo (.act instr) :: middle) command behind
            (by rw [top, isBelow]; rfl) checking
        · exact .inl (kept handle settled)
        · obtain rfl | above := List.mem_cons.mp member
          · by_cases goesOn : Pushes pushed (Starting handle)
            · obtain ⟨statement, statementPushed, isStarting⟩ := goesOn
              refine .inr ⟨.todo statement, ?_, isStarting⟩
              exact List.mem_append_left _ (List.mem_map_of_mem statementPushed)
            · exact .inl (life.settled top executes kept
                (.inr (.inr (.inr (.inr (.inr ⟨isStart, goesOn⟩))))))
          · exact .inr ⟨upper, List.mem_append_right _ above, isStart⟩
    · have entered : [Command.todo (.act body), .unlock mutex mode] ++ rest =
          before ++ command :: behind := by
        simpa [Machine.enter] using split
      obtain ⟨middle, isNew, rfl⟩ | ⟨middle, rfl, isBelow⟩ := Machine.split_of_append entered
      · cases before with
        | nil =>
            cases isNew
            obtain settled | ⟨upper, member, -⟩ :=
              life.checked turn.thread handle [] _ rest top checking
            · exact .inl (kept handle settled)
            · cases member
        | cons first before =>
            cases before with
            | nil =>
                cases isNew
                exact checking.elim
            | cons second before => simp at isNew
      · obtain settled | ⟨upper, member, isStart⟩ :=
          life.checked turn.thread handle (.todo (.guarded mutex mode body) :: middle) command
            behind (by rw [top, isBelow]; rfl) checking
        · exact .inl (kept handle settled)
        · obtain rfl | above := List.mem_cons.mp member
          · exact .inr ⟨.todo (.act body), by simp, isStart⟩
          · exact .inr ⟨upper, List.mem_append_right _ above, isStart⟩
    · have left : rest = before ++ command :: behind := by
        simpa [Machine.leave] using split
      obtain settled | ⟨upper, member, isStart⟩ :=
        life.checked turn.thread handle (.unlock mutex mode :: before) command behind
          (by rw [top, left]; rfl) checking
      · exact .inl (kept handle settled)
      · obtain rfl | above := List.mem_cons.mp member
        · exact isStart.elim
        · exact .inr ⟨upper, above, isStart⟩
  · rw [stack_of_ne stepped own] at split
    obtain settled | above := life.checked thread handle before command behind split checking
    · exact .inl (kept handle settled)
    · exact .inr above

theorem Lifecycle.step (life : state.Lifecycle)
    (stepped : discoveryMachine.step state turn = some after) : after.Lifecycle where
  toUnderMutex := life.toUnderMutex.step stepped
  bodies := life.bodies_step stepped
  working := life.working_step stepped
  begun := life.begun_step stepped
  alone := life.alone_step stepped
  once := life.once_step stepped
  settling := life.settling_step stepped
  issued handle := (life.memory_step stepped handle).1
  returned thread handle := (life.memory_step stepped handle).2.1 thread
  callable handle := (life.memory_step stepped handle).2.2
  checked := life.checked_step stepped

theorem not_has_discoveryThreads {Property : DiscoveryInstr → Prop} (thread : DiscoveryThread)
    (none : ¬ Property .readEvents ∧ ¬ Property .application ∧ ¬ Property .otherProcesses) :
    ¬ discoveryThreads.Has thread Property := by
  rintro ⟨command, member, holds⟩
  cases thread with
  | worker =>
      obtain rfl := List.mem_singleton.mp member
      exact none.1 holds
  | user number =>
      obtain rfl := List.mem_singleton.mp member
      exact none.2.1 holds
  | others =>
      obtain rfl := List.mem_singleton.mp member
      exact none.2.2 holds

theorem lifecycle_discoveryThreads : discoveryThreads.Lifecycle where
  toUnderMutex := underMutex_discoveryThreads
  bodies thread statement member := by
    cases thread with
    | worker | user number | others =>
        cases List.mem_singleton.mp member
        trivial
  working thread has := by
    refine absurd has (not_has_discoveryThreads thread ?_)
    simp [Working]
  begun thread handle has := by
    refine absurd has (not_has_discoveryThreads thread ?_)
    simp [Starting]
  alone thread other handle has := by
    refine absurd has (not_has_discoveryThreads thread ?_)
    simp [Starting]
  once thread handle := by
    cases thread <;> simp [discoveryThreads]
  settling thread handle has := by
    refine absurd has (not_has_discoveryThreads thread ?_)
    simp [Settling]
  issued handle member := by cases member
  returned thread handle returned := by cases returned
  callable handle callable := absurd rfl callable.1
  checked thread handle before command behind split checking := by
    have has : discoveryThreads.Has thread (Checking handle) := by
      refine ⟨command, ?_, checking⟩
      rw [split]
      simp
    refine absurd has (not_has_discoveryThreads thread ?_)
    simp [Checking]

end DiscoveryThreads

end MwCom.ServiceDiscovery
