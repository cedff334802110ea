/-
Module: MwCom.Interleaving.Mortal
Purpose: Systems whose threads may be killed between any two of their operations; a
  killed thread never continues, and what it held is released with it.
Trusted boundary: none
Main exports: Mortal, By, Role, Role.system, Role.Obligations, Role.Holds, Role.run,
  Role.exists_reached
-/
import MwCom.Interleaving.Contract

namespace Interleaving

/-- Memory, and the threads that were killed. -/
structure Mortal (Thread Memory : Type) where
  memory : Memory
  isDead : Thread → Bool

/-- An operation, and the thread that performs it. -/
structure By (Thread Op : Type) where
  thread : Thread
  op : Op

variable {Thread Op : Type} {Ret : Op → Type} {Memory Object Call Reply : Type}

/-- What the threads of a system may do: their operations, which may depend on who
performs them, the calls they may start and the data they keep about them. -/
structure Role (Thread Op : Type) (Ret : Op → Type) (Memory Object Call Reply : Type) where
  outcomes : Thread → (op : Op) → Memory → List (Ret op × Memory)
  mayCall : Thread → Object → Call → Prop
  code : Thread → Object → Call → Program Op Ret Reply
  onCall : Object → Call → Object
  observe : Object → (op : Op) → Ret op → Object
  onReturn : Object → Call → Reply → Object
  /-- What is left of memory when threads are killed. -/
  release : (Thread → Bool) → Memory → Memory

namespace Mortal

/-- Some threads are killed at once, as those of one process are. -/
def kill (release : (Thread → Bool) → Memory → Memory) (killed : Thread → Bool)
    (before : Mortal Thread Memory) : Mortal Thread Memory where
  memory := release killed before.memory
  isDead thread := before.isDead thread || killed thread

variable {release : (Thread → Bool) → Memory → Memory} {killed : Thread → Bool}
  {before : Mortal Thread Memory} {thread : Thread}

end Mortal

namespace Role

variable (role : Role Thread Op Ret Memory Object Call Reply)

/-- The operations of a killed thread never answer. -/
def mortalOutcomes (request : By Thread Op) (before : Mortal Thread Memory) :
    List (Ret request.op × Mortal Thread Memory) :=
  if before.isDead request.thread then
    []
  else
    (role.outcomes request.thread request.op before.memory).map fun outcome =>
      (outcome.1, { before with memory := outcome.2 })

/-- The system of threads that run the role's calls and may be killed. -/
def system : System Thread (By Thread Op) (fun request => Ret request.op)
    (Mortal Thread Memory) Object Call Reply where
  outcomes := role.mortalOutcomes
  mayCall := role.mayCall
  code thread object call :=
    (role.code thread object call).lift (fun op => ⟨thread, op⟩) fun _ answer => answer
  onCall _ _ object call := role.onCall object call
  observe _ _ object request answer := role.observe object request.op answer
  onReturn _ _ object call reply := role.onReturn object call reply
  onCrash _ _ _ := none
  environment before after := ∃ killed, after = before.kill role.release killed

/-- A state of the system. -/
abbrev State (_ : Role Thread Op Ret Memory Object Call Reply) : Type :=
  Config Thread (By Thread Op) (fun request => Ret request.op) (Mortal Thread Memory) Object
    Call Reply

/-- What happens in one step of the system. -/
abbrev Move (_ : Role Thread Op Ret Memory Object Call Reply) : Type :=
  Event Thread (By Thread Op) (fun request => Ret request.op) Call Reply

instance system_mayCall [∀ thread object call, Decidable (role.mayCall thread object call)]
    (thread : Thread) (object : Object) (call : Call) :
    Decidable (role.system.mayCall thread object call) :=
  inferInstanceAs (Decidable (role.mayCall thread object call))

variable {role}

/-- An answer is given to a thread that lives. -/
theorem mem_mortalOutcomes {request : By Thread Op} {before after : Mortal Thread Memory}
    {answer : Ret request.op} :
    (answer, after) ∈ role.mortalOutcomes request before ↔ before.isDead request.thread = false ∧
        ∃ memory, (answer, memory) ∈ role.outcomes request.thread request.op before.memory ∧
          after = { before with memory := memory } := by
  rw [mortalOutcomes]
  cases isDead : before.isDead request.thread with
  | true => simp
  | false =>
      constructor
      · intro outcome
        rw [if_neg (by simp)] at outcome
        obtain ⟨⟨given, memory⟩, possible, same⟩ := List.mem_map.mp outcome
        cases same
        exact ⟨rfl, memory, possible, rfl⟩
      · rintro ⟨_, memory, possible, rfl⟩
        rw [if_neg (by simp)]
        exact List.mem_map.mpr ⟨(answer, memory), possible, rfl⟩

/-! ## What the threads keep -/

/-- The rules of one thread as a function of its own object. -/
structure Manners (role : Role Thread Op Ret Memory Object Call Reply) where
  may : Thread → Object → Op → Prop
  expects : Thread → Object → (op : Op) → Ret op → Prop
  post : Thread → Call → Reply → Object → Prop

/-- The rules that a thread keeps on its operations. -/
def Manners.rules (manners : role.Manners) (thread : Thread) : Rules Op Ret Object where
  may := manners.may thread
  expects := manners.expects thread
  next := role.observe

/-- The same rules on the operations it performs under its own name. -/
def Manners.signed (manners : role.Manners) (thread : Thread) :
    Rules (By Thread Op) (fun request => Ret request.op) Object where
  may object request := request.thread = thread ∧ manners.may thread object request.op
  expects object request answer := manners.expects thread object request.op answer
  next object request answer := role.observe object request.op answer

/-- A program of the role respects the rules under the name of its thread too. -/
theorem Manners.respects_signed {manners : role.Manners} {thread : Thread} {Result : Type}
    {program : Program Op Ret Result} {object : Object} {post : Result → Object → Prop}
    (respected : program.Respects (manners.rules thread) object post) :
    (program.lift (fun op => (⟨thread, op⟩ : By Thread Op)) fun _ answer => answer).Respects
      (manners.signed thread) object post := by
  apply respected.lift
  · intro view op may
    exact ⟨rfl, may⟩
  · intro view op reply expected
    exact ⟨expected, rfl⟩

/-- An invariant of memory and of the objects of the threads that live. -/
abbrev Invariant (_ : Role Thread Op Ret Memory Object Call Reply) : Type :=
  Memory → (Thread → Bool) → (Thread → Object) → Prop

variable {Inv : role.Invariant} {manners : role.Manners}

/-- The invariant holds, and what is left of every running call of a thread that lives
respects the manners of its thread. -/
structure Holds (Inv : role.Invariant) (manners : role.Manners) (config : role.State) : Prop where
  inv : Inv config.memory.memory config.memory.isDead config.object
  running : ∀ thread call rest, config.memory.isDead thread = false →
    config.activity thread = .running call rest →
      rest.Respects (manners.signed thread) (config.object thread) (manners.post thread call)

variable [DecidableEq Thread]

/-- One obligation for each kind of step. -/
structure Obligations (role : Role Thread Op Ret Memory Object Call Reply)
    (Inv : role.Invariant) (manners : role.Manners)
    (permitted : role.State → role.Move → Prop) : Prop where
  call : ∀ (config : role.State) thread call,
    Inv config.memory.memory config.memory.isDead config.object →
    permitted config (.call thread call) →
    role.mayCall thread (config.object thread) call → Inv config.memory.memory config.memory.isDead
          (Function.update config.object thread (role.onCall (config.object thread) call)) ∧
        (config.memory.isDead thread = false →
          (role.code thread (config.object thread) call).Respects (manners.rules thread)
            (role.onCall (config.object thread) call) (manners.post thread call))
  perform : ∀ (config : role.State) thread op (answer : Ret op) memory,
    Inv config.memory.memory config.memory.isDead config.object →
    permitted config (.perform thread ⟨thread, op⟩ answer) →
    config.memory.isDead thread = false →
    manners.may thread (config.object thread) op →
    (answer, memory) ∈ role.outcomes thread op config.memory.memory →
      Inv memory config.memory.isDead
          (Function.update config.object thread (role.observe (config.object thread) op answer)) ∧
        manners.expects thread (config.object thread) op answer
  finish : ∀ (config : role.State) thread call reply,
    Inv config.memory.memory config.memory.isDead config.object →
    permitted config (.finish thread call reply) →
    (config.memory.isDead thread = false → manners.post thread call reply (config.object thread)) →
      Inv config.memory.memory config.memory.isDead
        (Function.update config.object thread (role.onReturn (config.object thread) call reply))
  killed : ∀ (config : role.State) killed,
    Inv config.memory.memory config.memory.isDead config.object →
      Inv (role.release killed config.memory.memory)
        (fun thread => config.memory.isDead thread || killed thread) config.object

variable {permitted : role.State → role.Move → Prop}

variable {config : role.State}

omit [DecidableEq Thread] in
/-- Only operations of the performing thread itself are performed. -/
theorem Holds.may (holds : role.Holds Inv manners config) {thread : Thread} {call : Call}
    {request : By Thread Op}
    {next : Ret request.op → Program (By Thread Op) (fun request => Ret request.op) Reply}
    (lives : config.memory.isDead thread = false)
    (running : config.activity thread = .running call (.step request next)) :
    request.thread = thread ∧ manners.may thread (config.object thread) request.op :=
  (holds.running thread call _ lives running).1

/-- The obligations make the step lemma. -/
theorem Holds.step (obligations : role.Obligations Inv manners permitted) {after : role.State}
    {move : role.Move} (holds : role.Holds Inv manners config)
    (performs : ∀ thread call request next,
      config.activity thread = .running call (.step request next) → request.thread = thread)
    (allowed : permitted config move) (step : Step role.system config move after) :
    role.Holds Inv manners after := by
  cases step with
  | @call thread call idle mayCall =>
      obtain ⟨kept, respected⟩ := obligations.call config thread call holds.inv allowed mayCall
      constructor
      · exact kept
      · intro other otherCall rest lives running
        by_cases same : other = thread
        · subst same
          rw [Config.update_activity_self] at running
          cases running
          rw [Config.update_object_self]
          exact Manners.respects_signed (respected lives)
        · rw [Config.update_activity_of_ne same] at running
          rw [Config.update_object_of_ne same]
          exact holds.running other otherCall rest lives running
  | @perform thread call request next answer memory running outcome =>
      obtain ⟨performer, op⟩ := request
      obtain rfl : performer = thread := performs thread call ⟨performer, op⟩ next running
      obtain ⟨lives, left, possible, same⟩ := mem_mortalOutcomes.mp outcome
      have respected := holds.running performer call _ lives running
      obtain ⟨kept, expected⟩ := obligations.perform config performer op answer left holds.inv
        allowed lives respected.1.2 possible
      subst same
      constructor
      · exact kept
      · intro other otherCall rest livesOther runs
        by_cases same : other = performer
        · subst same
          rw [Config.update_activity_self] at runs
          cases runs
          rw [Config.update_object_self]
          exact respected.2 answer expected
        · rw [Config.update_activity_of_ne same] at runs
          rw [Config.update_object_of_ne same]
          exact holds.running other otherCall rest livesOther runs
  | @finish thread call reply running =>
      have kept := obligations.finish config thread call reply holds.inv allowed
        (fun lives => holds.running thread call _ lives running)
      constructor
      · exact kept
      · intro other otherCall rest lives runs
        by_cases same : other = thread
        · subst same
          rw [Config.update_activity_self] at runs
          cases runs
        · rw [Config.update_activity_of_ne same] at runs
          rw [Config.update_object_of_ne same]
          exact holds.running other otherCall rest lives runs
  | crash killed => cases killed
  | environment moved =>
      obtain ⟨killed, rfl⟩ := moved
      constructor
      · exact obligations.killed config killed holds.inv
      · intro thread call rest lives running
        have lives : (config.memory.isDead thread || killed thread) = false := lives
        rw [Bool.or_eq_false_iff] at lives
        exact holds.running thread call rest lives.1 running

/-- A program that performs operations under one name only. -/
def OwnName (thread : Thread) {Result : Type}
    (program : Program (By Thread Op) (fun request => Ret request.op) Result) : Prop :=
  program.Performs fun request => request.thread = thread

omit [DecidableEq Thread] in
theorem ownName_lift (thread : Thread) {Result : Type} (program : Program Op Ret Result) :
    OwnName thread
      (program.lift (fun op => (⟨thread, op⟩ : By Thread Op)) fun _ answer => answer) := by
  induction program with
  | done result => exact .done result
  | step op next ih => exact ⟨rfl, ih⟩

/-- Every thread performs operations under its own name only. -/
theorem ownName_of_reached {start : role.State} (idle : ∀ thread, start.activity thread = .idle)
    (reached : Reaches role.system permitted start config) :
    ∀ thread call rest, config.activity thread = .running call rest → OwnName thread rest := by
  induction reached with
  | refl =>
      intro thread call rest running
      rw [idle thread] at running
      cases running
  | @step middle after move reached allowed step ih =>
      intro other otherCall rest running
      cases step with
      | @call thread call isIdle mayCall =>
          by_cases same : other = thread
          · subst same
            rw [Config.update_activity_self] at running
            cases running
            exact ownName_lift other _
          · rw [Config.update_activity_of_ne same] at running
            exact ih other otherCall rest running
      | @perform thread call request next answer memory runs outcome =>
          by_cases same : other = thread
          · subst same
            rw [Config.update_activity_self] at running
            cases running
            exact (ih other otherCall _ runs).2 answer
          · rw [Config.update_activity_of_ne same] at running
            exact ih other otherCall rest running
      | @finish thread call reply runs =>
          by_cases same : other = thread
          · subst same
            rw [Config.update_activity_self] at running
            cases running
          · rw [Config.update_activity_of_ne same] at running
            exact ih other otherCall rest running
      | crash killed => cases killed
      | environment moved => exact ih other otherCall rest running

/-- The invariant holds in every state that a permitted run reaches, and what is left of
every running call respects the manners of its thread. -/
theorem run (obligations : role.Obligations Inv manners permitted) {start : role.State}
    (initially : Inv start.memory.memory start.memory.isDead start.object)
    (idle : ∀ thread, start.activity thread = .idle)
    (reached : Reaches role.system permitted start config) :
    role.Holds Inv manners config := by
  apply reached.invariant
  · constructor
    · exact initially
    · intro thread call rest _ running
      rw [idle thread] at running
      cases running
  · intro before event after reachedBefore holds allowed step
    apply holds.step obligations ?_ allowed step
    intro thread call request next running
    exact (ownName_of_reached idle reachedBefore thread call _ running).1

/-! ## Schedules -/

/-- A scheduler's decision: a thread moves, or some threads are killed. -/
inductive Choice (Thread Memory Call : Type) where
  | move (choice : Interleaving.Choice Thread (Mortal Thread Memory) Call)
  | kill (threads : List Thread)

/-- The same system where nobody is killed. -/
def undying (role : Role Thread Op Ret Memory Object Call Reply) :
    System Thread (By Thread Op) (fun request => Ret request.op) (Mortal Thread Memory) Object
      Call Reply :=
  { role.system with environment := fun _ _ => False }

instance undying_mayCall
    [∀ thread object call, Decidable (role.mayCall thread object call)] (thread : Thread)
    (object : Object) (call : Call) : Decidable (role.undying.mayCall thread object call) :=
  inferInstanceAs (Decidable (role.mayCall thread object call))

instance undying_environment (before after : Mortal Thread Memory) :
    Decidable (role.undying.environment before after) :=
  inferInstanceAs (Decidable False)

theorem step_of_undying {after : role.State} {move : role.Move}
    (step : Step role.undying config move after) : Step role.system config move after := by
  cases step with
  | call idle allowed => exact .call idle allowed
  | perform running outcome => exact .perform running outcome
  | finish running => exact .finish running
  | crash killed => exact .crash killed
  | environment moved => cases moved

section Schedule

variable (role) [∀ thread object call, Decidable (role.mayCall thread object call)]

/-- Follow a schedule; `none` if a decision is impossible or refused. -/
def play (check : role.State → role.Move → Bool) :
    List (Choice Thread Memory Call) → role.State → Option role.State
  | [], config => some config
  | .move choice :: rest, config =>
      match fire role.undying config choice with
      | some (move, after) => if check config move then play check rest after else none
      | none => none
  | .kill threads :: rest, config =>
      if check config .environment then
        let killed : Thread → Bool := fun thread => decide (thread ∈ threads)
        play check rest { config with memory := config.memory.kill role.release killed }
      else
        none

/-- A schedule that can be followed ends in a reachable state. -/
theorem play_reaches {check : role.State → role.Move → Bool}
    (sound : ∀ config move, check config move = true → permitted config move)
    {choices : List (Choice Thread Memory Call)} {start config after : role.State}
    (reached : Reaches role.system permitted start config)
    (played : role.play check choices config = some after) :
    Reaches role.system permitted start after := by
  induction choices generalizing config with
  | nil =>
      cases played
      exact reached
  | cons choice rest ih =>
      cases choice with
      | move choice =>
          simp only [play] at played
          split at played
          · rename_i move middle fired
            split at played
            · rename_i checked
              have step := step_of_undying (fire_step role.undying fired)
              exact ih (reached.step (sound _ _ checked) step) played
            · cases played
          · cases played
      | kill threads =>
          simp only [play] at played
          split at played
          · rename_i checked
            exact ih (reached.step (sound _ _ checked) (.environment ⟨_, rfl⟩)) played
          · cases played

/-- A schedule of permitted steps shows that a state with a property is reached. -/
theorem exists_reached (permitted : role.State → role.Move → Prop)
    [∀ config move, Decidable (permitted config move)] (start : role.State)
    (choices : List (Choice Thread Memory Call)) (Property : role.State → Prop)
    [DecidablePred Property]
    (played : (role.play (fun config move => decide (permitted config move)) choices
      start).any (fun config => decide (Property config)) = true) :
    ∃ config, Reaches role.system permitted start config ∧ Property config := by
  obtain ⟨config, ended, holds⟩ := (Option.any_eq_true _ _).mp played
  have sound : ∀ before move, decide (permitted before move) = true → permitted before move :=
    fun _ _ => of_decide_eq_true
  exact ⟨config, role.play_reaches sound .refl ended, of_decide_eq_true holds⟩

end Schedule

end Role

end Interleaving
