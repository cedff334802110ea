/-
Module: MwCom.Interleaving.System
Purpose: Threads that call programs over one shared memory, one indivisible
  operation at a time, and an executable schedule of their steps.
Trusted boundary: none
Main exports: System, Config, Step, Reaches, Reaches.runAlone, fire, play,
  exists_reached
-/
import MwCom.Interleaving.Program

namespace Interleaving

/-- Threads over a shared memory.  Each thread owns an object (its local data
and the history the specification talks about) and, between two calls, may
start any call that `mayCall` allows. -/
structure System (Thread Op : Type) (Ret : Op → Type)
    (Memory Object Call Reply : Type) where
  /-- The possible answers of an operation, each with the memory it leaves.
  No answer means that the calling thread never continues. -/
  outcomes : (op : Op) → Memory → List (Ret op × Memory)
  mayCall : Thread → Object → Call → Prop
  code : Thread → Object → Call → Program Op Ret Reply
  onCall : Thread → Memory → Object → Call → Object
  /-- The object after an operation; the memory is the one before it. -/
  observe : Thread → Memory → Object → (op : Op) → Ret op → Object
  onReturn : Thread → Memory → Object → Call → Reply → Object
  /-- The object after the thread was killed, if it can be killed. -/
  onCrash : Thread → Memory → Object → Option Object
  /-- Memory changes made by parties that are not threads of the system. -/
  environment : Memory → Memory → Prop

/-- What a thread is doing. -/
inductive Activity (Op : Type) (Ret : Op → Type) (Call Reply : Type) where
  | idle
  | running (call : Call) (rest : Program Op Ret Reply)

namespace Activity

variable {Op : Type} {Ret : Op → Type} {Call Reply : Type}

def isIdle : Activity Op Ret Call Reply → Bool
  | .idle => true
  | .running _ _ => false

theorem isIdle_iff {activity : Activity Op Ret Call Reply} :
    activity.isIdle = true ↔ activity = .idle := by
  cases activity with
  | idle => simp [isIdle]
  | running call rest => simp [isIdle]

instance (activity : Activity Op Ret Call Reply) : Decidable (activity = .idle) :=
  decidable_of_iff (activity.isIdle = true) isIdle_iff

end Activity

/-- One state of the whole system. -/
structure Config (Thread Op : Type) (Ret : Op → Type)
    (Memory Object Call Reply : Type) where
  memory : Memory
  object : Thread → Object
  activity : Thread → Activity Op Ret Call Reply

/-- What happens in one step. -/
inductive Event (Thread Op : Type) (Ret : Op → Type) (Call Reply : Type) where
  | call (thread : Thread) (call : Call)
  | perform (thread : Thread) (op : Op) (answer : Ret op)
  | finish (thread : Thread) (call : Call) (reply : Reply)
  | crash (thread : Thread)
  | environment

variable {Thread Op : Type} {Ret : Op → Type}
  {Memory Object Call Reply : Type}

namespace Config

variable [DecidableEq Thread]

/-- Replace memory, and the object and activity of one thread. -/
def update (config : Config Thread Op Ret Memory Object Call Reply)
    (memory : Memory) (thread : Thread) (object : Object)
    (activity : Activity Op Ret Call Reply) :
    Config Thread Op Ret Memory Object Call Reply where
  memory := memory
  object := Function.update config.object thread object
  activity := Function.update config.activity thread activity

variable {config : Config Thread Op Ret Memory Object Call Reply}
  {memory : Memory} {thread other : Thread} {object : Object}
  {activity : Activity Op Ret Call Reply}

@[simp] theorem update_memory : (config.update memory thread object activity).memory = memory := rfl

@[simp] theorem update_object_self :
    (config.update memory thread object activity).object thread = object := by
  simp [update]

@[simp] theorem update_activity_self :
    (config.update memory thread object activity).activity thread = activity := by
  simp [update]

theorem update_object : (config.update memory thread object activity).object =
      Function.update config.object thread object := rfl

theorem update_object_of_ne (distinct : other ≠ thread) :
    (config.update memory thread object activity).object other = config.object other := by
  simp [update, distinct]

theorem update_activity_of_ne (distinct : other ≠ thread) :
    (config.update memory thread object activity).activity other = config.activity other := by
  simp [update, distinct]

end Config

section Steps

variable [DecidableEq Thread]
  (system : System Thread Op Ret Memory Object Call Reply)

/-- One step of the system: a thread starts a call, performs one operation of
a running call or finishes it, a thread is killed, or the environment moves. -/
inductive Step : Config Thread Op Ret Memory Object Call Reply → Event Thread Op Ret Call Reply →
        Config Thread Op Ret Memory Object Call Reply → Prop where
  | call {config : Config Thread Op Ret Memory Object Call Reply}
      {thread : Thread} {call : Call}
      (idle : config.activity thread = .idle)
      (allowed : system.mayCall thread (config.object thread) call) :
      Step config (.call thread call)
        (config.update config.memory thread
          (system.onCall thread config.memory (config.object thread) call)
          (.running call (system.code thread (config.object thread) call)))
  | perform {config : Config Thread Op Ret Memory Object Call Reply}
      {thread : Thread} {call : Call} {op : Op}
      {next : Ret op → Program Op Ret Reply} {answer : Ret op}
      {memory : Memory}
      (running : config.activity thread = .running call (.step op next))
      (outcome : (answer, memory) ∈ system.outcomes op config.memory) :
      Step config (.perform thread op answer)
        (config.update memory thread (system.observe thread config.memory (config.object thread) op
            answer) (.running call (next answer)))
  | finish {config : Config Thread Op Ret Memory Object Call Reply}
      {thread : Thread} {call : Call} {reply : Reply}
      (running : config.activity thread = .running call (.done reply)) :
      Step config (.finish thread call reply)
        (config.update config.memory thread
          (system.onReturn thread config.memory (config.object thread) call reply) .idle)
  | crash {config : Config Thread Op Ret Memory Object Call Reply}
      {thread : Thread} {object : Object}
      (killed : system.onCrash thread config.memory (config.object thread) = some object) :
      Step config (.crash thread)
        (config.update config.memory thread object .idle)
  | environment {config : Config Thread Op Ret Memory Object Call Reply}
      {memory : Memory} (moved : system.environment config.memory memory) :
      Step config .environment { config with memory := memory }

/-- States reached by steps each of which `permitted` allows. -/
inductive Reaches
    (permitted : Config Thread Op Ret Memory Object Call Reply →
      Event Thread Op Ret Call Reply → Prop)
    (start : Config Thread Op Ret Memory Object Call Reply) :
    Config Thread Op Ret Memory Object Call Reply → Prop where
  | refl : Reaches permitted start start
  | step {middle after : Config Thread Op Ret Memory Object Call Reply}
      {event : Event Thread Op Ret Call Reply}
      (reached : Reaches permitted start middle)
      (allowed : permitted middle event)
      (step : Step system middle event after) :
      Reaches permitted start after

/-- The operations as one thread sees them that moves alone: memory and its own
object. -/
def System.alone (thread : Thread) (op : Op) (state : Memory × Object) :
    List (Ret op × Memory × Object) :=
  (system.outcomes op state.1).map fun outcome =>
    (outcome.1, outcome.2, system.observe thread state.1 state.2 op outcome.1)

variable {system}
  {permitted : Config Thread Op Ret Memory Object Call Reply →
    Event Thread Op Ret Call Reply → Prop}
  {start : Config Thread Op Ret Memory Object Call Reply}

/-- A running program may come to any end it has alone. -/
theorem Reaches.runAlone {thread : Thread} {call : Call}
    (allowed : ∀ config op answer, permitted config (.perform thread op answer))
    {program : Program Op Ret Reply} {reply : Reply} {memory : Memory}
    {object : Object} {config : Config Thread Op Ret Memory Object Call Reply}
    (reached : Reaches system permitted start config)
    (running : config.activity thread = .running call program)
    (ends : program.Ends (system.alone thread)
      (config.memory, config.object thread) reply (memory, object)) :
    Reaches system permitted start
      (config.update memory thread object (.running call (.done reply))) := by
  induction program generalizing config with
  | done result =>
      obtain ⟨rfl, same⟩ := ends
      cases same
      have unchanged : config.update config.memory thread (config.object thread)
          (.running call (.done reply)) = config := by
        rw [← running, Config.update, Function.update_eq_self, Function.update_eq_self]
      rw [unchanged]
      exact reached
  | step op next ih =>
      obtain ⟨answer, middle, outcome, continued⟩ := ends
      obtain ⟨⟨given, between⟩, possible, same⟩ := List.mem_map.mp outcome
      cases same
      have moved := reached.step (allowed _ _ _) (.perform running possible)
      have rest := ih given moved Config.update_activity_self (by simpa using continued)
      simpa [Config.update] using rest

/-- A whole call may come to any end it has alone. -/
theorem Reaches.callAlone {thread : Thread} {call : Call}
    (performs : ∀ config op answer, permitted config (.perform thread op answer))
    (finishes : ∀ config reply, permitted config (.finish thread call reply))
    {reply : Reply} {memory : Memory} {object : Object}
    {config : Config Thread Op Ret Memory Object Call Reply}
    (reached : Reaches system permitted start config) (idle : config.activity thread = .idle)
    (calls : permitted config (.call thread call))
    (mayCall : system.mayCall thread (config.object thread) call)
    (ends : (system.code thread (config.object thread) call).Ends (system.alone thread)
      (config.memory, system.onCall thread config.memory (config.object thread) call)
      reply (memory, object)) :
    Reaches system permitted start
      (config.update memory thread (system.onReturn thread memory object call reply) .idle) := by
  have called := reached.step calls (.call idle mayCall)
  have ran := called.runAlone performs Config.update_activity_self (by simpa using ends)
  have finished := ran.step (finishes _ reply) (.finish Config.update_activity_self)
  simpa [Config.update] using finished

end Steps

section Schedule

variable [DecidableEq Thread]

/-- A scheduler's decision: which thread moves, and which of the possible
answers its operation gets. -/
inductive Choice (Thread Memory Call : Type) where
  | call (thread : Thread) (call : Call)
  | perform (thread : Thread) (outcome : Nat)
  | finish (thread : Thread)
  | crash (thread : Thread)
  | environment (memory : Memory)

variable (system : System Thread Op Ret Memory Object Call Reply)
  [∀ thread object call, Decidable (system.mayCall thread object call)]
  [∀ before after, Decidable (system.environment before after)]

/-- The step a decision leads to, if it is possible. -/
def fire (config : Config Thread Op Ret Memory Object Call Reply) : Choice Thread Memory Call →
      Option (Event Thread Op Ret Call Reply × Config Thread Op Ret Memory Object Call Reply)
  | .call thread call =>
      match config.activity thread with
      | .idle =>
          if system.mayCall thread (config.object thread) call then
            some (.call thread call, config.update config.memory thread
                (system.onCall thread config.memory (config.object thread) call) (.running call
                  (system.code thread (config.object thread) call)))
          else
            none
      | .running _ _ => none
  | .perform thread outcome =>
      match config.activity thread with
      | .running call (.step op next) =>
          match (system.outcomes op config.memory)[outcome]? with
          | some (answer, memory) =>
              some (.perform thread op answer, config.update memory thread
                  (system.observe thread config.memory (config.object thread) op answer)
                  (.running call (next answer)))
          | none => none
      | _ => none
  | .finish thread =>
      match config.activity thread with
      | .running call (.done reply) =>
          some (.finish thread call reply, config.update config.memory thread
              (system.onReturn thread config.memory (config.object thread) call reply) .idle)
      | _ => none
  | .crash thread =>
      match system.onCrash thread config.memory (config.object thread) with
      | some object =>
          some (.crash thread, config.update config.memory thread object .idle)
      | none => none
  | .environment memory =>
      if system.environment config.memory memory then
        some (.environment, { config with memory := memory })
      else
        none

/-- A decision that is possible is a step. -/
theorem fire_step {config after : Config Thread Op Ret Memory Object Call Reply}
    {choice : Choice Thread Memory Call} {event : Event Thread Op Ret Call Reply}
    (fired : fire system config choice = some (event, after)) :
    Step system config event after := by
  cases choice with
  | call thread call =>
      simp only [fire] at fired
      split at fired
      · rename_i idle
        split at fired
        · rename_i allowed
          cases fired
          exact .call idle allowed
        · cases fired
      · cases fired
  | perform thread outcome =>
      simp only [fire] at fired
      split at fired
      · rename_i running
        split at fired
        · rename_i found
          cases fired
          exact .perform running (List.mem_of_getElem? found)
        · cases fired
      · cases fired
  | finish thread =>
      simp only [fire] at fired
      split at fired
      · rename_i running
        cases fired
        exact .finish running
      · cases fired
  | crash thread =>
      simp only [fire] at fired
      split at fired
      · rename_i killed
        cases fired
        exact .crash killed
      · cases fired
  | environment memory =>
      simp only [fire] at fired
      split at fired
      · rename_i moved
        cases fired
        exact .environment moved
      · cases fired

/-- Follow a schedule; `none` if some decision is impossible or `check`
refuses the step. -/
def play
    (check : Config Thread Op Ret Memory Object Call Reply →
      Event Thread Op Ret Call Reply → Bool) :
    List (Choice Thread Memory Call) → Config Thread Op Ret Memory Object Call Reply →
        Option (Config Thread Op Ret Memory Object Call Reply)
  | [], config => some config
  | choice :: rest, config =>
      match fire system config choice with
      | some (event, after) =>
          if check config event then play check rest after else none
      | none => none

/-- A schedule that can be followed ends in a reachable state. -/
theorem play_reaches {check : Config Thread Op Ret Memory Object Call Reply →
      Event Thread Op Ret Call Reply → Bool}
    {permitted : Config Thread Op Ret Memory Object Call Reply →
      Event Thread Op Ret Call Reply → Prop}
    (sound : ∀ config event, check config event = true → permitted config event)
    {choices : List (Choice Thread Memory Call)}
    {start config after : Config Thread Op Ret Memory Object Call Reply}
    (reached : Reaches system permitted start config)
    (played : play system check choices config = some after) :
    Reaches system permitted start after := by
  induction choices generalizing config with
  | nil =>
      cases played
      exact reached
  | cons choice rest ih =>
      simp only [play] at played
      split at played
      · rename_i event middle fired
        split at played
        · rename_i checked
          exact ih (reached.step (sound _ _ checked) (fire_step system fired)) played
        · cases played
      · cases played

/-- A schedule of permitted steps shows that a state with a property is
reached. -/
theorem exists_reached (permitted : Config Thread Op Ret Memory Object Call Reply →
      Event Thread Op Ret Call Reply → Prop)
    [∀ config event, Decidable (permitted config event)]
    (start : Config Thread Op Ret Memory Object Call Reply)
    (choices : List (Choice Thread Memory Call))
    (Property : Config Thread Op Ret Memory Object Call Reply → Prop) [DecidablePred Property]
    (played : (play system (fun config event => decide (permitted config event))
      choices start).any (fun config => decide (Property config)) = true) :
    ∃ config, Reaches system permitted start config ∧ Property config := by
  obtain ⟨config, followed, holds⟩ := (Option.any_eq_true _ _).mp played
  refine ⟨config, ?_, of_decide_eq_true holds⟩
  refine play_reaches system ?_ .refl followed
  intro before event allowed
  exact of_decide_eq_true allowed

/-- The same with a second schedule, under a permission of its own. -/
theorem exists_reached_then (first second : Config Thread Op Ret Memory Object Call Reply →
      Event Thread Op Ret Call Reply → Prop)
    [∀ config event, Decidable (first config event)]
    [∀ config event, Decidable (second config event)]
    (start : Config Thread Op Ret Memory Object Call Reply)
    (choices rest : List (Choice Thread Memory Call))
    (Property : Config Thread Op Ret Memory Object Call Reply →
      Config Thread Op Ret Memory Object Call Reply → Prop)
    [∀ middle config, Decidable (Property middle config)]
    (played : (play system (fun config event => decide (first config event))
      choices start).any (fun middle =>
        (play system (fun config event => decide (second config event)) rest middle).any
          fun config => decide (Property middle config)) = true) :
    ∃ middle config, Reaches system first start middle ∧
      Reaches system second middle config ∧ Property middle config := by
  obtain ⟨middle, followed, continued⟩ := (Option.any_eq_true _ _).mp played
  obtain ⟨config, followedOn, holds⟩ := (Option.any_eq_true _ _).mp continued
  refine ⟨middle, config, ?_, ?_, of_decide_eq_true holds⟩
  · refine play_reaches system ?_ .refl followed
    intro before event allowed
    exact of_decide_eq_true allowed
  · refine play_reaches system ?_ .refl followedOn
    intro before event allowed
    exact of_decide_eq_true allowed

end Schedule

end Interleaving
