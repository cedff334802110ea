/-
Module: MwCom.Locking.ThreadStacks
Purpose: Threads that work off stacks of commands under locks with scopes, who waits for
  whom, and what every such machine keeps: a thread holds what its stack gives up.
Trusted boundary: none
Main exports: Machine, Machine.State, Machine.step, Machine.Reaches, Machine.Deadlocked,
  Machine.step_cases, Machine.holds_iff
-/
import Mathlib.Logic.Relation
import MwCom.Locking.FileLocks

namespace Locking

open Function

variable {Thread Choice Mutex Memory Instr : Type}

/-- What a thread is given to do: an instruction, or one for whose time it locks. -/
inductive Statement (Mutex Instr : Type) where
  | act (instr : Instr)
  | guarded (mutex : Mutex) (mode : Mode) (body : Instr)

/-- What is left for a thread to do.  Only a lock that was taken is given up. -/
inductive Command (Mutex Instr : Type) where
  | todo (statement : Statement Mutex Instr)
  | unlock (mutex : Mutex) (mode : Mode)

/-- The instruction that a statement leads to. -/
def Statement.instr : Statement Mutex Instr → Instr
  | .act instr => instr
  | .guarded _ _ body => body

/-- The command is one for instructions with a property. -/
def Command.For (Property : Instr → Prop) : Command Mutex Instr → Prop
  | .todo statement => Property statement.instr
  | .unlock _ _ => False

instance (Property : Instr → Prop) [DecidablePred Property] :
    DecidablePred (Command.For Property : Command Mutex Instr → Prop) := by
  intro command
  cases command with
  | todo statement => exact inferInstanceAs (Decidable (Property statement.instr))
  | unlock mutex mode => exact inferInstanceAs (Decidable False)

@[simp] theorem Command.for_todo {Property : Instr → Prop} {statement : Statement Mutex Instr} :
    (Command.todo statement).For Property ↔ Property statement.instr := Iff.rfl

@[simp] theorem Command.not_for_unlock {Property : Instr → Prop} {mutex : Mutex} {mode : Mode} :
    ¬ (Command.unlock mutex mode : Command Mutex Instr).For Property := id

/-- One of the statements leads to an instruction with a property. -/
def Pushes (statements : List (Statement Mutex Instr)) (Property : Instr → Prop) : Prop :=
  ∃ statement ∈ statements, Property statement.instr

section Pushes

variable {statements more : List (Statement Mutex Instr)} {Property : Instr → Prop}
  {instr : Instr} {mutex : Mutex} {mode : Mode}

@[simp] theorem not_pushes_nil : ¬ Pushes ([] : List (Statement Mutex Instr)) Property := by
  simp [Pushes]

@[simp] theorem pushes_act :
    Pushes (.act instr :: statements) Property ↔ Property instr ∨ Pushes statements Property := by
  simp [Pushes, Statement.instr]

@[simp] theorem pushes_guarded : Pushes (.guarded mutex mode instr :: statements) Property ↔
      Property instr ∨ Pushes statements Property := by
  simp [Pushes, Statement.instr]

@[simp] theorem pushes_append :
    Pushes (statements ++ more) Property ↔ Pushes statements Property ∨ Pushes more Property := by
  simp [Pushes, or_and_right, exists_or]

@[simp] theorem pushes_replicate {count : Nat} {statement : Statement Mutex Instr} :
    Pushes (List.replicate count statement) Property ↔ count ≠ 0 ∧ Property statement.instr := by
  constructor
  · rintro ⟨other, member, holds⟩
    obtain ⟨some, rfl⟩ := List.mem_replicate.mp member
    exact ⟨some, holds⟩
  · rintro ⟨some, holds⟩
    exact ⟨statement, List.mem_replicate.mpr ⟨some, rfl⟩, holds⟩

end Pushes

/-- Instructions over a shared memory: what executing one gives, and the statements that
take its place; `none`: not now, or not with this choice. -/
structure Machine (Thread Choice Mutex Memory Instr : Type) where
  recursive : Mutex → Bool
  exec : Thread → Choice → Memory → Instr → Option (Memory × List (Statement Mutex Instr))

namespace Machine

/-- The memory, who holds which mutex, and the stacks of the threads. -/
structure State (Thread Mutex Memory Instr : Type) where
  memory : Memory
  holders : Mutex → List (Thread × Mode)
  stack : Thread → List (Command Mutex Instr)

/-- Whose turn it is, and what is chosen for it. -/
structure Turn (Thread Choice : Type) where
  thread : Thread
  choice : Choice

variable [DecidableEq Thread] [DecidableEq Mutex]

/-! ## Steps -/

section Steps

variable (machine : Machine Thread Choice Mutex Memory Instr)

/-- Whether a lock of one thread keeps another from locking, or from locking again. -/
def blocks (thread : Thread) (mutex : Mutex) (mode : Mode) (holder : Thread × Mode) : Bool :=
  !(mode == .shared && holder.2 == .shared) && !(machine.recursive mutex && holder.1 == thread)

def mayLock (state : State Thread Mutex Memory Instr) (thread : Thread) (mutex : Mutex)
    (mode : Mode) : Bool :=
  (state.holders mutex).all fun holder => !machine.blocks thread mutex mode holder

/-- A thread takes a lock and has the body to execute under it. -/
def enter (state : State Thread Mutex Memory Instr) (thread : Thread) (mutex : Mutex)
    (mode : Mode) (body : Instr) (rest : List (Command Mutex Instr)) :
    State Thread Mutex Memory Instr where
  memory := state.memory
  holders := update state.holders mutex ((thread, mode) :: state.holders mutex)
  stack := update state.stack thread
    (.todo (.act body) :: .unlock mutex mode :: rest)

/-- A thread gives a lock up. -/
def leave (state : State Thread Mutex Memory Instr) (thread : Thread) (mutex : Mutex)
    (mode : Mode) (rest : List (Command Mutex Instr)) :
    State Thread Mutex Memory Instr where
  memory := state.memory
  holders := update state.holders mutex ((state.holders mutex).erase (thread, mode))
  stack := update state.stack thread rest

/-- A thread has executed an instruction. -/
def proceed (state : State Thread Mutex Memory Instr) (thread : Thread) (memory : Memory)
    (pushed : List (Statement Mutex Instr)) (rest : List (Command Mutex Instr)) :
    State Thread Mutex Memory Instr where
  memory := memory
  holders := state.holders
  stack := update state.stack thread (pushed.map .todo ++ rest)

/-- The thread whose turn it is works off the top of its stack. -/
def step (state : State Thread Mutex Memory Instr) (turn : Turn Thread Choice) :
    Option (State Thread Mutex Memory Instr) :=
  match state.stack turn.thread with
  | [] => none
  | .todo (.act instr) :: rest =>
      match machine.exec turn.thread turn.choice state.memory instr with
      | some (memory, pushed) => some (proceed state turn.thread memory pushed rest)
      | none => none
  | .todo (.guarded mutex mode body) :: rest =>
      if machine.mayLock state turn.thread mutex mode then
        some (enter state turn.thread mutex mode body rest)
      else
        none
  | .unlock mutex mode :: rest => some (leave state turn.thread mutex mode rest)

variable {state : State Thread Mutex Memory Instr}

/-- What one step can be. -/
theorem step_cases {after : State Thread Mutex Memory Instr} {turn : Turn Thread Choice}
    (stepped : machine.step state turn = some after) :
    (∃ instr rest memory pushed, state.stack turn.thread = .todo (.act instr) :: rest ∧
        machine.exec turn.thread turn.choice state.memory instr = some (memory, pushed) ∧
        after = proceed state turn.thread memory pushed rest) ∨
    (∃ mutex mode body rest, state.stack turn.thread = .todo (.guarded mutex mode body) :: rest ∧
        machine.mayLock state turn.thread mutex mode = true ∧
        after = enter state turn.thread mutex mode body rest) ∨
    ∃ mutex mode rest, state.stack turn.thread = .unlock mutex mode :: rest ∧
        after = leave state turn.thread mutex mode rest := by
  simp only [step] at stepped
  split at stepped
  · cases stepped
  · rename_i instr rest top
    split at stepped
    · rename_i memory pushed executed
      cases stepped
      exact .inl ⟨instr, rest, memory, pushed, top, executed, rfl⟩
    · cases stepped
  · rename_i mutex mode body rest top
    split at stepped
    · rename_i may
      cases stepped
      exact .inr (.inl ⟨mutex, mode, body, rest, top, may, rfl⟩)
    · cases stepped
  · rename_i mutex mode rest top
    cases stepped
    exact .inr (.inr ⟨mutex, mode, rest, top, rfl⟩)

/-- The states that runs of permitted steps lead to. -/
inductive Reaches (permitted : State Thread Mutex Memory Instr → Turn Thread Choice → Prop)
    (start : State Thread Mutex Memory Instr) : State Thread Mutex Memory Instr → Prop where
  | refl : Reaches permitted start start
  | step {state after : State Thread Mutex Memory Instr} {turn : Turn Thread Choice}
      (reached : Reaches permitted start state) (allowed : permitted state turn)
      (stepped : machine.step state turn = some after) : Reaches permitted start after

variable {machine}

variable {start : State Thread Mutex Memory Instr}
  {permitted : State Thread Mutex Memory Instr → Turn Thread Choice → Prop}

/-- What holds at first and is kept by every permitted step holds in every state reached. -/
theorem Reaches.invariant (Inv : State Thread Mutex Memory Instr → Prop) (initially : Inv start)
    (kept : ∀ before turn after, Inv before → permitted before turn →
      machine.step before turn = some after → Inv after)
    (reached : machine.Reaches permitted start state) : Inv state := by
  induction reached with
  | refl => exact initially
  | step _ allowed stepped ih =>
      exact kept _ _ _ ih allowed stepped

theorem Reaches.weaken {weaker : State Thread Mutex Memory Instr → Turn Thread Choice → Prop}
    (weaken : ∀ before turn, permitted before turn → weaker before turn)
    (reached : machine.Reaches permitted start state) : machine.Reaches weaker start state := by
  induction reached with
  | refl => exact .refl
  | step _ allowed stepped ih =>
      exact .step ih (weaken _ _ allowed) stepped

/-- Follow a schedule; `none`: a turn is impossible, or `check` refuses it. -/
def play (machine : Machine Thread Choice Mutex Memory Instr)
    (check : State Thread Mutex Memory Instr → Turn Thread Choice → Bool) :
    List (Turn Thread Choice) → State Thread Mutex Memory Instr →
      Option (State Thread Mutex Memory Instr)
  | [], state => some state
  | turn :: rest, state =>
      if check state turn then
        match machine.step state turn with
        | some after => play machine check rest after
        | none => none
      else
        none

theorem play_reaches {check : State Thread Mutex Memory Instr → Turn Thread Choice → Bool}
    (sound : ∀ state turn, check state turn = true → permitted state turn)
    {turns : List (Turn Thread Choice)} {after : State Thread Mutex Memory Instr}
    (reached : machine.Reaches permitted start state)
    (played : play machine check turns state = some after) :
    machine.Reaches permitted start after := by
  induction turns generalizing state with
  | nil =>
      cases played
      exact reached
  | cons turn rest ih =>
      simp only [play] at played
      split at played
      · rename_i allowed
        split at played
        · rename_i middle stepped
          exact ih (reached.step (sound _ _ allowed) stepped) played
        · cases played
      · cases played

/-- A schedule of permitted turns shows that a state with a property is reached. -/
theorem exists_reached (machine : Machine Thread Choice Mutex Memory Instr)
    (permitted : State Thread Mutex Memory Instr → Turn Thread Choice → Prop)
    [∀ state turn, Decidable (permitted state turn)]
    (start : State Thread Mutex Memory Instr) (turns : List (Turn Thread Choice))
    (Property : State Thread Mutex Memory Instr → Prop) [DecidablePred Property]
    (played : (play machine (fun state turn => decide (permitted state turn)) turns start).any
      (fun state => decide (Property state)) = true) :
    ∃ state, machine.Reaches permitted start state ∧ Property state := by
  obtain ⟨state, followed, holds⟩ := (Option.any_eq_true _ _).mp played
  have sound : ∀ state turn, decide (permitted state turn) = true → permitted state turn :=
    fun _ _ allowed => of_decide_eq_true allowed
  exact ⟨state, play_reaches sound .refl followed, of_decide_eq_true holds⟩

end Steps

/-! ## What is on the stacks -/

section Stacks

variable {state : State Thread Mutex Memory Instr} {thread other : Thread} {mutex : Mutex}
  {mode : Mode} {body instr : Instr} {rest : List (Command Mutex Instr)}
  {Property : Instr → Prop}

/-- The stack of a thread has a command for an instruction with a property. -/
def State.Has (state : State Thread Mutex Memory Instr) (thread : Thread)
    (Property : Instr → Prop) : Prop :=
  ∃ command ∈ state.stack thread, command.For Property

omit [DecidableEq Thread] [DecidableEq Mutex] in
theorem State.Has.weaken {stronger weaker : Instr → Prop} (has : state.Has thread stronger)
    (weaken : ∀ instr, stronger instr → weaker instr) : state.Has thread weaker := by
  obtain ⟨command, member, holds⟩ := has
  refine ⟨command, member, ?_⟩
  cases command with
  | todo statement => exact weaken _ holds
  | unlock mutex mode => exact holds

theorem has_enter (top : state.stack thread = .todo (.guarded mutex mode body) :: rest) :
    (enter state thread mutex mode body rest).Has other Property ↔ state.Has other Property := by
  by_cases own : other = thread
  · subst own
    simp [State.Has, enter, top, Statement.instr]
  · simp [State.Has, enter, own]

theorem has_leave (top : state.stack thread = .unlock mutex mode :: rest) :
    (leave state thread mutex mode rest).Has other Property ↔ state.Has other Property := by
  by_cases own : other = thread
  · subst own
    simp [State.Has, leave, top]
  · simp [State.Has, leave, own]

omit [DecidableEq Mutex] in
/-- What a thread has to do after an instruction was given to it or was there. -/
theorem has_proceed {memory : Memory} {pushed : List (Statement Mutex Instr)}
    (top : state.stack thread = .todo (.act instr) :: rest)
    (has : (proceed state thread memory pushed rest).Has other Property) :
    (other = thread ∧ Pushes pushed Property) ∨ state.Has other Property := by
  obtain ⟨command, member, holds⟩ := has
  by_cases own : other = thread
  · subst own
    simp only [proceed, update_self, List.mem_append, List.mem_map] at member
    obtain ⟨statement, isPushed, rfl⟩ | below := member
    · exact .inl ⟨rfl, statement, isPushed, holds⟩
    · refine .inr ⟨command, ?_, holds⟩
      rw [top]
      exact List.mem_cons_of_mem _ below
  · simp only [proceed, update_of_ne own] at member
    exact .inr ⟨command, member, holds⟩

omit [DecidableEq Thread] [DecidableEq Mutex] in
theorem has_top (top : state.stack thread = .todo (.act instr) :: rest)
    (holds : Property instr) : state.Has thread Property := by
  refine ⟨.todo (.act instr), ?_, holds⟩
  rw [top]
  exact List.mem_cons_self

/-- A command of a stack that was lengthened is a new one or one below. -/
theorem split_of_append {Item : Type} {new below before behind : List Item} {item : Item}
    (split : new ++ below = before ++ item :: behind) :
    (∃ middle, new = before ++ item :: middle ∧ behind = middle ++ below) ∨
      ∃ middle, before = new ++ middle ∧ below = middle ++ item :: behind := by
  obtain ⟨middle, isBefore, isBelow⟩ | ⟨middle, isNew, isBehind⟩ :=
    List.append_eq_append_iff.mp split
  · exact .inr ⟨middle, isBefore, isBelow⟩
  · cases middle with
    | nil => exact .inr ⟨[], by simpa using isNew.symm, isBehind.symm⟩
    | cons first middle =>
        cases isBehind
        exact .inl ⟨middle, isNew, rfl⟩

end Stacks

/-! ## Who holds what -/

section Holders

variable {machine : Machine Thread Choice Mutex Memory Instr}
  {permitted : State Thread Mutex Memory Instr → Turn Thread Choice → Prop}
  {start state after : State Thread Mutex Memory Instr}

/-- How often a stack gives up a lock of a mutex. -/
def unlocks (mutex : Mutex) (mode : Mode) : List (Command Mutex Instr) → Nat
  | [] => 0
  | .todo _ :: rest => unlocks mutex mode rest
  | .unlock other kind :: rest =>
      (if (other, kind) = (mutex, mode) then 1 else 0) + unlocks mutex mode rest

theorem unlocks_todo (mutex : Mutex) (mode : Mode) (pushed : List (Statement Mutex Instr))
    (rest : List (Command Mutex Instr)) :
    unlocks mutex mode (pushed.map .todo ++ rest) = unlocks mutex mode rest := by
  induction pushed with
  | nil => rfl
  | cons statement pushed ih => exact ih

variable {mutex : Mutex} {mode : Mode}

theorem unlocks_pos {stack : List (Command Mutex Instr)} :
    0 < unlocks mutex mode stack ↔ .unlock mutex mode ∈ stack := by
  induction stack with
  | nil => simp [unlocks]
  | cons command rest ih =>
      cases command with
      | todo statement => simp [unlocks, ih]
      | unlock other kind =>
          by_cases same : (other, kind) = (mutex, mode)
          · obtain ⟨rfl, rfl⟩ := Prod.mk.inj same
            have closes : 0 < unlocks other kind (.unlock other kind :: rest) := by
              rw [unlocks, if_pos rfl]
              exact Nat.lt_of_lt_of_le Nat.one_pos (Nat.le_add_right _ _)
            exact iff_of_true closes List.mem_cons_self
          · have distinct : ¬ (mutex = other ∧ mode = kind) := by
              rintro ⟨rfl, rfl⟩
              exact same rfl
            simp [unlocks, same, distinct, ih]

/-- Every lock that is held is given up by the stack of its holder, and no other. -/
def Accounted (state : State Thread Mutex Memory Instr) : Prop := ∀ thread mutex mode,
    (state.holders mutex).count (thread, mode) = unlocks mutex mode (state.stack thread)

/-- A mutex that is held exclusively is held by one thread only. -/
def Exclusive (state : State Thread Mutex Memory Instr) : Prop :=
  ∀ mutex thread holder, (thread, .exclusive) ∈ state.holders mutex →
    holder ∈ state.holders mutex → holder.1 = thread

variable {turn : Turn Thread Choice}

theorem Accounted.step (accounted : Accounted state)
    (stepped : machine.step state turn = some after) : Accounted after := by
  intro thread mutex mode
  have before := accounted thread mutex mode
  obtain ⟨instr, rest, memory, pushed, top, -, rfl⟩ |
    ⟨locked, kind, body, rest, top, -, rfl⟩ | ⟨locked, kind, rest, top, rfl⟩ :=
    machine.step_cases stepped
  · by_cases own : thread = turn.thread
    · subst own
      rw [top, unlocks] at before
      simpa [proceed, unlocks_todo] using before
    · simpa [proceed, own] using before
  · by_cases own : thread = turn.thread
    · subst own
      rw [top] at before
      by_cases same : mutex = locked
      · subst same
        by_cases sameMode : kind = mode
        · subst sameMode
          simpa [enter, unlocks, Nat.add_comm] using before
        · simpa [enter, unlocks, sameMode] using before
      · have distinct : ¬ locked = mutex := fun equal => same equal.symm
        simpa [enter, unlocks, same, distinct] using before
    · have distinct : ¬ turn.thread = thread := fun equal => own equal.symm
      by_cases same : mutex = locked
      · subst same
        simpa [enter, own, distinct, List.count_cons] using before
      · simpa [enter, own, same] using before
  · by_cases own : thread = turn.thread
    · subst own
      rw [top] at before
      by_cases same : mutex = locked
      · subst same
        by_cases sameMode : kind = mode
        · subst sameMode
          simp [leave, unlocks] at before ⊢
          omega
        · have distinct : (turn.thread, mode) ≠ (turn.thread, kind) := by
            simpa using fun equal => sameMode equal.symm
          simpa [leave, unlocks, sameMode, List.count_erase_of_ne distinct] using before
      · have distinct : ¬ locked = mutex := fun equal => same equal.symm
        simpa [leave, unlocks, same, distinct] using before
    · have distinct : (thread, mode) ≠ (turn.thread, kind) := by
        simpa using fun equal => absurd equal own
      by_cases same : mutex = locked
      · subst same
        simpa [leave, own, List.count_erase_of_ne distinct] using before
      · simpa [leave, own, same] using before

theorem Exclusive.step (exclusive : Exclusive state)
    (stepped : machine.step state turn = some after) : Exclusive after := by
  intro mutex thread holder owned held
  obtain ⟨instr, rest, memory, pushed, -, -, rfl⟩ |
    ⟨locked, kind, body, rest, -, may, rfl⟩ | ⟨locked, kind, rest, -, rfl⟩ :=
    machine.step_cases stepped
  · exact exclusive mutex thread holder owned held
  · by_cases same : mutex = locked
    · subst same
      rw [mayLock, List.all_eq_true] at may
      simp only [enter, update_self, List.mem_cons] at owned held
      obtain isNew | wasOwned := owned
      · obtain ⟨rfl, rfl⟩ := Prod.mk.inj isNew
        obtain rfl | wasHeld := held
        · rfl
        · have free := may _ wasHeld
          simp [blocks] at free
          exact free.2
      · obtain rfl | wasHeld := held
        · have free := may _ wasOwned
          simp [blocks] at free
          exact free.2.symm
        · exact exclusive mutex thread holder wasOwned wasHeld
    · simp only [enter, update_of_ne same] at owned held
      exact exclusive mutex thread holder owned held
  · by_cases same : mutex = locked
    · subst same
      simp only [leave, update_self] at owned held
      exact exclusive mutex thread holder (List.mem_of_mem_erase owned) (List.mem_of_mem_erase held)
    · simp only [leave, update_of_ne same] at owned held
      exact exclusive mutex thread holder owned held

/-- Threads that hold nothing and have nothing to give up. -/
structure Fresh (state : State Thread Mutex Memory Instr) : Prop where
  holders : ∀ mutex, state.holders mutex = []
  stack : ∀ thread mutex mode, .unlock mutex mode ∉ state.stack thread

theorem Fresh.accounted (fresh : Fresh start) : Accounted start := by
  intro thread mutex mode
  have none : ¬ 0 < unlocks mutex mode (start.stack thread) := fun some =>
    fresh.stack thread mutex mode (unlocks_pos.mp some)
  rw [fresh.holders]
  simp only [List.count_nil]
  omega

/-- A thread holds a mutex as long as its stack has it to give up. -/
theorem holds_iff (accounted : Accounted state) {thread : Thread} :
    (thread, mode) ∈ state.holders mutex ↔ .unlock mutex mode ∈ state.stack thread := by
  rw [← List.count_pos_iff, accounted, unlocks_pos]

/-! ## Instructions that need a mutex -/

/-- Below each instruction that needs the mutex, or around it, the mutex is given up. -/
def Covered (Needs : Instr → Prop) (mutex : Mutex) (mode : Mode) : List (Command Mutex Instr) → Prop
  | [] => True
  | .todo (.act instr) :: rest =>
      (Needs instr → .unlock mutex mode ∈ rest) ∧ Covered Needs mutex mode rest
  | .todo (.guarded other kind body) :: rest =>
      (Needs body → (other = mutex ∧ kind = mode) ∨ .unlock mutex mode ∈ rest) ∧
        Covered Needs mutex mode rest
  | .unlock _ _ :: rest => Covered Needs mutex mode rest

/-- An instruction that needs no mutex pushes none that does, unless it locks for it. -/
def Handed (machine : Machine Thread Choice Mutex Memory Instr) (Needs : Instr → Prop)
    (mutex : Mutex) (mode : Mode) : Prop :=
  ∀ thread choice memory instr result, machine.exec thread choice memory instr = some result →
      ∀ statement ∈ result.2, Needs statement.instr →
        Needs instr ∨ statement = .guarded mutex mode statement.instr

variable {Needs : Instr → Prop}

omit [DecidableEq Mutex] in
theorem Covered.push {pushed : List (Statement Mutex Instr)} {rest : List (Command Mutex Instr)}
    (covered : Covered Needs mutex mode rest)
    (handed : ∀ statement ∈ pushed, Needs statement.instr →
      .unlock mutex mode ∈ rest ∨ statement = .guarded mutex mode statement.instr) :
    Covered Needs mutex mode (pushed.map .todo ++ rest) := by
  induction pushed with
  | nil => exact covered
  | cons statement pushed ih =>
      have above := ih fun other member =>
        handed other (List.mem_cons_of_mem _ member)
      have own := handed statement List.mem_cons_self
      cases statement with
      | act instr =>
          refine ⟨fun needs => ?_, above⟩
          obtain below | guarded := own needs
          · exact List.mem_append_right _ below
          · cases guarded
      | guarded other kind body =>
          refine ⟨fun needs => ?_, above⟩
          obtain below | guarded := own needs
          · exact .inr (List.mem_append_right _ below)
          · simp only [Statement.guarded.injEq] at guarded
            exact .inl ⟨guarded.1, guarded.2.1⟩

theorem Covered.step (handed : machine.Handed Needs mutex mode)
    (covered : ∀ thread, Covered Needs mutex mode (state.stack thread))
    (stepped : machine.step state turn = some after) (thread : Thread) :
    Covered Needs mutex mode (after.stack thread) := by
  have before := covered thread
  obtain ⟨instr, rest, memory, pushed, top, executed, rfl⟩ |
    ⟨locked, kind, body, rest, top, -, rfl⟩ | ⟨locked, kind, rest, top, rfl⟩ :=
    machine.step_cases stepped
  · by_cases own : thread = turn.thread
    · subst own
      rw [top] at before
      simp only [proceed, update_self]
      apply Covered.push before.2
      intro statement member needs
      obtain needed | guarded := handed _ _ _ _ _ executed statement member needs
      · exact .inl (before.1 needed)
      · exact .inr guarded
    · simpa [proceed, own] using before
  · by_cases own : thread = turn.thread
    · subst own
      rw [top] at before
      simp only [enter, update_self]
      refine ⟨fun needs => ?_, before.2⟩
      obtain ⟨rfl, rfl⟩ | below := before.1 needs
      · exact List.mem_cons_self
      · exact List.mem_cons_of_mem _ below
    · simpa [enter, own] using before
  · by_cases own : thread = turn.thread
    · subst own
      rw [top, Covered] at before
      simpa [leave] using before
    · simpa [leave, own] using before

omit [DecidableEq Mutex] in
theorem Covered.unlock_mem {stack : List (Command Mutex Instr)} {instr : Instr}
    (covered : Covered Needs mutex mode stack) (member : .todo (.act instr) ∈ stack)
    (needs : Needs instr) : .unlock mutex mode ∈ stack := by
  induction stack with
  | nil => cases member
  | cons command rest ih =>
      obtain rfl | below := List.mem_cons.mp member
      · exact List.mem_cons_of_mem _ (covered.1 needs)
      · apply List.mem_cons_of_mem
        apply ih _ below
        rcases command with ⟨_ | _⟩ | _
        · exact covered.2
        · exact covered.2
        · exact covered

/-! ## Locks under which nothing is locked -/

/-- Above a lock of a leaf there is only what is done under it, and nothing that locks. -/
def Leaf (Inner : Instr → Prop) (IsLeaf : Mutex → Prop) (stack : List (Command Mutex Instr)) :
    Prop :=
  ∀ before mutex mode behind, IsLeaf mutex → stack = before ++ .unlock mutex mode :: behind →
    ∀ command ∈ before, ∃ instr, command = .todo (.act instr) ∧ Inner instr

theorem Leaf.step {Inner : Instr → Prop} {IsLeaf : Mutex → Prop} {thread : Thread}
    (leaf : Leaf Inner IsLeaf (state.stack thread)) (stepped : machine.step state turn = some after)
    (pushes : ∀ choice memory instr result, Inner instr →
      machine.exec thread choice memory instr = some result →
        ∀ statement ∈ result.2, ∃ inner, statement = .act inner ∧ Inner inner)
    (bodies : ∀ mutex mode body, .todo (.guarded mutex mode body) ∈ state.stack thread →
      IsLeaf mutex → Inner body) :
    Leaf Inner IsLeaf (after.stack thread) := by
  intro before mutex mode behind isLeaf split command member
  by_cases own : thread = turn.thread
  · subst own
    obtain ⟨instr, rest, memory, pushed, top, executed, rfl⟩ |
      ⟨locked, kind, body, rest, top, -, rfl⟩ | ⟨locked, kind, rest, top, rfl⟩ :=
      machine.step_cases stepped
    · have isAfter : pushed.map Command.todo ++ rest = before ++ .unlock mutex mode :: behind := by
        simpa [proceed] using split
      obtain ⟨middle, isNew, -⟩ | ⟨middle, rfl, isBelow⟩ := split_of_append isAfter
      · have isPushed : .unlock mutex mode ∈ pushed.map Command.todo := by
          rw [isNew]
          simp
        simp at isPushed
      · have above := leaf (.todo (.act instr) :: middle) mutex mode behind isLeaf
          (by rw [top, isBelow]; rfl)
        obtain isPushed | below := List.mem_append.mp member
        · obtain ⟨other, same, inner⟩ := above _ List.mem_cons_self
          cases same
          obtain ⟨statement, statementPushed, rfl⟩ := List.mem_map.mp isPushed
          obtain ⟨pushedInstr, rfl, pushedInner⟩ :=
            pushes _ _ _ _ inner executed statement statementPushed
          exact ⟨pushedInstr, rfl, pushedInner⟩
        · exact above command (List.mem_cons_of_mem _ below)
    · have entered : [Command.todo (.act body), .unlock locked kind] ++ rest =
          before ++ .unlock mutex mode :: behind := by
        simpa [enter] using split
      obtain ⟨middle, isNew, -⟩ | ⟨middle, rfl, isBelow⟩ := split_of_append entered
      · cases before with
        | nil => cases member
        | cons first before =>
            obtain ⟨rfl, isNew⟩ := List.cons.inj isNew
            cases before with
            | nil =>
                cases isNew
                obtain rfl := List.mem_singleton.mp member
                exact ⟨body, rfl, bodies mutex mode body (by simp [top]) isLeaf⟩
            | cons second before => simp at isNew
      · obtain ⟨other, same, -⟩ := leaf (.todo (.guarded locked kind body) :: middle) mutex mode
          behind isLeaf (by rw [top, isBelow]; rfl) _ List.mem_cons_self
        cases same
    · have left : rest = before ++ .unlock mutex mode :: behind := by
        simpa [leave] using split
      obtain ⟨other, same, -⟩ := leaf (.unlock locked kind :: before) mutex mode behind isLeaf
        (by rw [top, left]; rfl) _ List.mem_cons_self
      cases same
  · have same : after.stack thread = state.stack thread := by
      obtain ⟨instr, rest, memory, pushed, -, -, rfl⟩ |
        ⟨locked, kind, body, rest, -, -, rfl⟩ | ⟨locked, kind, rest, -, rfl⟩ :=
        machine.step_cases stepped
      · simp [proceed, own]
      · simp [enter, own]
      · simp [leave, own]
    exact leaf before mutex mode behind isLeaf (same ▸ split) command member

end Holders

/-! ## Waiting -/

section Waiting

variable (machine : Machine Thread Choice Mutex Memory Instr)
  (state : State Thread Mutex Memory Instr)

/-- The lock that a stack goes on with. -/
def nextLock : List (Command Mutex Instr) → Option (Mutex × Mode)
  | .todo (.guarded mutex mode _) :: _ => some (mutex, mode)
  | _ => none

omit [DecidableEq Thread] [DecidableEq Mutex] in
theorem nextLock_eq {stack : List (Command Mutex Instr)} {mutex : Mutex} {mode : Mode}
    (isNext : nextLock stack = some (mutex, mode)) :
    ∃ body rest, stack = .todo (.guarded mutex mode body) :: rest := by
  rw [nextLock.eq_def] at isNext
  split at isNext
  · cases isNext
    exact ⟨_, _, rfl⟩
  · cases isNext

/-- One thread waits for a mutex that another holds. -/
def Waits (thread other : Thread) : Prop :=
  ∃ lock ∈ nextLock (state.stack thread), ∃ holder ∈ state.holders lock.1,
    holder.1 = other ∧ machine.blocks thread lock.1 lock.2 holder = true

instance (thread other : Thread) : Decidable (machine.Waits state thread other) :=
  inferInstanceAs (Decidable (∃ lock ∈ nextLock (state.stack thread),
    ∃ holder ∈ state.holders lock.1,
      holder.1 = other ∧ machine.blocks thread lock.1 lock.2 holder = true))

variable {thread : Thread}

variable {other : Thread}

omit [DecidableEq Mutex] in
/-- The lock that a thread waits for, and the one that is in its way. -/
theorem Waits.lock (waits : machine.Waits state thread other) :
    ∃ mutex mode kind, nextLock (state.stack thread) = some (mutex, mode) ∧
      (other, kind) ∈ state.holders mutex ∧
        machine.blocks thread mutex mode (other, kind) = true := by
  obtain ⟨⟨mutex, mode⟩, isNext, ⟨holder, kind⟩, held, rfl, blocked⟩ := waits
  exact ⟨mutex, mode, kind, isNext, held, blocked⟩

/-- Threads wait for each other in a cycle. -/
def Deadlocked : Prop := ∃ thread, Relation.TransGen (machine.Waits state) thread thread

variable {machine state}

omit [DecidableEq Mutex] in
/-- Each thread that a cycle leads to waits for one that it leads to. -/
theorem waits_of_cycle (cycle : Relation.TransGen (machine.Waits state) thread thread)
    (member : Relation.ReflTransGen (machine.Waits state) other thread) :
    ∃ next, machine.Waits state other next ∧
      Relation.ReflTransGen (machine.Waits state) next thread := by
  have onward : Relation.TransGen (machine.Waits state) other thread :=
    Relation.TransGen.trans_right member cycle
  obtain ⟨next, waits, rest⟩ := Relation.TransGen.head'_iff.mp onward
  exact ⟨next, waits, rest⟩

omit [DecidableEq Mutex] in
/-- Nobody who holds a leaf waits. -/
theorem Leaf.not_waits {Inner : Instr → Prop} {IsLeaf : Mutex → Prop}
    (leaf : Leaf Inner IsLeaf (state.stack thread)) {mutex : Mutex} {mode : Mode}
    (isLeaf : IsLeaf mutex) (held : .unlock mutex mode ∈ state.stack thread) :
    ¬ machine.Waits state thread other := by
  intro waits
  obtain ⟨wanted, kind, -, isNext, -⟩ := waits.lock
  obtain ⟨body, rest, top⟩ := nextLock_eq isNext
  obtain ⟨before, behind, split⟩ := List.append_of_mem held
  rw [top] at split
  cases before with
  | nil => cases split
  | cons first before =>
      obtain ⟨rfl, -⟩ := List.cons.inj split
      obtain ⟨instr, same, -⟩ := leaf _ mutex mode behind isLeaf
        (top.trans split) _ List.mem_cons_self
      cases same

omit [DecidableEq Mutex] in
/-- Two threads that wait for each other. -/
theorem deadlocked_of_pair (waits : machine.Waits state thread other)
    (back : machine.Waits state other thread) : machine.Deadlocked state :=
  ⟨thread, .tail (.single waits) back⟩

end Waiting

end Machine

end Locking
