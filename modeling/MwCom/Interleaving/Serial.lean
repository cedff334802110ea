/-
Module: MwCom.Interleaving.Serial
Purpose: Programs of a single thread amid what others do to memory between its
  operations, and what its calls keep.
Trusted boundary: none
Main exports: Surroundings, Program.Ensures, Program.Ensures.bind, Program.Amid,
  serialSystem, serial_run, SerialHolds.performs
-/
import Mathlib.Logic.Relation
import MwCom.Interleaving.System

namespace Interleaving

open Relation (ReflTransGen)

variable {Op : Type} {Ret : Op → Type} {Memory α β : Type}

/-- What a program meets: the outcomes of its operations, what others do to memory at
any time, the answers that are considered, and the operations that it may perform. -/
structure Surroundings (Op : Type) (Ret : Op → Type) (Memory : Type) where
  outcomes : (op : Op) → Memory → List (Ret op × Memory)
  moves : Memory → Memory → Prop
  allows : (op : Op) → Ret op → Prop
  may : Op → Prop

/-- Others do not invalidate it. -/
def Surroundings.Stable (around : Surroundings Op Ret Memory) (Holds : Memory → Prop) : Prop :=
  ∀ before after, around.moves before after → Holds before → Holds after

variable {around : Surroundings Op Ret Memory}

theorem Surroundings.Stable.star {Holds : Memory → Prop} (stable : around.Stable Holds)
    {before after : Memory} (moved : ReflTransGen around.moves before after)
    (holds : Holds before) :
    Holds after := by
  induction moved with
  | refl => exact holds
  | tail _ move ih => exact stable _ _ move ih

theorem Surroundings.Stable.and {One Two : Memory → Prop} (one : around.Stable One)
    (two : around.Stable Two) :
    around.Stable fun memory => One memory ∧ Two memory :=
  fun before after move holds =>
    ⟨one before after move holds.1, two before after move holds.2⟩

/-- What is not about memory stays as it is. -/
theorem Surroundings.Stable.and_fact {Holds : Memory → Prop} (stable : around.Stable Holds)
    (fact : Prop) :
    around.Stable fun memory => Holds memory ∧ fact :=
  fun before after move holds => ⟨stable before after move holds.1, holds.2⟩

namespace Program

/-- Whatever others do between the operations, the program performs only operations
that it may perform, and `post` holds when it ends. -/
def Ensures (around : Surroundings Op Ret Memory) :
    Program Op Ret α → Memory → (α → Memory → Prop) → Prop
  | .done result, memory, post =>
      ∀ later, ReflTransGen around.moves memory later → post result later
  | .step op next, memory, post =>
      ∀ later, ReflTransGen around.moves memory later → around.may op ∧
          ∀ answer after, (answer, after) ∈ around.outcomes op later →
            around.allows op answer → (next answer).Ensures around after post

namespace Ensures

variable {around : Surroundings Op Ret Memory} {memory after : Memory}

variable {program : Program Op Ret α} {post : α → Memory → Prop}

/-- A move of others takes nothing away. -/
theorem moved (ensured : program.Ensures around memory post) (move : around.moves memory after) :
    program.Ensures around after post := by
  cases program with
  | done result | step op next =>
      intro later laterMoves
      exact ensured later (.head move laterMoves)

/-- A weaker postcondition is ensured too. -/
theorem mono {weaker : α → Memory → Prop} (ensured : program.Ensures around memory post)
    (weaken : ∀ result later, post result later → weaker result later) :
    program.Ensures around memory weaker := by
  induction program generalizing memory with
  | done result =>
      intro later laterMoves
      exact weaken result later (ensured later laterMoves)
  | step op next ih =>
      intro later laterMoves
      constructor
      · exact (ensured later laterMoves).1
      · intro answer between outcome allowed
        exact ih answer ((ensured later laterMoves).2 answer between outcome allowed)

/-- A result without operations, where the postcondition is stable. -/
theorem done {result : α} (stable : around.Stable (post result)) (holds : post result memory) :
    (Program.done result : Program Op Ret α).Ensures around memory post :=
  fun _ moves => stable.star moves holds

/-- One operation, from a stable precondition. -/
theorem perform {op : Op} {next : Ret op → Program Op Ret α} (Pre : Memory → Prop)
    (stable : around.Stable Pre) (holds : Pre memory) (may : around.may op)
    (continued : ∀ before answer after, Pre before →
      (answer, after) ∈ around.outcomes op before → around.allows op answer →
        (next answer).Ensures around after post) :
    (Program.perform op >>= next).Ensures around memory post := by
  intro later moves
  constructor
  · exact may
  · intro answer between outcome allowed
    exact continued later answer between (stable.star moves holds) outcome allowed

/-- What the operations of a program keep, the program ensures. -/
theorem of_performs {allowed : Op → Prop} {Kept : Memory → Prop}
    (performs : program.Performs allowed) (stable : around.Stable Kept)
    (may : ∀ op, allowed op → around.may op)
    (keeps : ∀ op before answer after, allowed op → around.allows op answer →
      (answer, after) ∈ around.outcomes op before → Kept before → Kept after)
    (kept : Kept memory) : program.Ensures around memory fun _ => Kept := by
  induction program generalizing memory with
  | done result => exact .done stable kept
  | step op next ih =>
      intro later moves
      constructor
      · exact may op performs.1
      · intro answer between outcome allowed
        apply ih answer (performs.2 answer)
        exact keeps op later answer between performs.1 allowed outcome (stable.star moves kept)

/-- A program that is read over a larger signature. -/
theorem lift {Op' : Type} {Ret' : Op' → Type} {around' : Surroundings Op' Ret' Memory}
    {inject : Op → Op'} {answer : ∀ op, Ret' (inject op) → Ret op}
    (moves : around'.moves = around.moves) (may : ∀ op, around.may op → around'.may (inject op))
    (outcomes : ∀ op memory reply after, around'.allows (inject op) reply →
      (reply, after) ∈ around'.outcomes (inject op) memory → around.allows op (answer op reply) ∧
          (answer op reply, after) ∈ around.outcomes op memory)
    (ensured : program.Ensures around memory post) :
    (program.lift inject answer).Ensures around' memory post := by
  induction program generalizing memory with
  | done result =>
      intro later laterMoves
      rw [moves] at laterMoves
      exact ensured later laterMoves
  | step op next ih =>
      intro later laterMoves
      rw [moves] at laterMoves
      constructor
      · exact may op (ensured later laterMoves).1
      · intro reply between allowed outcome
        obtain ⟨allowedBelow, outcomeBelow⟩ := outcomes op later reply between outcome allowed
        exact ih (answer op reply)
          ((ensured later laterMoves).2 (answer op reply) between outcomeBelow allowedBelow)

/-- A program that is read over a larger memory, of which it leaves `Frame` alone. -/
theorem lift_over {Op' Memory' : Type} {Ret' : Op' → Type}
    {around' : Surroundings Op' Ret' Memory'} (inject : Op → Op')
    (answer : ∀ op, Ret' (inject op) → Ret op) (view : Memory' → Memory) (Frame : Memory' → Prop)
    (moves : ∀ before after, around'.moves before after → Frame before →
      around.moves (view before) (view after) ∧ Frame after)
    (may : ∀ op, around.may op → around'.may (inject op))
    (outcomes : ∀ op memory reply after, Frame memory →
      around'.allows (inject op) reply → (reply, after) ∈ around'.outcomes (inject op) memory →
        around.allows op (answer op reply) ∧
          (answer op reply, view after) ∈ around.outcomes op (view memory) ∧ Frame after)
    {memory : Memory'} (frame : Frame memory)
    (ensured : program.Ensures around (view memory) post) :
    (program.lift inject answer).Ensures around' memory
      fun result later => post result (view later) ∧ Frame later := by
  have star : ∀ before later, ReflTransGen around'.moves before later → Frame before →
      ReflTransGen around.moves (view before) (view later) ∧ Frame later := by
    intro before later laterMoves framed
    induction laterMoves with
    | refl => exact ⟨.refl, framed⟩
    | tail _ move ih =>
        have moved := moves _ _ move ih.2
        exact ⟨ih.1.tail moved.1, moved.2⟩
  induction program generalizing memory with
  | done result =>
      intro later laterMoves
      obtain ⟨below, kept⟩ := star memory later laterMoves frame
      exact ⟨ensured (view later) below, kept⟩
  | step op next ih =>
      intro later laterMoves
      obtain ⟨below, kept⟩ := star memory later laterMoves frame
      constructor
      · exact may op (ensured (view later) below).1
      · intro reply between outcome allowed
        obtain ⟨allowedBelow, outcomeBelow, keptBetween⟩ :=
          outcomes op later reply between kept allowed outcome
        exact ih (answer op reply) keptBetween
          ((ensured (view later) below).2 (answer op reply) (view between) outcomeBelow
            allowedBelow)

/-- Sequential composition. -/
theorem bind {first : Program Op Ret α} {rest : α → Program Op Ret β}
    {middle : α → Memory → Prop} {post : β → Memory → Prop}
    (ensured : first.Ensures around memory middle)
    (continued : ∀ result later, middle result later → (rest result).Ensures around later post) :
    (first >>= rest).Ensures around memory post := by
  induction first generalizing memory with
  | done result => exact continued result memory (ensured memory .refl)
  | step op next ih =>
      intro later moves
      constructor
      · exact (ensured later moves).1
      · intro answer between outcome allowed
        exact ih answer ((ensured later moves).2 answer between outcome allowed)

end Ensures

/-- The program has run to its end, while others did to memory what they do. -/
inductive Amid (around : Surroundings Op Ret Memory) :
    Program Op Ret α → Memory → α → Memory → Prop where
  | done {result : α} {memory later : Memory} (moves : ReflTransGen around.moves memory later) :
      Amid around (.done result) memory result later
  | step {op : Op} {next : Ret op → Program Op Ret α} {memory before after later : Memory}
      {answer : Ret op} {result : α} (moves : ReflTransGen around.moves memory before)
      (outcome : (answer, after) ∈ around.outcomes op before) (allowed : around.allows op answer)
      (rest : Amid around (next answer) after result later) :
      Amid around (.step op next) memory result later

variable {around : Surroundings Op Ret Memory} {program : Program Op Ret α}

/-- What is ensured holds at the end. -/
theorem Ensures.amid {memory later : Memory} {result : α} {post : α → Memory → Prop}
    (ensured : program.Ensures around memory post)
    (ended : program.Amid around memory result later) : post result later := by
  induction ended with
  | done moves => exact ensured _ moves
  | step moves outcome allowed _ ih =>
      exact ih ((ensured _ moves).2 _ _ outcome allowed)

/-- What is always returned is returned at the end. -/
theorem Returns.amid {memory later : Memory} {result : α} {post : α → Prop}
    (returns : program.Returns post) (ended : program.Amid around memory result later) :
    post result := by
  induction ended with
  | done => exact returns
  | step _ _ _ _ ih => exact ih (returns _)

/-- A program that runs alone is one that nobody disturbs. -/
theorem amid_of_runAlone (allowed : ∀ op answer, around.allows op answer) {memory later : Memory}
    {result : α} (ran : program.runAlone around.outcomes memory = some (result, later)) :
    program.Amid around memory result later := by
  induction program generalizing memory with
  | done returned =>
      cases ran
      exact .done .refl
  | step op next ih =>
      rw [runAlone] at ran
      split at ran
      · cases ran
      · rename_i answer after others isOutcomes
        apply Amid.step .refl _ (allowed op answer) (ih answer ran)
        rw [isOutcomes]
        exact List.mem_cons_self

end Program

/-! ## Systems of one thread -/

variable {Object Call Reply : Type}

/-- A single thread whose object is what its calls return. -/
def serialSystem (outcomes : (op : Op) → Memory → List (Ret op × Memory))
    (mayCall : Object → Call → Prop) (code : Object → Call → Program Op Ret Object)
    (environment : Memory → Memory → Prop) :
    System Unit Op Ret Memory Object Call Object where
  outcomes := outcomes
  mayCall _ := mayCall
  code _ := code
  onCall _ _ object _ := object
  observe _ _ object _ _ := object
  onReturn _ _ _ _ reply := reply
  onCrash _ _ _ := none
  environment := environment

section Decidable

variable (outcomes : (op : Op) → Memory → List (Ret op × Memory))
  (mayCall : Object → Call → Prop) (code : Object → Call → Program Op Ret Object)
  (environment : Memory → Memory → Prop)

instance serialSystem_mayCall [∀ object call, Decidable (mayCall object call)]
    (thread : Unit) (object : Object) (call : Call) :
    Decidable ((serialSystem outcomes mayCall code environment).mayCall thread object call) :=
  inferInstanceAs (Decidable (mayCall object call))

instance serialSystem_environment [∀ before after, Decidable (environment before after)]
    (before after : Memory) :
    Decidable ((serialSystem outcomes mayCall code environment).environment before after) :=
  inferInstanceAs (Decidable (environment before after))

end Decidable

/-- What holds between two calls, and what is ensured by the rest of a running one. -/
structure SerialHolds (around : Surroundings Op Ret Memory)
    (Inv : Memory → Object → Prop)
    (config : Config Unit Op Ret Memory Object Call Object) : Prop where
  idle : config.activity () = .idle → Inv config.memory (config.object ())
  running : ∀ call rest, config.activity () = .running call rest →
    rest.Ensures around config.memory fun reply memory => Inv memory reply

variable {outcomes : (op : Op) → Memory → List (Ret op × Memory)}
  {mayCall : Object → Call → Prop} {code : Object → Call → Program Op Ret Object}
  {environment : Memory → Memory → Prop}
  {permitted : Config Unit Op Ret Memory Object Call Object →
    Event Unit Op Ret Call Object → Prop}
  {allows : (op : Op) → Ret op → Prop} {may : Op → Prop}
  {start config : Config Unit Op Ret Memory Object Call Object}

/-- An invariant that others leave alone and that every call ensures holds between the
calls of every run. -/
theorem serial_run (Inv : Memory → Object → Prop)
    (allowed : ∀ config op answer, permitted config (.perform () op answer) → allows op answer)
    (stable : ∀ object before after, environment before after → Inv before object →
      Inv after object)
    (calls : ∀ config call, Inv config.memory (config.object ()) →
      mayCall (config.object ()) call → permitted config (.call () call) →
        (code (config.object ()) call).Ensures ⟨outcomes, environment, allows, may⟩
          config.memory fun reply memory => Inv memory reply)
    (initially : Inv start.memory (start.object ())) (idle : start.activity () = .idle)
    (reached : Reaches (serialSystem outcomes mayCall code environment) permitted start config) :
    SerialHolds ⟨outcomes, environment, allows, may⟩ Inv config := by
  induction reached with
  | refl =>
      constructor
      · intro _
        exact initially
      · intro call rest running
        rw [idle] at running
        cases running
  | @step middle after event reached permits step ih =>
      cases step with
      | @call thread call isIdle mayCall =>
          constructor
          · intro stillIdle
            rw [Config.update_activity_self] at stillIdle
            cases stillIdle
          · intro other rest running
            rw [Config.update_activity_self] at running
            cases running
            exact calls middle call (ih.idle isIdle) mayCall permits
      | @perform thread call op next answer memory running outcome =>
          constructor
          · intro stillIdle
            rw [Config.update_activity_self] at stillIdle
            cases stillIdle
          · intro other rest runs
            rw [Config.update_activity_self] at runs
            cases runs
            have ensured := ih.running call _ running
            exact (ensured middle.memory .refl).2 answer memory outcome
              (allowed middle op answer permits)
      | @finish thread call reply running =>
          constructor
          · intro _
            rw [Config.update_object_self]
            exact ih.running call _ running middle.memory .refl
          · intro other rest runs
            rw [Config.update_activity_self] at runs
            cases runs
      | @crash thread object killed => cases killed
      | environment moved =>
          constructor
          · intro stillIdle
            exact stable _ _ _ moved (ih.idle stillIdle)
          · intro call rest running
            exact (ih.running call rest running).moved moved

/-- No operation is performed that may not be. -/
theorem SerialHolds.performs {Inv : Memory → Object → Prop}
    (holds : SerialHolds around Inv config) {call : Call} {op : Op}
    {next : Ret op → Program Op Ret Object}
    (running : config.activity () = .running call (.step op next)) : around.may op :=
  (holds.running call _ running config.memory .refl).1

end Interleaving
