/-
Module: MwCom.Interleaving.Program
Purpose: Finite programs over a signature of indivisible operations, the ways
  they end when they run alone, and a small logic for what a program may do
  from one view of the shared state.
Trusted boundary: none
Main exports: Program, Program.Ends, Program.EndsOnly, Program.runAlone,
  Program.Performs, Program.Returns, Program.Yields, Program.Completes, Rules, Program.Respects, Program.Respects.bind, Program.Respects.mono
-/
import Mathlib.Logic.Function.Basic

namespace Interleaving

instance neZeroOne : @NeZero Nat Zero.ofOfNat0 1 := ⟨Nat.one_ne_zero⟩

instance neZeroTwo : @NeZero Nat Zero.ofOfNat0 2 := ⟨Nat.succ_ne_zero 1⟩

/-- A finite program over the indivisible operations `Op`.  `Ret op` is the
type of the answer of `op`; the rest of the program is chosen by that answer. -/
inductive Program (Op : Type) (Ret : Op → Type) (α : Type) where
  | done (result : α)
  | step (op : Op) (next : Ret op → Program Op Ret α)

namespace Program

variable {Op Op' : Type} {Ret : Op → Type} {Ret' : Op' → Type} {α β γ : Type}

/-- Run the first program, then the one chosen by its result. -/
def bind : Program Op Ret α → (α → Program Op Ret β) → Program Op Ret β
  | .done result, rest => rest result
  | .step op next, rest => .step op fun answer => (next answer).bind rest

instance : Monad (Program Op Ret) where
  pure := .done
  bind := bind

/-- The program that performs one operation and returns its answer. -/
def perform (op : Op) : Program Op Ret (Ret op) := .step op .done

/-- Read a program over one signature as a program over a larger one. -/
def lift (inject : Op → Op')
    (answer : ∀ op, Ret' (inject op) → Ret op) :
    Program Op Ret α → Program Op' Ret' α
  | .done result => .done result
  | .step op next =>
      .step (inject op) fun reply => (next (answer op reply)).lift inject answer

@[simp] theorem pure_eq_done (result : α) : (pure result : Program Op Ret α) = .done result := rfl

@[simp] theorem done_bind (result : α) (rest : α → Program Op Ret β) :
    (Program.done result >>= rest) = rest result := rfl

@[simp] theorem step_bind (op : Op) (next : Ret op → Program Op Ret α)
    (rest : α → Program Op Ret β) :
    (Program.step op next >>= rest) = .step op fun answer => next answer >>= rest := rfl

@[simp] theorem perform_bind (op : Op) (rest : Ret op → Program Op Ret β) :
    (perform op >>= rest) = .step op rest := rfl

/-! ## Running alone -/

/-- One way a program ends when no other thread moves between its operations:
its result, and the state it leaves. -/
def Ends {State : Type} (outcomes : (op : Op) → State → List (Ret op × State)) :
    Program Op Ret α → State → α → State → Prop
  | .done result, state, returned, after => returned = result ∧ after = state
  | .step op next, state, returned, after =>
      ∃ answer middle, (answer, middle) ∈ outcomes op state ∧
        (next answer).Ends outcomes middle returned after

section Ends

variable {State : Type} {outcomes : (op : Op) → State → List (Ret op × State)}
  {state after : State}

@[simp] theorem ends_done {result returned : α} :
    (Program.done result : Program Op Ret α).Ends outcomes state returned
        after ↔
      returned = result ∧ after = state := Iff.rfl

theorem ends_step {op : Op} {next : Ret op → Program Op Ret α} {returned : α} :
    (Program.step op next).Ends outcomes state returned after ↔
      ∃ answer middle, (answer, middle) ∈ outcomes op state ∧
        (next answer).Ends outcomes middle returned after := Iff.rfl

/-- Sequential composition runs the second program where the first ended. -/
theorem ends_bind {first : Program Op Ret α} {rest : α → Program Op Ret β} {returned : β} :
    (first >>= rest).Ends outcomes state returned after ↔
      ∃ result middle, first.Ends outcomes state result middle ∧
        (rest result).Ends outcomes middle returned after := by
  induction first generalizing state with
  | done result =>
      constructor
      · intro ends
        exact ⟨result, state, ⟨rfl, rfl⟩, ends⟩
      · rintro ⟨given, middle, ⟨rfl, rfl⟩, continued⟩
        exact continued
  | step op next ih =>
      simp only [step_bind, ends_step, ih]
      constructor
      · rintro ⟨answer, between, outcome, result, middle, ended, continued⟩
        exact ⟨result, middle, ⟨answer, between, outcome, ended⟩, continued⟩
      · rintro ⟨result, middle, ⟨answer, between, outcome, ended⟩, continued⟩
        exact ⟨answer, between, outcome, result, middle, ended, continued⟩

/-- All ways a program ends when it runs alone. -/
def runs (outcomes : (op : Op) → State → List (Ret op × State)) :
    Program Op Ret α → State → List (α × State)
  | .done result, state => [(result, state)]
  | .step op next, state =>
      (outcomes op state).flatMap fun outcome =>
        (next outcome.1).runs outcomes outcome.2

theorem mem_runs {program : Program Op Ret α} {returned : α} :
    (returned, after) ∈ program.runs outcomes state ↔
      program.Ends outcomes state returned after := by
  induction program generalizing state with
  | done result => simp [runs]
  | step op next ih =>
      rw [runs, ends_step, List.mem_flatMap]
      constructor
      · rintro ⟨⟨answer, middle⟩, outcome, member⟩
        exact ⟨answer, middle, outcome, ih answer |>.mp member⟩
      · rintro ⟨answer, middle, outcome, ends⟩
        exact ⟨(answer, middle), outcome, ih answer |>.mpr ends⟩

/-- The program ends in one way only. -/
def EndsOnly (outcomes : (op : Op) → State → List (Ret op × State))
    (program : Program Op Ret α) (state : State) (result : α) (after : State) :
    Prop :=
  ∀ returned reached, program.Ends outcomes state returned reached ↔
    returned = result ∧ reached = after

namespace EndsOnly

theorem done (result : α) :
    EndsOnly outcomes (.done result : Program Op Ret α) state result state :=
  fun _ _ => Iff.rfl

/-- An operation with one outcome. -/
theorem step {op : Op} {next : Ret op → Program Op Ret α} {result : α}
    {answer : Ret op} {middle : State} (single : outcomes op state = [(answer, middle)])
    (continued : EndsOnly outcomes (next answer) middle result after) :
    EndsOnly outcomes (.step op next) state result after := by
  intro returned reached
  rw [← continued returned reached, ends_step, single]
  constructor
  · rintro ⟨reply, between, member, ends⟩
    cases List.mem_singleton.mp member
    exact ends
  · intro ends
    exact ⟨answer, middle, List.mem_singleton_self _, ends⟩

/-- Sequential composition. -/
theorem bind {first : Program Op Ret α} {rest : α → Program Op Ret β}
    {given : α} {middle : State} {result : β} (ended : EndsOnly outcomes first state given middle)
    (continued : EndsOnly outcomes (rest given) middle result after) :
    EndsOnly outcomes (first >>= rest) state result after := by
  intro returned reached
  rw [← continued returned reached, ends_bind]
  constructor
  · rintro ⟨between, point, firstEnds, restEnds⟩
    obtain ⟨rfl, rfl⟩ := (ended between point).mp firstEnds
    exact restEnds
  · intro restEnds
    exact ⟨given, middle, (ended given middle).mpr ⟨rfl, rfl⟩, restEnds⟩

/-- The end is there. -/
theorem ends {program : Program Op Ret α} {result : α}
    (only : EndsOnly outcomes program state result after) :
    program.Ends outcomes state result after :=
  (only result after).mpr ⟨rfl, rfl⟩

end EndsOnly

/-- The first way a program ends when it runs alone; `none`: an operation has no
outcome. -/
def runAlone (outcomes : (op : Op) → State → List (Ret op × State)) :
    Program Op Ret α → State → Option (α × State)
  | .done result, state => some (result, state)
  | .step op next, state =>
      match outcomes op state with
      | [] => none
      | (answer, middle) :: _ => (next answer).runAlone outcomes middle

@[simp] theorem runAlone_done {result : α} :
    (Program.done result : Program Op Ret α).runAlone outcomes state = some (result, state) := rfl

/-- The first way is one of the ways. -/
theorem ends_of_runAlone {program : Program Op Ret α} {result : α}
    (ended : program.runAlone outcomes state = some (result, after)) :
    program.Ends outcomes state result after := by
  induction program generalizing state with
  | done given =>
      cases ended
      exact ⟨rfl, rfl⟩
  | step op next ih =>
      rw [runAlone] at ended
      cases found : outcomes op state with
      | nil =>
          rw [found] at ended
          cases ended
      | cons outcome others =>
          rw [found] at ended
          exact ⟨outcome.1, outcome.2, by simp [found], ih outcome.1 ended⟩

/-- An operation with one outcome. -/
theorem runAlone_step {op : Op} {next : Ret op → Program Op Ret α} {answer : Ret op}
    {middle : State} (single : outcomes op state = [(answer, middle)]) :
    (Program.step op next).runAlone outcomes state = (next answer).runAlone outcomes middle := by
  rw [runAlone, single]

/-- Sequential composition. -/
theorem runAlone_bind {first : Program Op Ret α} {rest : α → Program Op Ret β} :
    (first >>= rest).runAlone outcomes state = (first.runAlone outcomes state).bind fun ended =>
        (rest ended.1).runAlone outcomes ended.2 := by
  induction first generalizing state with
  | done result => rfl
  | step op next ih =>
      rw [step_bind, runAlone, runAlone]
      cases outcomes op state with
      | nil => rfl
      | cons outcome others => exact ih outcome.1

end Ends

end Program

/-! ## The operations of a program -/

namespace Program

variable {Op : Type} {Ret : Op → Type} {State α β : Type}

/-- Whatever its operations answer, the program performs only allowed ones. -/
def Performs (allowed : Op → Prop) : Program Op Ret α → Prop
  | .done _ => True
  | .step op next => allowed op ∧ ∀ answer, (next answer).Performs allowed

namespace Performs

variable {allowed : Op → Prop}

theorem done (result : α) : (Program.done result : Program Op Ret α).Performs allowed := trivial

/-- One operation in front of a program. -/
theorem perform {op : Op} {rest : Ret op → Program Op Ret α} (may : allowed op)
    (continued : ∀ answer, (rest answer).Performs allowed) :
    (Program.perform op >>= rest).Performs allowed :=
  ⟨may, continued⟩

/-- One operation. -/
theorem last {op : Op} (may : allowed op) :
    (Program.perform op : Program Op Ret (Ret op)).Performs allowed :=
  ⟨may, fun _ => trivial⟩

theorem ite {condition : Prop} [Decidable condition] {yes no : Program Op Ret α}
    (yesPerforms : condition → yes.Performs allowed)
    (noPerforms : ¬condition → no.Performs allowed) :
    (if condition then yes else no).Performs allowed := by
  by_cases holds : condition
  · rw [if_pos holds]
    exact yesPerforms holds
  · rw [if_neg holds]
    exact noPerforms holds

/-- What is allowed may grow. -/
theorem mono {weaker : Op → Prop} {program : Program Op Ret α}
    (performs : program.Performs allowed) (weaken : ∀ op, allowed op → weaker op) :
    program.Performs weaker := by
  induction program with
  | done result => trivial
  | step op next ih =>
      constructor
      · exact weaken op performs.1
      · intro answer
        exact ih answer (performs.2 answer)

theorem bind {first : Program Op Ret α} {rest : α → Program Op Ret β}
    (firstPerforms : first.Performs allowed)
    (restPerforms : ∀ result, (rest result).Performs allowed) :
    (first >>= rest).Performs allowed := by
  induction first with
  | done result => exact restPerforms result
  | step op next ih =>
      constructor
      · exact firstPerforms.1
      · intro answer
        exact ih answer (firstPerforms.2 answer)

/-- What the allowed operations keep, a program that runs alone keeps. -/
theorem runAlone_keeps {outcomes : (op : Op) → State → List (Ret op × State)} {Kept : State → Prop}
    (keeps : ∀ op state answer after, allowed op → (answer, after) ∈ outcomes op state →
      Kept state → Kept after)
    {program : Program Op Ret α} {state after : State} {result : α}
    (performs : program.Performs allowed)
    (ended : program.runAlone outcomes state = some (result, after)) (kept : Kept state) :
    Kept after := by
  induction program generalizing state with
  | done given =>
      cases ended
      exact kept
  | step op next ih =>
      rw [runAlone] at ended
      cases found : outcomes op state with
      | nil =>
          rw [found] at ended
          cases ended
      | cons outcome others =>
          rw [found] at ended
          apply ih outcome.1 (performs.2 outcome.1) ended
          apply keeps op state outcome.1 outcome.2 performs.1 _ kept
          simp [found]

end Performs

/-! ## The result of a program -/

/-- Whatever its operations answer, what the program returns has a property. -/
def Returns (post : α → Prop) : Program Op Ret α → Prop
  | .done result => post result
  | .step _ next => ∀ answer, (next answer).Returns post

namespace Returns

theorem mono {post weaker : α → Prop} {program : Program Op Ret α}
    (returns : program.Returns post) (weaken : ∀ result, post result → weaker result) :
    program.Returns weaker := by
  induction program with
  | done result => exact weaken result returns
  | step op next ih =>
      intro answer
      exact ih answer (returns answer)

theorem bind {first : Program Op Ret α} {rest : α → Program Op Ret β} {middle : α → Prop}
    {post : β → Prop} (returns : first.Returns middle)
    (continued : ∀ result, middle result → (rest result).Returns post) :
    (first >>= rest).Returns post := by
  induction first with
  | done result => exact continued result returns
  | step op next ih =>
      intro answer
      exact ih answer (returns answer)

/-- A program of which nothing has to be known. -/
theorem any (program : Program Op Ret α) : program.Returns fun _ => True := by
  induction program with
  | done result => trivial
  | step op next ih => exact ih

end Returns

/-- If the program, running alone from a state with the first property, ends, then with
the second one. -/
def Yields (outcomes : (op : Op) → State → List (Ret op × State)) (pre : State → Prop)
    (program : Program Op Ret α) (post : α → State → Prop) : Prop :=
  ∀ state result after, pre state → program.runAlone outcomes state = some (result, after) →
    post result after

namespace Yields

variable {outcomes : (op : Op) → State → List (Ret op × State)} {pre : State → Prop}

variable {post : α → State → Prop}

theorem done {result : α} (holds : ∀ state, pre state → post result state) :
    Yields outcomes pre (.done result : Program Op Ret α) post := by
  intro state given after before ended
  cases ended
  exact holds state before

/-- One operation in front of a program. -/
theorem perform {op : Op} {rest : Ret op → Program Op Ret α} (middle : Ret op → State → Prop)
    (moved : ∀ state answer after, pre state → (answer, after) ∈ outcomes op state →
      middle answer after)
    (continued : ∀ answer, Yields outcomes (middle answer) (rest answer) post) :
    Yields outcomes pre (Program.perform op >>= rest) post := by
  intro state result after before ended
  rw [perform_bind, runAlone] at ended
  cases found : outcomes op state with
  | nil =>
      rw [found] at ended
      cases ended
  | cons outcome others =>
      rw [found] at ended
      apply continued outcome.1 outcome.2 result after _ ended
      apply moved state outcome.1 outcome.2 before
      simp [found]

/-- Sequential composition. -/
theorem bind {first : Program Op Ret α} {rest : α → Program Op Ret β}
    {post : β → State → Prop} (middle : α → State → Prop)
    (yields : Yields outcomes pre first middle)
    (continued : ∀ result, Yields outcomes (middle result) (rest result) post) :
    Yields outcomes pre (first >>= rest) post := by
  intro state result after before ended
  rw [runAlone_bind] at ended
  obtain ⟨⟨given, between⟩, firstEnded, restEnded⟩ := Option.bind_eq_some_iff.mp ended
  exact continued given between result after (yields state given between before firstEnded)
    restEnded

theorem ite {condition : Prop} [Decidable condition] {yes no : Program Op Ret α}
    (yesYields : condition → Yields outcomes pre yes post)
    (noYields : ¬condition → Yields outcomes pre no post) :
    Yields outcomes pre (if condition then yes else no) post := by
  by_cases holds : condition
  · rw [if_pos holds]
    exact yesYields holds
  · rw [if_neg holds]
    exact noYields holds

end Yields

/-- Running alone from a state with the first property the program ends, and then with the
second one. -/
def Completes (outcomes : (op : Op) → State → List (Ret op × State)) (pre : State → Prop)
    (program : Program Op Ret α) (post : α → State → Prop) : Prop :=
  ∀ state, pre state → ∃ result after,
    program.runAlone outcomes state = some (result, after) ∧ post result after

namespace Completes

variable {outcomes : (op : Op) → State → List (Ret op × State)} {pre : State → Prop}

variable {post : α → State → Prop}

theorem done {result : α} (holds : ∀ state, pre state → post result state) :
    Completes outcomes pre (.done result : Program Op Ret α) post :=
  fun state before => ⟨result, state, rfl, holds state before⟩

/-- Sequential composition. -/
theorem bind {first : Program Op Ret α} {rest : α → Program Op Ret β}
    {post : β → State → Prop} (middle : α → State → Prop)
    (completes : Completes outcomes pre first middle)
    (continued : ∀ result, Completes outcomes (middle result) (rest result) post) :
    Completes outcomes pre (first >>= rest) post := by
  intro state before
  obtain ⟨given, between, firstEnded, holds⟩ := completes state before
  obtain ⟨result, final, restEnded, ends⟩ := continued given between holds
  refine ⟨result, final, ?_, ends⟩
  rw [runAlone_bind, firstEnded]
  exact restEnded

theorem ite {condition : Prop} [Decidable condition] {yes no : Program Op Ret α}
    (yesCompletes : condition → Completes outcomes pre yes post)
    (noCompletes : ¬condition → Completes outcomes pre no post) :
    Completes outcomes pre (if condition then yes else no) post := by
  by_cases holds : condition
  · rw [if_pos holds]
    exact yesCompletes holds
  · rw [if_neg holds]
    exact noCompletes holds

/-- A stronger precondition and a weaker postcondition. -/
theorem mono {program : Program Op Ret α} {stronger : State → Prop} {weaker : α → State → Prop}
    (completes : Completes outcomes pre program post)
    (strengthen : ∀ state, stronger state → pre state)
    (weaken : ∀ result after, post result after → weaker result after) :
    Completes outcomes stronger program weaker := by
  intro state before
  obtain ⟨result, after, ended, holds⟩ := completes state (strengthen state before)
  exact ⟨result, after, ended, weaken result after holds⟩

end Completes

end Program

/-! ## Respecting a protocol

A thread sees the shared state through a *view*: the part of it that no other
thread changes.  `Rules` say which operations the thread may perform from a
view, which answers it has to expect, and how an answer moves the view. -/

/-- The rules one thread keeps, as a function of its own view. -/
structure Rules (Op : Type) (Ret : Op → Type) (View : Type) where
  /-- Operations the thread may perform. -/
  may : View → Op → Prop
  /-- Answers the shared state can give. -/
  expects : View → (op : Op) → Ret op → Prop
  /-- The view after the operation answered. -/
  next : View → (op : Op) → Ret op → View

namespace Program

variable {Op Op' : Type} {Ret : Op → Type} {Ret' : Op' → Type}
  {View α β : Type}

/-- Every operation the program performs is allowed by the rules, whatever
expected answers it gets, and at its end `post` holds of result and view. -/
def Respects (rules : Rules Op Ret View) : Program Op Ret α → View → (α → View → Prop) → Prop
  | .done result, view, post => post result view
  | .step op next, view, post =>
      rules.may view op ∧ ∀ answer, rules.expects view op answer →
          (next answer).Respects rules (rules.next view op answer) post

variable {rules : Rules Op Ret View} {view : View}

@[simp] theorem respects_done {result : α} {post : α → View → Prop} :
    (Program.done result : Program Op Ret α).Respects rules view post ↔ post result view := Iff.rfl

namespace Respects

variable {program : Program Op Ret α} {post : α → View → Prop}

/-- A weaker postcondition is respected too. -/
theorem mono {weaker : α → View → Prop} (respected : program.Respects rules view post)
    (weaken : ∀ result after, post result after → weaker result after) :
    program.Respects rules view weaker := by
  induction program generalizing view with
  | done result => exact weaken _ _ respected
  | step op next ih =>
      refine ⟨respected.1, fun answer expected => ?_⟩
      exact ih answer (respected.2 answer expected)

/-- Sequential composition: the second program starts where the first one
established its postcondition. -/
theorem bind {first : Program Op Ret α} {rest : α → Program Op Ret β}
    {middle : α → View → Prop} {post : β → View → Prop}
    (respected : first.Respects rules view middle)
    (continued : ∀ result after, middle result after → (rest result).Respects rules after post) :
    (first >>= rest).Respects rules view post := by
  induction first generalizing view with
  | done result => exact continued _ _ respected
  | step op next ih =>
      refine ⟨respected.1, fun answer expected => ?_⟩
      exact ih answer (respected.2 answer expected)

/-- One operation in front of a program. -/
theorem perform {op : Op} {rest : Ret op → Program Op Ret α} (may : rules.may view op)
    (continued : ∀ answer, rules.expects view op answer →
      (rest answer).Respects rules (rules.next view op answer) post) :
    (Program.perform op >>= rest).Respects rules view post :=
  ⟨may, continued⟩

/-- Rules that allow more, expect less and move the view alike are respected
too, from views with a property the new rules keep.  `project` reads the old
view off the new one. -/
theorem transfer {View' : Type} (rules' : Rules Op Ret View') (project : View' → View)
    (Kept : View' → Prop) (allowed : ∀ current op, Kept current → rules.may (project current) op →
      rules'.may current op)
    (moved : ∀ current op answer, Kept current →
      rules.may (project current) op → rules'.expects current op answer →
        rules.expects (project current) op answer ∧ project (rules'.next current op answer) =
            rules.next (project current) op answer ∧ Kept (rules'.next current op answer))
    {view' : View'} (kept : Kept view') (respected : program.Respects rules (project view') post) :
    program.Respects rules' view' fun result after =>
      post result (project after) ∧ Kept after := by
  induction program generalizing view' with
  | done result => exact ⟨respected, kept⟩
  | step op next ih =>
      have may := respected.1
      refine ⟨allowed _ _ kept may, fun answer expects => ?_⟩
      obtain ⟨expected, projected, keptAfter⟩ := moved _ _ _ kept may expects
      apply ih answer keptAfter
      rw [projected]
      exact respected.2 answer expected

/-- A program read over a larger signature respects rules that say the same of
its operations there. -/
theorem lift {rules' : Rules Op' Ret' View} {inject : Op → Op'}
    {answer : ∀ op, Ret' (inject op) → Ret op}
    (allowed : ∀ view op, rules.may view op → rules'.may view (inject op))
    (moved : ∀ view op reply, rules'.expects view (inject op) reply →
      rules.expects view op (answer op reply) ∧ rules'.next view (inject op) reply =
          rules.next view op (answer op reply))
    (respected : program.Respects rules view post) :
    (program.lift inject answer).Respects rules' view post := by
  induction program generalizing view with
  | done result => exact respected
  | step op next ih =>
      refine ⟨allowed _ _ respected.1, fun reply expects => ?_⟩
      obtain ⟨expected, sameNext⟩ := moved view op reply expects
      have continued := ih (answer op reply) (respected.2 _ expected)
      rw [← sameNext] at continued
      exact continued

end Respects

end Program

end Interleaving
