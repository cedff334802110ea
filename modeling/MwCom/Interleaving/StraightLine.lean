/-
Module: MwCom.Interleaving.StraightLine
Purpose: Calls that are straight lines of commands, between which other things may happen that
  leave a safe state as it is.
Trusted boundary: none
Main exports: Guarded, Guarded.append, Guarded.flatMap, Course, CourseStep,
  afterCalls, guarded_of_reached
-/
import Mathlib.Logic.Relation

namespace Interleaving

variable {Command State Item : Type} {exec : Command → State → State}
  {Safe Post Weaker : State → Prop}

/-- Before every one of the commands the state is safe, and after the last one `Post`
holds. -/
def Guarded (exec : Command → State → State) (Safe Post : State → Prop) :
    List Command → State → Prop
  | [], state => Post state
  | command :: rest, state => Safe state ∧ Guarded exec Safe Post rest (exec command state)

namespace Guarded

variable {state : State}

theorem mono {commands : List Command} (guarded : Guarded exec Safe Post commands state)
    (weaken : ∀ state, Post state → Weaker state) :
    Guarded exec Safe Weaker commands state := by
  induction commands generalizing state with
  | nil => exact weaken state guarded
  | cons command rest ih =>
      exact ⟨guarded.1, ih guarded.2⟩

/-- One straight line after another. -/
theorem append {first second : List Command}
    (guarded : Guarded exec Safe (Guarded exec Safe Post second) first state) :
    Guarded exec Safe Post (first ++ second) state := by
  induction first generalizing state with
  | nil => exact guarded
  | cons command rest ih =>
      exact ⟨guarded.1, ih guarded.2⟩

/-- A loop; its invariant tells which items remain. -/
theorem flatMap (exec : Command → State → State) (Safe : State → Prop)
    (commands : Item → List Command) (Inv : List Item → State → Prop)
    (each : ∀ item rest state, Inv (item :: rest) state →
      Guarded exec Safe (Inv rest) (commands item) state)
    {items : List Item} (holds : Inv items state) :
    Guarded exec Safe (Inv []) (items.flatMap commands) state := by
  induction items generalizing state with
  | nil => exact holds
  | cons item rest ih =>
      rw [List.flatMap_cons]
      apply append
      apply (each item rest state holds).mono
      intro later holdsLater
      exact ih holdsLater

/-- Commands without an effect. -/
theorem of_fixed {commands : List Command} (safe : Safe state) (holds : Post state)
    (fixed : ∀ command ∈ commands, exec command state = state) :
    Guarded exec Safe Post commands state := by
  induction commands with
  | nil => exact holds
  | cons command rest ih =>
      constructor
      · exact safe
      · rw [fixed command List.mem_cons_self]
        exact ih fun other member =>
          fixed other (List.mem_cons_of_mem _ member)

theorem safe {commands : List Command} {state : State}
    (guarded : Guarded exec Safe Post commands state) (safe : ∀ state, Post state → Safe state) :
    Safe state := by
  cases commands with
  | nil => exact safe state guarded
  | cons command rest => exact guarded.1

end Guarded

/-! ## Runs -/

/-- A state, and the commands of the current call that remain. -/
structure Course (Command State : Type) where
  state : State
  pending : List Command

variable {Call : Type}

/-- A call begins, a command is executed, or something else happens. -/
inductive CourseStep (exec : Command → State → State) (code : State → Call → List Command)
    (permitted : State → Call → Prop) (happens : State → State → Prop) :
    Course Command State → Course Command State → Prop where
  | call {state} (call : Call) (isPermitted : permitted state call) :
      CourseStep exec code permitted happens ⟨state, []⟩ ⟨state, code state call⟩
  | execute {state command rest} :
      CourseStep exec code permitted happens ⟨state, command :: rest⟩ ⟨exec command state, rest⟩
  | happening {state later pending} (happening : happens state later) :
      CourseStep exec code permitted happens ⟨state, pending⟩ ⟨later, pending⟩

/-- The state after calls that nothing interrupts. -/
def afterCalls (exec : Command → State → State) (code : State → Call → List Command)
    (calls : List Call) (state : State) : State :=
  calls.foldl (fun state call =>
    (code state call).foldl (fun state command => exec command state) state) state

/-- Each of the calls is permitted when its turn comes. -/
def AllPermitted (exec : Command → State → State) (code : State → Call → List Command)
    (permitted : State → Call → Prop) : List Call → State → Prop
  | [], _ => True
  | call :: calls, state =>
      permitted state call ∧
        AllPermitted exec code permitted calls (afterCalls exec code [call] state)

/-- Calls that nothing interrupts. -/
theorem afterCalls_of_permitted {code : State → Call → List Command}
    {permitted : State → Call → Prop} {happens : State → State → Prop} {calls : List Call}
    {state : State} (arePermitted : AllPermitted exec code permitted calls state) :
    Relation.ReflTransGen (CourseStep exec code permitted happens) ⟨state, []⟩
      ⟨afterCalls exec code calls state, []⟩ := by
  have rest : ∀ commands state,
      Relation.ReflTransGen (CourseStep exec code permitted happens) ⟨state, commands⟩
        ⟨commands.foldl (fun state command => exec command state) state, []⟩ := by
    intro commands
    induction commands with
    | nil => exact fun _ => .refl
    | cons command commands ih =>
        intro state
        exact .head .execute (ih (exec command state))
  induction calls generalizing state with
  | nil => exact .refl
  | cons call calls ih =>
      obtain ⟨isPermitted, othersPermitted⟩ := arePermitted
      apply Relation.ReflTransGen.head (.call call isPermitted)
      exact (rest (code state call) state).trans (ih othersPermitted)

/-- Where calls are guarded and nothing happens to a safe state, the rest of a call is guarded
in every state reached. -/
theorem guarded_of_reached (Safe Idle : State → Prop) {code : State → Call → List Command}
    {permitted : State → Call → Prop} {happens : State → State → Prop}
    (safe : ∀ state, Idle state → Safe state)
    (calls : ∀ state call, Idle state → permitted state call →
      Guarded exec Safe Idle (code state call) state)
    (quiet : ∀ state later, Safe state → happens state later → later = state)
    {start course : Course Command State}
    (initially : Guarded exec Safe Idle start.pending start.state)
    (reached : Relation.ReflTransGen (CourseStep exec code permitted happens) start course) :
    Guarded exec Safe Idle course.pending course.state := by
  induction reached with
  | refl => exact initially
  | tail _ step ih =>
      cases step with
      | call call isPermitted => exact calls _ call ih isPermitted
      | execute => exact ih.2
      | happening happening =>
          rw [quiet _ _ (ih.safe safe) happening]
          exact ih

end Interleaving
