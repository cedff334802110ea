/-
Module: MwCom.Containers.Accumulation
Purpose: Programs that only add to what they were given, and which additions they make.
Trusted boundary: none
Main exports: Adds, adds_foldlM, foldlM_eq_none
-/
import Mathlib.Data.List.Basic

namespace MwCom.Containers.Accumulation

variable {State Item Addition : Type} {add : State → Addition → Option State}

/-! ## Programs -/

/-- Whatever it is given, the program does nothing but exactly these additions, in some order
and each of them once or more, and ends where one of them fails. -/
def Adds (add : State → Addition → Option State) (program : State → Option State)
    (Added : Addition → Prop) : Prop :=
  ∀ before, ∃ additions : List Addition, program before = additions.foldlM add before ∧
    ∀ addition, addition ∈ additions ↔ Added addition

section Adds

variable {program next : State → Option State} {Added Later Other : Addition → Prop}

theorem Adds.congr (adds : Adds add program Added)
    (same : ∀ addition, Added addition ↔ Other addition) : Adds add program Other := by
  intro before
  obtain ⟨additions, isProgram, exactly⟩ := adds before
  exact ⟨additions, isProgram, fun addition => (exactly addition).trans (same addition)⟩

theorem Adds.nothing : Adds add some fun _ => False := by
  intro before
  exact ⟨[], rfl, by simp⟩

theorem Adds.single (addition : Addition) :
    Adds add (fun before => add before addition) fun other => other = addition := by
  intro before
  exact ⟨[addition], by simp, by simp⟩

theorem Adds.bind (first : Adds add program Added) (second : Adds add next Later) :
    Adds add (fun before => (program before).bind next)
      fun addition => Added addition ∨ Later addition := by
  intro before
  obtain ⟨additions, isFirst, exactly⟩ := first before
  cases between : additions.foldlM add before with
  | none =>
      -- which additions would have come later does not matter
      obtain ⟨more, _, exactlyMore⟩ := second before
      exact ⟨additions ++ more, by simp [isFirst, between],
        by simp [List.mem_append, exactly, exactlyMore]⟩
  | some state =>
      obtain ⟨more, isSecond, exactlyMore⟩ := second state
      exact ⟨additions ++ more, by simp [isFirst, between, isSecond],
        by simp [List.mem_append, exactly, exactlyMore]⟩

/-- A loop makes the additions of its passes. -/
theorem adds_foldlM {step : State → Item → Option State} {AddedBy : Item → Addition → Prop}
    {items : List Item}
    (passes : ∀ item ∈ items, Adds add (fun state => step state item) (AddedBy item)) :
    Adds add (fun before => items.foldlM step before)
      fun addition => ∃ item ∈ items, AddedBy item addition := by
  induction items with
  | nil => exact Adds.nothing.congr (by simp)
  | cons first rest ih =>
      have adds := (passes first List.mem_cons_self).bind
        (ih fun item member => passes item (List.mem_cons_of_mem first member))
      simp only [List.foldlM_cons, Option.bind_eq_bind]
      exact adds.congr (by simp)

end Adds

/-- A loop with a pass that fails whatever it is given fails. -/
theorem foldlM_eq_none {step : State → Item → Option State} {items : List Item} {item : Item}
    (member : item ∈ items) (fails : ∀ state, step state item = none) (state : State) :
    items.foldlM step state = none := by
  induction items generalizing state with
  | nil => cases member
  | cons first rest ih =>
      rw [List.foldlM_cons, Option.bind_eq_bind]
      rcases List.mem_cons.mp member with isFirst | later
      · rw [← isFirst, fails]
        rfl
      · cases step state first with
        | none => rfl
        | some next => exact ih later next

end MwCom.Containers.Accumulation
