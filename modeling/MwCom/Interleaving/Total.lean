/-
Module: MwCom.Interleaving.Total
Purpose: Quantities summed over finitely many threads, of which one moves at a
  time.
Trusted boundary: none
Main exports: total, total_update, le_total, card_le_of_covered
-/
import Mathlib.Algebra.BigOperators.Group.Finset.Basic
import Mathlib.Algebra.Order.BigOperators.Group.Finset
import Mathlib.Data.Fintype.BigOperators

namespace Interleaving

variable {Thread Object Item : Type} [Fintype Thread]

/-- A quantity summed over all threads. -/
def total (measure : Object → Nat) (object : Thread → Object) : Nat :=
  ∑ thread, measure (object thread)

variable {measure other : Object → Nat} {object : Thread → Object}

/-- A thread's share is part of the total. -/
theorem le_total (thread : Thread) : measure (object thread) ≤ total measure object :=
  Finset.single_le_sum (f := fun thread => measure (object thread))
    (fun _ _ => Nat.zero_le _) (Finset.mem_univ thread)

/-- Where no thread has more of one quantity than of another. -/
theorem total_le_total (less : ∀ thread, measure (object thread) ≤ other (object thread)) :
    total measure object ≤ total other object :=
  Finset.sum_le_sum fun thread _ => less thread

theorem total_eq_zero (none : ∀ thread, measure (object thread) = 0) : total measure object = 0 :=
  Finset.sum_eq_zero fun thread _ => none thread

/-- What one thread does moves the total by its own difference. -/
theorem total_update [DecidableEq Thread] (measure : Object → Nat)
    (object : Thread → Object) (thread : Thread) (moved : Object) :
    total measure (Function.update object thread moved) + measure (object thread) =
      total measure object + measure moved := by
  have others : ∀ other ∈ Finset.univ.erase thread,
      measure (Function.update object thread moved other) = measure (object other) := by
    intro other member
    rw [Function.update_of_ne (Finset.ne_of_mem_erase member)]
  have before := Finset.add_sum_erase Finset.univ
    (fun other => measure (object other)) (Finset.mem_univ thread)
  have after := Finset.add_sum_erase Finset.univ
    (fun other => measure (Function.update object thread moved other))
    (Finset.mem_univ thread)
  rw [Finset.sum_congr rfl others] at after
  simp only [Function.update_self] at after
  simp only [total, ← before, ← after]
  omega

/-- Items each of which some thread, or a common store, has: there are not more
of them than entries. -/
theorem card_le_of_covered [DecidableEq Item] (items : Finset Item)
    (store : List Item) (held : Object → List Item) (covered : ∀ item ∈ items, item ∈ store ∨
      ∃ thread, item ∈ held (object thread)) :
    items.card ≤ total (fun object => (held object).length) object + store.length := by
  have within : items ⊆ (Finset.univ.biUnion fun thread =>
      (held (object thread)).toFinset) ∪ store.toFinset := by
    intro item member
    rcases covered item member with stored | ⟨thread, has⟩
    · exact Finset.mem_union_right _ (List.mem_toFinset.mpr stored)
    · refine Finset.mem_union_left _ (Finset.mem_biUnion.mpr ?_)
      exact ⟨thread, Finset.mem_univ thread, List.mem_toFinset.mpr has⟩
  calc items.card
      ≤ ((Finset.univ.biUnion fun thread =>
          (held (object thread)).toFinset) ∪ store.toFinset).card :=
        Finset.card_le_card within
    _ ≤ (Finset.univ.biUnion fun thread =>
          (held (object thread)).toFinset).card + store.toFinset.card :=
        Finset.card_union_le _ _
    _ ≤ (∑ thread, (held (object thread)).toFinset.card) + store.toFinset.card :=
        Nat.add_le_add_right Finset.card_biUnion_le _
    _ ≤ total (fun object => (held object).length) object + store.length := Nat.add_le_add
          (Finset.sum_le_sum fun thread _ => List.toFinset_card_le _)
          (List.toFinset_card_le _)

end Interleaving
