/-
Module: MwCom.Search.PartitionPoint
Purpose: Binary search for the first position of a range that a test refuses, as
  the standard library of the source does it.
Trusted boundary: none
Main exports: partitionPoint, partitionPoint_spec, partitionPoint_eq
-/
import Mathlib.Order.Basic

namespace Search

/-- Halve the `count` positions from `first` on until the first one is found
that `before` refuses.  `fuel` bounds the halvings. -/
def partitionPoint (before : ℕ → Bool) : (fuel first count : ℕ) → ℕ
  | 0, first, _ => first
  | fuel + 1, first, count =>
      if count = 0 then first
      else
        let half := count / 2
        let middle := first + half
        if before middle then
          partitionPoint before fuel (middle + 1) (count - half - 1)
        else
          partitionPoint before fuel first half

/-- Where `before` accepts a prefix of the range, the search ends right behind
it. -/
theorem partitionPoint_spec {before : ℕ → Bool}
    (downward : ∀ earlier later, earlier ≤ later → before later = true → before earlier = true)
    (fuel first count : ℕ) (enough : count ≤ fuel) :
    first ≤ partitionPoint before fuel first count ∧
      partitionPoint before fuel first count ≤ first + count ∧
      (∀ position, first ≤ position → position < partitionPoint before fuel first count →
          before position = true) ∧
      ∀ position, partitionPoint before fuel first count ≤ position →
        position < first + count → before position = false := by
  induction fuel generalizing first count with
  | zero =>
      have none : count = 0 := Nat.le_zero.mp enough
      subst none
      simp only [partitionPoint]
      refine ⟨Nat.le_refl _, Nat.le_refl _, ?_, ?_⟩
      · intro position lower upper
        omega
      · intro position lower upper
        omega
  | succ fuel ih =>
      rw [partitionPoint]
      by_cases none : count = 0
      · subst none
        simp only [if_true]
        refine ⟨Nat.le_refl _, Nat.le_refl _, ?_, ?_⟩
        · intro position lower upper
          omega
        · intro position lower upper
          omega
      · simp only [none, if_false]
        by_cases accepted : before (first + count / 2) = true
        · simp only [accepted, if_true]
          obtain ⟨lower, upper, accepts, refuses⟩ :=
            ih (first + count / 2 + 1) (count - count / 2 - 1)
              (by omega)
          refine ⟨by omega, by omega, ?_, ?_⟩
          · intro position _ below
            by_cases passed : position ≤ first + count / 2
            · exact downward _ _ passed accepted
            · exact accepts position (by omega) below
          · intro position above below
            exact refuses position above (by omega)
        · simp only [accepted, if_false, Bool.false_eq_true]
          obtain ⟨lower, upper, accepts, refuses⟩ := ih first (count / 2) (by omega)
          refine ⟨lower, by omega, accepts, ?_⟩
          intro position above below
          by_cases inside : position < first + count / 2
          · exact refuses position above inside
          · cases accepting : before position with
            | false => rfl
            | true =>
                exact absurd (downward _ _ (by omega) accepting) accepted

/-- The search finds the position behind the accepted ones. -/
theorem partitionPoint_eq {before : ℕ → Bool} {position count : ℕ}
    (downward : ∀ earlier later, earlier ≤ later → before later = true → before earlier = true)
    (inside : position < count) (refused : before position = false)
    (accepted : ∀ earlier, earlier < position → before earlier = true) :
    partitionPoint before count 0 count = position := by
  obtain ⟨_, _, accepts, refuses⟩ := partitionPoint_spec downward count 0 count (Nat.le_refl _)
  rcases Nat.lt_trichotomy (partitionPoint before count 0 count) position with
    smaller | same | larger
  · have clash := refuses _ (Nat.le_refl _) (by omega)
    rw [accepted _ smaller] at clash
    cases clash
  · exact same
  · have clash := accepts position (Nat.zero_le _) larger
    rw [refused] at clash
    cases clash

end Search
