/-
Module: MwCom.Search.FirstLeast
Purpose: One pass over a list that keeps the least key seen so far and the
  element it belongs to.
Trusted boundary: none
Main exports: scan, FirstLeast, FirstLeast.iff_of_sorted, scan_cases
-/
import Mathlib.Order.Lattice
import Mathlib.Data.List.Basic

namespace Search

variable {α κ : Type} [LinearOrder κ]

/-- The pass: an eligible element with a key below the least one so far takes its
place. -/
def scan (eligible : α → Bool) (key : α → κ) : List α → κ → Option α → κ × Option α
  | [], lowest, selected => (lowest, selected)
  | element :: rest, lowest, selected =>
      if eligible element && decide (key element < lowest) then
        scan eligible key rest (key element) (some element)
      else
        scan eligible key rest lowest selected

/-- The first of the eligible elements of a list that have the least key. -/
def FirstLeast (eligible : α → Bool) (key : α → κ) (among : List α) (element : α) : Prop :=
  ∃ before behind, among = before ++ element :: behind ∧ eligible element = true ∧
    (∀ other ∈ before, eligible other = true → key element < key other) ∧
    ∀ other ∈ behind, eligible other = true → key element ≤ key other

variable {eligible : α → Bool} {key : α → κ} {among : List α} {element other : α}

namespace FirstLeast

theorem eligible_of (least : FirstLeast eligible key among element) : eligible element = true := by
  obtain ⟨_, _, _, isEligible, _⟩ := least
  exact isEligible

theorem mem (least : FirstLeast eligible key among element) : element ∈ among := by
  obtain ⟨before, behind, rfl, _⟩ := least
  simp

/-- No eligible element has a smaller key. -/
theorem le (least : FirstLeast eligible key among element) (member : other ∈ among)
    (isEligible : eligible other = true) : key element ≤ key other := by
  obtain ⟨before, behind, rfl, _, smaller, notGreater⟩ := least
  rcases List.mem_append.mp member with inBefore | rest
  · exact le_of_lt (smaller other inBefore isEligible)
  · rcases List.mem_cons.mp rest with isElement | inBehind
    · rw [isElement]
    · exact notGreater other inBehind isEligible

/-- An element in front that is not eligible, or has a greater key, changes
nothing. -/
theorem cons {first : α} (least : FirstLeast eligible key among element)
    (greater : eligible first = true → key element < key first) :
    FirstLeast eligible key (first :: among) element := by
  obtain ⟨before, behind, rfl, isEligible, smaller, notGreater⟩ := least
  refine ⟨first :: before, behind, rfl, isEligible, ?_, notGreater⟩
  intro other member
  rcases List.mem_cons.mp member with isFirst | inBefore
  · rw [isFirst]
    exact greater
  · exact smaller other inBefore

/-- An eligible element in front of greater or equal keys is the first least. -/
theorem head {first : α} (isEligible : eligible first = true)
    (notGreater : ∀ other ∈ among, eligible other = true → key first ≤ key other) :
    FirstLeast eligible key (first :: among) first :=
  ⟨[], among, rfl, isEligible, by simp, notGreater⟩

section Sorted

variable [LinearOrder α]

/-- In a sorted list the first is the one before all others with the least key. -/
theorem iff_of_sorted (sorted : among.Pairwise (· < ·)) : FirstLeast eligible key among element ↔
      element ∈ among ∧ eligible element = true ∧
        (∀ other ∈ among, eligible other = true → key element ≤ key other) ∧
        ∀ other ∈ among, other < element → eligible other = true → key element < key other := by
  constructor
  · intro least
    refine ⟨least.mem, least.eligible_of, fun other => least.le, ?_⟩
    intro other member earlier isEligible
    obtain ⟨before, behind, rfl, _, smaller, _⟩ := least
    rcases List.mem_append.mp member with inBefore | rest
    · exact smaller other inBefore isEligible
    · have behindElement := (List.pairwise_cons.mp (List.pairwise_append.mp sorted).2.1).1
      rcases List.mem_cons.mp rest with isElement | inBehind
      · rw [isElement] at earlier
        exact absurd earlier (lt_irrefl element)
      · exact absurd earlier (lt_asymm (behindElement other inBehind))
  · rintro ⟨member, isEligible, notGreater, smaller⟩
    obtain ⟨before, behind, rfl⟩ := List.append_of_mem member
    have ordered := (List.pairwise_append.mp sorted).2.2
    refine ⟨before, behind, rfl, isEligible, ?_, ?_⟩
    · intro other inBefore
      exact smaller other (List.mem_append_left _ inBefore)
        (ordered other inBefore element List.mem_cons_self)
    · intro other inBehind
      exact notGreater other (List.mem_append_right _ (List.mem_cons_of_mem _ inBehind))

/-- There is at most one in a sorted list. -/
theorem unique (sorted : among.Pairwise (· < ·)) (one : FirstLeast eligible key among element)
    (two : FirstLeast eligible key among other) : element = other := by
  obtain ⟨oneMember, oneEligible, oneLow, oneFirst⟩ := (iff_of_sorted sorted).mp one
  obtain ⟨twoMember, twoEligible, twoLow, twoFirst⟩ := (iff_of_sorted sorted).mp two
  rcases lt_trichotomy element other with before | same | behind
  · have strict := twoFirst element oneMember before oneEligible
    exact absurd (oneLow other twoMember twoEligible) (not_le.mpr strict)
  · exact same
  · have strict := oneFirst other twoMember behind twoEligible
    exact absurd (twoLow element oneMember oneEligible) (not_le.mpr strict)

end Sorted

end FirstLeast

/-- A pass keeps what it started with if nothing is below that, and else ends with the
first least element. -/
theorem scan_cases (eligible : α → Bool) (key : α → κ) (among : List α) (lowest : κ)
    (selected : Option α) :
    (scan eligible key among lowest selected = (lowest, selected) ∧
        ∀ element ∈ among, eligible element = true → lowest ≤ key element) ∨
      ∃ element, FirstLeast eligible key among element ∧ key element < lowest ∧
        scan eligible key among lowest selected = (key element, some element) := by
  induction among generalizing lowest selected with
  | nil => exact .inl ⟨rfl, by simp⟩
  | cons first rest ih =>
      rw [scan]
      by_cases better : eligible first = true ∧ key first < lowest
      · rw [if_pos (by simpa using better)]
        right
        rcases ih (key first) (some first) with kept | found
        · obtain ⟨same, notGreater⟩ := kept
          exact ⟨first, .head better.1 notGreater, better.2, same⟩
        · obtain ⟨element, least, below, same⟩ := found
          exact ⟨element, least.cons fun _ => below, lt_trans below better.2, same⟩
      · rw [if_neg (by simpa using better)]
        have notBelow : eligible first = true → lowest ≤ key first :=
          fun isEligible => not_lt.mp fun below => better ⟨isEligible, below⟩
        rcases ih lowest selected with kept | found
        · obtain ⟨same, notGreater⟩ := kept
          left
          refine ⟨same, ?_⟩
          intro other member
          rcases List.mem_cons.mp member with isFirst | inRest
          · rw [isFirst]
            exact notBelow
          · exact notGreater other inRest
        · obtain ⟨element, least, below, same⟩ := found
          right
          exact ⟨element, least.cons fun isEligible => lt_of_lt_of_le below (notBelow isEligible),
            below, same⟩

end Search
