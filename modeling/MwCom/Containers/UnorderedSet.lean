/-
Module: MwCom.Containers.UnorderedSet
Purpose: Sets whose elements are listed in an order nobody relies on.
Trusted boundary: none
Main exports: UnorderedSet, UnorderedSet.merge, UnorderedSet.erase
-/
import Mathlib.Data.List.Nodup

namespace MwCom.Containers

/-- A `std::unordered_set`: its elements, each once. -/
structure UnorderedSet (Key : Type) where
  elements : List Key
  unique : elements.Nodup
deriving DecidableEq

namespace UnorderedSet

variable {Key : Type}

instance : Membership Key (UnorderedSet Key) where
  mem set key := key ∈ set.elements

def singleton (key : Key) : UnorderedSet Key where
  elements := [key]
  unique := List.nodup_singleton key

variable {set other : UnorderedSet Key} {key sought : Key}

theorem mem_iff : key ∈ set ↔ key ∈ set.elements := Iff.rfl

@[simp] theorem mem_singleton : sought ∈ singleton key ↔ sought = key := List.mem_singleton

variable [DecidableEq Key]

instance (set : UnorderedSet Key) (key : Key) : Decidable (key ∈ set) :=
  inferInstanceAs (Decidable (key ∈ set.elements))

def erase (set : UnorderedSet Key) (key : Key) : UnorderedSet Key where
  elements := set.elements.erase key
  unique := set.unique.erase key

/-- The elements of the other set move over, except those that are there already. -/
def merge (set other : UnorderedSet Key) : UnorderedSet Key where
  elements := set.elements ++ other.elements.filter (· ∉ set)
  unique := by
    apply List.Nodup.append set.unique (other.unique.filter _)
    intro key present moved
    have absent := (List.mem_filter.mp moved).2
    exact of_decide_eq_true absent present

theorem mem_erase : sought ∈ set.erase key ↔ sought ≠ key ∧ sought ∈ set := set.unique.mem_erase_iff

theorem mem_merge : key ∈ set.merge other ↔ key ∈ set ∨ key ∈ other := by
  rw [mem_iff, merge, List.mem_append, List.mem_filter, decide_eq_true_iff]
  constructor
  · rintro (present | ⟨moved, _⟩)
    · exact .inl present
    · exact .inr moved
  · rintro (present | moved)
    · exact .inl present
    · by_cases present : key ∈ set
      · exact .inl present
      · exact .inr ⟨moved, present⟩

end UnorderedSet

end MwCom.Containers
