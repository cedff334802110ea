/-
Module: MwCom.Containers.KeyOrder
Purpose: What the two comparisons of the keys of an ordered container have to
  satisfy on the keys in use, and when a union of three orders does.
Trusted boundary: none
Main exports: KeyOrderOn, ExactlyOne, keyOrderOn_of_exactlyOne,
  not_cycle_of_union
-/
import Mathlib.Data.Set.Basic
import Mathlib.Order.Defs.LinearOrder

namespace MwCom.Containers

variable {Key : Type}

/-- One of three statements holds, and no other. -/
def ExactlyOne (one two three : Prop) : Prop :=
  (one ∧ ¬ two ∧ ¬ three) ∨ (¬ one ∧ two ∧ ¬ three) ∨ (¬ one ∧ ¬ two ∧ three)

theorem ExactlyOne.not_two {one two three : Prop} (exactly : ExactlyOne one two three)
    (holds : one) : ¬ two := by
  rcases exactly with ⟨_, notTwo, _⟩ | ⟨notOne, _, _⟩ | ⟨notOne, _, _⟩
  · exact notTwo
  · exact absurd holds notOne
  · exact absurd holds notOne

/-- On the keys in use `less` is a strict weak order, `equal` an equivalence,
and two keys are equal exactly if neither is less. -/
structure KeyOrderOn (keys : Set Key) (less equal : Key → Key → Prop) : Prop where
  irreflexive : ∀ a ∈ keys, ¬ less a a
  transitive : ∀ a ∈ keys, ∀ b ∈ keys, ∀ c ∈ keys, less a b → less b c → less a c
  incomparable : ∀ a ∈ keys, ∀ b ∈ keys, ∀ c ∈ keys,
    ¬ less a b → ¬ less b a → ¬ less b c → ¬ less c b → ¬ less a c ∧ ¬ less c a
  trichotomous : ∀ a ∈ keys, ∀ b ∈ keys, ExactlyOne (less a b) (less b a) (equal a b)
  reflexive : ∀ a ∈ keys, equal a a
  symmetric : ∀ a ∈ keys, ∀ b ∈ keys, equal a b → equal b a
  equalTransitive : ∀ a ∈ keys, ∀ b ∈ keys, ∀ c ∈ keys, equal a b → equal b c → equal a c

section Trichotomy

variable {keys : Set Key} {less equal : Key → Key → Prop}

/-- Where any two keys compare in exactly one way, nothing is missing but cycles
and that equal keys compare alike. -/
theorem keyOrderOn_of_exactlyOne (trichotomous : ∀ a ∈ keys, ∀ b ∈ keys,
      ExactlyOne (less a b) (less b a) (equal a b))
    (acyclic : ∀ a ∈ keys, ∀ b ∈ keys, ∀ c ∈ keys, less a b → less b c → ¬ less c a)
    (congruent : ∀ a ∈ keys, ∀ b ∈ keys, ∀ c ∈ keys, equal a c → less b c → less b a)
    (equalTransitive : ∀ a ∈ keys, ∀ b ∈ keys, ∀ c ∈ keys, equal a b → equal b c → equal a c) :
    KeyOrderOn keys less equal := by
  have asymmetric : ∀ a ∈ keys, ∀ b ∈ keys, less a b → ¬ less b a := by
    intro a aUsed b bUsed aLess
    exact (trichotomous a aUsed b bUsed).not_two aLess
  have irreflexive : ∀ a ∈ keys, ¬ less a a := by
    intro a used isLess
    exact asymmetric a used a used isLess isLess
  have equal_of_incomparable : ∀ a ∈ keys, ∀ b ∈ keys, ¬ less a b → ¬ less b a → equal a b := by
    intro a aUsed b bUsed notLess notGreater
    rcases trichotomous a aUsed b bUsed with
      ⟨isLess, _, _⟩ | ⟨_, isGreater, _⟩ | ⟨_, _, isEqual⟩
    · exact absurd isLess notLess
    · exact absurd isGreater notGreater
    · exact isEqual
  have incomparable_of_equal : ∀ a ∈ keys, ∀ b ∈ keys, equal a b → ¬ less a b ∧ ¬ less b a := by
    intro a aUsed b bUsed isEqual
    rcases trichotomous a aUsed b bUsed with
      ⟨_, _, notEqual⟩ | ⟨_, _, notEqual⟩ | ⟨notLess, notGreater, _⟩
    · exact absurd isEqual notEqual
    · exact absurd isEqual notEqual
    · exact ⟨notLess, notGreater⟩
  refine ⟨irreflexive, ?_, ?_, trichotomous, ?_, ?_, equalTransitive⟩
  · intro a aUsed b bUsed c cUsed aLess bLess
    rcases trichotomous a aUsed c cUsed with
      ⟨isLess, _, _⟩ | ⟨_, isGreater, _⟩ | ⟨_, _, isEqual⟩
    · exact isLess
    · exact absurd isGreater (acyclic a aUsed b bUsed c cUsed aLess bLess)
    · exact absurd (congruent a aUsed b bUsed c cUsed isEqual bLess)
        (asymmetric a aUsed b bUsed aLess)
  · intro a aUsed b bUsed c cUsed ab ba bc cb
    have isEqual := equalTransitive a aUsed b bUsed c cUsed
      (equal_of_incomparable a aUsed b bUsed ab ba)
      (equal_of_incomparable b bUsed c cUsed bc cb)
    exact incomparable_of_equal a aUsed c cUsed isEqual
  · intro a used
    exact equal_of_incomparable a used a used (irreflexive a used) (irreflexive a used)
  · intro a aUsed b bUsed isEqual
    obtain ⟨notLess, notGreater⟩ := incomparable_of_equal a aUsed b bUsed isEqual
    exact equal_of_incomparable b bUsed a aUsed notGreater notLess

end Trichotomy

section Union

variable {Rank : Type} [LinearOrder Rank] {rank : Key → Rank}
  {first second : Key → Key → Prop}

/-- One step of a union of three orders. -/
def UnionLess (rank : Key → Rank) (first second : Key → Key → Prop) (a b : Key) : Prop :=
  rank a < rank b ∨ first a b ∨ second a b

/-- Three orders that never contradict each other on two keys have no cycle of
three: the ranks in a cycle are equal, and of its three steps two that follow
each other are of one order, which contradicts the third. -/
theorem not_cycle_of_union {a b c : Key}
    (firstTransitive : ∀ {a b c}, first a b → first b c → first a c)
    (secondTransitive : ∀ {a b c}, second a b → second b c → second a c)
    (ab : UnionLess rank first second a b) (notBa : ¬ UnionLess rank first second b a)
    (bc : UnionLess rank first second b c) (notCb : ¬ UnionLess rank first second c b)
    (ca : UnionLess rank first second c a) (notAc : ¬ UnionLess rank first second a c) :
    False := by
  simp only [UnionLess, not_or, not_lt] at notBa notCb notAc
  have sameAb : rank a = rank b := le_antisymm notBa.1 (le_trans notCb.1 notAc.1)
  have sameBc : rank b = rank c := by
    rw [← sameAb]
    exact le_antisymm (le_trans notBa.1 notCb.1) notAc.1
  have tieAb := sameAb.not_lt
  have tieBc := sameBc.not_lt
  have tieCa := (sameAb.trans sameBc).symm.not_lt
  rcases ab.resolve_left tieAb with abFirst | abSecond
  · rcases bc.resolve_left tieBc with bcFirst | bcSecond
    · exact notAc.2.1 (firstTransitive abFirst bcFirst)
    · rcases ca.resolve_left tieCa with caFirst | caSecond
      · exact notCb.2.1 (firstTransitive caFirst abFirst)
      · exact notBa.2.2 (secondTransitive bcSecond caSecond)
  · rcases bc.resolve_left tieBc with bcFirst | bcSecond
    · rcases ca.resolve_left tieCa with caFirst | caSecond
      · exact notBa.2.1 (firstTransitive bcFirst caFirst)
      · exact notCb.2.2 (secondTransitive caSecond abSecond)
    · exact notAc.2.2 (secondTransitive abSecond bcSecond)

end Union

end MwCom.Containers
