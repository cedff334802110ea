/-
Module: MwCom.Containers.Wildcards
Purpose: Collecting the members of optional lists, of which an empty one stands
  for everybody and ends the collection.
Trusted boundary: none
Main exports: collect, Admits, foldl_insert, mem_collect_iff, admits_collect_iff
-/
import Mathlib.Data.Finset.Union

namespace MwCom.Containers.Wildcards

variable {User : Type} [DecidableEq User]

/-- The members of the lists that are there; one empty list makes it all of them empty. -/
def collect (users : Finset User) : List (Option (List User)) → Finset User
  | [] => users
  | none :: rest => collect users rest
  | some [] :: _ => ∅
  | some (first :: others) :: rest => collect (users ∪ (first :: others).toFinset) rest

/-- A set in which nobody is excludes nobody. -/
def Admits (users : Finset User) (user : User) : Prop := users = ∅ ∨ user ∈ users

instance (users : Finset User) (user : User) : Decidable (Admits users user) :=
  inferInstanceAs (Decidable (_ ∨ _))

variable {users : Finset User} {lists : List (Option (List User))} {user : User}

theorem foldl_insert (users : Finset User) (listed : List User) :
    listed.foldl (fun users user => insert user users) users = users ∪ listed.toFinset := by
  induction listed generalizing users with
  | nil => simp
  | cons first others ih =>
      rw [List.foldl_cons, ih, List.toFinset_cons]
      simp

theorem collect_of_wildcard (wildcard : some [] ∈ lists) : collect users lists = ∅ := by
  induction lists generalizing users with
  | nil => simp at wildcard
  | cons first rest ih =>
      rcases first with _ | ⟨_ | ⟨member, others⟩⟩
      · have later : some [] ∈ rest := by simpa using wildcard
        exact ih later
      · simp [collect]
      · have later : some [] ∈ rest := by simpa using wildcard
        exact ih later

theorem mem_collect_iff (noWildcard : some [] ∉ lists) : user ∈ collect users lists ↔
      user ∈ users ∨ ∃ listed, some listed ∈ lists ∧ user ∈ listed := by
  induction lists generalizing users with
  | nil => simp [collect]
  | cons first rest ih =>
      have later : some [] ∉ rest := by
        intro member
        exact noWildcard (List.mem_cons_of_mem first member)
      rcases first with _ | ⟨_ | ⟨member, others⟩⟩
      · simp [collect, ih later]
      · simp at noWildcard
      · have collected := @ih (users ∪ (member :: others).toFinset) later
        simp only [Finset.mem_union, List.mem_toFinset, or_assoc] at collected
        rw [collect, collected]
        simp

/-- Whom the collected members admit: everybody where some list is empty or there is no
list at all, and otherwise whoever is in one of the lists. -/
theorem admits_collect_iff : Admits (collect ∅ lists) user ↔
      some [] ∈ lists ∨ (∀ listed, some listed ∉ lists) ∨
        ∃ listed, some listed ∈ lists ∧ user ∈ listed := by
  by_cases wildcard : some [] ∈ lists
  · simp [Admits, collect_of_wildcard wildcard, wildcard]
  · have collected : ∀ other, other ∈ collect ∅ lists ↔
        other ∈ (∅ : Finset User) ∨ ∃ listed, some listed ∈ lists ∧ other ∈ listed := by
      intro other
      exact mem_collect_iff wildcard
    constructor
    · intro admitted
      rcases admitted with nobody | isCollected
      · right
        left
        intro listed member
        have filled : listed ≠ [] := by
          intro isEmpty
          exact wildcard (isEmpty ▸ member)
        obtain ⟨first, isFirst⟩ := List.exists_mem_of_ne_nil listed filled
        have present := (collected first).mpr (Or.inr ⟨listed, member, isFirst⟩)
        simp [nobody] at present
      · right
        right
        simpa using (collected user).mp isCollected
    · intro allowed
      rcases allowed with isWildcard | noList | listed
      · exact absurd isWildcard wildcard
      · left
        apply Finset.eq_empty_of_forall_notMem
        intro other isCollected
        rcases (collected other).mp isCollected with none | ⟨listed, member, _⟩
        · simp at none
        · exact noList listed member
      · right
        exact (collected user).mpr (Or.inr listed)

end MwCom.Containers.Wildcards
