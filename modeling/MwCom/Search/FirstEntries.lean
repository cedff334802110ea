/-
Module: MwCom.Search.FirstEntries
Purpose: Going through a list of keys with sets of values, where only the first entry of
  each key is counted: when that is the number of all pairs.
Trusted boundary: a set of values is a list without duplicates.
Main exports: firstEntries, pairs, length_firstEntries_eq_iff,
  pairs_firstEntries_of_agree
-/
import Mathlib.Data.Set.Card
import Mathlib.Data.List.Nodup

namespace Search

variable {α β : Type} [DecidableEq α]

/-- The entries whose keys were not seen before. -/
def firstEntries : List (α × List β) → (seen : List α) → List (α × List β)
  | [], _ => []
  | entry :: rest, seen =>
      if entry.1 ∈ seen then firstEntries rest seen
      else entry :: firstEntries rest (entry.1 :: seen)

omit [DecidableEq α] in
/-- The pairs of a key and a value of one of its entries, entry by entry. -/
def pairs (entries : List (α × List β)) : List (α × β) :=
  entries.flatMap fun entry => entry.2.map fun value => (entry.1, value)

omit [DecidableEq α] in
theorem mem_pairs {entries : List (α × List β)} {pair : α × β} :
    pair ∈ pairs entries ↔ ∃ entry ∈ entries, entry.1 = pair.1 ∧ pair.2 ∈ entry.2 := by
  rw [pairs, List.mem_flatMap]
  constructor
  · rintro ⟨entry, isEntry, member⟩
    obtain ⟨value, isValue, rfl⟩ := List.mem_map.mp member
    exact ⟨entry, isEntry, rfl, isValue⟩
  · rintro ⟨entry, isEntry, sameKey, isValue⟩
    exact ⟨entry, isEntry, List.mem_map.mpr ⟨pair.2, isValue, Prod.ext sameKey rfl⟩⟩

omit [DecidableEq α] in
theorem length_pairs_cons (entry : α × List β) (entries : List (α × List β)) :
    (pairs (entry :: entries)).length = entry.2.length + (pairs entries).length := by
  rw [pairs, List.flatMap_cons, List.length_append, List.length_map]
  rfl

omit [DecidableEq α] in
theorem pairs_append (one two : List (α × List β)) : pairs (one ++ two) = pairs one ++ pairs two :=
  List.flatMap_append

/-! ## The first entries -/

section First

variable {entries before behind : List (α × List β)} {entry : α × List β} {seen : List α}

theorem mem_of_mem_firstEntries (member : entry ∈ firstEntries entries seen) :
    entry ∈ entries ∧ entry.1 ∉ seen := by
  induction entries generalizing seen with
  | nil => cases member
  | cons first rest ih =>
      rw [firstEntries] at member
      split at member
      · obtain ⟨isRest, notSeen⟩ := ih member
        exact ⟨List.mem_cons_of_mem _ isRest, notSeen⟩
      · rename_i notSeen
        rcases List.mem_cons.mp member with rfl | later
        · exact ⟨List.mem_cons_self, notSeen⟩
        · obtain ⟨isRest, notSeenLater⟩ := ih later
          exact ⟨List.mem_cons_of_mem _ isRest,
            fun isSeen => notSeenLater (List.mem_cons_of_mem _ isSeen)⟩

/-- No key comes twice. -/
theorem nodup_keys_firstEntries : ((firstEntries entries seen).map Prod.fst).Nodup := by
  induction entries generalizing seen with
  | nil => exact List.nodup_nil
  | cons first rest ih =>
      rw [firstEntries]
      split
      · exact ih
      · rw [List.map_cons, List.nodup_cons]
        refine ⟨?_, ih⟩
        intro again
        obtain ⟨entry, isFirst, sameKey⟩ := List.mem_map.mp again
        apply (mem_of_mem_firstEntries isFirst).2
        rw [sameKey]
        exact List.mem_cons_self

/-- Every key that was not seen before has its first entry. -/
theorem exists_firstEntries (member : entry ∈ entries) (notSeen : entry.1 ∉ seen) :
    ∃ first ∈ firstEntries entries seen, first.1 = entry.1 := by
  induction entries generalizing seen with
  | nil => cases member
  | cons head rest ih =>
      rw [firstEntries]
      split
      · rename_i isSeen
        rcases List.mem_cons.mp member with rfl | later
        · exact absurd isSeen notSeen
        · exact ih later notSeen
      · by_cases sameKey : head.1 = entry.1
        · exact ⟨head, List.mem_cons_self, sameKey⟩
        · have later : entry ∈ rest := by
            apply (List.mem_cons.mp member).resolve_left
            intro isHead
            exact sameKey (congrArg Prod.fst isHead.symm)
          have notSeenNow : entry.1 ∉ head.1 :: seen := by
            intro again
            rcases List.mem_cons.mp again with isHead | isSeen
            · exact sameKey isHead.symm
            · exact notSeen isSeen
          obtain ⟨first, isFirst, isKey⟩ := ih later notSeenNow
          exact ⟨first, List.mem_cons_of_mem _ isFirst, isKey⟩

/-- An entry is the first of its key if none comes before it. -/
theorem mem_firstEntries_append (notSeen : entry.1 ∉ seen)
    (noneBefore : ∀ other ∈ before, other.1 ≠ entry.1) :
    entry ∈ firstEntries (before ++ entry :: behind) seen := by
  induction before generalizing seen with
  | nil =>
      rw [List.nil_append, firstEntries, if_neg notSeen]
      exact List.mem_cons_self
  | cons head rest ih =>
      have laterNone : ∀ other ∈ rest, other.1 ≠ entry.1 := fun other isRest =>
        noneBefore other (List.mem_cons_of_mem _ isRest)
      rw [List.cons_append, firstEntries]
      split
      · exact ih notSeen laterNone
      · apply List.mem_cons_of_mem
        apply ih _ laterNone
        intro again
        rcases List.mem_cons.mp again with isHead | isSeen
        · exact noneBefore head List.mem_cons_self isHead.symm
        · exact notSeen isSeen

/-- Two entries of one key that are both first are the same. -/
theorem eq_of_mem_firstEntries {other : α × List β} (isFirst : entry ∈ firstEntries entries seen)
    (isFirstToo : other ∈ firstEntries entries seen) (sameKey : entry.1 = other.1) :
    entry = other :=
  List.inj_on_of_nodup_map nodup_keys_firstEntries isFirst isFirstToo sameKey

end First

/-! ## Counting pairs -/

section Counting

variable {entries : List (α × List β)}

omit [DecidableEq α] in
theorem nodup_pairs (keys : (entries.map Prod.fst).Nodup)
    (values : ∀ entry ∈ entries, entry.2.Nodup) : (pairs entries).Nodup := by
  rw [pairs, List.nodup_flatMap]
  constructor
  · intro entry isEntry
    exact (values entry isEntry).map fun _ _ same => (Prod.mk.inj same).2
  · rw [List.Nodup, List.pairwise_map] at keys
    apply keys.imp
    intro one two differ pair inOne inTwo
    obtain ⟨_, _, rfl⟩ := List.mem_map.mp inOne
    obtain ⟨_, _, same⟩ := List.mem_map.mp inTwo
    exact differ (Prod.mk.inj same).1.symm

/-- Without duplicates the length of the list is the number of its pairs. -/
theorem length_eq_ncard [DecidableEq β] {list : List (α × β)} (nodup : list.Nodup) :
    list.length = { pair | pair ∈ list }.ncard := by
  rw [← List.toFinset_card_of_nodup nodup, ← Set.ncard_coe_finset]
  congr 1
  ext pair
  simp

/-- The first entries are as many pairs as there are at all exactly if every pair is one
of a first entry. -/
theorem length_firstEntries_eq_iff [DecidableEq β] (values : ∀ entry ∈ entries, entry.2.Nodup) :
    (pairs (firstEntries entries [])).length = { pair | pair ∈ pairs entries }.ncard ↔
      ∀ pair ∈ pairs entries, pair ∈ pairs (firstEntries entries []) := by
  have nodup : (pairs (firstEntries entries [])).Nodup := by
    apply nodup_pairs nodup_keys_firstEntries
    intro entry isFirst
    exact values entry (mem_of_mem_firstEntries isFirst).1
  have within : { pair | pair ∈ pairs (firstEntries entries []) } ⊆
      { pair | pair ∈ pairs entries } := by
    intro pair isFirst
    obtain ⟨entry, isEntry, isPair⟩ := mem_pairs.mp isFirst
    exact mem_pairs.mpr ⟨entry, (mem_of_mem_firstEntries isEntry).1, isPair⟩
  have finite : { pair | pair ∈ pairs entries }.Finite := List.finite_toSet _
  rw [length_eq_ncard nodup]
  constructor
  · intro sameNumber pair member
    have same := Set.eq_of_subset_of_ncard_le within sameNumber.ge finite
    have isPair : pair ∈ { pair | pair ∈ pairs entries } := member
    rw [← same] at isPair
    exact isPair
  · intro all
    have same : { pair | pair ∈ pairs (firstEntries entries []) } =
        { pair | pair ∈ pairs entries } := Set.Subset.antisymm within all
    rw [same]

omit [DecidableEq α] in
/-- The entries of one key have the same values. -/
def Agree (entries : List (α × List β)) : Prop :=
  ∀ one ∈ entries, ∀ two ∈ entries, one.1 = two.1 → ∀ value, value ∈ one.2 → value ∈ two.2

/-- If the entries of a key agree, each of them has all pairs of the key. -/
theorem pairs_firstEntries_of_agree (agree : Agree entries) :
    ∀ pair ∈ pairs entries, pair ∈ pairs (firstEntries entries []) := by
  intro pair member
  obtain ⟨entry, isEntry, sameKey, isValue⟩ := mem_pairs.mp member
  obtain ⟨first, isFirst, isKey⟩ := exists_firstEntries isEntry (List.not_mem_nil (a := entry.1))
  apply mem_pairs.mpr
  refine ⟨first, isFirst, isKey.trans sameKey, ?_⟩
  exact agree entry isEntry first (mem_of_mem_firstEntries isFirst).1 isKey.symm pair.2 isValue

end Counting

end Search
