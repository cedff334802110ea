/-
Module: MwCom.Containers.UnorderedMap
Purpose: Maps with unique keys in an order nobody relies on, and filling one in
  a loop.
Trusted boundary: none
Main exports: UnorderedMap, find, insert?, fill, find_eq_some_iff, exists_fill
-/
import Mathlib.Data.List.Nodup

namespace MwCom.Containers

variable {Key Value Entry : Type}

/-! ## Lists of entries -/

section Lookup

variable [DecidableEq Key]

theorem lookup_cons_eq_ite {firstKey : Key} {firstValue : Value}
    {rest : List (Key × Value)} {key : Key} :
    ((firstKey, firstValue) :: rest).lookup key =
      if key = firstKey then some firstValue else rest.lookup key := by
  rw [List.lookup_cons]
  by_cases same : key = firstKey
  · simp [same]
  · have differs : (key == firstKey) = false := by simp [same]
    rw [differs, if_neg same]

/-- Where keys are unique, looking up a key finds its entry. -/
theorem lookup_eq_some_iff {entries : List (Key × Value)}
    (unique : (entries.map Prod.fst).Nodup) {key : Key} {value : Value} :
    entries.lookup key = some value ↔ (key, value) ∈ entries := by
  induction entries with
  | nil => simp
  | cons first rest ih =>
      obtain ⟨firstKey, firstValue⟩ := first
      rw [List.map_cons, List.nodup_cons] at unique
      rw [lookup_cons_eq_ite]
      by_cases same : key = firstKey
      · have absent : (key, value) ∉ rest := by
          intro member
          apply unique.1
          rw [← same]
          exact List.mem_map.mpr ⟨(key, value), member, rfl⟩
        simp [same, eq_comm, same ▸ absent]
      · rw [if_neg same, ih unique.2]
        simp [same]

end Lookup

/-- What a loop that may fail keeps in every pass holds when it is through. -/
theorem foldlM_keeps {State Item : Type} {step : State → Item → Option State} (Inv : State → Prop)
    (kept : ∀ state item after, Inv state → step state item = some after → Inv after)
    {items : List Item} {state result : State} (initially : Inv state)
    (folded : items.foldlM step state = some result) : Inv result := by
  induction items generalizing state with
  | nil =>
      cases folded
      exact initially
  | cons item rest ih =>
      rw [List.foldlM_cons] at folded
      obtain ⟨after, stepped, folded⟩ := Option.bind_eq_some_iff.mp folded
      exact ih (kept state item after initially stepped) folded

/-! ## Maps -/

/-- A `std::unordered_map`: its entries, none with the key of another. -/
structure UnorderedMap (Key Value : Type) where
  entries : List (Key × Value)
  unique : (entries.map Prod.fst).Nodup
deriving DecidableEq

namespace UnorderedMap

def empty : UnorderedMap Key Value where
  entries := []
  unique := List.nodup_nil

variable [DecidableEq Key]

def find (map : UnorderedMap Key Value) (key : Key) : Option Value := map.entries.lookup key

/-- `none`: the key is there already, which the callers assert not to happen. -/
def insert? (map : UnorderedMap Key Value) (key : Key) (value : Value) :
    Option (UnorderedMap Key Value) :=
  if absent : key ∉ map.entries.map Prod.fst then
    some
      { entries := map.entries ++ [(key, value)]
        unique := by
          rw [List.map_append]
          exact List.Nodup.append map.unique (List.nodup_singleton key)
            (List.disjoint_singleton.mpr absent) }
  else
    none

/-- The value of a key, that is there afterwards, whether it was before or not. -/
def assign (map : UnorderedMap Key Value) (key : Key) (value : Value) : UnorderedMap Key Value where
  entries := map.entries.filter (·.1 ≠ key) ++ [(key, value)]
  unique := by
    have absent : key ∉ (map.entries.filter (·.1 ≠ key)).map Prod.fst := by
      intro member
      obtain ⟨entry, kept, isKey⟩ := List.mem_map.mp member
      have differs := (List.mem_filter.mp kept).2
      simp [isKey] at differs
    rw [List.map_append]
    exact List.Nodup.append (map.unique.sublist (List.filter_sublist.map _))
      (List.nodup_singleton key) (List.disjoint_singleton.mpr absent)

/-- Insert what is read of each entry, one after the other. -/
def fill (read : Entry → Option (Key × Value)) :
    List Entry → UnorderedMap Key Value → Option (UnorderedMap Key Value)
  | [], map => some map
  | entry :: rest, map => do
      let (key, value) ← read entry
      let map ← map.insert? key value
      fill read rest map

variable {map other : UnorderedMap Key Value} {key : Key} {value : Value}

theorem find_eq_some_iff : map.find key = some value ↔ (key, value) ∈ map.entries :=
  lookup_eq_some_iff map.unique

/-- A key that is inserted was not there, and is found then. -/
theorem find_insert? (inserted : map.insert? key value = some other) (sought : Key) :
    map.find key = none ∧
      other.find sought = if sought = key then some value else map.find sought := by
  rw [insert?] at inserted
  split at inserted
  · rename_i absent
    cases inserted
    have notFound : map.find key = none := by
      apply Option.eq_none_iff_forall_ne_some.mpr
      intro found isFound
      exact absent (List.mem_map.mpr ⟨_, find_eq_some_iff.mp isFound, rfl⟩)
    refine ⟨notFound, ?_⟩
    change (map.entries ++ [(key, value)]).lookup sought = _
    rw [List.lookup_append]
    by_cases same : sought = key
    · have missing : map.entries.lookup key = none := notFound
      simp [same, missing]
    · have differs : (sought == key) = false := by simp [same]
      simp [List.lookup_cons, differs, same, find]
  · cases inserted

/-- A key that is there is not inserted. -/
theorem insert?_of_find {present : Value} (found : map.find key = some present) :
    map.insert? key value = none := by
  rw [insert?, dif_neg]
  exact fun absent => absent (List.mem_map.mpr ⟨_, find_eq_some_iff.mp found, rfl⟩)

/-- A key that is not there is inserted. -/
theorem find_assign (sought : Key) :
    (map.assign key value).find sought = if sought = key then some value else map.find sought := by
  have lookup_filter : ∀ entries : List (Key × Value), sought ≠ key →
      (entries.filter (·.1 ≠ key)).lookup sought = entries.lookup sought := by
    intro entries differs
    induction entries with
    | nil => rfl
    | cons first rest ih =>
        obtain ⟨firstKey, firstValue⟩ := first
        by_cases same : firstKey = key
        · rw [List.filter_cons_of_neg (by simpa using same), ih,
            lookup_cons_eq_ite, if_neg (same ▸ differs)]
        · rw [List.filter_cons_of_pos (by simpa using same), lookup_cons_eq_ite,
            lookup_cons_eq_ite, ih]
  by_cases same : sought = key
  · rw [if_pos same, find_eq_some_iff, same]
    exact List.mem_append_right _ (List.mem_singleton.mpr rfl)
  · rw [if_neg same]
    unfold find assign
    rw [List.lookup_append, lookup_filter map.entries same, lookup_cons_eq_ite, if_neg same]
    simp

variable {read : Entry → Option (Key × Value)} {entries : List Entry}
  {filled : UnorderedMap Key Value}

/-- What is found in a map that was filled was read, or was there before. -/
theorem find_of_fill (isFilled : fill read entries map = some filled)
    (found : filled.find key = some value) :
    map.find key = some value ∨ ∃ entry ∈ entries, read entry = some (key, value) := by
  induction entries generalizing map with
  | nil =>
      cases isFilled
      exact .inl found
  | cons first rest ih =>
      simp only [fill, Option.bind_eq_bind, Option.bind_eq_some_iff] at isFilled
      obtain ⟨⟨firstKey, firstValue⟩, isRead, inserted, isInserted, isFilled⟩ := isFilled
      obtain before | ⟨entry, member, readEntry⟩ := ih isFilled
      · rw [(find_insert? isInserted key).2] at before
        by_cases same : key = firstKey
        · rw [if_pos same] at before
          cases before
          exact .inr ⟨first, List.mem_cons_self, same ▸ isRead⟩
        · rw [if_neg same] at before
          exact .inl before
      · exact .inr ⟨entry, List.mem_cons_of_mem _ member, readEntry⟩

/-- To fill a map every entry is read. -/
theorem reads_of_fill (isFilled : fill read entries map = some filled) :
    ∀ entry ∈ entries, ∃ pair, read entry = some pair := by
  induction entries generalizing map with
  | nil =>
      intro entry member
      cases member
  | cons first rest ih =>
      simp only [fill, Option.bind_eq_bind, Option.bind_eq_some_iff] at isFilled
      obtain ⟨pair, isRead, inserted, _, isFilled⟩ := isFilled
      intro entry member
      rcases List.mem_cons.mp member with isFirst | later
      · exact ⟨pair, isFirst ▸ isRead⟩
      · exact ih isFilled entry later

/-- A filled map finds what was read, and what was there before. -/
theorem find_fill_iff (isFilled : fill read entries map = some filled) :
    filled.find key = some value ↔
      map.find key = some value ∨ ∃ entry ∈ entries, read entry = some (key, value) := by
  constructor
  · exact find_of_fill isFilled
  · induction entries generalizing map with
    | nil =>
        cases isFilled
        rintro (before | ⟨entry, member, _⟩)
        · exact before
        · cases member
    | cons first rest ih =>
        simp only [fill, Option.bind_eq_bind, Option.bind_eq_some_iff] at isFilled
        obtain ⟨⟨firstKey, firstValue⟩, isRead, inserted, isInserted, isFilled⟩ := isFilled
        have found := find_insert? isInserted key
        rintro (before | ⟨entry, member, readEntry⟩)
        · apply ih isFilled
          left
          rw [found.2, if_neg]
          · exact before
          · intro same
            have missing := (find_insert? isInserted firstKey).1
            rw [← same, before] at missing
            cases missing
        · apply ih isFilled
          rcases List.mem_cons.mp member with isFirst | later
          · left
            rw [isFirst, isRead] at readEntry
            cases readEntry
            rw [found.2, if_pos rfl]
          · exact .inr ⟨entry, later, readEntry⟩

/-- Entries that are read with keys of their own are all inserted. -/
theorem exists_fill (reads : ∀ entry ∈ entries, ∃ pair, read entry = some pair)
    (unique : ((map.entries ++ entries.filterMap read).map Prod.fst).Nodup) :
    ∃ filled, fill read entries map = some filled ∧
      filled.entries = map.entries ++ entries.filterMap read := by
  induction entries generalizing map with
  | nil => exact ⟨map, rfl, by rw [List.filterMap_nil, List.append_nil]⟩
  | cons first rest ih =>
      obtain ⟨pair, isRead⟩ := reads first List.mem_cons_self
      obtain ⟨key, value⟩ := pair
      rw [List.filterMap_cons, isRead] at unique ⊢
      change ((map.entries ++ (key, value) :: rest.filterMap read).map Prod.fst).Nodup at unique
      have absent : key ∉ map.entries.map Prod.fst := by
        rw [List.map_append, List.map_cons, List.nodup_append_comm, List.cons_append,
          List.nodup_cons] at unique
        intro member
        exact unique.1 (List.mem_append_right _ member)
      obtain ⟨inserted, isInserted, extended⟩ : ∃ inserted, map.insert? key value = some inserted ∧
            inserted.entries = map.entries ++ [(key, value)] := by
        rw [insert?, dif_pos absent]
        exact ⟨_, rfl, rfl⟩
      have whole : inserted.entries ++ rest.filterMap read =
          map.entries ++ (key, value) :: rest.filterMap read := by
        rw [extended, List.append_assoc]
        rfl
      obtain ⟨filled, isFilled, sameEntries⟩ :=
        ih (fun entry member => reads entry (List.mem_cons_of_mem _ member))
          (by rw [whole]; exact unique)
      refine ⟨filled, ?_, by rw [sameEntries, whole]⟩
      rw [fill, isRead]
      change (map.insert? key value >>= fun map => fill read rest map) = some filled
      rw [isInserted]
      exact isFilled

end UnorderedMap

end MwCom.Containers
