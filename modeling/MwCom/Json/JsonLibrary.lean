/-
Module: MwCom.Json.JsonLibrary
Purpose: What a program relies on of a JSON library: values come back as they
  were put in, and the text of an object says what is in it.
Trusted boundary: a library that keeps `Lawful` and `Canonical`.
Main exports: JsonLibrary, Lawful, Canonical, insertAll
-/
import MwCom.Containers.UnorderedMap

namespace MwCom.Json

open Containers

/-- The operations of a JSON library: a value of each kind and what it is read
back as, and the members of an object. -/
structure JsonLibrary (Any Object : Type) where
  unsigned : (width : Nat) → BitVec width → Any
  asUnsigned : (width : Nat) → Any → Option (BitVec width)
  bool : Bool → Any
  asBool : Any → Option Bool
  string : String → Any
  asString : Any → Option String
  list : List Any → Any
  asList : Any → Option (List Any)
  object : Object → Any
  asObject : Any → Option Object
  empty : Object
  find : Object → String → Option Any
  set : Object → String → Any → Object
  members : Object → List (String × Any)
  toBuffer : Object → String

namespace JsonLibrary

variable {Any Object : Type} (json : JsonLibrary Any Object)

/-- The library returns the values put into it. -/
structure Lawful : Prop where
  asUnsigned_unsigned : ∀ width value,
    json.asUnsigned width (json.unsigned width value) = some value
  asBool_bool : ∀ value, json.asBool (json.bool value) = some value
  asString_string : ∀ value, json.asString (json.string value) = some value
  asList_list : ∀ values, json.asList (json.list values) = some values
  asObject_object : ∀ value, json.asObject (json.object value) = some value
  find_empty : ∀ key, json.find json.empty key = none
  find_set : ∀ object key value other, json.find (json.set object key value) other =
    if other = key then some value else json.find object other
  mem_members : ∀ object key value,
    (key, value) ∈ json.members object ↔ json.find object key = some value
  nodup_members : ∀ object, ((json.members object).map Prod.fst).Nodup

/-- An object is its members, and its text determines it. -/
structure Canonical : Prop where
  ext : ∀ object other, (∀ key, json.find object key = json.find other key) → object = other
  toBuffer_injective : Function.Injective json.toBuffer

/-- `none`: the member is there already, which the callers assert not to
happen. -/
def insert (object : Object) (key : String) (value : Any) : Option Object :=
  match json.find object key with
  | some _ => none
  | none => some (json.set object key value)

/-- Insert members one after the other. -/
def insertAll : List (String × Any) → Object → Option Object
  | [], object => some object
  | (key, value) :: rest, object => do
      let object ← json.insert object key value
      insertAll rest object

/-- A member that is only there if it has a value. -/
def setOptional (object : Object) (key : String) (value : Option Any) : Object :=
  match value with
  | some value => json.set object key value
  | none => object

variable {json}

theorem Lawful.object_inj (lawful : json.Lawful) {object other : Object}
    (same : json.object object = json.object other) : object = other := by
  have read := lawful.asObject_object object
  rw [same, lawful.asObject_object] at read
  exact (Option.some.inj read).symm

theorem Lawful.find_setOptional (lawful : json.Lawful) {object : Object} {key : String}
    {value : Option Any} {other : String} :
    json.find (json.setOptional object key value) other =
      if other = key then value.or (json.find object other) else json.find object other := by
  cases value with
  | none => simp [setOptional]
  | some value => simp [setOptional, lawful.find_set]

/-- Members with keys of their own are all inserted. -/
theorem Lawful.exists_insertAll (lawful : json.Lawful) {entries : List (String × Any)}
    (unique : (entries.map Prod.fst).Nodup) {object : Object}
    (fresh : ∀ key ∈ entries.map Prod.fst, json.find object key = none) :
    ∃ filled, json.insertAll entries object = some filled ∧
      ∀ key, json.find filled key = (entries.lookup key).or (json.find object key) := by
  induction entries generalizing object with
  | nil => exact ⟨object, rfl, fun key => by simp⟩
  | cons first rest ih =>
      obtain ⟨firstKey, firstValue⟩ := first
      rw [List.map_cons, List.nodup_cons] at unique
      have absent : json.find object firstKey = none := fresh firstKey List.mem_cons_self
      have stillFresh : ∀ key ∈ rest.map Prod.fst,
          json.find (json.set object firstKey firstValue) key = none := by
        intro key member
        have differs : key ≠ firstKey := by
          intro same
          rw [same] at member
          exact unique.1 member
        rw [lawful.find_set, if_neg differs]
        exact fresh key (List.mem_cons_of_mem _ member)
      obtain ⟨filled, isFilled, finds⟩ := ih unique.2 stillFresh
      refine ⟨filled, ?_, ?_⟩
      · rw [insertAll, insert, absent]
        exact isFilled
      · intro key
        rw [finds, lawful.find_set, lookup_cons_eq_ite]
        by_cases same : key = firstKey
        · have later : rest.lookup firstKey = none := by
            apply Option.eq_none_iff_forall_ne_some.mpr
            intro value found
            apply unique.1
            exact List.mem_map.mpr ⟨(firstKey, value), (lookup_eq_some_iff unique.2).mp found, rfl⟩
          simp [same, later]
        · rw [if_neg same, if_neg same]

/-! ## Maps as objects -/

section Maps

variable {Key Value : Type}

/-- The members of an object that a map is written as. -/
def writeMap (json : JsonLibrary Any Object) (name : Key → String) (write : Value → Any)
    (map : UnorderedMap Key Value) : Option Object :=
  json.insertAll (map.entries.map fun entry => (name entry.1, write entry.2)) json.empty

variable {name : Key → String} {write : Value → Any} {map : UnorderedMap Key Value}

theorem nodup_names (injective : Function.Injective name) :
    ((map.entries.map fun entry => (name entry.1, write entry.2)).map Prod.fst).Nodup := by
  rw [List.map_map]
  have names : Prod.fst ∘ (fun entry : Key × Value => (name entry.1, write entry.2)) =
      name ∘ Prod.fst := rfl
  rw [names, ← List.map_map]
  exact List.Nodup.map injective map.unique

/-- A map is written as an object with its members. -/
theorem Lawful.exists_writeMap (lawful : json.Lawful)
    (injective : Function.Injective name) (write : Value → Any) (map : UnorderedMap Key Value) :
    ∃ object, json.writeMap name write map = some object ∧
      ∀ key value, json.find object key = some value ↔
        ∃ entry ∈ map.entries, name entry.1 = key ∧ write entry.2 = value := by
  obtain ⟨object, written, finds⟩ := lawful.exists_insertAll
    (nodup_names injective : ((map.entries.map fun entry =>
      (name entry.1, write entry.2)).map Prod.fst).Nodup)
    (fun key _ => lawful.find_empty key)
  refine ⟨object, written, ?_⟩
  intro key value
  rw [finds, lawful.find_empty, Option.or_none,
    lookup_eq_some_iff (nodup_names injective), List.mem_map]
  simp only [Prod.mk.injEq]

variable [DecidableEq Key]

/-- Maps that show the same are written alike. -/
theorem Lawful.writeMap_congr (lawful : json.Lawful) (canonical : json.Canonical)
    (injective : Function.Injective name) {Shown : Type} (view : Value → Shown)
    (shown : ∀ one two, view one = view two → write one = write two)
    {other : UnorderedMap Key Value}
    (same : ∀ key, (map.find key).map view = (other.find key).map view) :
    json.writeMap name write map = json.writeMap name write other := by
  have transfer {one two : UnorderedMap Key Value}
      (same : ∀ key, (one.find key).map view = (two.find key).map view)
      {key : String} {value : Any}
      (found : ∃ entry ∈ one.entries, name entry.1 = key ∧ write entry.2 = value) :
      ∃ entry ∈ two.entries, name entry.1 = key ∧ write entry.2 = value := by
    obtain ⟨⟨entryKey, entryValue⟩, present, isKey, isValue⟩ := found
    have shows := same entryKey
    rw [UnorderedMap.find_eq_some_iff.mpr present, Option.map_some, eq_comm,
      Option.map_eq_some_iff] at shows
    obtain ⟨otherValue, isFound, showsSame⟩ := shows
    refine ⟨(entryKey, otherValue), UnorderedMap.find_eq_some_iff.mp isFound, isKey, ?_⟩
    rw [← isValue]
    exact shown _ _ showsSame
  obtain ⟨oneObject, oneWritten, oneFinds⟩ := lawful.exists_writeMap injective write map
  obtain ⟨twoObject, twoWritten, twoFinds⟩ := lawful.exists_writeMap injective write other
  rw [oneWritten, twoWritten]
  congr 1
  apply canonical.ext
  intro key
  apply Option.ext
  intro value
  rw [oneFinds, twoFinds]
  constructor
  · exact transfer same
  · exact transfer fun key => (same key).symm

/-- `none`: the name or the value cannot be read. -/
def readMember (readName : String → Option Key) (read : Any → Option Value)
    (member : String × Any) : Option (Key × Value) := do
  let key ← readName member.1
  let value ← read member.2
  pure (key, value)

/-- The map that the members of an object are read as. -/
def readMap (json : JsonLibrary Any Object) (readName : String → Option Key)
    (read : Any → Option Value) (object : Object) : Option (UnorderedMap Key Value) :=
  UnorderedMap.fill (readMember readName read) (json.members object) .empty

variable {readName : String → Option Key} {read : Any → Option Value}

omit [DecidableEq Key] in
theorem readMember_eq_some_iff {member : String × Any} {entry : Key × Value} :
    readMember readName read member = some entry ↔
      readName member.1 = some entry.1 ∧ read member.2 = some entry.2 := by
  obtain ⟨key, value⟩ := entry
  simp only [readMember, Option.bind_eq_bind, Option.bind_eq_some_iff, Option.pure_def,
    Option.some.injEq, Prod.mk.injEq]
  constructor
  · rintro ⟨_, isKey, _, isValue, rfl, rfl⟩
    exact ⟨isKey, isValue⟩
  · rintro ⟨isKey, isValue⟩
    exact ⟨key, isKey, value, isValue, rfl, rfl⟩

/-- What is read of a map that was written. -/
theorem Lawful.exists_readMap (lawful : json.Lawful)
    (names : ∀ text key, readName text = some key ↔ text = name key)
    {back : Value → Value} (reads : ∀ value, read (write value) = some (back value))
    (map : UnorderedMap Key Value) :
    ∃ object filled, json.writeMap name write map = some object ∧
      json.readMap readName read object = some filled ∧
      ∀ key, filled.find key = (map.find key).map back := by
  have injective : Function.Injective name := by
    intro one two same
    have isOne := (names (name one) one).mpr rfl
    rw [(names (name one) two).mpr same] at isOne
    exact (Option.some.inj isOne).symm
  obtain ⟨object, written, finds⟩ := lawful.exists_writeMap injective write map
  have memberRead (member : String × Any) (entry : Key × Value) :
      member ∈ json.members object ∧ readMember readName read member = some entry ↔
        ∃ value, (entry.1, value) ∈ map.entries ∧ back value = entry.2 ∧
          member = (name entry.1, write value) := by
    obtain ⟨text, content⟩ := member
    rw [lawful.mem_members, finds, readMember_eq_some_iff, names]
    constructor
    · rintro ⟨⟨⟨key, value⟩, present, isName, isWritten⟩, isText, isRead⟩
      have sameKey : key = entry.1 := injective (isName.trans isText)
      simp only at isWritten
      rw [← isWritten, reads] at isRead
      refine ⟨value, by rw [← sameKey]; exact present, Option.some.inj isRead, ?_⟩
      rw [← isText, ← isWritten]
    · rintro ⟨value, present, isBack, isMember⟩
      rw [Prod.mk.injEq] at isMember
      obtain ⟨isText, isContent⟩ := isMember
      refine ⟨⟨(entry.1, value), present, isText.symm, isContent.symm⟩, isText, ?_⟩
      rw [isContent, reads, isBack]
  have allRead : ∀ member ∈ json.members object,
      ∃ entry, readMember readName read member = some entry := by
    intro member isMember
    obtain ⟨text, content⟩ := member
    obtain ⟨entry, present, isName, isWritten⟩ :=
      (finds text content).mp ((lawful.mem_members object text content).mp isMember)
    have isEntry := (memberRead (text, content) (entry.1, back entry.2)).mpr
      ⟨entry.2, present, rfl, by rw [isName, isWritten]⟩
    exact ⟨(entry.1, back entry.2), isEntry.2⟩
  have unique : (((json.members object).filterMap (readMember readName read)).map
      Prod.fst).Nodup := by
    rw [List.Nodup, List.pairwise_map, List.pairwise_filterMap]
    have differ := List.pairwise_map.mp (lawful.nodup_members object)
    apply differ.imp
    intro one two differs entry isOne other isTwo same
    apply differs
    rw [(names one.1 entry.1).mp (readMember_eq_some_iff.mp isOne).1,
      (names two.1 other.1).mp (readMember_eq_some_iff.mp isTwo).1, same]
  obtain ⟨filled, isFilled, entries⟩ :=
    @UnorderedMap.exists_fill Key Value _ _ .empty _ _ allRead unique
  refine ⟨object, filled, written, isFilled, ?_⟩
  intro key
  apply Option.ext
  intro value
  rw [UnorderedMap.find_eq_some_iff, entries, Option.map_eq_some_iff]
  simp only [UnorderedMap.find_eq_some_iff]
  constructor
  · intro isEntry
    obtain ⟨member, isMember, isRead⟩ := List.mem_filterMap.mp isEntry
    obtain ⟨present, isPresent, isBack, _⟩ := (memberRead member (key, value)).mp ⟨isMember, isRead⟩
    exact ⟨present, isPresent, isBack⟩
  · rintro ⟨present, isPresent, isBack⟩
    obtain ⟨isMember, isRead⟩ := (memberRead (name key, write present) (key, value)).mpr
      ⟨present, isPresent, isBack, rfl⟩
    exact List.mem_filterMap.mpr ⟨_, isMember, isRead⟩

end Maps

end JsonLibrary

end MwCom.Json
