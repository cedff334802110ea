/-
Module: MwCom.Json.SortedJson
Purpose: A JSON library whose objects keep their members in the order of the
  keys, with the text it writes.
Trusted boundary: control characters of a string are written as they are.
Main exports: JsonValue, write, JsonObject, sortedJson, sortedJson_lawful,
  sortedJson_canonical
-/
import Mathlib.Data.List.Sort
import Mathlib.Data.String.Basic
import MwCom.Json.JsonLibrary

namespace MwCom.Json

open Containers

/-! ## Values and their text -/

inductive JsonValue where
  | number (value : ℕ)
  | bool (value : Bool)
  | string (value : String)
  | list (values : List JsonValue)
  | object (members : List (String × JsonValue))

/-- Quotes and backslashes are escaped. -/
def escape (character : Char) : List Char :=
  if character = '"' ∨ character = '\\' then ['\\', character] else [character]

def quote (text : String) : List Char := '"' :: (text.toList.flatMap escape ++ ['"'])

/-- There is no comma before the first entry. -/
def separator (first : Bool) : List Char := if first then [] else [',']

namespace JsonValue

mutual

def write : JsonValue → List Char
  | .number value => Nat.toDigits 10 value
  | .bool value => if value then ['t', 'r', 'u', 'e'] else ['f', 'a', 'l', 's', 'e']
  | .string value => quote value
  | .list values => '[' :: writeValues true values
  | .object members => '{' :: writeMembers true members

def writeValues (first : Bool) : List JsonValue → List Char
  | [] => [']']
  | value :: rest => separator first ++ (value.write ++ writeValues false rest)

def writeMembers (first : Bool) : List (String × JsonValue) → List Char
  | [] => ['}']
  | (key, value) :: rest =>
      separator first ++ (quote key ++ ':' :: (value.write ++ writeMembers false rest))

end

/-! ## What a text starts with -/

inductive Kind where
  | number
  | bool
  | string
  | list
  | object
deriving DecidableEq

def kind : JsonValue → Kind
  | .number _ => .number
  | .bool _ => .bool
  | .string _ => .string
  | .list _ => .list
  | .object _ => .object

/-- The kind of value that a character starts. -/
def kindOf (character : Char) : Option Kind :=
  if character.isDigit then some .number
  else if character = 't' ∨ character = 'f' then some .bool
  else if character = '"' then some .string
  else if character = '[' then some .list
  else if character = '{' then some .object
  else none

end JsonValue

/-- A text that does not go on with a digit. -/
def Ends (text : List Char) : Prop := ∀ first ∈ text.head?, first.isDigit = false

variable {rest next : List Char}

theorem toDigits_append_inj {one two : ℕ} (restEnds : Ends rest) (nextEnds : Ends next)
    (same : Nat.toDigits 10 one ++ rest = Nat.toDigits 10 two ++ next) :
    one = two ∧ rest = next := by
  have leading (value : ℕ) {rest : List Char} (restEnds : Ends rest) :
      (Nat.toDigits 10 value ++ rest).takeWhile Char.isDigit = Nat.toDigits 10 value := by
    have digits : ∀ digit ∈ Nat.toDigits 10 value, digit.isDigit = true :=
      fun digit member => Nat.isDigit_of_mem_toDigits (by decide) (by decide) member
    rw [List.takeWhile_append_of_pos digits]
    cases rest with
    | nil => simp
    | cons first rest => simp [restEnds first rfl]
  have digits := congrArg (List.takeWhile Char.isDigit) same
  rw [leading one restEnds, leading two nextEnds] at digits
  have numbers : one = two := by
    rw [← Nat.ofDigitChars_ten_toDigits (n := one), digits, Nat.ofDigitChars_ten_toDigits]
  rw [digits] at same
  exact ⟨numbers, List.append_cancel_left same⟩

theorem escape_append_inj {one two : List Char}
    (same : one.flatMap escape ++ '"' :: rest = two.flatMap escape ++ '"' :: next) :
    one = two ∧ rest = next := by
  -- an escaped character never starts with a quote
  have starts (character : Char) : escape character = ['\\', character] ∧
      (character = '"' ∨ character = '\\') ∨
      escape character = [character] ∧ character ≠ '"' ∧ character ≠ '\\' := by
    by_cases special : character = '"' ∨ character = '\\'
    · exact .inl ⟨if_pos special, special⟩
    · exact .inr ⟨if_neg special, not_or.mp special⟩
  induction one generalizing two with
  | nil =>
      cases two with
      | nil => simpa using same
      | cons second two =>
          rcases starts second with ⟨escaped, _⟩ | ⟨escaped, notQuote, _⟩
          · simp [escaped] at same
          · simp [escaped, notQuote.symm] at same
  | cons first one ih =>
      cases two with
      | nil =>
          rcases starts first with ⟨escaped, _⟩ | ⟨escaped, notQuote, _⟩
          · simp [escaped] at same
          · simp [escaped, notQuote] at same
      | cons second two =>
          have heads : first = second ∧ one.flatMap escape ++ '"' :: rest =
              two.flatMap escape ++ '"' :: next := by
            rcases starts first with ⟨escapedFirst, _⟩ | ⟨escapedFirst, _, notBackslash⟩
            · rcases starts second with ⟨escaped, _⟩ | ⟨escaped, _, notSlash⟩
              · simpa [escapedFirst, escaped] using same
              · simp [escapedFirst, escaped, notSlash.symm] at same
            · rcases starts second with ⟨escaped, _⟩ | ⟨escaped, _, _⟩
              · simp [escapedFirst, escaped, notBackslash] at same
              · simpa [escapedFirst, escaped] using same
          obtain ⟨tails, rests⟩ := ih heads.2
          exact ⟨by rw [heads.1, tails], rests⟩

theorem quote_append_inj {one two : String} (same : quote one ++ rest = quote two ++ next) :
    one = two ∧ rest = next := by
  have characters : one.toList.flatMap escape ++ '"' :: rest =
      two.toList.flatMap escape ++ '"' :: next := by
    simpa [quote] using same
  obtain ⟨texts, rests⟩ := escape_append_inj characters
  exact ⟨String.toList_inj.mp texts, rests⟩

/-! ## The text says which value it is -/

namespace JsonValue

theorem exists_write (value : JsonValue) :
    ∃ first rest, value.write = first :: rest ∧ kindOf first = some value.kind := by
  cases value with
  | number value =>
      obtain ⟨first, rest, digits⟩ := List.exists_cons_of_ne_nil
        (Nat.toDigits_ne_nil : Nat.toDigits 10 value ≠ [])
      have member : first ∈ Nat.toDigits 10 value := by
        rw [digits]
        exact List.mem_cons_self
      have isDigit : first.isDigit = true :=
        Nat.isDigit_of_mem_toDigits (by decide) (by decide) member
      exact ⟨first, rest, by rw [write, digits], by rw [kindOf, if_pos isDigit, kind]⟩
  | bool value =>
      cases value with
      | true => exact ⟨'t', ['r', 'u', 'e'], by rw [write, if_pos rfl], by decide⟩
      | false => exact ⟨'f', ['a', 'l', 's', 'e'], by simp [write], by decide⟩
  | string value => exact ⟨'"', _, by rw [write, quote], rfl⟩
  | list values => exact ⟨'[', _, by rw [write], rfl⟩
  | object members => exact ⟨'{', _, by rw [write], rfl⟩

variable {rest : List Char}

/-- Texts that start alike are of values of one kind. -/
theorem kind_eq {one two : JsonValue} {next : List Char}
    (same : one.write ++ rest = two.write ++ next) : one.kind = two.kind := by
  obtain ⟨first, _, oneText, firstKind⟩ := one.exists_write
  obtain ⟨second, _, twoText, secondKind⟩ := two.exists_write
  rw [oneText, twoText, List.cons_append, List.cons_append, List.cons.injEq] at same
  rw [same.1, secondKind] at firstKind
  exact (Option.some.inj firstKind).symm

/-- No value starts with the character that ends a list or an object. -/
theorem write_ne {value : JsonValue} {stop : Char} (noKind : kindOf stop = none)
    {next : List Char} : value.write ++ rest ≠ stop :: next := by
  obtain ⟨first, _, text, firstKind⟩ := value.exists_write
  intro same
  rw [text, List.cons_append, List.cons.injEq] at same
  rw [same.1, noKind] at firstKind
  cases firstKind

theorem ends_of_not_digit {first : Char} (notDigit : first.isDigit = false) :
    Ends (first :: rest) := by
  intro other isHead
  rw [List.head?_cons, Option.mem_some_iff] at isHead
  rw [← isHead]
  exact notDigit

theorem ends_writeValues (values : List JsonValue) (rest : List Char) :
    Ends (writeValues false values ++ rest) := by
  cases values with
  | nil | cons value values => exact ends_of_not_digit rfl

theorem ends_writeMembers (members : List (String × JsonValue)) (rest : List Char) :
    Ends (writeMembers false members ++ rest) := by
  cases members with
  | nil | cons member members => exact ends_of_not_digit rfl

mutual

/-- A text and where it ends determine the value. -/
theorem write_append_inj : ∀ {one two : JsonValue} {rest next : List Char},
    Ends rest → Ends next → one.write ++ rest = two.write ++ next → one = two ∧ rest = next
  | .number one, two, rest, next, restEnds, nextEnds, same => by
      cases two with
      | number two =>
          rw [write, write] at same
          obtain ⟨numbers, rests⟩ := toDigits_append_inj restEnds nextEnds same
          exact ⟨by rw [numbers], rests⟩
      | _ => cases kind_eq same
  | .bool one, two, rest, next, _, _, same => by
      cases two with
      | bool two =>
          rw [write, write] at same
          cases one <;> cases two <;> simp_all
      | _ => cases kind_eq same
  | .string one, two, rest, next, _, _, same => by
      cases two with
      | string two =>
          rw [write, write] at same
          obtain ⟨texts, rests⟩ := quote_append_inj same
          exact ⟨by rw [texts], rests⟩
      | _ => cases kind_eq same
  | .list one, two, rest, next, _, _, same => by
      cases two with
      | list two =>
          rw [write, write, List.cons_append, List.cons_append, List.cons.injEq] at same
          obtain ⟨values, rests⟩ := writeValues_append_inj same.2
          exact ⟨by rw [values], rests⟩
      | _ => cases kind_eq same
  | .object one, two, rest, next, _, _, same => by
      cases two with
      | object two =>
          rw [write, write, List.cons_append, List.cons_append, List.cons.injEq] at same
          obtain ⟨members, rests⟩ := writeMembers_append_inj same.2
          exact ⟨by rw [members], rests⟩
      | _ => cases kind_eq same

theorem writeValues_append_inj : ∀ {first : Bool} {one two : List JsonValue}
    {rest next : List Char}, writeValues first one ++ rest = writeValues first two ++ next →
      one = two ∧ rest = next
  | first, [], [], rest, next, same => by
      rw [writeValues] at same
      exact ⟨rfl, List.append_cancel_left same⟩
  | first, [], value :: two, rest, next, same => by
      rw [writeValues, writeValues] at same
      cases first with
      | true =>
          rw [separator, if_pos rfl, List.nil_append, List.append_assoc] at same
          exact absurd same.symm (write_ne rfl)
      | false => simp [separator] at same
  | first, value :: one, [], rest, next, same => by
      rw [writeValues, writeValues] at same
      cases first with
      | true =>
          rw [separator, if_pos rfl, List.nil_append, List.append_assoc] at same
          exact absurd same (write_ne rfl)
      | false => simp [separator] at same
  | first, value :: one, other :: two, rest, next, same => by
      simp only [writeValues, List.append_assoc] at same
      have entries := List.append_cancel_left same
      obtain ⟨values, others⟩ := write_append_inj (ends_writeValues one rest)
        (ends_writeValues two next) entries
      obtain ⟨tails, rests⟩ := writeValues_append_inj others
      exact ⟨by rw [values, tails], rests⟩

theorem writeMembers_append_inj : ∀ {first : Bool} {one two : List (String × JsonValue)}
    {rest next : List Char}, writeMembers first one ++ rest = writeMembers first two ++ next →
      one = two ∧ rest = next
  | first, [], [], rest, next, same => by
      rw [writeMembers] at same
      exact ⟨rfl, List.append_cancel_left same⟩
  | first, [], (key, value) :: two, rest, next, same => by
      rw [writeMembers, writeMembers] at same
      cases first <;> simp [separator, quote] at same
  | first, (key, value) :: one, [], rest, next, same => by
      rw [writeMembers, writeMembers] at same
      cases first <;> simp [separator, quote] at same
  | first, (key, value) :: one, (otherKey, other) :: two, rest, next, same => by
      simp only [writeMembers, List.append_assoc, List.cons_append] at same
      have entries := List.append_cancel_left same
      obtain ⟨keys, contents⟩ := quote_append_inj entries
      rw [List.cons.injEq] at contents
      obtain ⟨values, others⟩ := write_append_inj (ends_writeMembers one rest)
        (ends_writeMembers two next) contents.2
      obtain ⟨tails, rests⟩ := writeMembers_append_inj others
      exact ⟨by rw [keys, values, tails], rests⟩

end

end JsonValue

/-! ## Objects in the order of their keys -/

structure JsonObject where
  members : List (String × JsonValue)
  sorted : (members.map Prod.fst).Pairwise (· < ·)

namespace JsonObject

def find (object : JsonObject) (key : String) : Option JsonValue := object.members.lookup key

/-- The members with one more, or with another value of one that is there. -/
def assign (key : String) (value : JsonValue) :
    List (String × JsonValue) → List (String × JsonValue)
  | [] => [(key, value)]
  | (other, present) :: rest =>
      if key < other then (key, value) :: (other, present) :: rest
      else if key = other then (key, value) :: rest
      else (other, present) :: assign key value rest

variable {key other : String} {value : JsonValue} {members : List (String × JsonValue)}

theorem lookup_assign : (assign key value members).lookup other =
      if other = key then some value else members.lookup other := by
  induction members with
  | nil => exact lookup_cons_eq_ite
  | cons first rest ih =>
      obtain ⟨firstKey, present⟩ := first
      rw [assign]
      split
      · exact lookup_cons_eq_ite
      · split
        · rename_i isKey
          rw [lookup_cons_eq_ite, lookup_cons_eq_ite, ← isKey]
          by_cases same : other = key
          · rw [if_pos same, if_pos same]
          · rw [if_neg same, if_neg same, if_neg same]
        · rename_i isOther
          rw [lookup_cons_eq_ite, lookup_cons_eq_ite, ih]
          by_cases same : other = key
          · rw [same, if_neg isOther, if_pos rfl, if_pos rfl]
          · rw [if_neg same, if_neg same]

theorem mem_keys_assign (member : other ∈ (assign key value members).map Prod.fst) :
    other = key ∨ other ∈ members.map Prod.fst := by
  induction members with
  | nil => simpa [assign] using member
  | cons first rest ih =>
      obtain ⟨firstKey, present⟩ := first
      rw [assign] at member
      split at member
      · simpa using member
      · split at member
        · rcases List.mem_cons.mp member with same | later
          · exact .inl same
          · exact .inr (List.mem_cons_of_mem _ later)
        · rcases List.mem_cons.mp member with same | later
          · right
            rw [same]
            exact List.mem_cons_self
          · rcases ih later with same | present
            · exact .inl same
            · exact .inr (List.mem_cons_of_mem _ present)

theorem sorted_assign (sorted : (members.map Prod.fst).Pairwise (· < ·)) :
    ((assign key value members).map Prod.fst).Pairwise (· < ·) := by
  induction members with
  | nil => exact List.pairwise_singleton _ _
  | cons first rest ih =>
      obtain ⟨firstKey, present⟩ := first
      rw [List.map_cons, List.pairwise_cons] at sorted
      rw [assign]
      split
      · rename_i before
        rw [List.map_cons, List.map_cons, List.pairwise_cons, List.pairwise_cons]
        refine ⟨?_, sorted⟩
        intro later member
        rcases List.mem_cons.mp member with same | isLater
        · rw [same]
          exact before
        · exact before.trans (sorted.1 later isLater)
      · split
        · rename_i isKey
          rw [List.map_cons, List.pairwise_cons, isKey]
          exact sorted
        · rename_i notBefore isOther
          rw [List.map_cons, List.pairwise_cons]
          refine ⟨?_, ih sorted.2⟩
          intro later member
          rcases mem_keys_assign member with same | isLater
          · rw [same]
            exact lt_of_le_of_ne (not_lt.mp notBefore) (Ne.symm isOther)
          · exact sorted.1 later isLater

def set (object : JsonObject) (key : String) (value : JsonValue) : JsonObject where
  members := assign key value object.members
  sorted := sorted_assign object.sorted

theorem unique (object : JsonObject) : (object.members.map Prod.fst).Nodup :=
  object.sorted.imp fun before => before.ne

/-- An object is its members. -/
theorem ext_find {one two : JsonObject} (same : ∀ key, one.find key = two.find key) :
    one = two := by
  have members : one.members = two.members := by
    have permuted : one.members.Perm two.members := by
      rw [List.perm_ext_iff_of_nodup one.unique.of_map two.unique.of_map]
      intro member
      obtain ⟨key, value⟩ := member
      rw [← lookup_eq_some_iff one.unique, ← lookup_eq_some_iff two.unique]
      exact Eq.congr_left (same key)
    have oneSorted : one.members.Pairwise fun a b => a.1 < b.1 := List.pairwise_map.mp one.sorted
    have twoSorted : two.members.Pairwise fun a b => a.1 < b.1 := List.pairwise_map.mp two.sorted
    apply permuted.eq_of_pairwise _ oneSorted twoSorted
    intro a b _ _ before after
    exact absurd after before.asymm
  obtain ⟨oneMembers, _⟩ := one
  obtain ⟨twoMembers, _⟩ := two
  congr

end JsonObject

/-! ## The library -/

def sortedJson : JsonLibrary JsonValue JsonObject where
  unsigned _ value := .number value.toNat
  asUnsigned width
    | .number value => if value < 2 ^ width then some (.ofNat width value) else none
    | _ => none
  bool := .bool
  asBool
    | .bool value => some value
    | _ => none
  string := .string
  asString
    | .string value => some value
    | _ => none
  list := .list
  asList
    | .list values => some values
    | _ => none
  object object := .object object.members
  asObject
    | .object members =>
        if sorted : (members.map Prod.fst).Pairwise (· < ·) then some ⟨members, sorted⟩
        else none
    | _ => none
  empty := ⟨[], List.Pairwise.nil⟩
  find := JsonObject.find
  set := JsonObject.set
  members := JsonObject.members
  toBuffer object := String.ofList (JsonValue.object object.members).write

theorem sortedJson_lawful : sortedJson.Lawful where
  asUnsigned_unsigned width value := by
    simp [sortedJson, value.isLt]
  asBool_bool _ := rfl
  asString_string _ := rfl
  asList_list _ := rfl
  asObject_object object := dif_pos object.sorted
  find_empty _ := rfl
  find_set _ _ _ _ := JsonObject.lookup_assign
  mem_members object key value := (lookup_eq_some_iff object.unique).symm
  nodup_members object := object.unique

theorem sortedJson_canonical : sortedJson.Canonical where
  ext _ _ same := JsonObject.ext_find same
  toBuffer_injective := by
    intro one two same
    have texts : (JsonValue.object one.members).write ++ [] =
        (JsonValue.object two.members).write ++ [] := by
      rw [List.append_nil, List.append_nil]
      exact String.ofList_injective same
    have nothingEnds : Ends [] := by
      intro first isHead
      cases isHead
    have objects := (JsonValue.write_append_inj nothingEnds nothingEnds texts).1
    obtain ⟨oneMembers, _⟩ := one
    obtain ⟨twoMembers, _⟩ := two
    congr
    exact JsonValue.object.inj objects

end MwCom.Json
