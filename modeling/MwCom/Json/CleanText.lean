/-
Module: MwCom.Json.CleanText
Purpose: The text of a value without a NUL, and the value that such a text is read as.
Trusted boundary: none.
Main exports: cleanText, not_mem_cleanText, readClean, readClean_cleanText
-/
import MwCom.Json.SortedJson

namespace MwCom.Json

/-- A NUL is written by its number. -/
def escapeNul (character : Char) : List Char :=
  if character = Char.ofNat 0 then ['\\', 'u', '0', '0', '0', '0'] else [character]

def unescapeNul : List Char → List Char
  | '\\' :: 'u' :: '0' :: '0' :: '0' :: '0' :: rest => Char.ofNat 0 :: unescapeNul rest
  | '\\' :: second :: rest => '\\' :: second :: unescapeNul rest
  | first :: rest => first :: unescapeNul rest
  | [] => []

/-- A backslash stands only before a quote or a backslash. -/
inductive Escaped : List Char → Prop where
  | nil : Escaped []
  | plain {first : Char} {rest : List Char} (isPlain : first ≠ '\\')
      (after : Escaped rest) : Escaped (first :: rest)
  | special {second : Char} {rest : List Char} (isSpecial : second = '"' ∨ second = '\\')
      (after : Escaped rest) : Escaped ('\\' :: second :: rest)

theorem unescapeNul_flatMap {text : List Char} (escaped : Escaped text) :
    unescapeNul (text.flatMap escapeNul) = text := by
  induction escaped with
  | nil => rfl
  | @plain first rest isPlain _ ih =>
      rw [List.flatMap_cons, escapeNul]
      split
      · rename_i isNul
        rw [isNul]
        simp [unescapeNul, ih]
      · rw [List.singleton_append, unescapeNul.eq_3, ih]
        · intro _ isBackslash
          exact absurd isBackslash isPlain
        · intro _ _ isBackslash
          exact absurd isBackslash isPlain
  | special isSpecial _ ih =>
      rcases isSpecial with rfl | rfl
      · simp [escapeNul, unescapeNul, ih]
      · simp [escapeNul, unescapeNul, ih]

namespace Escaped

variable {text rest : List Char}

theorem append (first : Escaped text) (after : Escaped rest) : Escaped (text ++ rest) := by
  induction first with
  | nil => exact after
  | plain isPlain _ ih => exact .plain isPlain ih
  | special isSpecial _ ih => exact .special isSpecial ih

theorem of_plain (plain : ∀ character ∈ text, character ≠ '\\') : Escaped text := by
  induction text with
  | nil => exact .nil
  | cons first rest ih =>
      apply Escaped.plain (plain first List.mem_cons_self)
      apply ih
      intro character member
      exact plain character (List.mem_cons_of_mem _ member)

theorem quote (string : String) : Escaped (quote string) := by
  have content (characters : List Char) : Escaped (characters.flatMap escape) := by
    induction characters with
    | nil => exact .nil
    | cons first rest ih =>
        rw [List.flatMap_cons, escape]
        split
        · rename_i isSpecial
          exact .special isSpecial ih
        · rename_i isPlain
          exact .plain (not_or.mp isPlain).2 ih
  exact .plain (by decide) ((content _).append (.plain (by decide) .nil))

theorem separator (first : Bool) : Escaped (separator first) := by
  cases first with
  | true => exact .nil
  | false => exact .plain (by decide) .nil

end Escaped

namespace JsonValue

mutual

theorem escaped_write : ∀ value : JsonValue, Escaped value.write
  | .number value => by
      rw [write]
      apply Escaped.of_plain
      intro digit member isBackslash
      have isDigit := Nat.isDigit_of_mem_toDigits (by decide) (by decide) member
      rw [isBackslash] at isDigit
      cases isDigit
  | .bool value => by
      rw [write]
      apply Escaped.of_plain
      cases value <;> simp
  | .string value => by
      rw [write]
      exact Escaped.quote value
  | .list values => by
      rw [write]
      exact .plain (by decide) (escaped_writeValues true values)
  | .object members => by
      rw [write]
      exact .plain (by decide) (escaped_writeMembers true members)

theorem escaped_writeValues : ∀ (first : Bool) (values : List JsonValue),
    Escaped (writeValues first values)
  | first, [] => by
      rw [writeValues]
      exact .plain (by decide) .nil
  | first, value :: rest => by
      rw [writeValues]
      exact (Escaped.separator first).append
        ((escaped_write value).append (escaped_writeValues false rest))

theorem escaped_writeMembers : ∀ (first : Bool) (members : List (String × JsonValue)),
    Escaped (writeMembers first members)
  | first, [] => by
      rw [writeMembers]
      exact .plain (by decide) .nil
  | first, (key, value) :: rest => by
      rw [writeMembers]
      exact (Escaped.separator first).append ((Escaped.quote key).append
        (.plain (by decide) ((escaped_write value).append (escaped_writeMembers false rest))))

end

end JsonValue

/-! ## Reading -/

/-- The text of an object, without a NUL. -/
def cleanText (object : JsonObject) : String :=
  String.ofList ((JsonValue.object object.members).write.flatMap escapeNul)

theorem not_mem_cleanText (object : JsonObject) : Char.ofNat 0 ∉ (cleanText object).toList := by
  rw [cleanText, String.toList_ofList, List.mem_flatMap]
  intro written
  obtain ⟨character, -, isNul⟩ := written
  rw [escapeNul] at isNul
  split at isNul
  · exact absurd isNul (by decide)
  · rename_i differs
    exact differs (List.mem_singleton.mp isNul).symm

theorem cleanText_injective : Function.Injective cleanText := by
  intro one two same
  have escaped := String.ofList_injective same
  have texts := congrArg unescapeNul escaped
  rw [unescapeNul_flatMap (JsonValue.escaped_write _),
    unescapeNul_flatMap (JsonValue.escaped_write _)] at texts
  exact sortedJson_canonical.toBuffer_injective (congrArg String.ofList texts)

open Classical in
/-- The object that was written as a text. -/
noncomputable def readClean (text : String) : Option JsonObject :=
  if written : ∃ object, cleanText object = text then some written.choose else none

theorem readClean_cleanText (object : JsonObject) : readClean (cleanText object) = some object := by
  have written : ∃ other, cleanText other = cleanText object := ⟨object, rfl⟩
  rw [readClean, dif_pos written, Option.some.injEq]
  exact cleanText_injective written.choose_spec

end MwCom.Json
