/-
Module: MwCom.Text.RegularPattern
Purpose: Regular patterns without groups: a sequence of bracket expressions that may be
  repeated, anchored to the ends of the text or not, in two of the POSIX dialects.
Trusted boundary: characters are ordered by their codes; only the part of the dialects
  that has no groups, alternatives, complements or upper bounds is read.
Main exports: Regex.Pattern, Regex.compile, Regex.regexMatch, Regex.regexSearch,
  Regex.regexMatch_iff, Regex.regexSearch_iff
-/
import Mathlib.Computability.Language
import Mathlib.Data.List.Infix

namespace Regex

/-! ## Patterns -/

/-- A set of characters, as the ranges it was written with. -/
structure Bracket where
  ranges : List (Char × Char)
deriving DecidableEq, Repr

def Bracket.admits (bracket : Bracket) (character : Char) : Bool :=
  bracket.ranges.any fun range => decide (range.1 ≤ character) && decide (character ≤ range.2)

/-- Characters of one set, at least so many, and any number more if it is unbounded. -/
structure Item where
  bracket : Bracket
  atLeast : Nat
  unbounded : Bool
deriving DecidableEq, Repr

structure Pattern where
  fromStart : Bool
  items : List Item
  toEnd : Bool
deriving DecidableEq, Repr

/-! ## Reading a pattern -/

inductive Dialect where
  | basic
  | extended
deriving DecidableEq, Repr

/-- The ranges up to the closing bracket, and what follows it. -/
def readRanges : List Char → Option (List (Char × Char) × List Char)
  | ']' :: rest => some ([], rest)
  | first :: '-' :: last :: rest => do
      let (ranges, behind) ← readRanges rest
      pure ((first, last) :: ranges, behind)
  | single :: rest => do
      let (ranges, behind) ← readRanges rest
      pure ((single, single) :: ranges, behind)
  | [] => none

/-- Characters that stand for something else, and what is not read here. -/
def Dialect.reserves : Dialect → List Char
  | .basic => ['.', '[', '\\', '*', '^', '$']
  | .extended => ['.', '[', '\\', '*', '^', '$', '(', ')', '+', '?', '\x7b', '|']

def readBracket (dialect : Dialect) : List Char → Option (Bracket × List Char)
  | '[' :: '^' :: _ => none
  | '[' :: ']' :: _ => none
  | '[' :: rest => do
      let (ranges, behind) ← readRanges rest
      pure (⟨ranges⟩, behind)
  | literal :: rest =>
      if literal ∈ dialect.reserves then none else some (⟨[(literal, literal)]⟩, rest)
  | [] => none

/-- The number that is written in these digits. -/
def readNumber (digits : List Char) : Nat :=
  digits.foldl (fun number digit => 10 * number + (digit.toNat - '0'.toNat)) 0

/-- How often the item in front is repeated; only the extended dialect has intervals and
the plus without a backslash. -/
def readRepetition : Dialect → List Char → Option ((Nat × Bool) × List Char)
  | _, '*' :: rest => some ((0, true), rest)
  | .extended, '+' :: rest => some ((1, true), rest)
  | .extended, '?' :: _ => none
  | .extended, '\x7b' :: rest =>
      match rest.span Char.isDigit with
      | (digits, ',' :: '\x7d' :: behind) =>
          if digits.isEmpty then none else some ((readNumber digits, true), behind)
      | _ => none
  | _, rest => some ((1, false), rest)

/-- The items, and whether the text has to end behind them. -/
def readItems (dialect : Dialect) : (fuel : Nat) → List Char → Option (List Item × Bool)
  | 0, _ => none
  | _ + 1, [] => some ([], false)
  | _ + 1, ['$'] => some ([], true)
  | fuel + 1, text => do
      let (bracket, repeated) ← readBracket dialect text
      let ((atLeast, unbounded), behind) ← readRepetition dialect repeated
      let (items, toEnd) ← readItems dialect fuel behind
      pure (⟨bracket, atLeast, unbounded⟩ :: items, toEnd)

/-- `none`: the text is no pattern that is read here. -/
def compile (dialect : Dialect) (text : String) : Option Pattern :=
  let read (fromStart : Bool) (written : List Char) : Option Pattern := do
    let (items, toEnd) ← readItems dialect (written.length + 1) written
    pure ⟨fromStart, items, toEnd⟩
  match text.toList with
  | '^' :: rest => read true rest
  | written => read false written

/-! ## Matching -/

namespace Item

/-- What may follow characters of the item that stand first in a text, where `missing` of
them have to come. -/
def rests (item : Item) : (missing : Nat) → List Char → List (List Char)
  | 0, [] => [[]]
  | 0, character :: text =>
      if item.unbounded && item.bracket.admits character then
        (character :: text) :: item.rests 0 text
      else
        [character :: text]
  | _ + 1, [] => []
  | missing + 1, character :: text =>
      if item.bracket.admits character then item.rests missing text else []

end Item

/-- What may follow the items that stand first in a text. -/
def rests : List Item → List Char → List (List Char)
  | [], text => [text]
  | item :: items, text => (item.rests item.atLeast text).flatMap (rests items)

/-- Whether the pattern is the whole text. -/
def regexMatch (pattern : Pattern) (text : List Char) : Bool :=
  (rests pattern.items text).any List.isEmpty

/-- Whether the pattern occurs somewhere in the text. -/
def regexSearch (pattern : Pattern) (text : List Char) : Bool :=
  (if pattern.fromStart then [text] else text.tails).any fun start =>
    (rests pattern.items start).any fun rest => !pattern.toEnd || rest.isEmpty

/-! ## The languages of patterns -/

namespace Item

variable (item : Item)

/-- The characters of the item as words. -/
def letters : Language Char := { word | ∃ character, item.bracket.admits character ∧
  word = [character] }

def language : Language Char :=
  item.letters ^ item.atLeast * if item.unbounded then KStar.kstar item.letters else 1

variable {item}

theorem flatten_letters {words : List (List Char)} (members : ∀ word ∈ words, word ∈ item.letters) :
    words.flatten.length = words.length ∧
      ∀ character ∈ words.flatten, item.bracket.admits character := by
  induction words with
  | nil => simp
  | cons word words ih =>
      obtain ⟨sameLength, admitted⟩ :=
        ih fun other member => members other (List.mem_cons_of_mem _ member)
      obtain ⟨letter, isLetter, rfl⟩ := members word List.mem_cons_self
      constructor
      · simp [sameLength]
      · simpa [isLetter] using admitted

variable {word : List Char}

/-- Every word is the concatenation of its letters. -/
theorem exists_letters (admitted : ∀ character ∈ word, item.bracket.admits character) :
    ∃ words : List (List Char), word = words.flatten ∧ words.length = word.length ∧
      ∀ letter ∈ words, letter ∈ item.letters := by
  refine ⟨word.map fun character => [character], ?_, List.length_map _, ?_⟩
  · induction word with
    | nil => rfl
    | cons first rest ih =>
        have tail := ih fun character member =>
          admitted character (List.mem_cons_of_mem _ member)
        rw [List.map_cons, List.flatten_cons, ← tail, List.singleton_append]
  · intro letter member
    obtain ⟨character, isCharacter, rfl⟩ := List.mem_map.mp member
    exact ⟨character, admitted character isCharacter, rfl⟩

theorem mem_pow_letters {count : Nat} : word ∈ item.letters ^ count ↔
      word.length = count ∧ ∀ character ∈ word, item.bracket.admits character := by
  rw [Language.mem_pow]
  constructor
  · rintro ⟨words, rfl, rfl, members⟩
    exact flatten_letters members
  · rintro ⟨rfl, admitted⟩
    obtain ⟨words, isWord, sameLength, members⟩ := exists_letters admitted
    exact ⟨words, isWord, sameLength, members⟩

theorem mem_kstar_letters :
    word ∈ KStar.kstar item.letters ↔ ∀ character ∈ word, item.bracket.admits character := by
  rw [Language.mem_kstar]
  constructor
  · rintro ⟨words, rfl, members⟩
    exact (flatten_letters members).2
  · intro admitted
    obtain ⟨words, isWord, _, members⟩ := exists_letters admitted
    exact ⟨words, isWord, members⟩

/-- The words of an item by their length and characters. -/
theorem mem_language : word ∈ item.language ↔
      (∀ character ∈ word, item.bracket.admits character) ∧ item.atLeast ≤ word.length ∧
        (item.unbounded = true ∨ word.length = item.atLeast) := by
  rw [language, Language.mem_mul]
  constructor
  · rintro ⟨required, isRequired, further, isFurther, rfl⟩
    obtain ⟨exactly, admitted⟩ := mem_pow_letters.mp isRequired
    rw [List.length_append]
    by_cases isUnbounded : item.unbounded = true
    · rw [if_pos isUnbounded] at isFurther
      refine ⟨?_, by omega, .inl isUnbounded⟩
      intro character member
      rcases List.mem_append.mp member with inRequired | inFurther
      · exact admitted character inRequired
      · exact mem_kstar_letters.mp isFurther character inFurther
    · rw [if_neg isUnbounded, Language.mem_one] at isFurther
      subst isFurther
      rw [List.append_nil]
      exact ⟨admitted, by simp [exactly], .inr (by simp [exactly])⟩
  · rintro ⟨admitted, enough, exactly⟩
    refine ⟨word.take item.atLeast, ?_, word.drop item.atLeast, ?_, List.take_append_drop _ _⟩
    · apply mem_pow_letters.mpr
      refine ⟨by simp [enough], fun character member => ?_⟩
      exact admitted character (List.mem_of_mem_take member)
    · split
      · apply mem_kstar_letters.mpr
        intro character member
        exact admitted character (List.mem_of_mem_drop member)
      · rename_i isBounded
        rw [Language.mem_one]
        have sameLength := exactly.resolve_left isBounded
        simp [← sameLength]

/-- The rests of an item, while some of its characters are missing. -/
theorem mem_rests {missing : Nat} {text rest : List Char} : rest ∈ item.rests missing text ↔
      ∃ word, text = word ++ rest ∧ (∀ character ∈ word, item.bracket.admits character) ∧
        missing ≤ word.length ∧ (item.unbounded = true ∨ word.length = missing) := by
  induction text generalizing missing with
  | nil =>
      cases missing with
      | zero =>
          rw [rests, List.mem_singleton]
          constructor
          · rintro rfl
            exact ⟨[], rfl, by simp, Nat.le_refl _, .inr rfl⟩
          · rintro ⟨word, isText, _⟩
            exact (List.append_eq_nil_iff.mp isText.symm).2
      | succ missing =>
          rw [rests]
          constructor
          · intro member
            cases member
          · rintro ⟨word, isText, _, enough, _⟩
            rw [(List.append_eq_nil_iff.mp isText.symm).1] at enough
            cases enough
  | cons first text ih =>
      cases missing with
      | zero =>
          rw [rests]
          split
          · rename_i more
            obtain ⟨isUnbounded, admitted⟩ := Bool.and_eq_true_iff.mp more
            rw [List.mem_cons, ih]
            constructor
            · rintro (rfl | ⟨word, rfl, all, _⟩)
              · exact ⟨[], rfl, by simp, Nat.le_refl _, .inr rfl⟩
              · refine ⟨first :: word, rfl, ?_, Nat.zero_le _, .inl isUnbounded⟩
                simpa [admitted] using all
            · rintro ⟨word, isText, all, _⟩
              cases word with
              | nil => exact .inl isText.symm
              | cons head word =>
                  right
                  cases isText
                  exact ⟨word, rfl, fun character member => all character
                    (List.mem_cons_of_mem _ member), Nat.zero_le _, .inl isUnbounded⟩
          · rename_i noMore
            rw [List.mem_singleton]
            constructor
            · rintro rfl
              exact ⟨[], rfl, by simp, Nat.le_refl _, .inr rfl⟩
            · rintro ⟨word, isText, all, _, bound⟩
              cases word with
              | nil => exact isText.symm
              | cons head word =>
                  cases isText
                  rcases bound with isUnbounded | none
                  · have admitted := all first List.mem_cons_self
                    exact absurd (Bool.and_eq_true_iff.mpr ⟨isUnbounded, admitted⟩) noMore
                  · cases none
      | succ missing =>
          rw [rests]
          split
          · rename_i admitted
            rw [ih]
            constructor
            · rintro ⟨word, rfl, all, enough, bound⟩
              refine ⟨first :: word, rfl, by simpa [admitted] using all,
                Nat.succ_le_succ enough, ?_⟩
              exact bound.imp_right (congrArg Nat.succ)
            · rintro ⟨word, isText, all, enough, bound⟩
              cases word with
              | nil => cases enough
              | cons head word =>
                  cases isText
                  refine ⟨word, rfl, fun character member => all character
                    (List.mem_cons_of_mem _ member), Nat.le_of_succ_le_succ enough, ?_⟩
                  exact bound.imp_right Nat.succ.inj
          · rename_i refused
            constructor
            · intro member
              cases member
            · rintro ⟨word, isText, all, enough, _⟩
              cases word with
              | nil => cases enough
              | cons head word =>
                  cases isText
                  exact absurd (all first List.mem_cons_self) refused

end Item

/-- The words that the items stand for. -/
def languageOf : List Item → Language Char
  | [] => 1
  | item :: items => item.language * languageOf items

variable {text : List Char}

theorem mem_rests {items : List Item} {rest : List Char} :
    rest ∈ rests items text ↔ ∃ word ∈ languageOf items, text = word ++ rest := by
  induction items generalizing text with
  | nil =>
      rw [rests, List.mem_singleton, languageOf]
      constructor
      · rintro rfl
        exact ⟨[], Language.nil_mem_one, rfl⟩
      · rintro ⟨word, isEmpty, rfl⟩
        rw [Language.mem_one] at isEmpty
        rw [isEmpty, List.nil_append]
  | cons item items ih =>
      rw [rests, List.mem_flatMap, languageOf]
      constructor
      · rintro ⟨between, first, later⟩
        obtain ⟨word, isText, admitted, enough, bound⟩ := Item.mem_rests.mp first
        obtain ⟨others, isOthers, isBetween⟩ := ih.mp later
        refine ⟨word ++ others, ?_, ?_⟩
        · exact Language.append_mem_mul (Item.mem_language.mpr ⟨admitted, enough, bound⟩) isOthers
        · rw [isText, isBetween, List.append_assoc]
      · rintro ⟨whole, isWhole, isText⟩
        obtain ⟨word, isWord, others, isOthers, rfl⟩ := Language.mem_mul.mp isWhole
        obtain ⟨admitted, enough, bound⟩ := Item.mem_language.mp isWord
        refine ⟨others ++ rest, ?_, ?_⟩
        · apply Item.mem_rests.mpr
          exact ⟨word, by rw [isText, List.append_assoc], admitted, enough, bound⟩
        · exact ih.mpr ⟨others, isOthers, rfl⟩

/-- A text matches if it is a word of the items. -/
theorem regexMatch_iff {pattern : Pattern} :
    regexMatch pattern text = true ↔ text ∈ languageOf pattern.items := by
  rw [regexMatch, List.any_eq_true]
  constructor
  · rintro ⟨rest, isRest, isEmpty⟩
    obtain ⟨word, isWord, rfl⟩ := mem_rests.mp isRest
    rw [List.isEmpty_iff.mp isEmpty, List.append_nil]
    exact isWord
  · intro isWord
    exact ⟨[], mem_rests.mpr ⟨text, isWord, (List.append_nil text).symm⟩, rfl⟩

/-- A search succeeds if a word of the items stands where the anchors allow it. -/
theorem regexSearch_iff {pattern : Pattern} : regexSearch pattern text = true ↔
      ∃ before word behind, text = before ++ word ++ behind ∧
        word ∈ languageOf pattern.items ∧ (pattern.fromStart = true → before = []) ∧
        (pattern.toEnd = true → behind = []) := by
  have starts : ∀ start, start ∈ (if pattern.fromStart then [text] else text.tails) ↔
      ∃ before, text = before ++ start ∧ (pattern.fromStart = true → before = []) := by
    intro start
    split
    · rename_i anchored
      rw [List.mem_singleton]
      constructor
      · rintro rfl
        exact ⟨[], rfl, fun _ => rfl⟩
      · rintro ⟨before, isText, isNone⟩
        rw [isText, isNone anchored, List.nil_append]
    · rename_i free
      rw [List.mem_tails]
      constructor
      · rintro ⟨before, rfl⟩
        exact ⟨before, rfl, fun anchored => absurd anchored free⟩
      · rintro ⟨before, isText, _⟩
        exact ⟨before, isText.symm⟩
  rw [regexSearch, List.any_eq_true]
  constructor
  · rintro ⟨start, isStart, found⟩
    obtain ⟨before, isText, fromStart⟩ := (starts start).mp isStart
    obtain ⟨behind, isRest, ends⟩ := List.any_eq_true.mp found
    obtain ⟨word, isWord, isWhole⟩ := mem_rests.mp isRest
    refine ⟨before, word, behind, ?_, isWord, fromStart, ?_⟩
    · rw [isText, isWhole, List.append_assoc]
    · intro toEnd
      simpa [toEnd] using ends
  · rintro ⟨before, word, behind, isText, isWord, fromStart, toEnd⟩
    refine ⟨word ++ behind, (starts _).mpr ⟨before, ?_, fromStart⟩, ?_⟩
    · rw [isText, List.append_assoc]
    · apply List.any_eq_true.mpr
      refine ⟨behind, mem_rests.mpr ⟨word, isWord, rfl⟩, ?_⟩
      by_cases anchored : pattern.toEnd = true
      · simp [toEnd anchored]
      · simp [anchored]

end Regex
