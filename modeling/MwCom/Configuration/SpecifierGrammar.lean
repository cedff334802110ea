/-
Module: MwCom.Configuration.SpecifierGrammar
Purpose: Which texts the regular expressions of an instance specifier accept, when the
  text is a window of a longer buffer.
Trusted boundary: the library of regular expressions is Regex.
Main exports: SpecifierView.create, WellFormed, CreationLaw, Misread, creationLaw_iff
-/
import Mathlib.Data.List.Chain
import MwCom.Configuration.Deployments
import MwCom.Text.RegularPattern

namespace MwCom.Configuration

namespace SpecifierView

open Regex

/-! ## Views -/

def nul : Char := Char.ofNat 0

/-- A window of a buffer.  The NUL that ends the buffer is not listed; there may be more
of them in it. -/
structure StringView where
  buffer : List Char
  position : Nat
  length : Nat
  within : position + length ≤ buffer.length

namespace StringView

/-- The buffer from the start of the window on, with its NUL. -/
def data (view : StringView) : List Char := view.buffer.drop view.position ++ [nul]

def characters (view : StringView) : List Char := view.data.take view.length

/-- What code that takes the pointer as a C string reads. -/
def cString (view : StringView) : List Char :=
  view.data.takeWhile fun character => decide (character ≠ nul)

/-- What stands between the window and the next NUL. -/
def continuation (view : StringView) : List Char :=
  (view.data.drop view.length).takeWhile fun character => decide (character ≠ nul)

/-- The view of a text that is a buffer of its own. -/
def ofText (text : String) : StringView where
  buffer := text.toList
  position := 0
  length := text.toList.length
  within := by simp

end StringView

/-! ## The creation of a specifier -/

def checkCharactersRegex : Option Pattern := compile .basic "^[A-Za-z_/][A-Za-z_/0-9]*"

def checkDuplicateSlashesRegex : Option Pattern := compile .basic "/$"

def checkTrailingSlashRegex : Option Pattern := compile .extended "/\x7b2,\x7d"

/-- The expressions of the last two checks stand under each other's names.  `none`: one of
them is refused, which ends the process. -/
def isShortNameValid (shortname : StringView) : Option Bool := do
  let checkCharactersRegex ← checkCharactersRegex
  let checkDuplicateSlashesRegex ← checkDuplicateSlashesRegex
  let checkTrailingSlashRegex ← checkTrailingSlashRegex
  let allCharactersValid := regexMatch checkCharactersRegex shortname.cString
  let duplicateSlashesFound := regexSearch checkDuplicateSlashesRegex shortname.cString
  let trailingSlashFound := regexSearch checkTrailingSlashRegex shortname.cString
  pure (allCharactersValid && !duplicateSlashesFound && !trailingSlashFound)

inductive CreateError where
  | invalidMetaModelShortname
deriving DecidableEq, Repr

structure InstanceSpecifier where
  instanceSpecifierString : List Char

/-- The text of the specifier is the window, with its length. -/
def create (shortnamePath : StringView) : Option (Except CreateError InstanceSpecifier) := do
  if !(← isShortNameValid shortnamePath) then
    pure (.error .invalidMetaModelShortname)
  else
    pure (.ok ⟨shortnamePath.characters⟩)

def InstanceSpecifier.toString (specifier : InstanceSpecifier) : List Char :=
  specifier.instanceSpecifierString

/-! ## The grammar -/

/-- Letters, digits, underscores and slashes. -/
def Allowed (character : Char) : Prop :=
  character.isAlphanum = true ∨ character = '_' ∨ character = '/'

instance (character : Char) : Decidable (Allowed character) :=
  inferInstanceAs (Decidable (_ ∨ _ ∨ _))

/-- Two characters are not both slashes. -/
def NotBothSlashes (one next : Char) : Prop := ¬(one = '/' ∧ next = '/')

instance (one next : Char) : Decidable (NotBothSlashes one next) :=
  inferInstanceAs (Decidable ¬(_ ∧ _))

/-- The paths that name an instance. -/
structure WellFormed (path : List Char) : Prop where
  nonempty : path ≠ []
  allowed : ∀ character ∈ path, Allowed character
  noLeadingDigit : ∀ first ∈ path.head?, first.isDigit = false
  noDoubleSlash : path.IsChain NotBothSlashes
  noTrailingSlash : '/' ∉ path.getLast?

/-! ### The expressions -/

/-- What a name starts with. -/
def nameStart : Bracket := ⟨[('A', 'Z'), ('a', 'z'), ('_', '_'), ('/', '/')]⟩

def nameRest : Bracket := ⟨[('A', 'Z'), ('a', 'z'), ('_', '_'), ('/', '/'), ('0', '9')]⟩

def slash : Bracket := ⟨[('/', '/')]⟩

theorem checkCharactersRegex_eq : checkCharactersRegex =
      some ⟨true, [⟨nameStart, 1, false⟩, ⟨nameRest, 0, true⟩], false⟩ := by
  decide

theorem checkDuplicateSlashesRegex_eq :
    checkDuplicateSlashesRegex = some ⟨false, [⟨slash, 1, false⟩], true⟩ := by
  decide

theorem checkTrailingSlashRegex_eq :
    checkTrailingSlashRegex = some ⟨false, [⟨slash, 2, true⟩], false⟩ := by
  decide

/-! ### Characters by their codes -/

variable {character : Char}

theorem between_iff {first last : Char} :
    (decide (first ≤ character) && decide (character ≤ last)) = true ↔
      first.toNat ≤ character.toNat ∧ character.toNat ≤ last.toNat := by
  rw [Bool.and_eq_true, decide_eq_true_eq, decide_eq_true_eq]
  exact Iff.rfl

theorem isDigit_iff : character.isDigit = true ↔ 48 ≤ character.toNat ∧ character.toNat ≤ 57 := by
  simp only [Char.isDigit, Bool.and_eq_true, decide_eq_true_eq]
  exact Iff.rfl

theorem allowed_iff : Allowed character ↔
      (65 ≤ character.toNat ∧ character.toNat ≤ 90 ∨ 97 ≤ character.toNat ∧ character.toNat ≤ 122 ∨
          48 ≤ character.toNat ∧ character.toNat ≤ 57) ∨
        character.toNat = 95 ∨ character.toNat = 47 := by
  delta Allowed Char.isAlphanum Char.isAlpha Char.isUpper Char.isLower
  simp only [Bool.or_eq_true, Bool.and_eq_true, decide_eq_true_eq, isDigit_iff, ← Char.toNat_inj,
    or_assoc]
  exact Iff.rfl

theorem admits_slash : slash.admits character = true ↔ character = '/' := by
  simp only [slash, Bracket.admits, List.any_cons, List.any_nil, Bool.or_false, between_iff,
    ← Char.toNat_inj]
  omega

theorem admits_nameRest : nameRest.admits character = true ↔ Allowed character := by
  simp only [nameRest, Bracket.admits, List.any_cons, List.any_nil, Bool.or_false,
    Bool.or_eq_true, between_iff, allowed_iff, Char.reduceToNat]
  omega

theorem admits_nameStart :
    nameStart.admits character = true ↔ Allowed character ∧ character.isDigit = false := by
  rw [← Bool.not_eq_true]
  simp only [nameStart, Bracket.admits, List.any_cons, List.any_nil, Bool.or_false,
    Bool.or_eq_true, between_iff, allowed_iff, isDigit_iff, Char.reduceToNat]
  omega

/-! ### What the expressions accept -/

variable {path : List Char}

/-- The first expression: an allowed text that starts with no digit. -/
theorem matches_checkCharacters :
    regexMatch ⟨true, [⟨nameStart, 1, false⟩, ⟨nameRest, 0, true⟩], false⟩ path = true ↔
      path ≠ [] ∧ (∀ character ∈ path, Allowed character) ∧
        ∀ first ∈ path.head?, first.isDigit = false := by
  rw [regexMatch_iff]
  simp only [languageOf, mul_one, Language.mem_mul, Item.mem_language]
  constructor
  · rintro ⟨start, ⟨starts, _, isOne⟩, rest, ⟨rests, _⟩, rfl⟩
    have isSingle := isOne.resolve_left Bool.false_ne_true
    obtain ⟨first, rfl⟩ := List.length_eq_one_iff.mp isSingle
    obtain ⟨allowed, noDigit⟩ := admits_nameStart.mp (starts first List.mem_cons_self)
    refine ⟨by simp, ?_, ?_⟩
    · intro character member
      rcases List.mem_cons.mp member with rfl | member
      · exact allowed
      · exact admits_nameRest.mp (rests character member)
    · intro head isHead
      cases isHead
      exact noDigit
  · rintro ⟨nonempty, allowed, noDigit⟩
    cases path with
    | nil => exact absurd rfl nonempty
    | cons first rest =>
        refine ⟨[first], ⟨?_, Nat.le_refl _, .inr rfl⟩, rest, ⟨?_, Nat.zero_le _, .inl trivial⟩, rfl⟩
        · intro character member
          cases List.mem_singleton.mp member
          exact admits_nameStart.mpr ⟨allowed _ List.mem_cons_self, noDigit _ rfl⟩
        · intro character member
          exact admits_nameRest.mpr (allowed character (List.mem_cons_of_mem _ member))

/-- The second expression: a slash at the end. -/
theorem searches_checkDuplicateSlashes :
    regexSearch ⟨false, [⟨slash, 1, false⟩], true⟩ path = true ↔ '/' ∈ path.getLast? := by
  rw [regexSearch_iff]
  simp only [languageOf, mul_one, Item.mem_language]
  constructor
  · rintro ⟨before, word, behind, rfl, ⟨slashes, _, isOne⟩, _, isLast⟩
    obtain ⟨last, rfl⟩ := List.length_eq_one_iff.mp (isOne.resolve_left Bool.false_ne_true)
    cases admits_slash.mp (slashes last List.mem_cons_self)
    rw [isLast trivial, List.append_nil]
    simp
  · intro isLast
    obtain ⟨before, rfl⟩ := List.getLast?_eq_some_iff.mp isLast
    refine ⟨before, ['/'], [], (List.append_nil _).symm, ⟨?_, Nat.le_refl _, .inr rfl⟩,
      fun anchored => absurd anchored Bool.false_ne_true, fun _ => rfl⟩
    intro character member
    exact admits_slash.mpr (List.mem_singleton.mp member)

/-- The third expression: two slashes in a row. -/
theorem searches_checkTrailingSlash : regexSearch ⟨false, [⟨slash, 2, true⟩], false⟩ path = true ↔
      ¬path.IsChain NotBothSlashes := by
  rw [regexSearch_iff, List.isChain_iff_forall_rel_of_append_cons_cons]
  simp only [languageOf, mul_one, Item.mem_language]
  constructor
  · rintro ⟨before, word, behind, rfl, ⟨slashes, isLong, _⟩, _⟩ chain
    rcases word with _ | ⟨first, _ | ⟨second, rest⟩⟩
    · cases isLong
    · cases Nat.lt_irrefl _ isLong
    · cases admits_slash.mp (slashes first (by simp))
      cases admits_slash.mp (slashes second (by simp))
      have apart : NotBothSlashes '/' '/' := @chain _ _ before (rest ++ behind) (by simp)
      exact apart ⟨rfl, rfl⟩
  · intro broken
    simp only [not_forall] at broken
    obtain ⟨one, next, before, behind, isPath, slashes⟩ := broken
    obtain ⟨rfl, rfl⟩ := not_not.mp slashes
    refine ⟨before, ['/', '/'], behind, by simp [isPath], ⟨?_, Nat.le_refl _, .inl trivial⟩,
      fun anchored => absurd anchored Bool.false_ne_true,
      fun anchored => absurd anchored Bool.false_ne_true⟩
    intro character member
    simp only [List.mem_cons, List.not_mem_nil, or_false, or_self] at member
    exact admits_slash.mpr member

/-- The code checks the grammar, on the C string. -/
theorem isShortNameValid_eq (view : StringView) : ∃ valid, isShortNameValid view = some valid ∧
      (valid = true ↔ WellFormed view.cString) := by
  rw [isShortNameValid, checkCharactersRegex_eq, checkDuplicateSlashesRegex_eq,
    checkTrailingSlashRegex_eq]
  refine ⟨_, rfl, ?_⟩
  rw [Bool.and_eq_true, Bool.and_eq_true, Bool.not_eq_true', Bool.not_eq_true',
    matches_checkCharacters, ← Bool.not_eq_true, ← Bool.not_eq_true,
    searches_checkDuplicateSlashes, searches_checkTrailingSlash, not_not]
  constructor
  · rintro ⟨⟨⟨nonempty, allowed, noDigit⟩, noTrailing⟩, noDouble⟩
    exact ⟨nonempty, allowed, noDigit, noDouble, noTrailing⟩
  · rintro ⟨nonempty, allowed, noDigit, noDouble, noTrailing⟩
    exact ⟨⟨⟨nonempty, allowed, noDigit⟩, noTrailing⟩, noDouble⟩

/-- What the creation returns. -/
theorem create_eq_ok_iff {view : StringView} {specifier : InstanceSpecifier} :
    create view = some (.ok specifier) ↔
      WellFormed view.cString ∧ specifier = ⟨view.characters⟩ := by
  obtain ⟨valid, isValid, wellFormed⟩ := isShortNameValid_eq view
  rw [create, isValid, ← wellFormed]
  cases valid with
  | false => simp
  | true =>
      constructor
      · intro created
        cases created
        exact ⟨rfl, rfl⟩
      · rintro ⟨_, rfl⟩
        rfl

/-! ## Windows and their buffers -/

section Windows

variable {view : StringView}

theorem StringView.data_eq (view : StringView) :
    view.data = view.characters ++ view.data.drop view.length :=
  (List.take_append_drop _ _).symm

/-- A window with a NUL is read up to the first one. -/
theorem StringView.cString_of_nul (hasNul : nul ∈ view.characters) :
    view.cString = view.characters.takeWhile fun character => decide (character ≠ nul) := by
  rw [cString, data_eq, List.takeWhile_append, if_neg]
  intro whole
  have sameList := (List.takeWhile_prefix _).eq_of_length whole
  have kept := List.all_eq_true.mp (List.all_takeWhile
    (l := view.characters) (p := fun character => decide (character ≠ nul))) nul
  rw [sameList] at kept
  have notNul := kept hasNul
  simp at notNul

/-- A window without a NUL is read on behind its end. -/
theorem StringView.cString_of_noNul (noNul : nul ∉ view.characters) :
    view.cString = view.characters ++ view.continuation := by
  rw [cString, data_eq, List.takeWhile_append_of_pos]
  · rfl
  · intro character member
    have different : character ≠ nul := fun isNul => noNul (isNul ▸ member)
    simpa using different

/-! ## The law -/

/-- The creation accepts the windows that are in the grammar, and keeps their text. -/
structure CreationLaw (view : StringView) : Prop where
  accepts : (∃ specifier, create view = some (.ok specifier)) ↔ WellFormed view.characters
  keeps : ∀ specifier, create view = some (.ok specifier) → specifier.toString = view.characters

/-- The buffer misleads the check of the window. -/
inductive Misread (view : StringView) : Prop where
  /-- What stands before a NUL in the window would be a path. -/
  | cutOff (hasNul : nul ∈ view.characters)
      (path : WellFormed (view.characters.takeWhile fun character => decide (character ≠ nul)))
  /-- The window is a path, but what follows it in the buffer cannot be a part of one. -/
  | spoiled (path : WellFormed view.characters)
      (behind : (∃ character ∈ view.continuation, ¬Allowed character) ∨
        ¬view.continuation.IsChain NotBothSlashes ∨ '/' ∈ view.continuation.getLast?)
  /-- The window is empty or ends with a slash, and the buffer goes on to a path. -/
  | completed (noNul : nul ∉ view.characters)
      (unfinished : view.characters = [] ∨ '/' ∈ view.characters.getLast?)
      (path : WellFormed (view.characters ++ view.continuation))

theorem not_allowed_nul : ¬Allowed nul := by
  decide

theorem WellFormed.noNul {path : List Char} (wellFormed : WellFormed path) : nul ∉ path :=
  fun member => not_allowed_nul (wellFormed.allowed nul member)

/-- A path goes on with what is allowed, has no double slash and does not end with one. -/
theorem WellFormed.append_iff {path behind : List Char} (wellFormed : WellFormed path) :
    WellFormed (path ++ behind) ↔
      (∀ character ∈ behind, Allowed character) ∧ behind.IsChain NotBothSlashes ∧
        '/' ∉ behind.getLast? := by
  constructor
  · intro whole
    refine ⟨fun character member => whole.allowed character (List.mem_append_right _ member),
      (List.isChain_append.mp whole.noDoubleSlash).2.1, ?_⟩
    intro isLast
    apply whole.noTrailingSlash
    rw [List.getLast?_append, Option.mem_def.mp isLast]
    rfl
  · rintro ⟨allowed, noDouble, noTrailing⟩
    refine ⟨?_, ?_, ?_, ?_, ?_⟩
    · exact List.append_ne_nil_of_left_ne_nil wellFormed.nonempty _
    · intro character member
      rcases List.mem_append.mp member with inPath | inBehind
      · exact wellFormed.allowed character inPath
      · exact allowed character inBehind
    · rw [List.head?_append_of_ne_nil _ wellFormed.nonempty]
      exact wellFormed.noLeadingDigit
    · apply List.isChain_append.mpr
      refine ⟨wellFormed.noDoubleSlash, noDouble, ?_⟩
      rintro last isLast next _ ⟨rfl, _⟩
      exact wellFormed.noTrailingSlash isLast
    · intro isLast
      rw [List.getLast?_append] at isLast
      cases isEnd : behind.getLast? with
      | none =>
          rw [isEnd] at isLast
          exact wellFormed.noTrailingSlash isLast
      | some last =>
          rw [isEnd] at isLast noTrailing
          exact noTrailing isLast

/-- The start of a path is one, unless it is empty or ends with a slash. -/
theorem WellFormed.of_append {path behind : List Char} (whole : WellFormed (path ++ behind))
    (nonempty : path ≠ []) (noTrailing : '/' ∉ path.getLast?) : WellFormed path where
  nonempty := nonempty
  allowed := fun character member => whole.allowed character (List.mem_append_left _ member)
  noLeadingDigit := by
    have noDigit := whole.noLeadingDigit
    rw [List.head?_append_of_ne_nil _ nonempty] at noDigit
    exact noDigit
  noDoubleSlash := (List.isChain_append.mp whole.noDoubleSlash).1
  noTrailingSlash := noTrailing

/-- The C string and the window are in the grammar together exactly if the window is not
misread. -/
theorem wellFormed_iff_of_not_misread :
    (WellFormed view.cString ↔ WellFormed view.characters) ↔ ¬Misread view := by
  by_cases hasNul : nul ∈ view.characters
  · rw [StringView.cString_of_nul hasNul]
    have notPath : ¬WellFormed view.characters := fun path => path.noNul hasNul
    constructor
    · rintro same (⟨_, path⟩ | ⟨path, _⟩ | ⟨noNul, _⟩)
      · exact notPath (same.mp path)
      · exact notPath path
      · exact noNul hasNul
    · intro notMisread
      constructor
      · intro path
        exact absurd (.cutOff hasNul path) notMisread
      · intro path
        exact absurd path notPath
  · rw [StringView.cString_of_noNul hasNul]
    constructor
    · rintro same (⟨found, _⟩ | ⟨path, behind⟩ | ⟨_, unfinished, whole⟩)
      · exact hasNul found
      · obtain ⟨allowed, noDouble, noTrailing⟩ := path.append_iff.mp (same.mpr path)
        rcases behind with ⟨character, member, refused⟩ | broken | isLast
        · exact refused (allowed character member)
        · exact broken noDouble
        · exact noTrailing isLast
      · have path := same.mp whole
        rcases unfinished with isEmpty | isLast
        · exact path.nonempty isEmpty
        · exact path.noTrailingSlash isLast
    · intro notMisread
      constructor
      · intro whole
        by_cases unfinished : view.characters = [] ∨ '/' ∈ view.characters.getLast?
        · exact absurd (.completed hasNul unfinished whole) notMisread
        · rw [not_or] at unfinished
          exact whole.of_append unfinished.1 unfinished.2
      · intro path
        by_contra notWhole
        rw [path.append_iff] at notWhole
        apply notMisread
        apply Misread.spoiled path
        by_contra behind
        simp only [not_or, not_exists, not_and, not_not] at behind
        exact notWhole behind

/-- The creation follows the grammar if the C string and the window agree about it. -/
theorem creationLaw_iff_reads :
    CreationLaw view ↔ (WellFormed view.cString ↔ WellFormed view.characters) := by
  have created : (∃ specifier, create view = some (.ok specifier)) ↔ WellFormed view.cString := by
    constructor
    · rintro ⟨specifier, isOk⟩
      exact (create_eq_ok_iff.mp isOk).1
    · intro path
      exact ⟨⟨view.characters⟩, create_eq_ok_iff.mpr ⟨path, rfl⟩⟩
  constructor
  · intro law
    rw [← created]
    exact law.accepts
  · intro same
    refine ⟨created.trans same, ?_⟩
    intro specifier isOk
    rw [(create_eq_ok_iff.mp isOk).2]
    rfl

/-- The creation follows the grammar exactly for the windows that are not misread. -/
theorem creationLaw_iff (view : StringView) : CreationLaw view ↔ ¬Misread view :=
  creationLaw_iff_reads.trans wellFormed_iff_of_not_misread

end Windows

/-- The window `abc` of the buffer `abc-def`. -/
def spoiledView : StringView where
  buffer := ['a', 'b', 'c', '-', 'd', 'e', 'f']
  position := 0
  length := 3
  within := by decide

/-- The window is in the grammar, but it is refused for what follows it. -/
theorem creationLaw_violated : ¬∀ view : StringView, CreationLaw view := by
  intro claimed
  have characters : spoiledView.characters = ['a', 'b', 'c'] := rfl
  have path : WellFormed spoiledView.characters := by
    rw [characters]
    exact ⟨by simp, by simp [Allowed], by simp, by simp [NotBothSlashes], by simp⟩
  have whole := (creationLaw_iff_reads.mp (claimed spoiledView)).mpr path
  have refused : ¬Allowed '-' := by decide
  exact refused (whole.allowed '-' (by decide))

/-! ## Texts that are buffers of their own -/

/-- A text without a window is read as a whole up to its first NUL. -/
theorem cString_ofText (text : String) : (StringView.ofText text).cString = cString text := by
  have data : (StringView.ofText text).data = text.toList ++ [nul] := rfl
  rw [StringView.cString, data, List.takeWhile_append]
  split
  · rename_i whole
    change text.toList ++ [] = text.toList.takeWhile fun character => decide (character ≠ nul)
    rw [(List.takeWhile_prefix _).eq_of_length whole, List.append_nil]
  · rfl

theorem isChain_notBothSlashes_iff : path.IsChain NotBothSlashes ↔ ¬['/', '/'] <:+: path := by
  rw [List.isChain_iff_forall_rel_of_append_cons_cons]
  constructor
  · rintro chain ⟨before, behind, rfl⟩
    have apart : NotBothSlashes '/' '/' := @chain _ _ before behind (by simp)
    exact apart ⟨rfl, rfl⟩
  · rintro noInfix one next before behind rfl ⟨rfl, rfl⟩
    exact noInfix ⟨before, behind, by simp⟩

theorem startsName_iff : (character.isAlpha || decide (character ∈ ['_', '/'])) = true ↔
      Allowed character ∧ character.isDigit = false := by
  rw [← Bool.not_eq_true]
  delta Char.isAlpha Char.isUpper Char.isLower
  simp only [Bool.or_eq_true, Bool.and_eq_true,
    decide_eq_true_eq, List.mem_cons, List.not_mem_nil, or_false, allowed_iff, isDigit_iff,
    ← Char.toNat_inj, Char.reduceToNat]
  change (65 ≤ character.toNat ∧ character.toNat ≤ 90 ∨
    97 ≤ character.toNat ∧ character.toNat ≤ 122) ∨ _ ↔ _
  omega

theorem goesOnName_iff :
    (character.isAlpha || decide (character ∈ ['_', '/']) || character.isDigit) = true ↔
      Allowed character := by
  rw [Bool.or_eq_true, startsName_iff]
  constructor
  · rintro (⟨allowed, _⟩ | isDigit)
    · exact allowed
    · exact .inl (by simp [Char.isAlphanum, isDigit])
  · intro allowed
    by_cases isDigit : character.isDigit = true
    · exact .inr isDigit
    · exact .inl ⟨allowed, Bool.eq_false_iff.mpr isDigit⟩

/-- The grammar of the texts of a configuration is the one of the expressions. -/
theorem isShortNameValid_ofText (text : String) :
    isShortNameValid (.ofText text) = some (Configuration.isShortNameValid text) := by
  obtain ⟨valid, isValid, wellFormed⟩ := isShortNameValid_eq (.ofText text)
  rw [isValid, cString_ofText] at *
  congr 1
  rw [Bool.eq_iff_iff, wellFormed, Configuration.isShortNameValid]
  generalize cString text = path
  have slashes : WellFormed path ↔ (path ≠ [] ∧ (∀ character ∈ path, Allowed character) ∧
      ∀ first ∈ path.head?, first.isDigit = false) ∧ path.getLast? ≠ some '/' ∧
        ¬['/', '/'] <:+: path := by
    rw [← isChain_notBothSlashes_iff]
    constructor
    · rintro ⟨nonempty, allowed, noDigit, noDouble, noTrailing⟩
      exact ⟨⟨nonempty, allowed, noDigit⟩, noTrailing, noDouble⟩
    · rintro ⟨⟨nonempty, allowed, noDigit⟩, noTrailing, noDouble⟩
      exact ⟨nonempty, allowed, noDigit, noDouble, noTrailing⟩
  rw [slashes]
  cases path with
  | nil => simp
  | cons first rest =>
      simp only [Bool.and_eq_true, decide_eq_true_eq, startsName_iff, List.all_eq_true,
        goesOnName_iff]
      simp only [ne_eq, reduceCtorEq, not_false_eq_true, true_and, List.forall_mem_cons,
        List.head?_cons, Option.mem_some_iff, forall_eq']
      tauto

end SpecifierView

end MwCom.Configuration
