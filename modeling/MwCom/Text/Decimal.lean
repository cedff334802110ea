/-
Module: MwCom.Text.Decimal
Purpose: Which texts are those of a decimal number, and that such a text is the one that
  is printed for the number it is read as.
Trusted boundary: none
Main exports: Decimal.Canonical, Decimal.canonical_toDigits, Decimal.toDigits_ofDigitChars,
  Decimal.padded_injective
-/
import Mathlib.Algebra.Group.Nat.Defs
import Mathlib.Data.List.Induction

namespace Decimal

/-- Digits as a number is printed: there is one, and the first of several is not zero. -/
structure Canonical (digits : List Char) : Prop where
  digitsOnly : ∀ character ∈ digits, character.isDigit = true
  notEmpty : digits ≠ []
  noLeadingZero : digits.head? = some '0' → digits = ['0']

/-! ## Reading what was printed -/

theorem exists_digitChar {character : Char} (isDigit : character.isDigit = true) :
    ∃ digit < 10, character = Nat.digitChar digit := by
  have bounds : 48 ≤ character.toNat ∧ character.toNat ≤ 57 := Char.isDigit_iff_toNat.mp isDigit
  have small : character.toNat - 48 < 10 := by omega
  exists character.toNat - 48, small
  apply Char.toNat_inj.mp
  rw [Nat.toNat_digitChar_of_lt_ten small]
  omega

variable {digits : List Char}

/-- Without a leading zero the number is positive, and printing it gives its digits. -/
theorem toDigits_ofDigitChars_of_head
    (digitsOnly : ∀ character ∈ digits, character.isDigit = true) (notEmpty : digits ≠ [])
    (head : digits.head? ≠ some '0') :
    0 < Nat.ofDigitChars 10 digits 0 ∧ Nat.toDigits 10 (Nat.ofDigitChars 10 digits 0) = digits := by
  induction digits using List.reverseRecOn with
  | nil => exact absurd rfl notEmpty
  | append_singleton front last ih =>
      rcases exists_digitChar (digitsOnly last (by simp)) with ⟨digit, small, rfl⟩
      rw [Nat.ofDigitChars_append, Nat.ofDigitChars_cons_digitChar_of_lt_ten small,
        Nat.ofDigitChars_nil]
      cases front with
      | nil =>
          have positive : 0 < digit := by
            apply Nat.pos_of_ne_zero
            intro zero
            simp [zero] at head
          simp [positive, Nat.toDigits_of_lt_base small]
      | cons first rest =>
          have frontOnly : ∀ character ∈ first :: rest, character.isDigit = true := by
            intro character member
            exact digitsOnly character (List.mem_append_left _ member)
          rcases ih frontOnly (by simp) (by simpa using head) with ⟨positive, printed⟩
          constructor
          · omega
          · rw [← Nat.toDigits_append_toDigits (by omega) positive small, printed,
              Nat.toDigits_of_lt_base small]

theorem toDigits_ofDigitChars (canonical : Canonical digits) :
    Nat.toDigits 10 (Nat.ofDigitChars 10 digits 0) = digits := by
  by_cases zero : digits.head? = some '0'
  · rw [canonical.noLeadingZero zero]
    simp [Nat.ofDigitChars_cons]
  · exact (toDigits_ofDigitChars_of_head canonical.digitsOnly canonical.notEmpty zero).2

/-! ## What is printed -/

theorem head?_toDigits_ne_zero {number : Nat} (positive : 0 < number) :
    (Nat.toDigits 10 number).head? ≠ some '0' := by
  induction number using Nat.strongRecOn with
  | ind number ih =>
      rw [Nat.toDigits_eq_if (by omega)]
      by_cases small : number < 10
      · rw [if_pos small]
        simp
        omega
      · have front := ih (number / 10) (by omega) (by omega)
        cases printed : Nat.toDigits 10 (number / 10) with
        | nil => exact absurd printed Nat.toDigits_ne_nil
        | cons first rest => simpa [small, printed] using front

theorem canonical_toDigits (number : Nat) : Canonical (Nat.toDigits 10 number) where
  digitsOnly _ member := Nat.isDigit_of_mem_toDigits (by omega) (by omega) member
  notEmpty := Nat.toDigits_ne_nil
  noLeadingZero := by
    intro zero
    by_cases positive : 0 < number
    · exact absurd zero (head?_toDigits_ne_zero positive)
    · rw [Nat.eq_zero_of_not_pos positive, Nat.toDigits_zero]

theorem toDigits_injective {first second : Nat}
    (same : Nat.toDigits 10 first = Nat.toDigits 10 second) : first = second := by
  have read := congrArg (fun digits => Nat.ofDigitChars 10 digits 0) same
  simpa using read

/-! ## Leading zeros -/

/-- What `std::setw` prints, filled with zeros. -/
def padded (width number : Nat) : List Char := (Nat.toDigits 10 number).leftpad width '0'

theorem length_padded {width number : Nat} (positive : 0 < width) (small : number < 10 ^ width) :
    (padded width number).length = width := by
  rw [padded, List.length_leftpad]
  exact Nat.max_eq_left ((Nat.length_toDigits_le_iff (by omega) positive).mpr small)

theorem padded_injective {width first second : Nat}
    (same : padded width first = padded width second) : first = second := by
  have read : ∀ number, Nat.ofDigitChars 10 (padded width number) 0 = number := by
    intro number
    simp [padded, List.leftpad, Nat.ofDigitChars_append]
  rw [← read first, same, read]

end Decimal
