import Mathlib.Data.List.DropRight
import SqlTree.Decimal.Shortest

/-!
# Digits that are read back

A number can be read off its digits, also when zeros have been put in front of them, and when the
zeros at the end of a fixed number of places have been left out.
-/

namespace SqlTree.Decimal

/-- The number that the digits write. -/
def numberOf (digits : List Char) : Nat :=
  Nat.ofDigitChars 10 digits 0

/-! ## Zeros in front -/

@[simp]
theorem numberOf_padded (width number : Nat) :
    numberOf (padded width (digitsOf number)) = number := by
  simp [numberOf, padded, digitsOf, Nat.ofDigitChars_append, Nat.ofDigitChars_replicate_zero,
    Nat.ofDigitChars_ten_toDigits]

/-- A number takes no more than its places if it has no more digits. -/
theorem length_padded {width number : Nat} (positive : 0 < width)
    (fits : number < Nat.pow 10 width) : (padded width (digitsOf number)).length = width := by
  have fewDigits : (digitsOf number).length ≤ width :=
    (Nat.length_toDigits_le_iff (by decide) positive).mpr fits
  simp [padded, fewDigits]

theorem isDigit_of_mem_padded {width number : Nat} {character : Char}
    (member : character ∈ padded width (digitsOf number)) : character.isDigit = true := by
  rcases List.mem_append.mp member with zero | digit
  · rw [List.eq_of_mem_replicate zero]
    decide
  · exact Nat.isDigit_of_mem_toDigits (by decide) (by decide) digit

/-- The digits of a number begin with a zero only if it is zero.  The induction takes the last digit
off, as long as there is another one. -/
theorem head?_digitsOf_ne_zero {number : Nat} (positive : 0 < number) :
    (digitsOf number).head? ≠ some '0' := by
  induction number using Nat.strong_induction_on with
  | h number ih =>
    rw [digitsOf, Nat.toDigits_eq_if (by decide)]
    split
    · next single =>
      have noZero : ∀ digit < 10, 0 < digit → Nat.digitChar digit ≠ '0' := by decide
      simpa using noZero number single positive
    · next several =>
      rw [List.head?_append_of_ne_nil _ Nat.toDigits_ne_nil]
      exact ih (number / 10) (by omega) (by omega)

/-! ## Zeros at the end -/

/-- As many zeros were left out as places are missing. -/
theorem append_endZeros (digits : List Char) :
    digits.rdropWhile (· == '0') ++
      List.replicate (digits.length - (digits.rdropWhile (· == '0')).length) '0' = digits := by
  have parts : digits.rdropWhile (· == '0') ++ digits.rtakeWhile (· == '0') = digits :=
    List.rdropWhile_append_rtakeWhile
  have count : (digits.rtakeWhile (· == '0')).length =
      digits.length - (digits.rdropWhile (· == '0')).length := by
    have lengths := congrArg List.length parts
    rw [List.length_append] at lengths
    omega
  have zeros : digits.rtakeWhile (· == '0') =
      List.replicate (digits.length - (digits.rdropWhile (· == '0')).length) '0' := by
    rw [← count]
    apply List.eq_replicate_of_mem
    intro character member
    simpa using List.mem_rtakeWhile_imp member
  rw [← zeros]
  exact parts

theorem getLast?_rdropWhile_zeros (digits : List Char) :
    (digits.rdropWhile (· == '0')).getLast? ≠ some '0' := by
  intro last
  obtain ⟨front, whole⟩ := List.getLast?_eq_some_iff.mp last
  have someLeft : digits.rdropWhile (· == '0') ≠ [] := by simp [whole]
  apply List.rdropWhile_last_not (· == '0') digits someLeft
  simp [whole]

/-- Nothing is left of a number without the zeros at its end only if it is zero. -/
theorem rdropWhile_zeros_ne_nil {number : Nat} (positive : number ≠ 0) (width : Nat) :
    (padded width (digitsOf number)).rdropWhile (· == '0') ≠ [] := by
  intro nothing
  have zeros := append_endZeros (padded width (digitsOf number))
  have readBack := numberOf_padded width number
  rw [← zeros, nothing, List.nil_append, numberOf, Nat.ofDigitChars_replicate_zero,
    Nat.mul_zero] at readBack
  exact positive readBack.symm

end SqlTree.Decimal
