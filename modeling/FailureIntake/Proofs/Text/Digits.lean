import FailureIntake.Text.Digits
import FailureIntake.Text.Whitespace

/-! Padded numbers. A number that the width has room for takes just that width. -/
namespace FailureIntake.Text

variable {width n : Nat} {c : Char}

theorem length_paddedDecimal (pos : 0 < width) (fits : n < Nat.pow 10 width) :
    (paddedDecimal width n).length = width := by
  have le : (decimal n).length ≤ width := (Nat.length_toDigits_le_iff (by decide) pos).mpr fits
  simp only [paddedDecimal, List.length_append, List.length_replicate]
  omega

theorem isDigit_of_mem_paddedDecimal (member : c ∈ paddedDecimal width n) : c.isDigit = true := by
  rcases List.mem_append.mp member with padding | digit
  · rw [(List.mem_replicate.mp padding).2]
    rfl
  · exact decimal_isDigit digit

@[simp] theorem digitsValue_paddedDecimal (width n : Nat) :
    digitsValue (paddedDecimal width n) = n := by
  rw [digitsValue, paddedDecimal, Nat.ofDigitChars_append, Nat.ofDigitChars_replicate_zero]
  exact digitsValue_decimal n

theorem exists_cons_paddedDecimal (width n : Nat) :
    ∃ c r, paddedDecimal width n = c :: r ∧ c.isDigit = true := by
  have digits : decimal n ≠ [] := Nat.toDigits_ne_nil
  have nonempty : paddedDecimal width n ≠ [] := by simp [paddedDecimal, digits]
  obtain ⟨c, r, eq⟩ := List.exists_cons_of_ne_nil nonempty
  exact ⟨c, r, eq, isDigit_of_mem_paddedDecimal (eq ▸ List.mem_cons_self)⟩

theorem isWhitespace_of_isDigit (digit : c.isDigit = true) : isWhitespace c = false := by
  have bounds : 48 ≤ c.toNat ∧ c.toNat ≤ 57 := by
    simp only [Char.isDigit, Bool.and_eq_true, decide_eq_true_eq] at digit
    exact digit
  simp [isWhitespace, CharRanges.contains, whitespaces]
  omega

end FailureIntake.Text
