import FailureIntake.Text.Digits
import FailureIntake.Yaml.Scalar.Value
import Mathlib.Tactic.IntervalCases

/-! Natural numbers survive their decimal digits. A number begins with a zero only if it is one, so
its digits are not taken for a text, and no digit is the mark of another base. -/
namespace FailureIntake.Yaml.ScalarValue

open Text

theorem head?_decimal {n : Nat} (pos : 0 < n) : (decimal n).head? ≠ some '0' := by
  induction n using Nat.strong_induction_on with
  | _ n ih =>
    unfold decimal at ih ⊢
    by_cases single : n < 10
    · rw [Nat.toDigits_of_lt_base single]
      interval_cases n <;> decide
    · have first := ih (n / 10) (by omega) (by omega)
      rw [Nat.toDigits_of_base_le (by decide) (by omega)]
      obtain ⟨c, r, digits⟩ := List.exists_cons_of_ne_nil (Nat.toDigits_ne_nil (n := n / 10) (b := 10))
      rw [digits] at first ⊢
      exact first

theorem isZeroPadded_decimal (n : Nat) : isZeroPadded (decimal n) = false := by
  rcases Nat.eq_zero_or_pos n with rfl | pos
  · decide
  · simp [isZeroPadded, head?_decimal pos]

theorem hexValue?_of_isDigit {c : Char} (digit : c.isDigit = true) :
    Json.hexValue? c = some (c.toNat - '0'.toNat) ∧ c.toNat - '0'.toNat < 10 := by
  have range : '0' ≤ c ∧ c ≤ '9' := by
    simpa [Char.isDigit, Char.le_def] using digit
  have bound : c.toNat ≤ '9'.toNat := range.2
  refine ⟨if_pos range, ?_⟩
  change c.toNat ≤ 57 at bound
  change c.toNat - 48 < 10
  omega

/-- Digits are read from the left, whatever stands before them. -/
theorem natural?_foldlM {s : List Char} (digits : ∀ c ∈ s, c.isDigit = true) (n : Nat) :
    s.foldlM (fun n c => do
      let d ← Json.hexValue? c
      if d < 10 then some (n * 10 + d) else none) n = some (Nat.ofDigitChars 10 s n) := by
  induction s generalizing n with
  | nil => rfl
  | cons c r ih =>
    obtain ⟨value, small⟩ := hexValue?_of_isDigit (digits c List.mem_cons_self)
    have later := ih fun d member => digits d (List.mem_cons_of_mem c member)
    rw [List.foldlM_cons, value, Nat.ofDigitChars_cons, Nat.mul_comm 10 n]
    simp only [Option.bind_eq_bind, Option.bind_some, small, if_true]
    exact later _

theorem natural?_decimal (n : Nat) : natural? 10 (decimal n) = some n := by
  have nonempty : (decimal n).isEmpty = false := by simp [decimal]
  rw [natural?, nonempty, natural?_foldlM fun c => decimal_isDigit]
  exact congrArg some (digitsValue_decimal n)

theorem word?_decimal (n : UInt64) : word? (decimal n.toNat) = some n := by
  have digits : ∀ c ∈ decimal n.toNat, c.isDigit = true := fun c => decimal_isDigit
  have magnitude : magnitude? (decimal n.toNat) = some n.toNat := by
    unfold magnitude?
    split
    · next r shape => exact absurd (digits 'x' (by simp [shape])) (by decide)
    · next r shape => exact absurd (digits 'o' (by simp [shape])) (by decide)
    · next r shape => exact absurd (digits 'b' (by simp [shape])) (by decide)
    · rw [isZeroPadded_decimal, natural?_decimal]
      rfl
  have unsigned : unsigned? (decimal n.toNat) = some n.toNat := by
    unfold unsigned?
    split
    · next r shape => exact absurd (digits '+' (by simp [shape])) (by decide)
    · exact magnitude
  rw [word?, unsigned, Option.bind_some, if_pos n.toNat_lt, UInt64.ofNat_toNat]

end FailureIntake.Yaml.ScalarValue
