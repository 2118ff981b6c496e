import FailureIntake.Instant.Rfc3339
import Mathlib.Tactic.ByContra
import Mathlib.Tactic.SplitIfs

/-! Days of the calendar. Every day number has a day that exists, and later years have later
days. -/
namespace FailureIntake.Date

/-- The last day of a year that begins in March comes before the end of a leap year's February. -/
theorem isLeapYear_of_parts (q : Int) {c d : Nat} (hd : d ≤ 24) (last : d < 24 ∨ c = 3) :
    isLeapYear (400 * q + ((100 * c + 4 * d + 3 : Nat) : Int) + 1) = true := by
  simp only [isLeapYear, Bool.and_eq_true, Bool.or_eq_true, beq_iff_eq, bne_iff_ne]
  omega

/-- A day exists, given its place in the cycle, the century, the four and the year. -/
theorem isValid_parts (q : Int) {c d s r : Nat} (hd : d ≤ 24) (hr : r ≤ 365)
    (leap : r = 365 → s = 3 ∧ (d < 24 ∨ c = 3)) :
    IsValid
      { year := if (5 * r + 2) / 153 < 10 then 400 * q + ((100 * c + 4 * d + s : Nat) : Int)
          else 400 * q + ((100 * c + 4 * d + s : Nat) : Int) + 1
        month := if (5 * r + 2) / 153 < 10 then (5 * r + 2) / 153 + 3 else (5 * r + 2) / 153 - 9
        day := r - daysBeforeMonth ((5 * r + 2) / 153) + 1 } := by
  generalize hm : (5 * r + 2) / 153 = m
  have m_le : m ≤ 11 := by omega
  by_cases low : m < 10
  · simp only [IsValid, daysInMonth, daysBeforeMonth, low, if_true]
    split_ifs <;> omega
  · simp only [IsValid, daysInMonth, daysBeforeMonth, low, if_false]
    by_cases february : m = 11
    · by_cases last : r = 365
      · obtain ⟨rfl, within⟩ := leap last
        rw [isLeapYear_of_parts q hd within, february]
        simp
        omega
      · split_ifs <;> omega
    · split_ifs <;> omega

/-- The day of a number is a day that exists. -/
theorem ofDayNumber_isValid (n : Int) : (ofDayNumber n).IsValid := by
  have nonneg : 0 ≤ (n + epochShift) % 146097 := Int.emod_nonneg _ (by decide)
  have lt : (n + epochShift) % 146097 < 146097 := Int.emod_lt_of_pos _ (by decide)
  simp only [ofDayNumber]
  apply isValid_parts
  all_goals omega

theorem IsValid.day_le {d : Date} (valid : d.IsValid) : d.day ≤ 31 := by
  obtain ⟨-, -, -, le⟩ := valid
  unfold daysInMonth at le
  split_ifs at le <;> omega

/-- Days of an earlier year come first. -/
theorem dayNumber_lt_of_year_lt {d e : Date} (earlier : d.IsValid) (later : e.IsValid)
    (lt : d.year < e.year) : d.dayNumber < e.dayNumber := by
  have day := earlier.day_le
  obtain ⟨-, month, -, -⟩ := earlier
  obtain ⟨month', -, day', -⟩ := later
  simp only [dayNumber, daysBeforeMonth]
  split_ifs <;> omega

/-- Numbers between two days have days of the years between them. -/
theorem year_ofDayNumber {first last : Date} {n : Int} (hf : first.IsValid) (hl : last.IsValid)
    (low : first.dayNumber ≤ n) (high : n ≤ last.dayNumber) :
    first.year ≤ (ofDayNumber n).year ∧ (ofDayNumber n).year ≤ last.year := by
  have valid := ofDayNumber_isValid n
  rw [← dayNumber_ofDayNumber n] at low high
  constructor
  · by_contra early
    have := dayNumber_lt_of_year_lt valid hf (Int.not_le.mp early)
    omega
  · by_contra late
    have := dayNumber_lt_of_year_lt hl valid (Int.not_le.mp late)
    omega

end FailureIntake.Date
