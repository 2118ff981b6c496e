/-! The Gregorian calendar, extended to all years. Day numbers count from 1970-01-01. A calendar
year is taken to begin in March, so that the leap day is its last day. -/
namespace FailureIntake

/-- A day by its year, month and day of the month, both from 1. -/
structure Date where
  year : Int
  month : Nat
  day : Nat
deriving DecidableEq, Repr

namespace Date

/-- Every fourth year, but of the full centuries only every fourth. -/
def isLeapYear (year : Int) : Bool :=
  year % 4 == 0 && (year % 100 != 0 || year % 400 == 0)

def daysInMonth (year : Int) (month : Nat) : Nat :=
  if month = 2 then if isLeapYear year then 29 else 28
  else if month = 4 ∨ month = 6 ∨ month = 9 ∨ month = 11 then 30
  else 31

def IsValid (d : Date) : Prop :=
  1 ≤ d.month ∧ d.month ≤ 12 ∧ 1 ≤ d.day ∧ d.day ≤ daysInMonth d.year d.month

instance (d : Date) : Decidable d.IsValid :=
  inferInstanceAs (Decidable (_ ∧ _))

/-- The day numbered 0 is 719468 days after the first of March of year 0. -/
def epochShift : Int := 719468

/-- The days between the first of March and the first of the month, months counted from March. -/
def daysBeforeMonth (m : Nat) : Nat :=
  (153 * m + 2) / 5

def dayNumber (d : Date) : Int :=
  let year := if d.month ≤ 2 then d.year - 1 else d.year
  let month := if d.month ≤ 2 then d.month + 9 else d.month - 3
  365 * year + year / 4 - year / 100 + year / 400 + daysBeforeMonth month + d.day - 1 - epochShift

/-- The day of a number: 400 years have 146097 days, a century 36524 and one more at the end of
the 400 years, four years 1461 and one less at the end of a century, a year 365 and one more at
the end of the four. -/
def ofDayNumber (n : Int) : Date :=
  let n := n + epochShift
  let cycle := n / 146097
  let r := (n % 146097).toNat
  let century := min (r / 36524) 3
  let r := r - 36524 * century
  let quad := r / 1461
  let r := r - 1461 * quad
  let single := min (r / 365) 3
  let r := r - 365 * single
  let year := 400 * cycle + ((100 * century + 4 * quad + single : Nat) : Int)
  let month := (5 * r + 2) / 153
  { year := if month < 10 then year else year + 1
    month := if month < 10 then month + 3 else month - 9
    day := r - daysBeforeMonth month + 1 }

/-- A year of a 400-year cycle has the leap days that its centuries and fours give it. -/
theorem leapDays_cycle (q : Int) {c d s : Nat} (hc : c ≤ 3) (hd : d ≤ 24) (hs : s ≤ 3) :
    (400 * q + ((100 * c + 4 * d + s : Nat) : Int)) / 4 = 100 * q + 25 * c + d ∧
    (400 * q + ((100 * c + 4 * d + s : Nat) : Int)) / 100 = 4 * q + c ∧
    (400 * q + ((100 * c + 4 * d + s : Nat) : Int)) / 400 = q := by
  refine ⟨?_, ?_, ?_⟩ <;> omega

/-- The number of a day, given its place in the cycle, the century, the four and the year. -/
theorem dayNumber_parts (q : Int) {c d s r : Nat} (hc : c ≤ 3) (hd : d ≤ 24) (hs : s ≤ 3)
    (hr : r ≤ 365) :
    dayNumber
      { year := if (5 * r + 2) / 153 < 10 then 400 * q + ((100 * c + 4 * d + s : Nat) : Int)
          else 400 * q + ((100 * c + 4 * d + s : Nat) : Int) + 1
        month := if (5 * r + 2) / 153 < 10 then (5 * r + 2) / 153 + 3 else (5 * r + 2) / 153 - 9
        day := r - daysBeforeMonth ((5 * r + 2) / 153) + 1 } =
      146097 * q + 36524 * c + 1461 * d + 365 * s + r - epochShift := by
  obtain ⟨h4, h100, h400⟩ := leapDays_cycle q hc hd hs
  generalize hm : (5 * r + 2) / 153 = m
  have hm11 : m ≤ 11 := by omega
  have hday : daysBeforeMonth m ≤ r := by unfold daysBeforeMonth; omega
  by_cases hlow : m < 10
  · have hmonth : ¬ m + 3 ≤ 2 := by omega
    simp only [dayNumber, hlow, if_true, hmonth, if_false, h4, h100, h400, Nat.add_sub_cancel]
    omega
  · have hmonth : m - 9 ≤ 2 := by omega
    have hback : m - 9 + 9 = m := by omega
    simp only [dayNumber, hlow, if_true, hmonth, if_false, Int.add_sub_cancel, h4, h100, h400, hback]
    omega

/-- Numbering the day of a number gives the number back. -/
theorem dayNumber_ofDayNumber (n : Int) : (ofDayNumber n).dayNumber = n := by
  have hm : 0 ≤ (n + epochShift) % 146097 := Int.emod_nonneg _ (by decide)
  have hlt : (n + epochShift) % 146097 < 146097 := Int.emod_lt_of_pos _ (by decide)
  simp only [ofDayNumber]
  rw [dayNumber_parts]
  all_goals omega

end Date

end FailureIntake
