import FailureIntake.Proofs.Instant.Calendar
import FailureIntake.Proofs.Text.Digits
import FailureIntake.Proofs.Text.Runs

/-! The text of an instant is read as that instant. Each reader takes just what its writer wrote,
whatever follows. -/
namespace FailureIntake

namespace TimeReader

variable {α β : Type} {p : TimeReader α} {f : α → TimeReader β} {a : α} {s r rest ds : List Char}
  {limit : Option Nat} {n : Nat}

theorem bind_of_eq (read : p s = .ok (a, r)) : (p >>= f) s = f a r := by
  simp only [bind, StateT.bind, read, Except.bind]

theorem get_bind (f : List Char → TimeReader β) : ((get : TimeReader _) >>= f) s = f s s :=
  rfl

theorem set_bind (f : PUnit → TimeReader β) : ((set r : TimeReader _) >>= f) s = f ⟨⟩ r :=
  rfl

theorem space_of_endsRun (solid : Text.EndsRun Text.isWhitespace s) : space s = .ok ((), s) := by
  have same : Text.trimStart ([] ++ s) = s := Text.dropWhile_run nofun solid
  exact congrArg (fun r => Except.ok ((), r)) same

theorem space_cons {c : Char} (solid : Text.isWhitespace c = false) :
    space (c :: r) = .ok ((), c :: r) :=
  space_of_endsRun (Text.endsRun_cons.mpr solid)

theorem space_padded (width n : Nat) (rest : List Char) :
    space (Text.paddedDecimal width n ++ rest) = .ok ((), Text.paddedDecimal width n ++ rest) := by
  obtain ⟨c, tail, eq, digit⟩ := Text.exists_cons_paddedDecimal width n
  rw [eq]
  exact space_cons (Text.isWhitespace_of_isDigit digit)

theorem digits_of_takeWhile (nonempty : ds ≠ [])
    (taken : ((ds ++ rest).take (limit.getD (ds ++ rest).length)).takeWhile Char.isDigit = ds) :
    digits limit (ds ++ rest) = .ok (ds, rest) := by
  cases ds with
  | nil => exact absurd rfl nonempty
  | cons c tail =>
    simp only [List.cons_append, List.length_cons] at taken
    simp only [digits, List.cons_append, taken]
    simp

/-- As many digits as the limit allows, whatever follows. -/
theorem digits_full (pos : 0 < n) (length : ds.length = n) (all : ∀ c ∈ ds, c.isDigit = true) :
    digits (some n) (ds ++ rest) = .ok (ds, rest) := by
  apply digits_of_takeWhile
  · exact List.ne_nil_of_length_pos (length ▸ pos)
  · rw [Option.getD_some, List.take_left' length, List.takeWhile_eq_self_iff]
    exact all

/-- All digits of a run that the limit does not cut. -/
theorem digits_run (nonempty : ds ≠ []) (within : ∀ n ∈ limit, ds.length ≤ n)
    (all : ∀ c ∈ ds, c.isDigit = true) (ends : Text.EndsRun Char.isDigit rest) :
    digits limit (ds ++ rest) = .ok (ds, rest) := by
  apply digits_of_takeWhile nonempty
  cases limit with
  | none =>
    rw [Option.getD_none, List.take_length]
    exact Text.takeWhile_run all ends
  | some n =>
    rw [Option.getD_some, List.take_append, List.take_of_length_le (within n rfl)]
    apply Text.takeWhile_run all
    exact ends.take _

theorem number_of_digits {width : Nat}
    (read : digits limit (Text.paddedDecimal width n ++ rest) = .ok (Text.paddedDecimal width n, rest))
    (small : n < Nat.pow 2 63) :
    number limit (Text.paddedDecimal width n ++ rest) = .ok (n, rest) := by
  rw [number, bind_of_eq read, Text.digitsValue_paddedDecimal, if_pos small]
  rfl

theorem number_padded {width : Nat} (pos : 0 < width) (fits : n < Nat.pow 10 width)
    (narrow : Nat.pow 10 width ≤ Nat.pow 2 63) (rest : List Char) :
    number (some width) (Text.paddedDecimal width n ++ rest) = .ok (n, rest) := by
  apply number_of_digits
  · exact digits_full pos (Text.length_paddedDecimal pos fits) fun _ => Text.isDigit_of_mem_paddedDecimal
  · exact Nat.lt_of_lt_of_le fits narrow

/-- A field of two digits. -/
theorem field_padded {low high : Nat} (ge : low ≤ n) (le : n ≤ high) (fits : n < 100)
    (rest : List Char) :
    field low high (Text.paddedDecimal 2 n ++ rest) = .ok (n, rest) := by
  rw [field, bind_of_eq (space_padded 2 n rest),
    bind_of_eq (number_padded (by decide) fits (by decide) rest), if_pos ⟨ge, le⟩]
  rfl

theorem expect_cons {q : Char → Bool} {c : Char} (expected : q c = true) :
    expect q (c :: r) = .ok ((), r) := by
  simp [expect, expected]

/-- The digits of a year after a sign. -/
theorem number_signed (small : n < Nat.pow 2 63) (ends : Text.EndsRun Char.isDigit rest) :
    number none (Text.paddedDecimal 4 n ++ rest) = .ok (n, rest) := by
  obtain ⟨c, tail, eq, -⟩ := Text.exists_cons_paddedDecimal 4 n
  apply number_of_digits _ small
  apply digits_run
  · exact eq ▸ List.cons_ne_nil c tail
  · exact nofun
  · exact fun _ => Text.isDigit_of_mem_paddedDecimal
  · exact ends

theorem year_text {y : Int} (small : y.natAbs < 1000000) (ends : Text.EndsRun Char.isDigit rest) :
    year (Date.yearText y ++ rest) = .ok (y, rest) := by
  have narrow : y.natAbs < Nat.pow 2 63 := Nat.lt_trans small (by decide)
  have inBounds : -(Nat.pow 2 31 : Int) ≤ y ∧ y < (Nat.pow 2 31 : Int) := by
    simp only [Nat.pow_eq, Nat.reducePow]
    omega
  unfold Date.yearText year
  by_cases negative : y < 0
  · have value : -((y.natAbs : Nat) : Int) = y := by omega
    simp only [if_pos negative, List.cons_append]
    rw [bind_of_eq (space_cons rfl), get_bind]
    simp only []
    rw [set_bind, bind_of_eq (number_signed narrow ends), pure_bind, value, if_pos inBounds]
    rfl
  have value : ((y.natAbs : Nat) : Int) = y := by omega
  by_cases long : 9999 < y
  · simp only [if_neg negative, if_pos long, List.cons_append]
    rw [bind_of_eq (space_cons rfl), get_bind]
    simp only []
    rw [set_bind, bind_of_eq (number_signed narrow ends), pure_bind, value, if_pos inBounds]
    rfl
  · have four : y.natAbs < Nat.pow 10 4 := by
      simp only [Nat.pow_eq, Nat.reducePow]
      omega
    have read := number_padded (by decide) four (by decide) rest
    obtain ⟨c, tail, eq, digit⟩ := Text.exists_cons_paddedDecimal 4 y.natAbs
    simp only [if_neg negative, if_neg long]
    rw [bind_of_eq (space_padded 4 y.natAbs rest), get_bind]
    generalize text : Text.paddedDecimal 4 y.natAbs ++ rest = s at read ⊢
    rw [eq, List.cons_append] at text
    -- A digit is neither of the signs.
    split
    · cases text
      exact absurd digit nofun
    · cases text
      exact absurd digit nofun
    · rw [bind_of_eq read, pure_bind, value, if_pos inBounds]
      rfl

theorem date_text {d : Date} (valid : d.IsValid) (small : d.year.natAbs < 1000000)
    (rest : List Char) : date (d.text ++ rest) = .ok (d, rest) := by
  have day_le := valid.day_le
  obtain ⟨month_ge, month_le, day_ge, -⟩ := valid
  have month (r : List Char) := field_padded month_ge month_le (by omega) r
  have day (r : List Char) := field_padded day_ge day_le (by omega) r
  simp only [Date.text, List.append_assoc, List.cons_append]
  rw [date, bind_of_eq (year_text small (Text.endsRun_cons.mpr rfl)), bind_of_eq (space_cons rfl),
    bind_of_eq (expect_cons rfl), bind_of_eq (month _), bind_of_eq (space_cons rfl),
    bind_of_eq (expect_cons rfl), bind_of_eq (day _)]
  rfl

/-- A fraction of fewer digits is read as if zeros followed. -/
theorem fraction_point {width : Nat} (pos : 0 < width) (le : width ≤ 9) (fits : n < Nat.pow 10 width)
    (rest : List Char) :
    fraction ('.' :: Text.paddedDecimal width n ++ 'Z' :: rest) =
      .ok (n * Nat.pow 10 (9 - width), 'Z' :: rest) := by
  have length := Text.length_paddedDecimal pos fits
  have read : digits (some 9) (Text.paddedDecimal width n ++ 'Z' :: rest) =
      .ok (Text.paddedDecimal width n, 'Z' :: rest) := by
    apply digits_run
    · exact List.ne_nil_of_length_pos (by omega)
    · intro limit same
      cases same
      omega
    · exact fun _ => Text.isDigit_of_mem_paddedDecimal
    · exact Text.endsRun_cons.mpr rfl
  rw [fraction, get_bind]
  simp only [List.cons_append]
  rw [set_bind, bind_of_eq read, length, Text.digitsValue_paddedDecimal]
  rfl

theorem fraction_text (small : n < 1000000000) (rest : List Char) :
    fraction (Instant.fractionText n ++ 'Z' :: rest) = .ok (n, 'Z' :: rest) := by
  unfold Instant.fractionText
  split_ifs with none millis micros
  · rw [none]
    rfl
  · have fits : n / 1000000 < Nat.pow 10 3 := Nat.div_lt_of_lt_mul small
    have whole : n / 1000000 * Nat.pow 10 (9 - 3) = n := Nat.div_mul_cancel (Nat.dvd_of_mod_eq_zero millis)
    rw [fraction_point (by decide) (by decide) fits, whole]
  · have fits : n / 1000 < Nat.pow 10 6 := Nat.div_lt_of_lt_mul small
    have whole : n / 1000 * Nat.pow 10 (9 - 6) = n := Nat.div_mul_cancel (Nat.dvd_of_mod_eq_zero micros)
    rw [fraction_point (by decide) (by decide) fits, whole]
  · have fits : n < Nat.pow 10 9 := small
    rw [fraction_point (by decide) (by decide) fits]
    exact congrArg (fun n => Except.ok (n, 'Z' :: rest)) (Nat.mul_one n)

/-- Second 60 is the second before it with a thousand million more nanoseconds. -/
theorem timeOfDay_text {h m s n : Nat} (hour : h ≤ 23) (minute : m ≤ 59) (second : s ≤ 60)
    (small : n < 1000000000) (rest : List Char) :
    timeOfDay (Text.paddedDecimal 2 h ++ ':' :: (Text.paddedDecimal 2 m ++
      ':' :: (Text.paddedDecimal 2 s ++ (Instant.fractionText n ++ 'Z' :: rest)))) =
      .ok (if s = 60 then (h * 3600 + m * 60 + 59, n + 1000000000) else (h * 3600 + m * 60 + s, n),
        'Z' :: rest) := by
  have hours (r : List Char) := field_padded (Nat.zero_le h) hour (by omega) r
  have minutes (r : List Char) := field_padded (Nat.zero_le m) minute (by omega) r
  have seconds (r : List Char) := field_padded (Nat.zero_le s) second (by omega) r
  rw [timeOfDay, bind_of_eq (hours _), bind_of_eq (space_cons rfl), bind_of_eq (expect_cons rfl),
    bind_of_eq (minutes _), bind_of_eq (space_cons rfl), bind_of_eq (expect_cons rfl),
    bind_of_eq (seconds _), bind_of_eq (fraction_text small rest), bind_of_eq (space_cons rfl)]
  rfl

end TimeReader

theorem Instant.InRange.year {t : Instant} (inRange : t.InRange) :
    Date.minYear ≤ (Date.ofDayNumber (t.secs / secondsPerDay)).year ∧
      (Date.ofDayNumber (t.secs / secondsPerDay)).year ≤ Date.maxYear := by
  have first : (⟨Date.minYear, 1, 1⟩ : Date).IsValid := by decide
  have last : (⟨Date.maxYear, 12, 31⟩ : Date).IsValid := by decide
  obtain ⟨low, high, -⟩ := inRange
  simp only [minSecs, maxSecs, secondsPerDay] at low high
  apply Date.year_ofDayNumber first last
  · simp only [secondsPerDay]
    omega
  · simp only [secondsPerDay]
    omega

/-- The second of the day from its hour, minute and second, of which a leap second is one more. -/
theorem Instant.InRange.timeOfDay {t : Instant} (inRange : t.InRange) :
    let second := (t.secs % secondsPerDay).toNat
    (if second % 60 + t.nanos / 1000000000 = 60 then
      (second / 3600 * 3600 + second / 60 % 60 * 60 + 59, t.nanos % 1000000000 + 1000000000)
    else (second / 3600 * 3600 + second / 60 % 60 * 60 + (second % 60 + t.nanos / 1000000000),
      t.nanos % 1000000000)) = (second, t.nanos) := by
  obtain ⟨-, -, nanos⟩ := inRange
  have lastOfMinute : t.secs % 60 = 59 → (t.secs % secondsPerDay).toNat % 60 = 59 := by
    simp only [secondsPerDay]
    omega
  intro second
  split_ifs with leap
  · rw [Prod.mk.injEq]
    omega
  · rw [Prod.mk.injEq]
    omega

/-- Reading the text of an instant gives the instant back. -/
theorem Instant.ofText_text {t : Instant} (inRange : t.InRange) : ofText t.text = .ok t := by
  have valid := Date.ofDayNumber_isValid (t.secs / secondsPerDay)
  have number := Date.dayNumber_ofDayNumber (t.secs / secondsPerDay)
  have timeOfDay := inRange.timeOfDay
  obtain ⟨minYear_le, le_maxYear⟩ := inRange.year
  obtain ⟨low, high, nanos⟩ := inRange
  have small : (Date.ofDayNumber (t.secs / secondsPerDay)).year.natAbs < 1000000 := by
    simp only [Date.minYear, Date.maxYear] at minYear_le le_maxYear
    omega
  have second_lt : (t.secs % secondsPerDay).toNat < 86400 := by
    simp only [secondsPerDay]
    omega
  have secs : t.secs / secondsPerDay * secondsPerDay + (t.secs % secondsPerDay).toNat - 0 = t.secs := by
    simp only [secondsPerDay]
    omega
  have inYears : ¬(¬(Date.ofDayNumber (t.secs / secondsPerDay)).IsValid ∨
      (Date.ofDayNumber (t.secs / secondsPerDay)).year < Date.minYear ∨
      Date.maxYear < (Date.ofDayNumber (t.secs / secondsPerDay)).year ∨
      (secondsPerDay : Int) ≤ (0 : Int).natAbs) := by
    rintro (invalid | early | late | ahead)
    · exact invalid valid
    · omega
    · omega
    · exact absurd ahead (by decide)
  have read : TimeReader.instant t.text = .ok (t, []) := by
    simp only [text, List.append_assoc, List.cons_append]
    rw [TimeReader.instant, TimeReader.bind_of_eq (TimeReader.date_text valid small _),
      TimeReader.bind_of_eq (TimeReader.expect_cons rfl),
      TimeReader.bind_of_eq (TimeReader.timeOfDay_text (by omega) (by omega) (by omega) (by omega) []),
      timeOfDay]
    simp only []
    rw [TimeReader.bind_of_eq (rfl : TimeReader.offset ['Z'] = .ok (0, [])),
      TimeReader.bind_of_eq (TimeReader.space_of_endsRun Text.endsRun_nil), TimeReader.get_bind]
    simp only [if_neg inYears, number, secs]
    rw [if_neg (by decide), if_neg (by omega)]
    rfl
  rw [ofText, StateT.run, read]
  rfl

end FailureIntake
