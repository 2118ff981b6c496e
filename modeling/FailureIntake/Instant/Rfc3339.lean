import FailureIntake.Instant
import FailureIntake.Instant.Calendar
import FailureIntake.Text.Digits
import FailureIntake.Text.Whitespace

/-! The RFC 3339 text of an instant. The writer has one text for each instant. The reader also
takes spaces around the numbers, any number of fraction digits and any offset below a day. -/
namespace FailureIntake

namespace Date

def minYear : Int := -262143

def maxYear : Int := 262142

/-- Four digits, and a sign outside the years 0 to 9999. -/
def yearText (year : Int) : List Char :=
  let digits := Text.paddedDecimal 4 year.natAbs
  if year < 0 then '-' :: digits else if 9999 < year then '+' :: digits else digits

def text (d : Date) : List Char :=
  yearText d.year ++ '-' :: Text.paddedDecimal 2 d.month ++ '-' :: Text.paddedDecimal 2 d.day

end Date

namespace Instant

def secondsPerDay : Nat := 86400

/-- The first and the last second that a record can carry. -/
def minSecs : Int :=
  Date.dayNumber ⟨Date.minYear, 1, 1⟩ * secondsPerDay

def maxSecs : Int :=
  Date.dayNumber ⟨Date.maxYear, 12, 31⟩ * secondsPerDay + secondsPerDay - 1

/-- Within the years of records, with a leap second only at the end of a minute. -/
def InRange (t : Instant) : Prop :=
  minSecs ≤ t.secs ∧ t.secs ≤ maxSecs ∧
    (t.nanos < 1000000000 ∨ t.nanos < 2000000000 ∧ t.secs % 60 = 59)

instance (t : Instant) : Decidable t.InRange :=
  inferInstanceAs (Decidable (_ ∧ _))

/-- No digits, or the three, six or nine that are the fewest exact ones. -/
def fractionText (nanos : Nat) : List Char :=
  if nanos = 0 then []
  else if nanos % 1000000 = 0 then '.' :: Text.paddedDecimal 3 (nanos / 1000000)
  else if nanos % 1000 = 0 then '.' :: Text.paddedDecimal 6 (nanos / 1000)
  else '.' :: Text.paddedDecimal 9 nanos

/-- Date and time of day in Coordinated Universal Time. A leap second is second 60. -/
def text (t : Instant) : List Char :=
  let second := (t.secs % secondsPerDay).toNat
  (Date.ofDayNumber (t.secs / secondsPerDay)).text ++
    'T' :: Text.paddedDecimal 2 (second / 3600) ++
    ':' :: Text.paddedDecimal 2 (second / 60 % 60) ++
    ':' :: Text.paddedDecimal 2 (second % 60 + t.nanos / 1000000000) ++
    fractionText (t.nanos % 1000000000) ++ ['Z']

end Instant

/-- Why a text is no time. -/
inductive TimeError where
  | invalid
  | tooShort
  | trailing
  | outOfRange
  /-- The offset leads out of the years of records. -/
  | impossible
deriving DecidableEq, Repr

def TimeError.message : TimeError → String
  | .invalid => "input contains invalid characters"
  | .tooShort => "premature end of input"
  | .trailing => "trailing input"
  | .outOfRange => "input is out of range"
  | .impossible => "no possible date and time matching input"

abbrev TimeReader := StateT (List Char) (Except TimeError)

namespace TimeReader

def space : TimeReader Unit :=
  modify Text.trimStart

def expect (p : Char → Bool) : TimeReader Unit := fun
  | [] => .error .tooShort
  | c :: r => if p c then .ok ((), r) else .error .invalid

/-- The digits in front, at most `limit` of them and at least one. -/
def digits (limit : Option Nat) : TimeReader (List Char) := fun
  | [] => .error .tooShort
  | c :: r =>
    let taken := ((c :: r).take (limit.getD (r.length + 1))).takeWhile Char.isDigit
    if taken.isEmpty then .error .invalid else .ok (taken, (c :: r).drop taken.length)

/-- The number in front, below 2^63. -/
def number (limit : Option Nat) : TimeReader Nat := do
  let n := Text.digitsValue (← digits limit)
  if n < Nat.pow 2 63 then pure n else throw .outOfRange

/-- A number of at most two digits between bounds. -/
def field (low high : Nat) : TimeReader Nat := do
  space
  let n ← number (some 2)
  if low ≤ n ∧ n ≤ high then pure n else throw .outOfRange

/-- Four digits, or a sign and any number of digits. The year has to fit into 32 bits. -/
def year : TimeReader Int := do
  space
  let y ← match ← get with
    | '-' :: r => do set r; pure (-((← number none : Nat) : Int))
    | '+' :: r => do set r; pure ((← number none : Nat) : Int)
    | _ => do pure ((← number (some 4) : Nat) : Int)
  if -(Nat.pow 2 31 : Int) ≤ y ∧ y < (Nat.pow 2 31 : Int) then pure y else throw .outOfRange

/-- Year, month and day, which may be a day that does not exist. -/
def date : TimeReader Date := do
  let y ← year
  space
  expect (· == '-')
  let m ← field 1 12
  space
  expect (· == '-')
  let d ← field 1 31
  pure ⟨y, m, d⟩

/-- Nanoseconds. Digits after the ninth do not count. -/
def fraction : TimeReader Nat := do
  match ← get with
  | '.' :: r => do
    set r
    let ds ← digits (some 9)
    modify (·.dropWhile Char.isDigit)
    pure (Text.digitsValue ds * Nat.pow 10 (9 - ds.length))
  | _ => pure 0

/-- The second of the day and the nanoseconds. Second 60 is the second before it, drawn out. -/
def timeOfDay : TimeReader (Nat × Nat) := do
  let h ← field 0 23
  space
  expect (· == ':')
  let m ← field 0 59
  space
  expect (· == ':')
  let s ← field 0 60
  let nanos ← fraction
  space
  pure (if s = 60 then (h * 3600 + m * 60 + 59, nanos + 1000000000)
    else (h * 3600 + m * 60 + s, nanos))

def twoDigits : TimeReader (Nat × Nat) := fun
  | a :: b :: r =>
    if a.isDigit && b.isDigit then .ok ((a.toNat - '0'.toNat, b.toNat - '0'.toNat), r)
    else .error .invalid
  | [a] => if a.toNat < 128 then .error .tooShort else .error .invalid
  | [] => .error .tooShort

/-- Hours and minutes after the sign of an offset, in seconds. -/
def offsetAmount : TimeReader Nat := do
  let (h1, h2) ← twoDigits
  modify (·.dropWhile fun c => c == ':' || Text.isWhitespace c)
  let (m1, m2) ← twoDigits
  if m1 ≤ 5 then pure ((h1 * 10 + h2) * 3600 + (m1 * 10 + m2) * 60) else throw .outOfRange

/-- The seconds that the time is ahead of Coordinated Universal Time. -/
def offset : TimeReader Int := do
  match ← get with
  | 'Z' :: r | 'z' :: r => do set r; pure 0
  | u :: t :: c :: r =>
    if u.toUpper == 'U' && t.toUpper == 'T' && c.toUpper == 'C' then do set r; pure 0
    else signed u (t :: c :: r)
  | s :: r => signed s r
  | [] => throw .tooShort
where
  /-- A sign may also be the minus of mathematics. -/
  signed (sign : Char) (r : List Char) : TimeReader Int := do
    if sign == '+' then do set r; pure ((← offsetAmount : Nat) : Int)
    else if sign == '-' || sign == '−' then do set r; pure (-((← offsetAmount : Nat) : Int))
    else throw .invalid

def instant : TimeReader Instant := do
  let d ← date
  expect fun c => c == 'T' || c == 't' || c == ' '
  let (second, nanos) ← timeOfDay
  let ahead ← offset
  space
  if !(← get).isEmpty then throw .trailing
  if ¬d.IsValid ∨ d.year < Date.minYear ∨ Date.maxYear < d.year ∨
      (Instant.secondsPerDay : Int) ≤ ahead.natAbs then throw .outOfRange
  let secs := d.dayNumber * Instant.secondsPerDay + second - ahead
  if secs < Instant.minSecs ∨ Instant.maxSecs < secs then throw .impossible
  pure ⟨secs, nanos⟩

end TimeReader

def Instant.ofText (s : List Char) : Except TimeError Instant :=
  (TimeReader.instant.run s).map Prod.fst

end FailureIntake
