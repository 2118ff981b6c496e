import FailureIntake.Json.Value
import FailureIntake.Text.Digits

/-! Numbers in JSON texts. The significant digits are gathered in 64 bits; digits that no longer
fit are dropped and only move the decimal point. -/
namespace FailureIntake.Json

structure NumberText where
  negative : Bool
  whole : List Char
  fraction : List Char
  exponent : Option (Bool × List Char)
deriving DecidableEq, Repr

namespace NumberText

def digits? (s : List Char) : Option (List Char × List Char) :=
  match s.takeWhile Char.isDigit with
  | [] => none
  | ds => some (ds, s.dropWhile Char.isDigit)

/-- The digits before the point. A zero stands alone. -/
def whole? (s : List Char) : Option (List Char × List Char) := do
  let (ds, rest) ← digits? s
  if 1 < ds.length ∧ ds.head? = some '0' then none else some (ds, rest)

/-- The digits after a point, if there is a point. -/
def fraction? : List Char → Option (List Char × List Char)
  | '.' :: r => digits? r
  | r => some ([], r)

/-- The exponent after its letter. -/
def exponentDigits? : List Char → Option ((Bool × List Char) × List Char)
  | '+' :: r => (digits? r).map fun (ds, rest) => ((false, ds), rest)
  | '-' :: r => (digits? r).map fun (ds, rest) => ((true, ds), rest)
  | r => (digits? r).map fun (ds, rest) => ((false, ds), rest)

def exponent? : List Char → Option (Option (Bool × List Char) × List Char)
  | 'e' :: r | 'E' :: r => (exponentDigits? r).map fun (e, rest) => (some e, rest)
  | r => some (none, r)

/-- The number in front of a text, after its sign. -/
def read? (negative : Bool) (s : List Char) : Option (NumberText × List Char) := do
  let (whole, s) ← whole? s
  let (fraction, s) ← fraction? s
  let (exponent, s) ← exponent? s
  some (⟨negative, whole, fraction, exponent⟩, s)

/-- Adds digits to a number for as long as it fits into 64 bits, and counts them. -/
def gather (n : Nat) : List Char → Nat × Nat
  | [] => (n, 0)
  | d :: rest =>
    let next := n * 10 + (d.toNat - '0'.toNat)
    if next < Nat.pow 2 64 then
      let (total, count) := gather next rest
      (total, count + 1)
    else (n, 0)

def powerOfTen (k : Nat) : Float :=
  Float.ofScientific 1 false k

/-- Divides by a power of ten, in steps of at most the largest one. -/
def divide (x : Float) (k : Nat) : Float :=
  if k ≤ 308 then x / powerOfTen k
  else if x == 0 then x
  else divide (x / powerOfTen 308) (k - 308)
termination_by k

/-- `n · 10^k` by one rounded step after the other, if it is no more than the largest double. -/
def scale? (n : Nat) (k : Int) : Option Float :=
  let x := Float.ofNat n
  if k < 0 then some (divide x k.natAbs)
  else if k ≤ 308 then
    let y := x * powerOfTen k.toNat
    if y.isInf then none else some y
  else if n = 0 then some 0
  else none

def signed (negative : Bool) (x : Float) : Number :=
  .double (if negative then -x else x)

/-- A number without fraction and exponent stays whole if 64 bits hold it, with the sign if there
is one. There is no whole negative zero. -/
def ofWhole (negative : Bool) (n : Nat) : Number :=
  if !negative then .natural n
  else if 0 < n ∧ n ≤ Nat.pow 2 63 then .negative n
  else .double (-(Float.ofNat n))

/-- Exponents are held in 31 bits and a sign. -/
def maxExponent : Nat := Nat.pow 2 31 - 1

def value? (t : NumberText) : Option Number :=
  let (n, taken) := gather 0 t.whole
  let dropped := t.whole.length - taken
  if dropped = 0 ∧ t.fraction = [] ∧ t.exponent = none then some (ofWhole t.negative n)
  else
    let (n, taken) := gather n t.fraction
    let point : Int := dropped - taken
    match t.exponent with
    | none => (scale? n point).map (signed t.negative)
    | some (down, ds) =>
      let e := Text.digitsValue ds
      if maxExponent < e then
        if n ≠ 0 ∧ !down then none else some (signed t.negative 0)
      else (scale? n (if down then point - e else point + e)).map (signed t.negative)

/-- Every number takes at least one character. -/
theorem digits?_shorter {s ds rest : List Char} (h : digits? s = some (ds, rest)) :
    rest.length < s.length := by
  unfold digits? at h
  split at h
  · cases h
  · next hne =>
    cases h
    have := congrArg List.length (List.takeWhile_append_dropWhile (p := Char.isDigit) (l := s))
    simp only [List.length_append] at this
    have hpos : 0 < (s.takeWhile Char.isDigit).length :=
      List.length_pos_iff.2 (fun he => hne he)
    omega

theorem whole?_shorter {s ds rest : List Char} (h : whole? s = some (ds, rest)) :
    rest.length < s.length := by
  unfold whole? at h
  cases hd : digits? s with
  | none => simp [hd] at h
  | some v =>
    obtain ⟨ds', rest'⟩ := v
    simp only [hd, Option.bind_eq_bind, Option.bind_some] at h
    split at h
    · cases h
    · cases h; exact digits?_shorter hd

theorem fraction?_shorter {s ds rest : List Char} (h : fraction? s = some (ds, rest)) :
    rest.length ≤ s.length := by
  unfold fraction? at h
  split at h
  · have := digits?_shorter h; simp only [List.length_cons]; omega
  · cases h; exact Nat.le_refl _

theorem exponentDigits?_shorter {s rest : List Char} {e : Bool × List Char}
    (h : exponentDigits? s = some (e, rest)) : rest.length ≤ s.length := by
  unfold exponentDigits? at h
  split at h <;>
    · obtain ⟨⟨ds, q⟩, hd, he⟩ := Option.map_eq_some_iff.1 h
      cases he
      have := digits?_shorter hd
      grind

theorem exponent?_shorter {s rest : List Char} {e : Option (Bool × List Char)}
    (h : exponent? s = some (e, rest)) : rest.length ≤ s.length := by
  unfold exponent? at h
  split at h
  · obtain ⟨⟨d, q⟩, hd, he⟩ := Option.map_eq_some_iff.1 h
    cases he
    have := exponentDigits?_shorter hd
    simp only [List.length_cons]; omega
  · obtain ⟨⟨d, q⟩, hd, he⟩ := Option.map_eq_some_iff.1 h
    cases he
    have := exponentDigits?_shorter hd
    simp only [List.length_cons]; omega
  · cases h; exact Nat.le_refl _

theorem read?_shorter {negative : Bool} {s rest : List Char} {t : NumberText}
    (h : read? negative s = some (t, rest)) : rest.length < s.length := by
  unfold read? at h
  cases hw : whole? s with
  | none => simp [hw] at h
  | some v =>
    obtain ⟨w, s1⟩ := v
    simp only [hw, Option.bind_eq_bind, Option.bind_some] at h
    cases hf : fraction? s1 with
    | none => simp [hf] at h
    | some v =>
      obtain ⟨f, s2⟩ := v
      simp only [hf, Option.bind_some] at h
      cases he : exponent? s2 with
      | none => simp [he] at h
      | some v =>
        obtain ⟨e, s3⟩ := v
        simp only [he, Option.bind_some, Option.some.injEq, Prod.mk.injEq] at h
        obtain ⟨-, rfl⟩ := h
        have h1 := whole?_shorter hw
        have h2 := fraction?_shorter hf
        have h3 := exponent?_shorter he
        omega

end NumberText

end FailureIntake.Json
