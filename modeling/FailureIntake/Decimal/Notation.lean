import FailureIntake.Decimal.Shortest

/-! Texts of floating-point numbers: where the point or the exponent of a decimal is written. -/
namespace FailureIntake.Decimal

structure Notation where
  tie : Tie
  /-- Whether a number whose point stands after this many of its digits has no exponent. -/
  positional : Int → Bool
  /-- A number without a fraction ends in `.0`. -/
  keepsPoint : Bool

/-- Never an exponent, and a point only before a fraction. -/
def Notation.plain : Notation := ⟨.up, fun _ => true, false⟩

/-- Never an exponent, and always a point. -/
def Notation.pointed : Notation := ⟨.up, fun _ => true, true⟩

/-- Exponents from 10^16 on and below 10^-5; a number without one always has a point. -/
def Notation.compact : Notation := ⟨.toEven, fun point => -5 < point && point ≤ 16, true⟩

/-- Significant digits without trailing zeros, and the place of the point from their front. -/
def Scientific.significant (d : Scientific) : List Char × Int :=
  let all := Nat.toDigits 10 d.digits
  ((all.reverse.dropWhile (· == '0')).reverse, all.length + d.exponent)

/-- Digits with the point after `point` of them. -/
def positionalText (keepsPoint : Bool) (digits : List Char) (point : Int) : List Char :=
  if point ≤ 0 then '0' :: '.' :: List.replicate (-point).toNat '0' ++ digits
  else
    let n := point.toNat
    if digits.length ≤ n then
      digits ++ List.replicate (n - digits.length) '0' ++ if keepsPoint then ['.', '0'] else []
    else digits.take n ++ '.' :: digits.drop n

/-- One digit, the others after a point, and the power of ten with its sign. -/
def exponentText (digits : List Char) (point : Int) : List Char :=
  digits.take 1 ++ (if digits.length ≤ 1 then [] else '.' :: digits.drop 1) ++
    'e' :: (if 1 ≤ point then '+' else '-') :: Nat.toDigits 10 (point - 1).natAbs

/-- The text of a number with at least one significant digit. -/
def Notation.write (n : Notation) (d : Scientific) : List Char :=
  let (digits, point) := d.significant
  if n.positional point then positionalText n.keepsPoint digits point
  else exponentText digits point

def Notation.text (n : Notation) (x : Float) : String :=
  if x.isNaN then "NaN"
  else
    let bits := x.toBits.toNat
    let sign := if bits < Nat.pow 2 63 then "" else "-"
    let size := bits % Nat.pow 2 63
    if x.isInf then sign ++ "inf"
    else if size = 0 then sign ++ if n.keepsPoint then "0.0" else "0"
    else sign ++ String.ofList (n.write ((Binary.ofBits size).shortest n.tie))

end FailureIntake.Decimal
