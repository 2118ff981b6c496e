import FailureIntake.Text.Digits

/-! Reading decimals as doubles. -/
namespace FailureIntake.Decimal

def spanDigits (s : List Char) : List Char × List Char :=
  (s.takeWhile Char.isDigit, s.dropWhile Char.isDigit)

/-- The value of an exponent with or without its sign. -/
def exponent? : List Char → Option Int
  | '+' :: r => digits r
  | '-' :: r => (digits r).map (-·)
  | r => digits r
where
  digits (r : List Char) : Option Int :=
    if r.isEmpty || !r.all Char.isDigit then none else some (Text.digitsValue r)

/-- The double nearest to `n · 10^k`, infinite if there is none. Far from the doubles on either
side nothing has to be computed. -/
def nearest (n : Nat) (k : Int) : Float :=
  let point : Int := (Nat.toDigits 10 n).length + k
  if n = 0 ∨ point < -400 then 0
  else if 400 < point then 1 / 0
  else Float.ofScientific n (decide (k < 0)) k.natAbs

/-- A number without a sign: digits with or without a point, at least one of them, and perhaps an
exponent. -/
def unsigned? (s : List Char) : Option Float :=
  let (whole, s) := spanDigits s
  let (fraction, s) :=
    match s with
    | '.' :: r => spanDigits r
    | s => ([], s)
  if whole.isEmpty && fraction.isEmpty then none
  else
    let value (e : Int) := nearest (Text.digitsValue (whole ++ fraction)) (e - fraction.length)
    match s with
    | [] => some (value 0)
    | c :: r => if c = 'e' ∨ c = 'E' then (exponent? r).map value else none

/-- A number with or without a minus sign. -/
def signed? : List Char → Option Float
  | '-' :: r => (unsigned? r).map (-·)
  | r => unsigned? r

end FailureIntake.Decimal
