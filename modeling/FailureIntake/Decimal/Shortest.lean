/-! The shortest decimal of a binary floating-point number: of all decimals that round back to it,
one on the coarsest grid of powers of ten, and there the nearest. -/
namespace FailureIntake.Decimal

/-- A positive number `mantissa · 2^exponent` among its neighbours. -/
structure Binary where
  mantissa : Nat
  exponent : Int
  /-- The neighbour below is only half as far away as the one above. -/
  narrowBelow : Bool

/-- The parts of the bits of a positive finite double. -/
def Binary.ofBits (bits : Nat) : Binary :=
  let fraction := bits % Nat.pow 2 52
  let exponent : Nat := bits / Nat.pow 2 52 % Nat.pow 2 11
  if exponent = 0 then ⟨fraction, -1074, false⟩
  else ⟨Nat.pow 2 52 + fraction, (exponent : Int) - 1075, fraction = 0 && 1 < exponent⟩

/-- `digits · 10^exponent`. -/
structure Scientific where
  digits : Nat
  exponent : Int
deriving DecidableEq, Repr

inductive Tie where
  | up
  | toEven
deriving DecidableEq, Repr

structure Ratio where
  num : Nat
  den : Nat

/-- `n · 2^p / 10^k`. -/
def Ratio.scaled (n : Nat) (p k : Int) : Ratio where
  num := n * Nat.pow 2 p.toNat * Nat.pow 10 (-k).toNat
  den := Nat.pow 2 (-p).toNat * Nat.pow 10 k.toNat

namespace Binary

/-- The points `c · 10^k` that round to the number, an end of the interval only if its own mantissa
is even. The numbers are counted in quarters of the last place. -/
def holds (b : Binary) (k : Int) (c : Nat) : Bool :=
  let low := Ratio.scaled (4 * b.mantissa - if b.narrowBelow then 1 else 2) (b.exponent - 2) k
  let high := Ratio.scaled (4 * b.mantissa + 2) (b.exponent - 2) k
  if b.mantissa % 2 = 0 then low.num ≤ c * low.den && c * high.den ≤ high.num
  else low.num < c * low.den && c * high.den < high.num

/-- The point of the grid of step `10^k` that rounds to the number and is nearest to it. -/
def onGrid? (b : Binary) (tie : Tie) (k : Int) : Option Nat :=
  let v := Ratio.scaled b.mantissa b.exponent k
  let below := v.num / v.den
  match b.holds k below, b.holds k (below + 1) with
  | false, false => none
  | true, false => some below
  | false, true => some (below + 1)
  | true, true =>
    let twice := 2 * (v.num % v.den)
    if twice < v.den then some below
    else if v.den < twice then some (below + 1)
    else match tie with
      | .up => some (below + 1)
      | .toEven => some (if below % 2 = 0 then below else below + 1)

/-- The shortest decimal. No double needs a finer grid than `10^-324`. -/
def shortest (b : Binary) (tie : Tie) : Scientific :=
  let hit := (List.range 634).findSome? fun (i : Nat) =>
    let k : Int := 309 - i
    (b.onGrid? tie k).map fun c => (⟨c, k⟩ : Scientific)
  hit.getD ⟨0, 0⟩

end Binary

end FailureIntake.Decimal
