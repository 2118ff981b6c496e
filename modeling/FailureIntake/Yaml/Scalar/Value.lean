import FailureIntake.Decimal.Notation
import FailureIntake.Decimal.Reading
import FailureIntake.Json.Text
import FailureIntake.Text.Quoted

/-! What plain scalars stand for. -/
namespace FailureIntake.Yaml

inductive ScalarValue where
  | null
  | bool (b : Bool)
  /-- Between -2^127 and 2^128. -/
  | integer (n : Int)
  | float (x : Float)
  | string (s : List Char)

namespace ScalarValue

/-- The words for null; an empty scalar is null, too. -/
def isNullWord (s : List Char) : Bool :=
  ["null", "Null", "NULL", "~"].contains (String.ofList s)

def bool? (s : List Char) : Option Bool :=
  if ["true", "True", "TRUE"].contains (String.ofList s) then some true
  else if ["false", "False", "FALSE"].contains (String.ofList s) then some false
  else none

/-- The digits of a number to a base up to sixteen. -/
def natural? (base : Nat) (s : List Char) : Option Nat :=
  if s.isEmpty then none
  else s.foldlM (fun n c => do
    let d ← Json.hexValue? c
    if d < base then some (n * base + d) else none) 0

/-- More than one digit with a zero in front is a text and no number. -/
def isZeroPadded (s : List Char) : Bool :=
  1 < s.length && s.head? == some '0' && s.all Char.isDigit

/-- A number without a sign, decimal or with the mark of another base. -/
def magnitude? (s : List Char) : Option Nat :=
  match s with
  | '0' :: 'x' :: r => natural? 16 r
  | '0' :: 'o' :: r => natural? 8 r
  | '0' :: 'b' :: r => natural? 2 r
  | s => if isZeroPadded s then none else natural? 10 s

/-- A number that is not negative. -/
def unsigned? : List Char → Option Nat
  | '+' :: r => magnitude? r
  | r => magnitude? r

/-- A number of at most 64 bits that is not negative. -/
def word? (s : List Char) : Option UInt64 :=
  (unsigned? s).bind fun n => if n < Nat.pow 2 64 then some (UInt64.ofNat n) else none

/-- A whole number of at most 128 bits. -/
def integer? : List Char → Option Int
  | '-' :: r => (magnitude? r).bind fun n => if n ≤ Nat.pow 2 127 then some (-(n : Int)) else none
  | r => (unsigned? r).bind fun n => if n < Nat.pow 2 128 then some (n : Int) else none

/-- A finite decimal, or one of the words for what is no number. -/
def float? (s : List Char) : Option Float :=
  let unsigned :=
    match s with
    | '+' :: r => r
    | r => r
  if [".inf", ".Inf", ".INF"].contains (String.ofList unsigned) then some (1 / 0)
  else if ["-.inf", "-.Inf", "-.INF"].contains (String.ofList s) then some (-1 / 0)
  else if [".nan", ".NaN", ".NAN"].contains (String.ofList s) then some (0 / 0)
  else if unsigned.length < s.length ∧ unsigned.head? = some '-' then none
  else (Decimal.signed? unsigned).filter Float.isFinite

def dropSign : List Char → List Char
  | '-' :: r => r
  | '+' :: r => r
  | r => r

/-- What a plain scalar without a tag stands for. -/
def ofPlain (s : List Char) : ScalarValue :=
  if s.isEmpty || isNullWord s then .null
  else match bool? s with
    | some b => .bool b
    | none =>
      match integer? s with
      | some n => .integer n
      | none =>
        match if isZeroPadded (dropSign s) then none else float? s with
        | some x => .float x
        | none => .string s

/-- The words for a value of the wrong type. -/
def describe : ScalarValue → String
  | .null => "unit value"
  | .bool b => if b then "boolean `true`" else "boolean `false`"
  | .integer n =>
    "integer `" ++ toString n ++ "`" ++
      if (Nat.pow 2 64 : Int) ≤ n then " as u128"
      else if n < -(Nat.pow 2 63 : Int) then " as i128" else ""
  | .float x => "floating point `" ++ Decimal.Notation.pointed.text x ++ "`"
  | .string s => "string " ++ Text.quoted (String.ofList s)

end ScalarValue

end FailureIntake.Yaml
