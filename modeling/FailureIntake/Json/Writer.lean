import FailureIntake.Decimal.Notation
import FailureIntake.Json.Value
import FailureIntake.Json.Text
import FailureIntake.Text.Digits

/-! The text of a JSON value, without blanks. -/
namespace FailureIntake.Json

def Number.text : Number → List Char
  | .natural n => Text.decimal n
  | .negative n => '-' :: Text.decimal n
  | .double x => (Decimal.Notation.compact.text x).toList

namespace Value

def stringText (s : Option String) : List Char :=
  (s.map writeString).getD []

mutual

/-- The text of a whole value. What is broken off has none. -/
def text : Value → List Char
  | .null => ['n', 'u', 'l', 'l']
  | .bool true => ['t', 'r', 'u', 'e']
  | .bool false => ['f', 'a', 'l', 's', 'e']
  | .number n => (n.map Number.text).getD []
  | .string s => stringText s
  | .array items _ => '[' :: itemsText items ++ [']']
  | .object members _ => '\x7b' :: membersText members ++ ['\x7d']
  | .broken => []

def itemsText : List Value → List Char
  | [] => []
  | [v] => v.text
  | v :: rest => v.text ++ ',' :: itemsText rest

def membersText : List (Option String × Value) → List Char
  | [] => []
  | [(k, v)] => stringText k ++ ':' :: v.text
  | (k, v) :: rest => stringText k ++ ':' :: v.text ++ ',' :: membersText rest

end

end Value

end FailureIntake.Json
