import FailureIntake.Decimal.Notation
import FailureIntake.Json.Value
import FailureIntake.Text.Quoted

/-! Why a JSON text is refused: because it is not well written, or because a well-written value
does not fit. -/
namespace FailureIntake.Json

/-- What `ε` is for the type that is read. -/
inductive DecodeError (ε : Type) where
  | malformed
  /-- A value of another kind than the expected one. -/
  | wrongType (found expected : String)
  | unfit (reason : ε)
deriving DecidableEq, Repr

/-- The text of an error about a well-written value. -/
def DecodeError.message? {ε : Type} (reasonText : ε → String) : DecodeError ε → Option String
  | .malformed => none
  | .wrongType found expected => some ("invalid type: " ++ found ++ ", expected " ++ expected)
  | .unfit reason => some (reasonText reason)

/-- The words for a number of the wrong type. -/
def Number.describe : Number → String
  | .natural n => "integer `" ++ toString n ++ "`"
  | .negative n => "integer `-" ++ toString n ++ "`"
  | .double x => "floating point `" ++ Decimal.Notation.compact.text x ++ "`"

namespace Value

/-- The words for a value of the wrong type, if it can be read. A container is refused as soon as
it opens. -/
def describe? : Value → Option String
  | .null => some "null"
  | .bool b => some (if b then "boolean `true`" else "boolean `false`")
  | .number n => n.map Number.describe
  | .string s => s.map fun s => "string " ++ Text.quoted s
  | .array _ _ => some "sequence"
  | .object _ _ => some "map"
  | .broken => none

def refuse {ε : Type} (v : Value) (expected : String) : DecodeError ε :=
  match v.describe? with
  | some found => .wrongType found expected
  | none => .malformed

end Value

end FailureIntake.Json
