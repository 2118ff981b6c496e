import FailureIntake.Json.Number
import FailureIntake.Json.Text

/-! JSON texts as tokens. What begins no token is a token of its own, so that cutting a text never
fails. -/
namespace FailureIntake.Json

inductive Token where
  | openArray
  | closeArray
  | openObject
  | closeObject
  | colon
  | comma
  | scalar (v : Value)
  | unreadable

namespace Token

def isBlank (c : Char) : Bool :=
  c == ' ' || c == '\n' || c == '\t' || c == '\r'

/-- A number after its sign, or nothing readable. -/
def ofNumber (negative : Bool) (s : List Char) (rest : List Char) : Token × List Char :=
  match NumberText.read? negative s with
  | some (t, rest) => (.scalar (.number t.value?), rest)
  | none => (.unreadable, rest)

/-- The token that begins with the character, which is not blank. -/
def read (c : Char) (r : List Char) : Token × List Char :=
  match c with
  | '[' => (.openArray, r)
  | ']' => (.closeArray, r)
  | '\x7b' => (.openObject, r)
  | '\x7d' => (.closeObject, r)
  | ':' => (.colon, r)
  | ',' => (.comma, r)
  | '"' =>
    match readString? r with
    | some (ns, rest) => (.scalar (.string ((characters? ns).map String.ofList)), rest)
    | none => (.unreadable, r)
  | 'n' => literal ['u', 'l', 'l'] .null
  | 't' => literal ['r', 'u', 'e'] (.bool true)
  | 'f' => literal ['a', 'l', 's', 'e'] (.bool false)
  | '-' => ofNumber true r r
  | c => ofNumber false (c :: r) r
where
  literal (word : List Char) (v : Value) : Token × List Char :=
    if word.isPrefixOf r then (.scalar v, r.drop word.length) else (.unreadable, r)

theorem ofNumber_shorter {negative : Bool} {s r : List Char} (h : s.length ≤ r.length + 1) :
    (ofNumber negative s r).2.length ≤ r.length := by
  unfold ofNumber
  split
  · next hr => have := NumberText.read?_shorter hr; grind
  · exact Nat.le_refl _

/-- Every token takes at least one character. -/
theorem read_shorter (c : Char) (r : List Char) : (read c r).2.length ≤ r.length := by
  have hl : ∀ word v, (read.literal r word v).2.length ≤ r.length := by
    intro word v
    unfold read.literal
    split <;> simp
  unfold read
  split
  case h_7 =>
    split
    · next h => exact Nat.le_of_lt (readString?_shorter h)
    · exact Nat.le_refl _
  case h_8 | h_9 | h_10 => exact hl _ _
  case h_11 | h_12 => exact ofNumber_shorter (by simp)
  all_goals exact Nat.le_refl _

def split : List Char → List Token
  | [] => []
  | c :: r => if isBlank c then split r else (read c r).1 :: split (read c r).2
termination_by s => s.length
decreasing_by
  · simp
  · have := read_shorter c r
    simp only [List.length_cons]; omega

end Token

end FailureIntake.Json
