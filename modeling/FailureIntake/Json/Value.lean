/-! JSON values as a reader meets them. A text that breaks off, or goes wrong, still has a value up
to that place, so that what stands before the place can be judged first. -/
namespace FailureIntake.Json

/-- A number as it is held: whole where it fits, and otherwise a double. -/
inductive Number where
  | natural (n : Nat)
  | negative (n : Nat)
  | double (x : Float)

inductive Value where
  | null
  | bool (b : Bool)
  /-- No number is in it if it is well written and beyond every double. -/
  | number (n : Option Number)
  /-- No text is in it if it is well written and has half of a surrogate pair. -/
  | string (s : Option String)
  | array (items : List Value) (closed : Bool)
  /-- Members in the order of the text. A key has no text as a string has none. -/
  | object (members : List (Option String × Value)) (closed : Bool)
  /-- What begins no value. -/
  | broken

namespace Value

def ofString (s : String) : Value :=
  .string (some s)

/-- An object with the members in this order. -/
def ofMembers (members : List (String × Value)) : Value :=
  .object (members.map fun m => (some m.1, m.2)) true

mutual

/-- Nothing in the value is broken off. -/
def isWhole : Value → Bool
  | .broken => false
  | .array items closed => closed && itemsWhole items
  | .object members closed => closed && membersWhole members
  | _ => true

def itemsWhole : List Value → Bool
  | [] => true
  | v :: rest => v.isWhole && itemsWhole rest

def membersWhole : List (Option String × Value) → Bool
  | [] => true
  | (_, v) :: rest => v.isWhole && membersWhole rest

end

end Value

end FailureIntake.Json
