import FailureIntake.Json.Token

/-! JSON values from tokens. The containers that are still open lie on a stack; each token moves
one step, and the first token out of place ends the reading. -/
namespace FailureIntake.Json

/-- A container that is still open, with its contents in reverse. -/
inductive Open where
  | array (items : List Value)
  | object (members : List (Option String × Value))
  /-- An object with a key that has no value yet. -/
  | member (members : List (Option String × Value)) (key : Option String)

inductive Expected where
  | value
  | firstItem
  | firstKey
  | key
  | colon
  | next
deriving DecidableEq

inductive Nesting where
  | reading (stack : List Open) (expected : Expected)
  /-- A value is complete and no token came after it. -/
  | complete (v : Value)
  /-- The first token out of place has come. -/
  | failed (v : Value)

namespace Nesting

/-- Puts a value into the innermost container. Without a key an object takes none. -/
def fill (v : Value) : Open → Open
  | .array items => .array (v :: items)
  | .object members => .object members
  | .member members key => .object ((key, v) :: members)

/-- The value of a container that ends or breaks off here. -/
def Open.value (closed : Bool) : Open → Value
  | .array items => .array items.reverse closed
  | .object members => .object members.reverse closed
  | .member members key => .object ((key, .broken) :: members).reverse false

/-- The value of all containers when the innermost thing breaks off. -/
def breakOff (v : Value) : List Open → Value
  | [] => v
  | o :: stack => breakOff (Open.value false (fill v o)) stack

/-- The value of what was read when nothing more of it can be read. -/
def abandon : List Open → Value
  | [] => .broken
  | o :: stack => breakOff (Open.value false o) stack

def accept (v : Value) : List Open → Nesting
  | [] => .complete v
  | o :: stack => .reading (fill v o :: stack) .next

def close : List Open → Nesting
  | [] => .failed .broken
  | o :: stack => accept (Open.value true o) stack

def begin (stack : List Open) : Token → Nesting
  | .openArray => .reading (.array [] :: stack) .firstItem
  | .openObject => .reading (.object [] :: stack) .firstKey
  | .scalar v => accept v stack
  | _ => .failed (abandon stack)

/-- The token is a key. One that is no string ends the reading. -/
def beginKey (stack : List Open) (token : Token) : Nesting :=
  match stack, token with
  | .object members :: outer, .scalar (.string s) => .reading (.member members s :: outer) .colon
  | stack, _ => .failed (abandon stack)

def step : Nesting → Token → Nesting
  | .failed v, _ => .failed v
  | .complete v, _ => .failed v
  | .reading stack expected, token =>
    match expected, token with
    | .value, token => begin stack token
    | .firstItem, .closeArray => close stack
    | .firstItem, token => begin stack token
    | .firstKey, .closeObject => close stack
    | .firstKey, token => beginKey stack token
    | .key, token => beginKey stack token
    | .colon, .colon => .reading stack .value
    | .next, .comma =>
      match stack with
      | .array _ :: _ => .reading stack .value
      | _ => .reading stack .key
    | .next, .closeArray =>
      match stack with
      | .array _ :: _ => close stack
      | _ => .failed (abandon stack)
    | .next, .closeObject =>
      match stack with
      | .object _ :: _ => close stack
      | _ => .failed (abandon stack)
    | _, _ => .failed (abandon stack)

/-- Nothing read yet. -/
def start : Nesting := .reading [] .value

/-- The value, and whether the text is that value and nothing else. -/
def result : Nesting → Value × Bool
  | .complete v => (v, true)
  | .failed v => (v, false)
  | .reading stack _ => (abandon stack, false)

end Nesting

/-- The value that a text begins with, and whether nothing else is in the text. -/
def Value.ofText (s : List Char) : Value × Bool :=
  ((Token.split s).foldl Nesting.step Nesting.start).result

end FailureIntake.Json
