import FailureIntake.Json.Text
import FailureIntake.Text.Whitespace

/-! The smallest parts of a pattern: characters, classes of characters, and places between
characters. -/
namespace FailureIntake.Pattern

structure Mode where
  /-- Blanks and comments do not count. -/
  spaced : Bool := false
  /-- The pattern matches characters and not octets. -/
  unicode : Bool := true
deriving DecidableEq, Repr

/-- What follows blanks and comments. A comment goes on to the end of its line. -/
def afterGaps : (inComment : Bool) → List Char → List Char
  | _, [] => []
  | true, c :: r => afterGaps (c ≠ '\n') r
  | false, c :: r =>
    if Text.isWhitespace c then afterGaps false r
    else if c = '#' then afterGaps true r
    else c :: r

namespace Mode

def next (m : Mode) (s : List Char) : List Char :=
  if m.spaced then afterGaps false s else s

/-- The character ahead. Of a comment it is the first that is no blank. -/
def peek (m : Mode) (s : List Char) : Option Char :=
  if m.spaced then
    match Text.trimStart s with
    | '#' :: r => (Text.trimStart r).head?
    | r => r.head?
  else s.head?

end Mode

/-- A part of a pattern that has no parts. -/
inductive Primitive where
  | character (c : Char)
  | characters
  | place
deriving DecidableEq, Repr

namespace Primitive

/-- Hexadecimal digits, and the number that they go on with. -/
def hexDigits? (m : Mode) : (left value : Nat) → List Char → Option (Nat × List Char)
  | 0, value, s => some (value, s)
  | n + 1, value, s =>
    match m.next s with
    | c :: r => do hexDigits? m n (value * 16 + (← Json.hexValue? c)) r
    | [] => none

/-- How many digits follow the letter of a numeric escape. -/
def hexLength? (c : Char) : Option Nat :=
  match c with
  | 'x' => some 2
  | 'u' => some 4
  | 'U' => some 8
  | _ => none

/-- The character of a number. A number of two digits may also stand for an octet, and one beyond
ASCII then matches no text. -/
def numeric? (m : Mode) (length : Nat) (s : List Char) : Option (Primitive × List Char) := do
  let (value, r) ← hexDigits? m length 0 s
  if value.isValidChar && (m.unicode || length ≠ 2 || value < 0x80) then
    some (.character (Char.ofNat value), r)
  else none

def category? (m : Mode) (s : List Char) : Option (Primitive × List Char) :=
  match m.next s with
  | c :: r =>
    if m.unicode && "CLMNPSZ".toList.contains c.toUpper then some (.characters, r) else none
  | [] => none

def control? (c : Char) : Option Char :=
  match c with
  | 'a' => some '\x07'
  | 'f' => some '\x0c'
  | 't' => some '\t'
  | 'n' => some '\n'
  | 'r' => some '\r'
  | 'v' => some '\x0b'
  | _ => none

/-- What a backslash and a character stand for. A class of octets has no complement, since that
would match what is no text, and word boundaries are told between octets only. All ASCII characters
but letters, digits and angle brackets stand for themselves. -/
def escaped? (m : Mode) (c : Char) : Option Primitive :=
  if c = 'd' ∨ c = 's' ∨ c = 'w' then some .characters
  else if c = 'D' ∨ c = 'S' ∨ c = 'W' then if m.unicode then some .characters else none
  else if c = 'b' ∨ c = 'B' ∨ c = '<' ∨ c = '>' then if m.unicode then none else some .place
  else if c = 'A' ∨ c = 'z' then some .place
  else match control? c with
    | some d => some (.character d)
    | none => if c.toNat < 0x80 && !c.isAlphanum then some (.character c) else none

def escape? (m : Mode) : List Char → Option (Primitive × List Char)
  | [] => none
  | c :: r =>
    match hexLength? c with
    | some n => numeric? m n r
    | none =>
      if c = 'p' ∨ c = 'P' then category? m r else (escaped? m c).map fun p => (p, r)

/-- A part within brackets. One that matches octets has no character beyond ASCII. -/
def bracketed? (m : Mode) (s : List Char) : Option (Primitive × List Char) := do
  let (p, r) ←
    match s with
    | '\\' :: r => escape? m r
    | c :: r => some (.character c, r)
    | [] => none
  match p with
  | .character c => if m.unicode || c.toNat < 0x80 then some (p, r) else none
  | .characters => some (p, r)
  | .place => none

end Primitive

end FailureIntake.Pattern
