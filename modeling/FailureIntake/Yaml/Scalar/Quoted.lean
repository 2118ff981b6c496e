import FailureIntake.Yaml.Scalar.Gap
import FailureIntake.Json.Text

/-! Quoted scalars. Between single quotes only the quote itself is written twice; between double
quotes a backslash begins an escape. -/
namespace FailureIntake.Yaml.Quoted

/-- What the next character continues. -/
inductive Mode where
  | text
  /-- A single quote has come, which may be the first of two. -/
  | quote
  | escape
  /-- This many hexadecimal digits are still to come. -/
  | hex (left value : Nat)

structure Progress where
  /-- The characters up to the last word, in reverse. -/
  text : List Char := []
  gap : Gap := .none
  mode : Mode := .text

namespace Progress

def push (p : Progress) (c : Char) : Progress where
  text := c :: (p.gap.text.reverse ++ p.text)

/-- A gap counts as soon as something other than a gap follows it. -/
def settle (p : Progress) (mode : Mode) : Progress where
  text := p.gap.text.reverse ++ p.text
  mode := mode

end Progress

/-- The text of a scalar and where it stopped. -/
abbrev Result := List Char × Cursor

def letter? (c : Char) : Option Char :=
  match c with
  | '0' => some '\x00'
  | 'a' => some '\x07'
  | 'b' => some '\x08'
  | 't' | '\t' => some '\t'
  | 'n' => some '\n'
  | 'v' => some '\x0b'
  | 'f' => some '\x0c'
  | 'r' => some '\r'
  | 'e' => some '\x1b'
  | ' ' | '"' | '/' | '\\' => some c
  | 'N' => some '\u0085'
  | '_' => some '\u00a0'
  | 'L' => some '\u2028'
  | 'P' => some '\u2029'
  | _ => none

/-- The number of digits after the letter of a numeric escape. -/
def hexLength? (c : Char) : Option Nat :=
  match c with
  | 'x' => some 2
  | 'u' => some 4
  | 'U' => some 8
  | _ => none

def character? (n : Nat) : Option Char :=
  if n.isValidChar then some (Char.ofNat n) else none

/-- The character after a backslash. -/
def afterBackslash? (p : Progress) (c : Char) : Option Progress :=
  match hexLength? c with
  | some n => some { p with mode := .hex n 0 }
  | none => (letter? c).map p.push

def hexDigit? (p : Progress) (left value : Nat) (c : Char) : Option Progress := do
  let value := value * 16 + (← Json.hexValue? c)
  if left ≤ 1 then (character? value).map p.push
  else some { p with mode := .hex (left - 1) value }

/-- Reads on, after the opening quote. -/
def read (single : Bool) : List Char → Mark → Progress → Option Result
  | [], m, p =>
    match p.mode with
    | .quote => some (p.text.reverse, ⟨[], m⟩)
    | _ => none
  | '\r' :: '\n' :: r, m, p =>
    match p.mode with
    | .quote => some (p.text.reverse, ⟨'\r' :: '\n' :: r, m⟩)
    | .text => read single r (m.nextLine 2) { p with gap := p.gap.addBreak '\n' }
    | .escape => read single r (m.nextLine 2) { text := p.text, gap := .lines none [] }
    | .hex _ _ => none
  | c :: r, m, p =>
    match p.mode with
    | .quote =>
      if c = '\'' then read single r (m.after c) (p.push c)
      else some (p.text.reverse, ⟨c :: r, m⟩)
    | .escape =>
      if isBreak c then read single r (m.nextLine c.utf8Size) { text := p.text, gap := .lines none [] }
      else match afterBackslash? p c with
        | some p => read single r (m.after c) p
        | none => none
    | .hex left value =>
      match hexDigit? p left value c with
      | some p => read single r (m.after c) p
      | none => none
    | .text =>
      if isBreak c then read single r (m.nextLine c.utf8Size) { p with gap := p.gap.addBreak c }
      else if isBlank c then read single r (m.after c) { p with gap := p.gap.addBlank c }
      else if m.column = 0 && atDocumentIndicator (c :: r) then none
      else if single then
        read single r (m.after c) (if c = '\'' then p.settle .quote else p.push c)
      else if c = '"' then some ((p.settle .text).text.reverse, ⟨r, m.after c⟩)
      else read single r (m.after c) (if c = '\\' then p.settle .escape else p.push c)

end FailureIntake.Yaml.Quoted
