import FailureIntake.Yaml.Mark

/-! Block scalars: the indented lines after a header. -/
namespace FailureIntake.Yaml.Block

/-- What becomes of the line breaks at the end. -/
inductive Chomping where
  | strip
  | clip
  | keep
deriving DecidableEq, Repr

/-- The header after its first character: chomping, and the further indentation if it is given. -/
structure Header where
  chomping : Chomping := .clip
  increment : Option Nat := none
deriving DecidableEq, Repr

namespace Header

def chomping? : List Char → Option Chomping
  | '+' :: _ => some .keep
  | '-' :: _ => some .strip
  | _ => none

def digit? : List Char → Option Nat
  | c :: _ => if c.isDigit then some (c.toNat - '0'.toNat) else none
  | [] => none

/-- Reads a header up to the end of its line. A given indentation is not zero. -/
def read? (c : Cursor) : Option (Header × Cursor) := do
  let (header, c) : Header × Cursor :=
    match chomping? c.rest, digit? c.rest with
    | some k, _ =>
      match digit? (c.skip 1).rest with
      | some d => (⟨k, some d⟩, c.skip 2)
      | none => (⟨k, none⟩, c.skip 1)
    | none, some d =>
      match chomping? (c.skip 1).rest with
      | some k => (⟨k, some d⟩, c.skip 2)
      | none => (⟨.clip, some d⟩, c.skip 1)
    | none, none => ({}, c)
  if header.increment = some 0 then none
  some (header, ← c.endLine?)

end Header

structure Progress where
  /-- The characters up to the last line, in reverse. -/
  text : List Char := []
  lineBreak : Option Char := none
  /-- The breaks of empty lines after it, in reverse. -/
  emptyLines : List Char := []
  afterBlank : Bool := false
  indent : Option Nat
  /-- The deepest indentation of a line while it is not known. -/
  deepest : Nat := 0
  inLine : Bool := false

namespace Progress

/-- Whether a blank at this column belongs to the indentation. -/
def indents (p : Progress) (column : Nat) : Bool :=
  match p.indent with
  | none => true
  | some n => column < n

/-- The indentation, which the first line that is not empty settles. -/
def settled (p : Progress) (least column : Nat) : Nat :=
  p.indent.getD (max (max p.deepest column) (max least 1))

/-- A line that is not empty begins. A line feed between two lines that begin with no blank is
folded: it becomes a space, or vanishes if empty lines follow it. -/
def beginLine (p : Progress) (literal : Bool) (indent : Nat) (c : Char) : Progress :=
  let folded := !literal && p.lineBreak == some '\n' && !p.afterBlank && !isBlank c
  let joint :=
    if folded then if p.emptyLines.isEmpty then [' '] else p.emptyLines.reverse
    else p.lineBreak.toList ++ p.emptyLines.reverse
  { text := c :: (joint.reverse ++ p.text), afterBlank := isBlank c, indent := some indent
    inLine := true }

/-- A line break, after a line or after an empty one. -/
def endLine (p : Progress) (column : Nat) (c : Char) : Progress :=
  if p.inLine then { p with lineBreak := some (breakText c), inLine := false }
  else { p with emptyLines := breakText c :: p.emptyLines, deepest := max p.deepest column }

def finish (p : Progress) (chomping : Chomping) : List Char :=
  p.text.reverse ++ match chomping with
    | .strip => []
    | .clip => p.lineBreak.toList
    | .keep => p.lineBreak.toList ++ p.emptyLines.reverse

end Progress

/-- Reads on. A scalar whose indentation is not given is indented by at least `least`. -/
def read (literal : Bool) (chomping : Chomping) (least : Nat) :
    List Char → Mark → Progress → Option (List Char × Cursor)
  | [], m, p => some (p.finish chomping, ⟨[], m⟩)
  | '\r' :: '\n' :: r, m, p =>
    read literal chomping least r (m.nextLine 2) (p.endLine m.column '\n')
  | c :: r, m, p =>
    if isBreak c then read literal chomping least r (m.nextLine c.utf8Size) (p.endLine m.column c)
    else if p.inLine then
      read literal chomping least r (m.after c) { p with text := c :: p.text }
    else if c == ' ' && p.indents m.column then
      read literal chomping least r (m.after c) p
    else if c == '\t' && p.indents m.column then none
    else
      let indent := p.settled least m.column
      if m.column = indent then
        read literal chomping least r (m.after c) (p.beginLine literal indent c)
      else some (p.finish chomping, ⟨c :: r, m⟩)

/-- Reads a scalar after its first character. `outer` is the indentation around it, if there is
one. -/
def read? (literal : Bool) (outer : Option Nat) (c : Cursor) : Option (List Char × Cursor) := do
  let (header, c) ← Header.read? c
  let indent := header.increment.map fun n => outer.getD 0 + n
  read literal header.chomping ((outer.map (· + 1)).getD 0) c.rest c.mark { indent := indent }

end FailureIntake.Yaml.Block
