import FailureIntake.Observability.Pattern.Bracket
import FailureIntake.Text.Alphabetic

/-! Patterns of texts, and which of them are well formed. A pattern is read from its front; what
counts is how its parts are nested, and not what they match. A closing brace ends the directive
around a pattern, so nothing in braces is ever complete. -/
namespace FailureIntake.Pattern

structure Branches where
  finished : Row := {}
  items : Row := {}
  /-- The depth of the last item, if it can be repeated. -/
  last : Option Nat := none
deriving DecidableEq, Repr

namespace Branches

def add (b : Branches) (depth : Nat) : Branches :=
  { b with items := b.items.add depth, last := some depth }

/-- Flags are an item that cannot be repeated. -/
def addFlags (b : Branches) : Branches :=
  { b with items := b.items.add 0, last := none }

/-- The last item is repeated. -/
def repeat? (b : Branches) : Option Branches :=
  b.last.map fun d =>
    { b with items := { b.items with deepest := max b.items.deepest (d + 1) }, last := some (d + 1) }

/-- The next alternative begins. -/
def fork (b : Branches) : Branches where
  finished := b.finished.add b.items.depth

def depth (b : Branches) : Nat :=
  (b.finished.add b.items.depth).depth

end Branches

structure Reading where
  mode : Mode := {}
  branches : Branches := {}
  /-- The groups around, innermost first, each with the mode that holds again after it. -/
  outer : List (Mode × Branches) := []
  names : List (List Char) := []
deriving DecidableEq, Repr

/-- A flag is switched on or off. Flags that bear on nothing but what matches leave the mode as it
is. -/
def Mode.switch (m : Mode) (flag : Char) (on : Bool) : Mode :=
  if flag = 'x' then { m with spaced := on }
  else if flag = 'u' then { m with unicode := on }
  else m

/-- The letters of flags, and the sign before those that are switched off. -/
def flagChars : List Char :=
  ['i', 'm', 's', 'U', 'u', 'R', 'x', '-']

/-- Flags up to the character that ends them: the mode after them, whether they stand alone, and
what follows. Each comes once, and a sign is not the last. -/
def flags? (seen : List Char) (m : Mode) : List Char → Option (Mode × Bool × List Char)
  | [] => none
  | c :: r =>
    if c = ':' then if seen.head? = some '-' then none else some (m, false, r)
    else if c = ')' then
      if seen.isEmpty ∨ seen.head? = some '-' then none else some (m, true, r)
    else if seen.contains c ∨ !flagChars.contains c then none
    else flags? (c :: seen) (m.switch c (!seen.contains '-')) r

/-- The characters of a group's name. Digits, dots and brackets do not begin it. -/
def isName : List Char → Bool
  | [] => false
  | c :: r =>
    (c = '_' || Text.isAlphabetic c) &&
      r.all fun d => Text.isAlphanumeric d || ['_', '.', '[', ']'].contains d

namespace Reading

def add (p : Reading) (depth : Nat) : Reading :=
  { p with branches := p.branches.add depth }

/-- A group begins, and is read in a mode. -/
def enter (p : Reading) (m : Mode) : Reading :=
  { p with mode := m, branches := {}, outer := (p.mode, p.branches) :: p.outer }

def leave? (p : Reading) : Option Reading :=
  match p.outer with
  | [] => none
  | (m, b) :: outer =>
    some { p with mode := m, branches := b.add (p.branches.depth + 1), outer := outer }

/-- A group with a name that no other group has. -/
def named? (p : Reading) (s : List Char) : Option (Reading × List Char) :=
  let name := s.takeWhile (· ≠ '>')
  match s.dropWhile (· ≠ '>') with
  | [] => none
  | _ :: r =>
    if isName name && !p.names.contains name then
      some ({ p.enter p.mode with names := name :: p.names }, r)
    else none

/-- What an opening parenthesis begins: a group with a name, one with flags, flags alone, or a
group of neither. -/
def open? (p : Reading) (s : List Char) : Option (Reading × List Char) :=
  match p.mode.next s with
  | '?' :: 'P' :: '<' :: r => p.named? r
  | '?' :: '<' :: r => p.named? r
  | '?' :: r => do
    let (m, alone, r) ← flags? [] p.mode r
    some (if alone then { p with mode := m, branches := p.branches.addFlags } else p.enter m, r)
  | r => some (p.enter p.mode, r)

def part? (p : Reading) (c : Char) (r : List Char) : Option (Reading × List Char) :=
  match c with
  | '(' => p.open? r
  | ')' => p.leave?.map fun p => (p, r)
  | '|' => some ({ p with branches := p.branches.fork }, r)
  | '[' => (Bracket.read? p.mode r).map fun (depth, r) => (p.add depth, r)
  | '*' | '+' | '?' =>
    p.branches.repeat?.map fun b =>
      ({ p with branches := b }, if r.head? = some '?' then r.tail else r)
  | '\x7b' => none
  | '\\' => (Primitive.escape? p.mode r).map fun (_, r) => (p.add 0, r)
  | '.' => if p.mode.unicode then some (p.add 0, r) else none
  | _ => some (p.add 0, r)

/-- Reads `n` parts at most, up to the end of the pattern. -/
def readOn : (n : Nat) → Reading → List Char → Option Reading
  | 0, _, _ => none
  | n + 1, p, s =>
    match p.mode.next s with
    | [] => some p
    | c :: r => do
      let (p, r) ← p.part? c r
      readOn n p r

end Reading

/-- The most levels that a pattern may have. -/
def maxDepth : Nat := 250

/-- A pattern is well formed if each of its parts is, every group ends, and it is not too deep. -/
def isWellFormed (s : List Char) : Bool :=
  (Reading.readOn (s.length + 1) {} s).any fun p =>
    p.outer.isEmpty && decide (p.branches.depth ≤ maxDepth)

end FailureIntake.Pattern
