import FailureIntake.Observability.Pattern.Primitive

/-! Bracketed classes of characters. They may contain others, and the set operators `&&`, `--` and
`~~`. -/
namespace FailureIntake.Pattern

/-- Parts beside each other: how many there are, and how deep the deepest is nested. -/
structure Row where
  count : Nat := 0
  deepest : Nat := 0
deriving DecidableEq, Repr

namespace Row

def add (r : Row) (depth : Nat) : Row :=
  ⟨r.count + 1, max r.deepest depth⟩

/-- Several parts are one level deeper than the deepest of them. -/
def depth (r : Row) : Nat :=
  if r.count ≤ 1 then r.deepest else r.deepest + 1

end Row

structure Bracket where
  /-- The depth of all before the last set operator. -/
  before : Option Nat := none
  items : Row := {}
  /-- Nothing but hyphens has come. -/
  atStart : Bool := true
deriving DecidableEq, Repr

namespace Bracket

def add (b : Bracket) (depth : Nat) : Bracket :=
  { b with items := b.items.add depth, atStart := false }

def contentDepth (b : Bracket) : Nat :=
  match b.before with
  | none => b.items.depth
  | some d => max d b.items.depth + 1

/-- A set operator takes all before it as its left side. -/
def operator (b : Bracket) : Bracket where
  before := some b.contentDepth
  atStart := false

/-- What follows an opening bracket and its complement mark, which no class of octets may have. -/
def begin? (m : Mode) (s : List Char) : Option (List Char) :=
  match m.next s with
  | '^' :: r => if m.unicode then some r else none
  | r => some r

/-- The names of classes that are written between colons. -/
def classNames : List String :=
  ["alnum", "alpha", "ascii", "blank", "cntrl", "digit", "graph", "lower", "print", "punct",
   "space", "upper", "word", "xdigit"]

/-- A named class after its bracket: whether it is a complement, and what follows it. -/
def named? : List Char → Option (Bool × List Char)
  | ':' :: r =>
    let (complement, r) :=
      match r with
      | '^' :: r => (true, r)
      | r => (false, r)
    match r.dropWhile (· ≠ ':') with
    | ':' :: ']' :: rest =>
      if classNames.contains (String.ofList (r.takeWhile (· ≠ ':'))) then some (complement, rest)
      else none
    | _ => none
  | _ => none

/-- A single part, or a range of characters in their order. A hyphen before the closing bracket or
before another hyphen makes no range. -/
def item? (m : Mode) (s : List Char) : Option (List Char) := do
  let (first, r) ← Primitive.bracketed? m s
  match m.next r with
  | '-' :: after =>
    if m.peek after = some ']' ∨ m.peek after = some '-' then some r
    else
      let (last, r) ← Primitive.bracketed? m (m.next after)
      match first, last with
      | .character a, .character b => if a ≤ b then some r else none
      | _, _ => none
  | _ => some r

/-- Reads `n` parts at most, and gives the depth of the outermost brackets. -/
def readOn (m : Mode) : (n : Nat) → (innermost : Bracket) → (outer : List Bracket) → List Char →
    Option (Nat × List Char)
  | 0, _, _, _ => none
  | n + 1, b, outer, s =>
    match m.next s with
    | [] => none
    | '-' :: r =>
      if b.atStart then readOn m n { b with items := b.items.add 0 } outer r
      else if r.head? = some '-' then readOn m n b.operator outer r.tail
      else do readOn m n (b.add 0) outer (← item? m ('-' :: r))
    | ']' :: r =>
      if b.atStart ∧ b.items.count = 0 then readOn m n (b.add 0) outer r
      else match outer with
        | [] => some (b.contentDepth + 1, r)
        | o :: outer => readOn m n (o.add (b.contentDepth + 1)) outer r
    | '[' :: r =>
      match named? r with
      | some (complement, r) =>
        if complement && !m.unicode then none else readOn m n (b.add 0) outer r
      | none => do readOn m n {} (b :: outer) (← begin? m r)
    | c :: r =>
      if (c = '&' ∨ c = '~') ∧ r.head? = some c then readOn m n b.operator outer r.tail
      else do readOn m n (b.add 0) outer (← item? m (c :: r))

/-- A bracketed class after its first bracket: its depth, and what follows it. -/
def read? (m : Mode) (s : List Char) : Option (Nat × List Char) := do
  readOn m (s.length + 1) {} [] (← begin? m s)

end Bracket

end FailureIntake.Pattern
