/-! Places in a YAML text and the character classes that its layout depends on. -/
namespace FailureIntake.Yaml

/-- A place in a text: the octets before it in UTF-8, the lines before its line, and the characters
before it in its line. -/
structure Mark where
  offset : Nat
  line : Nat
  column : Nat
deriving DecidableEq, Repr, Inhabited

/-- The place after a character of the same line. -/
def Mark.after (m : Mark) (c : Char) : Mark :=
  ⟨m.offset + c.utf8Size, m.line, m.column + 1⟩

/-- The place after a line break of `n` octets. -/
def Mark.nextLine (m : Mark) (n : Nat) : Mark :=
  ⟨m.offset + n, m.line + 1, 0⟩

/-- What is left of a text, and where it begins. -/
structure Cursor where
  rest : List Char
  mark : Mark
deriving DecidableEq, Repr

/-- Five characters end a line. A carriage return and the line feed after it are one line break. -/
def isBreak (c : Char) : Bool :=
  c == '\n' || c == '\r' || c == '\u0085' || c == '\u2028' || c == '\u2029'

def isBlank (c : Char) : Bool :=
  c == ' ' || c == '\t'

/-- The line separators of Unicode stand for themselves in a scalar, all other line breaks are
read as a line feed. -/
def breakText (c : Char) : Char :=
  if c == '\u2028' || c == '\u2029' then c else '\n'

/-- A blank, a line break or the end of the text comes next. -/
def atGap : List Char → Bool
  | [] => true
  | c :: _ => isBlank c || isBreak c

/-- A line break or the end of the text comes next. -/
def atLineEnd : List Char → Bool
  | [] => true
  | c :: _ => isBreak c

/-- A line that begins so begins or ends a document. -/
def atDocumentIndicator : List Char → Bool
  | '-' :: '-' :: '-' :: r => atGap r
  | '.' :: '.' :: '.' :: r => atGap r
  | _ => false

/-- The characters of names: ASCII letters and digits, underscore and hyphen. -/
def isWordChar (c : Char) : Bool :=
  c.isAlphanum || c == '_' || c == '-'

/-- The characters that a text may hold: tabs, line breaks and what can be printed. -/
def isAllowed (c : Char) : Bool :=
  let n := c.toNat
  n == 0x9 || n == 0xA || n == 0xD || (0x20 ≤ n && n ≤ 0x7E) || n == 0x85 ||
    (0xA0 ≤ n && n ≤ 0xFFFD) || 0x10000 ≤ n

/-- The number of octets of a portion, in which a text is read. -/
def portionSize : Nat := 16384

/-- The front of a text that can be read, and whether a forbidden character ends it there. No part
of a portion with such a character can be read. A portion ends before a character that does not
fit into it. -/
def readable (text : List Char) : List Char × Bool :=
  go [] [] portionSize text
where
  /-- `left` octets are left in the portion of the `pending` characters, which like the `kept` ones
  before them are in reverse. -/
  go (kept pending : List Char) (left : Nat) : List Char → List Char × Bool
    | [] => ((pending ++ kept).reverse, false)
    | c :: r =>
      if left < c.utf8Size then
        if isAllowed c then go (pending ++ kept) [c] (portionSize - c.utf8Size) r
        else ((pending ++ kept).reverse, true)
      else if isAllowed c then go kept (c :: pending) (left - c.utf8Size) r
      else (kept.reverse, true)

namespace Cursor

def skip (c : Cursor) (n : Nat) : Cursor :=
  ⟨c.rest.drop n, (c.rest.take n).foldl Mark.after c.mark⟩

/-- Skips the characters of a class that has no line breaks. -/
def skipWhile (c : Cursor) (p : Char → Bool) : Cursor :=
  c.skip (c.rest.takeWhile p).length

def skipBreak (c : Cursor) : Cursor :=
  match c.rest with
  | '\r' :: '\n' :: r => ⟨r, c.mark.nextLine 2⟩
  | b :: r => if isBreak b then ⟨r, c.mark.nextLine b.utf8Size⟩ else c
  | [] => c

def skipLine (c : Cursor) : Cursor :=
  c.skipWhile fun d => !isBreak d

/-- Skips blanks and a comment, then a line break. Anything else in the line is refused. -/
def endLine? (c : Cursor) : Option Cursor :=
  let c := c.skipWhile isBlank
  let c := if c.rest.head? = some '#' then c.skipLine else c
  if atLineEnd c.rest then some c.skipBreak else none

end Cursor

end FailureIntake.Yaml
