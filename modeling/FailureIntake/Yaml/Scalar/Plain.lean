import FailureIntake.Yaml.Scalar.Gap

/-! Plain scalars: words without quotes, over one or more lines. -/
namespace FailureIntake.Yaml.Plain

structure Progress where
  /-- The characters up to the last word, in reverse. -/
  text : List Char := []
  gap : Gap := .none
  /-- The character before is part of a word. -/
  inWord : Bool := true

/-- A plain scalar: its text, whether line breaks follow it, where the reading stopped, and how
many characters from there on it took to know this. -/
structure Result where
  text : List Char
  endsLine : Bool
  stop : Cursor
  ahead : Nat
deriving DecidableEq, Repr

namespace Progress

def finish (p : Progress) (rest : List Char) (m : Mark) (ahead : Nat) : Option Result :=
  some ⟨p.text.reverse, p.gap.hasBreak, ⟨rest, m⟩, ahead⟩

/-- A character of a word. -/
def push (p : Progress) (c : Char) : Progress where
  text := c :: (p.gap.text.reverse ++ p.text)
  gap := .none
  inWord := true

def blank (p : Progress) (c : Char) : Progress :=
  { p with gap := p.gap.addBlank c, inWord := false }

def lineBreak (p : Progress) (c : Char) : Progress :=
  { p with gap := p.gap.addBreak c, inWord := false }

end Progress

/-- A line that is not indented does not belong to the scalar. -/
def isOutdented (inFlow : Bool) (indent : Int) (m : Mark) : Bool :=
  !inFlow && (m.column : Int) < indent

/-- After a gap, the next word belongs to the scalar only if it begins no comment and is no
document indicator. -/
def wordEnds (s : List Char) (m : Mark) : Bool :=
  (m.column = 0 && atDocumentIndicator s) || s.head? = some '#'

def isFlowEnd (c : Char) : Bool :=
  c == ',' || c == '[' || c == ']' || c == '\x7b' || c == '\x7d'

/-- A colon before a gap ends a scalar anywhere. -/
def isEnd (inFlow : Bool) (c : Char) (r : List Char) : Bool :=
  (c == ':' && atGap r) || (inFlow && isFlowEnd c)

/-- Within brackets a colon must not stand before an indicator. -/
def isBadColon (inFlow : Bool) (c : Char) (r : List Char) : Bool :=
  inFlow && c == ':' && (r.head?.any fun d => isFlowEnd d || d == '?')

/-- Reads on. Lines have to be indented by `indent`, and no tab may stand within the indentation. -/
def read (inFlow : Bool) (indent : Int) : List Char → Mark → Progress → Option Result
  | [], m, p => p.finish [] m 1
  | '\r' :: '\n' :: r, m, p => read inFlow indent r (m.nextLine 2) (p.lineBreak '\n')
  | c :: r, m, p =>
    if isBreak c then read inFlow indent r (m.nextLine c.utf8Size) (p.lineBreak c)
    else if isBlank c then
      if p.gap.hasBreak && (m.column : Int) < indent && c == '\t' then none
      else read inFlow indent r (m.after c) (p.blank c)
    else if !p.inWord && isOutdented inFlow indent m then p.finish (c :: r) m 1
    else if !p.inWord && wordEnds (c :: r) m then p.finish (c :: r) m 4
    else if isBadColon inFlow c r then none
    else if isEnd inFlow c r then p.finish (c :: r) m (if p.inWord then 2 else 4)
    else read inFlow indent r (m.after c) (p.push c)

end FailureIntake.Yaml.Plain
