import FailureIntake.Yaml.Mark

/-! Gaps: the blanks and line breaks between two words of a scalar. -/
namespace FailureIntake.Yaml

inductive Gap where
  | none
  | blanks (reversed : List Char)
  /-- Some line breaks. The blanks around them do not count, and an escaped first line break has
  no character. -/
  | lines (first : Option Char) (laterReversed : List Char)
deriving DecidableEq, Repr

namespace Gap

/-- A blank counts only while there is no line break. -/
def addBlank (g : Gap) (c : Char) : Gap :=
  match g with
  | none => blanks [c]
  | blanks cs => blanks (c :: cs)
  | lines first later => lines first later

/-- A line break makes the blanks before it void. -/
def addBreak (g : Gap) (c : Char) : Gap :=
  match g with
  | lines first later => lines first (breakText c :: later)
  | _ => lines (some (breakText c)) []

def hasBreak : Gap → Bool
  | lines _ _ => true
  | _ => false

/-- What a gap contributes to the scalar: one line feed becomes a space, and of several line
breaks a line feed at the front is dropped. -/
def text : Gap → List Char
  | none => []
  | blanks cs => cs.reverse
  | lines Option.none later => later.reverse
  | lines (some first) later =>
    if first = '\n' then if later.isEmpty then [' '] else later.reverse
    else first :: later.reverse

end Gap

end FailureIntake.Yaml
