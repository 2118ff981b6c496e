import FailureIntake.Text.Parts
import FailureIntake.Text.Utf8

/-! Paths: octets that are read as components. Two paths are the same if their components are. -/
namespace FailureIntake.Config

abbrev Path := Text.Utf8.Octets

namespace Path

def slash : UInt8 := 0x2F

/-- The octet before an extension. -/
def dot : UInt8 := 0x2E

inductive Component where
  | root
  | current
  | parent
  | name (octets : Text.Utf8.Octets)
deriving DecidableEq, Repr

def parts (p : Path) : List Text.Utf8.Octets :=
  Text.parts slash p

/-- The component of a part that is neither empty nor a single dot. -/
def componentOf (part : Text.Utf8.Octets) : Component :=
  if part = [dot, dot] then .parent else .name part

/-- The component that a path begins with, if it is one that only stands there. -/
def start : Path → List Component
  | [] => []
  | b :: r =>
    if b = slash then [.root]
    else if b = dot ∧ (r = [] ∨ r.head? = some slash) then [.current]
    else []

/-- The components of a path. Empty parts do not count, nor do single dots other than one at the
front. -/
def components (p : Path) : List Component :=
  start p ++ ((parts p).filter fun part => part ≠ [] && part ≠ [dot]).map componentOf

/-- The place of a component in the order: the root, then the current directory, the parent
directory, and names by their octets. -/
def Component.key : Component → List Nat
  | .root => [0]
  | .current => [1]
  | .parent => [2]
  | .name octets => 3 :: octets.map UInt8.toNat

/-- The place of a path in the order of its components. -/
def key (p : Path) : List (List Nat) :=
  p.components.map Component.key

def fileName? (p : Path) : Option Text.Utf8.Octets :=
  match p.components.getLast? with
  | some (.name n) => some n
  | _ => none

/-- What follows the last dot of a name, unless the name begins with that dot. -/
def extension? (name : Text.Utf8.Octets) : Option Text.Utf8.Octets :=
  let reversed := name.reverse
  match reversed.dropWhile (· ≠ dot) with
  | [] | [_] => none
  | _ => some (reversed.takeWhile (· ≠ dot)).reverse

def yamlExtensions : List Text.Utf8.Octets :=
  [Text.Utf8.encode "yaml", Text.Utf8.encode "yml"]

def isYaml (p : Path) : Bool :=
  (p.fileName?.bind extension?).any yamlExtensions.contains

def entry (dir : Path) (name : Text.Utf8.Octets) : Path :=
  if dir.getLast? = some slash then dir ++ name else dir ++ slash :: name

/-- The path as text, with U+FFFD for what is not UTF-8. -/
def text (p : Path) : String :=
  Text.Utf8.decodeLossy p

end Path

end FailureIntake.Config
