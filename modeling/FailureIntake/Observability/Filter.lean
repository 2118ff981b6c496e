import FailureIntake.Observability.Directive
import FailureIntake.Text.Utf8

/-! Log filters. Of the directives that apply to an entry the most specific one decides, and where
none applies the entry is not shown. -/
namespace FailureIntake

namespace Directive

/-- How specific a target is: the longer, the more, and no target the least. -/
def targetRank (d : Directive) : Nat :=
  d.target.elim 0 (·.utf8ByteSize + 1)

/-- Of two directives for one entry, the second is at least as specific: its target is longer, or
they have one target and it asks for a field, and for no lesser one than the first. -/
def yieldsTo (d e : Directive) : Bool :=
  d.targetRank < e.targetRank || d.targetRank = e.targetRank &&
    match d.field, e.field with
    | none, _ => true
    | some _, none => false
    | some f, some g => f.name ≤ g.name

/-- The most specific directive, of equals the last. -/
def mostSpecific? (ds : List Directive) : Option Directive :=
  ds.foldl (fun best d => if best.all (·.yieldsTo d) then some d else best) none

end Directive

/-- Directives in the order in which they are written. -/
structure Filter where
  directives : List Directive
deriving DecidableEq, Repr

namespace Filter

def standard : Filter := ⟨[{ threshold := .upTo .info }]⟩

/-- Directives between commas; a single unreadable one spoils them all. -/
def ofText (text : String) : Except DirectiveError Filter :=
  (((Text.parts ',' text.toList).filter (· ≠ [])).mapM Directive.ofText).map Filter.mk

/-- The filter that a variable asks for. Without a well-formed value it is the standard one. There
is none where a character would be split. -/
def ofVariable? (value : Option Text.Utf8.Octets) : Option Filter :=
  match (value.bind Text.Utf8.decode?).map ofText with
  | none | some (.error .malformed) => some standard
  | some (.error .splitCharacter) => none
  | some (.ok f) => some f

def decisive? (f : Filter) (e : LogEntry) : Option Directive :=
  Directive.mostSpecific? (f.directives.filter fun d => d.isForEntries && d.appliesTo e)

def shows (f : Filter) (e : LogEntry) : Bool :=
  (f.decisive? e).any (·.threshold.passes e.level)

end Filter

end FailureIntake
