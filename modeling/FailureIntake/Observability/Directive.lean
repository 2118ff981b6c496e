import FailureIntake.Decimal.Reading
import FailureIntake.Observability.Log
import FailureIntake.Observability.Pattern
import FailureIntake.Text.Parts

/-! Directives of a log filter. A directive is written `target[span{field=value}]=level`,
and each of its parts may be missing. A word alone is a level if it names one, else a target. -/
namespace FailureIntake

inductive Threshold where
  | off
  | upTo (level : LogLevel)
deriving DecidableEq, Repr

namespace Threshold

/-- The thresholds from the strictest on; the place of each is its number. -/
def all : List Threshold :=
  [.off, .upTo .error, .upTo .warn, .upTo .info, .upTo .debug, .upTo .trace]

def label : Threshold → String
  | .off => "OFF"
  | .upTo level => level.label

/-- Entries of the named level and of graver ones pass. -/
def passes : Threshold → LogLevel → Bool
  | .off, _ => false
  | .upTo level, entry => decide (entry.verbosity ≤ level.verbosity)

/-- A number, possibly with a plus sign before it. -/
def number? (word : List Char) : Option Nat :=
  let digits := if word.head? = some '+' then word.tail else word
  if digits ≠ [] ∧ digits.all Char.isDigit then some (Text.digitsValue digits) else none

/-- A threshold by its number or by its name in letters of either case. -/
def ofWord? (word : List Char) : Option Threshold :=
  match number? word with
  | some n => all[n]?
  | none => all.find? fun t => t.label.toList = word.map Char.toUpper

end Threshold

/-- A field that an entry or a span has to have. -/
structure FieldCondition where
  name : String
  withValue : Bool
deriving DecidableEq, Repr

/-- A condition and the threshold for what meets it. -/
structure Directive where
  target : Option String := none
  span : Option String := none
  field : Option FieldCondition := none
  threshold : Threshold := .upTo .trace
deriving DecidableEq, Repr

inductive DirectiveError where
  | malformed
  /-- A word would begin or end inside a character. -/
  | splitCharacter
deriving DecidableEq, Repr

namespace Directive

/-- An octet of a written directive: the mark that is read in its place, and the character that
begins with it. -/
structure Cell where
  mark : Option Char
  char : Option Char

/-- Each character at its first octet. -/
def octetwise (s : List Char) : List (Option Char) :=
  s.flatMap fun c => some c :: List.replicate (c.utf8Size - 1) none

/-- Marks are read without the blanks around a directive, words with them. So blanks in front move
every word ahead of the marks that enclose it, and the last word goes on to the very end. -/
def cells (written : List Char) : List Cell :=
  let marks := octetwise (Text.trim written)
  let chars := octetwise written
  List.zipWith Cell.mk (marks ++ List.replicate (chars.length - marks.length) none) chars

def text (cs : List Cell) : List Char :=
  cs.filterMap Cell.char

def Cell.isMark (marks : List Char) (c : Cell) : Bool :=
  c.mark.any marks.contains

/-- A word may begin or end before these cells. -/
def atCharacter : List Cell → Bool
  | [] => true
  | c :: _ => c.char.isSome

/-- The word up to the first of the marks, and the cells from there on. -/
def upTo (marks : List Char) (cs : List Cell) : Except DirectiveError (String × List Cell) :=
  match cs.dropWhile (!·.isMark marks) with
  | [] => .error .malformed
  | rest =>
    if atCharacter cs && atCharacter rest then
      .ok (String.ofList (text (cs.takeWhile (!·.isMark marks))), rest)
    else .error .splitCharacter

/-- A number with a fraction, an exponent and a sign, or the word for one that is none or without
bound. -/
def isNumber (s : List Char) : Bool :=
  let unsigned :=
    match s with
    | '+' :: r | '-' :: r => r
    | r => r
  (Decimal.unsigned? unsigned).isSome ||
    ["inf", "infinity", "nan"].contains (String.ofList (unsigned.map Char.toLower))

/-- A field's value is a number or a pattern for its text. -/
def isValue (s : List Char) : Bool :=
  isNumber s || Pattern.isWellFormed s

/-- A field's name goes up to its first equals sign, and its value from there to the second. -/
def fieldCondition? (word : String) : Option FieldCondition :=
  match Text.parts '=' word.toList with
  | name :: value :: _ => if isValue value then some ⟨String.ofList name, true⟩ else none
  | _ => if word = "" then none else some ⟨word, false⟩

/-- What follows an equals sign: a level, or nothing for everything. -/
def withLevel (d : Directive) (cs : List Cell) : Except DirectiveError Directive :=
  if !atCharacter cs then .error .splitCharacter
  else if cs.isEmpty then .ok d
  else match Threshold.ofWord? (text cs) with
    | some t => .ok { d with threshold := t }
    | none => .error .malformed

def afterBracket (d : Directive) : List Cell → Except DirectiveError Directive
  | [] | ⟨none, _⟩ :: _ => .ok d
  | ⟨some '=', _⟩ :: r => d.withLevel r
  | _ => .error .malformed

/-- What follows an opening brace. An empty field is an error. -/
def braced (d : Directive) (cs : List Cell) : Except DirectiveError Directive := do
  let (word, rest) ← upTo ['\x7d'] cs
  match fieldCondition? word, rest with
  | some f, _ :: ⟨some ']', _⟩ :: r => afterBracket { d with field := some f } r
  | _, _ => .error .malformed

/-- What follows an opening bracket. An empty name is a name only before the closing bracket. -/
def bracketed (d : Directive) (cs : List Cell) : Except DirectiveError Directive := do
  let (name, rest) ← upTo [']', '\x7b'] cs
  match rest with
  | ⟨some ']', _⟩ :: r => afterBracket { d with span := some name } r
  | _ :: r => braced { d with span := if name = "" then none else some name } r
  | [] => .error .malformed

/-- The first character of a level or a target. -/
def isWordStart (c : Char) : Bool :=
  Text.isAlphanumeric c || ['-', ':', '_'].contains c

/-- A word without marks is a level or else a target. -/
def ofWord (word : List Char) : Directive :=
  match Threshold.ofWord? word with
  | some t => { threshold := t }
  | none => { target := some (String.ofList word) }

/-- The marks after a target. -/
def targetEnds : List Char := ['=', '[']

def ofText (written : List Char) : Except DirectiveError Directive :=
  let cs := cells written
  match cs with
  | ⟨some '[', _⟩ :: r => bracketed {} r
  | ⟨some c, _⟩ :: _ =>
    if !isWordStart c then .error .malformed
    else if !cs.any (·.isMark targetEnds) then .ok (ofWord written)
    else do
      let (target, rest) ← upTo targetEnds cs
      let d : Directive := { target := some target }
      match rest with
      | ⟨some '=', _⟩ :: r => d.withLevel r
      | _ => d.bracketed rest.tail
  | _ => .error .malformed

/-- The directive decides on entries by themselves: it asks for no span and for no field's value. -/
def isForEntries (d : Directive) : Bool :=
  d.span.isNone && !d.field.any FieldCondition.withValue

/-- The entry comes from the named target or below it, and has the field. -/
def appliesTo (d : Directive) (e : LogEntry) : Bool :=
  d.target.all (fun t => t.toList.isPrefixOf e.target.toList) &&
    d.field.all fun f => f.name = "message" || e.fields.any (·.1 = f.name)

end Directive

end FailureIntake
