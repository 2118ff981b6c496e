import FailureIntake.Yaml.Property
import FailureIntake.Yaml.Scalar.Block
import FailureIntake.Yaml.Scalar.Plain
import FailureIntake.Yaml.Scalar.Quoted

/-! The tokens of a text. Where a mapping key begins is known only when its colon is found, so
tokens wait as long as a key may still turn out to begin at them. A text that goes wrong has the
tokens that did not wait at that moment. -/
namespace FailureIntake.Yaml

/-- A place where a key may have begun, which a colon on the same line will confirm. -/
structure KeyPlace where
  /-- The number of the key's first token. -/
  number : Nat
  mark : Mark
  /-- The layout allows nothing but a key here. -/
  required : Bool
deriving DecidableEq, Repr

structure Layout where
  cursor : Cursor
  /-- The text goes on after what the cursor holds, but cannot be read there. -/
  cut : Bool := false
  /-- The indentations of the open block collections, the innermost first. -/
  indents : List Nat := []
  /-- A key may begin here. -/
  keyAllowed : Bool := true
  /-- The place of a key at this depth of brackets. -/
  keyPlace : Option KeyPlace := none
  outerKeyPlaces : List (Option KeyPlace) := []
  /-- The tokens that wait, and the number of those before them. -/
  waiting : List Token := []
  released : Nat := 0
deriving Repr

namespace Layout

def inFlow (s : Layout) : Bool :=
  !s.outerKeyPlaces.isEmpty

def mark (s : Layout) : Mark :=
  s.cursor.mark

/-- The column of the innermost block collection, before every column if there is none. -/
def indent (s : Layout) : Int :=
  match s.indents with
  | [] => -1
  | n :: _ => n

def push (s : Layout) (t : Token) : Layout :=
  { s with waiting := s.waiting ++ [t] }

/-- Inserts a token before the one of a number. -/
def insert (s : Layout) (number : Nat) (t : Token) : Layout :=
  let n := number - s.released
  { s with waiting := s.waiting.take n ++ t :: s.waiting.drop n }

/-- An indicator of `n` characters. -/
def indicator (s : Layout) (kind : TokenKind) (n : Nat) : Layout :=
  let c := s.cursor.skip n
  { s.push ⟨kind, s.mark, c.mark⟩ with cursor := c }

/-- A token that has been read up to the cursor. -/
def token (s : Layout) (kind : TokenKind) (c : Cursor) : Layout :=
  { s.push ⟨kind, s.mark, c.mark⟩ with cursor := c }

/-- The next `n` characters can be read, or else the text ends before them. -/
def need? (n : Nat) (s : Layout) : Option Layout :=
  if s.cut && (s.cursor.rest.take n).length < n then none else some s

/-! Places of keys. -/

/-- A place is too far back if it is on an earlier line or more than 1024 octets away. -/
def isStale (m : Mark) (p : KeyPlace) : Bool :=
  p.mark.line < m.line || p.mark.offset + 1024 < m.offset

/-- Gives up a place that is too far back, unless the key is required there. -/
def refresh? (m : Mark) : Option KeyPlace → Option (Option KeyPlace)
  | none => some none
  | some p => if isStale m p then if p.required then none else some none else some (some p)

/-- Gives up all places that are too far back. -/
def refreshKeys? (s : Layout) : Option Layout := do
  let outer ← s.outerKeyPlaces.mapM (refresh? s.mark)
  let place ← refresh? s.mark s.keyPlace
  some { s with keyPlace := place, outerKeyPlaces := outer }

/-- No key begins at the innermost place. -/
def dropKey? (s : Layout) : Option Layout :=
  if s.keyPlace.any (·.required) then none else some { s with keyPlace := none }

/-- A key may begin with the next token. -/
def saveKey? (s : Layout) : Option Layout :=
  if s.keyAllowed then do
    let required := !s.inFlow && s.indent == s.mark.column
    let place : KeyPlace := ⟨s.released + s.waiting.length, s.mark, required⟩
    some { ← s.dropKey? with keyPlace := some place }
  else some s

def enterFlow (s : Layout) : Layout :=
  { s with outerKeyPlaces := s.keyPlace :: s.outerKeyPlaces, keyPlace := none }

def leaveFlow (s : Layout) : Layout :=
  match s.outerKeyPlaces with
  | [] => s
  | place :: outer => { s with keyPlace := place, outerKeyPlaces := outer }

/-! Indentation. -/

/-- A block collection begins at a mark, if its column is deeper than all others. Its token stands
before the token of the number, or else at the end. -/
def roll (s : Layout) (m : Mark) (kind : TokenKind) (number : Option Nat) : Layout :=
  if s.inFlow || (m.column : Int) ≤ s.indent then s
  else
    let t : Token := ⟨kind, m, m⟩
    let s := { s with indents := m.column :: s.indents }
    match number with
    | some n => s.insert n t
    | none => s.push t

/-- The ends of the block collections that are deeper than a column. -/
def unrollTo (column : Int) (s : Layout) : Layout :=
  let closed := s.indents.takeWhile fun (n : Nat) => decide (column < n)
  { s with
    indents := s.indents.drop closed.length
    waiting := s.waiting ++ closed.map fun _ => ⟨.blockEnd, s.mark, s.mark⟩ }

/-- Closes block collections, unless within brackets. -/
def unroll (s : Layout) (column : Int) : Layout :=
  if s.inFlow then s else s.unrollTo column

/-! One token after the other. -/

/-- Skips blanks, comments and at most `n` line breaks. A tab is no blank where a key may begin. A byte order
mark in front of a line is skipped, too, and takes up a column. -/
def skipGaps : Nat → Layout → Layout
  | 0, s => s
  | n + 1, s =>
    let c :=
      if s.mark.column = 0 ∧ s.cursor.rest.head? = some '\ufeff' then s.cursor.skip 1 else s.cursor
    let c := c.skipWhile fun d => d == ' ' || (d == '\t' && (s.inFlow || !s.keyAllowed))
    let c := if c.rest.head? = some '#' then c.skipLine else c
    if c.rest.head?.any isBreak then
      skipGaps n { s with cursor := c.skipBreak, keyAllowed := s.keyAllowed || !s.inFlow }
    else { s with cursor := c }

/-- The end of the text counts as the end of its last line. -/
def streamEnd? (s : Layout) : Option Layout := do
  let m := s.mark
  let s := if m.column = 0 then s else { s with cursor := ⟨[], m.nextLine 0⟩ }
  let s ← (s.unroll (-1)).dropKey?
  some { s.push ⟨.streamEnd, s.mark, s.mark⟩ with keyAllowed := false }

def directive? (s : Layout) : Option Layout := do
  let s ← (s.unroll (-1)).dropKey?
  let (kind, c) ← Directive.read? s.cursor
  need? 1 { s.token kind c with keyAllowed := false }

def documentIndicator? (s : Layout) (kind : TokenKind) : Option Layout := do
  let s ← (s.unroll (-1)).dropKey?
  some { s.indicator kind 3 with keyAllowed := false }

def flowStart? (s : Layout) (kind : TokenKind) : Option Layout := do
  let s ← s.saveKey?
  some { s.enterFlow.indicator kind 1 with keyAllowed := true }

def flowEnd? (s : Layout) (kind : TokenKind) : Option Layout := do
  let s ← s.dropKey?
  some { s.leaveFlow.indicator kind 1 with keyAllowed := false }

def separator? (s : Layout) : Option Layout := do
  let s ← s.dropKey?
  some { s.indicator .flowEntry 1 with keyAllowed := true }

/-- An entry or a key begins a collection where the layout allows it. -/
def beginItem? (s : Layout) (kind : TokenKind) : Option Layout :=
  if s.inFlow then some s
  else if s.keyAllowed then some (s.roll s.mark kind none)
  else none

def blockItem? (s : Layout) : Option Layout := do
  let s ← s.beginItem? .blockSequenceStart
  let s ← s.dropKey?
  some { s.indicator .blockEntry 1 with keyAllowed := true }

def key? (s : Layout) : Option Layout := do
  let s ← s.beginItem? .blockMappingStart
  let s ← s.dropKey?
  some { s.indicator .key 1 with keyAllowed := !s.inFlow }

/-- A colon confirms the place of a key, or follows a key that was marked. -/
def value? (s : Layout) : Option Layout :=
  match s.keyPlace with
  | some p =>
    let s := s.insert p.number ⟨.key, p.mark, p.mark⟩
    let s := s.roll p.mark .blockMappingStart (some p.number)
    some { s.indicator .value 1 with keyPlace := none, keyAllowed := false }
  | none => do
    let s ← s.beginItem? .blockMappingStart
    some { s.indicator .value 1 with keyAllowed := !s.inFlow }

/-- A token with which a key may begin, but after which none may. -/
def content? (s : Layout) (read : Layout → Option (TokenKind × Cursor)) : Option Layout := do
  let s ← s.saveKey?
  let (kind, c) ← read s
  need? 1 { s.token kind c with keyAllowed := false }

def anchor? (s : Layout) (kind : List Char → TokenKind) : Option Layout :=
  s.content? fun s => do
    let (name, c) ← (s.cursor.skip 1).anchorName?
    some (kind name, c)

def tag? (s : Layout) : Option Layout :=
  s.content? fun s => do
    let (t, c) ← TagText.read? s.cursor
    if TagText.ends s.inFlow c then some (.tag t, c) else none

def quoted? (s : Layout) (single : Bool) : Option Layout :=
  s.content? fun s => do
    let c := s.cursor.skip 1
    let (text, c) ← Quoted.read single c.rest c.mark {}
    some (.scalar (if single then .singleQuoted else .doubleQuoted) text, c)

def block? (s : Layout) (literal : Bool) : Option Layout := do
  let s ← s.dropKey?
  let (text, c) ← Block.read? literal s.indents.head? (s.cursor.skip 1)
  need? 1 { s.token (.scalar (if literal then .literal else .folded) text) c with keyAllowed := true }

/-- After the line breaks behind a plain scalar a key may begin again. -/
def plain? (s : Layout) : Option Layout := do
  let s ← s.saveKey?
  let r ← Plain.read s.inFlow (s.indent + 1) s.cursor.rest s.mark {}
  need? r.ahead { s.token (.scalar .plain r.text) r.stop with keyAllowed := r.endsLine }

/-- The characters that begin no plain scalar by themselves. -/
def isIndicator (c : Char) : Bool :=
  "-?:,[]\x7b\x7d#&*!|>'\"%@`".toList.contains c

/-- A plain scalar begins with no gap and no indicator, except for a hyphen before something, and
outside brackets a question mark or a colon. -/
def beginsPlain (inFlow : Bool) (c : Char) (r : List Char) : Bool :=
  (!isBlank c && !isBreak c && !isIndicator c) ||
    (c == '-' && !(r.head?.any isBlank)) ||
    (!inFlow && (c == '?' || c == ':') && !atGap r)

def readToken? (s : Layout) (c : Char) (r : List Char) : Option Layout :=
  if s.mark.column = 0 && c == '%' then s.directive?
  else if s.mark.column = 0 && atDocumentIndicator (c :: r) then
    s.documentIndicator? (if c = '-' then .documentStart else .documentEnd)
  else if c == '[' then s.flowStart? .flowSequenceStart
  else if c == '\x7b' then s.flowStart? .flowMappingStart
  else if c == ']' then s.flowEnd? .flowSequenceEnd
  else if c == '\x7d' then s.flowEnd? .flowMappingEnd
  else if c == ',' then s.separator?
  else if c == '-' && atGap r then s.blockItem?
  else if c == '?' && (s.inFlow || atGap r) then s.key?
  else if c == ':' && (s.inFlow || atGap r) then s.value?
  else if c == '*' then s.anchor? .alias
  else if c == '&' then s.anchor? .anchor
  else if c == '!' then s.tag?
  else if c == '|' && !s.inFlow then s.block? true
  else if c == '>' && !s.inFlow then s.block? false
  else if c == '\'' then s.quoted? true
  else if c == '"' then s.quoted? false
  else if beginsPlain s.inFlow c r then s.plain?
  else none

/-- Reads the next token after at most `n` line breaks, with the ends of the collections before
it. The first characters of a token have to be known before anything is said of it. -/
def read? (n : Nat) (s : Layout) : Option Layout := do
  let s ← (s.skipGaps n).refreshKeys?
  let s ← (s.unroll s.mark.column).need? 4
  match s.cursor.rest with
  | [] => s.streamEnd?
  | c :: r => s.readToken? c r

/-- How many of the waiting tokens no key can begin at any more. -/
def releasable (s : Layout) : Nat :=
  (s.keyPlace :: s.outerKeyPlaces).foldl
    (fun n place => (place.map fun p => min n (p.number - s.released)).getD n) s.waiting.length

/-- The tokens that need not wait, and the rest. -/
def release (s : Layout) : List Token × Layout :=
  let n := s.releasable
  (s.waiting.take n, { s with waiting := s.waiting.drop n, released := s.released + n })

/-- Reads at most `n` tokens, and no more line breaks between two of them. Each takes a character. -/
def tokens : Nat → Layout → List Token
  | 0, _ => []
  | n + 1, s =>
    match (s.read? n).bind refreshKeys? with
    | none => []
    | some s =>
      let (ready, s) := s.release
      if ready.getLast?.any (·.kind == .streamEnd) then ready else ready ++ tokens n s

end Layout

/-- The tokens of a text in order, up to the end of the stream or up to where the text goes
wrong. -/
def Token.ofText (text : List Char) : List Token :=
  let (front, cut) := readable text
  Layout.tokens (front.length + 2) { cursor := ⟨front, ⟨0, 0, 0⟩⟩, cut := cut }

end FailureIntake.Yaml
