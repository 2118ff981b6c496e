import FailureIntake.Json.Text
import FailureIntake.Yaml.Token

/-! Node properties and directives: anchors, aliases and tags, and the lines that begin with a
percent sign. -/
namespace FailureIntake.Yaml

/-- A run of characters of a class that has no line breaks, and the place after it. -/
def Cursor.run (c : Cursor) (p : Char → Bool) : List Char × Cursor :=
  (c.rest.takeWhile p, c.skipWhile p)

/-- The name of an anchor or an alias. It ends at a gap or at an indicator. -/
def Cursor.anchorName? (c : Cursor) : Option (List Char × Cursor) :=
  let (name, c) := c.run isWordChar
  if name.isEmpty then none
  else if atGap c.rest || (c.rest.head?.any fun d => "?:,]\x7d%@`".toList.contains d) then
    some (name, c)
  else none

namespace TagText

/-- The characters of a tag, and with `flow` also those that separate flow collections. -/
def isTagChar (flow : Bool) (c : Char) : Bool :=
  isWordChar c || ";/?:@&=+$.%!~*'()".toList.contains c || (flow && ",[]".toList.contains c)

/-- The number of octets of a character whose first octet is this one. -/
def octetCount? (octet : Nat) : Option Nat :=
  if octet < 0x80 then some 1
  else if octet < 0xC0 then none
  else if octet < 0xE0 then some 2
  else if octet < 0xF0 then some 3
  else if octet < 0xF8 then some 4
  else none

/-- The text of a tag with its escaped octets. `pending` is the number of octets that a character
begun by an escape still needs. An octet is kept as the character of its number. -/
def unescape? : (pending : Nat) → List Char → Option (List Char)
  | 0, [] => some []
  | _ + 1, [] => none
  | pending, '%' :: a :: b :: r => do
    let octet := (← Json.hexValue? a) * 16 + (← Json.hexValue? b)
    let left ←
      match pending with
      | 0 => (octetCount? octet).map (· - 1)
      | n + 1 => if 0x80 ≤ octet ∧ octet < 0xC0 then some n else none
    (unescape? left r).map (Char.ofNat octet :: ·)
  | 0, c :: r => if c = '%' then none else (unescape? 0 r).map (c :: ·)
  | _ + 1, _ :: _ => none

/-- The text of a tag after `head`, of which all but the first character belongs to it. What
follows an escaped NUL is dropped. -/
def uri? (flow : Bool) (head : List Char) (c : Cursor) : Option (List Char × Cursor) := do
  let (text, c) := c.run (isTagChar flow)
  if head.isEmpty && text.isEmpty then none
  some ((head.drop 1 ++ (← unescape? 0 text)).takeWhile (· ≠ '\x00'), c)

/-- A handle: an exclamation mark, and perhaps a name and another one. -/
def handle? (c : Cursor) : Option (List Char × Cursor) :=
  match c.rest with
  | '!' :: _ =>
    let (name, c) := (c.skip 1).run isWordChar
    if c.rest.head? = some '!' then some ('!' :: name ++ ['!'], c.skip 1) else some ('!' :: name, c)
  | _ => none

def isNamedHandle (handle : List Char) : Bool :=
  1 < handle.length && handle.getLast? = some '!'

/-- A tag is written in angle brackets, with a named handle, or with a single mark. The mark alone
is a tag without a handle. -/
def read? (c : Cursor) : Option (TagText × Cursor) := do
  let (t, c) ←
    if (c.skip 1).rest.head? = some '<' then do
      let (suffix, c) ← uri? true [] (c.skip 2)
      if c.rest.head? = some '>' then some ((⟨[], suffix⟩ : TagText), c.skip 1) else none
    else do
      let (handle, c) ← handle? c
      if isNamedHandle handle then do
        let (suffix, c) ← uri? false [] c
        some ((⟨handle, suffix⟩ : TagText), c)
      else do
        let (suffix, c) ← uri? false handle c
        some (if suffix.isEmpty then (⟨[], ['!']⟩ : TagText) else ⟨['!'], suffix⟩, c)
  some (t, c)

/-- A tag ends at a gap, or within brackets at a comma. -/
def ends (inFlow : Bool) (c : Cursor) : Bool :=
  atGap c.rest || (inFlow && c.rest.head? = some ',')

end TagText

namespace Directive

/-- At most nine digits. -/
def number? (c : Cursor) : Option (Nat × Cursor) :=
  let (ds, c) := c.run Char.isDigit
  if ds.isEmpty ∨ 9 < ds.length then none else some (Nat.ofDigitChars 10 ds 0, c)

def version? (c : Cursor) : Option (TokenKind × Cursor) := do
  let (major, c) ← number? (c.skipWhile isBlank)
  if c.rest.head? ≠ some '.' then none
  let (minor, c) ← number? (c.skip 1)
  some (.versionDirective major minor, c)

/-- A handle and the text that it stands for. -/
def tagHandle? (c : Cursor) : Option (TokenKind × Cursor) := do
  let (handle, c) ← TagText.handle? (c.skipWhile isBlank)
  if 1 < handle.length ∧ handle.getLast? ≠ some '!' then none
  if !(c.rest.head?.any isBlank) then none
  let (tagStart, c) ← TagText.uri? true [] (c.skipWhile isBlank)
  if !atGap c.rest then none
  some (.tagDirective handle tagStart, c)

/-- A directive is a name, its values, and nothing more in its line. -/
def read? (c : Cursor) : Option (TokenKind × Cursor) := do
  let (name, c) := (c.skip 1).run isWordChar
  if !atGap c.rest then none
  let (kind, c) ←
    if name = "YAML".toList then version? c
    else if name = "TAG".toList then tagHandle? c
    else none
  some (kind, ← c.endLine?)

end Directive

end FailureIntake.Yaml
