/-! UTF-8: reading octets as characters, either strictly or with every broken piece replaced. -/
namespace FailureIntake.Text.Utf8

abbrev Octets := List UInt8

/-- A character whose first octets are read and whose next octet lies in `low..high`. -/
structure Partial where
  value : Nat
  left : Nat
  low : UInt8
  high : UInt8

/-- What a first octet begins: a whole character, a longer one, or nothing. -/
inductive Lead where
  | whole (c : Char)
  | more (p : Partial)
  | broken

/-- The range of the second octet rules out overlong forms, surrogates and values above U+10FFFF. -/
def lead (b : UInt8) : Lead :=
  if b < 0x80 then .whole (Char.ofNat b.toNat)
  else if 0xC2 ≤ b ∧ b ≤ 0xDF then .more ⟨b.toNat - 0xC0, 1, 0x80, 0xBF⟩
  else if b = 0xE0 then .more ⟨0, 2, 0xA0, 0xBF⟩
  else if b = 0xED then .more ⟨0xD, 2, 0x80, 0x9F⟩
  else if 0xE1 ≤ b ∧ b ≤ 0xEF then .more ⟨b.toNat - 0xE0, 2, 0x80, 0xBF⟩
  else if b = 0xF0 then .more ⟨0, 3, 0x90, 0xBF⟩
  else if 0xF1 ≤ b ∧ b ≤ 0xF3 then .more ⟨b.toNat - 0xF0, 3, 0x80, 0xBF⟩
  else if b = 0xF4 then .more ⟨4, 3, 0x80, 0x8F⟩
  else .broken

/-- The characters of the octets in order, `none` for each maximal broken piece. -/
def pieces : Option Partial → Octets → List (Option Char)
  | none, [] => []
  | some _, [] => [none]
  | none, b :: r =>
    match lead b with
    | .whole c => some c :: pieces none r
    | .more p => pieces (some p) r
    | .broken => none :: pieces none r
  | some p, b :: r =>
    if p.low ≤ b ∧ b ≤ p.high then
      let value := p.value * 64 + (b.toNat - 0x80)
      if p.left = 1 then some (Char.ofNat value) :: pieces none r
      else pieces (some ⟨value, p.left - 1, 0x80, 0xBF⟩) r
    else
      none :: match lead b with
        | .whole c => some c :: pieces none r
        | .more q => pieces (some q) r
        | .broken => none :: pieces none r

def decode? (bs : Octets) : Option String :=
  ((pieces none bs).mapM id).map String.ofList

def decodeLossy (bs : Octets) : String :=
  String.ofList ((pieces none bs).map (·.getD '\ufffd'))

def encode (s : String) : Octets :=
  s.toList.flatMap String.utf8EncodeChar

end FailureIntake.Text.Utf8
