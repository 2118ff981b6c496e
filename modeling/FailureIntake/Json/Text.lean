import FailureIntake.Text.Quoted

/-! Strings in JSON texts. The writer escapes what it must; the reader takes every escape. -/
namespace FailureIntake.Json

/-- Quotes, backslashes and the 32 control characters are escaped, with a letter where there is
one. -/
def escapeChar (c : Char) : List Char :=
  if c = '"' then ['\\', '"']
  else if c = '\\' then ['\\', '\\']
  else if c = '\x08' then ['\\', 'b']
  else if c = '\x0c' then ['\\', 'f']
  else if c = '\n' then ['\\', 'n']
  else if c = '\r' then ['\\', 'r']
  else if c = '\t' then ['\\', 't']
  else if c.toNat < 32 then
    ['\\', 'u', '0', '0', Nat.digitChar (c.toNat / 16), Nat.digitChar (c.toNat % 16)]
  else [c]

def writeString (s : String) : List Char :=
  '"' :: s.toList.flatMap escapeChar ++ ['"']

/-- The value of a hexadecimal digit of either case. -/
def hexValue? (c : Char) : Option Nat :=
  if '0' ≤ c ∧ c ≤ '9' then some (c.toNat - '0'.toNat)
  else if 'a' ≤ c ∧ c ≤ 'f' then some (c.toNat - 'a'.toNat + 10)
  else if 'A' ≤ c ∧ c ≤ 'F' then some (c.toNat - 'A'.toNat + 10)
  else none

def hex4? (a b c d : Char) : Option Nat := do
  some ((((← hexValue? a) * 16 + (← hexValue? b)) * 16 + (← hexValue? c)) * 16 + (← hexValue? d))

def escaped? (c : Char) : Option Char :=
  match c with
  | '"' | '\\' | '/' => some c
  | 'b' => some '\x08'
  | 'f' => some '\x0c'
  | 'n' => some '\n'
  | 'r' => some '\r'
  | 't' => some '\t'
  | _ => none

/-- The code points up to the closing quote, escaped surrogates as they are, and what follows the
quote. -/
def readString? : List Char → Option (List Nat × List Char)
  | [] => none
  | '"' :: rest => some ([], rest)
  | '\\' :: 'u' :: a :: b :: c :: d :: rest => do
    let n ← hex4? a b c d
    let (ns, rest) ← readString? rest
    some (n :: ns, rest)
  | '\\' :: e :: rest => do
    let c ← escaped? e
    let (ns, rest) ← readString? rest
    some (c.toNat :: ns, rest)
  | c :: rest =>
    if c.toNat < 32 then none
    else do
      let (ns, rest) ← readString? rest
      some (c.toNat :: ns, rest)

/-- The first half of a surrogate pair. -/
def isHigh (n : Nat) : Bool :=
  0xD800 ≤ n && n ≤ 0xDBFF

def isLow (n : Nat) : Bool :=
  0xDC00 ≤ n && n ≤ 0xDFFF

/-- The characters of code points, two halves of a pair as one. A half alone has none. -/
def characters? : List Nat → Option (List Char)
  | [] => some []
  | [n] => if isHigh n || isLow n then none else some [Char.ofNat n]
  | n :: m :: rest =>
    if isHigh n && isLow m then
      (characters? rest).map (Char.ofNat ((n - 0xD800) * 0x400 + (m - 0xDC00) + 0x10000) :: ·)
    else if isHigh n || isLow n then none
    else (characters? (m :: rest)).map (Char.ofNat n :: ·)

/-- A string takes at least its closing quote. -/
theorem readString?_shorter {s rest : List Char} {ns : List Nat}
    (h : readString? s = some (ns, rest)) : rest.length < s.length := by
  fun_induction readString? s generalizing ns rest with
  | case1 => cases h
  | case2 => cases h; simp
  | case3 a b c d r ih =>
    simp only [Option.bind_eq_bind, Option.bind_eq_some_iff] at h
    obtain ⟨n, -, ⟨ms, q⟩, hq, he⟩ := h
    cases he
    have := ih hq
    simp only [List.length_cons]; omega
  | case4 e r _ ih =>
    simp only [Option.bind_eq_bind, Option.bind_eq_some_iff] at h
    obtain ⟨n, -, ⟨ms, q⟩, hq, he⟩ := h
    cases he
    have := ih hq
    simp only [List.length_cons]; omega
  | case5 => cases h
  | case6 c r _ _ _ _ ih =>
    simp only [Option.bind_eq_bind, Option.bind_eq_some_iff] at h
    obtain ⟨⟨ms, q⟩, hq, he⟩ := h
    cases he
    have := ih hq
    simp only [List.length_cons]; omega

end FailureIntake.Json
