import FailureIntake.Json.Number
import FailureIntake.Json.Text
import FailureIntake.Proofs.Text.Runs

/-! Strings and numbers as a JSON text may spell them: characters as they are or as one of their
escapes, numbers of any length. What is spelled so is read, up to where it ends, and nothing else is. -/
namespace FailureIntake.Json

open Text

/-- A digit of either case and its value. -/
def HexDigit (c : Char) (v : Nat) : Prop :=
  v < 16 ∧ (c = Nat.digitChar v ∨ c = (Nat.digitChar v).toUpper)

/-- The letter after a backslash and the character that it stands for. -/
def shortEscapes : List (Char × Char) :=
  [('"', '"'), ('\\', '\\'), ('/', '/'), ('b', '\x08'), ('f', '\x0c'), ('n', '\n'), ('r', '\r'),
    ('t', '\t')]

/-- What may stand between the quotes of a string, and the code points that it gives. An escape by
number may give half of a pair. -/
inductive StringText : List Char → List Nat → Prop where
  | nil : StringText [] []
  | plain {c : Char} {s : List Char} {ns : List Nat} : c ≠ '"' → c ≠ '\\' → 32 ≤ c.toNat →
      StringText s ns → StringText (c :: s) (c.toNat :: ns)
  | short {e c : Char} {s : List Char} {ns : List Nat} : (e, c) ∈ shortEscapes →
      StringText s ns → StringText ('\\' :: e :: s) (c.toNat :: ns)
  | number {a b c d : Char} {x y z w : Nat} {s : List Char} {ns : List Nat} :
      HexDigit a x → HexDigit b y → HexDigit c z → HexDigit d w → StringText s ns →
      StringText ('\\' :: 'u' :: a :: b :: c :: d :: s) ((((x * 16 + y) * 16 + z) * 16 + w) :: ns)

/-- The characters that code points give, two halves of a pair as one. A half alone gives none. -/
inductive Pairs : List Nat → List Char → Prop where
  | nil : Pairs [] []
  | char {c : Char} {ns : List Nat} {cs : List Char} : Pairs ns cs → Pairs (c.toNat :: ns) (c :: cs)
  | pair {high low : Nat} {c : Char} {ns : List Nat} {cs : List Char} :
      0xD800 ≤ high → high ≤ 0xDBFF → 0xDC00 ≤ low → low ≤ 0xDFFF →
      c.toNat = 0x10000 + (high - 0xD800) * 0x400 + (low - 0xDC00) →
      Pairs ns cs → Pairs (high :: low :: ns) (c :: cs)

theorem hexValue?_digitChar : ∀ n < 16, hexValue? (Nat.digitChar n) = some n := by
  decide

theorem HexDigit.hexValue? {c : Char} {v : Nat} (digit : HexDigit c v) : hexValue? c = some v := by
  have upper : ∀ n < 16, Json.hexValue? (Nat.digitChar n).toUpper = some n := by decide
  obtain ⟨small, rfl | rfl⟩ := digit
  · exact hexValue?_digitChar v small
  · exact upper v small

theorem escaped?_of_mem {e c : Char} (short : (e, c) ∈ shortEscapes) : escaped? e = some c := by
  have table : ∀ p ∈ shortEscapes, escaped? p.1 = some p.2 := by decide
  exact table _ short

section

variable {c : Char} {s : List Char}

/-- Puts a character before what was read of a string. -/
def before (c : Char) : List Nat × List Char → List Nat × List Char
  | (ns, rest) => (c.toNat :: ns, rest)

theorem readString?_plain (quote : c ≠ '"') (backslash : c ≠ '\\') (printable : ¬c.toNat < 32) :
    readString? (c :: s) = (readString? s).map (before c) := by
  rw [readString?]
  · rw [if_neg printable]
    cases readString? s <;> rfl
  · exact quote
  · exact fun _ _ _ _ _ same => absurd same backslash
  · exact fun _ _ same => absurd same backslash

theorem readString?_letter {e : Char} (short : escaped? e = some c) :
    readString? ('\\' :: e :: s) = (readString? s).map (before c) := by
  have letter : e ≠ 'u' := by
    rintro rfl
    exact absurd short nofun
  rw [readString?]
  · rw [short]
    cases readString? s <;> rfl
  · exact fun _ _ _ _ _ same => absurd same letter

end

/-- The text is read up to the quote that closes it. -/
theorem StringText.readString? {s : List Char} {ns : List Nat} (text : StringText s ns)
    (rest : List Char) : readString? (s ++ '"' :: rest) = some (ns, rest) := by
  induction text with
  | nil => rfl
  | plain quote backslash printable _ ih =>
    rw [List.cons_append, readString?_plain quote backslash (Nat.not_lt.mpr printable), ih]
    rfl
  | short letter _ ih =>
    rw [List.cons_append, List.cons_append, readString?_letter (escaped?_of_mem letter), ih]
    rfl
  | number first second third fourth _ ih =>
    simp only [List.cons_append, Json.readString?, hex4?, first.hexValue?, second.hexValue?, third.hexValue?,
      fourth.hexValue?, ih, Option.bind_eq_bind, Option.bind_some]

theorem not_surrogate (c : Char) : isHigh c.toNat = false ∧ isLow c.toNat = false := by
  have valid := c.valid
  simp only [UInt32.isValidChar, Nat.isValidChar] at valid
  simp only [isHigh, isLow, Char.toNat, Bool.and_eq_false_iff, decide_eq_false_iff_not]
  omega

theorem Pairs.characters? {ns : List Nat} {cs : List Char} (pairs : Pairs ns cs) :
    characters? ns = some cs := by
  induction pairs with
  | nil => rfl
  | @char c ns cs _ ih =>
    obtain ⟨notHigh, notLow⟩ := not_surrogate c
    cases ns with
    | nil =>
      cases ih
      simp [Json.characters?, notHigh, notLow]
    | cons m ns => simp [Json.characters?, notHigh, notLow, ih]
  | @pair high low c ns cs h1 h2 h3 h4 same _ ih =>
    have isPair : isHigh high && isLow low := by simp [isHigh, isLow, h1, h2, h3, h4]
    have whole : (high - 0xD800) * 0x400 + (low - 0xDC00) + 0x10000 = c.toNat := by omega
    rw [Json.characters?, if_pos isPair, ih, whole]
    simp

theorem HexDigit.of_hexValue? {c : Char} {v : Nat} (given : Json.hexValue? c = some v) : HexDigit c v := by
  have table : ∀ n < 128, ∀ w ∈ Json.hexValue? (Char.ofNat n),
      w < 16 ∧ (Char.ofNat n = Nat.digitChar w ∨ Char.ofNat n = (Nat.digitChar w).toUpper) := by
    decide
  have small : c.toNat < 128 := by
    have le (d : Char) (below : c ≤ d) : c.toNat ≤ d.toNat := below
    unfold Json.hexValue? at given
    split at given
    · next digit => exact Nat.lt_of_le_of_lt (le _ digit.2) (by decide)
    · split at given
      · next lower => exact Nat.lt_of_le_of_lt (le _ lower.2) (by decide)
      · split at given
        · next upper => exact Nat.lt_of_le_of_lt (le _ upper.2) (by decide)
        · cases given
  have found := table c.toNat small v
  rw [Char.ofNat_toNat] at found
  exact found given

theorem mem_of_escaped? {e c : Char} (given : escaped? e = some c) : (e, c) ∈ shortEscapes := by
  unfold escaped? at given
  split at given <;> cases given <;> decide

theorem stringText_of_readString? {s rest : List Char} {ns : List Nat}
    (read : readString? s = some (ns, rest)) : ∃ body, StringText body ns ∧ s = body ++ '"' :: rest := by
  fun_induction readString? s generalizing ns rest with
  | case1 => cases read
  | case2 =>
    cases read
    exact ⟨[], .nil, rfl⟩
  | case3 a b c d r ih =>
    simp only [hex4?, Option.bind_eq_bind, Option.bind_eq_some_iff] at read
    obtain ⟨_, ⟨x, first, y, second, z, third, w, fourth, ⟨⟩⟩, ⟨_, _⟩, later, ⟨⟩⟩ := read
    obtain ⟨body, text, rfl⟩ := ih later
    exact ⟨_, .number (.of_hexValue? first) (.of_hexValue? second) (.of_hexValue? third)
      (.of_hexValue? fourth) text, rfl⟩
  | case4 e r _ ih =>
    simp only [Option.bind_eq_bind, Option.bind_eq_some_iff] at read
    obtain ⟨_, letter, ⟨_, _⟩, later, ⟨⟩⟩ := read
    obtain ⟨body, text, rfl⟩ := ih later
    exact ⟨_, .short (mem_of_escaped? letter) text, rfl⟩
  | case5 => cases read
  | case6 c r quote _ escape printable ih =>
    simp only [Option.bind_eq_bind, Option.bind_eq_some_iff] at read
    obtain ⟨⟨_, _⟩, later, ⟨⟩⟩ := read
    obtain ⟨body, text, same⟩ := ih later
    have backslash : c ≠ '\\' := by
      rintro rfl
      cases r with
      | nil => simp at same
      | cons e r => exact escape e r rfl rfl
    exact ⟨_, .plain quote backslash (Nat.not_lt.mp printable) text, congrArg (c :: ·) same⟩

/-- Some digits. -/
def IsDigits (ds : List Char) : Prop :=
  ds ≠ [] ∧ ∀ c ∈ ds, c.isDigit

/-- A point with digits after it, or nothing. -/
inductive FractionText : List Char → List Char → Prop where
  | none : FractionText [] []
  | point {ds : List Char} : IsDigits ds → FractionText ('.' :: ds) ds

/-- A power of ten, with its sign and digits, or nothing. -/
inductive ExponentText : List Char → Option (Bool × List Char) → Prop where
  | none : ExponentText [] none
  | unsigned {e : Char} {ds : List Char} : e = 'e' ∨ e = 'E' → IsDigits ds →
      ExponentText (e :: ds) (some (false, ds))
  | plus {e : Char} {ds : List Char} : e = 'e' ∨ e = 'E' → IsDigits ds →
      ExponentText (e :: '+' :: ds) (some (false, ds))
  | minus {e : Char} {ds : List Char} : e = 'e' ∨ e = 'E' → IsDigits ds →
      ExponentText (e :: '-' :: ds) (some (true, ds))

/-- The parts of a number in their order. Only a zero alone begins with a zero. -/
inductive NumberText.Spelled : NumberText → List Char → Prop where
  | mk (negative : Bool) {whole fraction f e : List Char} {exponent : Option (Bool × List Char)} :
      IsDigits whole → (whole.head? = some '0' → whole = ['0']) → FractionText f fraction →
      ExponentText e exponent → Spelled ⟨negative, whole, fraction, exponent⟩
        ((if negative then ['-'] else []) ++ (whole ++ (f ++ e)))

def isNumberPart (c : Char) : Bool :=
  c.isDigit || c == '.' || c == 'e' || c == 'E'

/-- A number does not go on with the text. -/
abbrev EndsNumber (rest : List Char) : Prop :=
  EndsRun isNumberPart rest

namespace NumberText

variable {s ds rest : List Char}

theorem digits?_run (digits : IsDigits ds) (ends : EndsRun Char.isDigit rest) :
    digits? (ds ++ rest) = some (ds, rest) := by
  obtain ⟨nonempty, run⟩ := digits
  unfold digits?
  rw [takeWhile_run run ends, dropWhile_run run ends]
  cases ds with
  | nil => exact absurd rfl nonempty
  | cons c ds => rfl

theorem whole?_run (digits : IsDigits ds) (zero : ds.head? = some '0' → ds = ['0'])
    (ends : EndsRun Char.isDigit rest) : whole? (ds ++ rest) = some (ds, rest) := by
  have alone : ¬ (1 < ds.length ∧ ds.head? = some '0') := by
    rintro ⟨long, first⟩
    simp [zero first] at long
  simp [whole?, digits?_run digits ends, alone]

theorem endsRun_isDigit (ends : EndsNumber rest) : EndsRun Char.isDigit rest := by
  intro c first
  have other := ends c first
  simp only [isNumberPart, Bool.or_eq_false_iff] at other
  exact other.1.1.1

theorem fraction?_text {f : List Char} (fraction : FractionText f ds)
    (ends : EndsRun (fun c => c.isDigit || c == '.') rest) : fraction? (f ++ rest) = some (ds, rest) := by
  cases fraction with
  | none =>
    rw [List.nil_append]
    unfold fraction?
    split
    · exact absurd (ends '.' rfl) (by decide)
    · rfl
  | point digits =>
    refine digits?_run digits fun c first => ?_
    have other := ends c first
    simp only [Bool.or_eq_false_iff] at other
    exact other.1

theorem exponent?_text {e : List Char} {exponent : Option (Bool × List Char)}
    (text : ExponentText e exponent) (ends : EndsNumber rest) :
    exponent? (e ++ rest) = some (exponent, rest) := by
  have stop := endsRun_isDigit ends
  cases text with
  | none =>
    rw [List.nil_append]
    unfold exponent?
    split
    · exact absurd (ends 'e' rfl) (by decide)
    · exact absurd (ends 'E' rfl) (by decide)
    · rfl
  | @unsigned _ ds letter digits =>
    have number : exponentDigits? (ds ++ rest) = some ((false, ds), rest) := by
      have digit : ∀ c ∈ (ds ++ rest).head?, c.isDigit := by
        obtain ⟨nonempty, run⟩ := digits
        obtain ⟨c, ds, rfl⟩ := List.exists_cons_of_ne_nil nonempty
        exact fun d first => Option.some.inj first ▸ run c List.mem_cons_self
      unfold exponentDigits?
      split
      · exact absurd (digit '+' (by simp_all)) (by decide)
      · exact absurd (digit '-' (by simp_all)) (by decide)
      · rw [digits?_run digits stop]
        rfl
    rcases letter with rfl | rfl <;> simp [exponent?, number]
  | plus letter digits =>
    rcases letter with rfl | rfl <;> simp [exponent?, exponentDigits?, digits?_run digits stop]
  | minus letter digits =>
    rcases letter with rfl | rfl <;> simp [exponent?, exponentDigits?, digits?_run digits stop]

theorem endsRun_exponent {e : List Char} {exponent : Option (Bool × List Char)}
    (text : ExponentText e exponent) (ends : EndsNumber rest) :
    EndsRun (fun c => c.isDigit || c == '.') (e ++ rest) := by
  cases text with
  | none =>
    intro c first
    have other := ends c first
    simp only [isNumberPart, Bool.or_eq_false_iff] at other ⊢
    exact other.1.1
  | unsigned letter | plus letter | minus letter =>
    rcases letter with rfl | rfl <;> exact endsRun_cons.mpr (by decide)

theorem read?_text (negative : Bool) {whole fraction f e : List Char}
    {exponent : Option (Bool × List Char)} (digits : IsDigits whole)
    (zero : whole.head? = some '0' → whole = ['0']) (point : FractionText f fraction)
    (power : ExponentText e exponent) (ends : EndsNumber rest) :
    read? negative (whole ++ (f ++ (e ++ rest))) = some (⟨negative, whole, fraction, exponent⟩, rest) := by
  have later := endsRun_exponent power ends
  have stop : EndsRun Char.isDigit (f ++ (e ++ rest)) := by
    cases point with
    | none =>
      intro c first
      have other := later c first
      simp only [Bool.or_eq_false_iff] at other
      exact other.1
    | point _ => exact endsRun_cons.mpr (by decide)
  simp [read?, whole?_run digits zero stop, fraction?_text point later, exponent?_text power ends]

theorem digits_of_digits? (read : digits? s = some (ds, rest)) : IsDigits ds ∧ s = ds ++ rest := by
  unfold digits? at read
  split at read
  · cases read
  · next some =>
    cases read
    exact ⟨⟨some, fun c member => List.mem_takeWhile_imp member⟩, List.takeWhile_append_dropWhile.symm⟩

theorem digits_of_whole? (read : whole? s = some (ds, rest)) :
    IsDigits ds ∧ (ds.head? = some '0' → ds = ['0']) ∧ s = ds ++ rest := by
  unfold whole? at read
  simp only [Option.bind_eq_bind, Option.bind_eq_some_iff] at read
  obtain ⟨⟨_, _⟩, given, alone⟩ := read
  obtain ⟨digits, rfl⟩ := digits_of_digits? given
  split at alone
  · cases alone
  · next single =>
    cases alone
    refine ⟨digits, fun zero => ?_, rfl⟩
    obtain ⟨c, ds, rfl⟩ := List.exists_cons_of_ne_nil digits.1
    cases ds with
    | nil => cases zero; rfl
    | cons d ds => exact absurd ⟨by simp, zero⟩ single

theorem text_of_fraction? (read : fraction? s = some (ds, rest)) :
    ∃ f, FractionText f ds ∧ s = f ++ rest := by
  unfold fraction? at read
  split at read
  · obtain ⟨digits, rfl⟩ := digits_of_digits? read
    exact ⟨_, .point digits, rfl⟩
  · cases read
    exact ⟨[], .none, rfl⟩

theorem text_of_exponentDigits? {e : Char} {exponent : Bool × List Char} (letter : e = 'e' ∨ e = 'E')
    (read : exponentDigits? s = some (exponent, rest)) :
    ∃ text, ExponentText (e :: text) (some exponent) ∧ s = text ++ rest := by
  unfold exponentDigits? at read
  split at read <;>
    obtain ⟨⟨_, _⟩, given, ⟨⟩⟩ := Option.map_eq_some_iff.mp read <;>
    obtain ⟨digits, rfl⟩ := digits_of_digits? given
  · exact ⟨_, .plus letter digits, rfl⟩
  · exact ⟨_, .minus letter digits, rfl⟩
  · exact ⟨_, .unsigned letter digits, rfl⟩

theorem text_of_exponent? {exponent : Option (Bool × List Char)}
    (read : exponent? s = some (exponent, rest)) : ∃ e, ExponentText e exponent ∧ s = e ++ rest := by
  unfold exponent? at read
  split at read
  · obtain ⟨⟨_, _⟩, given, ⟨⟩⟩ := Option.map_eq_some_iff.mp read
    obtain ⟨text, spelled, rfl⟩ := text_of_exponentDigits? (.inl rfl) given
    exact ⟨_, spelled, rfl⟩
  · obtain ⟨⟨_, _⟩, given, ⟨⟩⟩ := Option.map_eq_some_iff.mp read
    obtain ⟨text, spelled, rfl⟩ := text_of_exponentDigits? (.inr rfl) given
    exact ⟨_, spelled, rfl⟩
  · cases read
    exact ⟨[], .none, rfl⟩

theorem spelled_of_read? {negative : Bool} {t : NumberText} (read : read? negative s = some (t, rest)) :
    ∃ text, t.Spelled ((if negative then ['-'] else []) ++ text) ∧ s = text ++ rest := by
  unfold read? at read
  simp only [Option.bind_eq_bind, Option.bind_eq_some_iff] at read
  obtain ⟨⟨_, _⟩, whole, ⟨_, _⟩, fraction, ⟨_, _⟩, exponent, ⟨⟩⟩ := read
  obtain ⟨digits, zero, rfl⟩ := digits_of_whole? whole
  obtain ⟨f, point, rfl⟩ := text_of_fraction? fraction
  obtain ⟨e, power, rfl⟩ := text_of_exponent? exponent
  exact ⟨_, .mk negative digits zero point power, by simp⟩

end NumberText

end FailureIntake.Json
