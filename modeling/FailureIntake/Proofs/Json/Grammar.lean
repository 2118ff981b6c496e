import FailureIntake.Json.Nesting
import FailureIntake.Proofs.Json.Lexemes

/-! The grammar of JSON texts, with blanks around every part. A text of the grammar takes the reader
from where a value is expected to where the value is accepted, whatever follows, so that containers
need only their items. -/
namespace FailureIntake.Json

open Text

theorem Token.read_digit {c : Char} (digit : c.isDigit) (r : List Char) :
    Token.read c r = Token.ofNumber false (c :: r) r := by
  unfold Token.read
  split
  case h_12 => rfl
  all_goals exact absurd digit (by decide)

/-- A number is one token, and its first character is not blank. -/
theorem NumberText.Spelled.read {t : NumberText} {s : List Char} (number : t.Spelled s) {rest : List Char}
    (ends : EndsNumber rest) : ∃ c r, s = c :: r ∧ Token.isBlank c = false ∧
      Token.read c (r ++ rest) = (.scalar (.number t.value?), rest) := by
  obtain ⟨negative, digits, zero, point, power⟩ := number
  have whole := fun negative => NumberText.read?_text negative digits zero point power ends
  cases negative with
  | true =>
    refine ⟨'-', _, rfl, rfl, ?_⟩
    simp [Token.read, Token.ofNumber, whole true]
  | false =>
    obtain ⟨c, ds, rfl⟩ := List.exists_cons_of_ne_nil digits.1
    have digit : c.isDigit := digits.2 c List.mem_cons_self
    refine ⟨c, _, rfl, ?_, ?_⟩
    · cases blank : Token.isBlank c with
      | false => rfl
      | true =>
        simp only [Token.isBlank, Bool.or_eq_true, beq_iff_eq] at blank
        rcases blank with ((rfl | rfl) | rfl) | rfl <;> exact absurd digit (by decide)
    · rw [Token.read_digit digit]
      have read := whole false
      simp only [List.cons_append] at read
      simp [Token.ofNumber, read]

/-- A part of a text with the blanks around it. -/
structure Padded where
  before : List Char
  core : List Char
  after : List Char
  blank_before : ∀ c ∈ before, Token.isBlank c
  blank_after : ∀ c ∈ after, Token.isBlank c

def Padded.text (p : Padded) : List Char :=
  p.before ++ (p.core ++ p.after)

/-- A member of an object as it stands in a text. -/
structure MemberText where
  key : Padded
  value : Padded

def MemberText.text (m : MemberText) : List Char :=
  m.key.text ++ ':' :: m.value.text

def commaSeparated (texts : List (List Char)) : List Char :=
  [','].intercalate texts

theorem commaSeparated_singleton (s : List Char) : commaSeparated [s] = s :=
  List.intercalate_singleton

theorem commaSeparated_cons_cons (s t : List Char) (texts : List (List Char)) :
    commaSeparated (s :: t :: texts) = s ++ ',' :: commaSeparated (t :: texts) := by
  rw [commaSeparated, List.intercalate_cons_cons, List.append_assoc]
  rfl

/-- A string with its quotes. There is no text for code points with half of a pair. -/
inductive StringLiteral : List Char → Option String → Prop where
  | mk {s : List Char} {ns : List Nat} : StringText s ns →
      StringLiteral ('"' :: (s ++ ['"'])) ((characters? ns).map String.ofList)

/-- The texts of a value. -/
inductive Spells : List Char → Value → Prop where
  | null : Spells ['n', 'u', 'l', 'l'] .null
  | yes : Spells ['t', 'r', 'u', 'e'] (.bool true)
  | no : Spells ['f', 'a', 'l', 's', 'e'] (.bool false)
  | number {t : NumberText} {s : List Char} : t.Spelled s → Spells s (.number t.value?)
  | string {s : List Char} {o : Option String} : StringLiteral s o → Spells s (.string o)
  | emptyArray {blank : List Char} : (∀ c ∈ blank, Token.isBlank c) →
      Spells ('[' :: (blank ++ [']'])) (.array [] true)
  | array {items : List (Padded × Value)} : items ≠ [] → (∀ i ∈ items, Spells i.1.core i.2) →
      Spells ('[' :: (commaSeparated (items.map fun i => i.1.text) ++ [']']))
        (.array (items.map Prod.snd) true)
  | emptyObject {blank : List Char} : (∀ c ∈ blank, Token.isBlank c) →
      Spells ('\x7b' :: (blank ++ ['\x7d'])) (.object [] true)
  | object {members : List (MemberText × Option String × Value)} : members ≠ [] →
      (∀ m ∈ members, StringLiteral m.1.key.core m.2.1) → (∀ m ∈ members, Spells m.1.value.core m.2.2) →
      Spells ('\x7b' :: (commaSeparated (members.map fun m => m.1.text) ++ ['\x7d']))
        (.object (members.map Prod.snd) true)

namespace Nesting

variable {n : Nesting} {c : Char} {s rest : List Char} {stack : List Open} {expected : Expected}

/-- Reads on through a text. -/
def feed (n : Nesting) (s : List Char) : Nesting :=
  (Token.split s).foldl step n

theorem feed_nil : n.feed [] = n := by
  rw [feed, Token.split]
  rfl

theorem feed_cons (solid : Token.isBlank c = false) :
    n.feed (c :: s) = (n.step (Token.read c s).1).feed (Token.read c s).2 := by
  rw [feed, Token.split, if_neg (by simp [solid]), List.foldl_cons]
  rfl

theorem step_begin {token : Token}
    (here : expected = .value ∨ expected = .firstItem) (opens : token ≠ .closeArray) :
    (reading stack expected).step token = begin stack token := by
  rcases here with rfl | rfl
  · rfl
  · cases token with
    | closeArray => exact absurd rfl opens
    | _ => rfl

theorem step_beginKey {token : Token}
    (here : expected = .key ∨ expected = .firstKey) (opens : token ≠ .closeObject) :
    (reading stack expected).step token = beginKey stack token := by
  rcases here with rfl | rfl
  · rfl
  · cases token with
    | closeObject => exact absurd rfl opens
    | _ => rfl

end Nesting

/-- Wherever a value may stand, the text takes the reader past the value, if no number goes on
after it. -/
def ReadsAs (s : List Char) (v : Value) : Prop :=
  ∀ (stack : List Open) (expected : Expected) (rest : List Char),
    expected = .value ∨ expected = .firstItem → EndsNumber rest →
      (Nesting.reading stack expected).feed (s ++ rest) = (Nesting.accept v stack).feed rest

namespace Nesting

variable {n : Nesting} {s rest : List Char} {v : Value}

theorem feed_blank (blank : ∀ c ∈ s, Token.isBlank c) : n.feed (s ++ rest) = n.feed rest := by
  induction s with
  | nil => rfl
  | cons c s ih =>
    rw [List.forall_mem_cons] at blank
    rw [List.cons_append, feed, Token.split, if_pos blank.1]
    exact ih blank.2

theorem endsNumber_blank (blank : ∀ c ∈ s, Token.isBlank c) (ends : EndsNumber rest) :
    EndsNumber (s ++ rest) := by
  cases s with
  | nil => exact ends
  | cons c s =>
    have first := blank c List.mem_cons_self
    simp only [Token.isBlank, Bool.or_eq_true, beq_iff_eq] at first
    rw [List.cons_append]
    rcases first with ((rfl | rfl) | rfl) | rfl <;> exact endsRun_cons.mpr (by decide)

theorem feed_scalar {c : Char} (solid : Token.isBlank c = false)
    (read : Token.read c (s ++ rest) = (.scalar v, rest)) (stack : List Open) {expected : Expected}
    (here : expected = .value ∨ expected = .firstItem) :
    (reading stack expected).feed (c :: s ++ rest) = (accept v stack).feed rest := by
  rw [List.cons_append, feed_cons solid, read, step_begin here (by simp)]
  rfl

theorem feed_padded {p : Padded} (reads : ReadsAs p.core v) (stack : List Open) {expected : Expected}
    (here : expected = .value ∨ expected = .firstItem) (ends : EndsNumber rest) :
    (reading stack expected).feed (p.text ++ rest) = (accept v stack).feed rest := by
  rw [Padded.text, List.append_assoc, List.append_assoc, feed_blank p.blank_before,
    reads stack expected _ here (endsNumber_blank p.blank_after ends), feed_blank p.blank_after]

theorem feed_literal {o : Option String} (literal : StringLiteral s o) :
    n.feed (s ++ rest) = (n.step (.scalar (.string o))).feed rest := by
  obtain ⟨text⟩ := literal
  rw [List.cons_append, feed_cons rfl, List.append_assoc, List.singleton_append]
  simp only [Token.read, text.readString?]

/-- The items of an open array, up to the bracket that closes it. -/
theorem feed_elements {items : List (Padded × Value)} (each : ∀ i ∈ items, ReadsAs i.1.core i.2)
    (nonempty : items ≠ []) (done : List Value) (stack : List Open) {expected : Expected}
    (here : expected = .value ∨ expected = .firstItem) :
    (reading (.array done :: stack) expected).feed
        (commaSeparated (items.map fun i => i.1.text) ++ ']' :: rest) =
      (accept (.array (done.reverse ++ items.map Prod.snd) true) stack).feed rest := by
  induction items generalizing done expected with
  | nil => exact absurd rfl nonempty
  | cons i more ih =>
    have first := each i List.mem_cons_self
    cases more with
    | nil =>
      rw [List.map_singleton, commaSeparated_singleton,
        feed_padded first _ here (endsRun_cons.mpr (by decide)), accept, feed_cons rfl]
      simp [fill, Token.read, step, close, Open.value]
    | cons j more =>
      have tail := ih (fun k member => each k (List.mem_cons_of_mem i member))
        (List.cons_ne_nil j more) (i.2 :: done) (.inl rfl)
      simp only [List.map_cons] at tail ⊢
      rw [commaSeparated_cons_cons, List.append_assoc, List.cons_append]
      rw [feed_padded first _ here (endsRun_cons.mpr (by decide)), accept, feed_cons rfl]
      simpa [fill, Token.read, step] using tail

theorem feed_entry {m : MemberText} {key : Option String} (literal : StringLiteral m.key.core key)
    (reads : ReadsAs m.value.core v) (done : List (Option String × Value)) (stack : List Open)
    {expected : Expected} (here : expected = .key ∨ expected = .firstKey) (ends : EndsNumber rest) :
    (reading (.object done :: stack) expected).feed (m.text ++ rest) =
      (reading (.object ((key, v) :: done) :: stack) .next).feed rest := by
  have keyed : (reading (.object done :: stack) expected).step (.scalar (.string key)) =
      reading (.member done key :: stack) .colon := step_beginKey here (by simp)
  rw [MemberText.text, Padded.text]
  simp only [List.append_assoc, List.cons_append]
  rw [feed_blank m.key.blank_before, feed_literal literal, keyed, feed_blank m.key.blank_after,
    feed_cons rfl]
  exact feed_padded reads _ (.inl rfl) ends

/-- The members of an open object, up to the brace that closes it. -/
theorem feed_entries {members : List (MemberText × Option String × Value)}
    (keys : ∀ m ∈ members, StringLiteral m.1.key.core m.2.1)
    (each : ∀ m ∈ members, ReadsAs m.1.value.core m.2.2) (nonempty : members ≠ [])
    (done : List (Option String × Value)) (stack : List Open) {expected : Expected}
    (here : expected = .key ∨ expected = .firstKey) :
    (reading (.object done :: stack) expected).feed
        (commaSeparated (members.map fun m => m.1.text) ++ '\x7d' :: rest) =
      (accept (.object (done.reverse ++ members.map Prod.snd) true) stack).feed rest := by
  induction members generalizing done expected with
  | nil => exact absurd rfl nonempty
  | cons m more ih =>
    have first {rest : List Char} (ends : EndsNumber rest) :=
      feed_entry (keys m List.mem_cons_self) (each m List.mem_cons_self) done stack here ends
    cases more with
    | nil =>
      rw [List.map_singleton, commaSeparated_singleton,
        first (endsRun_cons.mpr (by decide)), feed_cons rfl]
      simp [Token.read, step, close, Open.value]
    | cons k more =>
      have tail := ih (fun l member => keys l (List.mem_cons_of_mem m member))
        (fun l member => each l (List.mem_cons_of_mem m member)) (List.cons_ne_nil k more)
        (m.2 :: done) (.inl rfl)
      simp only [List.map_cons] at tail ⊢
      rw [commaSeparated_cons_cons, List.append_assoc, List.cons_append]
      rw [first (endsRun_cons.mpr (by decide)), feed_cons rfl]
      simpa [Token.read, step] using tail

end Nesting

/-- A text of the grammar is read as the value that it spells. -/
theorem Spells.readsAs {s : List Char} {v : Value} (spells : Spells s v) : ReadsAs s v := by
  induction spells with
  | null | yes | no => exact fun stack _ _ here _ => Nesting.feed_scalar rfl rfl stack here
  | number number =>
    intro stack expected rest here ends
    obtain ⟨c, r, rfl, solid, read⟩ := number.read ends
    exact Nesting.feed_scalar solid read stack here
  | string literal =>
    intro stack expected rest here _
    rw [Nesting.feed_literal literal, Nesting.step_begin here (by simp)]
    rfl
  | emptyArray blank =>
    intro stack expected rest here _
    rw [List.cons_append, Nesting.feed_cons rfl, List.append_assoc]
    simp only [Token.read]
    rw [Nesting.step_begin here (by simp), Nesting.feed_blank blank, List.singleton_append,
      Nesting.feed_cons rfl]
    rfl
  | array nonempty _ ih =>
    intro stack expected rest here _
    rw [List.cons_append, Nesting.feed_cons rfl, List.append_assoc, List.singleton_append]
    simp only [Token.read]
    rw [Nesting.step_begin here (by simp)]
    exact Nesting.feed_elements ih nonempty [] stack (.inr rfl)
  | emptyObject blank =>
    intro stack expected rest here _
    rw [List.cons_append, Nesting.feed_cons rfl, List.append_assoc]
    simp only [Token.read]
    rw [Nesting.step_begin here (by simp), Nesting.feed_blank blank, List.singleton_append,
      Nesting.feed_cons rfl]
    rfl
  | object nonempty keys _ ih =>
    intro stack expected rest here _
    rw [List.cons_append, Nesting.feed_cons rfl, List.append_assoc, List.singleton_append]
    simp only [Token.read]
    rw [Nesting.step_begin here (by simp)]
    exact Nesting.feed_entries keys ih nonempty [] stack (.inr rfl)

/-- A whole text is a value with blanks around it. -/
theorem Spells.ofText {p : Padded} {v : Value} (spells : Spells p.core v) :
    Value.ofText p.text = (v, true) := by
  have read := Nesting.feed_padded spells.readsAs [] (.inl rfl) endsRun_nil
  rw [List.append_nil, Nesting.feed_nil] at read
  exact congrArg Nesting.result read

theorem Value.itemsWhole_iff {items : List Value} : itemsWhole items ↔ ∀ v ∈ items, v.isWhole := by
  induction items with
  | nil => simp [itemsWhole]
  | cons v rest ih => simp [itemsWhole, ih]

theorem Value.membersWhole_iff {members : List (Option String × Value)} :
    membersWhole members ↔ ∀ m ∈ members, m.2.isWhole := by
  induction members with
  | nil => simp [membersWhole]
  | cons m rest ih => simp [membersWhole, ih]

theorem Spells.isWhole {s : List Char} {v : Value} (spells : Spells s v) : v.isWhole := by
  induction spells with
  | null | yes | no | number _ | string _ | emptyArray _ | emptyObject _ => rfl
  | array _ _ ih => simpa [Value.isWhole, Value.itemsWhole_iff] using fun v p => ih (p, v)
  | object _ _ _ ih => simpa [Value.isWhole, Value.membersWhole_iff] using fun k v m => ih (m, k, v)

end FailureIntake.Json
