import FailureIntake.Json.Writer
import FailureIntake.Proofs.Json.Grammar

/-! JSON values survive their text. What is written of a value is one of the texts that spell it, the
one without blanks. -/
namespace FailureIntake.Json

/-- A whole value without numbers, and with a text for each key. -/
inductive Value.Exact : Value → Prop where
  | null : Exact .null
  | bool (b : Bool) : Exact (.bool b)
  | string (s : String) : Exact (.string (some s))
  | array {items : List Value} : (∀ v ∈ items, Exact v) → Exact (.array items true)
  | object {members : List (Option String × Value)} :
      (∀ m ∈ members, m.1.isSome) → (∀ m ∈ members, Exact m.2) → Exact (.object members true)

/-- A text as it stands, without blanks. -/
def Padded.bare (s : List Char) : Padded where
  before := []
  core := s
  after := []
  blank_before := List.forall_mem_nil _
  blank_after := List.forall_mem_nil _

@[simp] theorem Padded.text_bare (s : List Char) : (bare s).text = s := by
  simp [bare, text]

/-- The escape of a control character by its number. -/
theorem StringText.control {n : Nat} (control : n < 32) {s : List Char} {ns : List Nat}
    (text : StringText s ns) : StringText ('\\' :: 'u' :: '0' :: '0' :: Nat.digitChar (n / 16) ::
      Nat.digitChar (n % 16) :: s) (n :: ns) := by
  have zero : HexDigit '0' 0 := ⟨by decide, .inl rfl⟩
  have high : HexDigit (Nat.digitChar (n / 16)) (n / 16) := ⟨by omega, .inl rfl⟩
  have low : HexDigit (Nat.digitChar (n % 16)) (n % 16) := ⟨by omega, .inl rfl⟩
  have whole : ((0 * 16 + 0) * 16 + n / 16) * 16 + n % 16 = n := by omega
  have digits := number zero zero high low text
  rwa [whole] at digits

/-- What a character is written as stands for the character. -/
theorem StringText.escapeChar (c : Char) {s : List Char} {ns : List Nat} (text : StringText s ns) :
    StringText (Json.escapeChar c ++ s) (c.toNat :: ns) := by
  unfold Json.escapeChar
  split_ifs with quote backslash back feed line carriage tab control
  · exact short (by simp [quote, shortEscapes]) text
  · exact short (by simp [backslash, shortEscapes]) text
  · exact short (by simp [back, shortEscapes]) text
  · exact short (by simp [feed, shortEscapes]) text
  · exact short (by simp [line, shortEscapes]) text
  · exact short (by simp [carriage, shortEscapes]) text
  · exact short (by simp [tab, shortEscapes]) text
  · exact text.control control
  · exact plain quote backslash (Nat.not_lt.mp control) text

theorem StringText.written (s : List Char) : StringText (s.flatMap Json.escapeChar) (s.map Char.toNat) := by
  induction s with
  | nil => exact nil
  | cons c s ih => exact escapeChar c ih

theorem Pairs.characters (s : List Char) : Pairs (s.map Char.toNat) s := by
  induction s with
  | nil => exact nil
  | cons c s ih => exact char ih

theorem StringLiteral.written (s : String) : StringLiteral (writeString s) (some s) := by
  have literal := mk (StringText.written s.toList)
  rwa [(Pairs.characters s.toList).characters?, Option.map_some, String.ofList_toList] at literal

namespace Value

theorem itemsText_eq (items : List Value) : itemsText items = commaSeparated (items.map text) := by
  induction items with
  | nil => rfl
  | cons v more ih =>
    cases more with
    | nil => exact (commaSeparated_singleton v.text).symm
    | cons w more =>
      simp only [List.map_cons] at ih ⊢
      rw [commaSeparated_cons_cons, ← ih]
      rfl

theorem membersText_eq (members : List (Option String × Value)) : membersText members =
    commaSeparated (members.map fun m => stringText m.1 ++ ':' :: m.2.text) := by
  induction members with
  | nil => rfl
  | cons m more ih =>
    cases more with
    | nil => exact (commaSeparated_singleton _).symm
    | cons k more =>
      simp only [List.map_cons] at ih ⊢
      rw [commaSeparated_cons_cons, ← ih]
      rfl

end Value

namespace Value.Exact

theorem ofMembers {members : List (String × Value)} (each : ∀ m ∈ members, m.2.Exact) :
    (Value.ofMembers members).Exact := by
  apply object
  · intro m member
    obtain ⟨given, -, rfl⟩ := List.mem_map.mp member
    rfl
  · intro m member
    obtain ⟨given, among, rfl⟩ := List.mem_map.mp member
    exact each given among

/-- The text of the value spells it. -/
theorem spells {v : Value} (exact : v.Exact) : Spells v.text v := by
  induction exact with
  | null => exact .null
  | bool b =>
    cases b with
    | true => exact .yes
    | false => exact .no
  | string s => exact .string (.written s)
  | @array items _ ih =>
    rw [text, itemsText_eq]
    cases items with
    | nil => exact .emptyArray (List.forall_mem_nil _)
    | cons v more =>
      let item (v : Value) : Padded × Value := (.bare v.text, v)
      have each : ∀ i ∈ (v :: more).map item, Spells i.1.core i.2 := List.forall_mem_map.mpr ih
      have whole := Spells.array (by simp) each
      simpa only [List.map_map, Function.comp_def, item, Padded.text_bare, List.map_id',
        List.cons_append] using whole
  | @object members keys _ ih =>
    rw [text, membersText_eq]
    cases members with
    | nil => exact .emptyObject (List.forall_mem_nil _)
    | cons first more =>
      let entry (m : Option String × Value) : MemberText × Option String × Value :=
        (⟨.bare (stringText m.1), .bare m.2.text⟩, m)
      have literals : ∀ m ∈ (first :: more).map entry, StringLiteral m.1.key.core m.2.1 := by
        refine List.forall_mem_map.mpr fun m member => ?_
        change StringLiteral (stringText m.1) m.1
        obtain ⟨key, given⟩ := Option.isSome_iff_exists.mp (keys m member)
        rw [given]
        exact .written key
      have each : ∀ m ∈ (first :: more).map entry, Spells m.1.value.core m.2.2 :=
        List.forall_mem_map.mpr ih
      have whole := Spells.object (by simp) literals each
      simpa only [List.map_map, Function.comp_def, entry, MemberText.text, Padded.text_bare, List.map_id',
        List.cons_append] using whole

/-- Reading the text of a value gives the value back and leaves nothing over. -/
theorem ofText_text {v : Value} (exact : v.Exact) : Value.ofText v.text = (v, true) := by
  have read := Spells.ofText (p := .bare v.text) exact.spells
  rwa [Padded.text_bare] at read

end Value.Exact

end FailureIntake.Json
