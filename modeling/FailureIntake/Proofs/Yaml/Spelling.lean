import FailureIntake.Yaml.Scalar.Value
import Mathlib.Logic.Basic

/-! How plain scalars spell truth values and counts. No text spells values of two kinds, so a text is
read as a count exactly if it stands for a number that has no minus sign. -/
namespace FailureIntake.Yaml.ScalarValue

/-- The words for a truth value. -/
def boolWords : Bool → List String
  | true => ["true", "True", "TRUE"]
  | false => ["false", "False", "FALSE"]

/-- The text is a word for the truth value. -/
def SpellsBool (text : List Char) (b : Bool) : Prop :=
  String.ofList text ∈ boolWords b

/-- The text is the number, and has no minus sign. -/
def SpellsCount (text : List Char) (n : UInt64) : Prop :=
  ofPlain text = .integer n.toNat ∧ text.head? ≠ some '-'

variable {text : List Char}

theorem unsigned?_minus (r : List Char) : unsigned? ('-' :: r) = none := by
  simp [unsigned?, magnitude?, natural?, isZeroPadded, Json.hexValue?]

theorem bool?_eq_some {b : Bool} : bool? text = some b ↔ SpellsBool text b := by
  unfold bool? SpellsBool
  generalize String.ofList text = word
  have apart : ∀ w ∈ boolWords true, w ∉ boolWords false := by decide
  change (if (boolWords true).contains word then some true
    else if (boolWords false).contains word then some false else none) = some b ↔ _
  simp only [List.contains_iff_mem]
  by_cases yes : word ∈ boolWords true
  · cases b <;> simp [yes, apart word yes]
  · cases b <;> simp [yes]

theorem SpellsBool.unique {b c : Bool} (left : SpellsBool text b) (right : SpellsBool text c) : b = c := by
  rw [← bool?_eq_some] at left right
  exact Option.some.inj (left.symm.trans right)

/-- No word for something else is a number. -/
theorem unsigned?_of_word (word : text = [] ∨ isNullWord text = true ∨ ∃ b, bool? text = some b) :
    unsigned? text = none := by
  have all : ∀ w ∈ "" :: ["null", "Null", "NULL", "~"] ++ boolWords true ++ boolWords false,
      unsigned? w.toList = none := by decide +kernel
  have member : String.ofList text ∈
      "" :: ["null", "Null", "NULL", "~"] ++ boolWords true ++ boolWords false := by
    rcases word with rfl | null | ⟨_ | _, word⟩
    · exact List.mem_cons_self
    · exact List.mem_append_left _ (List.mem_append_left _ (List.mem_cons_of_mem _
        (List.contains_iff_mem.mp null)))
    · exact List.mem_append_right _ (bool?_eq_some.mp word)
    · exact List.mem_append_left _ (List.mem_append_right _ (bool?_eq_some.mp word))
  simpa using all _ member

theorem integer?_of_no_minus (plain : text.head? ≠ some '-') :
    integer? text = (unsigned? text).bind fun n => if n < Nat.pow 2 128 then some (n : Int) else none := by
  unfold integer?
  split
  · exact absurd rfl plain
  · rfl

theorem ofPlain_eq_integer {n : Int} (plain : text.head? ≠ some '-') :
    ofPlain text = .integer n ↔ integer? text = some n := by
  have nothing (word : text = [] ∨ isNullWord text = true ∨ ∃ b, bool? text = some b) :
      integer? text = none := by
    rw [integer?_of_no_minus plain, unsigned?_of_word word]
    rfl
  unfold ofPlain
  split
  · next null =>
    rw [Bool.or_eq_true, List.isEmpty_iff] at null
    simp [nothing (null.imp_right .inl)]
  · cases bool : bool? text with
    | some b => simp [nothing (.inr (.inr ⟨b, bool⟩))]
    | none =>
      cases integer? text with
      | some m => simp
      | none =>
        dsimp only
        split <;> simp

theorem word?_eq_some {n : UInt64} : word? text = some n ↔ SpellsCount text n := by
  unfold word? SpellsCount
  by_cases minus : text.head? = some '-'
  · obtain ⟨r, rfl⟩ := List.head?_eq_some_iff.mp minus
    simp [unsigned?_minus]
  · rw [ofPlain_eq_integer minus, integer?_of_no_minus minus]
    cases unsigned? text with
    | none => simp
    | some m =>
      simp only [Option.bind_some, Option.ite_none_right_eq_some, Option.some.injEq, Int.natCast_inj,
        and_iff_left minus]
      constructor
      · rintro ⟨small, rfl⟩
        exact ⟨Nat.lt_trans small (by decide), (UInt64.toNat_ofNat_of_lt' small).symm⟩
      · rintro ⟨_, rfl⟩
        exact ⟨n.toNat_lt, UInt64.ofNat_toNat⟩

theorem SpellsCount.unique {m n : UInt64} (left : SpellsCount text m) (right : SpellsCount text n) :
    m = n := by
  rw [← word?_eq_some] at left right
  exact Option.some.inj (left.symm.trans right)

end FailureIntake.Yaml.ScalarValue
