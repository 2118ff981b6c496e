import FailureIntake.Proofs.Config.Pieces
import Mathlib.Data.List.Forall2

/-! Interpolation is one pass over the pieces of a text. The rules for a single reference are given
apart from the program, as what a piece stands for and why it may stand for nothing. A text whose
dollars are doubled has no references, and stands for the text itself. -/
namespace FailureIntake.Config

variable {env : Environment} {p : Piece} {ps : List Piece}

/-- A line feed or a carriage return. -/
def HasLineEnd (value : String) : Prop :=
  '\n' ∈ value.toList ∨ '\r' ∈ value.toList

/-- What takes the place of a piece. A value counts as given even if it is empty, but not for a
fallback that is there for empty values, too. -/
inductive Stands (env : Environment) : Piece → List Char → Prop where
  | literal {c : Char} : Stands env (.literal c) [c]
  | dollar : Stands env .dollar ['$']
  | value {name : List Char} {fallback : Option Fallback} {value : String} :
      env.text? (String.ofList name) = some value → ¬ HasLineEnd value →
      (∀ d ∈ fallback, d.onEmpty = true → value ≠ "") →
      Stands env (.reference name fallback) value.toList
  | orEmpty {name text : List Char} : env.text? (String.ofList name) = some "" →
      Stands env (.reference name (some ⟨true, text⟩)) text
  | orUnset {name : List Char} {d : Fallback} : env.text? (String.ofList name) = none →
      Stands env (.reference name (some d)) d.text

/-- Why nothing can take the place of a piece. -/
inductive Unresolved (env : Environment) : Piece → String → Prop where
  | lineEnd {name : List Char} {fallback : Option Fallback} {value : String} :
      env.text? (String.ofList name) = some value → HasLineEnd value →
      Unresolved env (.reference name fallback)
        ("environment variable '" ++ String.ofList name ++ "' contains newlines, which is not allowed")
  | notSet {name : List Char} : env.text? (String.ofList name) = none →
      Unresolved env (.reference name none)
        ("environment variable '" ++ String.ofList name ++ "' is not set")

theorem hasLineEnd_iff {value : String} :
    (value.toList.any fun c => c == '\n' || c == '\r') = true ↔ HasLineEnd value := by
  simp only [List.any_eq_true, Bool.or_eq_true, beq_iff_eq, HasLineEnd]
  constructor
  · rintro ⟨c, member, rfl | rfl⟩
    · exact .inl member
    · exact .inr member
  · rintro (member | member)
    · exact ⟨_, member, .inl rfl⟩
    · exact ⟨_, member, .inr rfl⟩

namespace Piece

/-- A piece has a value, and stands for it, or an error, which says why it stands for nothing. -/
theorem value_cases (env : Environment) (p : Piece) :
    (∃ cs, p.value env = .ok cs ∧ Stands env p cs) ∨
      ∃ e, p.value env = .error e ∧ Unresolved env p e.message := by
  cases p with
  | literal c => exact .inl ⟨[c], rfl, .literal⟩
  | dollar => exact .inl ⟨['$'], rfl, .dollar⟩
  | reference name fallback =>
    simp only [value, resolve]
    cases given : env.text? (String.ofList name) with
    | none =>
      cases fallback with
      | none => exact .inr ⟨_, rfl, .notSet given⟩
      | some d => exact .inl ⟨_, rfl, .orUnset given⟩
    | some value =>
      by_cases lineEnd : HasLineEnd value
      · have found := hasLineEnd_iff.mpr lineEnd
        exact .inr ⟨_, if_pos found, .lineEnd given lineEnd⟩
      · have absent := lineEnd ∘ hasLineEnd_iff.mp
        refine .inl ?_
        cases fallback with
        | none => exact ⟨_, if_neg absent, .value given lineEnd nofun⟩
        | some d =>
          obtain ⟨onEmpty, text⟩ := d
          by_cases instead : onEmpty = true ∧ value = ""
          · obtain ⟨rfl, rfl⟩ := instead
            exact ⟨text, rfl, .orEmpty given⟩
          · refine ⟨value.toList, ?_, .value given lineEnd ?_⟩
            · have kept : ¬ (onEmpty && value.toList.isEmpty) = true := by simpa using instead
              dsimp only
              rw [if_neg absent, if_neg kept]
            · rintro d ⟨⟩ asked empty
              exact instead ⟨asked, empty⟩

/-- The rules exclude each other. -/
theorem stands_unresolved {cs : List Char} {message : String} (stands : Stands env p cs) :
    ¬ Unresolved env p message := by
  intro unresolved
  cases stands with
  | literal | dollar => cases unresolved
  | value given plain _ =>
    cases unresolved with
    | lineEnd other lineEnd =>
      cases given.symm.trans other
      exact plain lineEnd
    | notSet unset => cases given.symm.trans unset
  | orEmpty given =>
    cases unresolved with
    | lineEnd other lineEnd =>
      cases given.symm.trans other
      simp [HasLineEnd] at lineEnd
  | orUnset unset =>
    cases unresolved with
    | lineEnd given => cases unset.symm.trans given

theorem stands_inj {cs ds : List Char} (stands : Stands env p cs) (other : Stands env p ds) :
    cs = ds := by
  cases stands with
  | literal | dollar =>
    cases other
    rfl
  | value given _ whole =>
    cases other with
    | value again => exact congrArg String.toList (Option.some.inj (given.symm.trans again))
    | orEmpty again =>
      cases given.symm.trans again
      exact absurd rfl (whole _ rfl rfl)
    | orUnset unset => cases given.symm.trans unset
  | orEmpty given =>
    cases other with
    | value again _ whole =>
      cases given.symm.trans again
      exact absurd rfl (whole _ rfl rfl)
    | orEmpty => rfl
    | orUnset unset => cases given.symm.trans unset
  | orUnset unset =>
    cases other with
    | value given => cases unset.symm.trans given
    | orEmpty given => cases unset.symm.trans given
    | orUnset => rfl

theorem value_eq_ok {cs : List Char} : p.value env = .ok cs ↔ Stands env p cs := by
  rcases value_cases env p with ⟨ds, value, stands⟩ | ⟨e, value, unresolved⟩ <;> rw [value]
  · constructor
    · rintro ⟨⟩
      exact stands
    · intro other
      rw [stands_inj stands other]
  · exact ⟨nofun, fun stands => absurd unresolved (stands_unresolved stands)⟩

end Piece

theorem values_eq_ok {parts : List (List Char)} :
    ps.map (Piece.value env) = parts.map .ok ↔ List.Forall₂ (Stands env) ps parts := by
  rw [← List.forall₂_eq_eq_eq, List.forall₂_map_left_iff, List.forall₂_map_right_iff]
  simp only [Piece.value_eq_ok]

theorem referenceErrors_cons_ok (cs : List Char)
    (values : List (Except ReferenceError (List Char))) :
    referenceErrors (.ok cs :: values) = referenceErrors values :=
  rfl

theorem referenceErrors_eq_nil {values : List (Except ReferenceError (List Char))} :
    referenceErrors values = [] ↔ ∃ parts : List (List Char), values = parts.map .ok := by
  induction values with
  | nil => exact ⟨fun _ => ⟨[], rfl⟩, fun _ => rfl⟩
  | cons value rest ih =>
    cases value with
    | error e =>
      constructor
      · nofun
      · rintro ⟨_ | ⟨d, parts⟩, same⟩ <;> cases same
    | ok cs =>
      rw [referenceErrors_cons_ok, ih]
      constructor
      · rintro ⟨parts, rfl⟩
        exact ⟨cs :: parts, rfl⟩
      · rintro ⟨_ | ⟨d, parts⟩, same⟩
        · cases same
        · exact ⟨parts, (List.cons.inj same).2⟩

theorem replaced_ok (parts : List (List Char)) : replaced (parts.map .ok) = parts.flatten := by
  rw [replaced, List.flatMap_map, List.flatten_eq_flatMap]
  rfl

theorem interpolate_eq_ok {text out : String} :
    interpolate env text = .ok out ↔ ∃ parts,
      List.Forall₂ (Stands env) (Piece.split text.toList) parts ∧ out = String.ofList parts.flatten := by
  dsimp only [interpolate]
  split
  · next all =>
    obtain ⟨parts, values⟩ := referenceErrors_eq_nil.mp all
    rw [values, replaced_ok]
    constructor
    · rintro ⟨⟩
      exact ⟨parts, values_eq_ok.mp values, rfl⟩
    · rintro ⟨others, stand, rfl⟩
      have same := values.symm.trans (values_eq_ok.mpr stand)
      rw [← List.map_injective_iff.mpr (fun _ _ => Except.ok.inj) same]
  · next some_error =>
    constructor
    · nofun
    · rintro ⟨parts, stand, _⟩
      exact absurd (referenceErrors_eq_nil.mpr ⟨parts, values_eq_ok.mpr stand⟩) some_error

/-- A dollar is written twice, every other character once. -/
def escapeDollar (c : Char) : List Char :=
  if c = '$' then ['$', '$'] else [c]

/-- The text with each of its dollars doubled. -/
def escaped (s : String) : String :=
  String.ofList (s.toList.flatMap escapeDollar)

/-- The piece that an escaped character is cut as. -/
def Piece.ofEscaped (c : Char) : Piece :=
  if c = '$' then .dollar else .literal c

/-- Escaped dollars are paired from the left, so none of them is left to begin a reference, whatever
follows. -/
theorem Cut.escaped_append {rest : List Char} {ps : List Piece} (cut : Cut rest ps) (s : List Char) :
    Cut (s.flatMap escapeDollar ++ rest) (s.map Piece.ofEscaped ++ ps) := by
  induction s with
  | nil => exact cut
  | cons c s ih =>
    rw [List.flatMap_cons, List.map_cons, escapeDollar, Piece.ofEscaped]
    by_cases dollar : c = '$'
    · rw [if_pos dollar, if_pos dollar]
      exact .marked .dollar ih
    · rw [if_neg dollar, if_neg dollar]
      refine .literal (fun p rest marked => ?_) ih
      obtain ⟨_, same⟩ := Piece.marked_dollar marked
      exact dollar (List.cons.inj same).1

theorem Piece.stands_ofEscaped (c : Char) : Stands env (ofEscaped c) [c] := by
  unfold ofEscaped
  split
  · next dollar =>
    rw [dollar]
    exact .dollar
  · exact .literal

/-- Every text can be written literally, also one that looks like a reference: with its dollars doubled
it stands for itself in every environment. -/
theorem interpolate_escaped (env : Environment) (s : String) :
    interpolate env (escaped s) = .ok s := by
  have cut : Cut (escaped s).toList (s.toList.map Piece.ofEscaped) := by
    have alone := Cut.nil.escaped_append s.toList
    rwa [List.append_nil, List.append_nil, ← String.toList_ofList (l := s.toList.flatMap _)] at alone
  refine interpolate_eq_ok.mpr ⟨s.toList.map fun c => [c], ?_, ?_⟩
  · rw [← cut.eq_split, List.forall₂_map_left_iff, List.forall₂_map_right_iff, List.forall₂_same]
    exact fun c _ => Piece.stands_ofEscaped c
  · rw [← List.flatMap_def, List.flatMap_singleton', String.ofList_toList]

-- Three dollars before a brace, and two before a name that is not set.
example : interpolate ⟨fun _ => none⟩ (escaped "$$$\x7bA\x7d $$B") = .ok "$$$\x7bA\x7d $$B" := by
  decide +kernel

end FailureIntake.Config
