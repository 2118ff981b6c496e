import FailureIntake.Config.Interpolation
import FailureIntake.Proofs.Text.Runs

/-! The grammar of texts with references. Each marked piece has its own spelling, and what begins
none of these spellings is a character of its own. The relation `Cut` is this grammar, read from
left to right; cutting a text into pieces gives the one list of pieces that the grammar has. -/
namespace FailureIntake.Config

open Piece Text

/-- A letter or underscore, followed by letters, digits and underscores. -/
def IsName : List Char → Prop
  | [] => False
  | c :: r => isNameStart c ∧ ∀ d ∈ r, isNameChar d

/-- A text that begins with a marked piece, and what follows the piece. A bare name is as long as
it can be. -/
inductive Marked : List Char → Piece → List Char → Prop where
  | dollar {rest : List Char} : Marked ('$' :: '$' :: rest) .dollar rest
  | braced {name rest : List Char} : IsName name →
      Marked ('$' :: '\x7b' :: (name ++ '\x7d' :: rest)) (.reference name none) rest
  | orEmpty {name text rest : List Char} : IsName name → '\x7d' ∉ text →
      Marked ('$' :: '\x7b' :: (name ++ ':' :: '-' :: (text ++ '\x7d' :: rest)))
        (.reference name (some ⟨true, text⟩)) rest
  | orUnset {name text rest : List Char} : IsName name → '\x7d' ∉ text →
      Marked ('$' :: '\x7b' :: (name ++ '-' :: (text ++ '\x7d' :: rest)))
        (.reference name (some ⟨false, text⟩)) rest
  | bare {name rest : List Char} : IsName name → EndsRun isNameChar rest →
      Marked ('$' :: (name ++ rest)) (.reference name none) rest

/-- The pieces of a text from left to right. -/
inductive Cut : List Char → List Piece → Prop where
  | nil : Cut [] []
  | marked {s rest : List Char} {p : Piece} {ps : List Piece} :
      Marked s p rest → Cut rest ps → Cut s (p :: ps)
  | literal {c : Char} {r : List Char} {ps : List Piece} :
      (∀ p rest, ¬ Marked (c :: r) p rest) → Cut r ps → Cut (c :: r) (.literal c :: ps)

namespace Piece

variable {r name rest text : List Char} {p : Piece}

theorem name?_eq_some :
    name? r = some (name, rest) ↔ IsName name ∧ r = name ++ rest ∧ EndsRun isNameChar rest := by
  constructor
  · intro read
    cases r with
    | nil => cases read
    | cons c r =>
      simp only [name?] at read
      split at read
      · next start =>
        cases read
        refine ⟨⟨start, fun d member => List.mem_takeWhile_imp member⟩, ?_, endsRun_dropWhile r⟩
        rw [List.cons_append, List.takeWhile_append_dropWhile]
      · cases read
  · rintro ⟨isName, rfl, ends⟩
    cases name with
    | nil => cases isName
    | cons c run =>
      obtain ⟨start, run_in⟩ := isName
      simp only [List.cons_append, name?, start, if_true, takeWhile_run run_in ends,
        dropWhile_run run_in ends]

theorem default?_eq_some {onEmpty : Bool} {d : Fallback} :
    default? onEmpty r = some (d, rest) ↔
      d.onEmpty = onEmpty ∧ '\x7d' ∉ d.text ∧ r = d.text ++ '\x7d' :: rest := by
  constructor
  · intro read
    unfold default? at read
    split at read
    · cases read
    · next brace tail dropped =>
      cases read
      have stop : brace = '\x7d' := by
        have ends := endsRun_dropWhile (p := (· ≠ '\x7d')) r
        rw [dropped, endsRun_cons] at ends
        simpa using ends
      subst stop
      refine ⟨rfl, fun member => by simpa using List.mem_takeWhile_imp member, ?_⟩
      rw [← dropped, List.takeWhile_append_dropWhile]
  · rintro ⟨rfl, braceless, rfl⟩
    have run_in : ∀ c ∈ d.text, decide (c ≠ '\x7d') = true := by
      intro c member
      exact decide_eq_true fun brace => braceless (brace ▸ member)
    have ends : EndsRun (· ≠ '\x7d') ('\x7d' :: rest) := by simp [endsRun_cons]
    unfold default?
    rw [dropWhile_run run_in ends, takeWhile_run run_in ends]

/-- A reference with a fallback, from the text of the fallback on. -/
theorem withDefault_eq_some {onEmpty : Bool} :
    (default? onEmpty r).map (fun (d, rest) => (reference name (some d), rest)) = some (p, rest) ↔
      ∃ text, '\x7d' ∉ text ∧ p = .reference name (some ⟨onEmpty, text⟩) ∧
        r = text ++ '\x7d' :: rest := by
  constructor
  · intro read
    obtain ⟨⟨d, after⟩, given, same⟩ := Option.map_eq_some_iff.mp read
    cases same
    obtain ⟨rfl, braceless, rfl⟩ := default?_eq_some.mp given
    exact ⟨d.text, braceless, rfl, rfl⟩
  · rintro ⟨text, braceless, rfl, rfl⟩
    have given : default? onEmpty (text ++ '\x7d' :: rest) = some (⟨onEmpty, text⟩, rest) :=
      default?_eq_some.mpr ⟨rfl, braceless, rfl⟩
    rw [given]
    rfl

/-- After the opening brace stand a name, perhaps a fallback, and the closing brace. -/
theorem braced?_eq_some :
    braced? r = some (p, rest) ↔ Marked ('$' :: '\x7b' :: r) p rest := by
  constructor
  · intro read
    unfold braced? at read
    cases named : name? r with
    | none => simp [named] at read
    | some found =>
      obtain ⟨name, tail⟩ := found
      obtain ⟨isName, rfl, _⟩ := name?_eq_some.mp named
      simp only [named, Option.bind_eq_bind, Option.bind_some] at read
      split at read
      · next same =>
        cases same
        cases read
        exact .braced isName
      · next same =>
        cases same
        obtain ⟨text, braceless, rfl, rfl⟩ := withDefault_eq_some.mp read
        exact .orEmpty isName braceless
      · next same =>
        cases same
        obtain ⟨text, braceless, rfl, rfl⟩ := withDefault_eq_some.mp read
        exact .orUnset isName braceless
      · cases read
  · intro marked
    have read {name tail : List Char} {c : Char} (isName : IsName name)
        (stops : isNameChar c = false) : name? (name ++ c :: tail) = some (name, c :: tail) :=
      name?_eq_some.mpr ⟨isName, rfl, endsRun_cons.mpr stops⟩
    have brace : isNameChar '\x7d' = false := by decide
    have colon : isNameChar ':' = false := by decide
    have minus : isNameChar '-' = false := by decide
    generalize spelled : '$' :: '\x7b' :: r = s at marked
    cases marked with
    | dollar => cases spelled
    | braced isName =>
      cases spelled
      simp [braced?, read isName brace]
    | orEmpty isName braceless =>
      cases spelled
      rw [braced?, read isName colon]
      exact withDefault_eq_some.mpr ⟨_, braceless, rfl, rfl⟩
    | orUnset isName braceless =>
      cases spelled
      rw [braced?, read isName minus]
      exact withDefault_eq_some.mpr ⟨_, braceless, rfl, rfl⟩
    | @bare name _ isName ends =>
      -- A name does not begin with a brace.
      cases name with
      | nil => cases isName
      | cons c run =>
        cases spelled
        exact absurd isName.1 (by decide)

theorem afterDollar?_eq_some :
    afterDollar? r = some (p, rest) ↔ Marked ('$' :: r) p rest := by
  constructor
  · intro read
    unfold afterDollar? at read
    split at read
    · cases read
      exact .dollar
    · exact braced?_eq_some.mp read
    · obtain ⟨⟨name, tail⟩, named, same⟩ := Option.map_eq_some_iff.mp read
      cases same
      obtain ⟨isName, rfl, ends⟩ := name?_eq_some.mp named
      exact .bare isName ends
  · intro marked
    unfold afterDollar?
    split
    · next after =>
      generalize spelled : '$' :: '$' :: after = s at marked
      cases marked with
      | dollar =>
        cases spelled
        rfl
      | braced | orEmpty | orUnset => cases spelled
      | @bare name _ isName _ =>
        cases name with
        | nil => cases isName
        | cons c run =>
          cases spelled
          exact absurd isName.1 (by decide)
    · exact braced?_eq_some.mpr marked
    · next r no_dollar no_brace =>
      generalize spelled : '$' :: r = s at marked
      cases marked with
      | dollar =>
        cases spelled
        exact absurd rfl (no_dollar _)
      | braced | orEmpty | orUnset =>
        cases spelled
        exact absurd rfl (no_brace _)
      | bare isName ends =>
        cases spelled
        rw [name?_eq_some.mpr ⟨isName, rfl, ends⟩]
        rfl

theorem marked_dollar {s : List Char} (marked : Marked s p rest) : ∃ r, s = '$' :: r := by
  cases marked <;> exact ⟨_, rfl⟩

/-- Cutting follows the grammar. -/
theorem cut_split (s : List Char) : Cut s (split s) := by
  fun_induction split s with
  | case1 => exact .nil
  | case2 c r ih =>
    by_cases dollar : c = '$'
    · subst dollar
      cases read : afterDollar? r with
      | none =>
        simp only [Piece.read, if_true, read, Option.getD_none] at ih ⊢
        refine .literal (fun p rest marked => ?_) ih
        rw [← afterDollar?_eq_some, read] at marked
        cases marked
      | some found =>
        simp only [Piece.read, if_true, read, Option.getD_some] at ih ⊢
        exact .marked (afterDollar?_eq_some.mp read) ih
    · simp only [Piece.read, dollar, if_false] at ih ⊢
      refine .literal (fun p rest marked => ?_) ih
      obtain ⟨_, same⟩ := marked_dollar marked
      exact dollar (List.cons.inj same).1

end Piece

/-- The grammar leaves no choice. -/
theorem Cut.eq_split {s : List Char} {ps : List Piece} (cut : Cut s ps) : ps = split s := by
  induction cut with
  | nil => rw [split]
  | marked marked _ ih =>
    obtain ⟨r, rfl⟩ := marked_dollar marked
    rw [split, Piece.read, if_pos rfl, afterDollar?_eq_some.mpr marked, Option.getD_some, ih]
  | @literal c r ps unmarked _ ih =>
    have alone : Piece.read c r = (.literal c, r) := by
      unfold Piece.read
      split
      · next dollar =>
        subst dollar
        cases read : afterDollar? r with
        | none => rfl
        | some found => exact absurd (afterDollar?_eq_some.mp read) (unmarked _ _)
      · rfl
    rw [split, alone, ih]

end FailureIntake.Config
