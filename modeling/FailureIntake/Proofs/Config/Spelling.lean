import FailureIntake.Config.Path
import Mathlib.Data.List.Basic
import Mathlib.Data.List.Count
import Mathlib.Logic.Relation

/-! The spellings of a path. What counts is what stands between its slashes, but for empty parts and
for single dots behind a slash. Two paths have the same components just if such idle pieces can be
written or left out until the paths are the same. -/
namespace FailureIntake.Text

theorem parts_eq_splitOn {α : Type} [DecidableEq α] (separator : α) (s : List α) :
    parts separator s = s.splitOn separator := by
  induction s with
  | nil => rfl
  | cons c s ih =>
    rw [parts, List.splitOn_cons_eq_if_modifyHead, ih]
    simp only [beq_iff_eq]
    split
    · rfl
    · cases later : s.splitOn separator with
      | nil => exact absurd later (List.splitOn_ne_nil separator s)
      | cons p ps => rfl

end FailureIntake.Text

namespace FailureIntake.Config.Path

variable {p q : Path} {t : Text.Utf8.Octets}

/-- A part that no component comes from, unless the path begins with it. -/
def isIdle (part : Text.Utf8.Octets) : Bool :=
  part = [] ∨ part = [dot]

/-- The parts between the slashes of a path, but for empty ones and for single dots other than one at
the front. -/
def kept (p : Path) : List Text.Utf8.Octets :=
  match p.splitOn slash with
  | [] => []
  | first :: rest => [first].filter (· ≠ []) ++ rest.filter (! isIdle ·)

def isAbsolute (p : Path) : Bool :=
  p.head? = some slash

def Component.ofPart (part : Text.Utf8.Octets) : Component :=
  if part = [dot] then .current else componentOf part

theorem Component.ofPart_injective : Function.Injective Component.ofPart := by
  intro a b same
  simp only [ofPart, componentOf] at same
  grind

theorem Component.ofPart_ne_root (part : Text.Utf8.Octets) : Component.ofPart part ≠ .root := by
  simp only [ofPart, componentOf]
  grind

theorem Component.ofPart_eq_name {part name : Text.Utf8.Octets} :
    Component.ofPart part = .name name ↔ part = name ∧ name ≠ [dot] ∧ name ≠ [dot, dot] := by
  simp only [ofPart, componentOf]
  grind

/-- Parts with a slash in front of each. -/
def behindSlashes (rest : List Text.Utf8.Octets) : Text.Utf8.Octets :=
  rest.flatMap (slash :: ·)

theorem intercalate_slash (first : Text.Utf8.Octets) (rest : List Text.Utf8.Octets) :
    [slash].intercalate (first :: rest) = first ++ behindSlashes rest := by
  induction rest generalizing first with
  | nil => simp [behindSlashes]
  | cons part rest ih => simp [List.intercalate_cons_cons, ih, behindSlashes]

theorem exists_parts (p : Path) : ∃ first rest, p.splitOn slash = first :: rest ∧
    p = first ++ behindSlashes rest ∧ slash ∉ first := by
  obtain ⟨first, rest, split⟩ := List.exists_cons_of_ne_nil (List.splitOn_ne_nil slash p)
  have whole : [slash].intercalate (p.splitOn slash) = p := List.intercalate_splitOn slash
  rw [split, intercalate_slash] at whole
  refine ⟨first, rest, split, whole.symm, Text.separator_notMem (s := p) ?_⟩
  rw [Text.parts_eq_splitOn, split]
  exact List.mem_cons_self

theorem start_eq {first : Text.Utf8.Octets} (slashless : slash ∉ first)
    (rest : List Text.Utf8.Octets) :
    start (first ++ behindSlashes rest) =
      (if isAbsolute (first ++ behindSlashes rest) then [.root] else []) ++
        if first = [dot] then [.current] else [] := by
  match first with
  | [] => cases rest <;> simp [behindSlashes, start, isAbsolute]
  | [b] =>
    have other : b ≠ slash := fun same => slashless (same ▸ List.mem_cons_self)
    cases rest <;> simp [behindSlashes, start, isAbsolute, other]
  | b :: c :: r =>
    have other : b ≠ slash ∧ c ≠ slash := by
      simp only [List.mem_cons, not_or] at slashless
      exact ⟨Ne.symm slashless.1, Ne.symm slashless.2.1⟩
    simp [start, isAbsolute, other]

/-- The components of a path are those of the parts that are kept, behind the root if it begins there. -/
theorem components_eq (p : Path) : p.components =
    (if p.isAbsolute then [.root] else []) ++ p.kept.map Component.ofPart := by
  obtain ⟨first, rest, split, whole, slashless⟩ := exists_parts p
  have begin : start p = (if p.isAbsolute then [.root] else []) ++
      if first = [dot] then [.current] else [] := by
    rw [whole]
    exact start_eq slashless rest
  have front : (if first = [dot] then [.current] else []) ++
      ([first].filter fun part => part ≠ [] && part ≠ [dot]).map componentOf =
        ([first].filter (· ≠ [])).map Component.ofPart := by
    by_cases empty : first = []
    · simp [empty]
    · by_cases single : first = [dot] <;> simp [empty, single, Component.ofPart]
  have later : (rest.filter fun part => part ≠ [] && part ≠ [dot]).map componentOf =
      (rest.filter (! isIdle ·)).map Component.ofPart := by
    have same : (fun part => part ≠ [] && part ≠ [dot]) = (! isIdle ·) := by
      funext part
      simp [isIdle]
    rw [same]
    refine List.map_congr_left fun part member => ?_
    have active := (List.mem_filter.mp member).2
    simp_all [isIdle, Component.ofPart]
  rw [components, parts, Text.parts_eq_splitOn, kept, split, begin]
  simp only [List.map_append, ← front, ← later, List.append_assoc]
  rw [← List.map_append, ← List.filter_append, List.singleton_append]

theorem root_mem_components : .root ∈ p.components ↔ p.isAbsolute = true := by
  cases absolute : p.isAbsolute <;> simp [components_eq, absolute, Component.ofPart_ne_root]

theorem current_mem_components :
    .current ∈ p.components ↔ (p.splitOn slash).head? = some [dot] := by
  obtain ⟨first, rest, split, -⟩ := exists_parts p
  have current : Component.current = Component.ofPart [dot] := rfl
  have dotted : [dot] ∈ p.kept ↔ first = [dot] := by
    simp only [kept, split, List.mem_append, List.mem_filter, List.mem_singleton]
    simp [isIdle, eq_comm]
  rw [components_eq, split, List.head?_cons, Option.some.injEq, ← dotted, List.mem_append, current,
    List.mem_map_of_injective Component.ofPart_injective]
  cases p.isAbsolute <;> simp [Component.ofPart]

theorem count_parent_components (p : Path) :
    p.components.count .parent = (p.splitOn slash).count [dot, dot] := by
  obtain ⟨first, rest, split, -⟩ := exists_parts p
  have parent : Component.parent = Component.ofPart [dot, dot] := rfl
  have start : (if p.isAbsolute then [Component.root] else []).count .parent = 0 := by
    cases p.isAbsolute <;> rfl
  rw [components_eq, List.count_append, start, Nat.zero_add, parent,
    List.count_map_of_injective _ _ Component.ofPart_injective, kept, split, List.count_append,
    List.count_filter, List.count_filter, ← List.count_append, List.singleton_append]
  · rfl
  · rfl

/-- Components say what is kept of a path and where it begins, and nothing else. -/
theorem components_eq_iff_kept :
    p.components = q.components ↔ p.isAbsolute = q.isAbsolute ∧ p.kept = q.kept := by
  constructor
  · intro same
    have absolute : p.isAbsolute = q.isAbsolute := by
      rw [Bool.eq_iff_iff, ← root_mem_components, ← root_mem_components, same]
    rw [components_eq, components_eq, absolute] at same
    exact ⟨absolute, List.map_injective_iff.mpr Component.ofPart_injective (List.append_cancel_left same)⟩
  · rintro ⟨absolute, kept⟩
    rw [components_eq, components_eq, absolute, kept]

theorem kept_append_slash (a b : Text.Utf8.Octets) :
    kept (a ++ slash :: b) = kept a ++ (b.splitOn slash).filter (! isIdle ·) := by
  obtain ⟨first, rest, split⟩ := List.exists_cons_of_ne_nil (List.splitOn_ne_nil slash a)
  simp [kept, List.splitOn_append_cons_self, split]

theorem isAbsolute_append_slash (a b : Text.Utf8.Octets) :
    isAbsolute (a ++ slash :: b) = isAbsolute (a ++ [slash]) := by
  cases a <;> rfl

/-- Slashes, each of which may have a single dot behind it. -/
inductive Idle : Text.Utf8.Octets → Prop where
  | nil : Idle []
  | empty {t : Text.Utf8.Octets} : Idle t → Idle (slash :: t)
  | current {t : Text.Utf8.Octets} : Idle t → Idle (slash :: dot :: t)

theorem Idle.ofPart {part : Text.Utf8.Octets} (idle : isIdle part = true) : Idle (slash :: part) := by
  rcases of_decide_eq_true idle with rfl | rfl
  · exact .empty .nil
  · exact .current .nil

theorem Idle.kept_append (idle : Idle t) (p : Path) : kept (p ++ t) = kept p := by
  -- A piece goes over to the path in front, to which it adds a part that is not kept.
  induction idle generalizing p with
  | nil => rw [List.append_nil]
  | empty _ ih =>
    have longer := ih (p ++ [slash])
    rw [kept_append_slash] at longer
    simpa [isIdle] using longer
  | current _ ih =>
    have longer := ih (p ++ [slash, dot])
    have alone : [dot].splitOn slash = [[dot]] := by decide
    rw [kept_append_slash, alone] at longer
    simpa [isIdle] using longer

/-- Leaves out an idle piece before a slash, or at the end of a path. -/
inductive Shortens : Path → Path → Prop where
  | within {t : Text.Utf8.Octets} (a b : Text.Utf8.Octets) :
      Idle t → Shortens (a ++ t ++ slash :: b) (a ++ slash :: b)
  | after {t : Text.Utf8.Octets} (a : Text.Utf8.Octets) : a ≠ [] → Idle t → Shortens (a ++ t) a

/-- The same path but for idle pieces. -/
def Respelled : Path → Path → Prop :=
  Relation.EqvGen Shortens

theorem Shortens.kept_eq (shortens : Shortens p q) : p.kept = q.kept := by
  cases shortens with
  | within a b idle => rw [kept_append_slash, kept_append_slash, idle.kept_append]
  | after _ _ idle => exact idle.kept_append q

theorem Shortens.isAbsolute_eq (shortens : Shortens p q) : p.isAbsolute = q.isAbsolute := by
  cases shortens with
  | within a b idle =>
    cases a with
    | nil => cases idle <;> rfl
    | cons => rfl
  | after _ nonempty _ =>
    cases q with
    | nil => contradiction
    | cons => rfl

/-- The spelling without idle pieces. -/
def plain (p : Path) : Path :=
  (if p.isAbsolute then [slash] else []) ++ [slash].intercalate p.kept

/-- Behind anything but the start of a path, idle parts can be left out. -/
theorem respelled_behindSlashes {a : Text.Utf8.Octets} (nonempty : a ≠ [])
    (rest : List Text.Utf8.Octets) :
    Respelled (a ++ behindSlashes rest) (a ++ behindSlashes (rest.filter (! isIdle ·))) := by
  induction rest generalizing a with
  | nil => exact .refl _
  | cons part rest ih =>
    by_cases idle : isIdle part = true
    · rw [List.filter_cons_of_neg (by simp [idle])]
      refine .trans _ _ _ (.rel _ _ ?_) (ih nonempty)
      -- The idle piece stands before the slash of the next part, or at the end if there is none.
      cases rest with
      | nil => simpa [behindSlashes] using Shortens.after a nonempty (Idle.ofPart idle)
      | cons next rest =>
        simpa [behindSlashes] using Shortens.within a (next ++ behindSlashes rest) (Idle.ofPart idle)
    · rw [List.filter_cons_of_pos (by simp [idle])]
      have longer := ih (a := a ++ slash :: part) (by simp)
      simpa [behindSlashes] using longer

/-- At the start of a path they can be left out too, but not the slash that makes it absolute. -/
theorem respelled_absolute {rest : List Text.Utf8.Octets} (nonempty : rest ≠ []) :
    Respelled (behindSlashes rest) (slash :: [slash].intercalate (rest.filter (! isIdle ·))) := by
  induction rest with
  | nil => contradiction
  | cons part rest ih =>
    by_cases idle : isIdle part = true
    · rw [List.filter_cons_of_neg (by simp [idle])]
      cases rest with
      | nil =>
        rcases of_decide_eq_true idle with rfl | rfl
        · exact .refl _
        -- The slash to be left out is the one before the dot, and there must be another behind it.
        · have added := Shortens.after [slash, dot] (List.cons_ne_nil _ _) (Idle.empty .nil)
          exact .trans _ _ _ (.symm _ _ (.rel _ _ added))
            (.rel _ _ (Shortens.within [] [] (Idle.current .nil)))
      | cons next rest =>
        refine .trans _ _ _ (.rel _ _ ?_) (ih (List.cons_ne_nil next rest))
        simpa [behindSlashes] using Shortens.within [] (next ++ behindSlashes rest) (Idle.ofPart idle)
    · rw [List.filter_cons_of_pos (by simp [idle]), intercalate_slash]
      exact respelled_behindSlashes (List.cons_ne_nil slash part) rest

theorem respelled_plain (p : Path) : Respelled p p.plain := by
  obtain ⟨first, rest, split, whole, slashless⟩ := exists_parts p
  by_cases empty : first = []
  -- With an empty first part, the path is absolute or empty.
  · subst empty
    cases rest with
    | nil =>
      cases whole
      exact .refl _
    | cons part rest =>
      have absolute : p.isAbsolute = true := by simp [whole, isAbsolute, behindSlashes]
      have kept : p.kept = (part :: rest).filter (! isIdle ·) := by simp [kept, split]
      have dropped := respelled_absolute (List.cons_ne_nil part rest)
      rw [← List.nil_append (behindSlashes _), ← whole, ← kept] at dropped
      simpa [plain, absolute] using dropped
  · have relative : p.isAbsolute = false := by
      obtain ⟨b, r, rfl⟩ := List.exists_cons_of_ne_nil empty
      have other : b ≠ slash := fun same => slashless (same ▸ List.mem_cons_self)
      simp [whole, isAbsolute, other]
    have kept : p.kept = first :: rest.filter (! isIdle ·) := by simp [kept, split, empty]
    have dropped := respelled_behindSlashes empty rest
    rw [← whole, ← intercalate_slash, ← kept] at dropped
    simpa [plain, relative] using dropped

/-- Paths have the same components if they differ in idle pieces only, and not otherwise. -/
theorem components_eq_iff_respelled : p.components = q.components ↔ Respelled p q := by
  constructor
  · intro same
    obtain ⟨absolute, kept⟩ := components_eq_iff_kept.mp same
    have plain : p.plain = q.plain := by rw [plain, plain, absolute, kept]
    exact .trans _ _ _ (respelled_plain p) (plain ▸ .symm _ _ (respelled_plain q))
  · intro respelled
    induction respelled with
    | rel _ _ shortens => exact components_eq_iff_kept.mpr ⟨shortens.isAbsolute_eq, shortens.kept_eq⟩
    | refl => rfl
    | symm _ _ _ ih => exact ih.symm
    | trans _ _ _ _ _ left right => exact left.trans right

end FailureIntake.Config.Path
