import FailureIntake.Config.Source
import FailureIntake.Proofs.Config.Siblings
import FailureIntake.Proofs.Sorting

/-! The order of sources. Files come before directories, and sources of one kind are ordered by the
components of their paths, so the spelling of a path plays no part in it. -/
namespace FailureIntake.Config

namespace Path

/-- The root comes first, then the current directory and the one above, and names by their octets
come last. -/
inductive Component.Precedes : Component → Component → Prop where
  | root {c : Component} : c ≠ .root → Precedes .root c
  | current : Precedes .current .parent
  | currentName {n : Text.Utf8.Octets} : Precedes .current (.name n)
  | parentName {n : Text.Utf8.Octets} : Precedes .parent (.name n)
  | names {m n : Text.Utf8.Octets} : m < n → Precedes (.name m) (.name n)

theorem compare_toNat_eq_lt_iff (m n : Text.Utf8.Octets) :
    compare (m.map UInt8.toNat) (n.map UInt8.toNat) = .lt ↔ m < n := by
  rw [← Std.OrientedCmp.gt_iff_lt, ← List.not_le, ← isLE_compare_toNat, Ordering.isLE_iff_ne_gt,
    Decidable.not_not]

theorem Component.compare_key_eq_lt_iff (c d : Component) :
    compare c.key d.key = .lt ↔ c.Precedes d := by
  constructor
  · intro less
    cases c with
    | root =>
      refine .root fun same => ?_
      rw [same] at less
      cases less
    | current =>
      cases d with
      | root | current => cases less
      | parent => exact .current
      | name => exact .currentName
    | parent =>
      cases d with
      | root | current | parent => cases less
      | name => exact .parentName
    | name m =>
      cases d with
      | root | current | parent => cases less
      | name n =>
        rw [key, key, List.compare_cons_cons, Std.compare_self, Ordering.eq_then] at less
        exact .names ((compare_toNat_eq_lt_iff m n).mp less)
  · intro precedes
    cases precedes with
    | root other =>
      cases d with
      | root => contradiction
      | current | parent | name => rfl
    | current | currentName | parentName => rfl
    | names less =>
      rw [key, key, List.compare_cons_cons, Std.compare_self]
      exact (compare_toNat_eq_lt_iff _ _).mpr less

theorem Component.key_injective : Function.Injective Component.key := by
  intro c d same
  cases c <;> cases d <;> simp_all [key, List.map_inj_right fun _ _ => UInt8.toNat_inj.mp]

theorem key_eq_iff {p q : Path} : p.key = q.key ↔ p.components = q.components :=
  (List.map_injective_iff.mpr Component.key_injective).eq_iff

/-- The first components that differ decide, and a path comes before those that go on from it. -/
theorem compare_keys_eq_lt_iff (cs ds : List Component) :
    compare (cs.map Component.key) (ds.map Component.key) = .lt ↔
      List.Lex Component.Precedes cs ds := by
  induction cs generalizing ds with
  | nil => cases ds <;> simp [List.compare_nil_cons]
  | cons c cs ih =>
    cases ds with
    | nil => simp [List.compare_cons_nil]
    | cons d ds =>
      rw [List.map_cons, List.map_cons, List.compare_cons_cons, Ordering.then_eq_lt,
        Component.compare_key_eq_lt_iff, Std.LawfulEqOrd.compare_eq_iff_eq,
        Component.key_injective.eq_iff, ih, List.cons_lex_cons_iff]

end Path

namespace Source

theorem same_iff_key {a b : Source} : a.same b = true ↔ a.key = b.key :=
  beq_iff_eq

theorem same_iff {a b : Source} :
    a.same b = true ↔ a.kind = b.kind ∧ a.path.components = b.path.components := by
  rw [same_iff_key, key, key, Prod.mk.injEq, Path.key_eq_iff]
  cases a.kind <;> cases b.kind <;> simp

theorem compare_eq_eq_iff {a b : Source} : a.compare b = .eq ↔ a.same b = true := by
  rw [compare, Ordering.then_eq_eq, Std.LawfulEqOrd.compare_eq_iff_eq,
    Std.LawfulEqOrd.compare_eq_iff_eq, same_iff_key, Prod.ext_iff]

theorem compare_eq_lt_iff {a b : Source} : a.compare b = .lt ↔
    (a.kind = .file ∧ b.kind = .directory) ∨
      a.kind = b.kind ∧ List.Lex Path.Component.Precedes a.path.components b.path.components := by
  rw [compare, Ordering.then_eq_lt, key, key, Path.key, Path.key, Path.compare_keys_eq_lt_iff]
  cases a.kind <;> cases b.kind <;> simp [Nat.compare_eq_lt]

instance : Std.TransCmp Source.compare :=
  inferInstanceAs (Std.TransCmp (compareLex (compareOn fun s : Source => s.key.1)
    (compareOn fun s : Source => s.key.2)))

theorem filter_sort_same (sources : List Source) (s : Source) :
    (sort sources).filter s.same = sources.filter s.same := by
  have ties : s.same = (s.compare · == .eq) := by
    funext other
    rw [Bool.eq_iff_iff, beq_iff_eq, compare_eq_eq_iff]
  rw [ties]
  exact filter_sort Source.compare sources s

/-- Sources are totally ordered up to the spelling of their paths. Files come before directories, and
sources of one kind are in the order of their components. They are the same if they have one kind and
the same components: idle slashes and dots do not count, but a dot at the front and every pair of dots
do. Sorting puts sources in this order and leaves the same ones as they were. -/
theorem ordered_by_kind_and_components :
    OrdersUpTo Source.compare Source.same ∧
    (∀ a b : Source, a.compare b = .lt ↔ (a.kind = .file ∧ b.kind = .directory) ∨
      a.kind = b.kind ∧ List.Lex Path.Component.Precedes a.path.components b.path.components) ∧
    (∀ a b : Source, a.same b ↔ a.kind = b.kind ∧ a.path.components = b.path.components) ∧
    (∀ p q : Path, p.components = q.components ↔ p.Respelled q) ∧
    (∀ p : Path, (.current ∈ p.components ↔ (p.splitOn Path.slash).head? = some [Path.dot]) ∧
      p.components.count .parent = (p.splitOn Path.slash).count [Path.dot, Path.dot]) ∧
    ∀ sources : List Source, (sort sources).Perm sources ∧
      (sort sources).Pairwise (fun a b => (a.compare b).isLE) ∧
      ∀ s : Source, (sort sources).filter s.same = sources.filter s.same := by
  refine ⟨.of_ties Source.compare fun _ _ => compare_eq_eq_iff, fun _ _ => compare_eq_lt_iff,
    fun _ _ => same_iff, fun _ _ => Path.components_eq_iff_respelled,
    fun p => ⟨Path.current_mem_components, p.count_parent_components⟩, fun sources => ?_⟩
  exact ⟨List.mergeSort_perm sources _, pairwise_sort Source.compare sources,
    filter_sort_same sources⟩

/-- Two spellings of one file, the file below the current directory, and a directory. -/
theorem order_of_respelled_files :
    let text := Text.Utf8.encode
    let a : Source := ⟨.file, text "etc//app.yaml/."⟩
    let b : Source := ⟨.file, text "etc/./app.yaml/"⟩
    let c : Source := ⟨.file, text "./etc/app.yaml"⟩
    let d : Source := ⟨.directory, text "/"⟩
    ((a.compare b).isLE ∧ (b.compare a).isLE ∧ (c.compare a).isLE ∧ (a.compare d).isLE) ∧
      a.same b ∧ a.path.Respelled b.path ∧ (c.compare d).isLE ∧ b.compare d = .lt ∧
      ¬a.path.Respelled c.path ∧ (sort [d, b, c, a]).filter a.same = [b, a] := by
  intro text a b c d
  obtain ⟨le, ge, below, above, differ, given⟩ :
      (a.compare b).isLE ∧ (b.compare a).isLE ∧ (c.compare a).isLE ∧ (a.compare d).isLE ∧
      a.path.components ≠ c.path.components ∧ [d, b, c, a].filter a.same = [b, a] := by
    decide +kernel +revert
  obtain ⟨order, less, same, respelled, -, sorted⟩ := ordered_by_kind_and_components
  have equal : a.same b := order.antisymmetric a b le ge
  exact ⟨⟨le, ge, below, above⟩, equal, (respelled _ _).mp ((same a b).mp equal).2,
    order.transitive c a d below above, (less b d).mpr (.inl ⟨rfl, rfl⟩), mt (respelled _ _).mpr differ,
    ((sorted _).2.2 a).trans given⟩

end Source

end FailureIntake.Config
