import FailureIntake.Config.FileSystem
import FailureIntake.Proofs.Config.Spelling

/-! The entries of one directory. Their paths have the same components but for the last, which is
the name of the entry, so they are ordered as their names are. -/
namespace FailureIntake.Config

/-- Lists with the same beginning are ordered as what follows it. -/
theorem compare_append_left {α : Type} [Ord α] [Std.ReflOrd α] (before a b : List α) :
    compare (before ++ a) (before ++ b) = compare a b := by
  induction before with
  | nil => rfl
  | cons c before ih =>
    rw [List.cons_append, List.cons_append, List.compare_cons_cons, Std.compare_self, ih]
    rfl

/-- Octets are ordered by the first one that differs. -/
theorem isLE_compare_toNat (a b : Text.Utf8.Octets) :
    (compare (a.map UInt8.toNat) (b.map UInt8.toNat)).isLE ↔ a ≤ b := by
  induction a generalizing b with
  | nil => cases b <;> simp
  | cons x a ih =>
    cases b with
    | nil => simp
    | cons y b =>
      rw [List.map_cons, List.map_cons, List.compare_cons_cons, Ordering.isLE_then_iff_or,
        Nat.compare_eq_lt, Nat.compare_eq_eq, UInt8.toNat_inj, ← UInt8.lt_iff_toNat_lt, ih,
        List.cons_le_cons_iff]

namespace Path

/-- A name that an entry of a directory can have. -/
structure IsEntryName (name : Text.Utf8.Octets) : Prop where
  nonempty : name ≠ []
  slashless : slash ∉ name
  not_current : name ≠ [dot]
  not_parent : name ≠ [dot, dot]

/-- The path of an entry is that of its directory, a slash and the name. -/
theorem entry_eq (dir : Path) : ∃ above : Path, ∀ name, dir.entry name = above ++ slash :: name := by
  by_cases slashed : dir.getLast? = some slash
  · obtain ⟨above, rfl⟩ := List.getLast?_eq_some_iff.mp slashed
    exact ⟨above, fun name => by simp [entry]⟩
  · exact ⟨dir, fun name => by simp [entry, slashed]⟩

/-- The last component of an entry is its name, and the others are the same for all entries. -/
theorem components_entry (dir : Path) : ∃ above, ∀ name, IsEntryName name →
    (dir.entry name).components = above ++ [.name name] := by
  obtain ⟨above, same⟩ := entry_eq dir
  refine ⟨(if isAbsolute (above ++ [slash]) then [.root] else []) ++ (kept above).map Component.ofPart,
    fun name isName => ?_⟩
  have last : name.splitOn slash = [name] := List.splitOn_eq_singleton isName.slashless
  have active : isIdle name = false := by simp [isIdle, isName.nonempty, isName.not_current]
  have component : Component.ofPart name = .name name :=
    Component.ofPart_eq_name.mpr ⟨rfl, isName.not_current, isName.not_parent⟩
  rw [same, components_eq, isAbsolute_append_slash, kept_append_slash, last]
  simp [active, component]

/-- Entries of a directory are ordered as their names. -/
theorem isLE_compare_entry (dir : Path) {a b : Text.Utf8.Octets} (left : IsEntryName a)
    (right : IsEntryName b) : (compare (dir.entry a).key (dir.entry b).key).isLE ↔ a ≤ b := by
  obtain ⟨above, components⟩ := components_entry dir
  rw [key, key, components a left, components b right, List.map_append, List.map_append,
    compare_append_left, ← isLE_compare_toNat]
  simp [Component.key, List.compare_cons_cons, Std.compare_self]

end Path

end FailureIntake.Config
