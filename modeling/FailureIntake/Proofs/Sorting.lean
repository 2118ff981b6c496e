import Mathlib.Data.List.Pairwise

/-! Sorting by a comparison that is a total order but for ties. Elements that tie stay in their
order. -/
namespace FailureIntake

/-- A total order, in which those elements tie that are the same. -/
structure OrdersUpTo {α : Type} (cmp : α → α → Ordering) (same : α → α → Bool) : Prop where
  reflexive : ∀ a, cmp a a = .eq
  antisymmetric : ∀ a b, (cmp a b).isLE → (cmp b a).isLE → same a b
  transitive : ∀ a b c, (cmp a b).isLE → (cmp b c).isLE → (cmp a c).isLE
  total : ∀ a b, (cmp a b).isLE ∨ (cmp b a).isLE
  ties : ∀ a b, cmp a b = .eq ↔ same a b
  congruent : ∀ a b c, same a b → cmp a c = cmp b c ∧ cmp c a = cmp c b

theorem mergeSort_pair {α : Type} {le : α → α → Bool} {a b : α} (wrong : le a b = false) :
    [a, b].mergeSort le = [b, a] := by
  simp [List.mergeSort, wrong]

section

variable {α : Type} (cmp : α → α → Ordering) [Std.TransCmp cmp]

theorem isLE_total (a b : α) : ((cmp a b).isLE || (cmp b a).isLE) = true := by
  have swap : cmp b a = (cmp a b).swap := Std.OrientedCmp.eq_swap
  rw [swap]
  cases cmp a b <;> rfl

theorem OrdersUpTo.of_ties {same : α → α → Bool} (ties : ∀ a b, cmp a b = .eq ↔ same a b) :
    OrdersUpTo cmp same where
  reflexive _ := Std.ReflCmp.compare_self
  antisymmetric a b le ge := (ties a b).mp (Std.OrientedCmp.isLE_antisymm le ge)
  transitive _ _ _ := Std.TransCmp.isLE_trans
  total a b := by simpa using isLE_total cmp a b
  ties := ties
  congruent a b _ same :=
    ⟨Std.TransCmp.congr_left ((ties a b).mpr same), Std.TransCmp.congr_right ((ties a b).mpr same)⟩

theorem pairwise_sort (l : List α) :
    (l.mergeSort fun a b => (cmp a b).isLE).Pairwise fun a b => (cmp a b).isLE :=
  List.pairwise_mergeSort (fun _ _ _ => Std.TransCmp.isLE_trans) (isLE_total cmp) l

/-- The elements that tie with one element are the same list before and after. -/
theorem filter_sort (l : List α) (a : α) :
    (l.mergeSort fun b c => (cmp b c).isLE).filter (cmp a · == .eq) = l.filter (cmp a · == .eq) := by
  have ties : (l.filter (cmp a · == .eq)).Pairwise fun b c => (cmp b c).isLE := by
    refine List.pairwise_of_forall_mem_list fun b left c right => ?_
    have left : cmp a b = .eq := by simpa using (List.mem_filter.mp left).2
    have right : cmp a c = .eq := by simpa using (List.mem_filter.mp right).2
    rw [Std.TransCmp.eq_trans (Std.OrientedCmp.eq_symm left) right]
    rfl
  -- Elements that tie are in order as they stand, so sorting keeps them as a sublist, and it has no others.
  have among := List.sublist_mergeSort (fun _ _ _ => Std.TransCmp.isLE_trans) (isLE_total cmp) ties
    List.filter_sublist
  have kept := among.filter (cmp a · == .eq)
  simp only [List.filter_filter, Bool.and_self] at kept
  have length := ((List.mergeSort_perm l fun b c => (cmp b c).isLE).filter (cmp a · == .eq)).length_eq
  exact (kept.eq_of_length length.symm).symm

end

end FailureIntake
