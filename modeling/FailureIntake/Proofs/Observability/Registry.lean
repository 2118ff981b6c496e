import FailureIntake.Observability.Registry
import Mathlib.Data.UInt

/-! What the counters of a registry have come to. A registry never has two series of one kind, name
and labels, so each update reaches one series, and what was recorded adds up in any order. -/
namespace FailureIntake

/-- What a counter has come to. Other series count nothing. -/
def SeriesValue.count : SeriesValue → UInt64
  | .counter total => total
  | _ => 0

namespace MetricUpdate

/-- The kind, the name and the labels of the series that an update is for. -/
def key (u : MetricUpdate) : MetricKind × String × List (String × String) :=
  (u.kind, u.name, u.labels)

/-- What an update adds to the selected counters. -/
def amount (selects : String → List (String × String) → Bool) (u : MetricUpdate) : Nat :=
  if u.kind = .counter ∧ selects u.name u.labels then u.quantity.whole else 0

end MetricUpdate

namespace Series

variable {selects : String → List (String × String) → Bool} {s : Series} {u : MetricUpdate}

def key (s : Series) : MetricKind × String × List (String × String) :=
  (s.value.kind, s.name, s.labels)

def share (selects : String → List (String × String) → Bool) (s : Series) : UInt64 :=
  if selects s.name s.labels then s.value.count else 0

theorem takes_iff : s.takes u = true ↔ s.key = u.key := by
  simp [takes, key, MetricUpdate.key, and_assoc]

theorem share_uncounted (other : s.value.kind ≠ .counter) : s.share selects = 0 := by
  rcases s with ⟨name, labels, value⟩
  cases value with
  | counter => exact absurd rfl other
  | gauge | histogram => simp [share, SeriesValue.count]

theorem share_update (takes : s.takes u = true) :
    share selects { s with value := s.value.update u.quantity } =
      s.share selects + .ofNat (u.amount selects) := by
  rcases s with ⟨name, labels, value⟩
  obtain ⟨kind, rfl, rfl⟩ : value.kind = u.kind ∧ name = u.name ∧ labels = u.labels := by
    simpa [key, MetricUpdate.key] using takes_iff.mp takes
  by_cases selected : selects u.name u.labels
  · cases value <;>
      simp [share, MetricUpdate.amount, selected, SeriesValue.update, SeriesValue.count, ← kind,
        SeriesValue.kind]
  · simp [share, MetricUpdate.amount, selected]

theorem share_initial (u : MetricUpdate) :
    share selects ⟨u.name, u.labels, (SeriesValue.initial u.kind).update u.quantity⟩ =
      .ofNat (u.amount selects) := by
  have takes : Series.takes ⟨u.name, u.labels, SeriesValue.initial u.kind⟩ u = true := by
    simp [Series.takes, SeriesValue.kind_initial]
  have empty : share selects ⟨u.name, u.labels, SeriesValue.initial u.kind⟩ = 0 := by
    simp only [share]
    cases u.kind <;> simp [SeriesValue.initial, SeriesValue.count]
  rw [← UInt64.zero_add (.ofNat _), ← empty]
  exact share_update takes

end Series

namespace Registry

variable {selects : String → List (String × String) → Bool} {r : Registry} {u : MetricUpdate}

/-- The counter with this name and these labels. It is zero before its first update. -/
def counter (r : Registry) (name : String) (labels : List (String × String)) : UInt64 :=
  ((r.series.find? fun s => s.key = (.counter, name, labels)).map (·.value.count)).getD 0

def sumOf (selects : String → List (String × String) → Bool) (r : Registry) : UInt64 :=
  (r.series.map (Series.share selects)).sum

/-- The sum of all counters with this name. -/
def total (r : Registry) (name : String) : UInt64 :=
  r.sumOf fun n _ => n = name

def Distinct (r : Registry) : Prop :=
  (r.series.map Series.key).Nodup

theorem key_recorded (s : Series) :
    (if s.takes u then { s with value := s.value.update u.quantity } else s).key = s.key := by
  split
  · simp [Series.key, SeriesValue.kind_update]
  · rfl

theorem Distinct.record (distinct : r.Distinct) (u : MetricUpdate) : (r.record u).Distinct := by
  unfold Registry.record
  split
  · unfold Distinct
    rw [List.map_map]
    exact (List.map_congr_left fun s _ => key_recorded s) ▸ distinct
  · next fresh =>
    have new : u.key ∉ r.series.map Series.key := by
      intro known
      obtain ⟨s, member, same⟩ := List.mem_map.mp known
      exact fresh (List.any_eq_true.mpr ⟨s, member, Series.takes_iff.mpr same⟩)
    unfold Distinct
    rw [List.map_append, List.nodup_append]
    refine ⟨distinct, by simp, ?_⟩
    rintro key known _ added rfl
    have same : key = u.key := by
      simpa [Series.key, MetricUpdate.key, SeriesValue.kind_update, SeriesValue.kind_initial] using added
    exact new (same ▸ known)

/-- Of series that differ, at most one takes an update. -/
theorem sum_recorded {series : List Series} (distinct : (series.map Series.key).Nodup) :
    ((series.map fun s => if s.takes u then { s with value := s.value.update u.quantity } else s).map
        (Series.share selects)).sum =
      (series.map (Series.share selects)).sum +
        if series.any (·.takes u) then .ofNat (u.amount selects) else 0 := by
  induction series with
  | nil => rfl
  | cons s rest ih =>
    rw [List.map_cons, List.nodup_cons] at distinct
    have later := ih distinct.2
    by_cases takes : s.takes u = true
    · have none : ∀ other ∈ rest, ¬other.takes u = true := by
        intro other member also
        have same := (Series.takes_iff.mp also).trans (Series.takes_iff.mp takes).symm
        exact distinct.1 (same ▸ List.mem_map_of_mem member)
      have others : rest.any (·.takes u) = false := by simpa using none
      rw [others] at later
      simp only [List.map_cons, List.sum_cons, takes, if_true, Series.share_update, later,
        List.any_cons, Bool.true_or]
      grind
    · simp only [List.map_cons, List.sum_cons, takes, later, List.any_cons, Bool.false_or]
      grind

theorem sumOf_record (distinct : r.Distinct) :
    (r.record u).sumOf selects = r.sumOf selects + .ofNat (u.amount selects) := by
  unfold Registry.record sumOf
  split
  · next known => rw [sum_recorded distinct, if_pos known]
  · simp [Series.share_initial]

theorem Distinct.foldl (distinct : r.Distinct) (updates : List MetricUpdate) :
    (updates.foldl Registry.record r).Distinct := by
  induction updates generalizing r with
  | nil => exact distinct
  | cons u rest ih => exact ih (distinct.record u)

theorem sumOf_foldl (distinct : r.Distinct) (updates : List MetricUpdate) :
    (updates.foldl record r).sumOf selects =
      r.sumOf selects + .ofNat (updates.map (·.amount selects)).sum := by
  induction updates generalizing r with
  | nil => simp
  | cons u rest ih =>
    rw [List.foldl_cons, ih (distinct.record u), sumOf_record distinct, List.map_cons, List.sum_cons,
      UInt64.ofNat_add, UInt64.add_assoc]

/-- A counter is the only series that counts under its name and labels. -/
theorem counter_eq_sumOf (distinct : r.Distinct) (name : String) (labels : List (String × String)) :
    r.counter name labels = r.sumOf fun n l => n = name ∧ l = labels := by
  have other {s : Series} (differs : s.key ≠ (.counter, name, labels)) :
      s.share (fun n l => n = name ∧ l = labels) = 0 := by
    by_cases here : s.name = name ∧ s.labels = labels
    · refine Series.share_uncounted fun kind => differs ?_
      rw [Series.key, kind, here.1, here.2]
    · simp [Series.share, here]
  unfold counter sumOf
  unfold Distinct at distinct
  generalize r.series = series at distinct
  induction series with
  | nil => rfl
  | cons s rest ih =>
    rw [List.map_cons, List.nodup_cons] at distinct
    rw [List.map_cons, List.sum_cons]
    by_cases here : s.key = (.counter, name, labels)
    · have none : rest.find? (fun s => s.key = (.counter, name, labels)) = none := by
        refine List.find?_eq_none.mpr fun also among same => distinct.1 ?_
        rw [here, ← of_decide_eq_true same]
        exact List.mem_map_of_mem among
      have nothing := ih distinct.2
      rw [none] at nothing
      have own : s.share (fun n l => n = name ∧ l = labels) = s.value.count := by
        injection here with _ here
        injection here with name labels
        simp [Series.share, name, labels]
      rw [List.find?_cons_of_pos (by simpa using here), own, ← nothing]
      exact (UInt64.add_zero _).symm
    · rw [List.find?_cons_of_neg (by simpa using here), other here, UInt64.zero_add]
      exact ih distinct.2

end Registry

end FailureIntake
