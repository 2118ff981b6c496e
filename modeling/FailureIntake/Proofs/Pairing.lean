import Mathlib.Data.List.Forall2

/-! Lists whose elements belong together one by one. -/
namespace FailureIntake

variable {α β : Type} {R : α → β → Prop} {inputs : List α} {records : List β}

theorem exists_recorded (recorded : List.Forall₂ R inputs records) {record : β}
    (member : record ∈ records) : ∃ input ∈ inputs, R input record := by
  induction recorded with
  | nil => cases member
  | cons head _ ih =>
    rcases List.mem_cons.mp member with rfl | later
    · exact ⟨_, List.mem_cons_self, head⟩
    · obtain ⟨input, among, recorded⟩ := ih later
      exact ⟨input, List.mem_cons_of_mem _ among, recorded⟩

theorem exists_records (each : ∀ input ∈ inputs, ∃ record, R input record) :
    ∃ records, List.Forall₂ R inputs records := by
  induction inputs with
  | nil => exact ⟨[], .nil⟩
  | cons input rest ih =>
    obtain ⟨record, first⟩ := each input List.mem_cons_self
    obtain ⟨records, later⟩ := ih fun other member => each other (List.mem_cons_of_mem _ member)
    exact ⟨record :: records, .cons first later⟩

end FailureIntake
