/-! Texts cut at separators. -/
namespace FailureIntake.Text

variable {α : Type} [DecidableEq α]

def parts (separator : α) : List α → List (List α)
  | [] => [[]]
  | a :: r =>
    if a = separator then [] :: parts separator r
    else match parts separator r with
      | [] => [[a]]
      | p :: ps => (a :: p) :: ps

theorem parts_ne_nil (separator : α) (s : List α) : parts separator s ≠ [] := by
  cases s with
  | nil => simp [parts]
  | cons a r =>
    simp only [parts]
    split
    · simp
    · split <;> simp

/-- No separator is left in a part. -/
theorem separator_notMem {separator : α} {s p : List α} (h : p ∈ parts separator s) :
    separator ∉ p := by
  induction s generalizing p with
  | nil => simp_all [parts]
  | cons a r ih =>
    simp only [parts] at h
    cases hr : parts separator r with
    | nil => exact absurd hr (parts_ne_nil separator r)
    | cons q qs =>
      rw [hr] at h ih
      split at h
      · rcases List.mem_cons.1 h with rfl | h
        · simp
        · exact ih h
      · next ha =>
        rcases List.mem_cons.1 h with rfl | h
        · have := ih List.mem_cons_self
          simp [Ne.symm ha, this]
        · exact ih (List.mem_cons_of_mem _ h)

end FailureIntake.Text
