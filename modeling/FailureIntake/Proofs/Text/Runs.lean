import Mathlib.Data.List.TakeWhile

/-! A run of characters of a class, up to the first character outside of it. -/
namespace FailureIntake.Text

variable {α : Type} {p : α → Bool}

/-- The text does not go on with a character of the class. -/
def EndsRun (p : α → Bool) (rest : List α) : Prop :=
  ∀ c ∈ rest.head?, p c = false

theorem endsRun_nil : EndsRun p [] :=
  nofun

theorem endsRun_cons {c : α} {rest : List α} : EndsRun p (c :: rest) ↔ p c = false := by
  simp [EndsRun]

theorem EndsRun.take {rest : List α} (ends : EndsRun p rest) (n : Nat) :
    EndsRun p (rest.take n) := by
  intro c first
  rw [List.head?_take] at first
  split at first
  · exact absurd first nofun
  · exact ends c first

theorem takeWhile_run {run rest : List α} (run_in : ∀ c ∈ run, p c) (ends : EndsRun p rest) :
    (run ++ rest).takeWhile p = run := by
  rw [List.takeWhile_append_of_pos run_in]
  cases rest with
  | nil => simp
  | cons c r => simp [endsRun_cons.mp ends]

theorem dropWhile_run {run rest : List α} (run_in : ∀ c ∈ run, p c) (ends : EndsRun p rest) :
    (run ++ rest).dropWhile p = rest := by
  rw [List.dropWhile_append_of_pos run_in]
  cases rest with
  | nil => rfl
  | cons c r => simp [endsRun_cons.mp ends]

theorem endsRun_dropWhile (s : List α) : EndsRun p (s.dropWhile p) := by
  intro c first
  have stopped := List.head?_dropWhile_not p s
  rw [Option.mem_def.mp first] at stopped
  simpa using stopped

end FailureIntake.Text
