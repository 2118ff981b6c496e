import FailureIntake.Statistics

/-! What a consumer counts of the batches that it takes. -/
namespace FailureIntake.Statistics

variable {s s' s'' : Statistics}

/-- The statistics went on from `s` to `s'` by these batches: by their failures of each stage, by
those that ask for an acknowledgement, and by the batches themselves. -/
structure Counted (s : Statistics) (batches : List Batch) (s' : Statistics) : Prop where
  indexing : s'.indexing =
    s.indexing + (batches.flatMap Batch.failures).countP (·.stage = .indexing)
  processing : s'.processing =
    s.processing + (batches.flatMap Batch.failures).countP (·.stage = .processing)
  input : s'.input = s.input + (batches.flatMap Batch.failures).countP (·.stage = .input)
  requiringAck : s'.requiringAck =
    s.requiringAck + (batches.flatMap Batch.failures).countP (·.requiresAck)
  batches : s'.batches = s.batches + batches.length

theorem counted_nil (s : Statistics) : s.Counted [] s :=
  ⟨rfl, rfl, rfl, rfl, rfl⟩

theorem Counted.append {first last : List Batch} (before : s.Counted first s')
    (after : s'.Counted last s'') : s.Counted (first ++ last) s'' := by
  obtain ⟨indexing, processing, input, acks, count⟩ := before
  obtain ⟨indexing', processing', input', acks', count'⟩ := after
  constructor <;> simp only [List.flatMap_append, List.countP_append, List.length_append] <;> omega

theorem foldl_addFailure (s : Statistics) (failures : List Failure) :
    failures.foldl addFailure s =
      { indexing := s.indexing + failures.countP (·.stage = .indexing)
        processing := s.processing + failures.countP (·.stage = .processing)
        input := s.input + failures.countP (·.stage = .input)
        requiringAck := s.requiringAck + failures.countP (·.requiresAck)
        batches := s.batches } := by
  induction failures generalizing s with
  | nil => rfl
  | cons f rest ih =>
    rw [List.foldl_cons, ih]
    simp only [addFailure, List.countP_cons, decide_eq_true_eq, Nat.add_assoc, Nat.add_comm]

theorem counted_addBatch (s : Statistics) (b : Batch) : s.Counted [b] (s.addBatch b) := by
  rw [addBatch, foldl_addFailure]
  constructor <;> simp

theorem Counted.ofStage {batches : List Batch} (counted : s.Counted batches s') (stage : Stage) :
    s'.ofStage stage =
      s.ofStage stage + (batches.flatMap Batch.failures).countP (·.stage = stage) := by
  cases stage with
  | indexing => exact counted.indexing
  | processing => exact counted.processing
  | input => exact counted.input

end FailureIntake.Statistics
