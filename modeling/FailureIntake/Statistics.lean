import FailureIntake.Batch

/-! What a consumer has received, counted by stage. -/
namespace FailureIntake

structure Statistics where
  indexing : Nat := 0
  processing : Nat := 0
  input : Nat := 0
  requiringAck : Nat := 0
  batches : Nat := 0
deriving DecidableEq, Repr

namespace Statistics

def ofStage (s : Statistics) : Stage → Nat
  | .indexing => s.indexing
  | .processing => s.processing
  | .input => s.input

/-- Counts one failure under its stage and, if it asks for one, as an acknowledgement due. -/
def addFailure (s : Statistics) (f : Failure) : Statistics where
  indexing := s.indexing + if f.stage = .indexing then 1 else 0
  processing := s.processing + if f.stage = .processing then 1 else 0
  input := s.input + if f.stage = .input then 1 else 0
  requiringAck := s.requiringAck + if f.requiresAck then 1 else 0
  batches := s.batches

def addBatch (s : Statistics) (b : Batch) : Statistics :=
  b.failures.foldl addFailure { s with batches := s.batches + 1 }

def total (s : Statistics) : Nat :=
  s.indexing + s.processing + s.input

end Statistics

end FailureIntake
