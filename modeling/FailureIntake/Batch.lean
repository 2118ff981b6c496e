import FailureIntake.Failure

/-! Batches: the failures that one submission hands to the queue. -/
namespace FailureIntake

structure Batch where
  failures : List Failure
  ne_nil : failures ≠ []
deriving DecidableEq

namespace Batch

/-- Only the empty list is no batch. -/
def ofList? (failures : List Failure) : Option Batch :=
  if h : failures ≠ [] then some ⟨failures, h⟩ else none

/-- What a batch of no failures is refused with. -/
def emptyMessage : String :=
  "A failure batch must contain at least one failure"

def single (failure : Failure) : Batch :=
  ⟨[failure], List.cons_ne_nil _ _⟩

def size (b : Batch) : Nat :=
  b.failures.length

/-- The first failure names the batch in metrics and logs. -/
def first (b : Batch) : Failure :=
  b.failures.head b.ne_nil

/-- The stage of the first failure. -/
def primaryStage (b : Batch) : Stage :=
  b.first.stage

/-- Whether a failure of the stage is in the batch. -/
def contains (b : Batch) (stage : Stage) : Bool :=
  b.failures.any fun f => f.stage == stage

end Batch

end FailureIntake
