import FailureIntake.Failure

/-! Why a batch could not be handed over. -/
namespace FailureIntake

inductive QueueError where
  /-- The consumer is gone or has closed the queue. -/
  | closed
  /-- The queue is full, and waiting would keep the consumer that shares the thread from running. -/
  | blockingInCurrentThread
deriving DecidableEq, Repr

def QueueError.message : QueueError → String
  | .closed => "Failure queue is closed: the consumer is no longer available"
  | .blockingInCurrentThread =>
    "Failure queue is full and cannot block inside a current-thread runtime"

/-- A batch that could not be handed to the queue, by the stage it came from. -/
structure SubmissionError where
  stage : Stage
  reason : QueueError
deriving DecidableEq, Repr

/-- The text names the stage and the queue's reason. -/
def SubmissionError.message (e : SubmissionError) : String :=
  "Failed to submit " ++ e.stage.label ++ " failure batch: " ++ e.reason.message

end FailureIntake
