import FailureIntake.Failure
import FailureIntake.Observability.Log
import FailureIntake.Observability.Metric

/-! Events of submission and consumption, each with the metric updates and the log entry it
stands for. -/
namespace FailureIntake

/-- Something that happened between the pipeline's stages and the consumer. -/
inductive Event where
  | batchSubmitted (stage : Stage) (size : Nat)
  | submissionBlocked (wait : Duration)
  | messageFilteredOut
  | inputFailureRecorded (inputId : String)
  | queueSize (size : Nat)
  | batchConsumed (size : Nat)
deriving DecidableEq, Repr

namespace Event

/-- The updates an event makes, in order. A submitted batch counts as one batch and, under the same
stage, as many failures as it holds. -/
def metrics : Event → List MetricUpdate
  | .batchSubmitted stage size =>
    [⟨.counter, "tailrace_failure_batches_submitted_total", [("failure_type", stage.label)], .count 1⟩,
     ⟨.counter, "tailrace_failures_submitted_total", [("failure_type", stage.label)], .count size⟩,
     ⟨.histogram, "tailrace_failure_batch_size", [], .count size⟩]
  | .submissionBlocked wait => [⟨.histogram, "tailrace_submission_wait_seconds", [], .wait wait⟩]
  | .messageFilteredOut => [⟨.counter, "tailrace_messages_filtered_out_total", [], .count 1⟩]
  | .inputFailureRecorded inputId =>
    [⟨.counter, "tailrace_input_failures_total", [("input_id", inputId)], .count 1⟩]
  | .queueSize size => [⟨.gauge, "tailrace_failure_queue_size", [], .count size⟩]
  | .batchConsumed _ => [⟨.counter, "tailrace_failure_batches_consumed_total", [], .count 1⟩]

/-- The part of the program that events report from. -/
def logTarget : String := "tailrace::metrics"

/-- The entry an event writes, if it writes one. -/
def log? : Event → Option LogEntry
  | .batchSubmitted stage size =>
    some ⟨.trace, logTarget, "Failure batch submitted",
      [("failure_type", .bare stage.label), ("size", .bare (toString size))]⟩
  | .submissionBlocked wait =>
    some ⟨.trace, logTarget, "Submission wait", [("duration_ms", .bare (toString wait.millis))]⟩
  | .inputFailureRecorded inputId =>
    some ⟨.trace, logTarget, "Input failure recorded", [("input_id", .bare inputId)]⟩
  | .batchConsumed size =>
    some ⟨.trace, logTarget, "Failure batch consumed", [("size", .bare (toString size))]⟩
  | .messageFilteredOut | .queueSize _ => none

end Event

/-- What a run leaves behind for an observer: events and plain log entries, in order. -/
inductive Note where
  | event (e : Event)
  | log (entry : LogEntry)
deriving DecidableEq, Repr

namespace Note

def metrics : Note → List MetricUpdate
  | .event e => e.metrics
  | .log _ => []

def logs : Note → List LogEntry
  | .event e => e.log?.toList
  | .log entry => [entry]

def event? : Note → Option Event
  | .event e => some e
  | .log _ => none

end Note

end FailureIntake
