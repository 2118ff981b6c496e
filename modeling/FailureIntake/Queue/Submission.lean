import FailureIntake.Observability.Event
import FailureIntake.Queue.Bounded
import FailureIntake.Queue.Error

/-! Submitting to the bounded queue and receiving from it, with the events that observers see. -/
namespace FailureIntake

/-- Where a submitting thread runs: outside any runtime, or on a thread of one. -/
inductive RuntimeContext where
  | none
  | currentThread
  | multiThread
deriving DecidableEq, Repr

/-- How a submission stands, with the reason if it failed. -/
inductive SubmissionStatus where
  | accepted
  | refused (reason : QueueError)
  | waiting (ticket : Nat)
deriving DecidableEq, Repr

structure Submitted where
  status : SubmissionStatus
  notes : List Note
  queue : BoundedQueue

namespace BoundedQueue

/-- The part of the program that the queue's log entries come from. -/
def logTarget : String := "tailrace::queue::bounded"

def closedEntry : LogEntry :=
  ⟨.error, logTarget, "Failure queue closed, dropping batch", []⟩

def closedWhileWaitingEntry : LogEntry :=
  ⟨.error, logTarget, "Failure queue closed while waiting, dropping batch", []⟩

def fullInCurrentThreadEntry : LogEntry :=
  ⟨.error, logTarget, "Failure queue full inside a current-thread runtime", []⟩

def fullEntry (capacity : Nat) : LogEntry :=
  ⟨.debug, logTarget, "Failure queue full, blocking submitter",
    [("capacity", .bare (toString capacity))]⟩

def sizeNote (q : BoundedQueue) : Note :=
  .event (.queueSize q.length)

/-- What a submission reports once its batch is in the queue: how long it waited, unless it entered
without waiting for a slot, and the length. -/
def enteredNotes (q : BoundedQueue) (wait : Option Duration) : List Note :=
  (wait.map fun w => Note.event (.submissionBlocked w)).toList ++ [q.sizeNote]

/-- A submission that may wait reports how long it waited, also if it did not. -/
def settle (onClosed : LogEntry) (wait : Duration) : Admission × BoundedQueue → Submitted
  | (.accepted, q) => ⟨.accepted, q.enteredNotes (some wait), q⟩
  | (.closed, q) => ⟨.refused .closed, [.log onClosed], q⟩
  | (.waiting t, q) => ⟨.waiting t, [], q⟩

def submitAsync (q : BoundedQueue) (wait : Duration) (b : Batch) : Submitted :=
  settle closedEntry wait (q.enter b)

/-- An asynchronous submission looks again after it waited. -/
def resumeAsync (q : BoundedQueue) (wait : Duration) (ticket : Nat) : Submitted :=
  settle closedEntry wait (q.resume ticket)

/-- A thread that found the queue full tries again, now prepared to wait. On the thread of a
current-thread runtime it refuses to. -/
def enterBlocking (q : BoundedQueue) (context : RuntimeContext) (b : Batch) : Submitted :=
  if context = .currentThread then
    ⟨.refused .blockingInCurrentThread, [.log fullInCurrentThreadEntry], q⟩
  else settle closedWhileWaitingEntry ⟨0, 0⟩ (q.enter b)

/-- A submission from a thread that can be made to wait. It reports a wait only if it had to wait. -/
def submitBlocking (q : BoundedQueue) (context : RuntimeContext) (b : Batch) : Submitted :=
  match q.tryEnter b with
  | (.accepted, q') => ⟨.accepted, q'.enteredNotes none, q'⟩
  | (.closed, q') => ⟨.refused .closed, [.log closedEntry], q'⟩
  | (.full, q') =>
    let s := q'.enterBlocking context b
    { s with notes := .log (fullEntry q.capacity) :: s.notes }

def resumeBlocking (q : BoundedQueue) (wait : Duration) (ticket : Nat) : Submitted :=
  settle closedWhileWaitingEntry wait (q.resume ticket)

/-- What receiving a batch reports: the batch's size, and the length that is left. -/
def consumedNotes (q : BoundedQueue) (b : Batch) : List Note :=
  [.event (.batchConsumed b.size), .event (.queueSize q.buffered.length)]

end BoundedQueue

end FailureIntake
