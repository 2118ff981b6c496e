import FailureIntake.Queue.Submission
import FailureIntake.Submission.Program

/-! The traffic around a bounded queue: any number of producers' handles and of submissions that
are under way, and one receiver. Every move is one operation on the queue or one stretch of a
thread between two operations, so a list of moves is an interleaving, and what it leads to is a
reachable state. -/
namespace FailureIntake

inductive Route where
  | async
  | blocking (context : RuntimeContext)
deriving DecidableEq, Repr

inductive Phase where
  | called
  /-- The attempt to enter at once found no slot, and the batch came back. -/
  | foundFull
  | waiting (ticket : Nat)
  /-- The batch is in the queue, and the submission has yet to report it. -/
  | entered (waited : Bool)
  | returned (answer : QueueAnswer)
  | abandoned
deriving DecidableEq

namespace Phase

def isIn : Phase → Bool
  | .entered _ | .returned (.ok ()) => true
  | _ => false

def underWay : Phase → Bool
  | .returned _ | .abandoned => false
  | _ => true

end Phase

structure Submission where
  caller : Nat
  route : Route
  batch : Batch
  phase : Phase := .called
  notes : List Note := []

namespace Submission

def move (s : Submission) (phase : Phase) (notes : List Note) : Submission :=
  { s with phase := phase, notes := s.notes ++ notes }

/-- The entry that a waiting submission leaves if the queue is closed. -/
def onClosed (s : Submission) : LogEntry :=
  match s.route with
  | .async => BoundedQueue.closedEntry
  | .blocking _ => BoundedQueue.closedWhileWaitingEntry

def resolve (s : Submission) : Admission × BoundedQueue → Submission × BoundedQueue
  | (.accepted, q) => (s.move (.entered true) [], q)
  | (.closed, q) => (s.move (.returned (.error .closed)) [.log s.onClosed], q)
  | (.waiting ticket, q) => (s.move (.waiting ticket) [], q)

/-- The next operation of a submission. A thread that found the queue full tries again in a second
operation, with whatever happened in between. -/
def advance (wait : Duration) (s : Submission) (q : BoundedQueue) : Submission × BoundedQueue :=
  match s.phase, s.route with
  | .called, .async => s.resolve (q.enter s.batch)
  | .called, .blocking _ =>
    match q.tryEnter s.batch with
    | (.accepted, q') => (s.move (.entered false) [], q')
    | (.closed, q') =>
      (s.move (.returned (.error .closed)) [.log BoundedQueue.closedEntry], q')
    | (.full, q') => (s.move .foundFull [.log (BoundedQueue.fullEntry q.capacity)], q')
  | .foundFull, .blocking .currentThread =>
    (s.move (.returned (.error .blockingInCurrentThread))
      [.log BoundedQueue.fullInCurrentThreadEntry], q)
  | .foundFull, _ => s.resolve (q.enter s.batch)
  | .waiting ticket, _ => s.resolve (q.resume ticket)
  | .entered waited, _ =>
    (s.move (.returned (.ok ())) (q.enteredNotes (if waited then some wait else none)), q)
  | .returned _, _ | .abandoned, _ => (s, q)

/-- An asynchronous submission can be given up until its batch is in the queue. -/
def abandon (s : Submission) (q : BoundedQueue) : Submission × BoundedQueue :=
  match s.route, s.phase with
  | .async, .called => (s.move .abandoned [], q)
  | .async, .waiting ticket => (s.move .abandoned [], q.withdraw ticket)
  | _, _ => (s, q)

end Submission

/-- A batch that the queue accepted, with the submission and the caller it came from. -/
structure Acceptance where
  submission : Nat
  caller : Nat
  batch : Batch

/-- A queue with all that is under way around it, and the history of what was accepted and what
the receiver returned. -/
structure Traffic where
  queue : BoundedQueue
  handles : Nat := 1
  submissions : List Submission := []
  accepted : List Acceptance := []
  results : List (Option Batch) := []
  receiverNotes : List Note := []

inductive Receiving where
  | immediate
  | async
  | blocking
deriving DecidableEq, Repr

inductive ReceiverMove where
  | receive (how : Receiving)
  | close
  | drop
deriving DecidableEq, Repr

namespace Traffic

inductive Move where
  | clone
  | release
  | call (caller : Nat) (route : Route) (batch : Batch)
  | advance (i : Nat) (wait : Duration)
  | abandon (i : Nat)
  | receiver (move : ReceiverMove)

/-- A submission under way holds on to its handle. -/
def producersLeft (t : Traffic) : Bool :=
  t.handles != 0 || t.submissions.any fun s => s.phase.underWay

/-- A producer calls; nothing has happened yet. -/
def call (t : Traffic) (caller : Nat) (route : Route) (batch : Batch) : Traffic :=
  { t with submissions := t.submissions ++ [{ caller, route, batch }] }

/-- Puts the result of a submission's operation in its place. A batch that entered goes to the end
of the history. -/
def update (t : Traffic) (i : Nat) (s : Submission) : Submission × BoundedQueue → Traffic
  | (s', q') =>
    { t with
      queue := q'
      submissions := t.submissions.set i s'
      accepted := if s'.phase.isIn && !s.phase.isIn
        then t.accepted ++ [⟨i, s.caller, s.batch⟩] else t.accepted }

def advance (t : Traffic) (i : Nat) (wait : Duration) : Traffic :=
  match t.submissions[i]? with
  | some s => t.update i s (s.advance wait t.queue)
  | none => t

def abandon (t : Traffic) (i : Nat) : Traffic :=
  match t.submissions[i]? with
  | some s => t.update i s (s.abandon t.queue)
  | none => t

/-- One attempt to receive. Without a batch, an immediate one returns in any case, the others only
if none will ever come. -/
def receive (t : Traffic) (how : Receiving) : Traffic :=
  match t.queue.receive t.producersLeft with
  | (.batch b, q') =>
    { t with queue := q', results := t.results ++ [some b]
             receiverNotes := t.receiverNotes ++ q'.consumedNotes b }
  | (.ended, q') => { t with queue := q', results := t.results ++ [none] }
  | (.pending, q') =>
    { t with queue := q', results := if how = .immediate then t.results ++ [none] else t.results }

/-- What the receiver does, as long as there is one. -/
def performReceiver (t : Traffic) (m : ReceiverMove) : Traffic :=
  if t.queue.receiverDropped then t
  else match m with
    | .receive how => t.receive how
    | .close => { t with queue := t.queue.close }
    | .drop => { t with queue := t.queue.dropReceiver }

def perform (t : Traffic) : Move → Traffic
  | .clone => if t.handles = 0 then t else { t with handles := t.handles + 1 }
  | .release => { t with handles := t.handles - 1 }
  | .call caller route batch => if t.handles = 0 then t else t.call caller route batch
  | .advance i wait => t.advance i wait
  | .abandon i => t.abandon i
  | .receiver m => t.performReceiver m

def run (t : Traffic) (moves : List Move) : Traffic :=
  moves.foldl perform t

def received (t : Traffic) : List Batch :=
  t.results.filterMap id

end Traffic

end FailureIntake
