import FailureIntake.Config.Settings
import FailureIntake.Queue.Submission
import FailureIntake.Submission.Service

/-! A pipeline at work: the submission service, the queue behind it, and the consumer. One thread
performs steps on it. A step that would make this thread wait for ever is cut off where it would
begin to wait. -/
namespace FailureIntake

structure Policy where
  submit : Bool := true
  keep : Bool := true
deriving DecidableEq, Repr

/-- What is behind the service: the bounded queue, or answers laid down beforehand, after which
every batch is accepted. -/
inductive Channel where
  | bounded (queue : BoundedQueue)
  | scripted (answers : List QueueAnswer)

/-- Who still holds what. The consumer's half is part of a bounded queue. -/
structure Pipeline where
  channel : Channel
  policy : Policy := {}
  /-- The policy is the configuration itself and cannot be changed or watched. -/
  policyFixed : Bool := false
  context : RuntimeContext := .none
  hasService : Bool := true
  hasHandle : Bool := true
  now : Instant := ⟨0, 0⟩

/-- What the consumer does between the two attempts of a waiting submission. -/
inductive Meanwhile where
  | receive
  | close
  | dropReceiver
  | nothing
deriving DecidableEq, Repr

inductive Step where
  | call (c : Call)
  | submit (failures : List Failure)
  | submitAsync (failures : List Failure)
  | submitParked (failures : List Failure) (meanwhile : Meanwhile)
  | setPolicy (policy : Policy)
  | tryReceive
  | receive
  | blockingReceive
  | drain
  | close
  | dropReceiver
  | dropService
  | dropProducers
  | queueState
  | statistics
  /-- Calls on other threads, one list each, while this thread receives until they are done. -/
  | consume (workers : List (List Call))
  /-- A call on another thread, and a close as soon as it waits. -/
  | closeWhileWaiting (thenDrop : Bool) (call : Call)

inductive HandResult where
  | accepted
  | refused (reason : QueueError)
  | pending
deriving DecidableEq, Repr

inductive StepResult where
  | called (outcome : Outcome (Option Decision))
  | hand (r : HandResult)
  | emptyBatch
  /-- The second attempt of a waiting submission, after the consumer acted. -/
  | resumed (received : Option Batch) (lengthBetween : Nat) (second : HandResult)
  | received (r : Reception)
  | drained (failures : List Failure)
  | done
  | dropped (something : Bool)
  | state (capacity : Nat) (isEmpty isClosed : Bool)
  | statistics (s : Statistics)
  | consumed (outcomes : List (List (Outcome (Option Decision)))) (received : List Batch)
  | notWaiting
  | wouldBlock
  /-- The service, the queue handle or the receiver is not there. -/
  | gone

/-- A step's answer and what it leaves for observers. -/
structure StepReport where
  result : StepResult
  acts : List Act := []
  notes : List Note := []
  pipeline : Pipeline

namespace StepReport

/-- The policy questions of a step, unless nobody can watch them. -/
def questions (r : StepReport) : List PolicyQuestion :=
  if r.pipeline.policyFixed then [] else r.acts.filterMap Act.question?

def causes (r : StepReport) : List Cause :=
  r.acts.filterMap Act.cause?

def scriptedBatches (r : StepReport) : List Batch :=
  match r.pipeline.channel with
  | .scripted _ => r.acts.filterMap Act.batch?
  | .bounded _ => []

/-- Everything that observers see, in order. -/
def observed (r : StepReport) : List Note :=
  r.acts.flatMap Act.notes ++ r.notes

end StepReport

/-- A fresh queue of the size that is set. -/
def BoundedQueue.ofSettings? (s : Config.Settings) : Option BoundedQueue :=
  ofCapacity? s.queueCapacity.toNat

def Config.Settings.policy (s : Settings) : Policy where
  submit := s.submitProcessingFailures
  keep := s.keepFailedDuplicate

namespace Pipeline

/-- A service with a fresh queue of the size that is set. It asks the settings themselves, and no
other producer holds the queue. -/
def ofSettings? (s : Config.Settings) (context : RuntimeContext) (now : Instant) : Option Pipeline :=
  (BoundedQueue.ofSettings? s).map fun q =>
    { channel := .bounded q, policy := s.policy, policyFixed := true, context := context
      hasHandle := false, now := now }

def queue? (p : Pipeline) : Option BoundedQueue :=
  match p.channel with
  | .bounded q => some q
  | .scripted _ => none

def withQueue (p : Pipeline) (q : BoundedQueue) : Pipeline :=
  { p with channel := .bounded q }

/-- The bounded queue, if a producer's handle on it is there. -/
def producer? (p : Pipeline) : Option BoundedQueue :=
  if p.hasHandle then p.queue? else none

def consumer? (p : Pipeline) : Option BoundedQueue :=
  p.queue?.filter fun q => !q.receiverDropped

def producersLeft (p : Pipeline) : Bool :=
  p.hasService || p.hasHandle

/-- The length, as far as a handle shows it. -/
def length? (p : Pipeline) : Option Nat :=
  p.producer?.map BoundedQueue.length

/-- A submission finds no slot, and its context would let it wait for one. -/
def fullForWaiters (p : Pipeline) (q : BoundedQueue) : Bool :=
  q.isFull && p.context ≠ .currentThread

/-- A submission on this thread would wait, and nobody could ever end the wait. -/
def wouldWait (p : Pipeline) (q : BoundedQueue) : Bool :=
  !q.closed && p.fullForWaiters q

/-- A submission by this thread; without an answer, it was cut off and left no trace. -/
def submit (p : Pipeline) (b : Batch) : Attempt Pipeline :=
  match p.channel with
  | .scripted [] => ⟨some (.ok ()), [], p⟩
  | .scripted (a :: rest) => ⟨some a, [], { p with channel := .scripted rest }⟩
  | .bounded q =>
    if p.wouldWait q then ⟨none, [], p⟩
    else
      let s := q.submitBlocking p.context b
      match s.status with
      | .accepted => ⟨some (.ok ()), s.notes, p.withQueue s.queue⟩
      | .refused reason => ⟨some (.error reason), s.notes, p.withQueue s.queue⟩
      | .waiting _ => ⟨none, s.notes, p⟩

/-- The policy and the clock answer from the pipeline's fields. -/
def world : World Pipeline where
  readSubmit p := (p.policy.submit, p)
  readKeep p := (p.policy.keep, p)
  now p := (p.now, p)
  submit := submit

def call (p : Pipeline) (c : Call) : StepReport :=
  let r := c.program.run world p
  match r.progress with
  | .finished outcome => { result := .called outcome, acts := r.acts, pipeline := r.world }
  | .waiting _ => { result := .wouldBlock, acts := r.acts, pipeline := r.world }

/-- The state while a consumer thread runs beside the submitting ones. -/
structure Consuming where
  pipeline : Pipeline
  received : List Batch := []

namespace Consuming

/-- The consumer takes the oldest batch, and reports it. -/
def take (c : Consuming) : List Note × Consuming :=
  match c.pipeline.queue? with
  | none => ([], c)
  | some q =>
    match q.take with
    | (none, _) => ([], c)
    | (some b, q') =>
      (q'.consumedNotes b, { pipeline := c.pipeline.withQueue q', received := c.received ++ [b] })

/-- Before a submission that would wait, the consumer takes a batch. The thread of a submitting
worker belongs to no runtime. -/
def submit (c : Consuming) (b : Batch) : Attempt Consuming :=
  let (taken, c) :=
    match c.pipeline.queue? with
    | some q => if !q.closed && q.isFull then c.take else ([], c)
    | none => ([], c)
  let a := { c.pipeline with context := .none }.submit b
  ⟨a.answer, taken ++ a.notes, { c with pipeline := { a.world with context := c.pipeline.context } }⟩

/-- The consumer takes what is left, at most `n` batches. -/
def takeUpTo : Nat → Consuming → List Note × Consuming
  | 0, c => ([], c)
  | n + 1, c =>
    let (first, c) := c.take
    let (notes, c) := takeUpTo n c
    (first ++ notes, c)

def world : World Consuming where
  readSubmit c := (c.pipeline.policy.submit, c)
  readKeep c := (c.pipeline.policy.keep, c)
  now c := (c.pipeline.now, c)
  submit := submit

/-- A worker's calls, one after the other, with what observers see of them. -/
def calls : List Call → Consuming → List (Outcome (Option Decision)) × List Note × Consuming
  | [], c => ([], [], c)
  | call :: rest, c =>
    let r := call.program.run world c
    let (outcomes, notes, c') := calls rest r.world
    let notes := r.acts.flatMap Act.notes ++ notes
    match r.progress with
    | .finished o => (o :: outcomes, notes, c')
    | .waiting _ => (outcomes, notes, c')

/-- All workers' calls. Batches of one worker keep their order; the workers take their turns one
after the other, which is one of the orders that threads can run in. -/
def workers : List (List Call) → Consuming →
    List (List (Outcome (Option Decision))) × List Note × Consuming
  | [], c => ([], [], c)
  | w :: rest, c =>
    let (outcomes, notes, c) := calls w c
    let (others, later, c) := workers rest c
    (outcomes :: others, notes ++ later, c)

end Consuming

/-- Calls on other threads beside a consumer that empties the queue. -/
def consume (p : Pipeline) (workers : List (List Call)) : StepReport :=
  if !p.hasService || p.consumer?.isNone then { result := .gone, pipeline := p }
  else
    let (outcomes, notes, c) := Consuming.workers workers { pipeline := p }
    let left := (c.pipeline.queue?.map (·.buffered.length)).getD 0
    let (taken, c) := c.takeUpTo left
    { result := .consumed outcomes c.received, notes := notes ++ taken, pipeline := c.pipeline }

/-- The state of a call whose first wait ends with the queue closed. -/
structure Closing where
  pipeline : Pipeline
  thenDrop : Bool

namespace Closing

/-- The receiver closes, and may be dropped after that. -/
def shut (c : Closing) : Closing :=
  match c.pipeline.queue? with
  | none => c
  | some q =>
    { c with pipeline := c.pipeline.withQueue (if c.thenDrop then q.dropReceiver else q.close) }

/-- What a submission reports that waits until the queue is closed. -/
def waitNotes (c : Closing) : List Note :=
  c.pipeline.queue?.toList.flatMap fun q =>
    [.log (BoundedQueue.fullEntry q.capacity), .log BoundedQueue.closedWhileWaitingEntry]

/-- A submission that has to wait is refused, since the queue is closed meanwhile. -/
def submit (c : Closing) (b : Batch) : Attempt Closing :=
  let a := c.pipeline.submit b
  match a.answer with
  | some answer => ⟨some answer, a.notes, { c with pipeline := a.world }⟩
  | none => ⟨some (.error .closed), c.waitNotes, c.shut⟩

def world : World Closing where
  readSubmit c := (c.pipeline.policy.submit, c)
  readKeep c := (c.pipeline.policy.keep, c)
  now c := (c.pipeline.now, c)
  submit := submit

end Closing

/-- Starts a call on another thread on a full queue, which a handle has to show, and closes the
queue. -/
def closeWhileWaiting (p : Pipeline) (thenDrop : Bool) (c : Call) : StepReport :=
  match p.consumer? with
  | none => { result := .gone, pipeline := p }
  | some q =>
    if !(p.hasService && p.hasHandle) then { result := .gone, pipeline := p }
    else if !p.fullForWaiters q then { result := .notWaiting, pipeline := p }
    else
      let r := c.program.run Closing.world ⟨p, thenDrop⟩
      let result := match r.progress with
        | .finished outcome => StepResult.called outcome
        | .waiting _ => .wouldBlock
      { result := result, notes := r.acts.flatMap Act.notes, pipeline := r.world.shut.pipeline }

def handResult : SubmissionStatus → HandResult
  | .accepted => .accepted
  | .refused reason => .refused reason
  | .waiting _ => .pending

/-- Runs `f` on the queue and a batch of the failures, if there is a handle and a failure. -/
def withBatch (p : Pipeline) (failures : List Failure) (f : BoundedQueue → Batch → StepReport) :
    StepReport :=
  match p.producer? with
  | none => { result := .gone, pipeline := p }
  | some q =>
    match Batch.ofList? failures with
    | none => { result := .emptyBatch, pipeline := p }
    | some b => f q b

def submitByHand (p : Pipeline) (failures : List Failure) : StepReport :=
  p.withBatch failures fun q b =>
    if p.wouldWait q then { result := .wouldBlock, pipeline := p }
    else
      let s := q.submitBlocking p.context b
      { result := .hand (handResult s.status), notes := s.notes, pipeline := p.withQueue s.queue }

def settled (s : Submitted) : BoundedQueue :=
  match s.status with
  | .waiting ticket => s.queue.withdraw ticket
  | _ => s.queue

/-- One attempt of an asynchronous submission, which is given up if it has to wait. -/
def submitAsync (p : Pipeline) (failures : List Failure) : StepReport :=
  p.withBatch failures fun q b =>
    let s := q.submitAsync ⟨0, 0⟩ b
    { result := .hand (handResult s.status), notes := s.notes, pipeline := p.withQueue (settled s) }

/-- What the consumer does: the batch that it takes, what it reports, and the queue after it. -/
def Meanwhile.act (q : BoundedQueue) : Meanwhile → Option Batch × List Note × BoundedQueue
  | .receive =>
    match q.take with
    | (some b, q') => (some b, q'.consumedNotes b, q')
    | (none, q') => (none, [], q')
  | .close => (none, [], q.close)
  | .dropReceiver => (none, [], q.dropReceiver)
  | .nothing => (none, [], q)

/-- Two attempts of an asynchronous submission, with the consumer acting between them. -/
def submitParked (p : Pipeline) (failures : List Failure) (meanwhile : Meanwhile) : StepReport :=
  p.withBatch failures fun q b =>
    let first := q.submitAsync ⟨0, 0⟩ b
    match first.status with
    | .waiting ticket =>
      let (received, notes, between) := Meanwhile.act first.queue meanwhile
      let second := between.resumeAsync ⟨0, 0⟩ ticket
      { result := .resumed received between.length (handResult second.status)
        notes := first.notes ++ notes ++ second.notes
        pipeline := p.withQueue (settled second) }
    | status =>
      { result := .hand (handResult status), notes := first.notes
        pipeline := p.withQueue first.queue }

def tryReceive (p : Pipeline) (q : BoundedQueue) : StepReport :=
  match q.take with
  | (some b, q') =>
    { result := .received (.batch b), notes := q'.consumedNotes b, pipeline := p.withQueue q' }
  | (none, _) => { result := .received .ended, pipeline := p }

def receive (p : Pipeline) (q : BoundedQueue) : StepReport :=
  match q.receive p.producersLeft with
  | (.batch b, q') =>
    { result := .received (.batch b), notes := q'.consumedNotes b, pipeline := p.withQueue q' }
  | (r, _) => { result := .received r, pipeline := p }

/-- A receive on this thread counts as one that would wait: a handle shows an empty, open queue,
or without a handle the service is still there. -/
def receiveWouldWait (p : Pipeline) (q : BoundedQueue) : Bool :=
  if p.hasHandle then q.isEmpty && !q.closed else p.hasService

def blockingReceive (p : Pipeline) (q : BoundedQueue) : StepReport :=
  if p.receiveWouldWait q then { result := .wouldBlock, pipeline := p } else p.tryReceive q

/-- Takes the batches that are here, at most `n`. -/
def drainUpTo : Nat → BoundedQueue → List Batch × List Note × BoundedQueue
  | 0, q => ([], [], q)
  | n + 1, q =>
    match q.take with
    | (none, _) => ([], [], q)
    | (some b, q') =>
      let (bs, notes, last) := drainUpTo n q'
      (b :: bs, q'.consumedNotes b ++ notes, last)

def drain (p : Pipeline) (q : BoundedQueue) : StepReport :=
  let (bs, notes, q') := drainUpTo q.buffered.length q
  { result := .drained (bs.flatMap Batch.failures), notes := notes, pipeline := p.withQueue q' }

/-- Runs `f` on the queue if its receiver is there. -/
def withConsumer (p : Pipeline) (f : BoundedQueue → StepReport) : StepReport :=
  match p.consumer? with
  | none => { result := .gone, pipeline := p }
  | some q => f q

def perform (p : Pipeline) : Step → StepReport
  | .call c => if p.hasService then p.call c else { result := .gone, pipeline := p }
  | .submit fs => p.submitByHand fs
  | .submitAsync fs => p.submitAsync fs
  | .submitParked fs m => p.submitParked fs m
  | .setPolicy policy =>
    { result := .done, pipeline := if p.policyFixed then p else { p with policy := policy } }
  | .tryReceive => p.withConsumer p.tryReceive
  | .receive => p.withConsumer p.receive
  | .blockingReceive => p.withConsumer p.blockingReceive
  | .drain => p.withConsumer p.drain
  | .close => p.withConsumer fun q => { result := .done, pipeline := p.withQueue q.close }
  | .dropReceiver =>
    match p.consumer? with
    | none => { result := .dropped false, pipeline := p }
    | some q => { result := .dropped true, pipeline := p.withQueue q.dropReceiver }
  | .dropService => { result := .dropped p.hasService, pipeline := { p with hasService := false } }
  | .dropProducers =>
    { result := .dropped p.producersLeft
      pipeline := { p with hasService := false, hasHandle := false } }
  | .queueState =>
    match p.producer? with
    | none => { result := .gone, pipeline := p }
    | some q => { result := .state q.capacity q.isEmpty q.closed, pipeline := p }
  | .statistics => p.withConsumer fun q => { result := .statistics q.statistics, pipeline := p }
  | .consume workers => p.consume workers
  | .closeWhileWaiting thenDrop c => p.closeWhileWaiting thenDrop c

end Pipeline

end FailureIntake
