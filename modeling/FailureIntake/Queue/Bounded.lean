import FailureIntake.Statistics

/-! The bounded queue. It has a fixed number of slots. A batch in the queue takes one, and so does
a submission that was handed a slot while it waited and has not filled it yet. Submissions that
find no slot wait in the order of their arrival, and every slot that becomes free goes to the one
that has waited longest. -/
namespace FailureIntake

/-- A submission that waits for a slot, or holds one that it has not filled. -/
structure Waiter where
  ticket : Nat
  batch : Batch
deriving DecidableEq

/-- Slots, the batches in them, and the submissions around them. -/
structure BoundedQueue where
  capacity : Nat
  /-- Batches for the consumer, oldest first. -/
  buffered : List Batch := []
  /-- Submissions with a slot that they have not filled yet. -/
  granted : List Waiter := []
  /-- Submissions without a slot, longest waiting first. -/
  parked : List Waiter := []
  closed : Bool := false
  receiverDropped : Bool := false
  nextTicket : Nat := 0
  statistics : Statistics := {}
deriving DecidableEq

inductive Entry where
  | accepted
  | closed
  | full
deriving DecidableEq, Repr

/-- How a submission stands after an attempt. -/
inductive Admission where
  | accepted
  | closed
  | waiting (ticket : Nat)
deriving DecidableEq, Repr

inductive Reception where
  | batch (b : Batch)
  /-- No batch will ever come. -/
  | ended
  /-- No batch is here yet. -/
  | pending
deriving DecidableEq

namespace BoundedQueue

/-- The most slots that a queue can have. -/
def slotLimit : Nat := Nat.pow 2 61 - 1

/-- A fresh queue has at least one slot. There is none with more slots than the limit. -/
def ofCapacity? (requested : Nat) : Option BoundedQueue :=
  if max requested 1 ≤ slotLimit then some { capacity := max requested 1 } else none

/-- Slots that are neither filled nor promised. -/
def free (q : BoundedQueue) : Nat :=
  q.capacity - (q.buffered.length + q.granted.length)

/-- The length that producers see: all slots but the free ones. -/
def length (q : BoundedQueue) : Nat :=
  q.capacity - q.free

def isEmpty (q : BoundedQueue) : Bool :=
  q.length == 0

/-- No slot is free. -/
def isFull (q : BoundedQueue) : Bool :=
  q.free == 0

def push (q : BoundedQueue) (b : Batch) : BoundedQueue :=
  { q with buffered := q.buffered ++ [b] }

def tryEnter (q : BoundedQueue) (b : Batch) : Entry × BoundedQueue :=
  if q.closed then (.closed, q)
  else if q.isFull then (.full, q)
  else (.accepted, q.push b)

/-- A submission gets a ticket and waits behind all others. -/
def park (q : BoundedQueue) (b : Batch) : BoundedQueue :=
  { q with parked := q.parked ++ [⟨q.nextTicket, b⟩], nextTicket := q.nextTicket + 1 }

/-- One attempt to enter: at once if a slot is free, else by waiting for one. -/
def enter (q : BoundedQueue) (b : Batch) : Admission × BoundedQueue :=
  match q.tryEnter b with
  | (.accepted, q') => (.accepted, q')
  | (.closed, q') => (.closed, q')
  | (.full, q') => (.waiting q'.nextTicket, q'.park b)

/-- Hands a free slot to the submission that has waited longest. A closed queue hands out none. -/
def grantNext (q : BoundedQueue) : BoundedQueue :=
  match q.closed, q.parked with
  | false, w :: rest => { q with granted := q.granted ++ [w], parked := rest }
  | _, _ => q

/-- The waiting submission with this ticket is no longer here. -/
def forget (q : BoundedQueue) (ticket : Nat) : BoundedQueue :=
  { q with
    granted := q.granted.filter (·.ticket ≠ ticket)
    parked := q.parked.filter (·.ticket ≠ ticket) }

/-- A waiting submission looks again: it fails if the queue was closed, it fills its slot if it was
handed one, and waits on otherwise. -/
def resume (q : BoundedQueue) (ticket : Nat) : Admission × BoundedQueue :=
  if q.closed then (.closed, q.forget ticket)
  else match q.granted.find? (·.ticket = ticket) with
    | some w => (.accepted, (q.forget ticket).push w.batch)
    | none => (.waiting ticket, q)

/-- A waiting submission gives up. A slot that it held goes to the next one. -/
def withdraw (q : BoundedQueue) (ticket : Nat) : BoundedQueue :=
  if q.granted.any (·.ticket = ticket) then (q.forget ticket).grantNext else q.forget ticket

/-- Takes the oldest batch and counts it. Its slot goes to the longest waiting submission. -/
def take (q : BoundedQueue) : Option Batch × BoundedQueue :=
  match q.buffered with
  | [] => (none, q)
  | b :: rest =>
    (some b, ({ q with buffered := rest, statistics := q.statistics.addBatch b }).grantNext)

/-- One attempt to receive. Without a batch, the queue is at its end if no producer is left, or if
it is closed and no submission can still fill a slot. -/
def receive (q : BoundedQueue) (producersLeft : Bool) : Reception × BoundedQueue :=
  match q.take with
  | (some b, q') => (.batch b, q')
  | (none, q') =>
    if !producersLeft || (q'.closed && q'.granted.isEmpty) then (.ended, q') else (.pending, q')

/-- Stops accepting; batches in the queue can still be received. -/
def close (q : BoundedQueue) : BoundedQueue :=
  { q with closed := true }

/-- Closes the queue and discards what is in it. -/
def dropReceiver (q : BoundedQueue) : BoundedQueue :=
  { q with closed := true, receiverDropped := true, buffered := [] }

end BoundedQueue

end FailureIntake
