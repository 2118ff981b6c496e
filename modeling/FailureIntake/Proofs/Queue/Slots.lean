import FailureIntake.Proofs.Queue.Waiting

/-! The slots of a queue as a count of permits. Whoever counts permits up and down, as they are taken,
handed on and given back, never needs to look at the batches; and the count is always the number of
slots that are neither filled nor promised. -/
namespace FailureIntake

/-- Permits, with the tickets of those who hold one for a slot that they have not filled, and of those
who wait for one. -/
structure Semaphore where
  permits : Nat
  holders : List Nat := []
  line : List Nat := []
  closed : Bool := false
deriving DecidableEq

namespace Semaphore

def tryAcquire (m : Semaphore) : Semaphore :=
  if m.closed || m.permits = 0 then m else { m with permits := m.permits - 1 }

def acquire (m : Semaphore) (ticket : Nat) : Semaphore :=
  if m.closed then m
  else if m.permits = 0 then { m with line := m.line ++ [ticket] }
  else { m with permits := m.permits - 1 }

/-- A permit comes back. It goes to the first in line, unless the semaphore is closed. -/
def release (m : Semaphore) : Semaphore :=
  match m.closed, m.line with
  | false, ticket :: rest => { m with holders := m.holders ++ [ticket], line := rest }
  | _, _ => { m with permits := m.permits + 1 }

/-- A holder's permit goes with it. -/
def leave (m : Semaphore) (ticket : Nat) : Semaphore :=
  { m with holders := m.holders.filter (· ≠ ticket), line := m.line.filter (· ≠ ticket) }

def cancel (m : Semaphore) (ticket : Nat) : Semaphore :=
  if ticket ∈ m.holders then (m.leave ticket).release else m.leave ticket

/-- Whoever waits looks again: it uses its permit, or waits on, or gives up if closed. -/
def poll (m : Semaphore) (ticket : Nat) : Semaphore :=
  if m.closed then m.cancel ticket
  else if ticket ∈ m.holders then m.leave ticket
  else m

def close (m : Semaphore) : Semaphore :=
  { m with closed := true }

/-- Closes, and takes back the permits of discarded batches. -/
def discard (m : Semaphore) (batches : Nat) : Semaphore :=
  { m.close with permits := m.permits + batches }

theorem release_closed {m : Semaphore} (closed : m.closed = true) :
    m.release = { m with permits := m.permits + 1 } := by
  simp [release, closed]

end Semaphore

namespace BoundedQueue

variable {q q' : BoundedQueue} {b : Batch} {slots ticket : Nat}

structure Fits (q : BoundedQueue) (slots : Nat) : Prop where
  capacity : q.capacity = slots
  taken : q.buffered.length + q.granted.length ≤ slots

theorem length_forget_lt {w : Waiter} (held : w ∈ q.granted) (own : w.ticket = ticket) :
    (q.forget ticket).granted.length < q.granted.length :=
  List.length_filter_lt_length_iff_exists.mpr ⟨w, held, by simp [own]⟩

theorem length_forget_le (q : BoundedQueue) (ticket : Nat) :
    (q.forget ticket).granted.length ≤ q.granted.length :=
  List.length_filter_le _ _

theorem grantNext_slots (q : BoundedQueue) :
    q.grantNext.capacity = q.capacity ∧ q.grantNext.granted.length ≤ q.granted.length + 1 := by
  unfold grantNext
  split <;> simp

theorem Fits.push (fits : q.Fits slots) (room : q.isFull = false) : (q.push b).Fits slots where
  capacity := fits.capacity
  taken := by
    have free : q.capacity - (q.buffered.length + q.granted.length) ≠ 0 := by
      simpa [isFull, BoundedQueue.free] using room
    have := fits.capacity
    simp only [BoundedQueue.push, List.length_append, List.length_singleton]
    omega

theorem Fits.forget (fits : q.Fits slots) : (q.forget ticket).Fits slots where
  capacity := fits.capacity
  taken := by
    have := fits.taken
    have := q.length_forget_le ticket
    change q.buffered.length + (q.forget ticket).granted.length ≤ slots
    omega

/-- A slot that is filled by the one it was promised to. -/
theorem Fits.fill {w : Waiter} (fits : q.Fits slots) (held : w ∈ q.granted)
    (own : w.ticket = ticket) : ((q.forget ticket).push b).Fits slots where
  capacity := fits.capacity
  taken := by
    have := fits.taken
    have := length_forget_lt held own
    change (q.buffered ++ [b]).length + (q.forget ticket).granted.length ≤ slots
    rw [List.length_append, List.length_singleton]
    omega

theorem Fits.withdraw (fits : q.Fits slots) : (q.withdraw ticket).Fits slots := by
  unfold BoundedQueue.withdraw
  split
  · next any =>
    obtain ⟨w, held, own⟩ := List.any_eq_true.mp any
    have fewer := length_forget_lt held (by simpa using own)
    have ⟨capacity, more⟩ := (q.forget ticket).grantNext_slots
    refine ⟨capacity.trans fits.capacity, ?_⟩
    have := fits.taken
    rw [(q.forget ticket).grantNext_frame.2.1]
    change q.buffered.length + _ ≤ _
    omega
  · exact fits.forget

theorem take_slots (taken : q.take = (some b, q')) :
    q'.capacity = q.capacity ∧ q'.granted.length ≤ q.granted.length + 1 := by
  unfold take at taken
  split at taken
  · cases taken
  · injection taken with _ after
    subst after
    exact grantNext_slots _

theorem Fits.take (fits : q.Fits slots) (taken : q.take = (some b, q')) : q'.Fits slots := by
  have ⟨capacity, more⟩ := take_slots taken
  refine ⟨capacity.trans fits.capacity, ?_⟩
  have := fits.taken
  rw [(take_some taken).1, List.length_cons] at this
  omega

theorem Fits.step {s s' : Submission} (fits : q.Fits slots) (step : Submission.Step s q s' q') :
    q'.Fits slots := by
  cases step with
  | rests | turns | waitsOn | reports => exact fits
  | enters _ _ room => exact fits.push room
  | parks => exact ⟨fits.capacity, fits.taken⟩
  | leaves => exact fits.forget
  | fills _ _ held =>
    exact fits.fill (List.mem_of_find?_eq_some held) (by simpa using List.find?_some held)
  | withdraws => exact fits.withdraw

/-! The count. Each operation on the queue does to the count of free slots what it does to a
semaphore's permits, so neither ever depends on the other being looked at. -/

def semaphore (q : BoundedQueue) : Semaphore where
  permits := q.free
  holders := q.granted.map (·.ticket)
  line := q.parked.map (·.ticket)
  closed := q.closed

theorem free_push (q : BoundedQueue) (b : Batch) : (q.push b).free = q.free - 1 := by
  simp only [free, push, List.length_append, List.length_singleton]
  omega

theorem semaphore_push (q : BoundedQueue) (b : Batch) :
    (q.push b).semaphore = { q.semaphore with permits := q.free - 1 } := by
  rw [← free_push q b]
  rfl

theorem permits_eq_zero : q.semaphore.permits = 0 ↔ q.isFull = true := by
  simp [semaphore, isFull]

theorem semaphore_tryEnter (q : BoundedQueue) (b : Batch) :
    (q.tryEnter b).2.semaphore = q.semaphore.tryAcquire := by
  unfold Semaphore.tryAcquire
  cases closed : q.closed with
  | true => simp [tryEnter_closed closed, semaphore, closed]
  | false =>
    have opened : q.semaphore.closed = false := closed
    cases full : q.isFull with
    | true => simp [tryEnter_full closed full, permits_eq_zero.mpr full]
    | false =>
      have some : q.semaphore.permits ≠ 0 := by simp [permits_eq_zero, full]
      rw [tryEnter_room closed full, semaphore_push]
      simp [opened, some]
      rfl

theorem semaphore_park (q : BoundedQueue) (b : Batch) :
    (q.park b).semaphore =
      { q.semaphore with line := q.semaphore.line ++ [q.nextTicket] } := by
  simp [semaphore, park, free]

theorem semaphore_enter (q : BoundedQueue) (b : Batch) :
    (q.enter b).2.semaphore = q.semaphore.acquire q.nextTicket := by
  unfold Semaphore.acquire
  cases closed : q.closed with
  | true => simp [enter_closed closed, semaphore, closed]
  | false =>
    have opened : q.semaphore.closed = false := closed
    cases full : q.isFull with
    | true =>
      rw [enter_full closed full, semaphore_park]
      simp [opened, permits_eq_zero.mpr full]
    | false =>
      have some : q.semaphore.permits ≠ 0 := by simp [permits_eq_zero, full]
      rw [enter_room closed full, semaphore_push]
      simp [opened, some]
      rfl

/-- A slot that came back stays free, or it is handed on. -/
theorem semaphore_grantNext (permits : Nat) (back : q.free = permits + 1) :
    q.grantNext.semaphore = { q.semaphore with permits := permits }.release := by
  unfold grantNext Semaphore.release
  cases closed : q.closed with
  | true => simp [semaphore, closed, back]
  | false =>
    cases parked : q.parked with
    | nil => simp [semaphore, closed, parked, back]
    | cons w rest =>
      have handed : ({ q with granted := q.granted ++ [w], parked := rest } : BoundedQueue).free =
          permits := by
        simp only [free, List.length_append, List.length_singleton] at back ⊢
        omega
      simpa [semaphore, closed, parked] using handed

theorem semaphore_take (fits : q.Fits slots) (taken : q.take = (some b, q')) :
    q'.semaphore = q.semaphore.release := by
  unfold take at taken
  split at taken
  · cases taken
  · next first rest buffered =>
    injection taken with _ after
    subst after
    have := fits.capacity
    have := fits.taken
    refine semaphore_grantNext q.free ?_
    simp only [free]
    rw [buffered, List.length_cons] at *
    omega

/-- Tickets are distinct, so at most one of them goes. -/
theorem length_forget (distinct : (q.granted.map (·.ticket)).Nodup) (ticket : Nat) :
    (q.forget ticket).granted.length + (if ticket ∈ q.semaphore.holders then 1 else 0) =
      q.granted.length := by
  have gone : q.granted.countP (·.ticket = ticket) =
      if ticket ∈ q.semaphore.holders then 1 else 0 := by
    rw [semaphore, ← distinct.count, List.count, List.countP_map]
    rfl
  have split := q.granted.length_eq_countP_add_countP (·.ticket = ticket)
  rw [gone] at split
  have left : (q.forget ticket).granted.length =
      q.granted.countP fun w => ¬decide (w.ticket = ticket) = true := by
    simp [forget, List.countP_eq_length_filter]
  omega

theorem semaphore_forget (fits : q.Fits slots) (distinct : (q.granted.map (·.ticket)).Nodup)
    (ticket : Nat) :
    (q.forget ticket).semaphore =
      { q.semaphore.leave ticket with
        permits := q.free + if ticket ∈ q.semaphore.holders then 1 else 0 } := by
  have := length_forget distinct ticket
  have := fits.capacity
  have := fits.taken
  have back : (q.forget ticket).free =
      q.free + if ticket ∈ q.semaphore.holders then 1 else 0 := by
    change q.capacity - (q.buffered.length + (q.forget ticket).granted.length) = _
    simp only [free]
    omega
  rw [← back]
  simp [semaphore, Semaphore.leave, forget, List.filter_map, Function.comp_def]

theorem semaphore_withdraw (fits : q.Fits slots) (distinct : (q.granted.map (·.ticket)).Nodup) :
    (q.withdraw ticket).semaphore = q.semaphore.cancel ticket := by
  have forgotten := semaphore_forget fits distinct ticket
  have same : q.granted.any (·.ticket = ticket) = decide (ticket ∈ q.semaphore.holders) := by
    simp [semaphore, List.any_eq]
  unfold withdraw Semaphore.cancel
  rw [same]
  by_cases held : ticket ∈ q.semaphore.holders
  · rw [if_pos held] at forgotten
    simp only [held, decide_true, if_true]
    rw [semaphore_grantNext q.free (congrArg Semaphore.permits forgotten), forgotten]
    rfl
  · rw [if_neg held] at forgotten
    simp only [held, decide_false, if_false]
    exact forgotten

theorem semaphore_resume (fits : q.Fits slots) (distinct : (q.granted.map (·.ticket)).Nodup) :
    (q.resume ticket).2.semaphore = q.semaphore.poll ticket := by
  have forgotten := semaphore_forget fits distinct ticket
  unfold Semaphore.poll
  cases closed : q.closed with
  | true =>
    have shut : q.semaphore.closed = true := closed
    rw [resume_closed closed, if_pos shut]
    change (q.forget ticket).semaphore = _
    rw [forgotten, Semaphore.cancel]
    split
    · exact (Semaphore.release_closed (m := q.semaphore.leave ticket) shut).symm
    · rfl
  | false =>
    have opened : ¬q.semaphore.closed = true := by simp [semaphore, closed]
    rw [if_neg opened]
    cases found : q.granted.find? (·.ticket = ticket) with
    | some w =>
      have held : ticket ∈ q.semaphore.holders :=
        List.mem_map.mpr ⟨w, List.mem_of_find?_eq_some found, by simpa using List.find?_some found⟩
      rw [resume_held closed found, if_pos held]
      rw [if_pos held] at forgotten
      have free : (q.forget ticket).free = q.free + 1 := congrArg Semaphore.permits forgotten
      change ((q.forget ticket).push w.batch).semaphore = _
      rw [semaphore_push, forgotten, free]
      rfl
    | none =>
      have unheld : ticket ∉ q.semaphore.holders := by
        intro held
        obtain ⟨w, member, own⟩ := List.mem_map.mp held
        simpa [own] using List.find?_eq_none.mp found w member
      rw [resume_unheld closed found, if_neg unheld]

theorem semaphore_dropReceiver (fits : q.Fits slots) :
    q.dropReceiver.semaphore = q.semaphore.discard q.buffered.length := by
  have := fits.capacity
  have := fits.taken
  have free : q.dropReceiver.free = q.free + q.buffered.length := by
    simp only [BoundedQueue.free, dropReceiver, List.length_nil]
    omega
  simp only [semaphore, free]
  rfl

end BoundedQueue

/-! Along a run. A semaphore that goes with the traffic is told which operations there are, and
nothing of what is in the queue but how many batches are received or discarded. -/

namespace Semaphore

/-- The next operation of a submission, which gets the ticket if it has to wait. -/
def advance (m : Semaphore) (ticket : Nat) (s : Submission) : Semaphore :=
  match s.phase, s.route with
  | .called, .async => m.acquire ticket
  | .called, .blocking _ => m.tryAcquire
  | .foundFull, .blocking .currentThread => m
  | .foundFull, _ => m.acquire ticket
  | .waiting own, _ => m.poll own
  | _, _ => m

def abandon (m : Semaphore) (s : Submission) : Semaphore :=
  match s.route, s.phase with
  | .async, .waiting own => m.cancel own
  | _, _ => m

def receiver (m : Semaphore) (t : Traffic) (r : ReceiverMove) : Semaphore :=
  if t.queue.receiverDropped then m
  else match r with
    | .receive _ => if t.queue.buffered.length = 0 then m else m.release
    | .close => m.close
    | .drop => m.discard t.queue.buffered.length

def perform (m : Semaphore) (t : Traffic) : Traffic.Move → Semaphore
  | .advance i _ => (t.submissions[i]?).elim m (m.advance t.queue.nextTicket)
  | .abandon i => (t.submissions[i]?).elim m m.abandon
  | .receiver r => m.receiver t r
  | .clone | .release | .call _ _ _ => m

def run (m : Semaphore) (t : Traffic) : List Traffic.Move → Semaphore
  | [] => m
  | move :: rest => (m.perform t move).run (t.perform move) rest

end Semaphore

namespace Submission

variable {s : Submission} {q : BoundedQueue} {slots : Nat}

theorem resolve_queue (s : Submission) (r : Admission × BoundedQueue) : (s.resolve r).2 = r.2 := by
  rcases r with ⟨_ | _ | _, q⟩ <;> rfl

theorem semaphore_advance (fits : q.Fits slots) (distinct : (q.granted.map (·.ticket)).Nodup)
    (wait : Duration) :
    (s.advance wait q).2.semaphore = q.semaphore.advance q.nextTicket s := by
  unfold advance Semaphore.advance
  cases phase : s.phase with
  | called =>
    cases route : s.route with
    | async =>
      simp only [resolve_queue]
      exact q.semaphore_enter s.batch
    | blocking context =>
      simp only
      rw [← q.semaphore_tryEnter s.batch]
      rcases q.tryEnter s.batch with ⟨_ | _ | _, q'⟩ <;> rfl
  | foundFull =>
    cases route : s.route with
    | async =>
      simp only [resolve_queue]
      exact q.semaphore_enter s.batch
    | blocking context =>
      cases context with
      | currentThread => rfl
      | none | multiThread =>
        simp only [resolve_queue]
        exact q.semaphore_enter s.batch
  | waiting ticket =>
    simp only [resolve_queue]
    exact BoundedQueue.semaphore_resume fits distinct
  | entered | returned | abandoned => rfl

theorem semaphore_abandon (fits : q.Fits slots) (distinct : (q.granted.map (·.ticket)).Nodup) :
    (s.abandon q).2.semaphore = q.semaphore.abandon s := by
  unfold abandon Semaphore.abandon
  cases route : s.route with
  | blocking => rfl
  | async =>
    cases phase : s.phase with
    | waiting ticket => exact BoundedQueue.semaphore_withdraw fits distinct
    | called | foundFull | entered | returned | abandoned => rfl

end Submission

namespace Traffic

variable {t t' : Traffic} {slots : Nat}

theorem fits_change (fits : t.queue.Fits slots) (change : Change t t') : t'.queue.Fits slots := by
  cases change with
  | rests | handles | called | findsNothing => exact fits
  | operates _ step => exact fits.step step
  | receives _ taken => exact fits.take taken
  | closes => exact ⟨fits.capacity, fits.taken⟩
  | drops =>
    have := fits.taken
    refine ⟨fits.capacity, ?_⟩
    simp only [BoundedQueue.dropReceiver, List.length_nil]
    omega

theorem Ticketed.granted (ticketed : t.Ticketed) : (t.queue.granted.map (·.ticket)).Nodup :=
  ticketed.distinct.sublist ((List.sublist_append_left _ _).map _)

theorem semaphore_receiver (fits : t.queue.Fits slots) (m : ReceiverMove) :
    (t.performReceiver m).queue.semaphore = t.queue.semaphore.receiver t m := by
  unfold performReceiver Semaphore.receiver
  split
  · rfl
  cases m with
  | receive how =>
    simp only [receive]
    split
    · next b q' attempt =>
      have taken := BoundedQueue.receive_batch attempt
      have some : t.queue.buffered.length ≠ 0 := by
        rw [(BoundedQueue.take_some taken).1]
        simp
      rw [if_neg some]
      exact BoundedQueue.semaphore_take fits taken
    · next attempt =>
      obtain ⟨empty, rfl⟩ := BoundedQueue.receive_nothing attempt (by simp)
      simp [empty]
    · next attempt =>
      obtain ⟨empty, rfl⟩ := BoundedQueue.receive_nothing attempt (by simp)
      simp [empty]
  | close => rfl
  | drop => exact BoundedQueue.semaphore_dropReceiver fits

theorem semaphore_perform (fits : t.queue.Fits slots) (ticketed : t.Ticketed) (move : Move) :
    (t.perform move).queue.semaphore = t.queue.semaphore.perform t move := by
  cases move with
  | clone =>
    simp only [perform]
    split <;> rfl
  | release => rfl
  | call caller route batch =>
    simp only [perform]
    split <;> rfl
  | advance i wait =>
    simp only [perform, advance, Semaphore.perform]
    cases t.submissions[i]? with
    | none => rfl
    | some s => exact Submission.semaphore_advance fits ticketed.granted wait
  | abandon i =>
    simp only [perform, abandon, Semaphore.perform]
    cases t.submissions[i]? with
    | none => rfl
    | some s => exact Submission.semaphore_abandon fits ticketed.granted
  | receiver m => exact semaphore_receiver fits m

/-- The semaphore never has to be set by what the queue holds. -/
theorem semaphore_run (fits : t.queue.Fits slots) (ticketed : t.Ticketed) (orderly : t.Orderly)
    (moves : List Move) : (t.run moves).queue.semaphore = t.queue.semaphore.run t moves := by
  induction moves generalizing t with
  | nil => rfl
  | cons move rest ih =>
    have change := t.perform_change move
    rw [Semaphore.run, ← semaphore_perform fits ticketed move]
    exact ih (fits_change fits change) (ticketed.change orderly change)
      (perform_orderly orderly move)

theorem run_fits (fits : t.queue.Fits slots) (moves : List Move) : (t.run moves).queue.Fits slots := by
  induction moves generalizing t with
  | nil => exact fits
  | cons move rest ih => exact ih (fits_change fits (t.perform_change move))

end Traffic

end FailureIntake
