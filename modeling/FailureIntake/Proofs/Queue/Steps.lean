import FailureIntake.Proofs.Queue.Delivery

/-! All that can happen in one move. An operation of a submission goes one of a few ways, and each
way says when it is taken. A move of the traffic is such an operation, a call, or an act of the
receiver. What holds of all traffic is shown for each of these ways. -/
namespace FailureIntake

namespace BoundedQueue

variable {q : BoundedQueue} {b : Batch} {ticket : Nat}

theorem tryEnter_closed (closed : q.closed = true) : q.tryEnter b = (.closed, q) := by
  simp [tryEnter, closed]

theorem tryEnter_full (opened : q.closed = false) (full : q.isFull = true) :
    q.tryEnter b = (.full, q) := by
  simp [tryEnter, opened, full]

theorem tryEnter_room (opened : q.closed = false) (room : q.isFull = false) :
    q.tryEnter b = (.accepted, q.push b) := by
  simp [tryEnter, opened, room]

theorem enter_closed (closed : q.closed = true) : q.enter b = (.closed, q) := by
  simp [enter, tryEnter_closed closed]

theorem enter_full (opened : q.closed = false) (full : q.isFull = true) :
    q.enter b = (.waiting q.nextTicket, q.park b) := by
  simp [enter, tryEnter_full opened full]

theorem enter_room (opened : q.closed = false) (room : q.isFull = false) :
    q.enter b = (.accepted, q.push b) := by
  simp [enter, tryEnter_room opened room]

theorem resume_closed (closed : q.closed = true) :
    q.resume ticket = (.closed, q.forget ticket) := by
  simp [resume, closed]

theorem resume_held {w : Waiter} (opened : q.closed = false)
    (held : q.granted.find? (·.ticket = ticket) = some w) :
    q.resume ticket = (.accepted, (q.forget ticket).push w.batch) := by
  simp [resume, opened, held]

theorem resume_unheld (opened : q.closed = false)
    (unheld : q.granted.find? (·.ticket = ticket) = none) :
    q.resume ticket = (.waiting ticket, q) := by
  simp [resume, opened, unheld]

theorem grantNext_flags (q : BoundedQueue) :
    q.grantNext.closed = q.closed ∧ q.grantNext.receiverDropped = q.receiverDropped ∧
      q.grantNext.statistics = q.statistics := by
  unfold grantNext
  split <;> exact ⟨rfl, rfl, rfl⟩

theorem withdraw_flags (q : BoundedQueue) (ticket : Nat) :
    (q.withdraw ticket).closed = q.closed ∧
      (q.withdraw ticket).receiverDropped = q.receiverDropped ∧
      (q.withdraw ticket).statistics = q.statistics := by
  unfold withdraw
  split
  · exact grantNext_flags _
  · exact ⟨rfl, rfl, rfl⟩

theorem take_flags {q' : BoundedQueue} (taken : q.take = (some b, q')) :
    q'.closed = q.closed ∧ q'.receiverDropped = q.receiverDropped ∧
      q'.statistics = q.statistics.addBatch b := by
  unfold take at taken
  split at taken
  · cases taken
  · cases taken
    exact grantNext_flags _

end BoundedQueue

namespace Submission

/-- The ways an operation of a submission can go. -/
inductive Step (s : Submission) (q : BoundedQueue) : Submission → BoundedQueue → Prop where
  | rests : Step s q s q
  /-- It goes on outside the queue, or ends there. -/
  | turns {phase : Phase} (entries : List LogEntry)
      (outside : s.phase = .called ∨ s.phase = .foundFull) (out : phase.isIn = false)
      (idle : ∀ n, phase ≠ .waiting n) : Step s q (s.move phase (entries.map .log)) q
  | enters {waited : Bool} (outside : s.phase = .called ∨ s.phase = .foundFull)
      (opened : q.closed = false) (room : q.isFull = false) :
      Step s q (s.move (.entered waited) []) (q.push s.batch)
  | parks (outside : s.phase = .called ∨ s.phase = .foundFull) (opened : q.closed = false)
      (full : q.isFull = true) : Step s q (s.move (.waiting q.nextTicket) []) (q.park s.batch)
  | leaves {ticket : Nat} (entries : List LogEntry) (waiting : s.phase = .waiting ticket)
      (closed : q.closed = true) :
      Step s q (s.move (.returned (.error .closed)) (entries.map .log)) (q.forget ticket)
  /-- It fills the slot that it was handed. -/
  | fills {ticket : Nat} {w : Waiter} (waiting : s.phase = .waiting ticket)
      (opened : q.closed = false) (held : q.granted.find? (·.ticket = ticket) = some w) :
      Step s q (s.move (.entered true) []) ((q.forget ticket).push w.batch)
  | waitsOn {ticket : Nat} (waiting : s.phase = .waiting ticket) (opened : q.closed = false)
      (unheld : q.granted.find? (·.ticket = ticket) = none) :
      Step s q (s.move (.waiting ticket) []) q
  | reports {waited : Bool} {wait : Option Duration} (entered : s.phase = .entered waited) :
      Step s q (s.move (.returned (.ok ())) (q.enteredNotes wait)) q
  | withdraws {ticket : Nat} (waiting : s.phase = .waiting ticket) :
      Step s q (s.move .abandoned []) (q.withdraw ticket)

variable {s s' : Submission} {q q' : BoundedQueue}

theorem step_enter (outside : s.phase = .called ∨ s.phase = .foundFull) :
    Step s q (s.resolve (q.enter s.batch)).1 (s.resolve (q.enter s.batch)).2 := by
  cases closed : q.closed with
  | true =>
    rw [BoundedQueue.enter_closed closed]
    exact .turns [s.onClosed] outside rfl (by simp)
  | false =>
    cases full : q.isFull with
    | true =>
      rw [BoundedQueue.enter_full closed full]
      exact .parks outside closed full
    | false =>
      rw [BoundedQueue.enter_room closed full]
      exact .enters outside closed full

theorem step_resume {ticket : Nat} (waiting : s.phase = .waiting ticket) :
    Step s q (s.resolve (q.resume ticket)).1 (s.resolve (q.resume ticket)).2 := by
  cases closed : q.closed with
  | true =>
    rw [BoundedQueue.resume_closed closed]
    exact .leaves [s.onClosed] waiting closed
  | false =>
    cases held : q.granted.find? (·.ticket = ticket) with
    | some w =>
      rw [BoundedQueue.resume_held closed held]
      exact .fills waiting closed held
    | none =>
      rw [BoundedQueue.resume_unheld closed held]
      exact .waitsOn waiting closed held

theorem advance_step (s : Submission) (q : BoundedQueue) (wait : Duration) :
    Step s q (s.advance wait q).1 (s.advance wait q).2 := by
  unfold advance
  split
  · next called _ => exact step_enter (.inl called)
  · next called _ =>
    cases closed : q.closed with
    | true =>
      rw [BoundedQueue.tryEnter_closed closed]
      exact .turns [BoundedQueue.closedEntry] (.inl called) rfl (by simp)
    | false =>
      cases full : q.isFull with
      | true =>
        rw [BoundedQueue.tryEnter_full closed full]
        exact .turns [BoundedQueue.fullEntry q.capacity] (.inl called) rfl (by simp)
      | false =>
        rw [BoundedQueue.tryEnter_room closed full]
        exact .enters (.inl called) closed full
  · next found _ =>
    exact .turns [BoundedQueue.fullInCurrentThreadEntry] (.inr found) rfl (by simp)
  · next found _ => exact step_enter (.inr found)
  · next waiting => exact step_resume waiting
  · next entered => exact .reports entered
  · exact .rests
  · exact .rests

theorem abandon_step (s : Submission) (q : BoundedQueue) :
    Step s q (s.abandon q).1 (s.abandon q).2 := by
  unfold abandon
  split
  · next _ called => exact .turns [] (.inl called) rfl (by simp)
  · next _ waiting => exact .withdraws waiting
  · exact .rests

/-- A submission neither closes the queue nor receives from it. -/
theorem Step.flags (step : Step s q s' q') :
    q'.closed = q.closed ∧ q'.receiverDropped = q.receiverDropped ∧
      q'.statistics = q.statistics := by
  cases step with
  | @withdraws ticket => exact q.withdraw_flags ticket
  | _ => exact ⟨rfl, rfl, rfl⟩

/-- Only an open queue takes a batch, and then it is the submission's own. -/
theorem Step.batches (step : Step s q s' q') (owns : s.Owns q) :
    s'.phase.isIn = s.phase.isIn ∧ q'.buffered = q.buffered ∨
      q.closed = false ∧ s.phase.isIn = false ∧ s'.phase.isIn = true ∧
        q'.buffered = q.buffered ++ [s.batch] := by
  have out (outside : s.phase = .called ∨ s.phase = .foundFull) : s.phase.isIn = false := by
    rcases outside with now | now <;> rw [now] <;> rfl
  have outWaiting {ticket : Nat} (waiting : s.phase = .waiting ticket) : s.phase.isIn = false := by
    rw [waiting]
    rfl
  cases step with
  | rests => exact .inl ⟨rfl, rfl⟩
  | turns _ outside outAfter => exact .inl ⟨outAfter.trans (out outside).symm, rfl⟩
  | enters outside opened => exact .inr ⟨opened, out outside, rfl, rfl⟩
  | parks outside => exact .inl ⟨(out outside).symm, rfl⟩
  | leaves _ waiting => exact .inl ⟨(outWaiting waiting).symm, rfl⟩
  | @fills ticket w waiting opened held =>
    have member : w ∈ q.waiters := List.mem_append_left _ (List.mem_of_find?_eq_some held)
    have own := (owns ticket waiting).2 w member (by simpa using List.find?_some held)
    exact .inr ⟨opened, outWaiting waiting, rfl, congrArg (fun b => q.buffered ++ [b]) own⟩
  | waitsOn waiting => exact .inl ⟨(outWaiting waiting).symm, rfl⟩
  | reports entered =>
    rw [entered]
    exact .inl ⟨rfl, rfl⟩
  | @withdraws ticket waiting =>
    exact .inl ⟨(outWaiting waiting).symm, (q.withdraw_frame ticket).2.1⟩

end Submission

namespace Traffic

/-- The ways a move of the traffic can go. -/
inductive Change (t : Traffic) : Traffic → Prop where
  | rests : Change t t
  | handles (n : Nat) : Change t { t with handles := n }
  | called (caller : Nat) (route : Route) (batch : Batch) : Change t (t.call caller route batch)
  | operates {i : Nat} {s s' : Submission} {q' : BoundedQueue} (found : t.submissions[i]? = some s)
      (step : Submission.Step s t.queue s' q') : Change t (t.update i s (s', q'))
  | receives {b : Batch} {q' : BoundedQueue} (kept : t.queue.receiverDropped = false)
      (taken : t.queue.take = (some b, q')) :
      Change t { t with
        queue := q', results := t.results ++ [some b]
        receiverNotes := t.receiverNotes ++ q'.consumedNotes b }
  /-- There is no batch, which an attempt to receive may return or wait out. -/
  | findsNothing {results : List (Option Batch)} (kept : t.queue.receiverDropped = false)
      (empty : t.queue.buffered = []) (same : results = t.results ∨ results = t.results ++ [none]) :
      Change t { t with results := results }
  | closes (kept : t.queue.receiverDropped = false) : Change t { t with queue := t.queue.close }
  | drops (kept : t.queue.receiverDropped = false) :
      Change t { t with queue := t.queue.dropReceiver }

variable {t : Traffic}

theorem receive_change (kept : t.queue.receiverDropped = false) (how : Receiving) :
    Change t (t.receive how) := by
  unfold receive
  split
  · next attempt => exact .receives kept (BoundedQueue.receive_batch attempt)
  · next attempt =>
    obtain ⟨empty, rfl⟩ := BoundedQueue.receive_nothing attempt (by simp)
    exact .findsNothing kept empty (.inr rfl)
  · next attempt =>
    obtain ⟨empty, rfl⟩ := BoundedQueue.receive_nothing attempt (by simp)
    refine .findsNothing kept empty ?_
    split
    · exact .inr rfl
    · exact .inl rfl

theorem performReceiver_change (t : Traffic) (m : ReceiverMove) :
    Change t (t.performReceiver m) := by
  unfold performReceiver
  split
  · exact .rests
  · next present =>
    have kept : t.queue.receiverDropped = false := by simpa using present
    cases m with
    | receive how => exact receive_change kept how
    | close => exact .closes kept
    | drop => exact .drops kept

theorem perform_change (t : Traffic) (move : Move) : Change t (t.perform move) := by
  cases move with
  | clone =>
    simp only [perform]
    split
    · exact .rests
    · exact .handles _
  | release => exact .handles _
  | call caller route batch =>
    simp only [perform]
    split
    · exact .rests
    · exact .called caller route batch
  | advance i wait =>
    simp only [perform, advance]
    split
    · next s found => exact .operates found (s.advance_step t.queue wait)
    · exact .rests
  | abandon i =>
    simp only [perform, abandon]
    split
    · next s found => exact .operates found (s.abandon_step t.queue)
    · exact .rests
  | receiver m => exact performReceiver_change t m

end Traffic

end FailureIntake
