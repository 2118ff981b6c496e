import FailureIntake.Proofs.Queue.Traffic

/-! What the operations on a bounded queue do to the batches in it and to the submissions that
wait for a slot, and what one operation of a submission does to both. -/
namespace FailureIntake

namespace BoundedQueue

variable {q q' : BoundedQueue} {b : Batch} {ticket : Nat}

/-- All who hold a ticket, with a slot or without one. -/
def waiters (q : BoundedQueue) : List Waiter :=
  q.granted ++ q.parked

@[simp] theorem waiters_park : (q.park b).waiters = q.waiters ++ [⟨q.nextTicket, b⟩] := by
  simp [waiters, park]

@[simp] theorem waiters_forget :
    (q.forget ticket).waiters = q.waiters.filter (·.ticket ≠ ticket) := by
  simp [waiters, forget]

theorem grantNext_frame (q : BoundedQueue) :
    q.grantNext.waiters = q.waiters ∧ q.grantNext.buffered = q.buffered ∧
      q.grantNext.nextTicket = q.nextTicket ∧ q.grantNext.receiverDropped = q.receiverDropped := by
  unfold grantNext
  split
  · next parked => simp [waiters, parked]
  · exact ⟨rfl, rfl, rfl, rfl⟩

theorem withdraw_frame (q : BoundedQueue) (ticket : Nat) :
    (q.withdraw ticket).waiters = q.waiters.filter (·.ticket ≠ ticket) ∧
      (q.withdraw ticket).buffered = q.buffered ∧
      (q.withdraw ticket).nextTicket = q.nextTicket ∧
      (q.withdraw ticket).receiverDropped = q.receiverDropped := by
  unfold withdraw
  split
  · have frame := (q.forget ticket).grantNext_frame
    rw [waiters_forget] at frame
    exact frame
  · exact ⟨waiters_forget, rfl, rfl, rfl⟩

theorem take_none (taken : q.take = (none, q')) : q.buffered = [] ∧ q' = q := by
  unfold take at taken
  split at taken
  · next empty =>
    cases taken
    exact ⟨empty, rfl⟩
  · cases taken

theorem take_some (taken : q.take = (some b, q')) :
    q.buffered = b :: q'.buffered ∧ q'.waiters = q.waiters ∧ q'.nextTicket = q.nextTicket ∧
      q'.receiverDropped = q.receiverDropped := by
  unfold take at taken
  split at taken
  · cases taken
  · next first rest buffered =>
    injection taken with same after
    injection same with same
    subst same after
    have frame := grantNext_frame
      { q with buffered := rest, statistics := q.statistics.addBatch first }
    rw [frame.1, frame.2.1, frame.2.2.1, frame.2.2.2]
    exact ⟨buffered, rfl, rfl, rfl⟩

theorem receive_batch {producersLeft : Bool} (received : q.receive producersLeft = (.batch b, q')) :
    q.take = (some b, q') := by
  unfold receive at received
  split at received
  · next taken =>
    cases received
    exact taken
  · split at received <;> cases received

theorem receive_nothing {producersLeft : Bool} {r : Reception}
    (received : q.receive producersLeft = (r, q')) (nothing : ∀ b, r ≠ .batch b) :
    q.buffered = [] ∧ q' = q := by
  unfold receive at received
  split at received
  · cases received
    exact absurd rfl (nothing _)
  · next taken =>
    obtain ⟨empty, rfl⟩ := take_none taken
    split at received <;> cases received <;> exact ⟨empty, rfl⟩

theorem tryEnter_cases (q : BoundedQueue) (b : Batch) :
    q.tryEnter b = (.accepted, q.push b) ∨ q.tryEnter b = (.closed, q) ∨
      q.tryEnter b = (.full, q) := by
  unfold tryEnter
  split
  · exact .inr (.inl rfl)
  split
  · exact .inr (.inr rfl)
  · exact .inl rfl

theorem enter_cases (q : BoundedQueue) (b : Batch) :
    q.enter b = (.accepted, q.push b) ∨ q.enter b = (.closed, q) ∨
      q.enter b = (.waiting q.nextTicket, q.park b) := by
  unfold enter
  rcases q.tryEnter_cases b with attempt | attempt | attempt <;> simp [attempt]

theorem resume_cases (q : BoundedQueue) (ticket : Nat) :
    q.resume ticket = (.closed, q.forget ticket) ∨
      (∃ w ∈ q.waiters, w.ticket = ticket ∧
        q.resume ticket = (.accepted, (q.forget ticket).push w.batch)) ∨
      q.resume ticket = (.waiting ticket, q) := by
  unfold resume
  split
  · exact .inl rfl
  split
  · next w found =>
    refine .inr (.inl ⟨w, ?_, ?_, rfl⟩)
    · exact List.mem_append_left _ (List.mem_of_find?_eq_some found)
    · simpa using List.find?_some found
  · exact .inr (.inr rfl)

end BoundedQueue

/-- What one operation of a submission can do to the queue: the batches stay as they are, or its own
batch comes to the end and it is in from then on; and it gets no ticket, or a new one. -/
structure Submission.Effect (s : Submission) (q : BoundedQueue) (s' : Submission)
    (q' : BoundedQueue) : Prop where
  same : s'.caller = s.caller ∧ s'.route = s.route ∧ s'.batch = s.batch
  receiver : q'.receiverDropped = q.receiverDropped
  batches : s'.phase.isIn = s.phase.isIn ∧ q'.buffered = q.buffered ∨
    s.phase.isIn = false ∧ s'.phase.isIn = true ∧ q'.buffered = q.buffered ++ [s.batch]
  tickets : q'.waiters ⊆ q.waiters ∧ q'.nextTicket = q.nextTicket ∧
      (∀ n, s'.phase = .waiting n → s.phase = .waiting n) ∨
    q'.waiters = q.waiters ++ [⟨q.nextTicket, s.batch⟩] ∧ q'.nextTicket = q.nextTicket + 1 ∧
      s'.phase = .waiting q.nextTicket

namespace Submission

variable {s s' : Submission} {q q' : BoundedQueue} {wait : Duration}

/-- Whoever waits with the submission's ticket brings its batch. -/
def Owns (s : Submission) (q : BoundedQueue) : Prop :=
  ∀ n, s.phase = .waiting n → n < q.nextTicket ∧ ∀ w ∈ q.waiters, w.ticket = n → w.batch = s.batch

namespace Effect

theorem refl (s : Submission) (q : BoundedQueue) : Effect s q s q :=
  ⟨⟨rfl, rfl, rfl⟩, rfl, .inl ⟨rfl, rfl⟩, .inl ⟨fun _ member => member, rfl, fun _ same => same⟩⟩

/-- The submission goes on without its batch, and nobody new waits. -/
theorem idle {phase : Phase} {notes : List Note} (isIn : phase.isIn = s.phase.isIn)
    (settled : ∀ n, phase ≠ .waiting n) (receiver : q'.receiverDropped = q.receiverDropped)
    (buffered : q'.buffered = q.buffered) (waiters : q'.waiters ⊆ q.waiters)
    (next : q'.nextTicket = q.nextTicket) : Effect s q (s.move phase notes) q' :=
  ⟨⟨rfl, rfl, rfl⟩, receiver, .inl ⟨isIn, buffered⟩,
    .inl ⟨waiters, next, fun n waiting => absurd waiting (settled n)⟩⟩

theorem enters {phase : Phase} {notes : List Note} (out : s.phase.isIn = false)
    (isIn : phase.isIn = true) (settled : ∀ n, phase ≠ .waiting n)
    (receiver : q'.receiverDropped = q.receiverDropped)
    (buffered : q'.buffered = q.buffered ++ [s.batch]) (waiters : q'.waiters ⊆ q.waiters)
    (next : q'.nextTicket = q.nextTicket) : Effect s q (s.move phase notes) q' :=
  ⟨⟨rfl, rfl, rfl⟩, receiver, .inr ⟨out, isIn, buffered⟩,
    .inl ⟨waiters, next, fun n waiting => absurd waiting (settled n)⟩⟩

end Effect

theorem resolve_enter_effect (s : Submission) (q : BoundedQueue) (out : s.phase.isIn = false) :
    Effect s q (s.resolve (q.enter s.batch)).1 (s.resolve (q.enter s.batch)).2 := by
  rcases q.enter_cases s.batch with entry | entry | entry <;> rw [entry]
  · exact .enters out rfl (by simp) rfl rfl (fun _ member => member) rfl
  · exact .idle out.symm (by simp) rfl rfl (fun _ member => member) rfl
  · exact ⟨⟨rfl, rfl, rfl⟩, rfl, .inl ⟨out.symm, rfl⟩, .inr ⟨BoundedQueue.waiters_park, rfl, rfl⟩⟩

theorem resolve_resume_effect {ticket : Nat} (waiting : s.phase = .waiting ticket) (owns : s.Owns q) :
    Effect s q (s.resolve (q.resume ticket)).1 (s.resolve (q.resume ticket)).2 := by
  have out : s.phase.isIn = false := by rw [waiting]; rfl
  have fewer : (q.forget ticket).waiters ⊆ q.waiters := by
    rw [BoundedQueue.waiters_forget]
    exact List.filter_sublist.subset
  rcases q.resume_cases ticket with look | ⟨w, member, same, look⟩ | look <;> rw [look]
  · exact .idle out.symm (by simp) rfl rfl fewer rfl
  · have own := (owns ticket waiting).2 w member same
    exact .enters out rfl (by simp) rfl (congrArg (fun b => q.buffered ++ [b]) own) fewer rfl
  · exact ⟨⟨rfl, rfl, rfl⟩, rfl, .inl ⟨out.symm, rfl⟩,
      .inl ⟨fun _ member => member, rfl, fun n same => same ▸ waiting⟩⟩

theorem advance_effect (s : Submission) (q : BoundedQueue) (wait : Duration) (owns : s.Owns q) :
    Effect s q (s.advance wait q).1 (s.advance wait q).2 := by
  unfold advance
  split
  · next called _ => exact s.resolve_enter_effect q (by rw [called]; rfl)
  · next called _ =>
    have out : s.phase.isIn = false := by rw [called]; rfl
    rcases q.tryEnter_cases s.batch with entry | entry | entry <;> rw [entry]
    · exact .enters out rfl (by simp) rfl rfl (fun _ member => member) rfl
    · exact .idle out.symm (by simp) rfl rfl (fun _ member => member) rfl
    · exact .idle out.symm (by simp) rfl rfl (fun _ member => member) rfl
  · next found _ =>
    have out : s.phase.isIn = false := by rw [found]; rfl
    exact .idle out.symm (by simp) rfl rfl (fun _ member => member) rfl
  · next found _ => exact s.resolve_enter_effect q (by rw [found]; rfl)
  · next waiting => exact resolve_resume_effect waiting owns
  · next entered =>
    have isIn : s.phase.isIn = true := by rw [entered]; rfl
    exact .idle isIn.symm (by simp) rfl rfl (fun _ member => member) rfl
  · exact .refl s q
  · exact .refl s q

theorem abandon_effect (s : Submission) (q : BoundedQueue) :
    Effect s q (s.abandon q).1 (s.abandon q).2 := by
  unfold abandon
  split
  · next _ called =>
    have out : s.phase.isIn = false := by rw [called]; rfl
    exact .idle out.symm (by simp) rfl rfl (fun _ member => member) rfl
  · next ticket _ waiting =>
    have out : s.phase.isIn = false := by rw [waiting]; rfl
    have frame := q.withdraw_frame ticket
    refine .idle out.symm (by simp) frame.2.2.2 frame.2.1 ?_ frame.2.2.1
    rw [frame.1]
    exact List.filter_sublist.subset
  · exact .refl s q

end Submission

/-! A submission that nobody interrupts is one of the queue's own operations. -/

def SubmissionStatus.phase : SubmissionStatus → Phase
  | .accepted => .returned (.ok ())
  | .refused reason => .returned (.error reason)
  | .waiting ticket => .waiting ticket

namespace Submission

variable {s : Submission} {q : BoundedQueue} {wait : Duration} {context : RuntimeContext}

/-- Goes on at once, unless the submission has returned or waits for a slot. -/
def goOn (wait : Duration) : Submission × BoundedQueue → Submission × BoundedQueue
  | (s, q) =>
    match s.phase with
    | .foundFull | .entered _ => s.advance wait q
    | _ => (s, q)

def Reports (earlier : List Note) (done : Submitted) : Submission × BoundedQueue → Prop
  | (s, q) => s.phase = done.status.phase ∧ s.notes = earlier ++ done.notes ∧ q = done.queue

theorem goOn_resolve (s : Submission) (wait : Duration) (result : Admission × BoundedQueue) :
    Reports s.notes (BoundedQueue.settle s.onClosed wait result) (goOn wait (s.resolve result)) := by
  rcases result with ⟨admission, q⟩
  cases admission <;>
    simp [Reports, goOn, resolve, move, advance, BoundedQueue.settle, SubmissionStatus.phase]

theorem advance_submitAsync (called : s.phase = .called) (route : s.route = .async) :
    Reports s.notes (q.submitAsync wait s.batch) (goOn wait (s.advance wait q)) := by
  have closed : s.onClosed = BoundedQueue.closedEntry := by rw [onClosed, route]
  rw [BoundedQueue.submitAsync, ← closed]
  unfold advance
  rw [called, route]
  exact s.goOn_resolve wait _

theorem advance_resumeAsync {ticket : Nat} (waiting : s.phase = .waiting ticket)
    (route : s.route = .async) :
    Reports s.notes (q.resumeAsync wait ticket) (goOn wait (s.advance wait q)) := by
  have closed : s.onClosed = BoundedQueue.closedEntry := by rw [onClosed, route]
  rw [BoundedQueue.resumeAsync, ← closed]
  unfold advance
  rw [waiting]
  exact s.goOn_resolve wait _

theorem advance_resumeBlocking {ticket : Nat} (waiting : s.phase = .waiting ticket)
    (route : s.route = .blocking context) :
    Reports s.notes (q.resumeBlocking wait ticket) (goOn wait (s.advance wait q)) := by
  have closed : s.onClosed = BoundedQueue.closedWhileWaitingEntry := by rw [onClosed, route]
  rw [BoundedQueue.resumeBlocking, ← closed]
  unfold advance
  rw [waiting]
  exact s.goOn_resolve wait _

-- With nothing in between, the second attempt finds the queue as full as the first one did.
theorem advance_submitBlocking (called : s.phase = .called) (route : s.route = .blocking context) :
    Reports s.notes (q.submitBlocking context s.batch)
      (goOn wait (goOn wait (s.advance wait q))) := by
  unfold advance BoundedQueue.submitBlocking
  simp only [called, route]
  rcases q.tryEnter_cases s.batch with entry | entry | entry <;> simp only [entry]
  · simp [Reports, goOn, move, advance, SubmissionStatus.phase]
  · simp [Reports, goOn, move, SubmissionStatus.phase]
  · have again : q.enter s.batch = (.waiting q.nextTicket, q.park s.batch) := by
      rw [BoundedQueue.enter, entry]
    cases context <;>
      simp [Reports, goOn, move, advance, resolve, route, again, BoundedQueue.enterBlocking,
        BoundedQueue.settle, SubmissionStatus.phase]

end Submission

end FailureIntake
