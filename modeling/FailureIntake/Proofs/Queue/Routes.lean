import FailureIntake.Proofs.Queue.Steps

/-! The routes into the queue. A submission that may block its thread and an asynchronous one make
the same traffic from the point where they have entered, failed or begun to wait. What is left to
tell them apart is the report of a wait. -/
namespace FailureIntake

namespace Submission

def events (s : Submission) : List Event :=
  s.notes.filterMap Note.event?

@[simp] theorem events_move (s : Submission) (phase : Phase) (notes : List Note) :
    (s.move phase notes).events = s.events ++ notes.filterMap Note.event? := by
  simp [events, move]

/-- Two submissions of one batch stand at the same point. The first reports a wait once its batch
has entered; the second may leave that out. -/
inductive Abreast (s u : Submission) : Prop where
  | waiting (ticket : Nat) (phases : s.phase = .waiting ticket ∧ u.phase = .waiting ticket)
      (silent : s.events = [] ∧ u.events = [])
  | entered (waited : Bool) (phases : s.phase = .entered true ∧ u.phase = .entered waited)
      (silent : s.events = [] ∧ u.events = [])
  | refused (reason : QueueError)
      (phases : s.phase = .returned (.error reason) ∧ u.phase = .returned (.error reason))
      (silent : s.events = [] ∧ u.events = [])
  | accepted (wait : Duration) (size : Nat)
      (phases : s.phase = .returned (.ok ()) ∧ u.phase = .returned (.ok ()))
      (reported : s.events = [.submissionBlocked wait, .queueSize size])
      (reports : u.events = s.events ∨ u.events = [.queueSize size])

variable {s u : Submission} {q : BoundedQueue}

theorem Step.same {s' : Submission} {q' : BoundedQueue} (step : Step s q s' q') :
    s'.caller = s.caller ∧ s'.batch = s.batch := by
  cases step <;> exact ⟨rfl, rfl⟩

theorem Abreast.isIn (abreast : Abreast s u) : u.phase.isIn = s.phase.isIn := by
  cases abreast with
  | waiting _ phases | entered _ phases | refused _ phases | accepted _ _ phases =>
    rw [phases.1, phases.2] <;> rfl

theorem Abreast.underWay (abreast : Abreast s u) : u.phase.underWay = s.phase.underWay := by
  cases abreast with
  | waiting _ phases | entered _ phases | refused _ phases | accepted _ _ phases =>
    rw [phases.1, phases.2] <;> rfl

/-- The same answer of the queue is taken in the same way. -/
theorem abreast_resolve (silent : s.events = [] ∧ u.events = []) (result : Admission × BoundedQueue) :
    (u.resolve result).2 = (s.resolve result).2 ∧
      Abreast (s.resolve result).1 (u.resolve result).1 := by
  rcases result with ⟨_ | _ | ticket, q⟩
  · exact ⟨rfl, .entered true ⟨rfl, rfl⟩ (by simp [Submission.resolve, silent])⟩
  · exact ⟨rfl, .refused .closed ⟨rfl, rfl⟩ (by simp [Submission.resolve, silent, Note.event?])⟩
  · exact ⟨rfl, .waiting ticket ⟨rfl, rfl⟩ (by simp [Submission.resolve, silent])⟩

theorem Abreast.advance (abreast : Abreast s u) (wait : Duration) (q : BoundedQueue) :
    (u.advance wait q).2 = (s.advance wait q).2 ∧
      Abreast (s.advance wait q).1 (u.advance wait q).1 := by
  cases abreast with
  | waiting ticket phases silent =>
    unfold Submission.advance
    rw [phases.1, phases.2]
    exact abreast_resolve silent _
  | entered waited phases silent =>
    unfold Submission.advance
    rw [phases.1, phases.2]
    refine ⟨rfl, .accepted wait q.length ⟨rfl, rfl⟩ ?_ ?_⟩
    · simp [silent, BoundedQueue.enteredNotes, BoundedQueue.sizeNote, Note.event?]
    · cases waited <;>
        simp [silent, BoundedQueue.enteredNotes, BoundedQueue.sizeNote, Note.event?]
  | refused reason phases silent =>
    unfold Submission.advance
    rw [phases.1, phases.2]
    exact ⟨rfl, .refused reason phases silent⟩
  | accepted wait size phases reported reports =>
    unfold Submission.advance
    rw [phases.1, phases.2]
    exact ⟨rfl, .accepted wait size phases reported reports⟩

end Submission

open Submission

namespace Traffic

variable {t t' : Traffic} {i : Nat}

/-- Another submission in the place of one. -/
def replace (t : Traffic) (i : Nat) (u : Submission) : Traffic :=
  { t with submissions := t.submissions.set i u }

/-- The traffics are the same but for one submission, and that one stands at the same point. -/
def Alike (i : Nat) (t t' : Traffic) : Prop :=
  ∃ s u, t.submissions[i]? = some s ∧ t' = t.replace i u ∧ Abreast s u ∧
    u.caller = s.caller ∧ u.batch = s.batch

variable {s u : Submission}

@[simp] theorem replace_queue (t : Traffic) (i : Nat) (u : Submission) :
    (t.replace i u).queue = t.queue := rfl

@[simp] theorem replace_other {j : Nat} (other : j ≠ i) (t : Traffic) (u : Submission) :
    (t.replace i u).submissions[j]? = t.submissions[j]? :=
  List.getElem?_set_ne other.symm

theorem update_replace {j : Nat} (other : j ≠ i) (s u : Submission) (r : Submission × BoundedQueue) :
    (t.replace i u).update j s r = (t.update j s r).replace i u := by
  rcases r with ⟨s', q'⟩
  simp [update, replace, List.set_comm _ _ other]

theorem producersLeft_replace (found : t.submissions[i]? = some s)
    (underWay : u.phase.underWay = s.phase.underWay) :
    (t.replace i u).producersLeft = t.producersLeft := by
  obtain ⟨bound, rfl⟩ := List.getElem?_eq_some_iff.mp found
  have same : (t.submissions.set i u).map (·.phase.underWay) =
      t.submissions.map (·.phase.underWay) := by
    rw [List.map_set, underWay, ← List.map_set, List.set_getElem_self]
  have any := congrArg (List.any · id) same
  simp only [List.any_map, Function.comp_def, id] at any
  simp only [producersLeft, replace, any]

theorem performReceiver_replace (left : (t.replace i u).producersLeft = t.producersLeft)
    (m : ReceiverMove) : (t.replace i u).performReceiver m = (t.performReceiver m).replace i u := by
  unfold performReceiver
  rw [replace_queue]
  split
  · rfl
  cases m with
  | receive how =>
    simp only [receive, left, replace_queue]
    split <;> rfl
  | close => rfl
  | drop => rfl

/-- What others do is the same with another submission in the place of one. -/
theorem perform_replace (found : t.submissions[i]? = some s)
    (underWay : u.phase.underWay = s.phase.underWay) {move : Move} (other : ¬ move.isOf i) :
    (t.replace i u).perform move = (t.perform move).replace i u ∧
      (t.perform move).submissions[i]? = some s := by
  have bound := (List.getElem?_eq_some_iff.mp found).1
  cases move with
  | clone =>
    by_cases none : t.handles = 0
    · rw [perform, perform, if_pos none, if_pos (show (t.replace i u).handles = 0 from none)]
      exact ⟨rfl, found⟩
    · rw [perform, perform, if_neg none, if_neg (show ¬ (t.replace i u).handles = 0 from none)]
      exact ⟨rfl, found⟩
  | release => exact ⟨rfl, found⟩
  | call caller route batch =>
    by_cases none : t.handles = 0
    · rw [perform, perform, if_pos none, if_pos (show (t.replace i u).handles = 0 from none)]
      exact ⟨rfl, found⟩
    · rw [perform, perform, if_neg none, if_neg (show ¬ (t.replace i u).handles = 0 from none)]
      refine ⟨?_, (List.getElem?_append_left bound).trans found⟩
      simp only [Traffic.call, replace, List.set_append_left _ _ bound]
  | advance j wait =>
    simp only [perform, advance, replace_other other]
    split
    · exact ⟨update_replace other _ _ _, (update_other (Ne.symm other)).trans found⟩
    · exact ⟨rfl, found⟩
  | abandon j =>
    simp only [perform, abandon, replace_other other]
    split
    · exact ⟨update_replace other _ _ _, (update_other (Ne.symm other)).trans found⟩
    · exact ⟨rfl, found⟩
  | receiver m =>
    refine ⟨performReceiver_replace (producersLeft_replace found underWay) m, ?_⟩
    rw [perform, (t.performReceiver_frame m).2.1, found]

/-- Each of the two makes its next operation, to the same effect. -/
theorem Alike.advance (alike : Alike i t t') (wait : Duration) :
    Alike i (t.advance i wait) (t'.advance i wait) := by
  obtain ⟨s, u, found, rfl, abreast, caller, batch⟩ := alike
  have placed : (t.replace i u).submissions[i]? = some u :=
    List.getElem?_set_self (List.getElem?_eq_some_iff.mp found).1
  obtain ⟨queue, further⟩ := abreast.advance wait t.queue
  have ours := (s.advance_step t.queue wait).same
  have theirs := (u.advance_step t.queue wait).same
  simp only [Traffic.advance, found, placed, replace_queue]
  refine ⟨_, _, update_own found, ?_, further, ?_, ?_⟩
  · simp only [update, replace, queue, abreast.isIn, further.isIn, caller, batch, List.set_set]
  · rw [ours.1, theirs.1, caller]
  · rw [ours.2, theirs.2, batch]

theorem Alike.perform (alike : Alike i t t') {move : Move} (stays : move ≠ .abandon i) :
    Alike i (t.perform move) (t'.perform move) := by
  by_cases own : move.isOf i
  · cases move with
    | advance j wait =>
      cases own
      exact alike.advance wait
    | abandon j =>
      cases own
      exact absurd rfl stays
    | clone | release | call | receiver => cases own
  · obtain ⟨s, u, found, rfl, abreast, same⟩ := alike
    obtain ⟨performed, kept⟩ := perform_replace found abreast.underWay own
    exact ⟨s, u, kept, performed, abreast, same⟩

theorem Alike.run (alike : Alike i t t') {moves : List Move} (stays : .abandon i ∉ moves) :
    Alike i (t.run moves) (t'.run moves) := by
  induction moves generalizing t t' with
  | nil => exact alike
  | cons move rest ih =>
    rw [List.mem_cons, not_or] at stays
    exact ih (alike.perform (Ne.symm stays.1)) stays.2

end Traffic

def Submission.start (wait : Duration) (s : Submission) (q : BoundedQueue) :
    Submission × BoundedQueue :=
  let tried := s.advance wait q
  if tried.1.phase = .foundFull then tried.1.advance wait tried.2 else tried

namespace Submission

variable {s : Submission} {q : BoundedQueue} {wait : Duration} {context : RuntimeContext}

theorem start_closed (called : s.phase = .called) (closed : q.closed = true) :
    s.start wait q =
      (s.move (.returned (.error .closed)) [.log BoundedQueue.closedEntry], q) := by
  rcases s with ⟨caller, _ | context, batch, _, notes⟩ <;> cases called
  · simp [start, Submission.advance, BoundedQueue.enter_closed closed, resolve, move, onClosed]
  · simp [start, Submission.advance, BoundedQueue.tryEnter_closed closed, move]

theorem start_room (called : s.phase = .called) (opened : q.closed = false)
    (room : q.isFull = false) :
    s.start wait q = (s.move (.entered (s.route = .async)) [], q.push s.batch) := by
  rcases s with ⟨caller, _ | context, batch, _, notes⟩ <;> cases called
  · simp [start, Submission.advance, BoundedQueue.enter_room opened room, resolve, move]
  · simp [start, Submission.advance, BoundedQueue.tryEnter_room opened room, move]

theorem start_full_async (called : s.phase = .called) (route : s.route = .async)
    (opened : q.closed = false) (full : q.isFull = true) :
    s.start wait q = (s.move (.waiting q.nextTicket) [], q.park s.batch) := by
  rw [start, Submission.advance, called, route]
  simp [BoundedQueue.enter_full opened full, resolve, move]

theorem start_full_blocking (called : s.phase = .called) (route : s.route = .blocking context)
    (opened : q.closed = false) (full : q.isFull = true) :
    s.start wait q = if context = .currentThread then
      (s.move (.returned (.error .blockingInCurrentThread))
        [.log (BoundedQueue.fullEntry q.capacity), .log BoundedQueue.fullInCurrentThreadEntry], q)
    else
      (s.move (.waiting q.nextTicket) [.log (BoundedQueue.fullEntry q.capacity)],
        q.park s.batch) := by
  rw [start, Submission.advance, called, route]
  simp only [BoundedQueue.tryEnter_full opened full]
  cases context <;>
    simp [move, Submission.advance, route, BoundedQueue.enter_full opened full, resolve]

end Submission

namespace Traffic

variable {t : Traffic}

/-- A producer calls, and its submission enters, fails or begins to wait. A thread that finds the
queue full makes its second attempt right away, with nothing in between. -/
def submit (t : Traffic) (caller : Nat) (route : Route) (batch : Batch) (wait : Duration) : Traffic :=
  let i := t.submissions.length
  let tried := (t.call caller route batch).advance i wait
  if tried.submissions[i]?.map (·.phase) = some .foundFull then tried.advance i wait else tried

/-- The traffic with one more submission, which comes with its queue. -/
def join (t : Traffic) : Submission × BoundedQueue → Traffic
  | (s, q) =>
    { t with
      queue := q
      submissions := t.submissions ++ [s]
      accepted := if s.phase.isIn then t.accepted ++ [⟨t.submissions.length, s.caller, s.batch⟩]
        else t.accepted }

theorem join_last (t : Traffic) (r : Submission × BoundedQueue) :
    (t.join r).submissions[t.submissions.length]? = some r.1 :=
  List.getElem?_concat_length

theorem advance_join (r : Submission × BoundedQueue) (out : r.1.phase.isIn = false)
    (wait : Duration) :
    (t.join r).advance t.submissions.length wait = t.join (r.1.advance wait r.2) := by
  have same := (r.1.advance_step r.2 wait).same
  rw [advance, join_last]
  simp [update, join, out, same]

theorem submit_eq_join (t : Traffic) (caller : Nat) (route : Route) (batch : Batch)
    (wait : Duration) :
    t.submit caller route batch wait =
      t.join (Submission.start wait { caller, route, batch } t.queue) := by
  have first : (t.call caller route batch).advance t.submissions.length wait =
      t.join (Submission.advance wait { caller, route, batch } t.queue) :=
    advance_join ({ caller, route, batch }, t.queue) rfl wait
  rw [submit, first]
  by_cases full : (Submission.advance wait { caller, route, batch } t.queue).1.phase = .foundFull
  · rw [if_pos (by rw [join_last, Option.map_some, full]), Submission.start, if_pos full]
    exact advance_join _ (by rw [full]; rfl) wait
  · rw [if_neg (by simpa [join_last] using full), Submission.start, if_neg full]

theorem alike_join {s u : Submission} {q : BoundedQueue} (abreast : Abreast s u)
    (caller : u.caller = s.caller) (batch : u.batch = s.batch) :
    Alike t.submissions.length (t.join (s, q)) (t.join (u, q)) := by
  refine ⟨s, u, t.join_last (s, q), ?_, abreast, caller, batch⟩
  simp [join, replace, abreast.isIn, caller, batch]

theorem alike_submit (t : Traffic) (caller : Nat) {context : RuntimeContext} (batch : Batch)
    (wait : Duration)
    (waits : context = .currentThread → t.queue.closed = true ∨ t.queue.isFull = false) :
    Alike t.submissions.length (t.submit caller .async batch wait)
      (t.submit caller (.blocking context) batch wait) := by
  rw [submit_eq_join, submit_eq_join]
  cases closed : t.queue.closed with
  | true =>
    rw [Submission.start_closed rfl closed, Submission.start_closed rfl closed]
    exact alike_join (.refused .closed ⟨rfl, rfl⟩ ⟨rfl, rfl⟩) rfl rfl
  | false =>
    cases full : t.queue.isFull with
    | false =>
      rw [Submission.start_room rfl closed full, Submission.start_room rfl closed full]
      exact alike_join (.entered false ⟨rfl, rfl⟩ ⟨rfl, rfl⟩) rfl rfl
    | true =>
      have elsewhere : context ≠ .currentThread := by simpa [closed, full] using waits
      rw [Submission.start_full_async rfl rfl closed full,
        Submission.start_full_blocking rfl rfl closed full, if_neg elsewhere]
      exact alike_join (.waiting t.queue.nextTicket ⟨rfl, rfl⟩ ⟨rfl, rfl⟩) rfl rfl

/-- A submission from a thread that can be made to wait leads to the same traffic as an asynchronous
one, whatever it meets and whatever the others and the receiver do later. Only an asynchronous one
can be given up, which is left out here. On the thread of a current-thread runtime this holds unless
the queue is open and full. Then the submission fails at once and leaves nothing but log entries. -/
theorem routes_agree (t : Traffic) (caller : Nat) (context : RuntimeContext) (batch : Batch)
    (wait : Duration) :
    ((context = .currentThread → t.queue.closed = true ∨ t.queue.isFull = false) →
      ∀ moves, .abandon t.submissions.length ∉ moves →
        Alike t.submissions.length ((t.submit caller .async batch wait).run moves)
          ((t.submit caller (.blocking context) batch wait).run moves)) ∧
    (context = .currentThread → t.queue.closed = false → t.queue.isFull = true →
      ∃ refused : Submission,
        t.submit caller (.blocking context) batch wait =
          { t with submissions := t.submissions ++ [refused] } ∧
        refused.phase = .returned (.error .blockingInCurrentThread) ∧ refused.events = []) := by
  refine ⟨fun waits moves stays => (t.alike_submit caller batch wait waits).run stays, ?_⟩
  rintro rfl opened full
  rw [submit_eq_join, Submission.start_full_blocking rfl rfl opened full, if_pos rfl]
  exact ⟨_, rfl, rfl, rfl⟩

/-- The one slot is taken, so both submissions wait. The receiver hands them the slot, and both
report after the same wait. On the thread of a current-thread runtime the call fails instead. -/
theorem routes_into_a_full_queue :
    let failure (details : String) : Failure := .processing ⟨0, 0⟩ ⟨"a"⟩ "m" "text" details false
    let t : Traffic := { queue := { capacity := 1, buffered := [.single (failure "first")] } }
    let b : Batch := .single (failure "second")
    let moves : List Move := [.advance 0 ⟨1, 0⟩, .receiver (.receive .async), .call 2 .async b,
      .advance 0 ⟨2, 0⟩, .receiver .close, .advance 1 ⟨0, 0⟩, .advance 0 ⟨3, 0⟩,
      .receiver (.receive .async)]
    (RuntimeContext.none = .currentThread → t.queue.closed = true ∨ t.queue.isFull = false) ∧
      .abandon t.submissions.length ∉ moves ∧
      (∃ u, ((t.submit 1 (.blocking .none) b ⟨0, 0⟩).run moves).submissions[0]? = some u ∧
        u.phase = .returned (.ok ()) ∧ u.events = [.submissionBlocked ⟨3, 0⟩, .queueSize 1]) ∧
      Alike 0 ((t.submit 1 .async b ⟨0, 0⟩).run moves)
        ((t.submit 1 (.blocking .none) b ⟨0, 0⟩).run moves) ∧
      ∃ refused : Submission, t.submit 1 (.blocking .currentThread) b ⟨0, 0⟩ =
          { t with submissions := t.submissions ++ [refused] } ∧
        refused.phase = .returned (.error .blockingInCurrentThread) ∧ refused.events = [] := by
  intro failure t b moves
  have outcome : ((t.submit 1 (.blocking .none) b ⟨0, 0⟩).run moves).submissions[0]?.map
      (fun u => (u.phase, u.events)) =
        some (.returned (.ok ()), [.submissionBlocked ⟨3, 0⟩, .queueSize 1]) := by
    decide +kernel +revert
  have stays : .abandon t.submissions.length ∉ moves := by simp [moves]
  obtain ⟨u, found, ends⟩ := Option.map_eq_some_iff.mp outcome
  have agree := (routes_agree t 1 .none b ⟨0, 0⟩).1 nofun moves stays
  have fails := (routes_agree t 1 .currentThread b ⟨0, 0⟩).2 rfl rfl rfl
  exact ⟨nofun, stays, ⟨u, found, congrArg Prod.fst ends, congrArg Prod.snd ends⟩, agree, fails⟩

end Traffic

end FailureIntake
