import FailureIntake.Proofs.Queue.Capacity
import FailureIntake.Proofs.Queue.Statistics

/-! The end of a queue. Once the receiver has closed it, or is gone, no submission that was still
without an answer gets its batch in, and the receiver finds what was in the queue at that moment
and nothing more. -/
namespace FailureIntake

namespace Submission

variable {s : Submission} {q : BoundedQueue} {wait : Duration}

/-- The queue has yet to answer. A thread that must not wait and found the queue full is past its
last look at it. -/
def Undecided (s : Submission) : Prop :=
  s.phase = .called ∨ (∃ ticket, s.phase = .waiting ticket) ∨
    s.phase = .foundFull ∧ s.route ≠ .blocking .currentThread

/-- Its batch is not in a closed queue and will not come in. -/
def Excluded (s : Submission) : Prop :=
  s.Undecided ∨ s.phase = .returned (.error .closed) ∨ s.phase = .abandoned

theorem Undecided.refused (undecided : s.Undecided) (wait : Duration) (closed : q.closed = true) :
    (s.advance wait q).1.phase = .returned (.error .closed) := by
  rcases undecided with called | ⟨ticket, waiting⟩ | ⟨found, free⟩
  · cases route : s.route with
    | async => simp [advance, called, route, resolve, move, BoundedQueue.enter_closed closed]
    | blocking context => simp [advance, called, route, move, BoundedQueue.tryEnter_closed closed]
  · simp [advance, waiting, resolve, move, BoundedQueue.resume_closed closed]
  · unfold advance
    rw [found]
    split <;> simp_all [resolve, move, BoundedQueue.enter_closed closed]

theorem Excluded.out (excluded : s.Excluded) : s.phase.isIn = false := by
  rcases excluded with (phase | ⟨_, phase⟩ | ⟨phase, _⟩) | phase | phase <;> rw [phase] <;> rfl

theorem Excluded.refused (excluded : s.Excluded) (wait : Duration) (present : s.phase ≠ .abandoned)
    (closed : q.closed = true) : (s.advance wait q).1.phase = .returned (.error .closed) := by
  rcases excluded with undecided | returned | abandoned
  · exact undecided.refused wait closed
  · simp [Submission.advance, returned]
  · exact absurd abandoned present

theorem Excluded.advance (excluded : s.Excluded) (closed : q.closed = true) :
    (s.advance wait q).1.Excluded := by
  by_cases abandoned : s.phase = .abandoned
  · have rests : s.advance wait q = (s, q) := by simp [Submission.advance, abandoned]
    rw [rests]
    exact excluded
  · exact .inr (.inl (excluded.refused wait abandoned closed))

theorem Excluded.abandon (excluded : s.Excluded) : (s.abandon q).1.Excluded := by
  unfold Submission.abandon
  split
  · exact .inr (.inr rfl)
  · exact .inr (.inr rfl)
  · exact excluded

/-- Only whoever made a submission gives it up. -/
theorem advance_present (present : s.phase ≠ .abandoned) : (s.advance wait q).1.phase ≠ .abandoned := by
  have resolved (r : Admission × BoundedQueue) : (s.resolve r).1.phase ≠ .abandoned := by
    rcases r with ⟨admission, q⟩
    cases admission <;> simp [resolve, move]
  unfold advance
  split
  · exact resolved _
  · split <;> simp [move]
  · simp [move]
  · exact resolved _
  · exact resolved _
  · simp [move]
  · exact present
  · exact present

end Submission

namespace Traffic

variable {t u u' : Traffic} {i k : Nat} {s s' : Submission} {q : BoundedQueue}

/-- Where a submission stands after a move: it is as before, or it did its own operation, or it is
new. -/
theorem perform_submission (move : Move) (found : (t.perform move).submissions[i]? = some s') :
    (∃ s, t.submissions[i]? = some s ∧ (s' = s ∨ (∃ wait, s' = (s.advance wait t.queue).1) ∨
      move = .abandon i ∧ s' = (s.abandon t.queue).1)) ∨
    t.submissions[i]? = none ∧ s'.phase = .called := by
  cases move with
  | clone =>
    simp only [perform] at found
    split at found <;> exact .inl ⟨s', found, .inl rfl⟩
  | release => exact .inl ⟨s', found, .inl rfl⟩
  | call caller route batch =>
    simp only [perform] at found
    split at found
    · exact .inl ⟨s', found, .inl rfl⟩
    · rcases getElem?_call found with earlier | ⟨rfl, rfl⟩
      · exact .inl ⟨s', earlier, .inl rfl⟩
      · exact .inr ⟨List.getElem?_eq_none (Nat.le_refl _), rfl⟩
  | advance j wait =>
    simp only [perform, advance] at found
    split at found
    · next s present =>
      by_cases here : i = j
      · subst here
        rw [update_own present] at found
        cases found
        exact .inl ⟨s, present, .inr (.inl ⟨wait, rfl⟩)⟩
      · rw [update_other here] at found
        exact .inl ⟨s', found, .inl rfl⟩
    · exact .inl ⟨s', found, .inl rfl⟩
  | abandon j =>
    simp only [perform, abandon] at found
    split at found
    · next s present =>
      by_cases here : i = j
      · subst here
        rw [update_own present] at found
        cases found
        exact .inl ⟨s, present, .inr (.inr ⟨rfl, rfl⟩)⟩
      · rw [update_other here] at found
        exact .inl ⟨s', found, .inl rfl⟩
    · exact .inl ⟨s', found, .inl rfl⟩
  | receiver m =>
    simp only [perform, (performReceiver_frame t m).2.1] at found
    exact .inl ⟨s', found, .inl rfl⟩

/-- The submission with this number waits for its answer, or has not been made. -/
def Late (t : Traffic) (i : Nat) : Prop :=
  ∀ s, t.submissions[i]? = some s → s.Undecided

theorem excluded_perform (closed : t.queue.closed = true)
    (excluded : ∀ s, t.submissions[i]? = some s → s.Excluded) (move : Move) :
    ∀ s, (t.perform move).submissions[i]? = some s → s.Excluded := by
  intro s' found
  rcases perform_submission move found with ⟨s, present, rfl | ⟨wait, rfl⟩ | ⟨_, rfl⟩⟩ | ⟨_, called⟩
  · exact excluded s' present
  · exact (excluded s present).advance closed
  · exact (excluded s present).abandon
  · exact .inl (.inl called)

/-- No operation of a submission touches the batches of a closed queue. -/
theorem Orderly.still (orderly : t.Orderly) (closed : t.queue.closed = true)
    (found : t.submissions[i]? = some s) (step : Submission.Step s t.queue s' q) :
    q.buffered = t.queue.buffered := by
  rcases step.batches (orderly.owned i s found) with ⟨_, buffered⟩ | ⟨opened, _⟩
  · exact buffered
  · rw [closed] at opened
    cases opened

/-- Nobody reopens a queue. -/
theorem Change.closed (change : Change t u) (closed : t.queue.closed = true) :
    u.queue.closed = true := by
  cases change with
  | rests | handles | called | findsNothing => exact closed
  | operates _ step => exact step.flags.1.trans closed
  | receives _ taken => exact (BoundedQueue.take_flags taken).1.trans closed
  | closes | drops => rfl

theorem Change.submissions (change : Change t u) : t.submissions.length ≤ u.submissions.length := by
  cases change with
  | rests | handles | findsNothing | receives | closes | drops => exact Nat.le_refl _
  | called => simp [call]
  | operates => simp [update]

/-! Draining. The receiver has looked `k` times with a result. -/

/-- The batches came oldest first and were counted as they came, and then there were none. -/
structure Drained (t u : Traffic) (k : Nat) : Prop where
  results : u.results = t.results ++ (List.range k).map (t.queue.buffered[·]?)
  statistics : t.queue.statistics.Counted (t.queue.buffered.take k) u.queue.statistics
  rest : u.queue.receiverDropped = false → u.queue.buffered = t.queue.buffered.drop k

theorem drained_refl (t : Traffic) : Drained t t 0 :=
  ⟨(List.append_nil _).symm, t.queue.statistics.counted_nil, fun _ => rfl⟩

theorem Drained.same (drained : Drained t u k) (results : u'.results = u.results)
    (statistics : u'.queue.statistics = u.queue.statistics)
    (rest : u'.queue.receiverDropped = false →
      u.queue.receiverDropped = false ∧ u'.queue.buffered = u.queue.buffered) :
    Drained t u' k where
  results := results.trans drained.results
  statistics := statistics ▸ drained.statistics
  rest kept := (rest kept).2.trans (drained.rest (rest kept).1)

/-- One more look, at whatever is oldest. -/
theorem Drained.more (drained : Drained t u k) (kept : u.queue.receiverDropped = false)
    (results : u'.results = u.results ++ [u.queue.buffered.head?])
    (statistics : u.queue.statistics.Counted u.queue.buffered.head?.toList u'.queue.statistics)
    (rest : u'.queue.buffered = u.queue.buffered.tail) : Drained t u' (k + 1) where
  results := by
    rw [results, drained.results, drained.rest kept, List.head?_drop, List.range_succ,
      List.map_append, List.append_assoc]
    rfl
  statistics := by
    rw [drained.rest kept, List.head?_drop] at statistics
    rw [List.take_add_one]
    exact drained.statistics.append statistics
  rest _ := by rw [rest, drained.rest kept, List.tail_drop]

theorem Drained.change (drained : Drained t u k) (closed : u.queue.closed = true)
    (orderly : u.Orderly) (change : Change u u') : ∃ k, Drained t u' k := by
  cases change with
  | rests => exact ⟨k, drained⟩
  | handles => exact ⟨k, drained.same rfl rfl fun kept => ⟨kept, rfl⟩⟩
  | called => exact ⟨k, drained.same rfl rfl fun kept => ⟨kept, rfl⟩⟩
  | @operates i s _ _ found step =>
    have ⟨_, receiver, statistics⟩ := step.flags
    have still := orderly.still closed found step
    exact ⟨k, drained.same rfl statistics fun kept => ⟨receiver.symm.trans kept, still⟩⟩
  | receives kept taken =>
    have buffered := (BoundedQueue.take_some taken).1
    refine ⟨k + 1, drained.more kept ?_ ?_ ?_⟩ <;> rw [buffered]
    · rfl
    · rw [(BoundedQueue.take_flags taken).2.2]
      exact u.queue.statistics.counted_addBatch _
    · rfl
  | findsNothing kept empty same =>
    rcases same with rfl | rfl
    · exact ⟨k, drained.same rfl rfl fun kept => ⟨kept, rfl⟩⟩
    · refine ⟨k + 1, drained.more kept ?_ ?_ ?_⟩ <;> rw [empty]
      · rfl
      · exact u.queue.statistics.counted_nil
      · rfl
  | closes => exact ⟨k, drained.same rfl rfl fun kept => ⟨kept, rfl⟩⟩
  | drops => exact ⟨k, drained.same rfl rfl nofun⟩

/-- An attempt to receive comes back at once, with the oldest batch or with none. Without a batch,
one that waits does so only as long as a slot of the closed queue is out. -/
theorem receive_results (closed : t.queue.closed = true) {how : Receiving}
    (prompt : how = .immediate ∨ t.queue.buffered ≠ [] ∨ t.queue.granted = []) :
    (t.receive how).results = t.results ++ [t.queue.buffered.head?] := by
  cases buffered : t.queue.buffered with
  | cons b rest => simp [receive, BoundedQueue.receive, BoundedQueue.take, buffered]
  | nil =>
    have attempt : t.queue.receive t.producersLeft =
        (if !t.producersLeft || t.queue.granted.isEmpty then .ended else .pending, t.queue) := by
      simp only [BoundedQueue.receive, BoundedQueue.take, buffered, closed, Bool.true_and]
      split <;> rfl
    rw [receive, attempt]
    cases ended : !t.producersLeft || t.queue.granted.isEmpty with
    | true => rfl
    | false =>
      rcases prompt with rfl | some_batch | idle
      · rfl
      · exact absurd buffered some_batch
      · simp [idle] at ended

theorem closed_still (closed : t.queue.closed = true) (orderly : t.Orderly) {move : Move}
    (apart : ∀ m, move ≠ .receiver m) : (t.perform move).queue.buffered = t.queue.buffered := by
  cases move with
  | clone | call =>
    simp only [perform]
    split <;> rfl
  | release => rfl
  | advance i wait =>
    simp only [perform, advance]
    split
    · next s found => exact orderly.still closed found (s.advance_step t.queue wait)
    · rfl
  | abandon i =>
    simp only [perform, abandon]
    split
    · next s found => exact orderly.still closed found (s.abandon_step t.queue)
    · rfl
  | receiver m => exact absurd rfl (apart m)

/-- What the later moves keep. -/
structure Shut (t u : Traffic) : Prop where
  orderly : u.Orderly
  ticketed : u.Ticketed
  closed : u.queue.closed = true
  submissions : t.submissions.length ≤ u.submissions.length
  excluded : ∀ i, t.Late i → ∀ s, u.submissions[i]? = some s → s.Excluded
  drained : ∃ k, Drained t u k

theorem Shut.perform (shut : Shut t u) (move : Move) : Shut t (u.perform move) where
  orderly := perform_orderly shut.orderly move
  ticketed := shut.ticketed.change shut.orderly (u.perform_change move)
  closed := (u.perform_change move).closed shut.closed
  submissions := Nat.le_trans shut.submissions (u.perform_change move).submissions
  excluded i late := excluded_perform shut.closed (shut.excluded i late) move
  drained := by
    obtain ⟨k, drained⟩ := shut.drained
    exact drained.change shut.closed shut.orderly (u.perform_change move)

theorem Shut.run (shut : Shut t u) (moves : List Move) : Shut t (u.run moves) := by
  induction moves generalizing u with
  | nil => exact shut
  | cons move rest ih => exact ih (shut.perform move)

/-- What has become of a queue that was closed at `t` in a later state `u`. -/
structure ClosedSince (t u : Traffic) : Prop where
  closed : u.queue.closed = true
  /-- A submission that was waiting at the close or came later is refused, unless it was given up,
  or will be in its next operation. -/
  excluded : ∀ i, t.Late i → ∀ s, u.submissions[i]? = some s →
    s.Excluded ∧ u.contribution i = []
  refused : ∀ i s, u.submissions[i]? = some s → s.Undecided → ∀ wait, ∃ s',
    (u.advance i wait).submissions[i]? = some s' ∧ s'.phase = .returned (.error .closed)
  still : ∀ move, (∀ m, move ≠ .receiver m) → (u.perform move).queue.buffered = u.queue.buffered
  /-- The receiver had the first `k` results of the batches at the close, then of none. It comes by
  the next one at once, except that it may wait for the end until no submission waits. -/
  drained : ∃ k, Drained t u k ∧ (u.queue.receiverDropped = false → ∀ how,
    how = .immediate ∨ k < t.queue.buffered.length ∨
      (∀ s ∈ u.submissions, ∀ ticket, s.phase ≠ .waiting ticket) →
    (u.perform (.receiver (.receive how))).results = u.results ++ [t.queue.buffered[k]?])

theorem Shut.closedSince (shut : Shut t u) : t.ClosedSince u where
  closed := shut.closed
  excluded i late s found := by
    have excluded := shut.excluded i late s found
    refine ⟨excluded, ?_⟩
    rw [shut.orderly.once i s found, excluded.out]
    rfl
  refused i s found undecided wait := by
    simp only [advance, found]
    exact ⟨_, update_own found, undecided.refused wait shut.closed⟩
  still move apart := closed_still shut.closed shut.orderly apart
  drained := by
    obtain ⟨k, drained⟩ := shut.drained
    refine ⟨k, drained, fun kept how prompt => ?_⟩
    have rest := drained.rest kept
    have attempt : how = .immediate ∨ u.queue.buffered ≠ [] ∨ u.queue.granted = [] := by
      refine prompt.imp_right (Or.imp (fun some_batch => ?_) fun nobody => ?_)
      · rw [rest, Ne, List.drop_eq_nil_iff]
        omega
      · exact shut.ticketed.granted_nil fun i s found => nobody s (List.mem_of_getElem? found)
    have received := receive_results shut.closed attempt
    rw [rest, List.head?_drop] at received
    simp only [Traffic.perform, performReceiver, kept]
    exact received

/-- The receiver ends the queue, in any state. If it is gone already, the queue is closed. -/
theorem shut_built {requested : Nat} (built : BoundedQueue.ofCapacity? requested = some q)
    {before : List Move} {last : ReceiverMove} (ends : last = .close ∨ last = .drop)
    (reached : (Traffic.run { queue := q } before).performReceiver last = t) : Shut t t := by
  have start := built_orderly built
  obtain ⟨rfl, _⟩ := built_fits built
  have preserved := (preserved_empty (max requested 1)).run start before
  have orderly := run_orderly start before
  have ticketed := run_ticketed (ticketed_empty rfl) start before
  have change := performReceiver_change (Traffic.run { queue := { capacity := max requested 1 } }
    before) last
  have closed : t.queue.closed = true := by
    rw [← reached]
    unfold performReceiver
    split
    · next dropped => exact preserved.dropped dropped
    · rcases ends with rfl | rfl <;> rfl
  rw [reached] at change
  exact
    { orderly := reached ▸ performReceiver_orderly orderly last
      ticketed := ticketed.change orderly change
      closed
      submissions := Nat.le_refl _
      excluded := fun i late s found => .inl (late s found)
      drained := ⟨0, drained_refl t⟩ }

end Traffic

end FailureIntake
