import FailureIntake.Proofs.Queue.Operations

/-! The queue delivers every accepted batch once and in order. The history of what was accepted is
what the receiver returned, then what is still in the queue; and it holds each submission's batch
as often as that submission is in, which is once or not at all. -/
namespace FailureIntake.Traffic

variable {t : Traffic} {i : Nat} {s s' u u' : Submission} {q q' : BoundedQueue}

/-- What the history holds from one submission. -/
def contribution (t : Traffic) (i : Nat) : List Acceptance :=
  t.accepted.filter (·.submission = i)

structure Orderly (t : Traffic) : Prop where
  order : t.queue.receiverDropped = false →
    t.accepted.map (·.batch) = t.received ++ t.queue.buffered
  once : ∀ (i : Nat) (s : Submission), t.submissions[i]? = some s →
    t.contribution i = if s.phase.isIn then [⟨i, s.caller, s.batch⟩] else []
  known : ∀ a ∈ t.accepted, a.submission < t.submissions.length
  tickets : ∀ w ∈ t.queue.waiters, w.ticket < t.queue.nextTicket
  owned : ∀ (i : Nat) (s : Submission), t.submissions[i]? = some s → s.Owns t.queue

theorem orderly_empty {q : BoundedQueue} (buffered : q.buffered = []) (waiters : q.waiters = []) :
    Orderly { queue := q } where
  order _ := buffered.symm
  once i s found := by cases found
  known a member := by cases member
  tickets w member := by rw [waiters] at member; cases member
  owned i s found := by cases found

/-! The step. A submission's own operation is known by its effect on the queue; the receiver's
moves and the calls of producers touch no submission that is there. -/

theorem update_accepted (t : Traffic) (i : Nat) (s : Submission) (r : Submission × BoundedQueue) :
    t.accepted <+: (t.update i s r).accepted := by
  rcases r with ⟨s', q'⟩
  simp only [update]
  split
  · exact List.prefix_append _ _
  · exact List.prefix_rfl

theorem update_own {r : Submission × BoundedQueue} (found : t.submissions[i]? = some s) :
    (t.update i s r).submissions[i]? = some r.1 :=
  List.getElem?_set_self (List.getElem?_eq_some_iff.mp found).1

theorem update_other {r : Submission × BoundedQueue} {j : Nat} (other : j ≠ i) :
    (t.update i s r).submissions[j]? = t.submissions[j]? :=
  List.getElem?_set_ne other.symm

theorem contribution_update {r : Submission × BoundedQueue} (j : Nat) :
    (t.update i s r).contribution j = t.contribution j ++
      if j = i ∧ r.1.phase.isIn && !s.phase.isIn then [⟨i, s.caller, s.batch⟩] else [] := by
  rcases r with ⟨s', q'⟩
  simp only [contribution, update]
  by_cases enters : (s'.phase.isIn && !s.phase.isIn) = true
  · by_cases here : j = i
    · simp [enters, here]
    · simp [enters, here, Ne.symm here]
  · simp [enters]

theorem getElem?_call {caller : Nat} {route : Route} {batch : Batch}
    (present : (t.call caller route batch).submissions[i]? = some s) :
    t.submissions[i]? = some s ∨ i = t.submissions.length ∧ s = { caller, route, batch } := by
  simp only [call, List.getElem?_append, List.getElem?_singleton] at present
  split at present
  · exact .inl present
  · right
    split at present
    · injection present with same
      exact ⟨by omega, same.symm⟩
    · cases present

theorem contribution_nil (orderly : t.Orderly) : t.contribution t.submissions.length = [] := by
  refine List.filter_eq_nil_iff.mpr fun a member => ?_
  have := orderly.known a member
  simp only [decide_eq_true_eq]
  omega

theorem owns_after (owns : s.Owns q) (effect : Submission.Effect u q u' q') : s.Owns q' := by
  intro n waiting
  have ⟨below, agrees⟩ := owns n waiting
  rcases effect.tickets with ⟨fewer, next, _⟩ | ⟨more, next, _⟩
  · exact ⟨next ▸ below, fun w member => agrees w (fewer member)⟩
  · refine ⟨by omega, fun w member same => ?_⟩
    rw [more, List.mem_append, List.mem_singleton] at member
    rcases member with earlier | rfl
    · exact agrees w earlier same
    · simp only at same
      omega

theorem owns_own (tickets : ∀ w ∈ q.waiters, w.ticket < q.nextTicket) (owns : s.Owns q)
    (effect : Submission.Effect s q s' q') : s'.Owns q' := by
  intro n waiting
  rcases effect.tickets with ⟨fewer, next, before⟩ | ⟨more, next, fresh⟩
  · have ⟨below, agrees⟩ := owns n (before n waiting)
    exact ⟨next ▸ below, fun w member same => (agrees w (fewer member) same).trans effect.same.2.2.symm⟩
  · have here : n = q.nextTicket := by
      rw [fresh] at waiting
      injection waiting with here
      exact here.symm
    refine ⟨by omega, fun w member same => ?_⟩
    rw [more, List.mem_append, List.mem_singleton] at member
    rcases member with earlier | rfl
    · have := tickets w earlier
      omega
    · exact effect.same.2.2.symm

theorem update_orderly (orderly : t.Orderly) (found : t.submissions[i]? = some s)
    (effect : Submission.Effect s t.queue s' q') : (t.update i s (s', q')).Orderly where
  order kept := by
    have before := orderly.order (effect.receiver.symm.trans kept)
    rcases effect.batches with ⟨isIn, buffered⟩ | ⟨out, isIn, buffered⟩
    · have unchanged : (t.update i s (s', q')).accepted = t.accepted := by simp [update, isIn]
      rw [unchanged, before]
      exact congrArg (t.received ++ ·) buffered.symm
    · have grown : (t.update i s (s', q')).accepted = t.accepted ++ [⟨i, s.caller, s.batch⟩] := by
        simp [update, isIn, out]
      rw [grown, List.map_append, before, List.append_assoc]
      exact congrArg (t.received ++ ·) buffered.symm
  once j u present := by
    rw [contribution_update]
    by_cases here : j = i
    · subst here
      rw [update_own found] at present
      cases present
      rw [orderly.once j s found]
      rcases effect.batches with ⟨isIn, _⟩ | ⟨out, isIn, _⟩
      · simp [isIn, effect.same]
      · simp [isIn, out, effect.same]
    · rw [update_other here] at present
      rw [orderly.once j u present]
      simp [here]
  known a member := by
    simp only [update, List.length_set] at member ⊢
    split at member
    · rw [List.mem_append, List.mem_singleton] at member
      rcases member with earlier | rfl
      · exact orderly.known a earlier
      · exact (List.getElem?_eq_some_iff.mp found).1
    · exact orderly.known a member
  tickets w member := by
    change w ∈ q'.waiters at member
    change w.ticket < q'.nextTicket
    rcases effect.tickets with ⟨fewer, next, _⟩ | ⟨more, next, _⟩
    · exact next ▸ orderly.tickets w (fewer member)
    · rw [more, List.mem_append, List.mem_singleton] at member
      rcases member with earlier | rfl
      · have := orderly.tickets w earlier
        omega
      · simp only
        omega
  owned j u present := by
    by_cases here : j = i
    · subst here
      rw [update_own found] at present
      cases present
      exact owns_own orderly.tickets (orderly.owned j s found) effect
    · rw [update_other here] at present
      exact owns_after (orderly.owned j u present) effect

theorem advance_orderly (orderly : t.Orderly) (i : Nat) (wait : Duration) :
    (t.advance i wait).Orderly := by
  unfold advance
  split
  · next s found =>
    exact update_orderly orderly found (s.advance_effect t.queue wait (orderly.owned i s found))
  · exact orderly

theorem abandon_orderly (orderly : t.Orderly) (i : Nat) : (t.abandon i).Orderly := by
  unfold abandon
  split
  · next s found => exact update_orderly orderly found (s.abandon_effect t.queue)
  · exact orderly

theorem call_orderly (orderly : t.Orderly) (caller : Nat) (route : Route) (batch : Batch) :
    (t.call caller route batch).Orderly where
  order := orderly.order
  once j u present := by
    change t.contribution j = _
    rcases getElem?_call present with present | ⟨rfl, rfl⟩
    · exact orderly.once j u present
    · exact contribution_nil orderly
  known a member := by
    have := orderly.known a member
    simp only [call, List.length_append, List.length_singleton]
    omega
  tickets := orderly.tickets
  owned j u present := by
    rcases getElem?_call present with present | ⟨rfl, rfl⟩
    · exact orderly.owned j u present
    · intro n waiting
      cases waiting

/-- Without a batch, an attempt to receive leaves the queue alone and returns none, if anything. -/
theorem unreceived_orderly (orderly : t.Orderly) {r : Reception} {results : List (Option Batch)}
    (attempt : t.queue.receive t.producersLeft = (r, q')) (nothing : ∀ b, r ≠ .batch b)
    (same : results.filterMap id = t.received) :
    Orderly { t with queue := q', results := results } := by
  obtain ⟨_, rfl⟩ := BoundedQueue.receive_nothing attempt nothing
  refine ⟨fun kept => ?_, orderly.once, orderly.known, orderly.tickets, orderly.owned⟩
  exact (orderly.order kept).trans (congrArg (· ++ _) same.symm)

theorem receive_orderly (orderly : t.Orderly) (how : Receiving) : (t.receive how).Orderly := by
  have none_more : (t.results ++ [none]).filterMap id = t.received := by simp [received]
  unfold receive
  split
  · next b q' attempt =>
    have ⟨buffered, waiters, next, receiver⟩ :=
      BoundedQueue.take_some (BoundedQueue.receive_batch attempt)
    refine ⟨fun kept => ?_, orderly.once, orderly.known, fun w member => ?_, fun i s found => ?_⟩
    · have before := orderly.order (receiver.symm.trans kept)
      rw [buffered] at before
      simpa [received] using before
    · rw [waiters] at member
      exact next ▸ orderly.tickets w member
    · intro n waiting
      rw [waiters, next]
      exact orderly.owned i s found n waiting
  · next attempt => exact unreceived_orderly orderly attempt (by simp) none_more
  · next attempt =>
    refine unreceived_orderly orderly attempt (by simp) ?_
    split
    · exact none_more
    · rfl

theorem performReceiver_frame (t : Traffic) (m : ReceiverMove) :
    (t.performReceiver m).handles = t.handles ∧
      (t.performReceiver m).submissions = t.submissions ∧
      (t.performReceiver m).accepted = t.accepted := by
  unfold performReceiver
  split
  · exact ⟨rfl, rfl, rfl⟩
  cases m with
  | receive how =>
    simp only [receive]
    split <;> exact ⟨rfl, rfl, rfl⟩
  | close => exact ⟨rfl, rfl, rfl⟩
  | drop => exact ⟨rfl, rfl, rfl⟩

theorem performReceiver_orderly (orderly : t.Orderly) (m : ReceiverMove) :
    (t.performReceiver m).Orderly := by
  unfold performReceiver
  split
  · exact orderly
  · cases m with
    | receive how => exact receive_orderly orderly how
    | close => exact ⟨orderly.order, orderly.once, orderly.known, orderly.tickets, orderly.owned⟩
    | drop =>
      exact ⟨nofun, orderly.once, orderly.known, orderly.tickets, orderly.owned⟩

theorem perform_orderly (orderly : t.Orderly) (move : Move) : (t.perform move).Orderly := by
  have handles (n : Nat) : Orderly { t with handles := n } :=
    ⟨orderly.order, orderly.once, orderly.known, orderly.tickets, orderly.owned⟩
  cases move with
  | clone =>
    simp only [perform]
    split
    · exact orderly
    · exact handles _
  | release => exact handles _
  | call caller route batch =>
    simp only [perform]
    split
    · exact orderly
    · exact call_orderly orderly caller route batch
  | advance i wait => exact advance_orderly orderly i wait
  | abandon i => exact abandon_orderly orderly i
  | receiver m => exact performReceiver_orderly orderly m

theorem run_orderly (orderly : t.Orderly) (moves : List Move) : (t.run moves).Orderly := by
  induction moves generalizing t with
  | nil => exact orderly
  | cons move rest ih => exact ih (perform_orderly orderly move)

/-! The history only grows, so a submission that is not in at the end was never in before. -/

theorem run_append (t : Traffic) (earlier later : List Move) :
    t.run (earlier ++ later) = (t.run earlier).run later :=
  List.foldl_append

theorem accepted_perform (t : Traffic) (move : Move) : t.accepted <+: (t.perform move).accepted := by
  cases move with
  | clone =>
    simp only [perform]
    split <;> exact List.prefix_rfl
  | release => exact List.prefix_rfl
  | call caller route batch =>
    simp only [perform]
    split <;> exact List.prefix_rfl
  | advance i wait =>
    simp only [perform, advance]
    split
    · exact update_accepted ..
    · exact List.prefix_rfl
  | abandon i =>
    simp only [perform, abandon]
    split
    · exact update_accepted ..
    · exact List.prefix_rfl
  | receiver m =>
    simp only [perform, (performReceiver_frame t m).2.2]
    exact List.prefix_rfl

theorem accepted_run (t : Traffic) (moves : List Move) : t.accepted <+: (t.run moves).accepted := by
  induction moves generalizing t with
  | nil => exact List.prefix_rfl
  | cons move rest ih => exact (accepted_perform t move).trans (ih (t.perform move))

theorem contribution_run (t : Traffic) (moves : List Move) (i : Nat) :
    t.contribution i <+: (t.run moves).contribution i :=
  (t.accepted_run moves).filter _

def Move.isOf (i : Nat) : Move → Prop
  | .advance j _ | .abandon j => j = i
  | _ => False

theorem update_buffered (effect : Submission.Effect s t.queue s' q')
    (out : (t.update i s (s', q')).contribution i = []) : q'.buffered = t.queue.buffered := by
  rcases effect.batches with ⟨_, kept⟩ | ⟨before, after, _⟩
  · exact kept
  · simp [contribution_update, before, after] at out

theorem perform_buffered {move : Move} (orderly : t.Orderly) (own : move.isOf i)
    (out : (t.perform move).contribution i = []) :
    (t.perform move).queue.buffered = t.queue.buffered := by
  cases move with
  | advance j wait =>
    cases own
    simp only [perform, advance] at out ⊢
    split at out
    · next s found =>
      exact update_buffered (s.advance_effect t.queue wait (orderly.owned i s found)) out
    · rfl
  | abandon j =>
    cases own
    simp only [perform, abandon] at out ⊢
    split at out
    · next s found => exact update_buffered (s.abandon_effect t.queue) out
    · rfl
  | clone | release | call | receiver => exact own.elim

theorem built_orderly {requested : Nat} (built : BoundedQueue.ofCapacity? requested = some q) :
    Orderly { queue := q } := by
  unfold BoundedQueue.ofCapacity? at built
  split at built
  · cases built
    exact orderly_empty rfl rfl
  · cases built

theorem Orderly.source (orderly : t.Orderly) {a : Acceptance} (member : a ∈ t.accepted) :
    ∃ s : Submission, t.submissions[a.submission]? = some s ∧ a.caller = s.caller ∧
      a.batch = s.batch := by
  have here := List.getElem?_eq_getElem (orderly.known a member)
  refine ⟨_, here, ?_⟩
  have counted : a ∈ t.contribution a.submission := by simp [contribution, member]
  rw [orderly.once _ _ here] at counted
  split at counted
  · rw [List.mem_singleton] at counted
    exact ⟨congrArg Acceptance.caller counted, congrArg Acceptance.batch counted⟩
  · cases counted

theorem Orderly.buffered_kept (orderly : t.Orderly) {before after : List Move} {move : Move}
    (own : move.isOf i) (out : (t.run (before ++ move :: after)).contribution i = []) :
    (t.run (before ++ [move])).queue.buffered = (t.run before).queue.buffered := by
  have out_then : (t.run (before ++ [move])).contribution i = [] := by
    have grows := contribution_run (t.run (before ++ [move])) after i
    rw [← run_append, List.append_assoc, List.singleton_append, out] at grows
    exact List.prefix_nil.mp grows
  rw [run_append] at out_then ⊢
  exact perform_buffered (run_orderly orderly before) own out_then

/-- From any queue that can be built, whatever the producers and the receiver do: as long as there is
a receiver, what was accepted is what it returned and then what is in the queue. A submission that
returned is in that history once or, if it failed, not at all. -/
theorem delivered_exactly_once_in_order {requested : Nat}
    (built : BoundedQueue.ofCapacity? requested = some q) {moves : List Move}
    (reached : run { queue := q } moves = t) :
    (t.queue.receiverDropped = false →
      t.accepted.map (·.batch) = t.received ++ t.queue.buffered) ∧
    (∀ a ∈ t.accepted, ∃ s : Submission, t.submissions[a.submission]? = some s ∧
      a.caller = s.caller ∧ a.batch = s.batch) ∧
    ∀ (i : Nat) (s : Submission), t.submissions[i]? = some s →
      (s.phase = .returned (.ok ()) → (t.contribution i).map (·.batch) = [s.batch]) ∧
      (∀ reason, s.phase = .returned (.error reason) → t.contribution i = [] ∧
        ∀ before move after, moves = before ++ move :: after → move.isOf i →
          (run { queue := q } (before ++ [move])).queue.buffered =
            (run { queue := q } before).queue.buffered) ∧
      (s.phase.underWay = true → (t.contribution i).map (·.batch) <+: [s.batch]) := by
  have start := built_orderly built
  have orderly : t.Orderly := reached ▸ run_orderly start moves
  refine ⟨orderly.order, fun a => orderly.source, fun i s found => ?_⟩
  have once := orderly.once i s found
  refine ⟨fun returned => ?_, fun reason returned => ?_, fun _ => ?_⟩
  · simp [once, returned, Phase.isIn]
  · have out : t.contribution i = [] := by simp [once, returned, Phase.isIn]
    refine ⟨out, ?_⟩
    rintro before move after rfl own
    exact start.buffered_kept own (reached ▸ out)
  · rw [once]
    split <;> simp

/-- With one slot, a thread waits until the first batch is received. A submission after the close
is refused, as is one on a thread that must not wait. -/
theorem delivery_through_one_slot :
    let record := fun id => Batch.single (Failure.indexing ⟨0, 0⟩ ⟨"cause"⟩ id "index" "details")
    let q : BoundedQueue := { capacity := 1 }
    let moves : List Move :=
      [.call 0 .async (record "a"), .advance 0 ⟨0, 0⟩, .advance 0 ⟨0, 0⟩,
        .call 1 (.blocking .none) (record "b"), .advance 1 ⟨0, 0⟩, .advance 1 ⟨0, 0⟩,
        .call 2 (.blocking .currentThread) (record "c"), .advance 2 ⟨0, 0⟩, .advance 2 ⟨0, 0⟩,
        .receiver (.receive .immediate), .advance 1 ⟨1, 0⟩, .advance 1 ⟨1, 0⟩,
        .receiver .close, .call 3 .async (record "d"), .advance 3 ⟨0, 0⟩]
    let t := run { queue := q } moves
    BoundedQueue.ofCapacity? 1 = some q ∧
      t.submissions.map (·.phase) =
        [.returned (.ok ()), .returned (.ok ()), .returned (.error .blockingInCurrentThread),
          .returned (.error .closed)] ∧
      t.received = [record "a"] ∧ t.queue.buffered = [record "b"] ∧
      t.accepted.map (·.batch) = [record "a"] ++ [record "b"] ∧
      (t.contribution 1).map (·.batch) = [record "b"] ∧ t.contribution 3 = [] := by
  intro record q moves t
  have phases : t.submissions.map (·.phase) =
      [.returned (.ok ()), .returned (.ok ()), .returned (.error .blockingInCurrentThread),
        .returned (.error .closed)] := by decide +kernel +revert
  have received : t.received = [record "a"] := by decide +kernel +revert
  have buffered : t.queue.buffered = [record "b"] := by decide +kernel +revert
  have kept : t.queue.receiverDropped = false := by decide +kernel +revert
  have second : t.submissions[1]?.map (fun s => (s.phase, s.batch)) =
      some (.returned (.ok ()), record "b") := by decide +kernel +revert
  have last : t.submissions[3]?.map (·.phase) = some (.returned (.error .closed)) := by
    decide +kernel +revert
  have built : BoundedQueue.ofCapacity? 1 = some q := rfl
  obtain ⟨order, _, each⟩ := delivered_exactly_once_in_order (t := t) built rfl
  obtain ⟨s, found, same⟩ := Option.map_eq_some_iff.mp second
  injection same with returned batch
  obtain ⟨u, present, refused⟩ := Option.map_eq_some_iff.mp last
  refine ⟨built, phases, received, buffered, ?_, ?_, ((each 3 u present).2.1 _ refused).1⟩
  · rw [order kept, received, buffered]
  · rw [(each 1 s found).1 returned, batch]

end FailureIntake.Traffic
