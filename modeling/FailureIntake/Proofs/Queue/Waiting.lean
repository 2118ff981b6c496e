import FailureIntake.Proofs.Queue.Steps

/-! Who waits. No two wait with the same ticket, and behind each ticket there is a submission that
waits. So a slot that was handed out is filled or given back by the one submission it went to. -/
namespace FailureIntake

namespace Traffic

variable {t t' : Traffic} {i n : Nat} {s s' : Submission} {q' : BoundedQueue}

def Awaited (t : Traffic) (n : Nat) : Prop :=
  ∃ (i : Nat) (s : Submission), t.submissions[i]? = some s ∧ s.phase = .waiting n

structure Ticketed (t : Traffic) : Prop where
  distinct : (t.queue.waiters.map (·.ticket)).Nodup
  awaited : ∀ w ∈ t.queue.waiters, t.Awaited w.ticket

theorem ticketed_empty {q : BoundedQueue} (waiters : q.waiters = []) : Ticketed { queue := q } where
  distinct := by
    rw [waiters]
    exact List.nodup_nil
  awaited w member := by
    rw [waiters] at member
    cases member

/-- A ticket is given up only by the submission that waits with it. -/
theorem Awaited.update (awaited : t.Awaited n) (found : t.submissions[i]? = some s)
    (stays : s.phase = .waiting n → s'.phase = .waiting n) : (t.update i s (s', q')).Awaited n := by
  obtain ⟨j, u, present, waiting⟩ := awaited
  by_cases here : j = i
  · subst here
    cases found.symm.trans present
    exact ⟨j, s', update_own found, stays waiting⟩
  · exact ⟨j, u, (update_other here).trans present, waiting⟩

theorem Awaited.call (awaited : t.Awaited n) (caller : Nat) (route : Route) (batch : Batch) :
    (t.call caller route batch).Awaited n := by
  obtain ⟨j, u, present, waiting⟩ := awaited
  have below := (List.getElem?_eq_some_iff.mp present).1
  exact ⟨j, u, (List.getElem?_append_left below).trans present, waiting⟩

theorem Ticketed.same (ticketed : t.Ticketed) (waiters : t'.queue.waiters = t.queue.waiters)
    (submissions : t'.submissions = t.submissions) : t'.Ticketed where
  distinct := waiters ▸ ticketed.distinct
  awaited w member := by
    rw [Awaited, submissions]
    exact ticketed.awaited w (waiters ▸ member)

/-- An operation after which the same ones wait as before. -/
theorem Ticketed.unmoved (ticketed : t.Ticketed) (found : t.submissions[i]? = some s)
    (waiters : q'.waiters = t.queue.waiters)
    (stays : ∀ n, s.phase = .waiting n → s'.phase = .waiting n) :
    (t.update i s (s', q')).Ticketed where
  distinct := by
    change (q'.waiters.map (·.ticket)).Nodup
    exact waiters ▸ ticketed.distinct
  awaited w member := by
    change w ∈ q'.waiters at member
    exact (ticketed.awaited w (waiters ▸ member)).update found (stays w.ticket)

/-- An operation after which the submission's own ticket is gone. -/
theorem Ticketed.forgotten (ticketed : t.Ticketed) (found : t.submissions[i]? = some s)
    (waiting : s.phase = .waiting n)
    (waiters : q'.waiters = t.queue.waiters.filter (·.ticket ≠ n)) :
    (t.update i s (s', q')).Ticketed where
  distinct := by
    change (q'.waiters.map (·.ticket)).Nodup
    rw [waiters]
    exact ticketed.distinct.sublist (List.filter_sublist.map _)
  awaited w member := by
    change w ∈ q'.waiters at member
    rw [waiters, List.mem_filter, decide_eq_true_eq] at member
    refine (ticketed.awaited w member.1).update found fun own => ?_
    rw [waiting] at own
    injection own with own
    exact absurd own.symm member.2

theorem Ticketed.parked (ticketed : t.Ticketed) (orderly : t.Orderly)
    (found : t.submissions[i]? = some s) (outside : s.phase = .called ∨ s.phase = .foundFull)
    (waiting : s'.phase = .waiting t.queue.nextTicket) :
    (t.update i s (s', t.queue.park s.batch)).Ticketed where
  distinct := by
    change ((t.queue.park s.batch).waiters.map (·.ticket)).Nodup
    rw [BoundedQueue.waiters_park, List.map_append, List.nodup_append]
    refine ⟨ticketed.distinct, by simp, ?_⟩
    rintro n known _ fresh rfl
    obtain ⟨w, member, rfl⟩ := List.mem_map.mp known
    have := orderly.tickets w member
    simp only [List.map_cons, List.map_nil, List.mem_singleton] at fresh
    omega
  awaited w member := by
    change w ∈ (t.queue.park s.batch).waiters at member
    rw [BoundedQueue.waiters_park, List.mem_append, List.mem_singleton] at member
    rcases member with earlier | rfl
    · refine (ticketed.awaited w earlier).update found fun own => ?_
      rcases outside with phase | phase <;> rw [phase] at own <;> cases own
    · exact ⟨i, s', update_own found, waiting⟩

theorem Ticketed.update (ticketed : t.Ticketed) (orderly : t.Orderly)
    (found : t.submissions[i]? = some s) (step : Submission.Step s t.queue s' q') :
    (t.update i s (s', q')).Ticketed := by
  -- Whoever is outside the line has no ticket to give up.
  have nothing {phase : Phase} {n : Nat} (outside : s.phase = .called ∨ s.phase = .foundFull)
      (own : s.phase = .waiting n) : phase = .waiting n := by
    rcases outside with now | now <;> rw [now] at own <;> cases own
  cases step with
  | rests => exact ticketed.unmoved found rfl fun _ own => own
  | turns _ outside => exact ticketed.unmoved found rfl fun n own => nothing outside own
  | enters outside => exact ticketed.unmoved found rfl fun n own => nothing outside own
  | parks outside => exact ticketed.parked orderly found outside rfl
  | leaves _ waiting => exact ticketed.forgotten found waiting BoundedQueue.waiters_forget
  | fills waiting => exact ticketed.forgotten found waiting BoundedQueue.waiters_forget
  | waitsOn waiting => exact ticketed.unmoved found rfl fun n own => waiting.symm.trans own
  | reports entered =>
    refine ticketed.unmoved found rfl fun n own => ?_
    rw [entered] at own
    cases own
  | withdraws waiting => exact ticketed.forgotten found waiting (t.queue.withdraw_frame _).1

theorem Ticketed.change (ticketed : t.Ticketed) (orderly : t.Orderly) (change : Change t t') :
    t'.Ticketed := by
  cases change with
  | rests => exact ticketed
  | handles => exact ticketed.same rfl rfl
  | called caller route batch =>
    exact ⟨ticketed.distinct, fun w member => (ticketed.awaited w member).call caller route batch⟩
  | operates found step => exact ticketed.update orderly found step
  | receives _ taken => exact ticketed.same (BoundedQueue.take_some taken).2.1 rfl
  | findsNothing => exact ticketed.same rfl rfl
  | closes => exact ticketed.same rfl rfl
  | drops => exact ticketed.same rfl rfl

theorem run_ticketed (ticketed : t.Ticketed) (orderly : t.Orderly) (moves : List Move) :
    (t.run moves).Ticketed := by
  induction moves generalizing t with
  | nil => exact ticketed
  | cons move rest ih =>
    exact ih (ticketed.change orderly (t.perform_change move)) (perform_orderly orderly move)

/-- A slot is out only as long as some submission waits. -/
theorem Ticketed.granted_nil (ticketed : t.Ticketed)
    (nobody : ∀ (i : Nat) (s : Submission), t.submissions[i]? = some s → ∀ n, s.phase ≠ .waiting n) :
    t.queue.granted = [] := by
  refine List.eq_nil_iff_forall_not_mem.mpr fun w member => ?_
  obtain ⟨i, s, found, waiting⟩ := ticketed.awaited w (List.mem_append_left _ member)
  exact nobody i s found w.ticket waiting

end Traffic

end FailureIntake
