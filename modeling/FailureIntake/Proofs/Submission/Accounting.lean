import FailureIntake.Proofs.Submission.Filing
import FailureIntake.Proofs.Submission.Intake

/-! The account of calls that run at the same time. What the queue accepted from one call is what
that call offered and was told to be accepted, and at most one batch more, of whose acceptance it
has yet to hear. No step of another call and no move of the receiver changes this. -/
namespace FailureIntake

open Program Act

namespace Traffic

variable {t t' : Traffic} {i j : Nat} {s : Submission}

/-- The accepted batches that one caller brought, in order. -/
def acceptedFrom (t : Traffic) (caller : Nat) : List Batch :=
  (t.accepted.filter (·.caller = caller)).map (·.batch)

structure Undisturbed (caller : Nat) (t t' : Traffic) : Prop where
  accepted : t'.acceptedFrom caller = t.acceptedFrom caller
  submissions : ∀ (j : Nat) (s : Submission), t.submissions[j]? = some s → s.caller = caller →
    t'.submissions[j]? = some s

theorem undisturbed_refl (caller : Nat) (t : Traffic) : Undisturbed caller t t :=
  ⟨rfl, fun _ _ found _ => found⟩

theorem undisturbed_call (i caller : Nat) (route : Route) (batch : Batch) (t : Traffic) :
    Undisturbed i t (t.call caller route batch) where
  accepted := rfl
  submissions j s found _ := by
    have below := (List.getElem?_eq_some_iff.mp found).1
    rw [← found]
    exact List.getElem?_append_left below

theorem acceptedFrom_update (t : Traffic) (i j : Nat) (s : Submission)
    (r : Submission × BoundedQueue) :
    (t.update j s r).acceptedFrom i = t.acceptedFrom i ++
      if s.caller = i ∧ r.1.phase.isIn && !s.phase.isIn then [s.batch] else [] := by
  rcases r with ⟨s', q'⟩
  simp only [acceptedFrom, update]
  by_cases enters : (s'.phase.isIn && !s.phase.isIn) = true
  · by_cases own : s.caller = i <;> simp [enters, own]
  · simp [enters]

/-- A submission in the queue is accounted for once, before and after each of its operations. -/
theorem acceptedFrom_own {s' : Submission} {q' : BoundedQueue} {earlier : List Batch}
    (effect : Submission.Effect s t.queue s' q')
    (before : t.acceptedFrom s.caller = earlier ++ if s.phase.isIn then [s.batch] else []) :
    (t.update j s (s', q')).acceptedFrom s.caller =
      earlier ++ if s'.phase.isIn then [s'.batch] else [] := by
  rw [acceptedFrom_update, before, effect.same.2.2]
  rcases effect.batches with ⟨isIn, _⟩ | ⟨out, isIn, _⟩
  · simp [isIn]
  · simp [isIn, out]

theorem undisturbed_advance (found : t.submissions[j]? = some s) (other : s.caller ≠ i)
    (wait : Duration) : Undisturbed i t (t.advance j wait) := by
  simp only [advance, found]
  constructor
  · simp [acceptedFrom_update, other]
  · intro k u present own
    have apart : k ≠ j := by
      rintro rfl
      rw [found] at present
      cases present
      exact other own
    rw [update_other apart]
    exact present

theorem undisturbed_receiver (i : Nat) (t : Traffic) (m : ReceiverMove) :
    Undisturbed i t (t.performReceiver m) := by
  have ⟨_, submissions, accepted⟩ := t.performReceiver_frame m
  refine ⟨?_, fun j s found _ => ?_⟩
  · rw [acceptedFrom, accepted, acceptedFrom]
  · rw [submissions]
    exact found

end Traffic

namespace OpenCall

variable {i : Nat} {c : OpenCall} {t t' : Traffic}

/-- The batch that is in the queue while the call has yet to hear of it. -/
def inFlight (c : OpenCall) (t : Traffic) : List Batch :=
  match c.pending.bind (t.submissions[·]?) with
  | some s => if s.phase.isIn then [s.batch] else []
  | none => []

/-- The call's own acts account for all that came from it. -/
structure Accounted (i : Nat) (c : OpenCall) (t : Traffic) : Prop where
  performs : Performs c.call.program c.acts c.rest
  waits : ∀ j, c.pending = some j → ∃ s next, t.submissions[j]? = some s ∧ s.caller = i ∧
    c.rest = .submit s.batch next
  accepted : t.acceptedFrom i = acceptedBatches c.acts ++ c.inFlight t

theorem inFlight_idle (idle : c.pending = none) : c.inFlight t = [] := by
  simp [inFlight, idle]

theorem inFlight_pending {j : Nat} {s : Submission} (pending : c.pending = some j)
    (found : t.submissions[j]? = some s) :
    c.inFlight t = if s.phase.isIn then [s.batch] else [] := by
  simp [inFlight, pending, found]

theorem Accounted.undisturbed (accounted : Accounted i c t) (change : t.Undisturbed i t') :
    Accounted i c t' where
  performs := accounted.performs
  waits j pending := by
    obtain ⟨s, next, found, own, rest⟩ := accounted.waits j pending
    exact ⟨s, next, change.submissions j s found own, own, rest⟩
  accepted := by
    rw [change.accepted, accounted.accepted]
    cases pending : c.pending with
    | none => rw [inFlight_idle pending, inFlight_idle pending]
    | some j =>
      obtain ⟨s, _, found, own, _⟩ := accounted.waits j pending
      rw [inFlight_pending pending found,
        inFlight_pending pending (change.submissions j s found own)]

/-- An act on which the queue has no part. -/
theorem Accounted.did (accounted : Accounted i c t) (idle : c.pending = none)
    {acts : List Act} {rest : Program (Outcome (Option Decision))}
    (performs : Performs c.rest acts rest) (apart : acceptedBatches acts = []) :
    Accounted i (c.did acts rest) t where
  performs := accounted.performs.trans performs
  waits j pending := by cases pending
  accepted := by
    rw [accounted.accepted, inFlight_idle idle, inFlight_idle rfl]
    simp [OpenCall.did, acceptedBatches_append, apart]

theorem Accounted.idle (accounted : Accounted i c t)
    (elsewhere : ∀ b next, c.rest ≠ .submit b next) : c.pending = none := by
  cases pending : c.pending with
  | none => rfl
  | some j =>
    obtain ⟨s, next, _, _, rest⟩ := accounted.waits j pending
    exact absurd rest (elsewhere _ _)

theorem Accounted.called (accounted : Accounted i c t) (idle : c.pending = none) {b : Batch}
    {next : QueueAnswer → Program (Outcome (Option Decision))} (rest : c.rest = .submit b next)
    (route : Route) :
    Accounted i { c with pending := some t.submissions.length } (t.call i route b) := by
  have found : (t.call i route b).submissions[t.submissions.length]? =
      some { caller := i, route, batch := b } := by simp [Traffic.call]
  refine ⟨accounted.performs, ?_, ?_⟩
  · rintro j ⟨⟩
    exact ⟨_, next, found, rfl, rest⟩
  · rw [inFlight_pending rfl found]
    exact accounted.accepted.trans (congrArg (acceptedBatches c.acts ++ ·) (inFlight_idle idle))

/-- While a call is in a submission, each operation of the submission keeps the account, and so
does the submission's return. -/
theorem Accounted.advanced (accounted : Accounted i c t) (orderly : t.Orderly) {j : Nat} {b : Batch}
    {next : QueueAnswer → Program (Outcome (Option Decision))} (pending : c.pending = some j)
    (rest : c.rest = .submit b next) (wait : Duration) :
    Accounted i (((t.advance j wait).submissions[j]?.map (c.collect b next)).getD c)
      (t.advance j wait) := by
  obtain ⟨s, _, found, rfl, same⟩ := accounted.waits j pending
  obtain ⟨rfl, rfl⟩ := Program.submit.inj (rest.symm.trans same)
  have effect := s.advance_effect t.queue wait (orderly.owned j s found)
  have before := accounted.accepted
  rw [inFlight_pending pending found] at before
  have after := Traffic.acceptedFrom_own (j := j) effect before
  have found' := Traffic.update_own (r := s.advance wait t.queue) found
  simp only [Traffic.advance, found, found', Option.map_some, Option.getD_some]
  generalize s.advance wait t.queue = r at *
  rcases r with ⟨s', q'⟩
  have waiting : Accounted s.caller c (t.update j s (s', q')) := by
    refine ⟨accounted.performs, fun k same => ?_, ?_⟩
    · cases pending.symm.trans same
      exact ⟨s', next, found', effect.same.1, effect.same.2.2 ▸ rest⟩
    · rw [inFlight_pending pending found']
      exact after
  simp only [collect]
  cases phase : s'.phase with
  | returned answer =>
    have performed : Performs c.rest [.offered s.batch (some answer) s'.notes] (next answer) := by
      rw [rest]
      exact .submit (.nothing _)
    refine ⟨accounted.performs.trans performed, fun k same => ?_, ?_⟩
    · cases same
    · rw [after, phase, inFlight_idle rfl, effect.same.2.2]
      cases answer <;> simp [OpenCall.did, acceptedBatches, accepted?, Phase.isIn]
  | called | foundFull | waiting | entered | abandoned => exact waiting

theorem Accounted.step (accounted : Accounted i c t) (orderly : t.Orderly) (around : Surroundings) :
    Accounted i (c.step i around t).1 (c.step i around t).2 := by
  have idle := accounted.idle
  unfold OpenCall.step
  split
  · exact accounted
  · next next rest =>
    exact accounted.did (idle (by simp [rest])) (rest ▸ .readSubmit (.nothing _)) rfl
  · next next rest =>
    exact accounted.did (idle (by simp [rest])) (rest ▸ .readKeep (.nothing _)) rfl
  · next e next rest =>
    exact accounted.did (idle (by simp [rest])) (rest ▸ .evaluate (.nothing _)) rfl
  · next next rest =>
    exact accounted.did (idle (by simp [rest])) (rest ▸ .stamp (.nothing _)) rfl
  · next n next rest =>
    exact accounted.did (idle (by simp [rest])) (rest ▸ .note (.nothing _)) rfl
  · next b next rest =>
    split
    · next pending => exact accounted.called pending rest _
    · next j pending => exact accounted.advanced orderly pending rest around.wait

theorem Accounted.step_undisturbed (accounted : Accounted i c t) (around : Surroundings) {k : Nat}
    (other : k ≠ i) : t.Undisturbed k (c.step i around t).2 := by
  unfold OpenCall.step
  split <;> try exact t.undisturbed_refl k
  split
  · exact t.undisturbed_call k i _ _
  · next j pending =>
    obtain ⟨s, _, found, own, _⟩ := accounted.waits j pending
    exact Traffic.undisturbed_advance found (own ▸ other.symm) around.wait

end OpenCall

namespace Intake

variable {x : Intake}

structure Accounted (x : Intake) : Prop where
  orderly : x.traffic.Orderly
  held : x.traffic.handles ≠ 0
  strangers : ∀ i, x.calls.length ≤ i → x.traffic.acceptedFrom i = []
  calls : ∀ (i : Nat) (c : OpenCall), x.calls[i]? = some c → c.Accounted i x.traffic

theorem accounted_empty {q : BoundedQueue} (orderly : Traffic.Orderly { queue := q }) :
    Accounted { traffic := { queue := q } } where
  orderly := orderly
  held := Nat.one_ne_zero
  strangers _ _ := rfl
  calls i c found := by cases found

theorem Accounted.start (accounted : x.Accounted) (call : Call) (context : RuntimeContext) :
    (x.perform (.start call context)).Accounted where
  orderly := accounted.orderly
  held := accounted.held
  strangers i beyond := by
    simp only [perform, List.length_append, List.length_singleton] at beyond
    exact accounted.strangers i (by omega)
  calls i c found := by
    simp only [perform, List.getElem?_append, List.getElem?_singleton] at found
    split at found
    · exact accounted.calls i c found
    · next beyond =>
      split at found
      · cases found
        refine ⟨.nothing _, fun j pending => ?_, ?_⟩
        · cases pending
        · exact accounted.strangers i (by omega)
      · cases found

theorem Accounted.act (accounted : x.Accounted) {i : Nat} {c : OpenCall}
    (found : x.calls[i]? = some c) (around : Surroundings) :
    (x.perform (.act i around)).Accounted := by
  have below := (List.getElem?_eq_some_iff.mp found).1
  have own := accounted.calls i c found
  obtain ⟨moves, traffic, held⟩ := c.step_traffic accounted.held i around
  have orderly := Traffic.run_orderly accounted.orderly moves
  rw [← traffic] at orderly
  simp only [perform, found]
  refine ⟨orderly, held, fun k beyond => ?_, fun k c' present => ?_⟩
  · rw [List.length_set] at beyond
    have change := own.step_undisturbed around (show k ≠ i by omega)
    exact change.accepted.trans (accounted.strangers k beyond)
  · by_cases here : k = i
    · subst here
      rw [List.getElem?_set_self below] at present
      cases present
      exact own.step accounted.orderly around
    · rw [List.getElem?_set_ne (Ne.symm here)] at present
      exact (accounted.calls k c' present).undisturbed (own.step_undisturbed around here)

theorem Accounted.receiver (accounted : x.Accounted) (m : ReceiverMove) :
    (x.perform (.receiver m)).Accounted where
  orderly := Traffic.performReceiver_orderly accounted.orderly m
  held := by
    simp only [perform, (x.traffic.performReceiver_frame m).1]
    exact accounted.held
  strangers i beyond :=
    (Traffic.undisturbed_receiver i x.traffic m).accepted.trans (accounted.strangers i beyond)
  calls i c found :=
    (accounted.calls i c found).undisturbed (Traffic.undisturbed_receiver i x.traffic m)

theorem run_accounted (accounted : x.Accounted) (moves : List Move) : (x.run moves).Accounted := by
  induction moves generalizing x with
  | nil => exact accounted
  | cons move rest ih =>
    apply ih
    cases move with
    | start call context => exact accounted.start call context
    | act i around =>
      cases found : x.calls[i]? with
      | some c => exact accounted.act found around
      | none =>
        simp only [perform, found]
        exact accounted
    | receiver m => exact accounted.receiver m

/-- Whoever has a batch in the history is one of the calls. -/
theorem Accounted.caller (accounted : x.Accounted) {a : Acceptance}
    (member : a ∈ x.traffic.accepted) :
    a.caller < x.calls.length ∧ a.batch ∈ x.traffic.acceptedFrom a.caller := by
  have among : a.batch ∈ x.traffic.acceptedFrom a.caller :=
    List.mem_map.mpr ⟨a, List.mem_filter.mpr ⟨member, by simp⟩, rfl⟩
  refine ⟨?_, among⟩
  by_contra beyond
  rw [accounted.strangers a.caller (by omega)] at among
  cases among

end Intake

end FailureIntake
