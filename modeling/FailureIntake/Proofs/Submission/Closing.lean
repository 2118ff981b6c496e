import FailureIntake.Proofs.Queue.Closing
import FailureIntake.Proofs.Submission.Accounting

/-! The end of the queue as its producers see it. A call that hands a batch to a closed queue fails
with the stage of that batch, whatever it still had to submit. -/
namespace FailureIntake

open Act

namespace Program

/-- A refused batch ends the program at once, with the batch's stage and the queue's reason. -/
def StopsAtRefusal {α : Type} : Program (Outcome α) → Prop
  | .done _ => True
  | .readSubmit k => ∀ answer, (k answer).StopsAtRefusal
  | .readKeep k => ∀ answer, (k answer).StopsAtRefusal
  | .evaluate _ k => ∀ cause, (k cause).StopsAtRefusal
  | .stamp k => ∀ now, (k now).StopsAtRefusal
  | .note _ k => k.StopsAtRefusal
  | .submit b k =>
    (∀ reason, k (.error reason) = .done (.error ⟨b.primaryStage, reason⟩)) ∧
      (k (.ok ())).StopsAtRefusal

variable {α β γ : Type}

theorem bind_assoc (p : Program α) (f : α → Program β) (g : β → Program γ) :
    (p.bind f).bind g = p.bind fun a => (f a).bind g := by
  induction p with
  | done a => rfl
  | readSubmit k ih => exact congrArg Program.readSubmit (funext ih)
  | readKeep k ih => exact congrArg Program.readKeep (funext ih)
  | evaluate e k ih => exact congrArg (Program.evaluate e) (funext ih)
  | stamp k ih => exact congrArg Program.stamp (funext ih)
  | note n k ih => exact congrArg (Program.note n) ih
  | submit b k ih => exact congrArg (Program.submit b) (funext ih)

/-- What follows a program that stops has to pass the failure on. -/
theorem StopsAtRefusal.bind {p : Program (Outcome α)} {f : Outcome α → Program (Outcome β)}
    (stops : p.StopsAtRefusal) (passes : ∀ err, f (.error err) = .done (.error err))
    (later : ∀ a, (f (.ok a)).StopsAtRefusal) : (p.bind f).StopsAtRefusal := by
  induction p with
  | done outcome =>
    cases outcome with
    | error err =>
      change (f (.error err)).StopsAtRefusal
      rw [passes]
      trivial
    | ok a => exact later a
  | readSubmit k ih => exact fun answer => ih answer (stops answer)
  | readKeep k ih => exact fun answer => ih answer (stops answer)
  | evaluate e k ih => exact fun cause => ih cause (stops cause)
  | stamp k ih => exact fun now => ih now (stops now)
  | note n k ih => exact ih stops
  | submit b k ih =>
    exact ⟨fun reason => (congrArg (Program.bind · f) (stops.1 reason)).trans (passes _),
      ih (.ok ()) stops.2⟩

/-- Wherever such a program has come to, it stops at the next refusal; and if it was refused a batch
it has stopped. -/
theorem Performs.stops {p rest : Program (Outcome α)} {acts : List Act}
    (performs : Performs p acts rest) (stops : p.StopsAtRefusal) :
    rest.StopsAtRefusal ∧ ∀ b reason, (b, some (.error reason)) ∈ offers acts →
      rest = .done (.error ⟨b.primaryStage, reason⟩) := by
  induction performs with
  | nothing p => exact ⟨stops, nofun⟩
  | readSubmit _ ih => exact ih (stops _)
  | readKeep _ ih => exact ih (stops _)
  | evaluate _ ih => exact ih (stops _)
  | stamp _ ih => exact ih (stops _)
  | note _ ih => exact ih stops
  | @submit b k answer notes acts rest performs ih =>
    cases answer with
    | error reason =>
      rw [stops.1 reason] at performs
      cases performs
      refine ⟨trivial, fun b' reason' member => ?_⟩
      cases List.mem_singleton.mp member
      rfl
    | ok =>
      obtain ⟨later, refused⟩ := ih stops.2
      refine ⟨later, fun b' reason' member => ?_⟩
      rcases List.mem_cons.mp member with now | after
      · cases now
      · exact refused b' reason' after

end Program

/-! Every path of the service is such a program. -/

namespace Service

open Program

theorem submit_stops (b : Batch) : (submit b).StopsAtRefusal :=
  ⟨fun _ => rfl, trivial⟩

theorem indexingFailures_stops {α : Type} (errors : List IndexingError)
    {f : List Failure → Program (Outcome α)} (stops : ∀ failures, (f failures).StopsAtRefusal) :
    ((indexingFailures errors).bind f).StopsAtRefusal := by
  induction errors generalizing f with
  | nil => exact stops []
  | cons e rest ih =>
    unfold indexingFailures
    split
    · intro now
      change (Program.bind (Program.bind _ _) _).StopsAtRefusal
      rw [bind_assoc]
      exact ih fun failures => stops _
    · exact ih stops

theorem submitIndexingErrors_stops (errors : List IndexingError) :
    (submitIndexingErrors errors).StopsAtRefusal := by
  refine indexingFailures_stops errors fun failures => ?_
  cases failures with
  | nil => exact trivial
  | cons first rest => exact submit_stops _

theorem submitInputFailure_stops (e : InputException) (inputId : String) :
    (submitInputFailure e inputId).StopsAtRefusal :=
  fun _ => (submit_stops _).bind (fun _ => rfl) fun _ => trivial

theorem submitProcessingError_stops (m : Message) (e : ProcessingError) (requiresAck : Bool) :
    (submitProcessingError m e requiresAck).StopsAtRefusal :=
  fun _ _ => submit_stops _

theorem submitEach_stops (m : Message) (errors : List ProcessingError) :
    (submitEach m errors).StopsAtRefusal := by
  induction errors with
  | nil => exact trivial
  | cons e rest ih => exact (submitProcessingError_stops m e false).bind (fun _ => rfl) fun _ => ih

theorem submitProcessingErrors_stops (m : Message) : (submitProcessingErrors m).StopsAtRefusal := by
  unfold submitProcessingErrors
  split
  · exact trivial
  · next first rest _ =>
    intro enabled
    cases enabled with
    | false => exact trivial
    | true =>
      cases m.supportsFailureHandling with
      | false => exact trivial
      | true =>
        intro keep
        cases keep with
        | true => exact (submitEach_stops m _).bind (fun _ => rfl) fun _ => trivial
        | false =>
          exact (submitProcessingError_stops m first true).bind (fun _ => rfl) fun _ => trivial

theorem submitUnknownProcessingError_stops (m : Message) (details : String) :
    (submitUnknownProcessingError m details).StopsAtRefusal :=
  fun _ => (submit_stops _).bind (fun _ => rfl) fun _ => trivial

end Service

theorem Call.program_stops (call : Call) : call.program.StopsAtRefusal := by
  cases call with
  | indexing errors =>
    exact (Service.submitIndexingErrors_stops errors).bind (fun _ => rfl) fun _ => trivial
  | input e inputId =>
    exact (Service.submitInputFailure_stops e inputId).bind (fun _ => rfl) fun _ => trivial
  | processing m =>
    exact (Service.submitProcessingErrors_stops m).bind (fun _ => rfl) fun _ => trivial
  | unknown m details =>
    exact (Service.submitUnknownProcessingError_stops m details).bind (fun _ => rfl) fun _ => trivial

namespace OpenCall

variable {i j : Nat} {c : OpenCall} {t u : Traffic} {b : Batch}

/-- An act of a call is at most one move of the traffic, and none by which a submission is given up. -/
theorem step_move (held : t.handles ≠ 0) (i : Nat) (around : Surroundings) (c : OpenCall) :
    (c.step i around t).2 = t ∨ ∃ move, (c.step i around t).2 = t.perform move ∧
      (∀ m, move ≠ .receiver m) ∧ ∀ j, move ≠ .abandon j := by
  unfold step
  split <;> try exact .inl rfl
  next b next _ =>
  split
  · refine .inr ⟨.call i (.blocking c.context) b, ?_, by simp, by simp⟩
    simp [Traffic.perform, held]
  · next j _ => exact .inr ⟨.advance j around.wait, rfl, by simp, by simp⟩

/-- The call has this batch to hand over, or is doing so in a submission without an answer at `t`. -/
def Faces (c : OpenCall) (t : Traffic) (b : Batch) : Prop :=
  (∃ next, c.rest = .submit b next) ∧ ∀ j, c.pending = some j → t.Late j

def FailsWith (c : OpenCall) (b : Batch) : Prop :=
  c.returned? = some (.error ⟨b.primaryStage, .closed⟩)

theorem Faces.called (faces : c.Faces t b) (idle : c.pending = none)
    (made : t.submissions.length ≤ u.submissions.length) (around : Surroundings) :
    (c.step i around u).1.Faces t b ∧ (c.step i around u).1.pending = some u.submissions.length := by
  obtain ⟨⟨next, rest⟩, _⟩ := faces
  have after : (c.step i around u).1 = { c with pending := some u.submissions.length } := by
    unfold step
    simp only [rest, idle]
  rw [after]
  refine ⟨⟨⟨next, rest⟩, ?_⟩, rfl⟩
  rintro _ ⟨⟩ s found
  rw [List.getElem?_eq_none made] at found
  cases found

theorem Faces.fails (faces : c.Faces t b) (accounted : c.Accounted i u) (pending : c.pending = some j)
    (shut : Traffic.Shut t u) (present : ∀ s ∈ u.submissions, s.phase ≠ .abandoned)
    (around : Surroundings) : (c.step i around u).1.FailsWith b := by
  obtain ⟨⟨next, rest⟩, late⟩ := faces
  obtain ⟨s, _, found, _, _⟩ := accounted.waits j pending
  have refused := (shut.excluded j (late j pending) s found).refused around.wait
    (present s (List.mem_of_getElem? found)) shut.closed
  have stops := (accounted.performs.stops c.call.program_stops).1
  rw [rest] at stops
  unfold step
  simp only [rest, pending, Traffic.advance, found, Traffic.update_own found, Option.map_some,
    Option.getD_some, collect, refused, FailsWith]
  exact returned?_eq_some.mpr (stops.1 .closed)

end OpenCall

namespace Intake

variable {x y : Intake} {i : Nat} {c : OpenCall} {b : Batch}

def Move.isActOf (i : Nat) : Move → Bool
  | .act j _ => j == i
  | _ => false

theorem perform_other {move : Move} (found : y.calls[i]? = some c) (other : move.isActOf i = false) :
    (y.perform move).calls[i]? = some c := by
  have below := (List.getElem?_eq_some_iff.mp found).1
  cases move with
  | start call context => exact (List.getElem?_append_left below).trans found
  | act j around =>
    simp only [perform]
    split
    · rw [List.getElem?_set_ne (by simpa [Move.isActOf] using other)]
      exact found
    · exact found
  | receiver m => exact found

theorem perform_own (found : y.calls[i]? = some c) (around : Surroundings) :
    (y.perform (.act i around)).calls[i]? = some (c.step i around y.traffic).1 := by
  simp only [perform, found]
  exact List.getElem?_set_self (List.getElem?_eq_some_iff.mp found).1

/-- A call that has returned does nothing more. -/
theorem returned_run (found : y.calls[i]? = some c) {outcome : Outcome (Option Decision)}
    (returned : c.returned? = some outcome) (moves : List Move) :
    (y.run moves).calls[i]? = some c := by
  induction moves generalizing y with
  | nil => exact found
  | cons move rest ih =>
    refine ih ?_
    cases own : move.isActOf i with
    | false => exact perform_other found own
    | true =>
      cases move with
      | start | receiver => cases own
      | act j around =>
        cases beq_iff_eq.mp own
        have done := OpenCall.returned?_eq_some.mp returned
        have idle : (c.step i around y.traffic).1 = c := by
          unfold OpenCall.step
          rw [done]
        rw [perform_own found, idle]

/-- What the later moves keep. -/
structure Shut (x y : Intake) : Prop where
  accounted : y.Accounted
  traffic : Traffic.Shut x.traffic y.traffic
  present : ∀ s ∈ y.traffic.submissions, s.phase ≠ .abandoned

theorem perform_present (held : y.traffic.handles ≠ 0)
    (present : ∀ s ∈ y.traffic.submissions, s.phase ≠ .abandoned) (move : Move) :
    ∀ s ∈ (y.perform move).traffic.submissions, s.phase ≠ .abandoned := by
  cases move with
  | start call context => exact present
  | receiver m =>
    simp only [perform, (y.traffic.performReceiver_frame m).2.1]
    exact present
  | act i around =>
    simp only [perform]
    split
    · next c _ =>
      rcases c.step_move held i around with same | ⟨move, same, _, kept⟩
      · rw [same]
        exact present
      · rw [same]
        intro s' member
        obtain ⟨j, found⟩ := List.mem_iff_getElem?.mp member
        rcases Traffic.perform_submission move found with
          ⟨s, earlier, rfl | ⟨wait, rfl⟩ | ⟨given, _⟩⟩ | ⟨_, called⟩
        · exact present s' (List.mem_of_getElem? earlier)
        · exact Submission.advance_present (present s (List.mem_of_getElem? earlier))
        · exact absurd given (kept j)
        · rw [called]
          exact Phase.noConfusion
    · exact present

theorem run_present (accounted : y.Accounted)
    (present : ∀ s ∈ y.traffic.submissions, s.phase ≠ .abandoned) (moves : List Move) :
    ∀ s ∈ (y.run moves).traffic.submissions, s.phase ≠ .abandoned := by
  induction moves generalizing y with
  | nil => exact present
  | cons move rest ih =>
    exact ih (run_accounted accounted [move]) (perform_present accounted.held present move)

theorem Shut.perform (shut : Shut x y) (move : Move) : Shut x (y.perform move) where
  accounted := run_accounted shut.accounted [move]
  traffic := by
    obtain ⟨moves, same, _⟩ := perform_traffic shut.accounted.held move
    exact same ▸ shut.traffic.run moves
  present := perform_present shut.accounted.held shut.present move

theorem Shut.run (shut : Shut x y) (moves : List Move) : Shut x (y.run moves) := by
  induction moves generalizing y with
  | nil => exact shut
  | cons move rest ih => exact ih (shut.perform move)

/-- Two acts are enough for a call that has a batch to hand over, and one if it is in a submission. -/
theorem Shut.fails (shut : Shut x y) (found : y.calls[i]? = some c) (faces : c.Faces x.traffic b)
    {moves : List Move}
    (enough : (if c.pending.isSome then 1 else 2) ≤ moves.countP (Move.isActOf i)) :
    ∃ c', (y.run moves).calls[i]? = some c' ∧ c'.FailsWith b := by
  induction moves generalizing y c with
  | nil =>
    rw [List.countP_nil] at enough
    split at enough <;> omega
  | cons move rest ih =>
    cases own : move.isActOf i with
    | false =>
      rw [List.countP_cons_of_neg (by simp [own])] at enough
      exact ih (shut.perform move) (perform_other found own) faces enough
    | true =>
      rw [List.countP_cons_of_pos own] at enough
      cases move with
      | start | receiver => cases own
      | act j around =>
        cases beq_iff_eq.mp own
        have next := perform_own found around
        cases pending : c.pending with
        | none =>
          have ⟨still, called⟩ := faces.called pending shut.traffic.submissions around (i := i)
          refine ih (shut.perform _) next still ?_
          rw [called]
          rw [pending] at enough
          exact Nat.le_of_succ_le_succ enough
        | some j =>
          have failed := faces.fails (shut.accounted.calls i c found) pending shut.traffic
            shut.present around
          exact ⟨_, returned_run next failed rest, failed⟩

/-- What has become of the calls around a queue that was closed at `x` in a later state `y`. -/
structure ClosedSince (x y : Intake) : Prop where
  traffic : x.traffic.ClosedSince y.traffic
  still : ∀ i around,
    (y.perform (.act i around)).traffic.queue.buffered = y.traffic.queue.buffered
  /-- A call that waits with a batch, or comes with one, fails in its next two acts, whatever happens
  in between. -/
  fails : ∀ (i : Nat) (c : OpenCall) (b : Batch), y.calls[i]? = some c → c.Faces x.traffic b →
    ∀ moves, 2 ≤ moves.countP (Move.isActOf i) →
      ∃ c', (y.run moves).calls[i]? = some c' ∧ c'.FailsWith b
  refused : ∀ (i : Nat) (c : OpenCall) (b : Batch), y.calls[i]? = some c →
    (b, some (.error .closed)) ∈ offers c.acts → c.FailsWith b

theorem Shut.closedSince (shut : Shut x y) : x.ClosedSince y where
  traffic := shut.traffic.closedSince
  still i around := by
    simp only [Intake.perform]
    split
    · next c _ =>
      rcases c.step_move shut.accounted.held i around with same | ⟨move, same, apart, _⟩
      · rw [same]
      · rw [same]
        exact Traffic.closed_still shut.traffic.closed shut.accounted.orderly apart
    · rfl
  fails i c b found faces moves enough :=
    shut.fails found faces (Nat.le_trans (by split <;> omega) enough)
  refused i c b found offered :=
    OpenCall.returned?_eq_some.mpr
      (((shut.accounted.calls i c found).performs.stops c.call.program_stops).2 b .closed offered)

theorem shut_built {requested : Nat} {q : BoundedQueue}
    (built : BoundedQueue.ofCapacity? requested = some q) {before : List Move} {last : ReceiverMove}
    (ends : last = .close ∨ last = .drop)
    (reached : (Intake.run { traffic := { queue := q } } before).perform (.receiver last) = x) :
    Shut x x := by
  have start := accounted_empty (Traffic.built_orderly built)
  have accounted := run_accounted start before
  have present := run_present start (by simp) before
  obtain ⟨moves, same⟩ := run_traffic (x := { traffic := { queue := q } }) Nat.one_ne_zero before
  subst reached
  exact ⟨accounted.receiver last,
    Traffic.shut_built built ends (congrArg (Traffic.performReceiver · last) same.symm),
    perform_present accounted.held present (.receiver last)⟩

end Intake

/-- Whenever the receiver of a queue closes it or goes, that is final, for all submissions around the
queue and for the calls of the service: who has no answer yet or comes later is refused and changes
nothing, and the receiver gets what was in the queue and then nothing for ever. -/
theorem closing_is_final {requested : Nat} {q : BoundedQueue}
    (built : BoundedQueue.ofCapacity? requested = some q) {last : ReceiverMove}
    (ends : last = .close ∨ last = .drop) :
    (∀ before t, (Traffic.run { queue := q } before).performReceiver last = t →
      ∀ later, t.ClosedSince (t.run later)) ∧
    ∀ before x, (Intake.run { traffic := { queue := q } } before).perform (.receiver last) = x →
      ∀ later, x.ClosedSince (x.run later) :=
  ⟨fun _ _ reached later => ((Traffic.shut_built built ends reached).run later).closedSince,
    fun _ _ reached later => ((Intake.shut_built built ends reached).run later).closedSince⟩

/-- One slot, which a batch has taken. A thread waits for it, and the next one comes after the close,
from a thread that must not wait. In the second run the one that waits is a call of the service with
a second error to record. -/
theorem closing_a_full_queue :
    let record := fun id : String =>
      (⟨[.indexing ⟨0, 0⟩ ⟨"cause"⟩ id "index" "details",
        .processing ⟨0, 0⟩ ⟨"cause"⟩ id "text" "details" true], nofun⟩ : Batch)
    let q : BoundedQueue := { capacity := 1 }
    let t := (Traffic.run { queue := q }
      [.call 0 .async (record "a"), .advance 0 ⟨0, 0⟩, .call 1 (.blocking .multiThread) (record "b"),
        .advance 1 ⟨0, 0⟩, .advance 1 ⟨0, 0⟩]).performReceiver .close
    let u := t.run [.advance 1 ⟨1, 0⟩, .call 2 (.blocking .currentThread) (record "c"),
      .advance 2 ⟨0, 0⟩, .receiver (.receive .immediate), .receiver (.receive .blocking)]
    let m : Message :=
      { messageId := some "m", supportsFailureHandling := true
        errors := [⟨⟨"a"⟩, "1", "x"⟩, ⟨⟨"b"⟩, "2", "y"⟩] }
    let around : Surroundings := { submit := true, keep := true, now := ⟨0, 0⟩, wait := ⟨0, 0⟩ }
    let x := (Intake.run { traffic := { queue := q } }
      (.start (.processing m) .none :: .replicate 15 (.act 0 around))).perform (.receiver .close)
    let y := x.run [.act 0 around]
    BoundedQueue.ofCapacity? 1 = some q ∧
      t.submissions.map (·.phase) = [.entered true, .waiting 0] ∧
      u.submissions.map (·.phase) =
        [.entered true, .returned (.error .closed), .returned (.error .closed)] ∧
      u.results = [some (record "a"), none] ∧
      u.queue.statistics = { indexing := 1, processing := 1, requiringAck := 1, batches := 1 } ∧
      t.ClosedSince u ∧
      x.traffic.submissions.map (·.phase) = [.returned (.ok ()), .waiting 0] ∧
      y.calls.map (·.returned?) = [some (.error ⟨.processing, .closed⟩)] ∧ x.ClosedSince y := by
  intro record q t u m around x y
  have waiting : t.submissions.map (·.phase) = [.entered true, .waiting 0] := by
    decide +kernel +revert
  have refused : u.submissions.map (·.phase) =
      [.entered true, .returned (.error .closed), .returned (.error .closed)] := by
    decide +kernel +revert
  have results : u.results = [some (record "a"), none] ∧
      u.queue.statistics = { indexing := 1, processing := 1, requiringAck := 1, batches := 1 } := by
    decide +kernel +revert
  have second : x.traffic.submissions.map (·.phase) = [.returned (.ok ()), .waiting 0] := by
    decide +kernel +revert
  have failed : y.calls.map (·.returned?) = [some (.error ⟨.processing, .closed⟩)] := by
    decide +kernel +revert
  have built : BoundedQueue.ofCapacity? 1 = some q := rfl
  have final := closing_is_final built (.inl rfl)
  exact ⟨built, waiting, refused, results.1, results.2, final.1 _ t rfl _, second, failed,
    final.2 _ x rfl _⟩

end FailureIntake
