import FailureIntake.Proofs.Queue.Delivery
import FailureIntake.Proofs.Submission.Performance
import FailureIntake.Submission.Service

/-! Calls of the submission service that run at the same time against one bounded queue. A move is
one act of one call, or one move of the receiver. A submission takes as many moves as it has
operations, and the other calls may come in between any two of them. -/
namespace FailureIntake

open Program Act

/-- A call with what it has done and what is left of it. -/
structure OpenCall where
  call : Call
  context : RuntimeContext
  acts : List Act := []
  rest : Program (Outcome (Option Decision)) := call.program
  /-- The submission that it is in. -/
  pending : Option Nat := none

/-- What a thread finds when it goes on. -/
structure Surroundings where
  submit : Bool
  keep : Bool
  now : Instant
  wait : Duration

structure Intake where
  traffic : Traffic
  calls : List OpenCall := []

namespace OpenCall

def did (c : OpenCall) (acts : List Act) (rest : Program (Outcome (Option Decision))) : OpenCall :=
  { c with acts := c.acts ++ acts, rest := rest, pending := none }

def returned? (c : OpenCall) : Option (Outcome (Option Decision)) :=
  match c.rest with
  | .done outcome => some outcome
  | _ => none

/-- A call goes on once its submission has returned. -/
def collect (c : OpenCall) (b : Batch) (next : QueueAnswer → Program (Outcome (Option Decision)))
    (s : Submission) : OpenCall :=
  match s.phase with
  | .returned answer => c.did [.offered b (some answer) s.notes] (next answer)
  | _ => c

/-- The next act of the call with number `i`, or the next operation of the submission it is in. -/
def step (i : Nat) (around : Surroundings) (c : OpenCall) (t : Traffic) : OpenCall × Traffic :=
  match c.rest with
  | .done _ => (c, t)
  | .readSubmit next => (c.did [.readSubmit around.submit] (next around.submit), t)
  | .readKeep next => (c.did [.readKeep around.keep] (next around.keep), t)
  | .evaluate e next => (c.did [.evaluated e.cause] (next e.cause), t)
  | .stamp next => (c.did [] (next around.now), t)
  | .note n next => (c.did [.noted n] next, t)
  | .submit b next =>
    match c.pending with
    | none =>
      ({ c with pending := some t.submissions.length }, t.call i (.blocking c.context) b)
    | some j =>
      let t' := t.advance j around.wait
      ((t'.submissions[j]?.map (c.collect b next)).getD c, t')

end OpenCall

namespace Intake

inductive Move where
  | start (call : Call) (context : RuntimeContext)
  | act (i : Nat) (around : Surroundings)
  | receiver (move : ReceiverMove)

def perform (x : Intake) : Move → Intake
  | .start call context => { x with calls := x.calls ++ [{ call, context }] }
  | .act i around =>
    match x.calls[i]? with
    | some c =>
      { traffic := (c.step i around x.traffic).2
        calls := x.calls.set i (c.step i around x.traffic).1 }
    | none => x
  | .receiver m => { x with traffic := x.traffic.performReceiver m }

def run (x : Intake) (moves : List Move) : Intake :=
  moves.foldl perform x

end Intake

/-! What the calls do to the queue is traffic around it, so whatever holds of all traffic holds
here. The service keeps the handle that it submits with. -/

namespace OpenCall

theorem returned?_eq_some {c : OpenCall} {outcome : Outcome (Option Decision)} :
    c.returned? = some outcome ↔ c.rest = .done outcome := by
  unfold returned?
  cases c.rest <;> simp

theorem step_traffic {t : Traffic} (held : t.handles ≠ 0) (i : Nat) (around : Surroundings)
    (c : OpenCall) :
    ∃ moves, (c.step i around t).2 = t.run moves ∧ (c.step i around t).2.handles ≠ 0 := by
  unfold step
  split <;> try exact ⟨[], rfl, held⟩
  next b next _ =>
  split
  · refine ⟨[.call i (.blocking c.context) b], ?_, held⟩
    simp [Traffic.run, Traffic.perform, held]
  · next j _ =>
    refine ⟨[.advance j around.wait], rfl, ?_⟩
    simp only [Traffic.advance]
    split <;> exact held

end OpenCall

namespace Intake

theorem perform_traffic {x : Intake} (held : x.traffic.handles ≠ 0) (move : Move) :
    ∃ moves, (x.perform move).traffic = x.traffic.run moves ∧
      (x.perform move).traffic.handles ≠ 0 := by
  cases move with
  | start call context => exact ⟨[], rfl, held⟩
  | act i around =>
    simp only [perform]
    split
    · next c _ => exact c.step_traffic held i around
    · exact ⟨[], rfl, held⟩
  | receiver m =>
    refine ⟨[.receiver m], rfl, ?_⟩
    simp only [perform, (x.traffic.performReceiver_frame m).1]
    exact held

theorem run_traffic {x : Intake} (held : x.traffic.handles ≠ 0) (moves : List Move) :
    ∃ traffic, (x.run moves).traffic = x.traffic.run traffic := by
  induction moves generalizing x with
  | nil => exact ⟨[], rfl⟩
  | cons move rest ih =>
    obtain ⟨first, same, held⟩ := perform_traffic held move
    obtain ⟨later, after⟩ := ih held
    refine ⟨first ++ later, ?_⟩
    rw [Traffic.run_append, ← same]
    exact after

end Intake

end FailureIntake
