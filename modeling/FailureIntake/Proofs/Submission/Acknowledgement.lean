import FailureIntake.Proofs.Submission.Filing

/-! A message is dropped exactly when the queue accepted one record that asks for an
acknowledgement. The count of such records is taken over the acts of a call, so it does not look
at the call's own answer. -/
namespace FailureIntake

open Program Service

namespace Act

def acceptedFailures (acts : List Act) : List Failure :=
  (acceptedBatches acts).flatMap Batch.failures

def acknowledgements (acts : List Act) : Nat :=
  (acceptedFailures acts).countP Failure.requiresAck

@[simp] theorem acknowledgements_nil : acknowledgements [] = 0 := rfl

@[simp] theorem acknowledgements_append (first last : List Act) :
    acknowledgements (first ++ last) = acknowledgements first + acknowledgements last := by
  simp [acknowledgements, acceptedFailures, acceptedBatches_append]

/-- Only an accepted offer counts. -/
@[simp] theorem acknowledgements_cons (act : Act) (acts : List Act) :
    acknowledgements (act :: acts) =
      (act.accepted?.elim 0 fun b => b.failures.countP Failure.requiresAck) +
        acknowledgements acts := by
  cases accepted : act.accepted? <;> simp [acknowledgements, acceptedFailures, acceptedBatches, accepted]

end Act

open Act

theorem Filing.acknowledgements_acts (f : Filing) :
    acknowledgements f.acts =
      match f.answer with
      | .ok () => f.batch.failures.countP Failure.requiresAck
      | .error _ => 0 := by
  cases answered : f.answer <;> simp [acts, answered, accepted?]

theorem Filing.acknowledgements_caused (f : Filing) :
    acknowledgements f.caused = acknowledgements f.acts := by
  simp [caused, accepted?]

/-- A batch without a request for an acknowledgement adds none, accepted or not. -/
theorem Filing.acknowledgements_eq_zero {f : Filing}
    (unasked : ∀ failure ∈ f.batch.failures, failure.requiresAck = false) :
    acknowledgements f.acts = 0 := by
  have none : f.batch.failures.countP Failure.requiresAck = 0 := by
    rw [List.countP_eq_zero]
    intro failure member
    simp [unasked failure member]
  rw [acknowledgements_acts, none]
  cases f.answer <;> rfl

namespace Service

variable {m : Message} {acts : List Act}

theorem Records.countP_requiresAck {requiresAck : Bool} {e : ProcessingError} {b : Batch}
    (records : Records m requiresAck e b) :
    b.failures.countP Failure.requiresAck = requiresAck.toNat := by
  obtain ⟨f, alone, record⟩ := records
  rw [alone, List.countP_singleton, record.requiresAck]
  cases requiresAck <;> rfl

theorem FiledEach.acknowledgements {errors : List ProcessingError} {fs : List Filing}
    {result : Outcome Unit} (filed : FiledEach m errors fs result) :
    acknowledgements (fs.flatMap Filing.caused) = 0 := by
  induction filed with
  | none => rfl
  | refused _ refusal => simp [Filing.acknowledgements_caused, Filing.acknowledgements_acts, refusal]
  | accepted records acceptance _ ih =>
    simp [Filing.acknowledgements_caused, Filing.acknowledgements_acts, acceptance, ih,
      records.countP_requiresAck]

def filtersOut : Outcome (Option Decision) → Bool
  | .ok (some .filterOut) => true
  | _ => false

theorem filtersOut_iff {outcome : Outcome (Option Decision)} :
    filtersOut outcome = true ↔ outcome = .ok (some .filterOut) := by
  rcases outcome with err | _ | _ | _ <;> simp [filtersOut]

theorem Handled.acknowledgements {result : Outcome Decision} (handled : Handled m acts result) :
    acknowledgements acts = (filtersOut (result.map some)).toNat := by
  cases handled with
  | clean => rfl
  | disabled => rfl
  | unsupported => rfl
  | @kept fs outcome _ _ filed =>
    simp only [acknowledgements_cons, accepted?, Option.elim_none, filed.acknowledgements]
    cases outcome <;> rfl
  | dropped _ _ records acceptance =>
    simp only [acknowledgements_cons, acknowledgements_append, accepted?, Option.elim_none,
      Filing.acknowledgements_caused, Filing.acknowledgements_acts, acceptance,
      records.countP_requiresAck]
    rfl
  | refused _ _ records refusal =>
    simp only [acknowledgements_cons, accepted?, Option.elim_none,
      Filing.acknowledgements_caused, Filing.acknowledgements_acts, refusal]
    rfl

end Service

open Service

/-- One accepted request for an acknowledgement per dropped message, and none otherwise. -/
theorem Call.acknowledgements_of_yields {c : Call} {acts : List Act}
    {outcome : Outcome (Option Decision)} (h : c.program.Yields acts outcome) :
    acknowledgements acts = (filtersOut outcome).toNat := by
  cases c with
  | indexing errors =>
    obtain ⟨result, submitted, rfl⟩ := yields_passed h
    have keeps : filtersOut (result.map fun _ => none) = false := by cases result <;> rfl
    rw [keeps]
    rcases yields_submitIndexingErrors submitted with ⟨_, _, _, rfl⟩ | ⟨f, records, rfl, _⟩
    · rfl
    · apply Filing.acknowledgements_eq_zero
      intro failure member
      obtain ⟨e, _, rejection⟩ := exists_recorded records member
      exact rejection.requiresAck
  | input e inputId =>
    obtain ⟨result, submitted, rfl⟩ := yields_passed h
    have keeps : filtersOut (result.map fun _ => none) = false := by cases result <;> rfl
    rw [keeps]
    obtain ⟨f, records, rfl, _⟩ := yields_submitInputFailure submitted
    have filed : acknowledgements f.acts = 0 :=
      Filing.acknowledgements_eq_zero fun failure member => (records.each failure member).requiresAck
    rw [acknowledgements_append, filed]
    cases f.answer <;> rfl
  | processing m =>
    obtain ⟨result, submitted, rfl⟩ := yields_passed h
    exact (yields_submitProcessingErrors submitted).acknowledgements
  | unknown m details =>
    obtain ⟨result, submitted, rfl⟩ := yields_passed h
    obtain ⟨f, records, rfl, rfl⟩ := yields_submitUnknownProcessingError submitted
    have filed : acknowledgements f.acts = 0 :=
      Filing.acknowledgements_eq_zero fun failure member => (records.each failure member).requiresAck
    rw [filed]
    cases f.outcome <;> rfl

/-- Calls one after the other, each with its run. A call that never returns keeps the later ones
from being made. -/
def Call.runs {σ : Type} (w : World σ) :
    List Call → σ → List (Call × Run σ (Outcome (Option Decision)))
  | [], _ => []
  | c :: rest, s =>
    let run := c.program.run w s
    (c, run) :: match run.progress with
      | .finished _ => Call.runs w rest run.world
      | .waiting _ => []

def Progress.filtersOut : Progress (Outcome (Option Decision)) → Bool
  | .finished outcome => Service.filtersOut outcome
  | .waiting _ => false

section Runs

variable {σ : Type} {w : World σ}

theorem Call.runs_cons (answers : w.Answers) (c : Call) (rest : List Call) (s : σ) :
    Call.runs w (c :: rest) s =
      (c, c.program.run w s) :: Call.runs w rest (c.program.run w s).world := by
  obtain ⟨outcome, finished⟩ := answers.returns c.program s
  simp [Call.runs, finished]

theorem Call.runs_return (answers : w.Answers) (calls : List Call) (s : σ) :
    (Call.runs w calls s).map Prod.fst = calls ∧
      ∀ c run, (c, run) ∈ Call.runs w calls s →
        ∃ outcome, run.progress = .finished outcome ∧ c.program.Yields run.acts outcome := by
  induction calls generalizing s with
  | nil => exact ⟨rfl, by simp [Call.runs]⟩
  | cons c rest ih =>
    rw [runs_cons answers]
    obtain ⟨made, returned⟩ := ih (c.program.run w s).world
    refine ⟨congrArg (c :: ·) made, ?_⟩
    intro c' run member
    rcases List.mem_cons.mp member with same | later
    · cases same
      obtain ⟨outcome, finished⟩ := answers.returns c.program s
      exact ⟨outcome, finished, yields_of_run finished⟩
    · exact returned c' run later

theorem acknowledgements_flatMap {runs : List (Call × Run σ (Outcome (Option Decision)))}
    (returned : ∀ c run, (c, run) ∈ runs →
      ∃ outcome, run.progress = .finished outcome ∧ c.program.Yields run.acts outcome) :
    acknowledgements (runs.flatMap fun made => made.2.acts) =
      runs.countP fun made => made.2.progress.filtersOut := by
  induction runs with
  | nil => rfl
  | cons head rest ih =>
    obtain ⟨outcome, finished, yields⟩ := returned head.1 head.2 List.mem_cons_self
    have later := ih fun c run member => returned c run (List.mem_cons_of_mem _ member)
    rw [List.flatMap_cons, acknowledgements_append, later, List.countP_cons, finished,
      Call.acknowledgements_of_yields yields, Progress.filtersOut, Nat.add_comm]
    cases filtersOut outcome <;> rfl

/-- Over any calls in any order, a message is dropped if and only if the queue accepted exactly one
record during the call that asks for an acknowledgement. All other calls have none accepted, so
the totals agree. -/
theorem acknowledgements_match_filtered_messages (answers : w.Answers) (calls : List Call) (s : σ) :
    (Call.runs w calls s).map Prod.fst = calls ∧
      (∀ c run, (c, run) ∈ Call.runs w calls s → ∃ outcome, run.progress = .finished outcome ∧
        (outcome = .ok (some .filterOut) ↔ acknowledgements run.acts = 1) ∧
        (outcome ≠ .ok (some .filterOut) → acknowledgements run.acts = 0)) ∧
      acknowledgements ((Call.runs w calls s).flatMap fun made => made.2.acts) =
        (Call.runs w calls s).countP fun made => made.2.progress.filtersOut := by
  obtain ⟨made, returned⟩ := Call.runs_return answers calls s
  refine ⟨made, ?_, acknowledgements_flatMap returned⟩
  intro c run member
  obtain ⟨outcome, finished, yields⟩ := returned c run member
  refine ⟨outcome, finished, ?_⟩
  rw [Call.acknowledgements_of_yields yields, ne_eq, ← filtersOut_iff]
  cases filtersOut outcome <;> simp

/-- Of two messages that are to be dropped, the queue accepts the record of the first only. -/
theorem acknowledgement_of_the_accepted_message :
    let w : World Nat :=
      { readSubmit := fun n => (true, n), readKeep := fun n => (false, n)
        now := fun n => (⟨0, 0⟩, n)
        submit := fun n _ => ⟨some (if n = 0 then .ok () else .error .closed), [], n + 1⟩ }
    let c : Call := .processing
      { supportsFailureHandling := true, errors := [⟨⟨"cause"⟩, "text", "details"⟩] }
    let first := c.program.run w 0
    let second := c.program.run w 1
    w.Answers ∧ (c, first) ∈ Call.runs w [c, c] 0 ∧ (c, second) ∈ Call.runs w [c, c] 0 ∧
      first.progress = .finished (.ok (some .filterOut)) ∧ acknowledgements first.acts = 1 ∧
      second.progress = .finished (.error ⟨.processing, .closed⟩) ∧
      acknowledgements second.acts = 0 ∧
      acknowledgements ((Call.runs w [c, c] 0).flatMap fun made => made.2.acts) = 1 := by
  intro w c first second
  have answers : w.Answers := fun _ _ => rfl
  obtain ⟨_, each, total⟩ := acknowledgements_match_filtered_messages answers [c, c] 0
  have in_first : (c, first) ∈ Call.runs w [c, c] 0 := .head _
  have in_second : (c, second) ∈ Call.runs w [c, c] 0 := .tail _ (.head _)
  obtain ⟨_, dropped, counted, _⟩ := each c first in_first
  obtain ⟨_, kept, _, uncounted⟩ := each c second in_second
  have first_drops : first.progress = .finished (.ok (some .filterOut)) := rfl
  have second_fails : second.progress = .finished (.error ⟨.processing, .closed⟩) := rfl
  cases dropped.symm.trans first_drops
  cases kept.symm.trans second_fails
  exact ⟨answers, in_first, in_second, first_drops, counted.mp rfl, second_fails,
    uncounted nofun, total.trans rfl⟩

end Runs

end FailureIntake
