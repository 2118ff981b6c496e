import FailureIntake.Proofs.Submission.Acknowledgement

/-! Reports of the indexer. The errors of one request are handed to the queue as one batch or not at
all, and the policy is not asked. The queue need not answer: then the call waits with its one batch
offered. -/
namespace FailureIntake

open Act

section Runs

variable {σ α β : Type} {w : World σ}

theorem Run.after_eq {act : Act} {r : Run σ α} {acts : List Act} {progress : Progress α} {later : σ}
    (ran : r.after act = ⟨acts, progress, later⟩) :
    ∃ rest, acts = act :: rest ∧ r = ⟨rest, progress, later⟩ := by
  cases ran
  exact ⟨r.acts, rfl, rfl⟩

/-- A program whose first part comes to its end goes on in the world that this leaves. -/
theorem Program.run_bind {p : Program α} {f : α → Program β} {acts : List Act} {value : α}
    {s later : σ} (ran : p.run w s = ⟨acts, .finished value, later⟩) :
    (p.bind f).run w s =
      { (f value).run w later with acts := acts ++ ((f value).run w later).acts } := by
  induction p generalizing acts s with
  | done a =>
    cases ran
    rfl
  | readSubmit k ih | readKeep k ih =>
    obtain ⟨rest, rfl, same⟩ := Run.after_eq ran
    exact congrArg (Run.after _) (ih _ same)
  | evaluate e k ih =>
    obtain ⟨rest, rfl, same⟩ := Run.after_eq ran
    exact congrArg (Run.after _) (ih _ same)
  | stamp k ih => exact ih _ ran
  | note n k ih =>
    obtain ⟨rest, rfl, same⟩ := Run.after_eq ran
    exact congrArg (Run.after _) (ih same)
  | submit b k ih =>
    rcases attempt : w.submit s b with ⟨_ | answer, notes, s'⟩
    · simp [Program.run, attempt] at ran
    · simp only [Program.run, Program.bind, attempt] at ran ⊢
      obtain ⟨rest, rfl, same⟩ := Run.after_eq ran
      exact congrArg (Run.after _) (ih answer same)

end Runs

namespace Service

variable {σ : Type} {w : World σ} {errors : List IndexingError} {s : σ}

/-- Only the clock is looked at while the records are made, so they are always had. -/
theorem run_indexingFailures (w : World σ) (errors : List IndexingError) (s : σ) :
    ∃ failures later, (indexingFailures errors).run w s = ⟨[], .finished failures, later⟩ ∧
      List.Forall₂ IsRejection (eligible errors) failures := by
  induction errors generalizing s with
  | nil => exact ⟨[], s, rfl, .nil⟩
  | cons e rest ih =>
    unfold indexingFailures
    rw [eligible_cons]
    split
    · obtain ⟨failures, later, ran, records⟩ := ih (w.now s).2
      refine ⟨_, later, Program.run_bind ran, ?_⟩
      exact .cons (isRejection_indexing _ e) records
    · exact ih s

/-- The batch is all that a run hands to the queue, and the run ends with the queue's answer. -/
structure FilesOnce (batch : Batch) (answer : Option QueueAnswer) (run : Run σ (Outcome Unit)) :
    Prop where
  unasked : questions run.acts = []
  offered : offers run.acts = [(batch, answer)]
  accepted : acceptedFailures run.acts = if answer = some (.ok ()) then batch.failures else []
  progress : ∀ outcome, run.progress = .finished outcome ↔
    answer.map (Except.mapError (SubmissionError.mk batch.primaryStage)) = some outcome

/-- A program that hands a batch over and only reports what became of it. -/
theorem filesOnce_of_reports {entry : LogEntry} {batch : Batch}
    {next : QueueAnswer → Program (Outcome Unit)}
    (reports : ∀ answer later, ∃ notes : List Note, (next answer).run w later =
      ⟨notes.map .noted, .finished (answer.mapError (SubmissionError.mk batch.primaryStage)), later⟩)
    (s : σ) :
    FilesOnce batch (w.submit s batch).answer
      ((Program.note (.log entry) (.submit batch next)).run w s) := by
  rcases attempt : w.submit s batch with ⟨_ | answer, queueNotes, later⟩
  · simp only [Program.run, attempt]
    exact ⟨rfl, rfl, rfl, by simp [Run.after]⟩
  · obtain ⟨notes, ran⟩ := reports answer later
    simp only [Program.run, attempt, ran]
    refine ⟨?_, ?_, ?_, by simp [Run.after]⟩
    · simp [Run.after, questions, question?]
    · simp [Run.after, offers, offer?, List.filterMap_cons]
    · rcases answer with reason | ⟨⟩ <;>
        simp [Run.after, acceptedFailures, acceptedBatches, accepted?, List.filterMap_cons]

theorem run_submit (w : World σ) (batch : Batch) (s : σ) :
    FilesOnce batch (w.submit s batch).answer ((submit batch).run w s) := by
  apply filesOnce_of_reports
  rintro (reason | ⟨⟩) later
  · exact ⟨[], rfl⟩
  · exact ⟨[.event (.batchSubmitted batch.primaryStage batch.size)], rfl⟩

theorem IsRejection.primaryStage {batch : Batch}
    (records : List.Forall₂ IsRejection errors batch.failures) : batch.primaryStage = .indexing := by
  obtain ⟨e, _, rejection⟩ := exists_recorded records batch.first_mem
  exact rejection.stage

/-- An indexing request is passed over if no error of it is eligible. Otherwise the records of the
eligible errors are handed over as one batch. -/
theorem run_submitIndexingErrors (w : World σ) (errors : List IndexingError) (s : σ) :
    (eligible errors = [] ∧ ∃ entry later,
      (submitIndexingErrors errors).run w s = ⟨[.noted (.log entry)], .finished (.ok ()), later⟩) ∨
    ∃ batch answer, List.Forall₂ IsRejection (eligible errors) batch.failures ∧
      FilesOnce batch answer ((submitIndexingErrors errors).run w s) := by
  obtain ⟨failures, later, ran, records⟩ := run_indexingFailures w errors s
  have goesOn (f : List Failure → Program (Outcome Unit)) := Program.run_bind (f := f) ran
  cases failures with
  | nil => exact .inl ⟨List.forall₂_nil_right_iff.mp records, _, later, goesOn _⟩
  | cons failure rest =>
    let batch : Batch := ⟨failure :: rest, List.cons_ne_nil _ _⟩
    have handed : (submitIndexingErrors errors).run w s = (submit batch).run w later := goesOn _
    exact .inr ⟨batch, (w.submit later batch).answer, records, handed ▸ run_submit w batch later⟩

/-- The eligible errors of a request become one batch of their records in order, which the queue
accepts as a whole or not at all, and nothing else is handed to it. Without an eligible error it
is left alone. The policy is not asked. -/
theorem rejections_filed_as_one_batch (w : World σ) (s : σ) (errors : List IndexingError) :
    let run := (submitIndexingErrors errors).run w s
    questions run.acts = [] ∧
      ((∀ e ∈ errors, e.message.supportsFailureHandling = false) →
        offers run.acts = [] ∧ run.progress = .finished (.ok ())) ∧
      ((∃ e ∈ errors, e.message.supportsFailureHandling = true) →
        ∃ batch answer, offers run.acts = [(batch, answer)] ∧
          List.Forall₂ IsRejection (errors.filter fun e => e.message.supportsFailureHandling)
            batch.failures ∧
          (run.progress = .finished (.ok ()) ↔ answer = some (.ok ())) ∧
          (∀ err, run.progress = .finished (.error err) ↔
            ∃ reason, answer = some (.error reason) ∧ err = ⟨.indexing, reason⟩) ∧
          acceptedFailures run.acts = if answer = some (.ok ()) then batch.failures else []) := by
  intro run
  rcases run_submitIndexingErrors w errors s with ⟨none, entry, later, ran⟩ | ⟨batch, answer, records, files⟩
  · have ineligible : ¬ ∃ e ∈ errors, e.message.supportsFailureHandling = true := by
      simpa [eligible] using none
    have passed : run = ⟨[.noted (.log entry)], .finished (.ok ()), later⟩ := ran
    rw [passed]
    exact ⟨rfl, fun _ => ⟨rfl, rfl⟩, fun some => absurd some ineligible⟩
  · have stage : batch.primaryStage = .indexing := IsRejection.primaryStage records
    refine ⟨files.unasked, fun unsupported => ?_,
      fun _ => ⟨batch, answer, files.offered, records, ?_, fun err => ?_, files.accepted⟩⟩
    · have none : eligible errors = [] := by simpa [eligible] using unsupported
      rw [none] at records
      exact absurd (List.forall₂_nil_left_iff.mp records) batch.ne_nil
    · rw [files.progress]
      rcases answer with _ | reason | ⟨⟩ <;> simp [Except.mapError]
    · rw [files.progress, stage]
      rcases answer with _ | reason | ⟨⟩ <;> simp [Except.mapError, eq_comm]

/-- Of four errors the second is not eligible, and a closed queue accepts none of the others. Their
records name the messages by an own id, by a generic one, and by neither. -/
theorem one_batch_of_a_mixed_request :
    let w : World Nat :=
      { readSubmit := fun n => (true, n), readKeep := fun n => (true, n)
        now := fun n => (⟨0, 0⟩, n + 1), submit := fun n _ => ⟨some (.error .closed), [], n⟩ }
    let m : String → Option String → Message := fun id messageId =>
      { id, messageId, supportsFailureHandling := true }
    let own : IndexingError := ⟨m "generic" (some "own"), "logs", .mappingError, "w"⟩
    let ineligible : IndexingError := ⟨{}, "logs", .mappingError, "x"⟩
    let generic : IndexingError := ⟨m "generic" (some ""), "audit", .indexBlocked, "y"⟩
    let nameless : IndexingError := ⟨m "" none, "logs", .unknown, "z"⟩
    let run := (submitIndexingErrors [own, ineligible, generic, nameless]).run w 0
    questions run.acts = [] ∧ run.progress = .finished (.error ⟨.indexing, .closed⟩) ∧
      acceptedFailures run.acts = [] ∧
      ((offers run.acts).map fun offer => offer.1.failures.map fun f =>
          (f.cause.label, f.messageId, f.message)) =
        [[("MappingError", "own", "Failed to index message with id 'own' targeting 'logs'"),
          ("IndexBlocked", "generic", "Failed to index message with id 'generic' targeting 'audit'"),
          ("UNKNOWN", "UNKNOWN", "Failed to index message with id 'UNKNOWN' targeting 'logs'")]] ∧
      ∃ batch, offers run.acts = [(batch, some (.error .closed))] ∧
        List.Forall₂ IsRejection [own, generic, nameless] batch.failures := by
  intro w m own ineligible generic nameless run
  obtain ⟨unasked, _, filed⟩ :=
    rejections_filed_as_one_batch w 0 [own, ineligible, generic, nameless]
  obtain ⟨batch, answer, offered, records, _, refused, accepted⟩ := filed ⟨own, .head _, rfl⟩
  have answers : (offers run.acts).map Prod.snd = [some (.error .closed)] := rfl
  have closed : answer = some (.error .closed) := by
    rw [offered] at answers
    exact List.head_eq_of_cons_eq answers
  rw [closed] at offered refused accepted
  exact ⟨unasked, (refused _).mpr ⟨_, rfl, rfl⟩, accepted, rfl, batch, offered, records⟩

end Service

end FailureIntake
