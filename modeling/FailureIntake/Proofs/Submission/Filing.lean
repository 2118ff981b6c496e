import FailureIntake.Proofs.Pairing
import FailureIntake.Proofs.Submission.Performance
import FailureIntake.Proofs.Submission.Records
import FailureIntake.Submission.Service

/-! What each call of the submission service performs, act by act, until it returns. -/
namespace FailureIntake

open Program Act

/-- One batch handed to the queue. It is announced in the log, offered, and reported as submitted
if the queue accepted it. -/
structure Filing where
  batch : Batch
  answer : QueueAnswer
  notes : List Note

namespace Filing

def acts (f : Filing) : List Act :=
  [.noted (.log (Service.announcement f.batch)), .offered f.batch (some f.answer) f.notes] ++
    match f.answer with
    | .ok () => [.noted (.event (.batchSubmitted f.batch.primaryStage f.batch.size))]
    | .error _ => []

/-- The same for a processing error, whose cause is worked out first. -/
def caused (f : Filing) : List Act :=
  .evaluated f.batch.first.cause :: f.acts

/-- A refusal is passed on with the stage of the batch. -/
def outcome (f : Filing) : Outcome Unit :=
  f.answer.mapError (SubmissionError.mk f.batch.primaryStage)

theorem outcome_accepted {f : Filing} (accepted : f.answer = .ok ()) : f.outcome = .ok () := by
  rw [outcome, accepted]
  rfl

theorem outcome_refused {f : Filing} {reason : QueueError} (refused : f.answer = .error reason) :
    f.outcome = .error ⟨f.batch.primaryStage, reason⟩ := by
  rw [outcome, refused]
  rfl

theorem offers_caused (f : Filing) : offers f.caused = [(f.batch, some f.answer)] := by
  rw [caused, acts]
  cases f.answer <;> rfl

theorem offers_flatMap_caused (fs : List Filing) :
    offers (fs.flatMap caused) = fs.map fun f => (f.batch, some f.answer) := by
  induction fs with
  | nil => rfl
  | cons f rest ih =>
    rw [List.flatMap_cons, offers_append, offers_caused, ih]
    rfl

theorem acceptedBatches_acts (f : Filing) :
    acceptedBatches f.acts = match f.answer with
      | .ok () => [f.batch]
      | .error _ => [] := by
  rw [acts]
  cases f.answer <;> rfl

theorem acceptedBatches_caused (f : Filing) : acceptedBatches f.caused = acceptedBatches f.acts :=
  rfl

theorem acceptedBatches_flatMap_caused {fs : List Filing}
    (accepted : ∀ f ∈ fs, f.answer = .ok ()) :
    acceptedBatches (fs.flatMap caused) = fs.map batch := by
  induction fs with
  | nil => rfl
  | cons f rest ih =>
    rw [List.flatMap_cons, acceptedBatches_append, acceptedBatches_caused, acceptedBatches_acts,
      accepted f List.mem_cons_self, ih fun g member => accepted g (List.mem_cons_of_mem _ member)]
    rfl

end Filing

namespace Service

variable {acts : List Act} {m : Message}

theorem yields_submit {b : Batch} {result : Outcome Unit}
    (h : (submit b).Yields acts result) :
    ∃ f : Filing, f.batch = b ∧ acts = f.acts ∧ result = f.outcome := by
  obtain ⟨_, rfl, offering⟩ := yields_note.mp h
  obtain ⟨answer, notes, _, rfl, answered⟩ := Program.yields_submit.mp offering
  refine ⟨⟨b, answer, notes⟩, rfl, ?_⟩
  cases answer with
  | error reason =>
    obtain ⟨rfl, rfl⟩ := yields_done.mp answered
    exact ⟨rfl, rfl⟩
  | ok =>
    obtain ⟨_, rfl, reported⟩ := yields_note.mp answered
    obtain ⟨rfl, rfl⟩ := yields_done.mp reported
    exact ⟨rfl, rfl⟩

theorem yields_submitProcessingError {e : ProcessingError} {requiresAck : Bool}
    {result : Outcome Unit} (h : (submitProcessingError m e requiresAck).Yields acts result) :
    ∃ f : Filing, Records m requiresAck e f.batch ∧ acts = f.caused ∧ result = f.outcome := by
  obtain ⟨_, rfl, stamped⟩ := yields_evaluate.mp h
  obtain ⟨now, submitted⟩ := yields_stamp.mp stamped
  obtain ⟨f, same, rfl, rfl⟩ := yields_submit submitted
  refine ⟨f, same ▸ records_processing now m e requiresAck, ?_, rfl⟩
  simp [Filing.caused, same, Batch.first, Batch.single, Failure.processing]

/-- Errors filed one after the other, up to the first refusal. -/
inductive FiledEach (m : Message) : List ProcessingError → List Filing → Outcome Unit → Prop where
  | none : FiledEach m [] [] (.ok ())
  | refused {e : ProcessingError} {rest : List ProcessingError} {f : Filing} {reason : QueueError} :
      Records m false e f.batch → f.answer = .error reason →
        FiledEach m (e :: rest) [f] (.error ⟨.processing, reason⟩)
  | accepted {e : ProcessingError} {rest : List ProcessingError} {f : Filing} {fs : List Filing}
      {result : Outcome Unit} :
      Records m false e f.batch → f.answer = .ok () → FiledEach m rest fs result →
        FiledEach m (e :: rest) (f :: fs) result

/-- The filings are the records of the first errors. They stop at a refusal or with the last error. -/
theorem FiledEach.upToRefusal {errors : List ProcessingError} {fs : List Filing}
    {result : Outcome Unit} (filed : FiledEach m errors fs result) :
    List.Forall₂ (fun e f => Records m false e f.batch) (errors.take fs.length) fs ∧
      ((fs.length = errors.length ∧ (∀ f ∈ fs, f.answer = .ok ()) ∧ result = .ok ()) ∨
        ∃ before last reason, fs = before ++ [last] ∧ (∀ f ∈ before, f.answer = .ok ()) ∧
          last.answer = .error reason ∧ result = .error ⟨.processing, reason⟩) := by
  induction filed with
  | none => exact ⟨.nil, .inl ⟨rfl, nofun, rfl⟩⟩
  | refused records refusal =>
    exact ⟨.cons records .nil, .inr ⟨[], _, _, rfl, nofun, refusal, rfl⟩⟩
  | accepted records acceptance _ ih =>
    obtain ⟨same, shape⟩ := ih
    refine ⟨.cons records same, ?_⟩
    rcases shape with ⟨all, accepted, rfl⟩ | ⟨before, last, reason, rfl, accepted, refusal, rfl⟩
    · exact .inl ⟨congrArg _ all, by simpa [acceptance] using accepted, rfl⟩
    · exact .inr ⟨_ :: before, last, reason, rfl, by simpa [acceptance] using accepted, refusal, rfl⟩

theorem yields_submitEach {errors : List ProcessingError} {result : Outcome Unit}
    (h : (submitEach m errors).Yields acts result) :
    ∃ fs, FiledEach m errors fs result ∧ acts = fs.flatMap Filing.caused := by
  induction errors generalizing acts with
  | nil =>
    obtain ⟨rfl, rfl⟩ := yields_done.mp h
    exact ⟨[], .none, rfl⟩
  | cons e rest ih =>
    obtain ⟨_, first, last, rfl, filed, later⟩ := yields_bind.mp h
    obtain ⟨f, records, rfl, rfl⟩ := yields_submitProcessingError filed
    cases answered : f.answer with
    | error reason =>
      rw [Filing.outcome_refused answered] at later
      obtain ⟨rfl, rfl⟩ := yields_done.mp later
      rw [records.primaryStage]
      exact ⟨[f], .refused records answered, by simp⟩
    | ok =>
      rw [Filing.outcome_accepted answered] at later
      obtain ⟨fs, rest, rfl⟩ := ih later
      exact ⟨f :: fs, .accepted records answered rest, rfl⟩

/-- What becomes of a message with processing errors, with the acts that lead to it. -/
inductive Handled (m : Message) : List Act → Outcome Decision → Prop where
  | clean : m.errors = [] → Handled m [] (.ok .keep)
  | disabled {entry : LogEntry} : m.errors ≠ [] →
      Handled m [.readSubmit false, .noted (.log entry)] (.ok .keep)
  | unsupported {entry : LogEntry} : m.errors ≠ [] → m.supportsFailureHandling = false →
      Handled m [.readSubmit true, .noted (.log entry)] (.ok .keep)
  | kept {fs : List Filing} {result : Outcome Unit} :
      m.errors ≠ [] → m.supportsFailureHandling = true → FiledEach m m.errors fs result →
        Handled m (.readSubmit true :: .readKeep true :: fs.flatMap Filing.caused)
          (result.map fun _ => .keep)
  | dropped {e : ProcessingError} {rest : List ProcessingError} {f : Filing} {entry : LogEntry} :
      m.errors = e :: rest → m.supportsFailureHandling = true → Records m true e f.batch →
        f.answer = .ok () →
        Handled m (.readSubmit true :: .readKeep false :: f.caused ++
          [.noted (.log entry), .noted (.event .messageFilteredOut)]) (.ok .filterOut)
  | refused {e : ProcessingError} {rest : List ProcessingError} {f : Filing} {reason : QueueError} :
      m.errors = e :: rest → m.supportsFailureHandling = true → Records m true e f.batch →
        f.answer = .error reason →
        Handled m (.readSubmit true :: .readKeep false :: f.caused)
          (.error ⟨.processing, reason⟩)

theorem yields_submitProcessingErrors {result : Outcome Decision}
    (h : (submitProcessingErrors m).Yields acts result) : Handled m acts result := by
  unfold submitProcessingErrors at h
  split at h
  next noErrors =>
    obtain ⟨rfl, rfl⟩ := yields_done.mp h
    exact .clean noErrors
  next e rest recorded =>
    have some_error : m.errors ≠ [] := by simp [recorded]
    obtain ⟨enabled, _, rfl, asked⟩ := yields_readSubmit.mp h
    cases enabled with
    | false =>
      obtain ⟨_, rfl, logged⟩ := yields_note.mp asked
      obtain ⟨rfl, rfl⟩ := yields_done.mp logged
      exact .disabled some_error
    | true =>
      cases supports : m.supportsFailureHandling with
      | false =>
        simp only [supports] at asked
        obtain ⟨_, rfl, logged⟩ := yields_note.mp asked
        obtain ⟨rfl, rfl⟩ := yields_done.mp logged
        exact .unsupported some_error supports
      | true =>
        simp only [supports] at asked
        obtain ⟨keep, _, rfl, decided⟩ := yields_readKeep.mp asked
        cases keep with
        | true =>
          obtain ⟨outcome, first, last, rfl, filed, later⟩ := yields_bind.mp decided
          obtain ⟨fs, each, rfl⟩ := yields_submitEach filed
          have kept := Handled.kept some_error supports (recorded ▸ each)
          cases outcome with
          | error err =>
            obtain ⟨rfl, rfl⟩ := yields_done.mp later
            simpa [Except.map] using kept
          | ok =>
            obtain ⟨rfl, rfl⟩ := yields_done.mp later
            simpa [Except.map] using kept
        | false =>
          obtain ⟨_, first, last, rfl, filed, later⟩ := yields_bind.mp decided
          obtain ⟨f, records, rfl, rfl⟩ := yields_submitProcessingError filed
          cases answered : f.answer with
          | error reason =>
            rw [Filing.outcome_refused answered, records.primaryStage] at later
            obtain ⟨rfl, rfl⟩ := yields_done.mp later
            simpa using Handled.refused recorded supports records answered
          | ok =>
            rw [Filing.outcome_accepted answered] at later
            obtain ⟨_, rfl, logged⟩ := yields_note.mp later
            obtain ⟨_, rfl, reported⟩ := yields_note.mp logged
            obtain ⟨rfl, rfl⟩ := yields_done.mp reported
            exact .dropped recorded supports records answered

def eligible (errors : List IndexingError) : List IndexingError :=
  errors.filter (·.message.supportsFailureHandling)

theorem eligible_cons (e : IndexingError) (rest : List IndexingError) :
    eligible (e :: rest) =
      if e.message.supportsFailureHandling then e :: eligible rest else eligible rest :=
  List.filter_cons

theorem yields_indexingFailures {errors : List IndexingError} {failures : List Failure}
    (h : (indexingFailures errors).Yields acts failures) :
    acts = [] ∧ List.Forall₂ IsRejection (eligible errors) failures := by
  induction errors generalizing acts failures with
  | nil =>
    obtain ⟨rfl, rfl⟩ := yields_done.mp h
    exact ⟨rfl, .nil⟩
  | cons e rest ih =>
    unfold indexingFailures at h
    split at h
    next supports =>
      obtain ⟨now, stamped⟩ := yields_stamp.mp h
      obtain ⟨_, first, last, rfl, others, done⟩ := yields_bind.mp stamped
      obtain ⟨rfl, records⟩ := ih others
      obtain ⟨rfl, rfl⟩ := yields_done.mp done
      rw [eligible_cons, if_pos supports]
      exact ⟨rfl, .cons (isRejection_indexing now e) records⟩
    next unsupported =>
      obtain ⟨rfl, records⟩ := ih h
      rw [eligible_cons, if_neg unsupported]
      exact ⟨rfl, records⟩

/-- An indexing request is passed over if no error of it is eligible. Otherwise the records of the
eligible errors are filed as one batch. -/
theorem yields_submitIndexingErrors {errors : List IndexingError} {result : Outcome Unit}
    (h : (submitIndexingErrors errors).Yields acts result) :
    (eligible errors = [] ∧ result = .ok () ∧ ∃ entry, acts = [.noted (.log entry)]) ∨
      ∃ f : Filing, List.Forall₂ IsRejection (eligible errors) f.batch.failures ∧
        acts = f.acts ∧ result = f.outcome := by
  obtain ⟨failures, first, last, rfl, collected, later⟩ := yields_bind.mp h
  obtain ⟨rfl, records⟩ := yields_indexingFailures collected
  cases failures with
  | nil =>
    obtain ⟨_, rfl, logged⟩ := yields_note.mp later
    obtain ⟨rfl, rfl⟩ := yields_done.mp logged
    exact .inl ⟨List.forall₂_nil_right_iff.mp records, rfl, _, rfl⟩
  | cons failure rest =>
    obtain ⟨f, same, rfl, rfl⟩ := yields_submit later
    exact .inr ⟨f, by simpa [same] using records, rfl, rfl⟩

/-- An input's failure is filed alone, and counted for the input once it is accepted. -/
theorem yields_submitInputFailure {e : InputException} {inputId : String} {result : Outcome Unit}
    (h : (submitInputFailure e inputId).Yields acts result) :
    ∃ f : Filing, RecordsInput e inputId f.batch ∧
      acts = f.acts ++ (match f.answer with
        | .ok () => [.noted (.event (.inputFailureRecorded inputId))]
        | .error _ => []) ∧
      result = f.outcome := by
  obtain ⟨now, stamped⟩ := yields_stamp.mp h
  obtain ⟨_, first, last, rfl, submitted, later⟩ := yields_bind.mp stamped
  obtain ⟨f, same, rfl, rfl⟩ := yields_submit submitted
  refine ⟨f, same ▸ recordsInput_input now e inputId, ?_⟩
  cases answered : f.answer with
  | error reason =>
    rw [Filing.outcome_refused answered] at later ⊢
    obtain ⟨rfl, rfl⟩ := yields_done.mp later
    exact ⟨rfl, rfl⟩
  | ok =>
    rw [Filing.outcome_accepted answered] at later ⊢
    obtain ⟨_, rfl, reported⟩ := yields_note.mp later
    obtain ⟨rfl, rfl⟩ := yields_done.mp reported
    exact ⟨rfl, rfl⟩

/-- A failure outside the message's own errors is filed alone, and the message is kept. -/
theorem yields_submitUnknownProcessingError {details : String} {result : Outcome Decision}
    (h : (submitUnknownProcessingError m details).Yields acts result) :
    ∃ f : Filing, Records m false (unrecognized details) f.batch ∧ acts = f.acts ∧
      result = f.outcome.map fun _ => .keep := by
  obtain ⟨now, stamped⟩ := yields_stamp.mp h
  obtain ⟨_, first, last, rfl, submitted, later⟩ := yields_bind.mp stamped
  obtain ⟨f, same, rfl, rfl⟩ := yields_submit submitted
  refine ⟨f, same ▸ records_processing now m (unrecognized details) false, ?_⟩
  cases outcome : f.outcome with
  | error err =>
    rw [outcome] at later
    obtain ⟨rfl, rfl⟩ := yields_done.mp later
    exact ⟨List.append_nil _, rfl⟩
  | ok =>
    rw [outcome] at later
    obtain ⟨rfl, rfl⟩ := yields_done.mp later
    exact ⟨List.append_nil _, rfl⟩

end Service

/-- A call performs what its path of the service performs, and passes the result on. -/
theorem yields_passed {α β : Type} {p : Program (Outcome α)} {f : α → β} {acts : List Act}
    {outcome : Outcome β} (h : (p.bind fun r => .done (r.map f)).Yields acts outcome) :
    ∃ result, p.Yields acts result ∧ outcome = result.map f := by
  obtain ⟨result, first, last, rfl, performed, passed⟩ := yields_bind.mp h
  obtain ⟨rfl, rfl⟩ := yields_done.mp passed
  rw [List.append_nil]
  exact ⟨result, performed, rfl⟩

end FailureIntake
