import FailureIntake.Proofs.Observability.Registry
import FailureIntake.Proofs.Submission.Filing
import FailureIntake.Statistics

/-! What the metrics count, and what it stands for. A meter reads some counters. It also measures a
batch directly, by its failures. A call of the service that has returned was metered for what the
queue accepted from it, and for nothing else. -/
namespace FailureIntake

open Program Act Service

/-- Submitted failures and submitted batches of a stage, dropped messages, input failures and
consumed batches. -/
inductive Meter where
  | failures (stage : Stage)
  | batches (stage : Stage)
  | filteredOut
  | inputFailures
  | consumed
deriving DecidableEq

namespace Meter

/-- The counters that a meter reads. -/
def selects : Meter → String → List (String × String) → Bool
  | .failures stage, name, labels =>
    name = "tailrace_failures_submitted_total" ∧ labels = [("failure_type", stage.label)]
  | .batches stage, name, labels =>
    name = "tailrace_failure_batches_submitted_total" ∧ labels = [("failure_type", stage.label)]
  | .filteredOut, name, labels => name = "tailrace_messages_filtered_out_total" ∧ labels = []
  | .inputFailures, name, _ => name = "tailrace_input_failures_total"
  | .consumed, name, labels => name = "tailrace_failure_batches_consumed_total" ∧ labels = []

def ofEvent : Meter → Event → Nat
  | .failures stage, .batchSubmitted first size => if first = stage then size else 0
  | .batches stage, .batchSubmitted first _ => if first = stage then 1 else 0
  | .filteredOut, .messageFilteredOut => 1
  | .inputFailures, .inputFailureRecorded _ => 1
  | .consumed, .batchConsumed _ => 1
  | _, _ => 0

/-- What a batch counts for once it is accepted. -/
def ofBatch : Meter → Batch → Nat
  | .failures stage, b => b.failures.countP (·.stage = stage)
  | .batches stage, b => if (b.failures.head b.ne_nil).stage = stage then 1 else 0
  | .filteredOut, b => b.failures.countP (·.requiresAck)
  | .inputFailures, b => b.failures.countP (·.stage = .input)
  | .consumed, _ => 0

def ofNote (m : Meter) : Note → Nat
  | .event e => m.ofEvent e
  | .log _ => 0

def ofNotes (m : Meter) (notes : List Note) : Nat :=
  (notes.map m.ofNote).sum

def ofActs (m : Meter) (acts : List Act) : Nat :=
  m.ofNotes (acts.flatMap Act.notes)

def ofBatches (m : Meter) (batches : List Batch) : Nat :=
  (batches.map m.ofBatch).sum

theorem label_inj {a b : Stage} : a.label = b.label ↔ a = b := by
  cases a <;> cases b <;> simp [Stage.label]

theorem amount_metrics (m : Meter) (e : Event) :
    (e.metrics.map (·.amount m.selects)).sum = m.ofEvent e := by
  cases m <;> cases e <;>
    simp [Event.metrics, MetricUpdate.amount, selects, ofEvent, Quantity.whole, label_inj]

variable {m : Meter}

@[simp] theorem ofNotes_nil : m.ofNotes [] = 0 := rfl

@[simp] theorem ofNotes_cons (n : Note) (notes : List Note) :
    m.ofNotes (n :: notes) = m.ofNote n + m.ofNotes notes := by
  simp [ofNotes]

@[simp] theorem ofNotes_append (first last : List Note) :
    m.ofNotes (first ++ last) = m.ofNotes first + m.ofNotes last := by
  simp [ofNotes]

@[simp] theorem ofActs_nil : m.ofActs [] = 0 := rfl

@[simp] theorem ofActs_append (first last : List Act) :
    m.ofActs (first ++ last) = m.ofActs first + m.ofActs last := by
  simp [ofActs]

@[simp] theorem ofActs_cons (act : Act) (acts : List Act) :
    m.ofActs (act :: acts) = m.ofNotes act.notes + m.ofActs acts := by
  simp [ofActs]

@[simp] theorem ofBatches_nil : m.ofBatches [] = 0 := rfl

@[simp] theorem ofBatches_cons (b : Batch) (batches : List Batch) :
    m.ofBatches (b :: batches) = m.ofBatch b + m.ofBatches batches := by
  simp [ofBatches]

@[simp] theorem ofBatches_append (first last : List Batch) :
    m.ofBatches (first ++ last) = m.ofBatches first + m.ofBatches last := by
  simp [ofBatches]

theorem ofNotes_flatMap {α : Type} (f : α → List Note) (l : List α) :
    m.ofNotes (l.flatMap f) = (l.map fun a => m.ofNotes (f a)).sum := by
  induction l with
  | nil => rfl
  | cons a rest ih => rw [List.flatMap_cons, ofNotes_append, ih, List.map_cons, List.sum_cons]

theorem ofBatches_flatMap {α : Type} (f : α → List Batch) (l : List α) :
    m.ofBatches (l.flatMap f) = (l.map fun a => m.ofBatches (f a)).sum := by
  induction l with
  | nil => rfl
  | cons a rest ih => rw [List.flatMap_cons, ofBatches_append, ih, List.map_cons, List.sum_cons]

theorem amount_notes (m : Meter) (notes : List Note) :
    ((notes.flatMap Note.metrics).map (·.amount m.selects)).sum = m.ofNotes notes := by
  induction notes with
  | nil => rfl
  | cons n rest ih =>
    rw [List.flatMap_cons, List.map_append, List.sum_append, ih]
    cases n with
    | event e => exact congrArg (· + _) (m.amount_metrics e)
    | log entry => rfl

end Meter

/-- No meter counts what the queue itself reports of a submission. -/
def Unmetered (notes : List Note) : Prop :=
  ∀ m : Meter, m.ofNotes notes = 0

def Act.QueueUnmetered : Act → Prop
  | .offered _ _ notes => Unmetered notes
  | _ => True

/-- A batch of one stage without requests for an acknowledgement counts as much as its report. Input
failures are reported once more. -/
theorem Meter.ofEvent_submitted (m : Meter) (stage : Stage) {b : Batch} (other : stage ≠ .input)
    (uniform : ∀ f ∈ b.failures, f.stage = stage ∧ f.requiresAck = false) :
    m.ofEvent (.batchSubmitted b.primaryStage b.size) = m.ofBatch b := by
  have first : b.primaryStage = stage := (uniform b.first b.first_mem).1
  have counted (s : Stage) : b.failures.countP (·.stage = s) = if stage = s then b.size else 0 := by
    split
    · next same =>
      refine List.countP_eq_length.mpr fun f member => ?_
      rw [(uniform f member).1, same]
      exact decide_eq_true rfl
    · next differs =>
      refine List.countP_eq_zero.mpr fun f member => ?_
      rw [(uniform f member).1]
      simpa using differs
  cases m with
  | failures s => rw [ofEvent, ofBatch, counted, first]
  | batches s => rfl
  | filteredOut =>
    have none : b.failures.countP (·.requiresAck) = 0 :=
      List.countP_eq_zero.mpr fun f member => Bool.not_eq_true _ ▸ (uniform f member).2
    exact none.symm
  | inputFailures =>
    have none := counted .input
    rw [if_neg other] at none
    exact none.symm
  | consumed => rfl

/-- A failure alone counts as the report of its batch, as that of a dropped message if it asks for an
acknowledgement, and as that of its input if it has one. -/
theorem Meter.ofBatch_alone (m : Meter) {b : Batch} {f : Failure} (alone : b.failures = [f])
    (inputId : String) : m.ofBatch b = m.ofEvent (.batchSubmitted b.primaryStage b.size) +
      ((if f.requiresAck then m.ofEvent .messageFilteredOut else 0) +
        if f.stage = .input then m.ofEvent (.inputFailureRecorded inputId) else 0) := by
  rw [Batch.eq_single alone]
  cases m with
  | batches stage =>
    simp only [ofEvent, ofBatch, ite_self, Nat.add_zero]
    rfl
  | failures | filteredOut | inputFailures | consumed =>
    simp [ofEvent, ofBatch, Batch.single, Batch.primaryStage, Batch.first, Batch.size]

namespace Filing

variable {m : Meter} {f : Filing}

theorem unmetered_notes (quiet : ∀ act ∈ f.acts, act.QueueUnmetered) : Unmetered f.notes :=
  quiet (.offered f.batch (some f.answer) f.notes) (by simp [acts])

theorem ofActs_caused : m.ofActs f.caused = m.ofActs f.acts := by
  simp [caused, Act.notes]

/-- An accepted batch counts as much as its report and what is reported after it. -/
theorem booked_accepted (quiet : ∀ act ∈ f.acts, act.QueueUnmetered) (accepted : f.answer = .ok ())
    (later : List Act) (none : acceptedBatches later = [])
    (reported : m.ofEvent (.batchSubmitted f.batch.primaryStage f.batch.size) + m.ofActs later =
      m.ofBatch f.batch) :
    m.ofActs (f.acts ++ later) = m.ofBatches (acceptedBatches (f.acts ++ later)) := by
  have own := unmetered_notes quiet m
  have batches : acceptedBatches f.acts = [f.batch] := by
    rw [acceptedBatches_acts, accepted]
  rw [acceptedBatches_append, batches, none]
  simp [acts, accepted, Act.notes, own, Meter.ofNote, reported]

theorem booked_refused (quiet : ∀ act ∈ f.acts, act.QueueUnmetered) {reason : QueueError}
    (refused : f.answer = .error reason) :
    m.ofActs f.acts = m.ofBatches (acceptedBatches f.acts) := by
  have own := unmetered_notes quiet m
  have batches : acceptedBatches f.acts = [] := by
    rw [acceptedBatches_acts, refused]
  rw [batches]
  simp [acts, refused, Act.notes, own, Meter.ofNote]

theorem booked (quiet : ∀ act ∈ f.acts, act.QueueUnmetered)
    (reported : m.ofEvent (.batchSubmitted f.batch.primaryStage f.batch.size) = m.ofBatch f.batch) :
    m.ofActs f.acts = m.ofBatches (acceptedBatches f.acts) := by
  cases answered : f.answer with
  | error reason => exact booked_refused quiet answered
  | ok =>
    have alone := booked_accepted quiet answered [] rfl reported
    rwa [List.append_nil] at alone

theorem booked_caused (quiet : ∀ act ∈ f.caused, act.QueueUnmetered)
    (reported : m.ofEvent (.batchSubmitted f.batch.primaryStage f.batch.size) = m.ofBatch f.batch) :
    m.ofActs f.caused = m.ofBatches (acceptedBatches f.caused) := by
  rw [ofActs_caused, acceptedBatches_caused]
  exact booked (fun act member => quiet act (List.mem_cons_of_mem _ member)) reported

end Filing

namespace Service

variable {m : Message} {acts : List Act}

theorem Records.reported {e : ProcessingError} {b : Batch} (records : Records m false e b)
    (meter : Meter) :
    meter.ofEvent (.batchSubmitted b.primaryStage b.size) = meter.ofBatch b := by
  obtain ⟨f, alone, record⟩ := records
  simp [meter.ofBatch_alone alone "", record.stage, record.requiresAck]

/-- A record that asks for an acknowledgement is paid for by the report on the dropped message. -/
theorem Records.reported_dropped {e : ProcessingError} {b : Batch} (records : Records m true e b)
    (meter : Meter) :
    meter.ofEvent (.batchSubmitted b.primaryStage b.size) + meter.ofEvent .messageFilteredOut =
      meter.ofBatch b := by
  obtain ⟨f, alone, record⟩ := records
  simp [meter.ofBatch_alone alone "", record.stage, record.requiresAck]

/-- The report on the input pays for the failure of its stage. -/
theorem RecordsInput.reported {e : InputException} {inputId : String} {b : Batch}
    (records : RecordsInput e inputId b) (meter : Meter) :
    meter.ofEvent (.batchSubmitted b.primaryStage b.size) +
      meter.ofEvent (.inputFailureRecorded inputId) = meter.ofBatch b := by
  obtain ⟨f, alone, record, _⟩ := records
  simp [meter.ofBatch_alone alone inputId, record.stage, record.requiresAck]

theorem FiledEach.booked {errors : List ProcessingError} {fs : List Filing} {result : Outcome Unit}
    (filed : FiledEach m errors fs result)
    (quiet : ∀ act ∈ fs.flatMap Filing.caused, act.QueueUnmetered) (meter : Meter) :
    meter.ofActs (fs.flatMap Filing.caused) =
      meter.ofBatches (acceptedBatches (fs.flatMap Filing.caused)) := by
  have reported : ∀ f ∈ fs, meter.ofEvent (.batchSubmitted f.batch.primaryStage f.batch.size) =
      meter.ofBatch f.batch := by
    intro f member
    obtain ⟨e, _, records⟩ := exists_recorded filed.upToRefusal.1 member
    exact records.reported meter
  clear filed
  induction fs with
  | nil => rfl
  | cons f rest ih =>
    rw [List.flatMap_cons] at quiet ⊢
    rw [Meter.ofActs_append, acceptedBatches_append, Meter.ofBatches_append,
      Filing.booked_caused (fun act member => quiet act (List.mem_append_left _ member))
        (reported f List.mem_cons_self),
      ih (fun act member => quiet act (List.mem_append_right _ member))
        fun g member => reported g (List.mem_cons_of_mem _ member)]

theorem Handled.booked {result : Outcome Decision} (handled : Handled m acts result)
    (quiet : ∀ act ∈ acts, act.QueueUnmetered) (meter : Meter) :
    meter.ofActs acts = meter.ofBatches (acceptedBatches acts) := by
  cases handled with
  | clean | disabled | unsupported => rfl
  | kept _ _ filed =>
    exact filed.booked (fun act member => quiet act (.tail _ (.tail _ member))) meter
  | @dropped e rest f entry _ _ records acceptance =>
    have filed : ∀ act ∈ f.acts, act.QueueUnmetered :=
      fun act member => quiet act (by simp [Filing.caused, member])
    exact Filing.booked_accepted filed acceptance
      [.noted (.log entry), .noted (.event .messageFilteredOut)] rfl
      (by simpa [Act.notes, Meter.ofNote] using records.reported_dropped meter)
  | @refused e rest f reason _ _ _ refusal =>
    have filed : ∀ act ∈ f.acts, act.QueueUnmetered :=
      fun act member => quiet act (by simp [Filing.caused, member])
    change meter.ofActs f.caused = meter.ofBatches (acceptedBatches f.acts)
    rw [Filing.ofActs_caused]
    exact Filing.booked_refused filed refusal

end Service

/-- A call that has returned was metered for what the queue accepted from it. -/
theorem Call.booked_of_yields {c : Call} {acts : List Act} {outcome : Outcome (Option Decision)}
    (h : c.program.Yields acts outcome) (quiet : ∀ act ∈ acts, act.QueueUnmetered) (m : Meter) :
    m.ofActs acts = m.ofBatches (acceptedBatches acts) := by
  cases c with
  | indexing errors =>
    obtain ⟨result, submitted, rfl⟩ := yields_passed h
    rcases yields_submitIndexingErrors submitted with ⟨_, _, _, rfl⟩ | ⟨f, records, rfl, _⟩
    · rfl
    · refine Filing.booked quiet (m.ofEvent_submitted .indexing nofun fun failure member => ?_)
      obtain ⟨e, _, rejection⟩ := exists_recorded records member
      exact ⟨rejection.stage, rejection.requiresAck⟩
  | input e inputId =>
    obtain ⟨result, submitted, rfl⟩ := yields_passed h
    obtain ⟨f, records, rfl, _⟩ := yields_submitInputFailure submitted
    have filed : ∀ act ∈ f.acts, act.QueueUnmetered :=
      fun act member => quiet act (List.mem_append_left _ member)
    cases answered : f.answer with
    | error reason =>
      rw [List.append_nil]
      exact Filing.booked_refused filed answered
    | ok =>
      exact Filing.booked_accepted filed answered _ rfl
        (by simpa [Act.notes, Meter.ofNote] using records.reported m)
  | processing message =>
    obtain ⟨result, submitted, rfl⟩ := yields_passed h
    exact (yields_submitProcessingErrors submitted).booked quiet m
  | unknown message details =>
    obtain ⟨result, submitted, rfl⟩ := yields_passed h
    obtain ⟨f, records, rfl, rfl⟩ := yields_submitUnknownProcessingError submitted
    exact Filing.booked quiet (records.reported m)

end FailureIntake
