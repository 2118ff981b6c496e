import FailureIntake.Batch
import FailureIntake.Message
import FailureIntake.RawMessage

/-! The records of the service, field by field. Ids, labels and texts are written out here, and what the
service builds is shown to have them. -/
namespace FailureIntake

/-- The id by which records name a message: its own one, or the generic one if its own is missing or
empty, or `UNKNOWN` if the generic one is empty, too. -/
inductive Message.NamedBy (m : Message) : String → Prop where
  | own {id : String} : m.messageId = some id → id ≠ "" → m.NamedBy id
  | generic : m.messageId = none ∨ m.messageId = some "" → m.id ≠ "" → m.NamedBy m.id
  | unknown : m.messageId = none ∨ m.messageId = some "" → m.id = "" → m.NamedBy "UNKNOWN"

namespace Message

variable {m : Message} {id : String}

theorem NamedBy.nonempty (named : m.NamedBy id) : id ≠ "" := by
  cases named with
  | own _ nonempty => exact nonempty
  | generic _ nonempty => exact nonempty
  | unknown => decide

theorem namedBy_resolvedId (m : Message) : m.NamedBy m.resolvedId := by
  have others (without : m.messageId = none ∨ m.messageId = some "") :
      m.NamedBy (resolvedId.generic m) := by
    unfold resolvedId.generic
    split
    · next nonempty => exact .generic without nonempty
    · next empty => exact .unknown without (Decidable.not_not.mp empty)
  unfold resolvedId
  split
  · next own recorded =>
    split
    · next nonempty => exact .own recorded nonempty
    · next nonempty =>
      have empty : own = "" := Decidable.not_not.mp nonempty
      exact others (.inr (empty ▸ recorded))
  · next missing => exact others (.inl missing)

/-- There is one such id for each message. -/
theorem namedBy_iff : m.NamedBy id ↔ m.resolvedId = id := by
  refine ⟨fun named => ?_, fun same => same ▸ m.namedBy_resolvedId⟩
  cases named with
  | own recorded nonempty => simp [resolvedId, recorded, nonempty]
  | generic without nonempty =>
    rcases without with missing | empty <;> simp [resolvedId, resolvedId.generic, *]
  | unknown without empty =>
    rcases without with missing | blank <;> simp [resolvedId, resolvedId.generic, Cause.unknown, *]

end Message

theorem Batch.first_mem (b : Batch) : b.first ∈ b.failures :=
  List.head_mem b.ne_nil

theorem Batch.eq_single {b : Batch} {f : Failure} (alone : b.failures = [f]) : b = .single f := by
  cases b
  cases alone
  rfl

/-- What is said of an exception: its root cause, or else its own text. -/
inductive InputException.Explains (e : InputException) : String → Prop where
  | own : e.cause = none → e.Explains e.message
  | rootCause {c : RootCause} : e.cause = some c → e.Explains (c.typeName ++ ": " ++ c.message)

theorem InputException.explains_details (e : InputException) : e.Explains e.details := by
  unfold details
  split
  · next known => exact .rootCause known
  · next unknown => exact .own unknown

namespace Service

/-- Field by field, the record of a processing error of a message. -/
structure IsRecord (m : Message) (e : ProcessingError) (requiresAck : Bool) (f : Failure) :
    Prop where
  stage : f.stage = .processing
  cause : f.cause = e.cause
  details : f.details = e.details
  messageId : m.NamedBy f.messageId
  message : f.message = "Failed to process message with id '" ++ f.messageId ++ "': " ++ e.message
  targetIndex : f.targetIndex = none
  messageTime : f.messageTime = none
  requiresAck : f.requiresAck = requiresAck

/-- The batch holds the record of one processing error and nothing else. -/
def Records (m : Message) (requiresAck : Bool) (e : ProcessingError) (b : Batch) : Prop :=
  ∃ f, b.failures = [f] ∧ IsRecord m e requiresAck f

theorem records_processing (now : Instant) (m : Message) (e : ProcessingError)
    (requiresAck : Bool) : Records m requiresAck e
      (.single (.processing now e.cause m.resolvedId e.message e.details requiresAck)) :=
  ⟨_, rfl, rfl, rfl, rfl, Message.namedBy_iff.mpr rfl, rfl, rfl, rfl, rfl⟩

section Records

variable {m : Message} {requiresAck : Bool} {e : ProcessingError} {b : Batch}

theorem Records.each (records : Records m requiresAck e b) :
    ∀ f ∈ b.failures, IsRecord m e requiresAck f := by
  obtain ⟨f, alone, record⟩ := records
  simpa [alone] using record

theorem Records.first (records : Records m requiresAck e b) : IsRecord m e requiresAck b.first :=
  records.each b.first b.first_mem

theorem Records.primaryStage (records : Records m requiresAck e b) : b.primaryStage = .processing :=
  records.first.stage

end Records

/-- A failure outside the errors of the message is recorded as this one. -/
def unrecognized (details : String) : ProcessingError :=
  ⟨⟨"UNKNOWN"⟩, "Encountered an unrecognizable processing error", details⟩

/-- Field by field, the record of a message that the indexer did not write. -/
structure IsRejection (e : IndexingError) (f : Failure) : Prop where
  stage : f.stage = .indexing
  mappingError : e.kind = .mappingError → f.cause.label = "MappingError"
  indexBlocked : e.kind = .indexBlocked → f.cause.label = "IndexBlocked"
  /-- An error without a classification has the cause `UNKNOWN`. -/
  unclassified : e.kind = .unknown → f.cause.label = "UNKNOWN"
  messageId : e.message.NamedBy f.messageId
  message : f.message =
    "Failed to index message with id '" ++ f.messageId ++ "' targeting '" ++ e.targetIndex ++ "'"
  details : f.details = e.details
  targetIndex : f.targetIndex = some e.targetIndex
  messageTime : f.messageTime = none
  requiresAck : f.requiresAck = false

theorem isRejection_indexing (now : Instant) (e : IndexingError) :
    IsRejection e (.indexing now e.kind.cause e.message.resolvedId e.targetIndex e.details) := by
  refine ⟨rfl, fun kind => ?_, fun kind => ?_, fun kind => ?_, Message.namedBy_iff.mpr rfl,
    rfl, rfl, rfl, rfl, rfl⟩ <;> rw [kind] <;> rfl

/-- Field by field, the record of an exception with this text, but for its details. -/
structure IsInputRecord (text : String) (raw : RawMessage) (inputId : String) (f : Failure) :
    Prop where
  stage : f.stage = .input
  cause : f.cause.label = "InputParseError"
  messageId : f.messageId = raw.id.text
  messageTime : f.messageTime = some raw.receivedAt
  message : f.message = "Failed to process message with id '" ++ f.messageId ++
    "' from input with id '" ++ inputId ++ "': " ++ text
  targetIndex : f.targetIndex = none
  requiresAck : f.requiresAck = false

theorem isInputRecord_input (now : Instant) (text : String) (raw : RawMessage)
    (inputId details : String) :
    IsInputRecord text raw inputId (.input now raw.id.text raw.receivedAt inputId text details) :=
  ⟨rfl, rfl, rfl, rfl, rfl, rfl, rfl⟩

/-- The batch holds the record of an exception and nothing else. -/
def RecordsInput (e : InputException) (inputId : String) (b : Batch) : Prop :=
  ∃ f, b.failures = [f] ∧ IsInputRecord e.message e.raw inputId f ∧ e.Explains f.details

theorem recordsInput_input (now : Instant) (e : InputException) (inputId : String) :
    RecordsInput e inputId
      (.single (.input now e.raw.id.text e.raw.receivedAt inputId e.message e.details)) :=
  ⟨_, rfl, isInputRecord_input now e.message e.raw inputId e.details, e.explains_details⟩

theorem RecordsInput.each {e : InputException} {inputId : String} {b : Batch}
    (records : RecordsInput e inputId b) :
    ∀ f ∈ b.failures, IsInputRecord e.message e.raw inputId f := by
  obtain ⟨f, alone, record, _⟩ := records
  simpa [alone] using record

end Service

end FailureIntake
