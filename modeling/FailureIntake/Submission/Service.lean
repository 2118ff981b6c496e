import FailureIntake.RawMessage
import FailureIntake.Submission.Program

/-! The submission service: what each stage's report becomes. -/
namespace FailureIntake

/-- What the pipeline does with a message after its failures were handled. -/
inductive Decision where
  | keep
  | filterOut
deriving DecidableEq, Repr

def Decision.shouldKeep : Decision → Bool
  | .keep => true
  | .filterOut => false

abbrev Outcome (α : Type) := Except SubmissionError α

namespace Service

/-- The part of the program that the service's log entries come from. -/
def logTarget : String := "tailrace::service"

/-- The error text of a failure that no stage recognized. -/
def unrecognizedError : String := "Encountered an unrecognizable processing error"

def emit (e : Event) : Program Unit :=
  .note (.event e) (.done ())

def log (level : LogLevel) (message : String) (fields : List (String × FieldValue)) : Program Unit :=
  .note (.log ⟨level, logTarget, message, fields⟩) (.done ())

/-- What the log says before a batch is handed over. -/
def announcement (batch : Batch) : LogEntry :=
  ⟨.debug, logTarget, "Submitting failure batch",
    [("failure_type", .bare batch.primaryStage.label), ("size", .bare (toString batch.size))]⟩

/-- Hands one batch to the queue. Only a batch that the queue accepted is reported as submitted. -/
def submit (batch : Batch) : Program (Outcome Unit) := do
  Program.note (.log (announcement batch)) (.done ())
  match ← Program.submit batch .done with
  | .error reason => pure (.error ⟨batch.primaryStage, reason⟩)
  | .ok () =>
    emit (.batchSubmitted batch.primaryStage batch.size)
    pure (.ok ())

/-- The records of the errors whose messages support failure handling, in order. -/
def indexingFailures : List IndexingError → Program (List Failure)
  | [] => .done []
  | e :: rest =>
    if e.message.supportsFailureHandling then
      .stamp fun now => (indexingFailures rest).bind fun fs =>
        .done (.indexing now e.kind.cause e.message.resolvedId e.targetIndex e.details :: fs)
    else indexingFailures rest

/-- The errors of one indexing request become one batch. Without an eligible error the queue is not
touched. -/
def submitIndexingErrors (errors : List IndexingError) : Program (Outcome Unit) := do
  match Batch.ofList? (← indexingFailures errors) with
  | none =>
    log .trace "No indexing errors eligible for failure handling"
      [("errors", .bare (toString errors.length))]
    pure (.ok ())
  | some batch => submit batch

/-- An input's failure is submitted whatever the policy says, since no message exists yet to which
a policy could apply. -/
def submitInputFailure (e : InputException) (inputId : String) : Program (Outcome Unit) :=
  .stamp fun now => do
    match ← submit (.single (.input now e.raw.id.text e.raw.receivedAt inputId e.message e.details)) with
    | .error err => pure (.error err)
    | .ok () =>
      emit (.inputFailureRecorded inputId)
      pure (.ok ())

/-- Works out the cause of an error and submits its record alone. -/
def submitProcessingError (m : Message) (e : ProcessingError) (requiresAck : Bool) :
    Program (Outcome Unit) :=
  .evaluate e fun cause => .stamp fun now =>
    submit (.single (.processing now cause m.resolvedId e.message e.details requiresAck))

/-- One batch for each error in recorded order, up to the first that is refused. -/
def submitEach (m : Message) : List ProcessingError → Program (Outcome Unit)
  | [] => .done (.ok ())
  | e :: rest => do
    match ← submitProcessingError m e false with
    | .error err => pure (.error err)
    | .ok () => submitEach m rest

/-- Applies the policy to a message with processing errors. The message is dropped only if failures
are submitted, the message supports failure handling and duplicates are not kept; then its first
error alone is submitted, and asks for an acknowledgement. -/
def submitProcessingErrors (m : Message) : Program (Outcome Decision) :=
  match m.errors with
  | [] => .done (.ok .keep)
  | first :: rest => .readSubmit fun enabled => do
    if !enabled then
      log .trace "Processing failure submission disabled" [("message_id", .quoted m.resolvedId)]
      pure (.ok .keep)
    else if !m.supportsFailureHandling then
      log .trace "Message does not support failure handling"
        [("message_id", .quoted m.resolvedId)]
      pure (.ok .keep)
    else .readKeep fun keep => do
      if keep then
        match ← submitEach m (first :: rest) with
        | .error err => pure (.error err)
        | .ok () => pure (.ok .keep)
      else
        match ← submitProcessingError m first true with
        | .error err => pure (.error err)
        | .ok () =>
          log .debug "Filtering out message after processing failure"
            [("message_id", .quoted m.resolvedId), ("errors", .bare (toString m.errors.length))]
          emit .messageFilteredOut
          pure (.ok .filterOut)

/-- A failure found outside the message's own errors is always submitted and never drops the
message. -/
def submitUnknownProcessingError (m : Message) (details : String) : Program (Outcome Decision) :=
  .stamp fun now => do
    match ← submit (.single (.processing now .unknown m.resolvedId unrecognizedError details false)) with
    | .error err => pure (.error err)
    | .ok () => pure (.ok .keep)

end Service

/-- A call of the service by a stage of the pipeline. -/
inductive Call where
  | indexing (errors : List IndexingError)
  | input (exception : InputException) (inputId : String)
  | processing (message : Message)
  | unknown (message : Message) (details : String)
deriving DecidableEq, Repr

/-- The acts of a call. Calls on messages also decide about the message. -/
def Call.program : Call → Program (Outcome (Option Decision))
  | .indexing errors => (Service.submitIndexingErrors errors).bind fun r => .done (r.map fun _ => none)
  | .input e inputId => (Service.submitInputFailure e inputId).bind fun r => .done (r.map fun _ => none)
  | .processing m => (Service.submitProcessingErrors m).bind fun r => .done (r.map some)
  | .unknown m details =>
    (Service.submitUnknownProcessingError m details).bind fun r => .done (r.map some)

end FailureIntake
