import FailureIntake.Instant

/-! Failure records. Each stage of the pipeline has one way to build a record, and only that way
decides which of the optional parts the record has. -/
namespace FailureIntake

/-- The stage of the pipeline in which a failure arose. -/
inductive Stage where
  | indexing
  | processing
  | input
deriving DecidableEq, Repr

/-- The stages in the order of their declaration. -/
def Stage.all : List Stage :=
  [.indexing, .processing, .input]

/-- The name of a stage in messages, metrics and logs. -/
def Stage.label : Stage → String
  | .indexing => "indexing"
  | .processing => "processing"
  | .input => "input"

/-- The name of a stage in a written record. -/
def Stage.wireName : Stage → String
  | .indexing => "INDEXING"
  | .processing => "PROCESSING"
  | .input => "INPUT"

def Stage.ofWireName? (name : String) : Option Stage :=
  Stage.all.find? fun s => s.wireName == name

/-- A short label that classifies why a failure occurred. -/
structure Cause where
  label : String
deriving DecidableEq, Repr

/-- The cause of an error that its stage cannot classify. -/
def Cause.unknown : Cause := ⟨"UNKNOWN"⟩

/-- The cause of every failure of the input stage. -/
def Cause.inputParseError : Cause := ⟨"InputParseError"⟩

structure Failure where
  stage : Stage
  cause : Cause
  message : String
  details : String
  recordedAt : Instant
  messageId : String
  messageTime : Option Instant
  targetIndex : Option String
  requiresAck : Bool
deriving DecidableEq, Repr

namespace Failure

/-- A message could not be written to its target index. It has already left the pipeline, so
nobody has to acknowledge the record. -/
def indexing (now : Instant) (cause : Cause) (messageId targetIndex details : String) : Failure where
  stage := .indexing
  cause := cause
  message := "Failed to index message with id '" ++ messageId ++ "' targeting '" ++ targetIndex ++ "'"
  details := details
  recordedAt := now
  messageId := messageId
  messageTime := none
  targetIndex := some targetIndex
  requiresAck := false

/-- A stage failed to process a message. The record asks for an acknowledgement if the message is
dropped because of this failure. -/
def processing (now : Instant) (cause : Cause) (messageId errorText details : String)
    (requiresAck : Bool) : Failure where
  stage := .processing
  cause := cause
  message := "Failed to process message with id '" ++ messageId ++ "': " ++ errorText
  details := details
  recordedAt := now
  messageId := messageId
  messageTime := none
  targetIndex := none
  requiresAck := requiresAck

/-- An input could not decode a raw message. -/
def input (now : Instant) (messageId : String) (messageTime : Instant)
    (inputId errorText details : String) : Failure where
  stage := .input
  cause := .inputParseError
  message := "Failed to process message with id '" ++ messageId ++ "' from input with id '" ++
    inputId ++ "': " ++ errorText
  details := details
  recordedAt := now
  messageId := messageId
  messageTime := some messageTime
  targetIndex := none
  requiresAck := false

end Failure

end FailureIntake
