import FailureIntake.Failure
import FailureIntake.Text.Quoted

/-! Messages as the stages of the pipeline see them, with the errors recorded on them. -/
namespace FailureIntake

/-- An error that a processing stage recorded on a message. Its cause is worked out only when a
failure is built for it; the act that does so is recorded by the submission. -/
structure ProcessingError where
  cause : Cause
  message : String
  details : String
deriving DecidableEq, Repr

namespace ProcessingError

/-- One line for diagnostics. The cause is not part of it, since showing an error must not work
the cause out. -/
def inspect (e : ProcessingError) : String :=
  "ProcessingError \x7b message: " ++ Text.quoted e.message ++ ", details: " ++
    Text.quoted e.details ++ ", .. \x7d"

/-- The same over several lines, one for each part. -/
def inspectPretty (e : ProcessingError) : String :=
  "ProcessingError \x7b\n    message: " ++ Text.quoted e.message ++ ",\n    details: " ++
    Text.quoted e.details ++ ",\n    ..\n\x7d"

end ProcessingError

/-- A decoded message on its way through the pipeline. -/
structure Message where
  id : String := ""
  messageId : Option String := none
  supportsFailureHandling : Bool := false
  errors : List ProcessingError := []
deriving DecidableEq, Repr

/-- What is set on a message, or recorded on it, while it is on its way. -/
inductive MessagePart where
  | messageId (own : String)
  | failureHandling (supported : Bool)
  | error (e : ProcessingError)
deriving DecidableEq, Repr

def Message.add (m : Message) : MessagePart → Message
  | .messageId own => { m with messageId := some own }
  | .failureHandling supported => { m with supportsFailureHandling := supported }
  | .error e => { m with errors := m.errors ++ [e] }

/-- A message begins with its generic identifier alone, and supports no failure handling. -/
def Message.build (id : String) (parts : List MessagePart) : Message :=
  parts.foldl Message.add { id := id }

/-- The identifier for failure records: the first non-empty one of the message's own id, its
generic id and the literal `UNKNOWN`. -/
def Message.resolvedId (m : Message) : String :=
  match m.messageId with
  | some own => if own ≠ "" then own else generic
  | none => generic
where
  generic := if m.id ≠ "" then m.id else Cause.unknown.label

inductive IndexingErrorKind where
  | mappingError
  | indexBlocked
  | unknown
deriving DecidableEq, Repr

def IndexingErrorKind.cause : IndexingErrorKind → Cause
  | .mappingError => ⟨"MappingError"⟩
  | .indexBlocked => ⟨"IndexBlocked"⟩
  | .unknown => .unknown

structure IndexingError where
  message : Message
  targetIndex : String
  kind : IndexingErrorKind
  details : String
deriving DecidableEq, Repr

end FailureIntake
