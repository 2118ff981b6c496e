import FailureIntake.Failure
import FailureIntake.Instant.Rfc3339
import FailureIntake.Json.Error
import FailureIntake.Json.Nesting
import FailureIntake.Json.Writer

/-! The JSON form of failures. A record is an object with one member for each of its fields; the
two optional fields are left out when they are absent. It may also be read from the array of its
fields, unknown members are passed over, and the first thing wrong in text order is reported. -/
namespace FailureIntake

open Json

/-- The fields of a written record, in their order. -/
inductive RecordField where
  | stage
  | cause
  | message
  | details
  | recordedAt
  | messageId
  | messageTime
  | targetIndex
  | requiresAck
deriving DecidableEq, Repr

namespace RecordField

def all : List RecordField :=
  [.stage, .cause, .message, .details, .recordedAt, .messageId, .messageTime, .targetIndex, .requiresAck]

def key : RecordField → String
  | .stage => "failure_type"
  | .cause => "failure_cause"
  | .message => "message"
  | .details => "failure_details"
  | .recordedAt => "failure_timestamp"
  | .messageId => "message_id"
  | .messageTime => "message_timestamp"
  | .targetIndex => "target_index"
  | .requiresAck => "requires_acknowledgement"

def ofKey? (key : String) : Option RecordField :=
  all.find? fun f => f.key == key

def isOptional (f : RecordField) : Bool :=
  f = .messageTime ∨ f = .targetIndex

end RecordField

inductive RecordError where
  | unknownStage (name : String)
  | duplicateField (field : RecordField)
  | missingField (field : RecordField)
  /-- An array ends after this many fields. -/
  | tooFewFields (count : Nat)
  | time (e : TimeError)
deriving DecidableEq, Repr

def RecordError.message : RecordError → String
  | .unknownStage name =>
    "unknown variant `" ++ name ++ "`, expected one of " ++
      String.intercalate ", " (Stage.all.map fun s => "`" ++ s.wireName ++ "`")
  | .duplicateField f => "duplicate field `" ++ f.key ++ "`"
  | .missingField f => "missing field `" ++ f.key ++ "`"
  | .tooFewFields n =>
    "invalid length " ++ toString n ++ ", expected struct Failure with 9 elements"
  | .time e => e.message

/-- The result of reading a part of a record. -/
abbrev Decoded (α : Type) := Except (DecodeError RecordError) α

def decodeText {α : Type} (decode : Value → Decoded α) (text : String) : Decoded α := do
  let (v, alone) := Value.ofText text.toList
  let a ← decode v
  if alone then pure a else .error .malformed

namespace Decoded

def string : Value → Decoded String
  | .string (some s) => .ok s
  | v => .error (v.refuse "a string")

def bool : Value → Decoded Bool
  | .bool b => .ok b
  | v => .error (v.refuse "a boolean")

def instant : Value → Decoded Instant
  | .string (some s) => (Instant.ofText s.toList).mapError fun e => .unfit (.time e)
  | v => .error (v.refuse "an RFC 3339 formatted date and time string")

def optional {α : Type} (decode : Value → Decoded α) : Value → Decoded (Option α)
  | .null => .ok none
  | v => (decode v).map some

end Decoded

namespace Stage

def toJson (s : Stage) : Value :=
  .ofString s.wireName

def named (name : String) : Decoded Stage :=
  match Stage.ofWireName? name with
  | some s => .ok s
  | none => .error (.unfit (.unknownStage name))

/-- A stage is its name, or an object with the name as its only key and null as the value. -/
def ofJson : Value → Decoded Stage
  | .string (some name) => named name
  | .object ((some name, v) :: rest) closed => do
    let s ← named name
    match v with
    | .null => if rest.isEmpty && closed then .ok s else .error .malformed
    | v => .error (v.refuse "unit")
  | _ => .error .malformed

end Stage

/-- The JSON form of a cause is its label. -/
def Cause.toJson (c : Cause) : Value :=
  .ofString c.label

def Cause.ofJson (v : Value) : Decoded Cause :=
  (Decoded.string v).map Cause.mk

/-- The fields of a record that have been read. -/
structure RecordDraft where
  stage : Option Stage := none
  cause : Option Cause := none
  message : Option String := none
  details : Option String := none
  recordedAt : Option Instant := none
  messageId : Option String := none
  messageTime : Option (Option Instant) := none
  targetIndex : Option (Option String) := none
  requiresAck : Option Bool := none

namespace RecordDraft

def has (d : RecordDraft) : RecordField → Bool
  | .stage => d.stage.isSome
  | .cause => d.cause.isSome
  | .message => d.message.isSome
  | .details => d.details.isSome
  | .recordedAt => d.recordedAt.isSome
  | .messageId => d.messageId.isSome
  | .messageTime => d.messageTime.isSome
  | .targetIndex => d.targetIndex.isSome
  | .requiresAck => d.requiresAck.isSome

def read (d : RecordDraft) (v : Value) : RecordField → Decoded RecordDraft
  | .stage => (Stage.ofJson v).map fun x => { d with stage := some x }
  | .cause => (Cause.ofJson v).map fun x => { d with cause := some x }
  | .message => (Decoded.string v).map fun x => { d with message := some x }
  | .details => (Decoded.string v).map fun x => { d with details := some x }
  | .recordedAt => (Decoded.instant v).map fun x => { d with recordedAt := some x }
  | .messageId => (Decoded.string v).map fun x => { d with messageId := some x }
  | .messageTime =>
    (Decoded.optional Decoded.instant v).map fun x => { d with messageTime := some x }
  | .targetIndex =>
    (Decoded.optional Decoded.string v).map fun x => { d with targetIndex := some x }
  | .requiresAck => (Decoded.bool v).map fun x => { d with requiresAck := some x }

/-- Reads members in order. The value of an unknown key only has to be well written. -/
def readMembers : List (Option String × Value) → RecordDraft → Decoded RecordDraft
  | [], d => .ok d
  | (some key, v) :: rest, d =>
    match RecordField.ofKey? key with
    | none => if v.isWhole then readMembers rest d else .error .malformed
    | some f =>
      if d.has f then .error (.unfit (.duplicateField f))
      else do readMembers rest (← d.read v f)
  | _ :: _, _ => .error .malformed

/-- Reads the fields from the items of an array. Only optional fields may lack an item. -/
def readItems (closed : Bool) : List RecordField → List Value → RecordDraft → Decoded RecordDraft
  | [], rest, d => if rest.isEmpty && closed then .ok d else .error .malformed
  | f :: fields, [], d =>
    if !closed then .error .malformed
    else if f.isOptional then readItems closed fields [] d
    else .error (.unfit (.tooFewFields (RecordField.all.length - fields.length - 1)))
  | f :: fields, v :: rest, d => do readItems closed fields rest (← d.read v f)

/-- A field that no record may lack. -/
def need {α : Type} (field : RecordField) : Option α → Decoded α
  | some a => .ok a
  | none => .error (.unfit (.missingField field))

/-- The record of all fields. The first field that is missing is reported. -/
def failure (d : RecordDraft) : Decoded Failure := do
  pure { stage := ← need .stage d.stage
         cause := ← need .cause d.cause
         message := ← need .message d.message
         details := ← need .details d.details
         recordedAt := ← need .recordedAt d.recordedAt
         messageId := ← need .messageId d.messageId
         messageTime := d.messageTime.getD none
         targetIndex := d.targetIndex.getD none
         requiresAck := ← need .requiresAck d.requiresAck }

end RecordDraft

namespace Failure

/-- The members of a record that are present, in the order of the fields. -/
def toJson (f : Failure) : Value :=
  .ofMembers (
    [(RecordField.stage.key, f.stage.toJson),
     (RecordField.cause.key, f.cause.toJson),
     (RecordField.message.key, .ofString f.message),
     (RecordField.details.key, .ofString f.details),
     (RecordField.recordedAt.key, .ofString (String.ofList f.recordedAt.text)),
     (RecordField.messageId.key, .ofString f.messageId)] ++
    (f.messageTime.map fun t => (RecordField.messageTime.key, Value.ofString (String.ofList t.text))).toList ++
    (f.targetIndex.map fun i => (RecordField.targetIndex.key, Value.ofString i)).toList ++
    [(RecordField.requiresAck.key, .bool f.requiresAck)])

def ofJson : Value → Decoded Failure
  | .object members closed => do
    let d ← RecordDraft.readMembers members {}
    if closed then d.failure else .error .malformed
  | .array items closed => do
    (← RecordDraft.readItems closed RecordField.all items {}).failure
  | v => .error (v.refuse "struct Failure")

def jsonText (f : Failure) : String :=
  String.ofList f.toJson.text

def ofJsonText (text : String) : Decoded Failure :=
  decodeText ofJson text

end Failure

end FailureIntake
