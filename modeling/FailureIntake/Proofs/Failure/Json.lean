import FailureIntake.Failure.Json
import FailureIntake.Proofs.Instant.Rfc3339
import FailureIntake.Proofs.Json.RoundTrip
import Mathlib.Data.List.Basic

/-! Records survive their JSON text. -/
namespace FailureIntake

open Json

theorem RecordField.ofKey?_key (field : RecordField) : ofKey? field.key = some field := by
  cases field <;> decide

theorem Stage.ofJson_toJson (s : Stage) : ofJson s.toJson = .ok s := by
  cases s <;> rfl

theorem Decoded.instant_text {t : Instant} (inRange : t.InRange) :
    instant (.ofString (String.ofList t.text)) = .ok t := by
  simp only [instant, Value.ofString, String.toList_ofList, Instant.ofText_text inRange]
  rfl

theorem Decoded.optional_ofString {α : Type} (decode : Value → Decoded α) (s : String) :
    optional decode (.ofString s) = (decode (.ofString s)).map some :=
  rfl

namespace RecordDraft

variable {d e : RecordDraft} {field : RecordField} {v : Value} {rest : List (Option String × Value)}

theorem readMembers_field (fresh : d.has field = false) (read : d.read v field = .ok e) :
    readMembers ((some field.key, v) :: rest) d = readMembers rest e := by
  simp only [readMembers, RecordField.ofKey?_key, fresh, read]
  rfl

/-- An optional field has a member just if it is present. -/
theorem readMembers_optional {α : Type} (field : RecordField) (json : α → Value)
    (draft : Option α → RecordDraft) (o : Option α) (rest : List (Option String × Value))
    (fresh : (draft none).has field = false)
    (read : ∀ a ∈ o, (draft none).read (json a) field = .ok (draft (some a))) :
    readMembers ((o.map fun a => (some field.key, json a)).toList ++ rest) (draft none) =
      readMembers rest (draft o) := by
  cases o with
  | none => rfl
  | some a => exact readMembers_field fresh (read a rfl)

end RecordDraft

namespace Failure

/-- The members of the fields that come before the optional ones. -/
def leadingMembers (f : Failure) : List (Option String × Value) :=
  [(some RecordField.stage.key, f.stage.toJson),
   (some RecordField.cause.key, f.cause.toJson),
   (some RecordField.message.key, .ofString f.message),
   (some RecordField.details.key, .ofString f.details),
   (some RecordField.recordedAt.key, .ofString (String.ofList f.recordedAt.text)),
   (some RecordField.messageId.key, .ofString f.messageId)]

/-- The members of a record as a reader meets them. -/
def members (f : Failure) : List (Option String × Value) :=
  f.leadingMembers ++
  ((f.messageTime.map fun t => (some RecordField.messageTime.key, .ofString (String.ofList t.text))).toList ++
  ((f.targetIndex.map fun i => (some RecordField.targetIndex.key, .ofString i)).toList ++
  [(some RecordField.requiresAck.key, .bool f.requiresAck)]))

theorem toJson_eq (f : Failure) : f.toJson = .object f.members true := by
  simp [toJson, Value.ofMembers, members, leadingMembers, Option.toList_map, Function.comp_def]

theorem exact_toJson (f : Failure) : f.toJson.Exact := by
  have strings : ∀ s : String, (Value.ofString s).Exact := .string
  apply Value.Exact.ofMembers
  simp only [List.forall_mem_append, List.forall_mem_cons, Option.mem_toList, Option.map_eq_some_iff]
  refine ⟨⟨⟨⟨strings _, strings _, strings _, strings _, strings _, strings _, nofun⟩, ?_⟩, ?_⟩,
    .bool _, nofun⟩
  · rintro _ ⟨t, -, rfl⟩
    exact strings _
  · rintro _ ⟨i, -, rfl⟩
    exact strings _

/-- The draft of a record that has been read as a whole. -/
def draft (f : Failure) : RecordDraft where
  stage := some f.stage
  cause := some f.cause
  message := some f.message
  details := some f.details
  recordedAt := some f.recordedAt
  messageId := some f.messageId
  messageTime := f.messageTime.map some
  targetIndex := f.targetIndex.map some
  requiresAck := some f.requiresAck

theorem failure_draft (f : Failure) : f.draft.failure = .ok f := by
  obtain ⟨_, _, _, _, _, _, _ | _, _ | _, _⟩ := f <;> rfl

theorem readMembers_leading {f : Failure} (recorded : f.recordedAt.InRange)
    (rest : List (Option String × Value)) :
    RecordDraft.readMembers (f.leadingMembers ++ rest) {} = RecordDraft.readMembers rest
      { f.draft with messageTime := none, targetIndex := none, requiresAck := none } := by
  simp only [leadingMembers, List.cons_append, List.nil_append]
  rw [RecordDraft.readMembers_field rfl (by rw [RecordDraft.read, Stage.ofJson_toJson]; rfl),
    RecordDraft.readMembers_field rfl rfl, RecordDraft.readMembers_field rfl rfl,
    RecordDraft.readMembers_field rfl rfl,
    RecordDraft.readMembers_field rfl (by rw [RecordDraft.read, Decoded.instant_text recorded]; rfl),
    RecordDraft.readMembers_field rfl rfl]
  rfl

theorem readMembers_members {f : Failure} (recorded : f.recordedAt.InRange)
    (times : ∀ t ∈ f.messageTime, t.InRange) :
    RecordDraft.readMembers f.members {} = .ok f.draft := by
  have messageTime (rest : List (Option String × Value)) :=
    RecordDraft.readMembers_optional .messageTime (fun t => .ofString (String.ofList t.text))
      (fun t => { f.draft with messageTime := t.map some, targetIndex := none, requiresAck := none })
      f.messageTime rest rfl fun t given => by
        rw [RecordDraft.read, Decoded.optional_ofString, Decoded.instant_text (times t given)]
        rfl
  have targetIndex (rest : List (Option String × Value)) :=
    RecordDraft.readMembers_optional .targetIndex Value.ofString
      (fun i => { f.draft with targetIndex := i.map some, requiresAck := none })
      f.targetIndex rest rfl fun _ _ => rfl
  have requiresAck :
      RecordDraft.readMembers [(some RecordField.requiresAck.key, .bool f.requiresAck)]
          { f.draft with requiresAck := none } = RecordDraft.readMembers [] f.draft :=
    RecordDraft.readMembers_field rfl rfl
  rw [members, readMembers_leading recorded]
  calc _ = _ := messageTime _
    _ = _ := targetIndex _
    _ = _ := requiresAck
    _ = .ok f.draft := rfl

/-- A record whose times can be written is read from its JSON value. -/
theorem ofJson_toJson {f : Failure} (recorded : f.recordedAt.InRange)
    (times : ∀ t ∈ f.messageTime, t.InRange) : ofJson f.toJson = .ok f := by
  rw [toJson_eq, ofJson, readMembers_members recorded times]
  exact failure_draft f

/-- A field has a member just if the record has the field. -/
theorem key_mem_members (f : Failure) (field : RecordField) :
    some field.key ∈ f.members.map Prod.fst ↔ f.draft.has field = true := by
  cases time : f.messageTime <;> cases index : f.targetIndex <;> cases field <;>
    simp [members, leadingMembers, draft, RecordDraft.has, time, index, RecordField.key]

/-- Reading the text of a record gives the record back, and the text has a member for an optional
field just if the field is present. -/
theorem ofJsonText_jsonText {f : Failure} (recorded : f.recordedAt.InRange)
    (times : ∀ t ∈ f.messageTime, t.InRange) :
    ofJsonText f.jsonText = .ok f ∧
      ∃ members, Value.ofText f.jsonText.toList = (.object members true, true) ∧
        (some "message_timestamp" ∈ members.map Prod.fst ↔ f.messageTime.isSome) ∧
        (some "target_index" ∈ members.map Prod.fst ↔ f.targetIndex.isSome) := by
  have read : Value.ofText f.jsonText.toList = (f.toJson, true) := by
    rw [jsonText, String.toList_ofList]
    exact f.exact_toJson.ofText_text
  have time := f.key_mem_members .messageTime
  have index := f.key_mem_members .targetIndex
  simp only [RecordDraft.has, draft, Option.isSome_map] at time index
  refine ⟨?_, f.members, ?_, time, index⟩
  · simp only [ofJsonText, decodeText, read, ofJson_toJson recorded times]
    rfl
  · rw [read, toJson_eq]

/-- A leap second, the first year that can be written, and characters of every kind of escape. -/
theorem ofJsonText_of_leap_second :
    let f : Failure :=
      { stage := .input, cause := ⟨"a\"b\\c"⟩, message := "line\n\x01tab\t", details := "",
        recordedAt := ⟨1483228799, 1500000000⟩, messageId := "😀",
        messageTime := some ⟨Instant.minSecs, 1000⟩, targetIndex := none, requiresAck := true }
    f.recordedAt.InRange ∧ (∀ t ∈ f.messageTime, t.InRange) ∧
      f.recordedAt.text = "2016-12-31T23:59:60.500Z".toList ∧ ofJsonText f.jsonText = .ok f ∧
      ∃ members, Value.ofText f.jsonText.toList = (.object members true, true) ∧
        some "message_timestamp" ∈ members.map Prod.fst ∧
        some "target_index" ∉ members.map Prod.fst := by
  intro f
  have recorded : f.recordedAt.InRange := by decide +kernel
  have times : ∀ t ∈ f.messageTime, t.InRange := by decide +kernel
  obtain ⟨read, members, text, time, index⟩ := ofJsonText_jsonText recorded times
  exact ⟨recorded, times, by decide +kernel, read, members, text, time.mpr rfl, fun member =>
    absurd (index.mp member) nofun⟩

end Failure

end FailureIntake
