import FailureIntake.Proofs.Failure.Fields
import FailureIntake.Proofs.Submission.Shape

/-! Records that are read. The ways to build a record leave no choice about its optional parts, but
reading is one more way, and it takes what the text gives. So a record that is read is consistent
just if its text is. -/
namespace FailureIntake

open Json

/-- The name of the stage, or an object with the name as its only key and null as the value. -/
def Stage.IsNamedBy (s : Stage) (v : Value) : Prop :=
  v = .string (some s.wireName) ∨ v = .object [(some s.wireName, .null)] true

namespace Json.Value

/-- The value gives a field something other than null. -/
def Gives (v : Value) (f : RecordField) : Prop :=
  ∃ w, f.given? v = some w ∧ w ≠ .null

def NamesStage (v : Value) (s : Stage) : Prop :=
  ∃ w, RecordField.stage.given? v = some w ∧ s.IsNamedBy w

/-- The stage that a value names says which of the optional parts it gives. -/
structure ConsistentRecord (v : Value) : Prop where
  targetIndex : v.Gives .targetIndex ↔ v.NamesStage .indexing
  messageTime : v.Gives .messageTime ↔ v.NamesStage .input
  requiresAck : RecordField.requiresAck.given? v = some (.bool true) → v.NamesStage .processing

end Json.Value

theorem Stage.ofWireName?_eq_some {name : String} {s : Stage} :
    ofWireName? name = some s ↔ name = s.wireName := by
  constructor
  · intro found
    have same := List.find?_some found
    exact (beq_iff_eq.mp same).symm
  · rintro rfl
    cases s <;> decide

theorem Stage.named_eq_ok {name : String} {s : Stage} : named name = .ok s ↔ name = s.wireName := by
  rw [← ofWireName?_eq_some, named]
  cases ofWireName? name <;> simp

theorem Stage.ofJson_eq_ok {v : Value} {s : Stage} : ofJson v = .ok s ↔ s.IsNamedBy v := by
  constructor
  · intro read
    unfold ofJson at read
    split at read
    · next name =>
      rw [named_eq_ok.mp read]
      exact .inl rfl
    · next name w rest closed =>
      obtain ⟨t, found, read⟩ := Decoded.bind_eq_ok.mp read
      split at read
      · split at read
        · next alone =>
          cases read
          rw [Bool.and_eq_true, List.isEmpty_iff] at alone
          obtain ⟨rfl, rfl⟩ := alone
          rw [named_eq_ok.mp found]
          exact .inr rfl
        · cases read
      · cases read
    · cases read
  · rintro (rfl | rfl) <;> cases s <;> rfl

theorem Decoded.bool_eq_ok {v : Value} {b : Bool} : bool v = .ok b ↔ v = .bool b := by
  cases v <;> simp [bool]

/-- An optional part is absent just if it is null. -/
theorem Decoded.isSome_of_optional {α : Type} {decode : Value → Decoded α} {v : Value} {o : Option α}
    (read : optional decode v = .ok o) : o.isSome ↔ v ≠ .null := by
  unfold optional at read
  split at read
  · cases read
    simp
  · next present =>
    cases given : decode v with
    | error e => simp [given, Except.map] at read
    | ok a =>
      rw [given] at read
      cases read
      simpa using present

theorem RecordDraft.isSome_of_filled {α : Type} {decode : Value → Decoded α} {given : Option Value}
    {held : Option (Option α)}
    (filled : match given with
      | none => held = none
      | some v => ∃ o, Decoded.optional decode v = .ok o ∧ held = some o) :
    (held.getD none).isSome ↔ ∃ v, given = some v ∧ v ≠ .null := by
  cases given with
  | none => simp [filled]
  | some v =>
    obtain ⟨o, read, rfl⟩ := filled
    simpa using Decoded.isSome_of_optional read

/-- What a record that is read has and is, the value gives and names. -/
theorem Failure.ofJson_parts {v : Value} {f : Failure} (read : ofJson v = .ok f) :
    (∀ s, f.stage = s ↔ v.NamesStage s) ∧
      (f.targetIndex.isSome ↔ v.Gives .targetIndex) ∧ (f.messageTime.isSome ↔ v.Gives .messageTime) ∧
      (f.requiresAck = true ↔ RecordField.requiresAck.given? v = some (.bool true)) := by
  obtain ⟨d, complete, filled⟩ := ofJson_filled read
  obtain ⟨stage, messageTime, targetIndex, requiresAck⟩ := RecordDraft.failure_eq_ok complete
  refine ⟨fun s => ?_, ?_, ?_, ?_⟩
  · have stageFilled := filled .stage
    unfold Value.NamesStage
    unfold RecordDraft.Filled at stageFilled
    cases given : RecordField.stage.given? v with
    | none =>
      rw [given] at stageFilled
      cases stage.symm.trans stageFilled
    | some w =>
      rw [given] at stageFilled
      obtain ⟨t, named, held⟩ := stageFilled
      cases stage.symm.trans held
      have names := Stage.ofJson_eq_ok.mp named
      constructor
      · rintro rfl
        exact ⟨w, rfl, names⟩
      · rintro ⟨_, ⟨⟩, other⟩
        exact Except.ok.inj (named.symm.trans (Stage.ofJson_eq_ok.mpr other))
  · rw [targetIndex]
    exact RecordDraft.isSome_of_filled (filled .targetIndex)
  · rw [messageTime]
    exact RecordDraft.isSome_of_filled (filled .messageTime)
  · have ackFilled := filled .requiresAck
    unfold RecordDraft.Filled at ackFilled
    cases given : RecordField.requiresAck.given? v with
    | none =>
      rw [given] at ackFilled
      cases requiresAck.symm.trans ackFilled
    | some w =>
      rw [given] at ackFilled
      obtain ⟨b, decoded, held⟩ := ackFilled
      cases requiresAck.symm.trans held
      rw [Decoded.bool_eq_ok.mp decoded]
      simp

/-- A record is read from a text just if the text is a value with nothing after it, and the value
gives the record. -/
theorem Failure.ofJsonText_eq_ok {text : String} {f : Failure} :
    ofJsonText text = .ok f ↔ ∃ v, Value.ofText text.toList = (v, true) ∧ ofJson v = .ok f := by
  rw [ofJsonText, decodeText]
  rcases Value.ofText text.toList with ⟨v, alone⟩
  dsimp only
  rw [Decoded.bind_eq_ok]
  cases alone <;> simp [pure, Except.pure]

theorem Failure.ofJson_of_ofJsonText {text : String} {f : Failure} (read : ofJsonText text = .ok f) :
    ofJson (Value.ofText text.toList).1 = .ok f := by
  obtain ⟨v, whole, given⟩ := ofJsonText_eq_ok.mp read
  rwa [whole]

/-- A record that is read has the stage that its text names and the optional parts that its text
gives, whether they belong together or not. It is consistent just if its text is. -/
theorem read_record_consistent_iff {text : String} {f : Failure}
    (read : Failure.ofJsonText text = .ok f) :
    let v := (Value.ofText text.toList).1
    (∀ s, f.stage = s ↔ v.NamesStage s) ∧
      (f.targetIndex.isSome ↔ v.Gives .targetIndex) ∧ (f.messageTime.isSome ↔ v.Gives .messageTime) ∧
      (f.requiresAck = true ↔ RecordField.requiresAck.given? v = some (.bool true)) ∧
      (f.Consistent ↔ v.ConsistentRecord) := by
  intro v
  obtain ⟨stage, targetIndex, messageTime, requiresAck⟩ :=
    Failure.ofJson_parts (Failure.ofJson_of_ofJsonText read)
  refine ⟨stage, targetIndex, messageTime, requiresAck, fun consistent => ?_, fun consistent => ?_⟩
  · constructor
    · rw [← targetIndex, ← stage]
      exact consistent.targetIndex
    · rw [← messageTime, ← stage]
      exact consistent.messageTime
    · rw [← requiresAck, ← stage]
      exact consistent.requiresAck
  · constructor
    · rw [targetIndex, stage]
      exact consistent.targetIndex
    · rw [messageTime, stage]
      exact consistent.messageTime
    · rw [requiresAck, stage]
      exact consistent.requiresAck

/-- The array of the fields of a record, with null for the index that it lacks. -/
theorem array_of_an_input_record :
    let text := "[\"INPUT\",\"InputParseError\",\"m\",\"d\",\"2024-05-06T07:08:09Z\",\"id\"," ++
      "\"2024-05-06T07:08:08Z\",null,false]"
    let f : Failure :=
      { stage := .input, cause := ⟨"InputParseError"⟩, message := "m", details := "d",
        recordedAt := ⟨1714979289, 0⟩, messageId := "id", messageTime := some ⟨1714979288, 0⟩,
        targetIndex := none, requiresAck := false }
    let v := (Value.ofText text.toList).1
    Failure.ofJsonText text = .ok f ∧ v.NamesStage .input ∧ v.Gives .messageTime ∧
      ¬ v.Gives .targetIndex ∧ v.ConsistentRecord := by
  intro text f v
  have read : Failure.ofJsonText text = .ok f := by decide +kernel
  obtain ⟨stage, targetIndex, messageTime, _, consistent⟩ := read_record_consistent_iff read
  have whole : f.Consistent := ⟨by decide, by decide, by decide⟩
  exact ⟨read, (stage .input).mp rfl, messageTime.mp rfl, fun given => absurd (targetIndex.mpr given) nofun,
    consistent.mp whole⟩

/-- An input record with an index, without the time of its message, and asking for an
acknowledgement: no way to build a record gives this one, and it is read all the same. -/
theorem inconsistent_record_is_read :
    let text := "\x7b\"failure_type\":\"INPUT\",\"failure_cause\":\"c\",\"message\":\"m\"," ++
      "\"failure_details\":\"d\",\"failure_timestamp\":\"2024-05-06T07:08:09Z\",\"message_id\":\"id\"," ++
      "\"target_index\":\"i\",\"requires_acknowledgement\":true\x7d"
    let f : Failure :=
      { stage := .input, cause := ⟨"c"⟩, message := "m", details := "d",
        recordedAt := ⟨1714979289, 0⟩, messageId := "id", messageTime := none,
        targetIndex := some "i", requiresAck := true }
    Failure.ofJsonText text = .ok f ∧ ¬ (f.targetIndex.isSome ↔ f.stage = .indexing) ∧
      ¬ (f.messageTime.isSome ↔ f.stage = .input) ∧ ¬ (f.requiresAck = true → f.stage = .processing) := by
  decide +kernel

end FailureIntake
