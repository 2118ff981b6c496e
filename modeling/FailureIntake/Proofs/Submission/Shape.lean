import FailureIntake.Proofs.Submission.Acknowledgement
import FailureIntake.Proofs.Submission.Concurrency

/-! The shape of what the service hands over. Consumers tell records apart by their stage, so a
stage decides which optional parts a record has, and only indexing errors share a batch. The shape
is shown for every batch that is handed to the queue, accepted or not. -/
namespace FailureIntake

open Program Act Service

/-- The stage of a record says which of its optional parts are present. -/
structure Failure.Consistent (f : Failure) : Prop where
  targetIndex : f.targetIndex.isSome ↔ f.stage = .indexing
  messageTime : f.messageTime.isSome ↔ f.stage = .input
  requiresAck : f.requiresAck = true → f.stage = .processing

/-- The record names its message, in a field and between quotes in its text. -/
structure Failure.NamesMessage (f : Failure) : Prop where
  nonempty : f.messageId ≠ ""
  quoted : ∃ before after, f.message = before ++ "'" ++ f.messageId ++ "'" ++ after

structure Failure.WellFormed (f : Failure) : Prop where
  consistent : f.Consistent
  named : f.NamesMessage
  inputCause : f.stage = .input → f.cause.label = "InputParseError"

structure Batch.WellShaped (b : Batch) : Prop where
  first : b.failures[0]? = some b.first
  sameStage : ∀ f ∈ b.failures, f.stage = b.primaryStage
  alone : b.primaryStage ≠ .indexing → b.failures.length = 1
  failures : ∀ f ∈ b.failures, f.WellFormed

namespace Service

variable {f : Failure}

theorem IsRejection.wellFormed {e : IndexingError} (rejection : IsRejection e f) : f.WellFormed where
  consistent := ⟨by simp [rejection.targetIndex, rejection.stage],
    by simp [rejection.messageTime, rejection.stage], by simp [rejection.requiresAck]⟩
  named := ⟨rejection.messageId.nonempty, "Failed to index message with id ",
    " targeting '" ++ e.targetIndex ++ "'", by simp [rejection.message, ← String.toList_inj]⟩
  inputCause := by simp [rejection.stage]

theorem IsRecord.wellFormed {m : Message} {e : ProcessingError} {requiresAck : Bool}
    (record : IsRecord m e requiresAck f) : f.WellFormed where
  consistent := ⟨by simp [record.targetIndex, record.stage], by simp [record.messageTime, record.stage],
    fun _ => record.stage⟩
  named := ⟨record.messageId.nonempty, "Failed to process message with id ", ": " ++ e.message, by
    simp [record.message, ← String.toList_inj]⟩
  inputCause := by simp [record.stage]

theorem IsInputRecord.wellFormed {text : String} {raw : RawMessage} {inputId : String}
    (record : IsInputRecord text raw inputId f) : f.WellFormed where
  consistent := ⟨by simp [record.targetIndex, record.stage], by simp [record.messageTime, record.stage],
    by simp [record.requiresAck]⟩
  named := ⟨record.messageId ▸ raw.id.text_ne_empty, "Failed to process message with id ",
    " from input with id '" ++ inputId ++ "': " ++ text, by
      simp [record.message, ← String.toList_inj]⟩
  inputCause := fun _ => record.cause

end Service

namespace Batch

theorem failures_head? (b : Batch) : b.failures[0]? = some b.first := by
  rw [← List.head?_eq_getElem?, List.head?_eq_some_head b.ne_nil]
  rfl

theorem WellShaped.ofAlone {b : Batch} {f : Failure} (alone : b.failures = [f])
    (wellFormed : f.WellFormed) : b.WellShaped := by
  have same : ∀ g ∈ b.failures, g = f := by simp [alone]
  exact
    { first := b.failures_head?
      sameStage := fun g member => by rw [same g member, primaryStage, same _ b.first_mem]
      alone := fun _ => congrArg List.length alone
      failures := fun g member => same g member ▸ wellFormed }

theorem WellShaped.ofIndexing {b : Batch} (stages : ∀ f ∈ b.failures, f.stage = .indexing)
    (wellFormed : ∀ f ∈ b.failures, f.WellFormed) : b.WellShaped where
  first := b.failures_head?
  sameStage := fun f member => (stages f member).trans (stages b.first b.first_mem).symm
  alone := fun other => absurd (stages b.first b.first_mem) other
  failures := wellFormed

end Batch

theorem Call.Builds.wellShaped {c : Call} {b : Batch} (builds : c.Builds b) : b.WellShaped := by
  cases c with
  | indexing errors =>
    apply Batch.WellShaped.ofIndexing
    · intro f member
      obtain ⟨e, _, rejection⟩ := exists_recorded builds member
      exact rejection.stage
    · intro f member
      obtain ⟨e, _, rejection⟩ := exists_recorded builds member
      exact rejection.wellFormed
  | input e inputId =>
    obtain ⟨f, alone, record, _⟩ := builds
    exact .ofAlone alone record.wellFormed
  | processing m =>
    obtain ⟨e, _, requiresAck, f, alone, record⟩ := builds
    exact .ofAlone alone record.wellFormed
  | unknown m details =>
    obtain ⟨f, alone, record⟩ := builds
    exact .ofAlone alone record.wellFormed

namespace Run

variable {σ α : Type}

/-- The batches that a run handed to the queue, whatever became of them. -/
def handed (r : Run σ α) : List Batch :=
  r.acts.filterMap batch?

end Run

/-- A batch handed over in some run is one that the program could have had accepted: up to that
batch the acts stay, and the rest of the program goes on from an acceptance. -/
theorem Program.yields_of_handed {σ α : Type} {w : World σ} {p : Program α} {s : σ} {b : Batch}
    (handed : b ∈ (p.run w s).handed) :
    ∃ acts result, p.Yields acts result ∧ b ∈ acceptedBatches acts := by
  induction p generalizing s with
  | done a => cases handed
  | readSubmit k ih =>
    obtain ⟨acts, result, yields, member⟩ := ih _ handed
    exact ⟨_, result, .readSubmit yields, member⟩
  | readKeep k ih =>
    obtain ⟨acts, result, yields, member⟩ := ih _ handed
    exact ⟨_, result, .readKeep yields, member⟩
  | evaluate e k ih =>
    obtain ⟨acts, result, yields, member⟩ := ih _ handed
    exact ⟨_, result, .evaluate yields, member⟩
  | stamp k ih =>
    obtain ⟨acts, result, yields, member⟩ := ih _ handed
    exact ⟨acts, result, .stamp yields, member⟩
  | note n k ih =>
    obtain ⟨acts, result, yields, member⟩ := ih handed
    exact ⟨_, result, .note yields, member⟩
  | submit offered k ih =>
    have now : ∃ acts result, Yields (.submit offered k) acts result ∧
        offered ∈ acceptedBatches acts := by
      obtain ⟨acts, result, yields, _⟩ := exists_yields_permitted (k (.ok ()))
      exact ⟨.offered offered (some (.ok ())) [] :: acts, result, .submit yields, List.mem_cons_self⟩
    rcases attempt : w.submit s offered with ⟨_ | answer, notes, s'⟩
    · simp only [Run.handed, Program.run, attempt] at handed
      rw [List.mem_singleton.mp handed]
      exact now
    · simp only [Run.handed, Program.run, attempt] at handed
      rcases List.mem_cons.mp handed with rfl | later
      · exact now
      · obtain ⟨acts, result, yields, member⟩ := ih answer later
        refine ⟨.offered offered (some answer) [] :: acts, result, .submit yields, ?_⟩
        cases answer with
        | error reason => exact member
        | ok => exact List.mem_cons_of_mem _ member

theorem Call.mem_of_runs {σ : Type} {w : World σ} {calls : List Call} {s : σ} {c : Call}
    {run : Run σ (Outcome (Option Decision))} (made : (c, run) ∈ Call.runs w calls s) :
    c ∈ calls ∧ ∃ before, run = c.program.run w before := by
  induction calls generalizing s with
  | nil => cases made
  | cons first rest ih =>
    rcases List.mem_cons.mp made with same | later
    · cases same
      exact ⟨List.mem_cons_self, s, rfl⟩
    · split at later
      · obtain ⟨among, before, same⟩ := ih later
        exact ⟨List.mem_cons_of_mem _ among, before, same⟩
      · cases later

/-- Every batch that any calls hand to any queue has the shape that its consumers rely on, also one
that the queue refuses or leaves waiting. -/
theorem handed_batches_well_shaped {σ : Type} {w : World σ} {calls : List Call} {s : σ} {c : Call}
    {run : Run σ (Outcome (Option Decision))} (made : (c, run) ∈ Call.runs w calls s) :
    ∀ b ∈ run.handed, b.WellShaped := by
  intro b handed
  obtain ⟨_, before, rfl⟩ := Call.mem_of_runs made
  obtain ⟨acts, outcome, yields, accepted⟩ := yields_of_handed handed
  exact (Call.builds_of_yields yields accepted).wellShaped

/-- The record of a raw message is refused, and a batch of two indexing errors is left waiting. -/
theorem shape_of_refused_and_waiting :
    let w : World Nat :=
      { readSubmit := fun n => (false, n), readKeep := fun n => (false, n)
        now := fun n => (⟨0, 0⟩, n)
        submit := fun n _ => ⟨if n = 0 then some (.error .closed) else none, [], n + 1⟩ }
    let m : Message := { supportsFailureHandling := true }
    let raw : RawMessage := ⟨⟨0x6ba7b8109dad, 0x1d1, 0x00b400c04fd430c8⟩, ⟨1, 5⟩, []⟩
    let request : Call := .indexing [⟨m, "logs", .indexBlocked, "x"⟩, ⟨m, "", .unknown, ""⟩]
    let undecoded : Call := .input ⟨"text", none, raw⟩ "in"
    let refused := undecoded.program.run w 0
    let waiting := request.program.run w 1
    (undecoded, refused) ∈ Call.runs w [undecoded, request] 0 ∧
      (request, waiting) ∈ Call.runs w [undecoded, request] 0 ∧
      (refused.handed.map fun b => b.failures.map (·.messageId)) =
        [["6ba7b810-9dad-41d1-80b4-00c04fd430c8"]] ∧
      (∀ b ∈ refused.handed, b.WellShaped) ∧
      (waiting.handed.map fun b => b.failures.map (·.messageId)) = [["UNKNOWN", "UNKNOWN"]] ∧
      ∀ b ∈ waiting.handed, b.WellShaped := by
  intro w m raw request undecoded refused waiting
  have ids : (refused.handed.map fun b => b.failures.map (·.messageId)) =
      [["6ba7b810-9dad-41d1-80b4-00c04fd430c8"]] := by decide +kernel +revert
  have first : (undecoded, refused) ∈ Call.runs w [undecoded, request] 0 := .head _
  have second : (request, waiting) ∈ Call.runs w [undecoded, request] 0 := .tail _ (.head _)
  exact ⟨first, second, ids, handed_batches_well_shaped first, rfl,
    handed_batches_well_shaped second⟩

end FailureIntake
