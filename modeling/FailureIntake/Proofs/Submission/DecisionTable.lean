import FailureIntake.Proofs.Submission.Filing

/-! The decision table for messages with processing errors: what the queue receives and what the
caller is told, for every policy and every queue that answers. -/
namespace FailureIntake

open Program Act

namespace Service

variable {σ : Type} {m : Message}

theorem first_question (w : World σ) (s : σ) (some_error : m.errors ≠ []) :
    ((submitProcessingErrors m).run w s).acts[0]? = some (.readSubmit (w.readSubmit s).1) := by
  unfold submitProcessingErrors
  split
  · contradiction
  · rfl

theorem second_question (w : World σ) (s : σ) (some_error : m.errors ≠ [])
    (enabled : (w.readSubmit s).1 = true) (supports : m.supportsFailureHandling = true) :
    ((submitProcessingErrors m).run w s).acts[1]? =
      some (.readKeep (w.readKeep (w.readSubmit s).2).1) := by
  unfold submitProcessingErrors
  split
  · contradiction
  · simp only [Program.run, enabled, supports]
    rfl

/-- The decision table, over what the policy answers or would answer to its two questions. The
acts show which batches were offered and how the queue answered each of them. -/
structure DecisionTable (m : Message) (enabled keep : Bool) (acts : List Act)
    (outcome : Outcome Decision) : Prop where
  unasked : m.errors = [] → questions acts = []
  skipped : m.errors = [] ∨ enabled = false ∨ m.supportsFailureHandling = false →
    offers acts = [] ∧ outcome = .ok .keep
  /-- Each error alone, up to the first refusal or the last error. -/
  kept : enabled = true → m.supportsFailureHandling = true → keep = true →
    List.Forall₂ (fun e offer => Records m false e offer.1)
      (m.errors.take (offers acts).length) (offers acts) ∧
    (((offers acts).length = m.errors.length ∧
        (∀ offer ∈ offers acts, offer.2 = some (.ok ())) ∧ outcome = .ok .keep) ∨
      ∃ before b reason, offers acts = before ++ [(b, some (.error reason))] ∧
        (∀ offer ∈ before, offer.2 = some (.ok ())) ∧ outcome = .error ⟨.processing, reason⟩)
  /-- The first error alone, which decides about the message. -/
  dropped : ∀ e rest, m.errors = e :: rest → enabled = true → m.supportsFailureHandling = true →
    keep = false → ∃ b answer, offers acts = [(b, some answer)] ∧ Records m true e b ∧
      (answer = .ok () → outcome = .ok .filterOut) ∧
      ∀ reason, answer = .error reason → outcome = .error ⟨.processing, reason⟩

theorem FiledEach.kept {fs : List Filing} {result : Outcome Unit}
    (filed : FiledEach m m.errors fs result) :
    List.Forall₂ (fun e offer => Records m false e offer.1)
      (m.errors.take fs.length) (fs.map fun f => (f.batch, some f.answer)) ∧
    ((fs.length = m.errors.length ∧
        (∀ offer ∈ fs.map fun f => (f.batch, some f.answer), offer.2 = some (.ok ())) ∧
        result.map (fun _ => Decision.keep) = .ok .keep) ∨
      ∃ before b reason,
        (fs.map fun f => (f.batch, some f.answer)) = before ++ [(b, some (.error reason))] ∧
        (∀ offer ∈ before, offer.2 = some (.ok ())) ∧
        result.map (fun _ => Decision.keep) = .error ⟨.processing, reason⟩) := by
  obtain ⟨records, stopped⟩ := filed.upToRefusal
  constructor
  · exact List.forall₂_map_right_iff.mpr records
  · rcases stopped with ⟨all, accepted, rfl⟩ | ⟨before, last, reason, rfl, accepted, refusal, rfl⟩
    · exact .inl ⟨all, by simpa using accepted, rfl⟩
    · refine .inr ⟨before.map fun f => (f.batch, some f.answer), last.batch, reason, ?_, ?_, rfl⟩
      · simp [refusal]
      · simpa using accepted

/-- The row of a message that is to be dropped, for an offer of its first error alone. -/
theorem DecisionTable.ofFirst {e : ProcessingError} {rest : List ProcessingError} {f : Filing}
    {acts : List Act} {outcome : Outcome Decision} (recorded : m.errors = e :: rest)
    (supports : m.supportsFailureHandling = true) (records : Records m true e f.batch)
    (offered : offers acts = [(f.batch, some f.answer)])
    (accepted : f.answer = .ok () → outcome = .ok .filterOut)
    (refused : ∀ reason, f.answer = .error reason → outcome = .error ⟨.processing, reason⟩) :
    DecisionTable m true false acts outcome := by
  have some_error : m.errors ≠ [] := by simp [recorded]
  refine ⟨fun none => absurd none some_error, ?_, ?_, ?_⟩
  · simp [some_error, supports]
  · intro _ _ keep
    cases keep
  · intro e' rest' recorded' _ _ _
    obtain ⟨rfl, rfl⟩ := List.cons.inj (recorded.symm.trans recorded')
    exact ⟨f.batch, f.answer, offered, records, accepted, refused⟩

/-- A message is handled by the table, if the acts show the policy's answers. -/
theorem Handled.table {enabled keep : Bool} {acts : List Act} {outcome : Outcome Decision}
    (handled : Handled m acts outcome)
    (first : m.errors ≠ [] → acts[0]? = some (.readSubmit enabled))
    (second : m.errors ≠ [] → enabled = true → m.supportsFailureHandling = true →
      acts[1]? = some (.readKeep keep)) :
    DecisionTable m enabled keep acts outcome := by
  cases handled with
  | clean none =>
    refine ⟨fun _ => rfl, fun _ => ⟨rfl, rfl⟩, fun _ _ _ => ?_, ?_⟩
    · exact ⟨.nil, .inl ⟨by rw [none]; rfl, nofun, rfl⟩⟩
    · intro e rest recorded
      rw [none] at recorded
      cases recorded
  | disabled some_error =>
    cases first some_error
    refine ⟨fun none => absurd none some_error, fun _ => ⟨rfl, rfl⟩, ?_, ?_⟩
    · intro enabled
      cases enabled
    · intro _ _ _ enabled
      cases enabled
  | unsupported some_error unsupported =>
    have never : m.supportsFailureHandling ≠ true := by simp [unsupported]
    exact ⟨fun none => absurd none some_error, fun _ => ⟨rfl, rfl⟩,
      fun _ supports => absurd supports never, fun _ _ _ _ supports => absurd supports never⟩
  | @kept fs result some_error supports filed =>
    cases first some_error
    cases second some_error rfl supports
    refine ⟨fun none => absurd none some_error, ?_, fun _ _ _ => ?_, ?_⟩
    · simp [some_error, supports]
    · have shape : offers (.readSubmit true :: .readKeep true :: fs.flatMap Filing.caused) = _ :=
        Filing.offers_flatMap_caused fs
      rw [shape, List.length_map]
      exact filed.kept
    · intro _ _ _ _ _ keep
      cases keep
  | @dropped e rest f entry recorded supports records acceptance =>
    have some_error : m.errors ≠ [] := by simp [recorded]
    cases first some_error
    cases second some_error rfl supports
    refine .ofFirst recorded supports records ?_ (fun _ => rfl) ?_
    · rw [offers_append]
      exact congrArg (· ++ []) f.offers_caused
    · intro reason refusal
      cases acceptance.symm.trans refusal
  | @refused e rest f reason recorded supports records refusal =>
    have some_error : m.errors ≠ [] := by simp [recorded]
    cases first some_error
    cases second some_error rfl supports
    refine .ofFirst recorded supports records f.offers_caused ?_ ?_
    · intro acceptance
      cases refusal.symm.trans acceptance
    · intro other refused
      cases refusal.symm.trans refused
      rfl

theorem processing_decision_table {w : World σ} (answers : w.Answers) (s : σ) (m : Message) :
    ∃ outcome,
      ((submitProcessingErrors m).run w s).progress = .finished outcome ∧
      DecisionTable m (w.readSubmit s).1 (w.readKeep (w.readSubmit s).2).1
        ((submitProcessingErrors m).run w s).acts outcome := by
  obtain ⟨outcome, finished⟩ := answers.returns (submitProcessingErrors m) s
  have handled := yields_submitProcessingErrors (yields_of_run finished)
  exact ⟨outcome, finished, handled.table (first_question w s) (second_question w s)⟩

/-- Of three errors, the second is refused and the third is not offered. The message has no id of its
own, so the generic one names it. If duplicates are not kept, the first error is offered alone. -/
theorem table_of_a_refused_error :
    let w : Bool → World Nat := fun keep =>
      { readSubmit := fun n => (true, n), readKeep := fun n => (keep, n)
        now := fun n => (⟨0, 0⟩, n)
        submit := fun n _ => ⟨some (if n = 0 then .ok () else .error .closed), [], n + 1⟩ }
    let m : Message :=
      { id := "m", messageId := some "", supportsFailureHandling := true
        errors := [⟨⟨"a"⟩, "1", "x"⟩, ⟨⟨"b"⟩, "2", "y"⟩, ⟨⟨"c"⟩, "3", "z"⟩] }
    let kept := ((submitProcessingErrors m).run (w true) 0).acts
    let dropped := ((submitProcessingErrors m).run (w false) 0).acts
    let records := fun acts : List Act => (offers acts).flatMap fun offer =>
      offer.1.failures.map fun f => (f.cause.label, f.messageId, f.message, f.requiresAck)
    (∀ keep, (w keep).Answers) ∧
      DecisionTable m true true kept (.error ⟨.processing, .closed⟩) ∧
      records kept = [("a", "m", "Failed to process message with id 'm': 1", false),
        ("b", "m", "Failed to process message with id 'm': 2", false)] ∧
      DecisionTable m true false dropped (.ok .filterOut) ∧
      records dropped = [("a", "m", "Failed to process message with id 'm': 1", true)] := by
  intro w m kept dropped records
  have answers : ∀ keep, (w keep).Answers := fun _ _ _ => rfl
  obtain ⟨_, refused, table⟩ := processing_decision_table (answers true) 0 m
  obtain ⟨_, accepted, first⟩ := processing_decision_table (answers false) 0 m
  have closed : ((submitProcessingErrors m).run (w true) 0).progress =
      .finished (.error ⟨.processing, .closed⟩) := rfl
  have out : ((submitProcessingErrors m).run (w false) 0).progress = .finished (.ok .filterOut) := rfl
  cases refused.symm.trans closed
  cases accepted.symm.trans out
  exact ⟨answers, table, rfl, first, rfl⟩

end Service

end FailureIntake
