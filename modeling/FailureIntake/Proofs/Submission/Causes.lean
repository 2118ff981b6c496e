import FailureIntake.Proofs.Submission.Acknowledgement

/-! Causes on demand. The cause of an error is worked out right before its record is handed to the
queue, and for no other error, so a log that the causes are written to has one entry for each record
of a processing error that was handed over, in their order. -/
namespace FailureIntake

open Program Service

namespace Act

/-- The log of the causes that were worked out. -/
def causes (acts : List Act) : List Cause :=
  acts.filterMap cause?

/-- A cause that is worked out, or a batch that is offered. -/
def pace? : Act → Option (Cause ⊕ Batch × Option QueueAnswer)
  | .evaluated c => some (.inl c)
  | .offered b answer _ => some (.inr (b, answer))
  | _ => none

def paces (acts : List Act) : List (Cause ⊕ Batch × Option QueueAnswer) :=
  acts.filterMap pace?

theorem causes_eq_paces (acts : List Act) : causes acts = (paces acts).filterMap Sum.getLeft? := by
  rw [paces, List.filterMap_filterMap]
  exact List.filterMap_congr fun act _ => by cases act <;> rfl

theorem offers_eq_paces (acts : List Act) : offers acts = (paces acts).filterMap Sum.getRight? := by
  rw [paces, List.filterMap_filterMap]
  exact List.filterMap_congr fun act _ => by cases act <;> rfl

end Act

open Act

namespace Filing

def offer (f : Filing) : Batch × Option QueueAnswer :=
  (f.batch, some f.answer)

theorem paces_acts (f : Filing) : paces f.acts = [.inr f.offer] := by
  rw [acts, offer]
  cases f.answer <;> rfl

theorem paces_flatMap_caused (fs : List Filing) :
    paces (fs.flatMap caused) = (fs.map offer).flatMap fun offer =>
      [.inl offer.1.first.cause, .inr offer] := by
  induction fs with
  | nil => rfl
  | cons f rest ih =>
    have first : paces f.caused = [.inl f.batch.first.cause, .inr f.offer] :=
      congrArg (Sum.inl f.batch.first.cause :: ·) f.paces_acts
    rw [List.flatMap_cons, paces, List.filterMap_append]
    exact congrArg₂ (· ++ ·) first ih

theorem causes_acts (f : Filing) : causes f.acts = [] := by
  rw [causes_eq_paces, paces_acts]
  rfl

theorem question?_caused {f : Filing} {act : Act} (member : act ∈ f.caused) :
    act.question? = none := by
  have filed : ∀ act ∈ f.caused, act.question? = none := by
    rw [caused, acts]
    cases f.answer <;> simp [question?]
  exact filed act member

end Filing

namespace Service

variable {m : Message} {acts : List Act}

/-- What a message with processing errors has handed over, and what was worked out for that. -/
structure OnDemand (m : Message) (acts : List Act) : Prop where
  /-- The records of the first errors are offered, in recorded order. -/
  filed : ∃ requiresAck, List.Forall₂ (fun e offer => Records m requiresAck e offer.1)
    (m.errors.take (offers acts).length) (offers acts)
  /-- A cause is worked out right before the offer of its record. -/
  paced : paces acts =
    (offers acts).flatMap fun offer => [.inl offer.1.first.cause, .inr offer]
  stopped : ∀ before b reason after,
    offers acts = before ++ (b, some (.error reason)) :: after → after = []
  single : .readKeep false ∈ acts → (offers acts).length ≤ 1
  skipped : .readSubmit false ∈ acts ∨ m.supportsFailureHandling = false → offers acts = []

/-- Of the filings of a message, only the last can be refused. -/
theorem OnDemand.ofFilings (requiresAck : Bool) (fs : List Filing)
    (records : List.Forall₂ (fun e f => Records m requiresAck e f.batch) (m.errors.take fs.length) fs)
    (same : paces acts = paces (fs.flatMap Filing.caused))
    (accepted : ∀ f ∈ fs.dropLast, f.answer = .ok ())
    (single : .readKeep false ∈ acts → fs.length ≤ 1)
    (skipped : .readSubmit false ∈ acts ∨ m.supportsFailureHandling = false → fs = []) :
    OnDemand m acts := by
  have offered : offers acts = fs.map Filing.offer := by
    rw [offers_eq_paces, same, ← offers_eq_paces]
    exact Filing.offers_flatMap_caused fs
  refine ⟨⟨requiresAck, ?_⟩, ?_, ?_, ?_, ?_⟩
  · rw [offered, List.length_map, List.forall₂_map_right_iff]
    exact records
  · rw [same, offered]
    exact Filing.paces_flatMap_caused fs
  · intro before b reason after split
    rw [offered] at split
    cases after with
    | nil => rfl
    | cons next rest =>
      have early : (b, some (.error reason)) ∈ (fs.map Filing.offer).dropLast := by
        rw [split, List.dropLast_append_of_ne_nil (List.cons_ne_nil _ _), List.dropLast_cons_cons]
        exact List.mem_append_right _ List.mem_cons_self
      rw [← List.map_dropLast] at early
      obtain ⟨f, member, equal⟩ := List.mem_map.mp early
      have refusal : some f.answer = some (.error reason) := congrArg Prod.snd equal
      rw [accepted f member] at refusal
      cases refusal
  · rw [offered, List.length_map]
    exact single
  · rw [offered, List.map_eq_nil_iff]
    exact skipped

theorem FiledEach.accepted_before {errors : List ProcessingError} {fs : List Filing}
    {result : Outcome Unit} (filed : FiledEach m errors fs result) :
    ∀ f ∈ fs.dropLast, f.answer = .ok () := by
  rcases filed.upToRefusal.2 with ⟨_, accepted, _⟩ | ⟨before, last, _, rfl, accepted, _, _⟩
  · exact fun f member => accepted f (List.dropLast_subset _ member)
  · rw [List.dropLast_concat]
    exact accepted

/-- A message that is to be dropped, with an offer of its first error alone. -/
theorem OnDemand.ofFirst {e : ProcessingError} {rest : List ProcessingError} {f : Filing}
    (notes : List Note) (recorded : m.errors = e :: rest) (supports : m.supportsFailureHandling = true)
    (records : Records m true e f.batch) :
    OnDemand m (.readSubmit true :: .readKeep false :: f.caused ++ notes.map .noted) := by
  have paced : paces (f.caused ++ notes.map .noted) = paces f.caused := by
    simp [paces, pace?]
  have enabled : .readSubmit false ∉ f.caused := fun member => by
    cases Filing.question?_caused member
  refine .ofFilings true [f] ?_ ?_ nofun (fun _ => Nat.le_refl 1) ?_
  · rw [recorded]
    exact .cons records .nil
  · rw [List.flatMap_singleton]
    exact paced
  · simp [supports, enabled]

theorem Handled.onDemand {result : Outcome Decision} (handled : Handled m acts result) :
    OnDemand m acts := by
  cases handled with
  | clean | disabled | unsupported =>
    exact .ofFilings false [] .nil rfl nofun nofun fun _ => rfl
  | @kept fs _ _ supports filed =>
    have unasked (act : Act) (asks : act.question? ≠ none) : act ∉ fs.flatMap Filing.caused := by
      intro member
      obtain ⟨f, _, member⟩ := List.mem_flatMap.mp member
      exact asks (Filing.question?_caused member)
    refine .ofFilings false fs filed.upToRefusal.1 rfl filed.accepted_before ?_ ?_
    · simp [unasked (.readKeep false) nofun]
    · simp [unasked (.readSubmit false) nofun, supports]
  | @dropped e rest f entry recorded supports records =>
    exact .ofFirst [.log entry, .event .messageFilteredOut] recorded supports records
  | @refused e rest f _ recorded supports records =>
    have first := OnDemand.ofFirst [] recorded supports records
    rwa [List.map_nil, List.append_nil] at first

theorem OnDemand.causes_eq (onDemand : OnDemand m acts) :
    causes acts = (m.errors.take (offers acts).length).map (·.cause) := by
  obtain ⟨requiresAck, filed⟩ := onDemand.filed
  have same : List.Forall₂ (· = ·) ((m.errors.take (offers acts).length).map (·.cause))
      ((offers acts).map (·.1.first.cause)) := by
    rw [List.forall₂_map_left_iff, List.forall₂_map_right_iff]
    exact filed.imp fun e offer records => records.first.cause.symm
  rw [List.forall₂_eq_eq_eq] at same
  rw [same, causes_eq_paces, onDemand.paced, List.filterMap_flatMap, List.map_eq_flatMap]
  rfl

end Service

/-- The errors of which a call may hand over the records. -/
def Call.errors : Call → List ProcessingError
  | .processing m => m.errors
  | _ => []

theorem Call.causes_of_yields {c : Call} {acts : List Act} {outcome : Outcome (Option Decision)}
    (h : c.program.Yields acts outcome) :
    causes acts = (c.errors.take (offers acts).length).map (·.cause) := by
  cases c with
  | indexing errors =>
    obtain ⟨result, submitted, rfl⟩ := yields_passed h
    rcases yields_submitIndexingErrors submitted with ⟨_, _, _, rfl⟩ | ⟨f, _, rfl, _⟩
    · rfl
    · exact f.causes_acts.trans (by simp [Call.errors])
  | input e inputId =>
    obtain ⟨result, submitted, rfl⟩ := yields_passed h
    obtain ⟨f, _, rfl, rfl⟩ := yields_submitInputFailure submitted
    rw [causes, List.filterMap_append]
    refine (congrArg (· ++ _) f.causes_acts).trans ?_
    cases f.answer <;> simp [Call.errors, cause?]
  | processing m =>
    obtain ⟨result, submitted, rfl⟩ := yields_passed h
    exact (yields_submitProcessingErrors submitted).onDemand.causes_eq
  | unknown m details =>
    obtain ⟨result, submitted, rfl⟩ := yields_passed h
    obtain ⟨f, _, rfl, rfl⟩ := yields_submitUnknownProcessingError submitted
    exact f.causes_acts.trans (by simp [Call.errors])

/-! Building a message and showing its errors. Both treat causes as they come: with other causes the
same is built around them, and the same is shown. -/

def ProcessingError.relabel (f : Cause → Cause) (e : ProcessingError) : ProcessingError :=
  { e with cause := f e.cause }

def MessagePart.relabel (f : Cause → Cause) : MessagePart → MessagePart
  | .error e => .error (e.relabel f)
  | part => part

def Message.relabel (f : Cause → Cause) (m : Message) : Message :=
  { m with errors := m.errors.map (·.relabel f) }

theorem Message.add_relabel (f : Cause → Cause) (m : Message) (part : MessagePart) :
    (m.relabel f).add (part.relabel f) = (m.add part).relabel f := by
  cases part <;> simp [add, relabel, MessagePart.relabel]

theorem Message.build_relabel (f : Cause → Cause) (id : String) (parts : List MessagePart) :
    build id (parts.map (·.relabel f)) = (build id parts).relabel f := by
  have added (start : Message) :
      (parts.map (·.relabel f)).foldl add (start.relabel f) = (parts.foldl add start).relabel f := by
    induction parts generalizing start with
    | nil => rfl
    | cons part rest ih => rw [List.map_cons, List.foldl_cons, add_relabel, ih, List.foldl_cons]
  exact added { id := id }

section Runs

variable {σ : Type} {w : World σ}

/-- Over any calls in any order, the log has the causes of the errors whose records were handed over
for a message with processing errors, once for each time and in this order. Such a message hands
over its first errors, up to a refusal; at most one if duplicates are not kept, and none if the
policy or the message does not allow it. What a message is built of and how its errors are shown
does not depend on the causes. -/
theorem causes_logged_per_offer (answers : w.Answers) (calls : List Call) (s : σ) :
    let runs := Call.runs w calls s
    runs.map Prod.fst = calls ∧
      causes (runs.flatMap fun made => made.2.acts) = (runs.flatMap fun made =>
        (made.1.errors.take (offers made.2.acts).length).map (·.cause)) ∧
      (∀ c run, (c, run) ∈ runs → (∃ outcome, run.progress = .finished outcome) ∧
        causes run.acts = (c.errors.take (offers run.acts).length).map (·.cause) ∧
        ∀ m, c = .processing m → OnDemand m run.acts) ∧
      ∀ f : Cause → Cause,
        (∀ id parts, Message.build id (parts.map (·.relabel f)) = (Message.build id parts).relabel f) ∧
        ∀ e : ProcessingError,
          (e.relabel f).inspect = e.inspect ∧ (e.relabel f).inspectPretty = e.inspectPretty := by
  intro runs
  obtain ⟨made, returned⟩ := Call.runs_return answers calls s
  have each : ∀ c run, (c, run) ∈ runs →
      causes run.acts = (c.errors.take (offers run.acts).length).map (·.cause) := by
    intro c run member
    obtain ⟨outcome, _, yields⟩ := returned c run member
    exact Call.causes_of_yields yields
  refine ⟨made, ?_, fun c run member => ?_, fun f => ⟨Message.build_relabel f, fun e => ⟨rfl, rfl⟩⟩⟩
  · calc causes (runs.flatMap fun made => made.2.acts)
      _ = runs.flatMap fun made => causes made.2.acts := List.filterMap_flatMap
      _ = _ := List.flatMap_congr fun made member => each made.1 made.2 member
  · obtain ⟨outcome, finished, yields⟩ := returned c run member
    refine ⟨⟨outcome, finished⟩, each c run member, ?_⟩
    rintro m rfl
    obtain ⟨result, submitted, rfl⟩ := yields_passed yields
    exact (yields_submitProcessingErrors submitted).onDemand

/-- Of three errors the second is refused, so the third is not worked out. The same message hands over
its first error when it is to be dropped, and nothing through the other calls. -/
theorem causes_up_to_a_refusal :
    let w : World (List QueueAnswer × Bool) :=
      { readSubmit := fun s => (true, s), readKeep := fun s => (s.2, s.1, false)
        now := fun s => (⟨0, 0⟩, s)
        submit := fun s _ => ⟨some (s.1.headD (.ok ())), [], s.1.tail, s.2⟩ }
    let m : Message := .build "m" [.error ⟨⟨"a"⟩, "1", "x"⟩, .error ⟨⟨"b"⟩, "2", "y"⟩,
      .failureHandling true, .error ⟨⟨"c"⟩, "3", "z"⟩]
    let unsupported : Message := { m with supportsFailureHandling := false }
    let calls : List Call := [.processing m, .unknown m "details",
      .indexing [⟨m, "index", .unknown, "details"⟩], .processing unsupported, .processing m]
    let runs := Call.runs w calls ([.ok (), .error .closed], true)
    w.Answers ∧ runs.map Prod.fst = calls ∧
      causes (runs.flatMap fun made => made.2.acts) = [⟨"a"⟩, ⟨"b"⟩, ⟨"a"⟩] := by
  intro w m unsupported calls runs
  have expected : (runs.flatMap fun made =>
      (made.1.errors.take (offers made.2.acts).length).map (·.cause)) =
        [⟨"a"⟩, ⟨"b"⟩, ⟨"a"⟩] := by decide +kernel +revert
  have answers : w.Answers := fun _ _ => rfl
  obtain ⟨made, logged, _⟩ :=
    causes_logged_per_offer answers calls ([.ok (), .error .closed], true)
  exact ⟨answers, made, logged.trans expected⟩

end Runs

end FailureIntake
