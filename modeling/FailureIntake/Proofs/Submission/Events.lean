import FailureIntake.Proofs.Submission.Acknowledgement

/-! The events of the service. A call reports each batch that the queue accepted, right when it was
accepted, and after that what the whole call came to. A batch that was refused is not reported, and
nothing is reported behind it. -/
namespace FailureIntake

open Program Act Service

/-- The report of a batch that was accepted: the stage of its first failure, and how many it has. -/
def Batch.report (b : Batch) : Event :=
  .batchSubmitted (b.failures.head b.ne_nil).stage b.failures.length

namespace Act

/-- The event that the call itself reports. What the queue notes while it answers is not the
call's. -/
def event? : Act → Option Event
  | .noted n => n.event?
  | _ => none

def events (acts : List Act) : List Event :=
  acts.filterMap event?

theorem events_append (first last : List Act) : events (first ++ last) = events first ++ events last :=
  List.filterMap_append

end Act

/-- What a call reports behind its batches, once it has returned. -/
def Call.conclusion : Call → Progress (Outcome (Option Decision)) → List Event
  | .input _ inputId, .finished (.ok _) => [.inputFailureRecorded inputId]
  | .processing _, .finished (.ok (some .filterOut)) => [.messageFilteredOut]
  | _, _ => []

namespace Filing

theorem events_acts (f : Filing) : events f.acts = (acceptedBatches f.acts).map Batch.report := by
  rw [acceptedBatches_acts, acts]
  cases f.answer <;> rfl

theorem events_caused (f : Filing) : events f.caused = (acceptedBatches f.caused).map Batch.report :=
  f.events_acts

theorem events_flatMap_caused (fs : List Filing) :
    events (fs.flatMap caused) = (acceptedBatches (fs.flatMap caused)).map Batch.report := by
  induction fs with
  | nil => rfl
  | cons f rest ih =>
    rw [List.flatMap_cons, events_append, acceptedBatches_append, List.map_append, events_caused, ih]

end Filing

theorem Service.Handled.events_eq {m : Message} {acts : List Act} {result : Outcome Decision}
    (handled : Handled m acts result) :
    events acts = (acceptedBatches acts).map Batch.report ++
      (Call.processing m).conclusion (.finished (result.map some)) := by
  cases handled with
  | clean | disabled | unsupported => rfl
  | @kept fs outcome _ _ _ =>
    have silent : (Call.processing m).conclusion
        (.finished ((outcome.map fun _ => Decision.keep).map some)) = [] := by
      cases outcome <;> rfl
    rw [silent, List.append_nil]
    exact Filing.events_flatMap_caused fs
  | @dropped e rest f entry =>
    let closing : List Act := [.noted (.log entry), .noted (.event .messageFilteredOut)]
    change events (f.caused ++ closing) =
      (acceptedBatches (f.caused ++ closing)).map Batch.report ++ [.messageFilteredOut]
    rw [events_append, acceptedBatches_append, f.events_caused, List.map_append, List.append_assoc]
    rfl
  | @refused e rest f =>
    rw [show Call.conclusion _ _ = [] from rfl, List.append_nil]
    exact f.events_caused

theorem Call.events_of_yields {c : Call} {acts : List Act} {outcome : Outcome (Option Decision)}
    (h : c.program.Yields acts outcome) :
    events acts = (acceptedBatches acts).map Batch.report ++ c.conclusion (.finished outcome) := by
  cases c with
  | indexing errors =>
    obtain ⟨result, submitted, rfl⟩ := yields_passed h
    rcases yields_submitIndexingErrors submitted with ⟨_, _, _, rfl⟩ | ⟨f, _, rfl, _⟩
    · rfl
    · exact f.events_acts.trans (List.append_nil _).symm
  | input e inputId =>
    obtain ⟨result, submitted, rfl⟩ := yields_passed h
    obtain ⟨f, _, rfl, rfl⟩ := yields_submitInputFailure submitted
    rw [events_append, acceptedBatches_append, List.map_append, f.events_acts, List.append_assoc]
    cases answered : f.answer with
    | error reason =>
      rw [Filing.outcome_refused answered]
      rfl
    | ok =>
      rw [Filing.outcome_accepted answered]
      rfl
  | processing message =>
    obtain ⟨result, submitted, rfl⟩ := yields_passed h
    exact (yields_submitProcessingErrors submitted).events_eq
  | unknown message details =>
    obtain ⟨result, submitted, rfl⟩ := yields_passed h
    obtain ⟨f, _, rfl, rfl⟩ := yields_submitUnknownProcessingError submitted
    exact f.events_acts.trans (List.append_nil _).symm

section Runs

variable {σ : Type} {w : World σ}

/-- Over any calls in any order, the events are the reports of the accepted batches, one for each and
in the order of their acceptance. Behind those of a call comes one for its input if the call
succeeded, or one for its message if that is dropped, and nothing else is reported. -/
theorem events_mirror_accepted_batches (answers : w.Answers) (calls : List Call) (s : σ) :
    let runs := Call.runs w calls s
    runs.map Prod.fst = calls ∧
      (∀ c run, (c, run) ∈ runs → (∃ outcome, run.progress = .finished outcome) ∧
        events run.acts = (acceptedBatches run.acts).map Batch.report ++ c.conclusion run.progress) ∧
      events (runs.flatMap fun made => made.2.acts) = runs.flatMap fun made =>
        (acceptedBatches made.2.acts).map Batch.report ++ made.1.conclusion made.2.progress := by
  intro runs
  obtain ⟨made, returned⟩ := Call.runs_return answers calls s
  have each : ∀ c run, (c, run) ∈ runs → (∃ outcome, run.progress = .finished outcome) ∧
      events run.acts = (acceptedBatches run.acts).map Batch.report ++ c.conclusion run.progress := by
    intro c run member
    obtain ⟨outcome, finished, yields⟩ := returned c run member
    refine ⟨⟨outcome, finished⟩, ?_⟩
    rw [finished]
    exact Call.events_of_yields yields
  refine ⟨made, each, ?_⟩
  calc events (runs.flatMap fun made => made.2.acts)
    _ = runs.flatMap fun made => events made.2.acts := List.filterMap_flatMap
    _ = _ := List.flatMap_congr fun made member => (each made.1 made.2 member).2

/-- The second of three records is refused, so neither it nor the third is reported. A message that is
dropped, a request with two indexing errors and an input follow, and then an input whose failure is
refused. -/
theorem events_around_refusals :
    let w : World (List QueueAnswer × Bool) :=
      { readSubmit := fun s => (true, s), readKeep := fun s => (s.2, s.1, false)
        now := fun s => (⟨0, 0⟩, s)
        submit := fun s _ => ⟨some (s.1.headD (.ok ())), [.event (.queueSize 7)], s.1.tail, s.2⟩ }
    let e : ProcessingError := ⟨⟨"cause"⟩, "text", "details"⟩
    let m : Message := { supportsFailureHandling := true, errors := [e, e, e] }
    let rejection : IndexingError := ⟨m, "index", .indexBlocked, "details"⟩
    let undecoded : Call := .input ⟨"text", none, ⟨0, 0, 0⟩, ⟨0, 0⟩, []⟩ "input"
    let calls : List Call :=
      [.processing m, .processing m, .indexing [rejection, rejection], undecoded, undecoded]
    let runs := Call.runs w calls ([.ok (), .error .closed, .ok (), .ok (), .ok (), .error .closed], true)
    let reports : List Event :=
      [.batchSubmitted .processing 1, .batchSubmitted .processing 1, .messageFilteredOut,
        .batchSubmitted .indexing 2, .batchSubmitted .input 1, .inputFailureRecorded "input"]
    w.Answers ∧ runs.map Prod.fst = calls ∧
      events (runs.flatMap fun made => made.2.acts) = reports := by
  intro w e m rejection undecoded calls runs reports
  have expected : (runs.flatMap fun made =>
      (acceptedBatches made.2.acts).map Batch.report ++ made.1.conclusion made.2.progress) = reports := by
    decide +kernel +revert
  have answers : w.Answers := fun _ _ => rfl
  obtain ⟨made, _, mirrored⟩ := events_mirror_accepted_batches answers calls
    ([.ok (), .error .closed, .ok (), .ok (), .ok (), .error .closed], true)
  exact ⟨answers, made, mirrored.trans expected⟩

end Runs

end FailureIntake
