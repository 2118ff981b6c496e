import FailureIntake.Proofs.Submission.Accounting
import FailureIntake.Proofs.Submission.Filing

/-! Calls that run at the same time do not mix. Every accepted batch is one call's own, and the
errors of a message that is kept come in recorded order and without a gap, whatever the other
calls and the receiver do in between. -/
namespace FailureIntake

open Program Act Service

namespace Service

variable {m : Message} {acts : List Act}

theorem recorded_first {α β : Type} {R : α → β → Prop} {inputs : List α} {first later : List β}
    (recorded : List.Forall₂ R (inputs.take (first ++ later).length) (first ++ later)) :
    List.Forall₂ R (inputs.take first.length) first := by
  have taken := List.forall₂_take_append _ _ _ recorded
  rw [List.take_take, List.length_append, Nat.min_eq_left (Nat.le_add_right _ _)] at taken
  exact taken

/-- Errors handed over one by one: all are accepted, or those before the first refusal. -/
structure InOrder {α : Type} (m : Message) (errors : List ProcessingError) (value : α)
    (acts : List Act) (result : Outcome α) : Prop where
  records : List.Forall₂ (Records m false) (errors.take (acceptedBatches acts).length)
    (acceptedBatches acts)
  stopped : (acceptedBatches acts).length = errors.length ∧ result = .ok value ∨
    (acceptedBatches acts).length < errors.length ∧ ∃ before b reason,
      offers acts = before ++ [(b, some (.error reason))] ∧
      (∀ offer ∈ before, offer.2 = some (.ok ())) ∧
      before.length = (acceptedBatches acts).length ∧ result = .error ⟨.processing, reason⟩

theorem InOrder.map {α β : Type} {errors : List ProcessingError} {value : α} {result : Outcome α}
    (inOrder : InOrder m errors value acts result) (f : α → β) :
    InOrder m errors (f value) acts (result.map f) := by
  refine ⟨inOrder.records, ?_⟩
  rcases inOrder.stopped with ⟨all, rfl⟩ | ⟨fewer, before, b, reason, offered, accepted, count, rfl⟩
  · exact .inl ⟨all, rfl⟩
  · exact .inr ⟨fewer, before, b, reason, offered, accepted, count, rfl⟩

theorem FiledEach.inOrder {errors : List ProcessingError} {fs : List Filing}
    {result : Outcome Unit} (filed : FiledEach m errors fs result) :
    InOrder m errors () (fs.flatMap Filing.caused) result := by
  obtain ⟨records, stopped⟩ := filed.upToRefusal
  rcases stopped with ⟨all, accepted, rfl⟩ | ⟨before, last, reason, rfl, accepted, refusal, rfl⟩
  · have batches := Filing.acceptedBatches_flatMap_caused accepted
    refine ⟨?_, .inl ⟨?_, rfl⟩⟩ <;> rw [batches, List.length_map]
    · exact List.forall₂_map_right_iff.mpr records
    · exact all
  · have batches : acceptedBatches ((before ++ [last]).flatMap Filing.caused) =
        before.map Filing.batch := by
      rw [List.flatMap_append, acceptedBatches_append,
        Filing.acceptedBatches_flatMap_caused accepted]
      simp [Filing.acceptedBatches_caused, Filing.acceptedBatches_acts, refusal]
    have offered : offers ((before ++ [last]).flatMap Filing.caused) =
        before.map (fun f => (f.batch, some f.answer)) ++ [(last.batch, some (.error reason))] := by
      rw [Filing.offers_flatMap_caused, List.map_append, ← refusal]
      rfl
    have count := records.length_eq
    rw [List.length_take, List.length_append, List.length_singleton] at count
    refine ⟨?_, .inr ⟨?_, _, _, reason, offered, by simpa using accepted, ?_, rfl⟩⟩ <;>
      rw [batches, List.length_map]
    · exact List.forall₂_map_right_iff.mpr (recorded_first records)
    · omega
    · rw [List.length_map]

theorem Handled.inOrder {result : Outcome Decision} (handled : Handled m acts result)
    (supports : m.supportsFailureHandling = true) (permitted : ∀ act ∈ acts, act.Permitted) :
    InOrder m m.errors .keep acts result := by
  cases handled with
  | clean none =>
    rw [none]
    exact ⟨.nil, .inl ⟨rfl, rfl⟩⟩
  | disabled => exact absurd (permitted (.readSubmit false) (by simp)) (by simp [Permitted])
  | unsupported _ unsupported =>
    rw [supports] at unsupported
    cases unsupported
  | kept _ _ filed =>
    have each := filed.inOrder.map fun _ => Decision.keep
    exact ⟨each.records, each.stopped⟩
  | dropped | refused =>
    exact absurd (permitted (.readKeep false) (by simp)) (by simp [Permitted])

end Service

theorem Filing.mem_acceptedBatches_acts {f : Filing} {b : Batch}
    (member : b ∈ acceptedBatches f.acts) : b = f.batch := by
  rw [acceptedBatches_acts] at member
  cases answered : f.answer <;> simp_all

theorem Service.Handled.builds {m : Message} {acts : List Act} {result : Outcome Decision}
    (handled : Handled m acts result) {b : Batch} (member : b ∈ acceptedBatches acts) :
    ∃ e ∈ m.errors, ∃ requiresAck, Records m requiresAck e b := by
  cases handled with
  | clean | disabled | unsupported => cases member
  | kept _ _ filed =>
    obtain ⟨e, among, records⟩ := exists_recorded filed.inOrder.records member
    exact ⟨e, List.mem_of_mem_take among, false, records⟩
  | @dropped e rest f entry recorded _ records =>
    have offered : b ∈ acceptedBatches (f.acts ++ [.noted (.log entry),
      .noted (.event .messageFilteredOut)]) := member
    rw [acceptedBatches_append, List.mem_append] at offered
    rcases offered with filed | reported
    · cases Filing.mem_acceptedBatches_acts filed
      exact ⟨e, by simp [recorded], true, records⟩
    · cases reported
  | @refused e rest f reason recorded _ records =>
    cases Filing.mem_acceptedBatches_acts (f := f) member
    exact ⟨e, by simp [recorded], true, records⟩

/-- The batch holds records of the call's own inputs. -/
def Call.Builds : Call → Batch → Prop
  | .indexing errors, b => List.Forall₂ IsRejection (eligible errors) b.failures
  | .input e inputId, b => RecordsInput e inputId b
  | .processing m, b => ∃ e ∈ m.errors, ∃ requiresAck, Records m requiresAck e b
  | .unknown m details, b => Records m false (unrecognized details) b

theorem Call.builds_of_yields {c : Call} {acts : List Act} {outcome : Outcome (Option Decision)}
    (h : c.program.Yields acts outcome) {b : Batch} (member : b ∈ acceptedBatches acts) :
    c.Builds b := by
  cases c with
  | indexing errors =>
    obtain ⟨result, submitted, rfl⟩ := yields_passed h
    rcases yields_submitIndexingErrors submitted with ⟨_, _, _, rfl⟩ | ⟨f, records, rfl, _⟩
    · cases member
    · cases Filing.mem_acceptedBatches_acts member
      exact records
  | input e inputId =>
    obtain ⟨result, submitted, rfl⟩ := yields_passed h
    obtain ⟨f, records, rfl, _⟩ := yields_submitInputFailure submitted
    rw [acceptedBatches_append, List.mem_append] at member
    rcases member with filed | reported
    · cases Filing.mem_acceptedBatches_acts filed
      exact records
    · cases answered : f.answer <;> rw [answered] at reported <;> cases reported
  | processing m =>
    obtain ⟨result, submitted, rfl⟩ := yields_passed h
    exact (yields_submitProcessingErrors submitted).builds member
  | unknown m details =>
    obtain ⟨result, submitted, rfl⟩ := yields_passed h
    obtain ⟨f, records, rfl, rfl⟩ := yields_submitUnknownProcessingError submitted
    cases Filing.mem_acceptedBatches_acts member
    exact records

namespace OpenCall

variable {i : Nat} {c : OpenCall} {t : Traffic} {m : Message}

/-- A call can be brought to its end from wherever it is. What the queue accepted from it so far is
the beginning of what it accepted by then. -/
theorem Accounted.completion (accounted : c.Accounted i t) :
    ∃ more outcome, c.call.program.Yields (c.acts ++ more) outcome ∧
      (∀ act ∈ more, act.Permitted) ∧ t.acceptedFrom i <+: acceptedBatches (c.acts ++ more) := by
  cases pending : c.pending with
  | none =>
    obtain ⟨more, outcome, yields, permitted⟩ := exists_yields_permitted c.rest
    refine ⟨more, outcome, accounted.performs.trans yields, permitted, ?_⟩
    rw [accounted.accepted, inFlight_idle pending, List.append_nil, acceptedBatches_append]
    exact List.prefix_append _ _
  | some j =>
    -- A batch in flight has been accepted, so the completion must be one that accepts it.
    obtain ⟨s, next, found, _, rest⟩ := accounted.waits j pending
    obtain ⟨more, outcome, yields, permitted⟩ := exists_yields_permitted (next (.ok ()))
    have answered : c.rest.Yields (.offered s.batch (some (.ok ())) [] :: more) outcome := by
      rw [rest]
      exact .submit yields
    refine ⟨_, outcome, accounted.performs.trans answered, ?_, ?_⟩
    · simpa [Permitted] using permitted
    · rw [accounted.accepted, inFlight_pending pending found, acceptedBatches_append,
        List.prefix_append_right_inj]
      change _ <+: s.batch :: acceptedBatches more
      split <;> simp

/-- The batches that the queue accepted from a call whose message is kept: the records of the first
errors, and of all errors exactly if the call returned that the message is kept. -/
structure CompleteInOrder (c : OpenCall) (m : Message) (accepted : List Batch) : Prop where
  bound : accepted.length ≤ m.errors.length
  records : List.Forall₂ (Records m false) (m.errors.take accepted.length) accepted
  returned : ∀ outcome, c.returned? = some outcome →
    (accepted.length = m.errors.length ↔ outcome = .ok (some .keep))
  failed : ∀ err, c.returned? = some (.error err) → ∃ before b reason,
    offers c.acts = before ++ [(b, some (.error reason))] ∧
    (∀ offer ∈ before, offer.2 = some (.ok ())) ∧ before.length = accepted.length ∧
    err = ⟨.processing, reason⟩

theorem Accounted.returned (accounted : c.Accounted i t) {outcome : Outcome (Option Decision)}
    (returned : c.returned? = some outcome) :
    c.call.program.Yields c.acts outcome ∧ t.acceptedFrom i = acceptedBatches c.acts := by
  have done := returned?_eq_some.mp returned
  have idle := accounted.idle (by simp [done])
  refine ⟨?_, ?_⟩
  · have performs := accounted.performs
    rw [done] at performs
    exact performs
  · rw [accounted.accepted, inFlight_idle idle, List.append_nil]

theorem inOrder_of_yields (processing : c.call = .processing m)
    (supports : m.supportsFailureHandling = true) {acts : List Act}
    {outcome : Outcome (Option Decision)} (yields : c.call.program.Yields acts outcome)
    (permitted : ∀ act ∈ acts, act.Permitted) :
    InOrder m m.errors (some .keep) acts outcome := by
  rw [processing] at yields
  obtain ⟨result, submitted, rfl⟩ := yields_passed yields
  exact ((yields_submitProcessingErrors submitted).inOrder supports permitted).map some

theorem Accounted.completeInOrder (accounted : c.Accounted i t)
    (processing : c.call = .processing m) (supports : m.supportsFailureHandling = true)
    (permitted : ∀ act ∈ c.acts, act.Permitted) :
    c.CompleteInOrder m (t.acceptedFrom i) := by
  obtain ⟨more, outcome, yields, later, start⟩ := accounted.completion
  have whole := inOrder_of_yields processing supports yields fun act member =>
    (List.mem_append.mp member).elim (permitted act) (later act)
  have records : List.Forall₂ (Records m false) (m.errors.take (t.acceptedFrom i).length)
      (t.acceptedFrom i) := by
    obtain ⟨others, all⟩ := start
    exact recorded_first (all ▸ whole.records)
  have bound : (t.acceptedFrom i).length ≤ m.errors.length := by
    have same := records.length_eq
    rw [List.length_take] at same
    omega
  refine ⟨bound, records, fun outcome returned => ?_, fun err returned => ?_⟩
  · obtain ⟨yields, own⟩ := accounted.returned returned
    have inOrder := inOrder_of_yields processing supports yields permitted
    rw [own]
    rcases inOrder.stopped with ⟨all, rfl⟩ | ⟨fewer, _, _, _, _, _, _, rfl⟩
    · simp [all]
    · simp [Nat.ne_of_lt fewer]
  · obtain ⟨yields, own⟩ := accounted.returned returned
    have inOrder := inOrder_of_yields processing supports yields permitted
    rw [own]
    rcases inOrder.stopped with ⟨_, kept⟩ | ⟨_, before, b, reason, offered, oks, count, failed⟩
    · cases kept
    · exact ⟨before, b, reason, offered, oks, count, Except.error.inj failed⟩

end OpenCall

/-- Whatever calls run at the same time, each accepted batch is of the one call that built it, and
what was accepted from a call that keeps its message are its first errors in recorded order. -/
theorem concurrent_calls_complete_in_order {requested : Nat} {q : BoundedQueue}
    (built : BoundedQueue.ofCapacity? requested = some q) {moves : List Intake.Move} {x : Intake}
    (reached : Intake.run { traffic := { queue := q } } moves = x) :
    (x.traffic.queue.receiverDropped = false →
      x.traffic.accepted.map (·.batch) = x.traffic.received ++ x.traffic.queue.buffered) ∧
    (∀ a ∈ x.traffic.accepted, ∃ c, x.calls[a.caller]? = some c ∧ c.call.Builds a.batch) ∧
    ∀ (i : Nat) (c : OpenCall), x.calls[i]? = some c →
      x.traffic.acceptedFrom i = acceptedBatches c.acts ++ c.inFlight x.traffic ∧
      ∀ m, c.call = .processing m → m.supportsFailureHandling = true →
        (∀ act ∈ c.acts, act.Permitted) → c.CompleteInOrder m (x.traffic.acceptedFrom i) := by
  have start := Intake.accounted_empty (Traffic.built_orderly built)
  have accounted : x.Accounted := reached ▸ Intake.run_accounted start moves
  refine ⟨accounted.orderly.order, fun a member => ?_, fun i c found => ?_⟩
  · obtain ⟨below, among⟩ := accounted.caller member
    have found := List.getElem?_eq_getElem below
    obtain ⟨more, outcome, yields, _, start⟩ := (accounted.calls _ _ found).completion
    exact ⟨_, found, Call.builds_of_yields yields (start.subset among)⟩
  · have own := accounted.calls i c found
    exact ⟨own.accepted, fun m => own.completeInOrder⟩

/-- The record of one message comes between two of another, whose third error finds the queue
closed. -/
theorem complete_in_order_between_calls :
    let long : Message :=
      { messageId := some "long", supportsFailureHandling := true
        errors := [⟨⟨"a"⟩, "1", "x"⟩, ⟨⟨"b"⟩, "2", "y"⟩, ⟨⟨"c"⟩, "3", "z"⟩] }
    let short : Message :=
      { messageId := some "short", supportsFailureHandling := true, errors := [⟨⟨"d"⟩, "4", "w"⟩] }
    let around : Surroundings := { submit := true, keep := true, now := ⟨0, 0⟩, wait := ⟨0, 0⟩ }
    let q : BoundedQueue := { capacity := 4 }
    let moves : List Intake.Move :=
      [.start (.processing long) .none, .start (.processing short) .multiThread] ++
        .replicate 9 (.act 0 around) ++ .replicate 9 (.act 1 around) ++
        .replicate 7 (.act 0 around) ++ .receiver .close :: .replicate 5 (.act 0 around)
    let x := Intake.run { traffic := { queue := q } } moves
    BoundedQueue.ofCapacity? 4 = some q ∧ x.traffic.accepted.map (·.caller) = [0, 1, 0] ∧
      (∃ c, x.calls[0]? = some c ∧ c.returned? = some (.error ⟨.processing, .closed⟩) ∧
        c.CompleteInOrder long (x.traffic.acceptedFrom 0)) ∧
      ∃ c, x.calls[1]? = some c ∧ c.returned? = some (.ok (some .keep)) ∧
        c.CompleteInOrder short (x.traffic.acceptedFrom 1) := by
  intro long short around q moves x
  have callers : x.traffic.accepted.map (·.caller) = [0, 1, 0] := by decide +kernel +revert
  have first : x.calls[0]?.any fun c => c.call = .processing long ∧
      c.returned? = some (.error ⟨.processing, .closed⟩) ∧ ∀ act ∈ c.acts, act.Permitted := by
    decide +kernel +revert
  have second : x.calls[1]?.any fun c => c.call = .processing short ∧
      c.returned? = some (.ok (some .keep)) ∧ ∀ act ∈ c.acts, act.Permitted := by
    decide +kernel +revert
  have built : BoundedQueue.ofCapacity? 4 = some q := rfl
  obtain ⟨_, _, each⟩ := concurrent_calls_complete_in_order (x := x) built rfl
  obtain ⟨a, found, made⟩ := (Option.any_eq_true _ _).mp first
  obtain ⟨b, present, kept⟩ := (Option.any_eq_true _ _).mp second
  rw [decide_eq_true_eq] at made kept
  exact ⟨built, callers,
    ⟨a, found, made.2.1, (each 0 a found).2 long made.1 rfl made.2.2⟩,
    ⟨b, present, kept.2.1, (each 1 b present).2 short kept.1 rfl kept.2.2⟩⟩

end FailureIntake
