import FailureIntake.Proofs.Queue.Capacity
import FailureIntake.Proofs.Queue.Statistics
import FailureIntake.Proofs.Submission.Concurrency
import FailureIntake.Proofs.Submission.Metering
import Mathlib.Data.List.Perm.Basic

/-! The metrics of the producers and the statistics of the consumer. Both count what the queue
accepted: the metrics when a call hears of it, the statistics when the receiver takes it out. So
whenever no call is in progress they differ by what is in the queue. -/
namespace FailureIntake

open Act

namespace BoundedQueue

theorem enteredNotes_unmetered (q : BoundedQueue) (wait : Option Duration) :
    Unmetered (q.enteredNotes wait) := by
  intro m
  cases wait <;> cases m <;> rfl

theorem ofNotes_consumedNotes (q : BoundedQueue) (b : Batch) (m : Meter) :
    m.ofNotes (q.consumedNotes b) = if m = .consumed then 1 else 0 := by
  cases m <;> rfl

end BoundedQueue

namespace Traffic

variable {t t' : Traffic}

structure Recorded (t : Traffic) : Prop where
  statistics : Statistics.Counted {} t.received t.queue.statistics
  receiver : ∀ m : Meter, m.ofNotes t.receiverNotes = if m = .consumed then t.received.length else 0
  submissions : ∀ s ∈ t.submissions, Unmetered s.notes

theorem unmetered_step {s s' : Submission} {q q' : BoundedQueue} (step : Submission.Step s q s' q')
    (before : Unmetered s.notes) : Unmetered s'.notes := by
  have logged (entries : List LogEntry) : Unmetered (entries.map .log) := by
    intro m
    simp [Meter.ofNotes, Meter.ofNote, Function.comp_def]
  have more {notes : List Note} (unmetered : Unmetered notes) : Unmetered (s.notes ++ notes) := by
    intro m
    rw [Meter.ofNotes_append, before m, unmetered m]
  cases step with
  | rests => exact before
  | turns entries | leaves entries => exact more (logged entries)
  | reports => exact more (q.enteredNotes_unmetered _)
  | enters | parks | fills | waitsOn | withdraws => exact more fun _ => rfl

theorem Recorded.change (recorded : t.Recorded) (change : Change t t') : t'.Recorded := by
  cases change with
  | rests => exact recorded
  | handles | closes | drops =>
    exact ⟨recorded.statistics, recorded.receiver, recorded.submissions⟩
  | called caller route batch =>
    refine ⟨recorded.statistics, recorded.receiver, fun s member => ?_⟩
    rcases List.mem_append.mp member with earlier | fresh
    · exact recorded.submissions s earlier
    · cases List.mem_singleton.mp fresh
      exact fun _ => rfl
  | @operates i s s' q' found step =>
    refine ⟨step.flags.2.2 ▸ recorded.statistics, recorded.receiver, fun u member => ?_⟩
    rcases List.mem_or_eq_of_mem_set member with other | rfl
    · exact recorded.submissions u other
    · exact unmetered_step step (recorded.submissions s (List.mem_of_getElem? found))
  | @receives b q' _ taken =>
    have received : (t.results ++ [some b]).filterMap id = t.received ++ [b] := by simp [received]
    refine ⟨?_, fun m => ?_, recorded.submissions⟩
    · change Statistics.Counted {} ((t.results ++ [some b]).filterMap id) q'.statistics
      rw [received, (BoundedQueue.take_flags taken).2.2]
      exact recorded.statistics.append (t.queue.statistics.counted_addBatch b)
    · change m.ofNotes (t.receiverNotes ++ _) =
        if m = .consumed then ((t.results ++ [some b]).filterMap id).length else 0
      rw [received, Meter.ofNotes_append, recorded.receiver, BoundedQueue.ofNotes_consumedNotes,
        List.length_append, List.length_singleton]
      split <;> rfl
  | findsNothing _ _ same =>
    have received : (t.results ++ [none]).filterMap id = t.received := by simp [received]
    rcases same with rfl | rfl
    · exact recorded
    · refine ⟨?_, ?_, recorded.submissions⟩
      · change Statistics.Counted {} ((t.results ++ [none]).filterMap id) t.queue.statistics
        rw [received]
        exact recorded.statistics
      · change ∀ m : Meter, m.ofNotes t.receiverNotes =
          if m = .consumed then ((t.results ++ [none]).filterMap id).length else 0
        rw [received]
        exact recorded.receiver

theorem run_recorded (recorded : t.Recorded) (moves : List Move) : (t.run moves).Recorded := by
  induction moves generalizing t with
  | nil => exact recorded
  | cons move rest ih => exact ih (recorded.change (t.perform_change move))

/-- Taken caller by caller, the history is the same up to the order. -/
theorem acceptedFrom_perm {n : Nat} (known : ∀ a ∈ t.accepted, a.caller < n) :
    ((List.range n).flatMap t.acceptedFrom).Perm (t.accepted.map (·.batch)) := by
  have below (n : Nat) : ((List.range n).flatMap fun i => t.accepted.filter (·.caller = i)).Perm
      (t.accepted.filter (·.caller < n)) := by
    induction n with
    | zero => simp
    | succ n ih =>
      rw [List.range_succ, List.flatMap_append]
      refine (ih.append_right _).trans ?_
      have parts := List.filter_append_perm (fun a : Acceptance => decide (a.caller < n))
        (t.accepted.filter (·.caller < n + 1))
      have fewer : (t.accepted.filter (·.caller < n + 1)).filter (·.caller < n) =
          t.accepted.filter (·.caller < n) := by
        rw [List.filter_filter]
        refine List.filter_congr fun a _ => ?_
        simp
        omega
      have own : (t.accepted.filter (·.caller < n + 1)).filter (fun a => !decide (a.caller < n)) =
          [n].flatMap fun i => t.accepted.filter (·.caller = i) := by
        rw [List.filter_filter, List.flatMap_singleton]
        refine List.filter_congr fun a _ => ?_
        rw [Bool.eq_iff_iff]
        simp
        omega
      rwa [fewer, own] at parts
  have all : t.accepted.filter (·.caller < n) = t.accepted :=
    List.filter_eq_self.mpr fun a member => decide_eq_true (known a member)
  have perm := (below n).map (·.batch)
  rw [all, List.map_flatMap] at perm
  exact perm

end Traffic

namespace OpenCall

/-- All that was reported of a call so far, also by the submission that it is in. -/
def notes (c : OpenCall) (t : Traffic) : List Note :=
  c.acts.flatMap Act.notes ++ ((c.pending.bind (t.submissions[·]?)).map (·.notes)).getD []

theorem step_unmetered {t : Traffic} (i : Nat) (around : Surroundings) (c : OpenCall)
    (recorded : (c.step i around t).2.Recorded) (before : ∀ act ∈ c.acts, act.QueueUnmetered) :
    ∀ act ∈ (c.step i around t).1.acts, act.QueueUnmetered := by
  have did {acts : List Act} (rest : Program (Outcome (Option Decision)))
      (more : ∀ act ∈ acts, act.QueueUnmetered) :
      ∀ act ∈ (c.did acts rest).acts, act.QueueUnmetered := by
    intro act member
    rcases List.mem_append.mp member with earlier | new
    · exact before act earlier
    · exact more act new
  revert recorded
  unfold step
  split <;> intro recorded
  · exact before
  · exact did _ (by simp [QueueUnmetered])
  · exact did _ (by simp [QueueUnmetered])
  · exact did _ (by simp [QueueUnmetered])
  · exact did _ (by simp)
  · exact did _ (by simp [QueueUnmetered])
  · next b next _ =>
    revert recorded
    split <;> intro recorded
    · exact before
    · next j _ =>
      cases found : (t.advance j around.wait).submissions[j]? with
      | none =>
        simp only [found]
        exact before
      | some s =>
        have own := recorded.submissions s (List.mem_of_getElem? found)
        simp only [found, Option.map_some, Option.getD_some, collect]
        split
        · exact did _ (by simpa [QueueUnmetered] using own)
        · exact before

end OpenCall

namespace Intake

variable {x : Intake}

/-- All that was reported so far. -/
def notes (x : Intake) : List Note :=
  x.calls.flatMap (·.notes x.traffic) ++ x.traffic.receiverNotes

structure Metered (x : Intake) : Prop where
  recorded : x.traffic.Recorded
  acts : ∀ c ∈ x.calls, ∀ act ∈ c.acts, act.QueueUnmetered

theorem Metered.perform (metered : x.Metered) (held : x.traffic.handles ≠ 0) (move : Move) :
    (x.perform move).Metered := by
  obtain ⟨moves, same, _⟩ := perform_traffic held move
  have recorded : (x.perform move).traffic.Recorded := same ▸ Traffic.run_recorded metered.recorded moves
  refine ⟨recorded, fun c member => ?_⟩
  cases move with
  | start call context =>
    rcases List.mem_append.mp member with earlier | fresh
    · exact metered.acts c earlier
    · cases List.mem_singleton.mp fresh
      exact nofun
  | act i around =>
    simp only [Intake.perform] at member recorded
    split at member
    · next own found =>
      simp only [found] at recorded
      rcases List.mem_or_eq_of_mem_set member with other | rfl
      · exact metered.acts c other
      · exact own.step_unmetered i around recorded (metered.acts own (List.mem_of_getElem? found))
    · exact metered.acts c member
  | receiver m => exact metered.acts c member

theorem run_metered (metered : x.Metered) (accounted : x.Accounted) (moves : List Move) :
    (x.run moves).Metered := by
  induction moves generalizing x with
  | nil => exact metered
  | cons move rest ih =>
    exact ih (metered.perform accounted.held move) (run_accounted accounted [move])

/-- When all calls have returned, every meter has counted what was accepted, and the batches that
were received besides. -/
theorem Metered.ofNotes (metered : x.Metered) (accounted : x.Accounted)
    (returned : ∀ c ∈ x.calls, c.returned?.isSome) (m : Meter) :
    m.ofNotes x.notes = m.ofBatches (x.traffic.accepted.map (·.batch)) +
      if m = .consumed then x.traffic.received.length else 0 := by
  have each : x.calls.map (fun c => m.ofNotes (c.notes x.traffic)) =
      (List.range x.calls.length).map fun i => m.ofBatches (x.traffic.acceptedFrom i) := by
    refine List.ext_getElem (by simp) fun i below _ => ?_
    rw [List.length_map] at below
    have member := List.getElem_mem below
    have own := accounted.calls i _ (List.getElem?_eq_getElem below)
    obtain ⟨outcome, done⟩ := Option.isSome_iff_exists.mp (returned _ member)
    obtain ⟨yields, accepted⟩ := own.returned done
    have idle := own.idle (by simp [OpenCall.returned?_eq_some.mp done])
    rw [List.getElem_map, List.getElem_map, List.getElem_range, accepted,
      ← Call.booked_of_yields yields (metered.acts _ member) m]
    simp [OpenCall.notes, idle, Meter.ofActs]
  have perm := Traffic.acceptedFrom_perm fun a member => (accounted.caller member).1
  rw [notes, Meter.ofNotes_append, Meter.ofNotes_flatMap, each, ← Meter.ofBatches_flatMap,
    metered.recorded.receiver]
  exact congrArg (· + _) (perm.map m.ofBatch).sum_nat

theorem metered_empty (q : BoundedQueue) (fresh : q.statistics = {}) :
    Metered { traffic := { queue := q } } where
  recorded := ⟨fresh ▸ Statistics.counted_nil {}, fun m => by cases m <;> rfl, nofun⟩
  acts := nofun

end Intake

theorem sum_ofNat {α : Type} (f : α → Nat) (l : List α) :
    (l.map fun a => UInt64.ofNat (f a)).sum = .ofNat (l.map f).sum := by
  induction l with
  | nil => rfl
  | cons a rest ih => rw [List.map_cons, List.sum_cons, ih, List.map_cons, List.sum_cons, UInt64.ofNat_add]

/-! The readings. Whatever order the updates were recorded in, a meter reads what it counted. -/

theorem Meter.reading (m : Meter) {notes : List Note} {updates : List MetricUpdate}
    (recorded : updates.Perm (notes.flatMap Note.metrics)) :
    (updates.foldl Registry.record {}).sumOf m.selects = .ofNat (m.ofNotes notes) := by
  have empty : Registry.Distinct {} := List.nodup_nil
  rw [Registry.sumOf_foldl empty, (recorded.map _).sum_nat, m.amount_notes]
  exact UInt64.zero_add _

theorem Meter.ofBatches_failures (stage : Stage) (batches : List Batch) :
    (Meter.failures stage).ofBatches batches =
      (batches.flatMap Batch.failures).countP (·.stage = stage) :=
  List.countP_flatMap.symm

theorem Meter.ofBatches_consumed (batches : List Batch) : Meter.consumed.ofBatches batches = 0 := by
  induction batches with
  | nil => rfl
  | cons b rest ih => rw [ofBatches_cons, ih, ofBatch]

theorem Meter.ofBatches_stages (batches : List Batch) :
    (Stage.all.map fun stage => (Meter.batches stage).ofBatches batches).sum = batches.length := by
  induction batches with
  | nil => rfl
  | cons b rest ih =>
    have one : (Stage.all.map fun stage => (Meter.batches stage).ofBatch b).sum = 1 := by
      simp only [Meter.ofBatch]
      cases (b.failures.head b.ne_nil).stage <;> rfl
    simp only [Stage.all, List.map_cons, List.map_nil, List.sum_cons, List.sum_nil,
      Meter.ofBatches_cons, List.length_cons] at ih one ⊢
    omega

/-- A registry and the statistics of a consumer agree up to what is in the queue. Counters count in
64 bits. -/
structure Reconciled (r : Registry) (q : BoundedQueue) : Prop where
  failures : ∀ stage : Stage,
    r.counter "tailrace_failures_submitted_total" [("failure_type", stage.label)] =
      .ofNat (q.statistics.ofStage stage +
        (q.buffered.flatMap Batch.failures).countP (·.stage = stage))
  batches : (Stage.all.map fun stage =>
      r.counter "tailrace_failure_batches_submitted_total" [("failure_type", stage.label)]).sum =
    .ofNat (q.statistics.batches + q.buffered.length)
  filteredOut : r.counter "tailrace_messages_filtered_out_total" [] =
    .ofNat (q.statistics.requiringAck + (q.buffered.flatMap Batch.failures).countP (·.requiresAck))
  inputFailures : r.total "tailrace_input_failures_total" =
    .ofNat (q.statistics.input + (q.buffered.flatMap Batch.failures).countP (·.stage = .input))
  consumed : r.counter "tailrace_failure_batches_consumed_total" [] = .ofNat q.statistics.batches

/-- Calls of the service around a fresh queue, however they are mixed with each other, with receiving
and with a close: in every state in which all of them have returned and the receiver is there, the
counters that their events came to, recorded in any order, are what the consumer has counted and
what is still in the queue. -/
theorem metrics_reconcile_with_statistics {requested : Nat} {q : BoundedQueue}
    (built : BoundedQueue.ofCapacity? requested = some q) {moves : List Intake.Move} {x : Intake}
    (reached : Intake.run { traffic := { queue := q } } moves = x)
    (returned : ∀ c ∈ x.calls, c.returned?.isSome) (kept : x.traffic.queue.receiverDropped = false)
    {updates : List MetricUpdate} (recorded : updates.Perm (x.notes.flatMap Note.metrics)) :
    Reconciled (updates.foldl Registry.record {}) x.traffic.queue := by
  have start := Intake.accounted_empty (Traffic.built_orderly built)
  obtain ⟨rfl, _⟩ := Traffic.built_fits built
  have accounted : x.Accounted := reached ▸ Intake.run_accounted start moves
  have metered : x.Metered := reached ▸ Intake.run_metered (Intake.metered_empty _ rfl) start moves
  have empty : Registry.Distinct {} := List.nodup_nil
  have distinct := empty.foldl updates
  have read (m : Meter) : (updates.foldl Registry.record {}).sumOf m.selects =
      .ofNat (m.ofBatches (x.traffic.received ++ x.traffic.queue.buffered) +
        if m = .consumed then x.traffic.received.length else 0) := by
    rw [m.reading recorded, metered.ofNotes accounted returned, accounted.orderly.order kept]
  have produced (m : Meter) (producers : m ≠ .consumed) :
      (updates.foldl Registry.record {}).sumOf m.selects =
        .ofNat (m.ofBatches (x.traffic.received ++ x.traffic.queue.buffered)) := by
    rw [read, if_neg producers, Nat.add_zero]
  have counted := metered.recorded.statistics
  have count : x.traffic.queue.statistics.batches = x.traffic.received.length :=
    counted.batches.trans (Nat.zero_add _)
  have acks : x.traffic.queue.statistics.requiringAck =
      (x.traffic.received.flatMap Batch.failures).countP (·.requiresAck) :=
    counted.requiringAck.trans (Nat.zero_add _)
  have stages (stage : Stage) : x.traffic.queue.statistics.ofStage stage =
      (x.traffic.received.flatMap Batch.failures).countP (·.stage = stage) := by
    rw [counted.ofStage]
    cases stage <;> exact Nat.zero_add _
  exact
    { failures := fun stage => by
        rw [Registry.counter_eq_sumOf distinct, stages, ← List.countP_append, ← List.flatMap_append,
          ← Meter.ofBatches_failures]
        exact produced (.failures stage) nofun
      batches := by
        have each (stage : Stage) := (Registry.counter_eq_sumOf distinct
          "tailrace_failure_batches_submitted_total" [("failure_type", stage.label)]).trans
          (produced (.batches stage) nofun)
        rw [List.map_congr_left fun stage _ => each stage, sum_ofNat, Meter.ofBatches_stages, count,
          List.length_append]
      filteredOut := by
        rw [Registry.counter_eq_sumOf distinct, acks, ← List.countP_append, ← List.flatMap_append,
          List.countP_flatMap]
        exact produced .filteredOut nofun
      inputFailures := by
        have input : x.traffic.queue.statistics.input =
            (x.traffic.received.flatMap Batch.failures).countP (·.stage = .input) := stages .input
        rw [input, ← List.countP_append, ← List.flatMap_append, ← Meter.ofBatches_failures]
        exact produced .inputFailures nofun
      consumed := by
        rw [Registry.counter_eq_sumOf distinct, count]
        refine (read .consumed).trans (congrArg _ ?_)
        rw [Meter.ofBatches_consumed, if_pos rfl, Nat.zero_add] }

/-- A message with two errors is kept, an input's failure follows, and a message is dropped. The
receiver takes two of the four batches and closes, so that the last call is refused. -/
theorem reconciled_after_a_close :
    let m : Message :=
      { messageId := some "m", supportsFailureHandling := true
        errors := [⟨⟨"a"⟩, "1", "x"⟩, ⟨⟨"b"⟩, "2", "y"⟩] }
    let e : InputException := ⟨"text", none, ⟨⟨0, 0, 0⟩, ⟨0, 0⟩, []⟩⟩
    let around : Bool → Surroundings := fun keep =>
      { submit := true, keep, now := ⟨0, 0⟩, wait := ⟨0, 0⟩ }
    let q : BoundedQueue := { capacity := 4 }
    let moves : List Intake.Move :=
      [.start (.processing m) .none, .start (.input e "in") .none, .start (.processing m) .none,
          .start (.unknown m "z") .none] ++
        .replicate 16 (.act 0 (around true)) ++ .replicate 7 (.act 1 (around true)) ++
        .replicate 11 (.act 2 (around false)) ++
        [.receiver (.receive .blocking), .receiver (.receive .immediate), .receiver .close] ++
        .replicate 4 (.act 3 (around true))
    let x := Intake.run { traffic := { queue := q } } moves
    let r := (x.notes.flatMap Note.metrics).foldl Registry.record {}
    BoundedQueue.ofCapacity? 4 = some q ∧
      (x.calls.map (·.returned?) = [some (.ok (some .keep)), some (.ok none),
          some (.ok (some .filterOut)), some (.error ⟨.processing, .closed⟩)] ∧
        x.traffic.queue.statistics = { processing := 2, batches := 2 } ∧
        x.traffic.queue.buffered.length = 2 ∧
        r.counter "tailrace_failures_submitted_total" [("failure_type", "processing")] = 3 ∧
        r.counter "tailrace_messages_filtered_out_total" [] = 1 ∧
        r.total "tailrace_input_failures_total" = 1) ∧
      Reconciled r x.traffic.queue := by
  intro m e around q moves x r
  have readings : x.calls.map (·.returned?) = [some (.ok (some .keep)), some (.ok none),
        some (.ok (some .filterOut)), some (.error ⟨.processing, .closed⟩)] ∧
      x.traffic.queue.statistics = { processing := 2, batches := 2 } ∧
      x.traffic.queue.buffered.length = 2 ∧
      r.counter "tailrace_failures_submitted_total" [("failure_type", "processing")] = 3 ∧
      r.counter "tailrace_messages_filtered_out_total" [] = 1 ∧
      r.total "tailrace_input_failures_total" = 1 := by decide +kernel +revert
  have ended : x.calls.all (·.returned?.isSome) = true ∧
      x.traffic.queue.receiverDropped = false := by decide +kernel +revert
  have built : BoundedQueue.ofCapacity? 4 = some q := rfl
  have reached : Intake.run { traffic := { queue := q } } moves = x := rfl
  have recorded : (x.notes.flatMap Note.metrics).Perm (x.notes.flatMap Note.metrics) := .refl _
  exact ⟨built, readings, metrics_reconcile_with_statistics built reached
    (List.all_eq_true.mp ended.1) ended.2 recorded⟩

end FailureIntake
