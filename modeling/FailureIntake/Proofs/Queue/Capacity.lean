import FailureIntake.Proofs.Queue.Slots

/-! The bound of a queue and its length. Producers compute the length from the permits that are
left, the receiver counts the batches that are there, and the history says which batches those
must be. The three agree whenever no slot is promised to a submission that has yet to fill it. -/
namespace FailureIntake

def Note.queueSize? : Note → Option Nat
  | .event (.queueSize n) => some n
  | _ => none

namespace Traffic

variable {t t' : Traffic} {i slots : Nat} {s s' : Submission} {q q' : BoundedQueue}
  {gone : List Batch}

/-- The lengths that submissions and the receiver reported. -/
def sizes (t : Traffic) : List Nat :=
  (t.submissions.flatMap (·.notes) ++ t.receiverNotes).filterMap Note.queueSize?

def discardedBy (t : Traffic) (move : Move) : List Batch :=
  if (t.perform move).queue.receiverDropped && !t.queue.receiverDropped then t.queue.buffered
  else []

/-- What was in the queue when its receiver was dropped. -/
def discarded (t : Traffic) : List Move → List Batch
  | [] => []
  | move :: rest => t.discardedBy move ++ (t.perform move).discarded rest

/-! The history: every accepted batch was received, or discarded, or is still there. Once batches
were discarded the queue is closed, so nothing comes after them. -/

structure Preserved (t : Traffic) (gone : List Batch) : Prop where
  order : t.accepted.map (·.batch) = t.received ++ gone ++ t.queue.buffered
  kept : t.queue.receiverDropped = false → gone = []
  dropped : t.queue.receiverDropped = true → t.queue.closed = true

theorem preserved_empty (slots : Nat) : Preserved { queue := { capacity := slots } } [] :=
  ⟨rfl, fun _ => rfl, nofun⟩

theorem Preserved.update (preserved : t.Preserved gone) (orderly : t.Orderly)
    (found : t.submissions[i]? = some s) (step : Submission.Step s t.queue s' q') :
    (t.update i s (s', q')).Preserved gone := by
  have ⟨closed, receiver, _⟩ := step.flags
  refine ⟨?_, fun kept => preserved.kept (receiver.symm.trans kept),
    fun dropped => closed.trans (preserved.dropped (receiver.symm.trans dropped))⟩
  have before := preserved.order
  rcases step.batches (orderly.owned i s found) with ⟨isIn, buffered⟩ | ⟨opened, out, isIn, buffered⟩
  · have unchanged : (t.update i s (s', q')).accepted = t.accepted := by simp [Traffic.update, isIn]
    rw [unchanged, before]
    exact congrArg (t.received ++ gone ++ ·) buffered.symm
  · have grown : (t.update i s (s', q')).accepted = t.accepted ++ [⟨i, s.caller, s.batch⟩] := by
      simp [Traffic.update, isIn, out]
    rw [grown, List.map_append, before, List.append_assoc]
    exact congrArg (t.received ++ gone ++ ·) buffered.symm

theorem Preserved.drop (preserved : t.Preserved gone) (kept : t.queue.receiverDropped = false) :
    Preserved { t with queue := t.queue.dropReceiver } (gone ++ t.queue.buffered) where
  order := by
    have before := preserved.order
    rw [preserved.kept kept] at before
    simpa [BoundedQueue.dropReceiver, received, preserved.kept kept] using before
  kept := nofun
  dropped _ := rfl

theorem Preserved.perform (preserved : t.Preserved gone) (orderly : t.Orderly) (move : Move) :
    (t.perform move).Preserved (gone ++ t.discardedBy move) := by
  have change := t.perform_change move
  unfold discardedBy
  generalize t.perform move = t' at change
  have undropped (same : t'.queue.receiverDropped = t.queue.receiverDropped)
      (preserved : t'.Preserved gone) : t'.Preserved (gone ++
        if t'.queue.receiverDropped && !t.queue.receiverDropped then t.queue.buffered else []) := by
    simpa [same] using preserved
  cases change with
  | rests => exact undropped rfl preserved
  | handles => exact undropped rfl ⟨preserved.order, preserved.kept, preserved.dropped⟩
  | called => exact undropped rfl ⟨preserved.order, preserved.kept, preserved.dropped⟩
  | operates found step => exact undropped step.flags.2.1 (preserved.update orderly found step)
  | receives kept taken =>
    have receiver := (BoundedQueue.take_flags taken).2.1
    refine undropped receiver ⟨?_, fun _ => preserved.kept kept, fun dropped => ?_⟩
    · have before := preserved.order
      rw [preserved.kept kept, (BoundedQueue.take_some taken).1] at before
      simpa [received, preserved.kept kept] using before
    · cases kept.symm.trans (receiver.symm.trans dropped)
  | findsNothing _ _ same =>
    refine undropped rfl ⟨?_, preserved.kept, preserved.dropped⟩
    rcases same with rfl | rfl
    · exact preserved.order
    · simpa [received] using preserved.order
  | closes => exact undropped rfl ⟨preserved.order, preserved.kept, fun _ => rfl⟩
  | drops kept => simpa [BoundedQueue.dropReceiver, kept] using preserved.drop kept

theorem Preserved.run (preserved : t.Preserved gone) (orderly : t.Orderly) (moves : List Move) :
    (t.run moves).Preserved (gone ++ t.discarded moves) := by
  induction moves generalizing t gone with
  | nil =>
    rw [discarded, List.append_nil]
    exact preserved
  | cons move rest ih =>
    have after := ih (preserved.perform orderly move) (perform_orderly orderly move)
    rw [List.append_assoc] at after
    exact after

/-! What is reported. A submission reports the length once its batch is in, and the receiver reports
what is left. -/

theorem sizes_enteredNotes (q : BoundedQueue) (wait : Option Duration) :
    (q.enteredNotes wait).filterMap Note.queueSize? = [q.length] := by
  cases wait <;> rfl

theorem sizes_consumedNotes (q : BoundedQueue) (b : Batch) :
    (q.consumedNotes b).filterMap Note.queueSize? = [q.buffered.length] :=
  rfl

theorem sizes_step (step : Submission.Step s q s' q') {n : Nat}
    (reported : n ∈ s'.notes.filterMap Note.queueSize?) :
    n ∈ s.notes.filterMap Note.queueSize? ∨ n = q.length := by
  have logged (entries : List LogEntry) :
      (entries.map Note.log).filterMap Note.queueSize? = [] := by
    simp [Note.queueSize?]
  cases step with
  | rests => exact .inl reported
  | turns | leaves =>
    simp only [Submission.move, List.filterMap_append, logged, List.append_nil] at reported
    exact .inl reported
  | reports =>
    simp only [Submission.move, List.filterMap_append, sizes_enteredNotes, List.mem_append,
      List.mem_singleton] at reported
    exact reported
  | enters | parks | fills | waitsOn | withdraws =>
    simp only [Submission.move, List.append_nil] at reported
    exact .inl reported

theorem mem_sizes {n : Nat} :
    n ∈ t.sizes ↔ (∃ s ∈ t.submissions, n ∈ s.notes.filterMap Note.queueSize?) ∨
      n ∈ t.receiverNotes.filterMap Note.queueSize? := by
  simp only [sizes, List.filterMap_append, List.mem_append, List.filterMap_flatMap, List.mem_flatMap]

theorem length_le_capacity (fits : q.Fits slots) : q.length ≤ slots :=
  fits.capacity ▸ Nat.sub_le _ _

theorem sizes_change (fits : t.queue.Fits slots) (within : ∀ n ∈ t.sizes, n ≤ slots)
    (change : Change t t') : ∀ n ∈ t'.sizes, n ≤ slots := by
  intro n member
  cases change with
  | rests | handles | findsNothing | closes | drops => exact within n member
  | called caller route batch =>
    rw [mem_sizes] at member
    rcases member with ⟨s, among, reported⟩ | reported
    · rcases List.mem_append.mp among with earlier | fresh
      · exact within n (mem_sizes.mpr (.inl ⟨s, earlier, reported⟩))
      · rw [List.mem_singleton] at fresh
        subst fresh
        cases reported
    · exact within n (mem_sizes.mpr (.inr reported))
  | @operates i s s' q' found step =>
    rw [mem_sizes] at member
    rcases member with ⟨u, among, reported⟩ | reported
    · rcases List.mem_or_eq_of_mem_set among with other | rfl
      · exact within n (mem_sizes.mpr (.inl ⟨u, other, reported⟩))
      · rcases sizes_step step reported with earlier | rfl
        · exact within n (mem_sizes.mpr (.inl ⟨s, List.mem_of_getElem? found, earlier⟩))
        · exact length_le_capacity fits
    · exact within n (mem_sizes.mpr (.inr reported))
  | @receives b q' _ taken =>
    rw [mem_sizes] at member
    rcases member with own | reported
    · exact within n (mem_sizes.mpr (.inl own))
    · rw [List.filterMap_append, sizes_consumedNotes, List.mem_append, List.mem_singleton] at reported
      rcases reported with earlier | rfl
      · exact within n (mem_sizes.mpr (.inr earlier))
      · have := (fits.take taken).taken
        omega

theorem sizes_run (fits : t.queue.Fits slots) (within : ∀ n ∈ t.sizes, n ≤ slots)
    (moves : List Move) : ∀ n ∈ (t.run moves).sizes, n ≤ slots := by
  induction moves generalizing t with
  | nil => exact within
  | cons move rest ih =>
    have change := t.perform_change move
    exact ih (fits_change fits change) (sizes_change fits within change)

end Traffic

/-- Slots are free, filled or promised, and nothing else. -/
theorem BoundedQueue.Fits.length_eq {q : BoundedQueue} {slots : Nat} (fits : q.Fits slots) :
    q.length = q.buffered.length + q.granted.length := by
  have := fits.capacity
  have := fits.taken
  simp only [BoundedQueue.length, BoundedQueue.free]
  omega

namespace Traffic

variable {t : Traffic} {q : BoundedQueue}

/-- The three views of a queue's length: the permits that were counted, the batches that are there,
and the history. -/
structure Occupied (t : Traffic) (slots : Nat) (counted : Semaphore) (gone : List Batch) : Prop where
  capacity : t.queue.capacity = slots
  permits : counted.permits ≤ slots
  length : t.queue.length = slots - counted.permits
  order : t.accepted.map (·.batch) = t.received ++ gone ++ t.queue.buffered
  settled : counted.holders = [] →
    t.queue.buffered.length ≤ slots ∧ t.queue.length = t.queue.buffered.length ∧
      t.accepted.length = t.received.length + gone.length + t.queue.length ∧
      (t.queue.isEmpty = true ↔ t.accepted.length = t.received.length + gone.length)
  sizes : ∀ n ∈ t.sizes, n ≤ slots

theorem Preserved.occupied {slots : Nat} {counted : Semaphore} {gone : List Batch}
    (preserved : t.Preserved gone) (fits : t.queue.Fits slots)
    (same : t.queue.semaphore = counted) (sizes : ∀ n ∈ t.sizes, n ≤ slots) :
    t.Occupied slots counted gone := by
  have length := fits.length_eq
  have free : counted.permits = t.queue.free := congrArg Semaphore.permits same.symm
  have taken := fits.taken
  have order := congrArg List.length preserved.order
  simp only [List.length_map, List.length_append] at order
  refine ⟨fits.capacity, ?_, ?_, preserved.order, fun idle => ?_, sizes⟩
  · rw [free, BoundedQueue.free, fits.capacity]
    exact Nat.sub_le _ _
  · rw [BoundedQueue.length, fits.capacity, free]
  · have none : t.queue.granted.length = 0 := by
      rw [← same] at idle
      rw [← List.length_map (·.ticket)]
      exact congrArg List.length idle
    refine ⟨by omega, by omega, by omega, ?_⟩
    rw [BoundedQueue.isEmpty, beq_iff_eq]
    omega

theorem built_fits {requested : Nat} (built : BoundedQueue.ofCapacity? requested = some q) :
    q = { capacity := max requested 1 } ∧ q.Fits (max requested 1) := by
  unfold BoundedQueue.ofCapacity? at built
  split at built
  · cases built
    exact ⟨rfl, rfl, Nat.zero_le _⟩
  · cases built

/-- From any queue that can be built, in every state: there are as many slots as were asked for, and
at least one; permits counted along the run never exceed them, and what they leave is the length.
Where no slot is promised, this is the number of batches in the queue, which are those that were
accepted and neither received nor discarded. -/
theorem capacity_bounds_length {requested : Nat}
    (built : BoundedQueue.ofCapacity? requested = some q) {moves : List Move}
    (reached : run { queue := q } moves = t) :
    t.Occupied (max requested 1)
      (Semaphore.run { permits := max requested 1 } { queue := q } moves)
      (discarded { queue := q } moves) := by
  have orderly := built_orderly built
  obtain ⟨rfl, fits⟩ := built_fits built
  have ticketed : Ticketed { queue := { capacity := max requested 1 } } := ticketed_empty rfl
  have counted := semaphore_run fits ticketed orderly moves
  have preserved := (preserved_empty (max requested 1)).run orderly moves
  have silent : ∀ n ∈ sizes { queue := { capacity := max requested 1 } }, n ≤ max requested 1 := by
    intro n member
    cases member
  have sizes := sizes_run fits silent moves
  have fits := run_fits (t := { queue := { capacity := max requested 1 } }) fits moves
  rw [reached] at counted preserved sizes fits
  exact preserved.occupied fits counted sizes

/-- Of no slots asked for there is one. It is handed on from the first batch to the second, and given
back when that is discarded. -/
theorem capacity_of_one_slot :
    let record := fun id => Batch.single (Failure.indexing ⟨0, 0⟩ ⟨"cause"⟩ id "index" "details")
    let q : BoundedQueue := { capacity := 1 }
    let moves : List Move :=
      [.call 0 .async (record "a"), .advance 0 ⟨0, 0⟩, .advance 0 ⟨0, 0⟩,
        .call 1 (.blocking .multiThread) (record "b"), .advance 1 ⟨0, 0⟩, .advance 1 ⟨0, 0⟩,
        .receiver (.receive .blocking), .advance 1 ⟨1, 0⟩, .advance 1 ⟨1, 0⟩, .receiver .drop]
    let t := run { queue := q } moves
    BoundedQueue.ofCapacity? 0 = some q ∧ discarded { queue := q } moves = [record "b"] ∧
      t.sizes = [1, 1, 0] ∧ t.accepted.length = 2 ∧ t.queue.length = 0 ∧
      t.Occupied 1 { permits := 1, closed := true } [record "b"] := by
  intro record q moves t
  have gone : discarded { queue := q } moves = [record "b"] := by decide +kernel +revert
  have counted : Semaphore.run { permits := 1 } { queue := q } moves =
      { permits := 1, closed := true } := by decide +kernel +revert
  have sizes : t.sizes = [1, 1, 0] := by decide +kernel +revert
  have accepted : t.accepted.length = 2 := by decide +kernel +revert
  have length : t.queue.length = 0 := by decide +kernel +revert
  have built : BoundedQueue.ofCapacity? 0 = some q := rfl
  have occupied := capacity_bounds_length (t := t) built (Eq.refl (run _ moves))
  rw [gone] at occupied
  exact ⟨built, gone, sizes, accepted, length, counted ▸ occupied⟩

end Traffic

end FailureIntake
