import FailureIntake.Submission.Program

/-! What a program can perform, whatever its world answers. A performance leads from a program to
what is left of it, so it describes calls that have returned and calls that are still under way.
The laws for each act and for composition let a property of a call be shown once and hold for
every policy and every queue, for one thread and for many. -/
namespace FailureIntake

namespace Act

def offer? : Act → Option (Batch × Option QueueAnswer)
  | .offered b answer _ => some (b, answer)
  | _ => none

def accepted? : Act → Option Batch
  | .offered b (some (.ok ())) _ => some b
  | _ => none

def offers (acts : List Act) : List (Batch × Option QueueAnswer) :=
  acts.filterMap offer?

theorem offers_append (first last : List Act) :
    offers (first ++ last) = offers first ++ offers last :=
  List.filterMap_append

def acceptedBatches (acts : List Act) : List Batch :=
  acts.filterMap accepted?

theorem acceptedBatches_append (first last : List Act) :
    acceptedBatches (first ++ last) = acceptedBatches first ++ acceptedBatches last :=
  List.filterMap_append

def questions (acts : List Act) : List PolicyQuestion :=
  acts.filterMap question?

/-- The act is no refusal by the policy. -/
def Permitted : Act → Prop
  | .readSubmit answer | .readKeep answer => answer = true
  | _ => True

instance : DecidablePred Permitted
  | .readSubmit answer | .readKeep answer => inferInstanceAs (Decidable (answer = true))
  | .evaluated _ | .noted _ | .offered _ _ _ => isTrue trivial

end Act

namespace Program

variable {σ α β : Type}

/-- From a program, through acts in order, to the rest of the program. The clock leaves no act. -/
inductive Performs : Program α → List Act → Program α → Prop where
  | nothing (p : Program α) : Performs p [] p
  | readSubmit {k : Bool → Program α} {answer : Bool} {acts : List Act} {rest : Program α} :
      Performs (k answer) acts rest → Performs (.readSubmit k) (.readSubmit answer :: acts) rest
  | readKeep {k : Bool → Program α} {answer : Bool} {acts : List Act} {rest : Program α} :
      Performs (k answer) acts rest → Performs (.readKeep k) (.readKeep answer :: acts) rest
  | evaluate {e : ProcessingError} {k : Cause → Program α} {acts : List Act} {rest : Program α} :
      Performs (k e.cause) acts rest → Performs (.evaluate e k) (.evaluated e.cause :: acts) rest
  | stamp {k : Instant → Program α} {now : Instant} {acts : List Act} {rest : Program α} :
      Performs (k now) acts rest → Performs (.stamp k) acts rest
  | note {n : Note} {k : Program α} {acts : List Act} {rest : Program α} :
      Performs k acts rest → Performs (.note n k) (.noted n :: acts) rest
  | submit {b : Batch} {k : QueueAnswer → Program α} {answer : QueueAnswer} {notes : List Note}
      {acts : List Act} {rest : Program α} :
      Performs (k answer) acts rest →
        Performs (.submit b k) (.offered b (some answer) notes :: acts) rest

theorem Performs.trans {p q r : Program α} {first last : List Act}
    (before : Performs p first q) (after : Performs q last r) : Performs p (first ++ last) r := by
  induction before with
  | nothing p => exact after
  | readSubmit _ ih => exact .readSubmit (ih after)
  | readKeep _ ih => exact .readKeep (ih after)
  | evaluate _ ih => exact .evaluate (ih after)
  | stamp _ ih => exact .stamp (ih after)
  | note _ ih => exact .note (ih after)
  | submit _ ih => exact .submit (ih after)

/-- A performance up to the result. -/
def Yields (p : Program α) (acts : List Act) (result : α) : Prop :=
  Performs p acts (.done result)

section Laws

variable {acts : List Act} {result : α}

@[simp] theorem yields_done {value : α} :
    (Program.done value).Yields acts result ↔ acts = [] ∧ result = value := by
  constructor
  · intro h
    cases h
    exact ⟨rfl, rfl⟩
  · rintro ⟨rfl, rfl⟩
    exact .nothing _

@[simp] theorem yields_readSubmit {k : Bool → Program α} :
    (Program.readSubmit k).Yields acts result ↔
      ∃ answer more, acts = .readSubmit answer :: more ∧ (k answer).Yields more result := by
  constructor
  · intro h
    cases h with
    | readSubmit h => exact ⟨_, _, rfl, h⟩
  · rintro ⟨answer, more, rfl, h⟩
    exact .readSubmit h

@[simp] theorem yields_readKeep {k : Bool → Program α} :
    (Program.readKeep k).Yields acts result ↔
      ∃ answer more, acts = .readKeep answer :: more ∧ (k answer).Yields more result := by
  constructor
  · intro h
    cases h with
    | readKeep h => exact ⟨_, _, rfl, h⟩
  · rintro ⟨answer, more, rfl, h⟩
    exact .readKeep h

@[simp] theorem yields_evaluate {e : ProcessingError} {k : Cause → Program α} :
    (Program.evaluate e k).Yields acts result ↔
      ∃ more, acts = .evaluated e.cause :: more ∧ (k e.cause).Yields more result := by
  constructor
  · intro h
    cases h with
    | evaluate h => exact ⟨_, rfl, h⟩
  · rintro ⟨more, rfl, h⟩
    exact .evaluate h

@[simp] theorem yields_stamp {k : Instant → Program α} :
    (Program.stamp k).Yields acts result ↔ ∃ now, (k now).Yields acts result := by
  constructor
  · intro h
    cases h with
    | stamp h => exact ⟨_, h⟩
  · rintro ⟨now, h⟩
    exact .stamp h

@[simp] theorem yields_note {n : Note} {k : Program α} :
    (Program.note n k).Yields acts result ↔
      ∃ more, acts = .noted n :: more ∧ k.Yields more result := by
  constructor
  · intro h
    cases h with
    | note h => exact ⟨_, rfl, h⟩
  · rintro ⟨more, rfl, h⟩
    exact .note h

@[simp] theorem yields_submit {b : Batch} {k : QueueAnswer → Program α} :
    (Program.submit b k).Yields acts result ↔
      ∃ answer notes more, acts = .offered b (some answer) notes :: more ∧
        (k answer).Yields more result := by
  constructor
  · intro h
    cases h with
    | submit h => exact ⟨_, _, _, rfl, h⟩
  · rintro ⟨answer, notes, more, rfl, h⟩
    exact .submit h

end Laws

theorem Performs.bind {p q : Program α} {acts : List Act} (h : Performs p acts q)
    (f : α → Program β) : Performs (p.bind f) acts (q.bind f) := by
  induction h with
  | nothing p => exact .nothing _
  | readSubmit _ ih => exact .readSubmit ih
  | readKeep _ ih => exact .readKeep ih
  | evaluate _ ih => exact .evaluate ih
  | stamp _ ih => exact .stamp ih
  | note _ ih => exact .note ih
  | submit _ ih => exact .submit ih

private theorem yields_parts {p : Program α} {f : α → Program β} {acts : List Act} {result : β}
    (h : (p.bind f).Yields acts result) :
    ∃ value first last, acts = first ++ last ∧ p.Yields first value ∧
      (f value).Yields last result := by
  induction p generalizing acts with
  | done a => exact ⟨a, [], acts, rfl, by simp, h⟩
  | readSubmit k ih =>
    obtain ⟨answer, more, rfl, later⟩ := yields_readSubmit.mp h
    obtain ⟨value, first, last, rfl, hp, hf⟩ := ih answer later
    exact ⟨value, _ :: first, last, rfl, .readSubmit hp, hf⟩
  | readKeep k ih =>
    obtain ⟨answer, more, rfl, later⟩ := yields_readKeep.mp h
    obtain ⟨value, first, last, rfl, hp, hf⟩ := ih answer later
    exact ⟨value, _ :: first, last, rfl, .readKeep hp, hf⟩
  | evaluate e k ih =>
    obtain ⟨more, rfl, later⟩ := yields_evaluate.mp h
    obtain ⟨value, first, last, rfl, hp, hf⟩ := ih e.cause later
    exact ⟨value, _ :: first, last, rfl, .evaluate hp, hf⟩
  | stamp k ih =>
    obtain ⟨now, later⟩ := yields_stamp.mp h
    obtain ⟨value, first, last, rfl, hp, hf⟩ := ih now later
    exact ⟨value, first, last, rfl, .stamp hp, hf⟩
  | note n k ih =>
    obtain ⟨more, rfl, later⟩ := yields_note.mp h
    obtain ⟨value, first, last, rfl, hp, hf⟩ := ih later
    exact ⟨value, _ :: first, last, rfl, .note hp, hf⟩
  | submit b k ih =>
    obtain ⟨answer, notes, more, rfl, later⟩ := yields_submit.mp h
    obtain ⟨value, first, last, rfl, hp, hf⟩ := ih answer later
    exact ⟨value, _ :: first, last, rfl, .submit hp, hf⟩

theorem yields_bind {p : Program α} {f : α → Program β} {acts : List Act} {result : β} :
    (p.bind f).Yields acts result ↔
      ∃ value first last, acts = first ++ last ∧ p.Yields first value ∧
        (f value).Yields last result := by
  constructor
  · exact yields_parts
  · rintro ⟨value, first, last, rfl, hp, hf⟩
    exact (hp.bind f).trans hf

/-- Every program can be brought to its end without a refusal by the policy. -/
theorem exists_yields_permitted (p : Program α) :
    ∃ acts result, p.Yields acts result ∧ ∀ act ∈ acts, act.Permitted := by
  induction p with
  | done a => exact ⟨[], a, .nothing _, by simp⟩
  | readSubmit k ih =>
    obtain ⟨acts, result, h, permitted⟩ := ih true
    exact ⟨_, result, .readSubmit h, by simpa [Act.Permitted] using permitted⟩
  | readKeep k ih =>
    obtain ⟨acts, result, h, permitted⟩ := ih true
    exact ⟨_, result, .readKeep h, by simpa [Act.Permitted] using permitted⟩
  | evaluate e k ih =>
    obtain ⟨acts, result, h, permitted⟩ := ih e.cause
    exact ⟨_, result, .evaluate h, by simpa [Act.Permitted] using permitted⟩
  | stamp k ih =>
    obtain ⟨acts, result, h, permitted⟩ := ih default
    exact ⟨acts, result, .stamp h, permitted⟩
  | note n k ih =>
    obtain ⟨acts, result, h, permitted⟩ := ih
    exact ⟨_, result, .note h, by simpa [Act.Permitted] using permitted⟩
  | submit b k ih =>
    obtain ⟨acts, result, h, permitted⟩ := ih (.ok ())
    have offered : Yields (.submit b k) (.offered b (some (.ok ())) [] :: acts) result := .submit h
    exact ⟨_, result, offered, by simpa [Act.Permitted] using permitted⟩

/-- A run that returns is a performance up to the result. -/
theorem yields_of_run {w : World σ} {p : Program α} {s : σ} {result : α}
    (finished : (p.run w s).progress = .finished result) :
    p.Yields (p.run w s).acts result := by
  induction p generalizing s with
  | done a =>
    cases finished
    exact .nothing _
  | readSubmit k ih => exact .readSubmit (ih _ finished)
  | readKeep k ih => exact .readKeep (ih _ finished)
  | evaluate e k ih => exact .evaluate (ih _ finished)
  | stamp k ih => exact .stamp (ih _ finished)
  | note n k ih => exact .note (ih finished)
  | submit b k ih =>
    rcases attempt : w.submit s b with ⟨_ | answer, notes, s'⟩
    · simp [Program.run, attempt] at finished
    · simp only [Program.run, attempt] at finished ⊢
      exact .submit (ih answer finished)

end Program

/-- The queue answers every submission, in whatever way. -/
def World.Answers {σ : Type} (w : World σ) : Prop :=
  ∀ s b, (w.submit s b).answer.isSome

theorem World.Answers.returns {σ α : Type} {w : World σ} (answers : w.Answers) (p : Program α)
    (s : σ) : ∃ result, (p.run w s).progress = .finished result := by
  induction p generalizing s with
  | done a => exact ⟨a, rfl⟩
  | readSubmit k ih => exact ih _ _
  | readKeep k ih => exact ih _ _
  | evaluate e k ih => exact ih _ _
  | stamp k ih => exact ih _ _
  | note n k ih => exact ih _
  | submit b k ih =>
    have answered := answers s b
    rcases attempt : w.submit s b with ⟨_ | answer, notes, s'⟩
    · simp [attempt] at answered
    · simp only [Program.run, attempt]
      exact ih answer s'

end FailureIntake
