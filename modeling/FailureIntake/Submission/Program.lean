import FailureIntake.Message
import FailureIntake.Observability.Event
import FailureIntake.Queue.Error
import FailureIntake.Batch

/-! Submission programs. A call of the submission service is written as the acts it performs, one
after the other, on a world that answers them: the policy, the clock, the message's lazy causes
and the queue. What a call does is then a property of the program alone, for every world. -/
namespace FailureIntake

abbrev QueueAnswer := Except QueueError Unit

instance : DecidableEq QueueAnswer
  | .ok (), .ok () => isTrue rfl
  | .ok (), .error _ => isFalse nofun
  | .error _, .ok () => isFalse nofun
  | .error a, .error b =>
    if h : a = b then isTrue (h ▸ rfl) else isFalse fun e => h (Except.error.inj e)

/-- The acts of a call, each with what follows it. -/
inductive Program (α : Type) where
  | done (result : α)
  | readSubmit (next : Bool → Program α)
  /-- Asks the policy whether a failed message is kept as a duplicate. -/
  | readKeep (next : Bool → Program α)
  | evaluate (error : ProcessingError) (next : Cause → Program α)
  | stamp (next : Instant → Program α)
  | note (n : Note) (next : Program α)
  /-- Hands a batch to the queue and waits for its answer. -/
  | submit (batch : Batch) (next : QueueAnswer → Program α)

namespace Program

def bind {α β : Type} : Program α → (α → Program β) → Program β
  | .done a, f => f a
  | .readSubmit k, f => .readSubmit fun b => (k b).bind f
  | .readKeep k, f => .readKeep fun b => (k b).bind f
  | .evaluate e k, f => .evaluate e fun c => (k c).bind f
  | .stamp k, f => .stamp fun t => (k t).bind f
  | .note n k, f => .note n (k.bind f)
  | .submit b k, f => .submit b fun r => (k r).bind f

instance : Monad Program where
  pure := .done
  bind := bind

end Program

/-- One act with the world's answer to it. A submission without an answer is one that still
waits. -/
inductive Act where
  | readSubmit (answer : Bool)
  | readKeep (answer : Bool)
  | evaluated (cause : Cause)
  | noted (n : Note)
  | offered (batch : Batch) (answer : Option QueueAnswer) (queueNotes : List Note)

/-- The answer to a submission, with what the queue reports meanwhile. -/
structure Attempt (σ : Type) where
  answer : Option QueueAnswer
  notes : List Note
  world : σ

/-- Something that answers every act of a program from a state `σ`. -/
structure World (σ : Type) where
  readSubmit : σ → Bool × σ
  readKeep : σ → Bool × σ
  now : σ → Instant × σ
  submit : σ → Batch → Attempt σ

/-- A program that has ended, or that waits for the answer to a submission. -/
inductive Progress (α : Type) where
  | finished (result : α)
  | waiting (next : QueueAnswer → Program α)

/-- The acts of a run in order, and where they lead. -/
structure Run (σ α : Type) where
  acts : List Act
  progress : Progress α
  world : σ

namespace Run

variable {σ α : Type}

/-- The run with one act before it. -/
def after (act : Act) (r : Run σ α) : Run σ α :=
  { r with acts := act :: r.acts }

end Run

/-- Runs a program until it ends or has to wait. -/
def Program.run {σ α : Type} (w : World σ) : Program α → σ → Run σ α
  | .done a, s => ⟨[], .finished a, s⟩
  | .readSubmit k, s => ((k (w.readSubmit s).1).run w (w.readSubmit s).2).after
      (.readSubmit (w.readSubmit s).1)
  | .readKeep k, s => ((k (w.readKeep s).1).run w (w.readKeep s).2).after
      (.readKeep (w.readKeep s).1)
  | .evaluate e k, s => ((k e.cause).run w s).after (.evaluated e.cause)
  | .stamp k, s => (k (w.now s).1).run w (w.now s).2
  | .note n k, s => (k.run w s).after (.noted n)
  | .submit b k, s =>
    match w.submit s b with
    | ⟨some answer, notes, s'⟩ => ((k answer).run w s').after (.offered b (some answer) notes)
    | ⟨none, notes, s'⟩ => ⟨[.offered b none notes], .waiting k, s'⟩

inductive PolicyQuestion where
  /-- Are processing failures submitted at all? -/
  | submit
  /-- Does a failed message go on as a duplicate of its record? -/
  | keep
deriving DecidableEq, Repr

namespace Act

/-- The question that an act put to the policy. -/
def question? : Act → Option PolicyQuestion
  | .readSubmit _ => some .submit
  | .readKeep _ => some .keep
  | _ => none

def cause? : Act → Option Cause
  | .evaluated c => some c
  | _ => none

/-- The batch that an act handed to the queue. -/
def batch? : Act → Option Batch
  | .offered b _ _ => some b
  | _ => none

def notes : Act → List Note
  | .noted n => [n]
  | .offered _ _ ns => ns
  | _ => []

end Act

end FailureIntake
