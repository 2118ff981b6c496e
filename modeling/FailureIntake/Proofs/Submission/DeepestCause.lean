import FailureIntake.Proofs.Submission.Indexing
import Mathlib.Data.List.TakeWhile

/-! The failure of an input says what is known of its deepest cause. Only the outermost error of a
chain has a known type; the errors below it are known by the texts they show. -/
namespace FailureIntake

open Act

/-- The longest run of characters of a class that the text begins with. -/
structure IsLeadingRun (p : Char → Bool) (text run : List Char) : Prop where
  starts : run <+: text
  within : ∀ c ∈ run, p c = true
  longest : ∀ other, other <+: text → (∀ c ∈ other, p c = true) → other.length ≤ run.length

theorem isLeadingRun_iff {p : Char → Bool} {text run : List Char} :
    IsLeadingRun p text run ↔ text.takeWhile p = run := by
  have taken : IsLeadingRun p text (text.takeWhile p) := by
    refine ⟨List.takeWhile_prefix p, fun c member => List.mem_takeWhile_imp member, ?_⟩
    rintro other ⟨rest, rfl⟩ within
    rw [List.takeWhile_append_of_pos within, List.length_append]
    exact Nat.le_add_right _ _
  refine ⟨fun leading => ?_, fun same => same ▸ taken⟩
  have shorter := leading.longest _ taken.starts taken.within
  have longer := taken.longest _ leading.starts leading.within
  exact (List.prefix_of_prefix_length_le taken.starts leading.starts shorter).eq_of_length_le longer

/-- What stands after the last `::` of a path, which is all of it if there is none. -/
inductive IsLastSegment (path : List Char) : List Char → Prop where
  | all (single : ¬ [':', ':'] <:+: path) : IsLastSegment path path
  | after {before name : List Char} (split : path = before ++ [':', ':'] ++ name)
      (last : ∀ before' name', path = before' ++ [':', ':'] ++ name' → name.length ≤ name'.length) :
      IsLastSegment path name

theorem IsLastSegment.unique {path name name' : List Char} (first : IsLastSegment path name)
    (second : IsLastSegment path name') : name = name' := by
  cases first with
  | all single =>
    cases second with
    | all => rfl
    | after split => exact absurd ⟨_, _, split.symm⟩ single
  | after split last =>
    cases second with
    | all single => exact absurd ⟨_, _, split.symm⟩ single
    | after split' last' =>
      have length := Nat.le_antisymm (last _ _ split') (last' _ _ split)
      exact List.append_inj_right' (split.symm.trans split') length

namespace RootCause

theorem beforePathSeparator_spec (path : List Char) :
    (¬ [':', ':'] <:+: path ∧ beforePathSeparator path = path) ∨
      ∃ after, path = beforePathSeparator path ++ [':', ':'] ++ after ∧
        ∀ before' after', path = before' ++ [':', ':'] ++ after' →
          (beforePathSeparator path).length ≤ before'.length := by
  fun_induction beforePathSeparator path with
  | case1 rest => exact .inr ⟨rest, rfl, fun _ _ _ => Nat.zero_le _⟩
  | case2 c rest elsewhere ih =>
    have later {before' after' : List Char} (split : c :: rest = before' ++ [':', ':'] ++ after') :
        ∃ before, before' = c :: before ∧ rest = before ++ [':', ':'] ++ after' := by
      cases before' with
      | nil =>
        cases split
        exact (elsewhere _ rfl rfl).elim
      | cons d before =>
        cases split
        exact ⟨before, rfl, rfl⟩
    rcases ih with ⟨single, same⟩ | ⟨after, split, first⟩
    · refine .inl ⟨?_, by rw [same]⟩
      rintro ⟨before', after', split⟩
      obtain ⟨before, _, inner⟩ := later split.symm
      exact single ⟨before, after', inner.symm⟩
    · refine .inr ⟨after, congrArg (c :: ·) split, fun before' after' split' => ?_⟩
      obtain ⟨before, rfl, inner⟩ := later split'
      exact Nat.succ_le_succ (first before after' inner)
  | case3 => exact .inl ⟨by simp, rfl⟩

-- The separator reads the same from both ends, so the last one is the first one of the reverse.
theorem isLastSegment_afterLastPathSeparator (path : List Char) :
    IsLastSegment path (afterLastPathSeparator path) := by
  have reversed {before name : List Char} (split : path = before ++ [':', ':'] ++ name) :
      path.reverse = name.reverse ++ [':', ':'] ++ before.reverse := by
    simp [split]
  rcases beforePathSeparator_spec path.reverse with ⟨single, same⟩ | ⟨after, split, first⟩
  · have whole : afterLastPathSeparator path = path := by
      rw [afterLastPathSeparator, same, List.reverse_reverse]
    rw [whole]
    refine .all ?_
    rintro ⟨before, name, split⟩
    exact single ⟨_, _, (reversed split.symm).symm⟩
  · have ends : path = after.reverse ++ [':', ':'] ++ afterLastPathSeparator path := by
      have again := congrArg List.reverse split
      simpa [afterLastPathSeparator] using again
    refine .after ends fun before' name' split' => ?_
    have shorter := first _ _ (reversed split')
    simpa [afterLastPathSeparator] using shorter

theorem isLastSegment_iff {path name : List Char} :
    IsLastSegment path name ↔ afterLastPathSeparator path = name :=
  ⟨(isLastSegment_afterLastPathSeparator path).unique,
    fun same => same ▸ isLastSegment_afterLastPathSeparator path⟩

end RootCause

/-- The simple name of a type, as it is shown: the name is cut at its first `<`, and what follows the last
`::` in front of the cut is left. -/
def IsSimpleName (full name : List Char) : Prop :=
  ∃ path, IsLeadingRun (· ≠ '<') full path ∧ IsLastSegment path name

theorem isSimpleName_iff {full name : List Char} :
    IsSimpleName full name ↔ RootCause.simpleTypeName full = name := by
  simp only [IsSimpleName, isLeadingRun_iff, RootCause.isLastSegment_iff, RootCause.simpleTypeName,
    exists_eq_left']

def isNameChar (c : Char) : Bool :=
  Text.isAlphanumeric c || c == '_'

/-- What is said of an exception with this message, by the errors that caused it. -/
inductive Diagnosis (message : String) : Option ErrorChain → String → Prop where
  | uncaused : Diagnosis message none message
  | outermost {e : ErrorChain} {name : List Char} (alone : e.sources = [])
      (named : IsSimpleName e.typeName.toList name) :
      Diagnosis message (some e) (String.ofList name ++ ": " ++ e.display)
  | deepest {e : ErrorChain} {above : List SourceError} {root : SourceError} {name : List Char}
      (chain : e.sources = above ++ [root])
      (named : IsLeadingRun isNameChar root.inspected.toList name) :
      Diagnosis message (some e)
        ((if name = [] then "Error" else String.ofList name) ++ ": " ++ root.display)

theorem RootCause.inspectedTypeName_eq (inspected : List Char) :
    String.ofList (inspectedTypeName inspected) =
      if inspected.takeWhile isNameChar = [] then "Error"
      else String.ofList (inspected.takeWhile isNameChar) := by
  unfold inspectedTypeName
  split
  · next none =>
    rw [if_pos (show inspected.takeWhile isNameChar = [] from none)]
    exact String.ofList_toList
  · next some =>
    rw [if_neg (show ¬ inspected.takeWhile isNameChar = [] from some)]
    rfl

section Details

variable {message : String} {raw : RawMessage} {e : ErrorChain}

theorem details_outermost (alone : e.sources = []) :
    (InputException.raised message (some e) raw).details =
      String.ofList (RootCause.simpleTypeName e.typeName.toList) ++ ": " ++ e.display := by
  simp [InputException.raised, InputException.details, RootCause.ofChain, RootCause.describe, alone]

theorem details_deepest {above : List SourceError} {root : SourceError}
    (chain : e.sources = above ++ [root]) :
    (InputException.raised message (some e) raw).details =
      String.ofList (RootCause.inspectedTypeName root.inspected.toList) ++ ": " ++ root.display := by
  simp [InputException.raised, InputException.details, RootCause.ofChain, RootCause.describe, chain]

/-- The details are the diagnosis, and there is no other. -/
theorem diagnosis_iff {cause : Option ErrorChain} {text : String} :
    Diagnosis message cause text ↔ (InputException.raised message cause raw).details = text := by
  constructor
  · intro diagnosis
    cases diagnosis with
    | uncaused => rfl
    | outermost alone named => rw [details_outermost alone, isSimpleName_iff.mp named]
    | deepest chain named =>
      rw [details_deepest chain, RootCause.inspectedTypeName_eq, isLeadingRun_iff.mp named]
  · rintro rfl
    cases cause with
    | none => exact .uncaused
    | some e =>
      rcases List.eq_nil_or_concat' e.sources with alone | ⟨above, root, chain⟩
      · rw [details_outermost alone]
        exact .outermost alone (isSimpleName_iff.mpr rfl)
      · rw [details_deepest chain, RootCause.inspectedTypeName_eq]
        exact .deepest chain (isLeadingRun_iff.mpr rfl)

-- Neither upper error leaves a trace, and the root's text does not begin with a name.
example : (RootCause.ofChain ⟨"io::Wrapper<io::Error>", "wrapped",
    [⟨"middle", "Outer"⟩, ⟨"root message", "\"bare\""⟩]⟩).describe = "Error: root message" := by
  decide +kernel

end Details

namespace Service

variable {σ : Type}

/-- The record of an input's failure is all that the call hands to the queue. -/
theorem run_submitInputFailure (w : World σ) (e : InputException) (inputId : String) (s : σ) :
    ∃ now answer,
      FilesOnce (.single (.input now e.raw.id.text e.raw.receivedAt inputId e.message e.details)) answer
        ((submitInputFailure e inputId).run w s) := by
  refine ⟨(w.now s).1, _, filesOnce_of_reports ?_ (w.now s).2⟩
  rintro (reason | ⟨⟩) later
  · exact ⟨[], rfl⟩
  · exact ⟨[.event (.batchSubmitted .input 1), .event (.inputFailureRecorded inputId)], rfl⟩

/-- An exception's details are its own text if it has no cause. Otherwise they name the deepest error
of the chain, whatever the errors above it are. The call hands exactly one failure with these
details to the queue, without a question to the policy. -/
theorem input_failure_reports_deepest_cause (w : World σ) (s : σ) (message : String)
    (cause : Option ErrorChain) (raw : RawMessage) (inputId : String) :
    let e := InputException.raised message cause raw
    let run := (submitInputFailure e inputId).run w s
    (∀ text, Diagnosis message cause text ↔ e.details = text) ∧
      (∀ typeName display above root,
        (InputException.raised message (some ⟨typeName, display, above ++ [root]⟩) raw).details =
          (InputException.raised message (some ⟨"", "", [root]⟩) raw).details) ∧
      ∃ batch f answer, FilesOnce batch answer run ∧ batch.failures = [f] ∧
        IsInputRecord message raw inputId f ∧ Diagnosis message cause f.details := by
  intro e run
  obtain ⟨now, answer, files⟩ := run_submitInputFailure w e inputId s
  refine ⟨fun text => diagnosis_iff, fun typeName display above root => ?_, _, _, answer, files, rfl,
    isInputRecord_input now message raw inputId e.details, diagnosis_iff.mpr rfl⟩
  rw [details_deepest rfl, details_deepest (List.nil_append [root]).symm]

end Service

end FailureIntake
