import FailureIntake.Proofs.Text.Runs
import FailureIntake.RootCause

/-! The names of types, as paths. A segment of a path may carry arguments in angle brackets, and a
segment before the last may consist of brackets alone, which stand for an implementation or for a
type seen as a trait. The simple name of a type is cut at the first bracket of its path, so it is the
name of the last segment just as long as no segment before the last has brackets. -/
namespace FailureIntake

/-- A text in which each bracket that opens is closed. The head of an arrow is no bracket. -/
inductive Balanced : List Char → Prop where
  | nil : Balanced []
  | plain {c : Char} {s : List Char} : c ≠ '<' → c ≠ '>' → Balanced s → Balanced (c :: s)
  | arrow {s : List Char} : Balanced s → Balanced ('-' :: '>' :: s)
  | group {inner s : List Char} : Balanced inner → Balanced s →
      Balanced ('<' :: (inner ++ '>' :: s))

theorem Balanced.of_plain {s : List Char} (plain : ∀ c ∈ s, c ≠ '<' ∧ c ≠ '>') : Balanced s := by
  induction s with
  | nil => exact .nil
  | cons c s ih =>
    obtain ⟨⟨notOpen, notClose⟩, later⟩ := List.forall_mem_cons.mp plain
    exact .plain notOpen notClose (ih later)

/-- A name has a character at least, and no colons and brackets. -/
structure Identifier where
  text : List Char
  nonempty : text ≠ []
  no_colon : ':' ∉ text
  no_bracket : '<' ∉ text ∧ '>' ∉ text

/-- What stands in angle brackets. -/
structure Bracketed where
  inner : List Char
  balanced : Balanced inner

def Bracketed.text (b : Bracketed) : List Char :=
  '<' :: (b.inner ++ ['>'])

inductive PathSegment where
  | named (name : Identifier) (arguments : Option Bracketed)
  | bracketed (content : Bracketed)

namespace PathSegment

def text : PathSegment → List Char
  | named name none => name.text
  | named name (some arguments) => name.text ++ arguments.text
  | bracketed content => content.text

/-- What stands in front of the brackets. -/
def name : PathSegment → List Char
  | named name _ => name.text
  | bracketed _ => []

def hasBrackets : PathSegment → Bool
  | named _ arguments => arguments.isSome
  | bracketed _ => true

theorem no_bracket (s : PathSegment) : ∀ c ∈ s.name, c ≠ '<' := by
  cases s with
  | bracketed _ => nofun
  | named name _ => exact fun c member same => name.no_bracket.1 (same ▸ member)

theorem no_colon (s : PathSegment) : ':' ∉ s.name := by
  cases s with
  | bracketed _ => nofun
  | named name _ => exact name.no_colon

/-- Brackets end what is kept of a text, and a segment without them does not. -/
theorem takeWhile_text (s : PathSegment) (rest : List Char) : (s.text ++ rest).takeWhile (· ≠ '<') =
    if s.hasBrackets then s.name else s.name ++ rest.takeWhile (· ≠ '<') := by
  have kept : ∀ c ∈ s.name, decide (c ≠ '<') := fun c member => decide_eq_true (s.no_bracket c member)
  cases s with
  | bracketed content => rfl
  | named name arguments =>
    cases arguments with
    | none => exact List.takeWhile_append_of_pos kept
    | some arguments =>
      rw [text, List.append_assoc]
      exact Text.takeWhile_run kept (Text.endsRun_cons.mpr (by decide))

end PathSegment

/-- The name of a type: segments, and at the end a name that may have arguments. -/
structure TypePath where
  outer : List PathSegment
  name : Identifier
  arguments : Option Bracketed

namespace TypePath

def last (p : TypePath) : PathSegment :=
  .named p.name p.arguments

def text (p : TypePath) : List Char :=
  p.outer.flatMap (fun s => s.text ++ [':', ':']) ++ p.last.text

/-- The first segment with brackets, and the last one if no segment before it has any. -/
def cut (p : TypePath) : PathSegment :=
  (p.outer.find? (·.hasBrackets)).getD p.last

end TypePath

namespace RootCause

theorem beforePathSeparator_append {name : List Char} (plain : ':' ∉ name) (rest : List Char) :
    beforePathSeparator (name ++ rest) = name ++ beforePathSeparator rest := by
  induction name with
  | nil => rfl
  | cons c name ih =>
    rw [List.mem_cons, not_or] at plain
    rw [List.cons_append, beforePathSeparator, ih plain.2, List.cons_append]
    exact fun _ same => absurd same (Ne.symm plain.1)

theorem afterLastPathSeparator_append {name : List Char} (plain : ':' ∉ name) (above : List Char) :
    afterLastPathSeparator (above ++ [':', ':'] ++ name) = name := by
  have plain : ':' ∉ name.reverse := mt List.mem_reverse.mp plain
  simp [afterLastPathSeparator, beforePathSeparator_append plain, beforePathSeparator]

theorem afterLastPathSeparator_self {name : List Char} (plain : ':' ∉ name) :
    afterLastPathSeparator name = name := by
  have plain : ':' ∉ name.reverse := mt List.mem_reverse.mp plain
  have same := beforePathSeparator_append plain []
  rw [List.append_nil, beforePathSeparator, List.append_nil] at same
  rw [afterLastPathSeparator, same, List.reverse_reverse]

end RootCause

namespace TypePath

/-- Of the path there is left what stands before the segment that is cut, and the name of this segment. -/
theorem takeWhile_text (p : TypePath) : ∃ before : List Char,
    (before = [] ∨ ∃ above, before = above ++ [':', ':']) ∧
      p.text.takeWhile (· ≠ '<') = before ++ p.cut.name := by
  obtain ⟨outer, name, arguments⟩ := p
  induction outer with
  | nil =>
    refine ⟨[], .inl rfl, ?_⟩
    have alone := (PathSegment.named name arguments).takeWhile_text []
    rw [List.append_nil, List.takeWhile_nil, List.append_nil, ite_self] at alone
    exact alone
  | cons s outer ih =>
    obtain ⟨before, ends, later⟩ := ih
    have first := s.takeWhile_text (':' :: ':' :: (mk outer name arguments).text)
    have text : (mk (s :: outer) name arguments).text =
        s.text ++ ':' :: ':' :: (mk outer name arguments).text := by simp [TypePath.text, last]
    rw [text, first, cut, List.find?_cons]
    cases s.hasBrackets with
    | true => exact ⟨[], .inl rfl, rfl⟩
    | false =>
      refine ⟨s.name ++ ':' :: ':' :: before, .inr ?_, ?_⟩
      · rcases ends with rfl | ⟨above, rfl⟩
        · exact ⟨s.name, rfl⟩
        · exact ⟨s.name ++ ':' :: ':' :: above, by simp⟩
      · simp only [ne_eq, List.takeWhile_cons, Char.reduceEq, not_false_eq_true, decide_true, if_true]
        rw [later]
        simp [cut, last]

theorem simpleTypeName_text (p : TypePath) : RootCause.simpleTypeName p.text = p.cut.name := by
  obtain ⟨before, ends, left⟩ := p.takeWhile_text
  rw [RootCause.simpleTypeName, left]
  rcases ends with rfl | ⟨above, rfl⟩
  · exact RootCause.afterLastPathSeparator_self p.cut.no_colon
  · exact RootCause.afterLastPathSeparator_append p.cut.no_colon above

theorem cut_eq_last {p : TypePath} (none : ∀ s ∈ p.outer, s.hasBrackets = false) : p.cut = p.last := by
  have absent : p.outer.find? (·.hasBrackets) = .none := by simpa using none
  rw [cut, absent, Option.getD_none]

theorem name_cut_eq_nil {p : TypePath} : p.cut.name = [] ↔ ∃ content, p.cut = .bracketed content := by
  cases p.cut with
  | bracketed content => simp [PathSegment.name]
  | named name _ => simp [PathSegment.name, name.nonempty]

end TypePath

/-- The simple name is that of the first segment with brackets. So it is the name of the last segment,
and not empty, if no segment before it has brackets; and the details of an error have no name in
front just if the first brackets are a segment of their own. -/
theorem simple_name_ends_at_brackets (p : TypePath) (display : String) :
    let root := RootCause.ofChain ⟨String.ofList p.text, display, []⟩
    RootCause.simpleTypeName p.text = p.cut.name ∧ root.typeName = String.ofList p.cut.name ∧
      ((∀ s ∈ p.outer, s.hasBrackets = false) →
        root.typeName = String.ofList p.name.text ∧ root.typeName ≠ "") ∧
      ([':', ' '] <+: root.describe.toList ↔ ∃ content, p.cut = .bracketed content) := by
  intro root
  have typeName : root.typeName = String.ofList p.cut.name := by
    simp only [root, RootCause.ofChain, List.getLast?_nil, String.toList_ofList, p.simpleTypeName_text]
  refine ⟨p.simpleTypeName_text, typeName, fun none => ?_, ?_⟩
  · rw [typeName, TypePath.cut_eq_last none]
    refine ⟨rfl, fun empty => p.name.nonempty ?_⟩
    exact String.ofList_injective empty
  · have describe : root.describe.toList = p.cut.name ++ ':' :: ' ' :: root.message.toList := by
      simp [RootCause.describe, typeName]
    rw [← TypePath.name_cut_eq_nil, describe]
    have plain := p.cut.no_colon
    cases given : p.cut.name with
    | nil => simp
    | cons c name =>
      rw [given, List.mem_cons, not_or] at plain
      simp [plain.1]

/-- A type inside of a method of an implementation: the brackets come first, and nothing is left of
the path but the empty text in front of them. -/
theorem qualified_path_without_simple_name :
    let plain (s : String) (h : ∀ c ∈ s.toList, c ≠ '<' ∧ c ≠ '>') : Bracketed :=
      ⟨s.toList, .of_plain h⟩
    let p : TypePath :=
      ⟨[.bracketed (plain "a::T as b::U" (by simp)),
        .named ⟨"m".toList, by decide, by decide, by decide⟩ none],
        ⟨"Inner".toList, by decide, by decide, by decide⟩, none⟩
    String.ofList p.text = "<a::T as b::U>::m::Inner" ∧ String.ofList p.name.text = "Inner" ∧
      String.ofList (RootCause.simpleTypeName p.text) = "" ∧
      (RootCause.ofChain ⟨"<a::T as b::U>::m::Inner", "text", []⟩).describe = ": text" := by
  decide +kernel

end FailureIntake
