import FailureIntake.Config.Document
import FailureIntake.Proofs.Config.Interpolation

/-! Where the characters of an interpolated text come from. What stays of the text stays in its
order, and all else is out of the values of variables. A value has no line feed and no carriage
return, so those are the text's own. YAML has three more line breaks, which are not looked for, and
with one of them a value adds a line to a document. -/
namespace FailureIntake.Config

open Piece

/-- Where a character of a result comes from: the text, or the value of a variable. -/
inductive Origin where
  | text
  | value (name : String)
deriving DecidableEq

/-- One of the pieces is a reference to the variable. -/
def Refers (ps : List Piece) (name : String) : Prop :=
  ∃ fallback, .reference name.toList fallback ∈ ps

/-- The characters of a piece that may stay: itself, or a fallback. -/
def Piece.own : Piece → List Char
  | .literal c => [c]
  | .dollar => ['$']
  | .reference _ (some d) => d.text
  | .reference _ none => []

variable {env : Environment} {s rest : List Char} {p : Piece} {ps : List Piece}

/-- A marked piece is written with its own characters, and some more. -/
theorem Marked.written (marked : Marked s p rest) : ∃ written, s = written ++ rest ∧ p.own.Sublist written := by
  cases marked with
  | dollar => exact ⟨['$', '$'], rfl, by simp [own]⟩
  | @braced name _ _ => exact ⟨'$' :: '\x7b' :: (name ++ ['\x7d']), by simp, by simp [own]⟩
  | @orEmpty name text _ _ _ =>
    refine ⟨'$' :: '\x7b' :: (name ++ ':' :: '-' :: (text ++ ['\x7d'])), by simp, ?_⟩
    have inside : text.Sublist (':' :: '-' :: (text ++ ['\x7d'])) :=
      ((List.sublist_append_left _ _).cons _).cons _
    exact ((inside.trans (List.sublist_append_right name _)).cons _).cons _
  | @orUnset name text _ _ _ =>
    refine ⟨'$' :: '\x7b' :: (name ++ '-' :: (text ++ ['\x7d'])), by simp, ?_⟩
    have inside : text.Sublist ('-' :: (text ++ ['\x7d'])) := (List.sublist_append_left _ _).cons _
    exact ((inside.trans (List.sublist_append_right name _)).cons _).cons _
  | @bare name _ _ _ => exact ⟨'$' :: name, by simp, by simp [own]⟩

/-- The pieces of a text keep characters of the text, in their order. -/
theorem Cut.own_sublist (cut : Cut s ps) : (ps.flatMap own).Sublist s := by
  induction cut with
  | nil => exact .slnil
  | marked marked _ ih =>
    obtain ⟨written, rfl, kept⟩ := marked.written
    exact kept.append ih
  | @literal c r ps _ _ ih => exact ih.cons_cons c

/-- The characters are the value of the variable, which has no line feed and no carriage return. -/
def Inserted (env : Environment) (name : String) (cs : List Char) : Prop :=
  ∃ value, env.text? name = some value ∧ ¬ HasLineEnd value ∧ cs = value.toList

/-- What takes the place of a piece is its own, or the value of the variable that it names. -/
theorem Stands.own_or_inserted {cs : List Char} (stands : Stands env p cs) :
    cs = p.own ∨ ∃ name fallback, p = .reference name fallback ∧ Inserted env (String.ofList name) cs := by
  cases stands with
  | literal | dollar | orEmpty | orUnset => exact .inl rfl
  | value given plain _ => exact .inr ⟨_, _, rfl, _, given, plain, rfl⟩

/-- The characters of a result, each with its origin. Those out of the text are some of the `given`
ones, in their order; those out of a value belong to a variable that a piece refers to. -/
structure Traced (env : Environment) (ps : List Piece) (given out : List Char)
    (traced : List (Char × Origin)) : Prop where
  result : traced.map Prod.fst = out
  text : ((traced.filter fun t => t.2 = .text).map Prod.fst).Sublist given
  value : ∀ c name, (c, .value name) ∈ traced → Refers ps name ∧ ∃ cs, Inserted env name cs ∧ c ∈ cs

namespace Traced

variable {given out cs : List Char} {traced : List (Char × Origin)}

theorem own (later : Traced env ps given out traced) :
    Traced env (p :: ps) (p.own ++ given) (p.own ++ out) (p.own.map (·, .text) ++ traced) where
  result := by simp [later.result, Function.comp_def]
  text := by
    rw [List.filter_append, List.map_append]
    refine List.Sublist.append ?_ later.text
    simp [List.filter_map, Function.comp_def]
  value := by
    intro c name member
    rcases List.mem_append.mp member with here | there
    · simp at here
    · exact (later.value c name there).imp_left fun ⟨fallback, among⟩ =>
        ⟨fallback, List.mem_cons_of_mem p among⟩

theorem insert {name : List Char} {fallback : Option Fallback}
    (inserted : Inserted env (String.ofList name) cs) (later : Traced env ps given out traced) :
    Traced env (.reference name fallback :: ps) ((Piece.reference name fallback).own ++ given) (cs ++ out)
      (cs.map (·, .value (String.ofList name)) ++ traced) where
  result := by simp [later.result, Function.comp_def]
  text := by
    rw [List.filter_append, List.map_append]
    refine List.Sublist.append ?_ later.text
    simp [List.filter_map, Function.comp_def]
  value := by
    intro c other member
    rcases List.mem_append.mp member with here | there
    · obtain ⟨d, among, same⟩ := List.mem_map.mp here
      cases same
      exact ⟨⟨fallback, by simp⟩, cs, inserted, among⟩
    · exact (later.value c other there).imp_left fun ⟨fallback, among⟩ =>
        ⟨fallback, List.mem_cons_of_mem _ among⟩

/-- Characters that no value brings in do not become more. -/
theorem countP_le (traces : Traced env ps given out traced) {q : Char → Bool}
    (absent : ∀ name cs, Refers ps name → Inserted env name cs → ∀ c ∈ cs, q c = false) :
    out.countP q ≤ given.countP q := by
  have textual : ∀ t ∈ traced, q t.1 = true → t.2 = .text := by
    rintro ⟨c, origin⟩ member counted
    cases origin with
    | text => rfl
    | value name =>
      obtain ⟨refers, cs, inserted, among⟩ := traces.value c name member
      rw [absent name cs refers inserted c among] at counted
      cases counted
  calc out.countP q
      = traced.countP (fun t => q t.1) := by rw [← traces.result, List.countP_map]; rfl
    _ ≤ (traced.filter fun t => t.2 = .text).countP fun t => q t.1 := by
        rw [List.countP_filter]
        exact List.countP_mono_left fun t member counted => by simp [counted, textual t member counted]
    _ = ((traced.filter fun t => t.2 = .text).map Prod.fst).countP q := by rw [List.countP_map]; rfl
    _ ≤ given.countP q := traces.text.countP_le

end Traced

theorem exists_traced {parts : List (List Char)} (stand : List.Forall₂ (Stands env) ps parts) :
    ∃ traced, Traced env ps (ps.flatMap Piece.own) parts.flatten traced := by
  induction stand with
  | nil => exact ⟨[], rfl, .slnil, nofun⟩
  | cons stands _ ih =>
    obtain ⟨later, traces⟩ := ih
    rcases stands.own_or_inserted with rfl | ⟨name, fallback, rfl, inserted⟩
    · exact ⟨_, traces.own⟩
    · exact ⟨_, traces.insert inserted⟩

theorem interpolate_traced {text out : String} (result : interpolate env text = .ok out) :
    ∃ traced, Traced env (split text.toList) text.toList out.toList traced := by
  obtain ⟨parts, stand, rfl⟩ := interpolate_eq_ok.mp result
  obtain ⟨traced, result, kept, value⟩ := exists_traced stand
  refine ⟨traced, ?_, kept.trans (cut_split text.toList).own_sublist, value⟩
  rw [result, String.toList_ofList]

/-- A line break of YAML that interpolation lets through in a value. -/
def IsUnseenBreak (c : Char) : Prop :=
  Yaml.isBreak c ∧ c ≠ '\n' ∧ c ≠ '\r'

/-- Each character of a result comes out of the text, in the order of the text, or out of the value of
a variable that the text refers to. Line feeds and carriage returns come out of the text only, and
all line breaks do if no such value has one of the other three. -/
theorem line_breaks_by_origin {text out : String} (result : interpolate env text = .ok out) :
    (∃ traced, Traced env (split text.toList) text.toList out.toList traced) ∧
    (∀ c, c = '\n' ∨ c = '\r' → out.toList.count c ≤ text.toList.count c) ∧
    ((∀ name value, Refers (split text.toList) name → env.text? name = some value →
        ∀ c ∈ value.toList, ¬ IsUnseenBreak c) →
      out.toList.countP Yaml.isBreak ≤ text.toList.countP Yaml.isBreak) := by
  obtain ⟨traced, traces⟩ := interpolate_traced result
  refine ⟨⟨traced, traces⟩, fun c lineEnd => ?_, fun none => ?_⟩
  · apply traces.countP_le
    rintro name cs _ ⟨value, _, plain, rfl⟩ d member
    simp only [beq_eq_false_iff_ne]
    rintro rfl
    rcases lineEnd with rfl | rfl
    · exact plain (.inl member)
    · exact plain (.inr member)
  · apply traces.countP_le
    rintro name cs refers ⟨value, given, plain, rfl⟩ d member
    rw [Bool.eq_false_iff]
    intro isBreak
    refine none name value refers given d member ⟨isBreak, ?_, ?_⟩
    · rintro rfl
      exact plain (.inl member)
    · rintro rfl
      exact plain (.inr member)

/-- The line break of a fallback stays, and the value of the other variable brings none. -/
theorem line_break_of_a_fallback :
    let env : Environment := ⟨fun name => if name = "B" then some (Text.Utf8.encode "v\tw") else none⟩
    interpolate env "a: $\x7bA:-1\n 2\x7d$B" = .ok "a: 1\n 2v\tw" ∧
      (∃ traced, Traced env (split "a: $\x7bA:-1\n 2\x7d$B".toList) "a: $\x7bA:-1\n 2\x7d$B".toList
        "a: 1\n 2v\tw".toList traced) ∧
      "a: 1\n 2v\tw".toList.countP Yaml.isBreak ≤ "a: $\x7bA:-1\n 2\x7d$B".toList.countP Yaml.isBreak := by
  intro env
  have result : interpolate env "a: $\x7bA:-1\n 2\x7d$B" = .ok "a: 1\n 2v\tw" := by decide +kernel
  obtain ⟨traces, _, bound⟩ := line_breaks_by_origin result
  refine ⟨result, traces, bound fun name value _ given c member => ?_⟩
  have known : value = "v\tw" := by
    by_cases own : name = "B"
    · subst own
      have decoded : env.text? "B" = some "v\tw" := by decide +kernel
      exact Option.some.inj (given.symm.trans decoded)
    · simp [Environment.text?, env, own] at given
  rw [known] at member
  have harmless : "v\tw".toList.any Yaml.isBreak = false := by decide +kernel
  rintro ⟨isBreak, _⟩
  exact List.any_eq_false.mp harmless c member isBreak

/-- A value with a line separator is let through. It adds a line to the document, and with it a
setting that the text does not give. -/
theorem value_adds_a_line :
    let env : Environment :=
      ⟨fun name => if name = "SLOTS" then
        some (Text.Utf8.encode "5\u2028  submit_processing_failures: true") else none⟩
    let text := "failure_handling:\n  queue_capacity: $SLOTS\n"
    let out := "failure_handling:\n  queue_capacity: 5\u2028  submit_processing_failures: true\n"
    interpolate env text = .ok out ∧
      text.toList.countP Yaml.isBreak < out.toList.countP Yaml.isBreak ∧
      Settings.ofYaml out = .ok { submitProcessingFailures := true, queueCapacity := 5 } := by
  decide +kernel

end FailureIntake.Config
