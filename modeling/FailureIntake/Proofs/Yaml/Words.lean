import FailureIntake.Yaml.Layout
import FailureIntake.Proofs.Text.Runs

/-! Bare words: letters, digits and underscores. Nothing in the layout of a text can be mistaken for
a part of such a word, and none of its characters for a part of the layout. So a word is read up to
the gap or the colon behind it, wherever it stands. -/
namespace FailureIntake.Yaml

open Text

def isBare (c : Char) : Bool :=
  c.isAlphanum || c == '_'

/-- The text is not empty and has no other characters. -/
def IsBareWord (w : List Char) : Prop :=
  w ≠ [] ∧ ∀ c ∈ w, isBare c = true

instance (w : List Char) : Decidable (IsBareWord w) :=
  decidable_of_iff (w ≠ [] ∧ w.all isBare = true) (and_congr_right fun _ => List.all_eq_true)

/-- The text is at its end, or goes on with what is neither a gap nor the beginning of a comment. -/
def IsSolid (rest : List Char) : Prop :=
  ∀ c ∈ rest.head?, isBlank c = false ∧ isBreak c = false ∧ c ≠ '#' ∧ c ≠ '\ufeff'

theorem toNat_lt_of_isBare {c : Char} (bare : isBare c = true) : c.toNat < 128 := by
  have below {last : Char} (small : last.toNat < 128) (le : c.val ≤ last.val) : c.toNat < 128 :=
    Nat.lt_of_le_of_lt le small
  rcases Bool.or_eq_true_iff.mp bare with letterOrDigit | underscore
  · rcases Bool.or_eq_true_iff.mp letterOrDigit with letter | digit
    · rcases Bool.or_eq_true_iff.mp letter with upper | lower
      · have range : 'A'.val ≤ c.val ∧ c.val ≤ 'Z'.val := of_decide_eq_true upper
        exact below (by decide) range.2
      · have range : decide (c.val ≤ 'z'.val) = true := (Bool.and_eq_true_iff.mp lower).2
        exact below (by decide) (of_decide_eq_true range)
    · have range : decide (c.val ≤ '9'.val) = true := (Bool.and_eq_true_iff.mp digit).2
      exact below (by decide) (of_decide_eq_true range)
  · rw [beq_iff_eq.mp underscore]
    decide

/-- A property of the bare characters is checked for each of them. -/
theorem of_isBare {P : Char → Prop} (all : ∀ n < 128, isBare (Char.ofNat n) = true → P (Char.ofNat n))
    {c : Char} (bare : isBare c = true) : P c := by
  have same : Char.ofNat c.toNat = c := Char.ofNat_toNat c
  rw [← same] at bare ⊢
  exact all c.toNat (same ▸ toNat_lt_of_isBare (same ▸ bare)) bare

section Bare

variable {c : Char} (bare : isBare c = true)
include bare

theorem isSolid_of_isBare (r : List Char) : IsSolid (c :: r) := by
  intro d first
  cases Option.mem_some.mp first
  exact of_isBare
    (P := fun c => isBlank c = false ∧ isBreak c = false ∧ c ≠ '#' ∧ c ≠ '\ufeff') (by decide) bare

theorem isBlank_of_isBare : isBlank c = false :=
  of_isBare (P := fun c => isBlank c = false) (by decide) bare

theorem isBreak_of_isBare : isBreak c = false :=
  of_isBare (P := fun c => isBreak c = false) (by decide) bare

theorem ne_colon_of_isBare : c ≠ ':' :=
  of_isBare (P := (· ≠ ':')) (by decide) bare

theorem isIndicator_of_isBare : Layout.isIndicator c = false :=
  of_isBare (P := fun c => Layout.isIndicator c = false) (by decide) bare

theorem isAllowed_of_isBare : isAllowed c = true :=
  of_isBare (P := fun c => isAllowed c = true) (by decide) bare

theorem utf8Size_of_isBare : c.utf8Size = 1 :=
  of_isBare (P := fun c => c.utf8Size = 1) (by decide) bare

end Bare

/-! A text without forbidden characters is read as a whole. -/

theorem readable_go {text : List Char} (allowed : ∀ c ∈ text, isAllowed c = true)
    (kept pending : List Char) (left : Nat) :
    readable.go kept pending left text = ((pending ++ kept).reverse ++ text, false) := by
  induction text generalizing kept pending left with
  | nil => simp [readable.go]
  | cons c r ih =>
    have first : isAllowed c = true := allowed c List.mem_cons_self
    have later : ∀ d ∈ r, isAllowed d = true := fun d member => allowed d (List.mem_cons_of_mem c member)
    simp only [readable.go, first, if_true]
    split
    · simp [ih later]
    · simp [ih later]

theorem readable_eq {text : List Char} (allowed : ∀ c ∈ text, isAllowed c = true) :
    readable text = (text, false) := by
  simp [readable, readable_go allowed]

/-! The mark after a run of characters of one line. -/

theorem foldl_after_line (run : List Char) (m : Mark) :
    (run.foldl Mark.after m).line = m.line := by
  induction run generalizing m with
  | nil => rfl
  | cons c r ih => exact ih (m.after c)

theorem foldl_after_column (run : List Char) (m : Mark) :
    (run.foldl Mark.after m).column = m.column + run.length := by
  induction run generalizing m with
  | nil => rfl
  | cons c r ih =>
    rw [List.foldl_cons, ih, List.length_cons]
    simp only [Mark.after]
    omega

theorem foldl_after_offset {run : List Char} (bare : ∀ c ∈ run, isBare c = true) (m : Mark) :
    (run.foldl Mark.after m).offset = m.offset + run.length := by
  induction run generalizing m with
  | nil => rfl
  | cons c r ih =>
    have size := utf8Size_of_isBare (bare c List.mem_cons_self)
    rw [List.foldl_cons, ih fun d member => bare d (List.mem_cons_of_mem c member), List.length_cons]
    simp only [Mark.after, size]
    omega

namespace Plain

variable {indent : Int} {m : Mark} {p : Progress} {w rest : List Char}

/-- A word is taken up character by character. -/
theorem read_word (word : ∀ c ∈ w, isBare c = true) (going : p.inWord = true) (gapless : p.gap = .none) :
    read false indent (w ++ rest) m p =
      read false indent rest (w.foldl Mark.after m) ⟨w.reverse ++ p.text, .none, true⟩ := by
  induction w generalizing m p with
  | nil =>
    obtain ⟨text, gap, inWord⟩ := p
    cases going
    cases gapless
    rfl
  | cons c r ih =>
    have bare : isBare c = true := word c List.mem_cons_self
    have noReturn : c ≠ '\r' := by
      rintro rfl
      cases isBreak_of_isBare bare
    have noEnd : isEnd false c (r ++ rest) = false := by simp [isEnd, ne_colon_of_isBare bare]
    have pushed : p.push c = ⟨c :: p.text, .none, true⟩ := by simp [Progress.push, gapless, Gap.text]
    rw [List.cons_append, read]
    · simp only [isBreak_of_isBare bare, isBlank_of_isBare bare, going, isBadColon, noEnd, pushed,
        Bool.not_true, Bool.false_and, Bool.false_eq_true, if_false]
      rw [ih (fun d member => word d (List.mem_cons_of_mem c member)) rfl rfl]
      simp
    · intro s same
      exact absurd same noReturn

/-- A colon before a gap ends the scalar. -/
theorem read_colon (going : p.inWord = true) (gap : atGap rest = true) :
    read false indent (':' :: rest) m p = p.finish (':' :: rest) m 2 := by
  rw [read]
  · simp [isBreak, isBlank, isBadColon, isEnd, gap, going]
  · simp

/-- The spaces at the beginning of a line make no difference to a scalar. -/
theorem read_indentation (j : Nat) (broken : p.gap.hasBreak = true) (between : p.inWord = false) :
    read false indent (List.replicate j ' ' ++ rest) m p =
      read false indent rest ((List.replicate j ' ').foldl Mark.after m) p := by
  induction j generalizing m with
  | zero => rfl
  | succ j ih =>
    have same : p.blank ' ' = p := by
      obtain ⟨text, gap, inWord⟩ := p
      cases between
      cases gap with
      | lines first later => rfl
      | _ => cases broken
    rw [List.replicate_succ, List.cons_append, read]
    · simp only [same]
      simpa [isBreak, isBlank] using ih
    · simp

/-- A line that is not indented deeply enough ends the scalar where the indentation ends. -/
theorem read_outdented {j : Nat} (outdented : (j : Int) < indent) (solid : IsSolid rest) :
    ∃ stop, stop.column = j ∧
      read false indent ('\n' :: (List.replicate j ' ' ++ rest)) m p =
        some ⟨p.text.reverse, true, ⟨rest, stop⟩, 1⟩ := by
  have broken : (p.lineBreak '\n').gap.hasBreak = true := by
    cases gap : p.gap <;> simp [Progress.lineBreak, Gap.addBreak, gap, Gap.hasBreak]
  have column : ((List.replicate j ' ').foldl Mark.after (m.nextLine 1)).column = j := by
    rw [foldl_after_column, List.length_replicate]
    simp [Mark.nextLine]
  refine ⟨_, column, ?_⟩
  rw [read]
  · have size : '\n'.utf8Size = 1 := by decide
    simp only [size, show isBreak '\n' = true from rfl, if_true]
    rw [read_indentation j broken rfl]
    have text : (p.lineBreak '\n').text = p.text := rfl
    have between : (p.lineBreak '\n').inWord = false := rfl
    cases rest with
    | nil => simp [read, Progress.finish, broken, text]
    | cons c r =>
      obtain ⟨noBlank, noBreak, _⟩ := solid c rfl
      rw [read]
      · simp [noBlank, noBreak, isOutdented, column, outdented, Progress.finish, broken, text, between]
      · rintro s rfl
        cases noBreak
  · simp

end Plain

theorem Cursor.skip_append (run rest : List Char) (m : Mark) :
    Cursor.skip ⟨run ++ rest, m⟩ run.length = ⟨rest, run.foldl Mark.after m⟩ := by
  simp [Cursor.skip]

namespace Layout

variable {s : Layout} {rest : List Char} {m : Mark}

/-- Spaces are skipped up to what is solid. -/
theorem skipGaps_spaces (n j : Nat) (solid : IsSolid rest)
    (here : s.cursor = ⟨List.replicate j ' ' ++ rest, m⟩) :
    s.skipGaps (n + 1) = { s with cursor := ⟨rest, (List.replicate j ' ').foldl Mark.after m⟩ } := by
  have noMark : ¬ (s.mark.column = 0 ∧ (List.replicate j ' ' ++ rest).head? = some '\ufeff') := by
    cases j with
    | succ j => simp [List.replicate_succ]
    | zero => exact fun mark => (solid _ mark.2).2.2.2 rfl
  have ends : EndsRun (fun d => d == ' ' || (d == '\t' && (s.inFlow || !s.keyAllowed))) rest := by
    intro c first
    obtain ⟨noBlank, _⟩ := solid c first
    simp only [isBlank, Bool.or_eq_false_iff] at noBlank
    simp [noBlank]
  have skipped : Cursor.skipWhile ⟨List.replicate j ' ' ++ rest, m⟩
      (fun d => d == ' ' || (d == '\t' && (s.inFlow || !s.keyAllowed))) =
        ⟨rest, (List.replicate j ' ').foldl Mark.after m⟩ := by
    rw [Cursor.skipWhile, takeWhile_run (by simp) ends, Cursor.skip_append]
  have noComment : rest.head? ≠ some '#' := fun comment => (solid _ comment).2.2.1 rfl
  have noBreak : rest.head?.any isBreak = false := by
    cases rest with
    | nil => rfl
    | cons c r => exact (solid c rfl).2.1
  rw [skipGaps, here]
  simp only [if_neg noMark, skipped, if_neg noComment, noBreak, Bool.false_eq_true, if_false]

/-- A line break and the indentation behind it are skipped. After it a key may begin. -/
theorem skipGaps_line (n j : Nat) (solid : IsSolid rest) (block : s.inFlow = false)
    (here : s.cursor = ⟨'\n' :: (List.replicate j ' ' ++ rest), m⟩) :
    s.skipGaps (n + 2) =
      { s with
        cursor := ⟨rest, (List.replicate j ' ').foldl Mark.after (m.nextLine 1)⟩
        keyAllowed := true } := by
  have size : '\n'.utf8Size = 1 := by decide
  have first : s.skipGaps (n + 2) =
      skipGaps (n + 1) { s with
        cursor := ⟨List.replicate j ' ' ++ rest, m.nextLine 1⟩
        keyAllowed := s.keyAllowed || !s.inFlow } := by
    rw [skipGaps, here]
    simp [Cursor.skipWhile, Cursor.skip, Cursor.skipBreak, isBreak, size]
  rw [first, skipGaps_spaces n j solid rfl]
  simp [block]

/-- The characters with which something other than a plain scalar may begin. -/
def openers : List Char :=
  ['%', '-', '.', '[', ']', '\x7b', '\x7d', ',', '?', ':', '*', '&', '!', '|', '>', '\'', '"']

/-- Nothing but a plain scalar begins with a bare character. -/
theorem readToken?_bare {c : Char} {r : List Char} (bare : isBare c = true) :
    s.readToken? c r = s.plain? := by
  have other : c ∉ openers := by
    have absent := of_isBare (P := fun c => openers.contains c = false) (by decide) bare
    simpa using absent
  simp only [openers, List.mem_cons, not_or] at other
  have noDocument : atDocumentIndicator (c :: r) = false := by
    unfold atDocumentIndicator
    split <;> simp_all
  have begins : beginsPlain s.inFlow c r = true := by
    simp [beginsPlain, isBlank_of_isBare bare, isBreak_of_isBare bare, isIndicator_of_isBare bare]
  simp [readToken?, other, noDocument, begins]

end Layout

end FailureIntake.Yaml
