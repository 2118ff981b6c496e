import FailureIntake.Proofs.Yaml.Words
import Mathlib.Data.List.Chain

/-! The tokens of lines. Each line of a text has a key, and a word behind it or nothing. What a line
adds to the tokens depends on the columns of the lines before it, and on nothing else of them: a line
closes the mappings that are deeper than it, opens one if it is deeper than what is left, and then has
its own tokens. -/
namespace FailureIntake.Yaml

open Text

structure Line where
  column : Nat
  key : List Char
  value : Option (List Char)
deriving DecidableEq, Repr

namespace Line

/-- What follows the colon. -/
def tail (l : Line) : List Char :=
  match l.value with
  | some w => ' ' :: w
  | none => []

def text (l : Line) : List Char :=
  List.replicate l.column ' ' ++ (l.key ++ ':' :: (l.tail ++ ['\n']))

/-- The line has words only, and a key that is short enough to be found. -/
structure IsPlain (l : Line) : Prop where
  key : IsBareWord l.key
  short : l.key.length ≤ 1024
  value : ∀ w ∈ l.value, IsBareWord w

/-- A word goes on in the lines below it that are deeper than its key. -/
def Precedes (l next : Line) : Prop :=
  l.value.isSome → next.column ≤ l.column

end Line

/-! The indentations that are open, and how a line at a column changes them. -/

/-- The columns that a line leaves open. -/
def kept (indents : List Nat) (column : Nat) : List Nat :=
  indents.dropWhile fun (n : Nat) => decide (column < n)

/-- The line is deeper than all that is open. -/
def Deepens (indents : List Nat) (column : Nat) : Prop :=
  (kept indents column).head? ≠ some column

instance (indents : List Nat) (column : Nat) : Decidable (Deepens indents column) :=
  inferInstanceAs (Decidable (_ ≠ _))

def opened (indents : List Nat) (column : Nat) : List Nat :=
  if Deepens indents column then column :: kept indents column else kept indents column

def closings (indents : List Nat) (column : Nat) : List TokenKind :=
  (indents.takeWhile fun (n : Nat) => decide (column < n)).map fun _ => .blockEnd

def openings (indents : List Nat) (column : Nat) : List TokenKind :=
  if Deepens indents column then [.blockMappingStart] else []

/-- The tokens of lines, given the columns that are open before them. -/
def lineTokens : List Nat → List Line → List TokenKind
  | indents, [] => indents.map (fun _ => .blockEnd) ++ [.streamEnd]
  | indents, l :: rest =>
    closings indents l.column ++ openings indents l.column ++
      [.key, .scalar .plain l.key, .value] ++ l.value.toList.map (.scalar .plain) ++
      lineTokens (opened indents l.column) rest

theorem le_of_mem_kept {indents : List Nat} {column n : Nat}
    (first : n ∈ (kept indents column).head?) : n ≤ column := by
  have stopped := endsRun_dropWhile indents n first
  simpa using stopped

theorem exists_opened (indents : List Nat) (column : Nat) :
    ∃ outer, opened indents column = column :: outer := by
  unfold opened
  split
  · exact ⟨_, rfl⟩
  · next same =>
    exact List.head?_eq_some_iff.mp (not_not.mp same)

namespace Layout

/-- The kinds of the tokens from here on, for any number of tokens that is not too small. -/
def Scans (s : Layout) (kinds : List TokenKind) : Prop :=
  ∀ n, s.cursor.rest.length + 2 ≤ n → (tokens n s).map Token.kind = kinds

section Step

variable {s next after : Layout} {ready : List Token} {kinds : List TokenKind}

/-- A token is read, after it no place of a key is too far back, and what need not wait is released. -/
theorem Scans.step (read : ∀ n, s.cursor.rest.length < n → s.read? n = some next)
    (fresh : next.refreshKeys? = some next) (released : next.release = (ready, after))
    (going : .streamEnd ∉ ready.map Token.kind)
    (shorter : after.cursor.rest.length < s.cursor.rest.length) (scans : after.Scans kinds) :
    s.Scans (ready.map Token.kind ++ kinds) := by
  intro n enough
  obtain ⟨n, rfl⟩ : ∃ m, n = m + 1 := ⟨n - 1, by omega⟩
  have goes : ready.getLast?.any (·.kind == .streamEnd) = false := by
    rw [Option.any_eq_false]
    intro t last
    simp only [beq_eq_false_iff_ne]
    rintro same
    exact going (List.mem_map.mpr ⟨t, List.mem_of_getLast? last, same⟩)
  rw [tokens, read n (by omega), Option.bind_some, fresh]
  simp only [released, goes, Bool.false_eq_true, if_false, List.map_append]
  rw [scans n (by omega)]

theorem Scans.stop (read : ∀ n, s.cursor.rest.length < n → s.read? n = some next)
    (fresh : next.refreshKeys? = some next) (released : next.release = (ready, after))
    (stops : ready.getLast?.any (·.kind == .streamEnd) = true) :
    s.Scans (ready.map Token.kind) := by
  intro n enough
  obtain ⟨n, rfl⟩ : ∃ m, n = m + 1 := ⟨n - 1, by omega⟩
  rw [tokens, read n (by omega), Option.bind_some, fresh]
  simp only [released, stops, if_true]

end Step

theorem refreshKeys?_eq {s : Layout} (block : s.outerKeyPlaces = [])
    (fresh : ∀ p ∈ s.keyPlace, isStale s.mark p = false) : s.refreshKeys? = some s := by
  obtain ⟨cursor, cut, indents, keyAllowed, keyPlace, outer, waiting, released⟩ := s
  cases block
  cases keyPlace with
  | none => rfl
  | some p =>
    have kept : isStale cursor.mark p = false := fresh p rfl
    simp [refreshKeys?, refresh?, mark, kept]

theorem refreshKeys?_settled {s : Layout} (block : s.outerKeyPlaces = []) (settled : s.keyPlace = none) :
    s.refreshKeys? = some s := by
  apply refreshKeys?_eq block
  simp [settled]

theorem release_eq {s : Layout} (block : s.outerKeyPlaces = []) (settled : s.keyPlace = none) :
    s.release = (s.waiting, { s with waiting := [], released := s.released + s.waiting.length }) := by
  simp [release, releasable, block, settled]

/-- Outside of brackets, what comes after the gap is read once the collections before it are closed. -/
theorem read?_eq {s t : Layout} {n : Nat} (skipped : s.skipGaps n = t) (whole : t.cut = false)
    (block : t.outerKeyPlaces = []) (refreshed : t.refreshKeys? = some t) :
    s.read? n =
      match t.cursor.rest with
      | [] => (t.unrollTo t.mark.column).streamEnd?
      | c :: r => (t.unrollTo t.mark.column).readToken? c r := by
  have begun : (s.skipGaps n).refreshKeys? = some t := by rw [skipped, refreshed]
  have same : (t.unrollTo t.mark.column).cursor = t.cursor := rfl
  have needed : (t.unroll t.mark.column).need? 4 = some (t.unrollTo t.mark.column) := by
    simp [need?, unroll, inFlow, block, unrollTo, whole]
  cases rest : t.cursor.rest with
  | nil => simp [read?, begun, needed, same, rest]
  | cons c r => simp [read?, begun, needed, same, rest]

theorem unrollTo_eq (s : Layout) (column : Nat) :
    s.unrollTo column =
      { s with
        indents := kept s.indents column
        waiting := s.waiting ++ (closings s.indents column).map fun kind => ⟨kind, s.mark, s.mark⟩ } := by
  have rest : (s.indents.takeWhile (fun (n : Nat) => decide (column < n)) ++ kept s.indents column).drop
      (s.indents.takeWhile fun (n : Nat) => decide (column < n)).length = kept s.indents column :=
    List.drop_left
  rw [kept, List.takeWhile_append_dropWhile] at rest
  simp [unrollTo, closings, kept, rest]

theorem unrollTo_of_le {s : Layout} {column : Nat} (shallow : ∀ n ∈ s.indents.head?, n ≤ column) :
    s.unrollTo column = s := by
  obtain ⟨cursor, cut, indents, keyAllowed, keyPlace, outer, waiting, released⟩ := s
  cases indents with
  | nil => simp [unrollTo_eq, kept, closings]
  | cons n later =>
    have first : ¬ column < n := Nat.not_lt.mpr (shallow n rfl)
    simp [unrollTo_eq, kept, closings, first]

/-- A block collection begins at a mark that is deeper than all that is open. -/
theorem roll_eq {s : Layout} {m : Mark} {kind : TokenKind} {number : Nat} (block : s.outerKeyPlaces = [])
    (shallow : ∀ n ∈ s.indents.head?, n ≤ m.column) :
    s.roll m kind (some number) =
      if s.indents.head? = some m.column then s
      else { s with indents := m.column :: s.indents }.insert number ⟨kind, m, m⟩ := by
  have flat : ((m.column : Int) ≤ s.indent) ↔ s.indents.head? = some m.column := by
    cases indents : s.indents with
    | nil =>
      have outermost : s.indent = -1 := by rw [indent, indents]
      simp only [List.head?_nil, outermost, reduceCtorEq, iff_false]
      omega
    | cons n outer =>
      have innermost : s.indent = n := by rw [indent, indents]
      have le : n ≤ m.column := shallow n (by rw [indents]; rfl)
      rw [innermost, List.head?_cons, Option.some.injEq]
      omega
  simp only [roll, inFlow, block, List.isEmpty_nil, Bool.not_true, Bool.false_or, decide_eq_true_eq, flat]

/-- Where a key begins, given the columns that are open and the number of tokens so far. -/
def lineStart (rest : List Char) (m : Mark) (indents : List Nat) (k : Nat) : Layout :=
  { cursor := ⟨rest, m⟩, indents := indents, released := k }

/-- Behind the word of a key, which waits for its colon. -/
def pendingKey (w rest : List Char) (m : Mark) (indents : List Nat) (k : Nat) : Layout where
  cursor := ⟨rest, w.foldl Mark.after m⟩
  indents := indents
  keyAllowed := false
  keyPlace := some ⟨k, m, indents.head? = some m.column⟩
  waiting := [⟨.scalar .plain w, m, w.foldl Mark.after m⟩]
  released := k

/-- Behind the colon of a key. -/
def lineTail (rest : List Char) (m : Mark) (indents : List Nat) (k : Nat) : Layout :=
  { cursor := ⟨rest, m⟩, indents := indents, keyAllowed := false, released := k }

/-- A line begins at the column behind the gap that comes next, and nothing waits. -/
structure InFront (s : Layout) (indents : List Nat) (column : Nat) (rest : List Char) : Prop where
  shorter : rest.length ≤ s.cursor.rest.length
  gap : ∃ m k, m.column = column ∧
    ∀ n, s.cursor.rest.length < n → s.skipGaps n = lineStart rest m indents k

section Key

variable {s : Layout} {w rest : List Char} {m : Mark} {indents outer : List Nat} {column j k : Nat}
  {kinds : List TokenKind}

theorem inFront_spaces (j : Nat) (solid : IsSolid rest) :
    (lineStart (List.replicate j ' ' ++ rest) m indents k).InFront indents (m.column + j) rest := by
  refine ⟨by simp [lineStart], (List.replicate j ' ').foldl Mark.after m, k, ?_, ?_⟩
  · rw [foldl_after_column, List.length_replicate]
  · intro n enough
    obtain ⟨n, rfl⟩ : ∃ i, n = i + 1 := ⟨n - 1, by omega⟩
    exact skipGaps_spaces n j solid rfl

theorem inFront_line (j : Nat) (solid : IsSolid rest) :
    (lineTail ('\n' :: (List.replicate j ' ' ++ rest)) m indents k).InFront indents j rest := by
  refine ⟨?_, (List.replicate j ' ').foldl Mark.after (m.nextLine 1), k, ?_, ?_⟩
  · simp only [lineTail, List.length_cons, List.length_append]
    omega
  · simp [foldl_after_column, Mark.nextLine]
  · intro n enough
    simp only [lineTail, List.length_cons] at enough
    obtain ⟨n, rfl⟩ : ∃ i, n = i + 2 := ⟨n - 2, by omega⟩
    exact skipGaps_line n j solid rfl rfl

theorem not_isStale {indents : List Nat} (word : IsBareWord w) (short : w.length ≤ 1024) :
    isStale (w.foldl Mark.after m) ⟨k, m, indents.head? = some m.column⟩ = false := by
  simp [isStale, foldl_after_line, foldl_after_offset word.2, short]

theorem indent_beq (s : Layout) (column : Nat) :
    (s.indent == column) = decide (s.indents.head? = some column) := by
  unfold indent
  cases s.indents with
  | nil => simp
  | cons n outer =>
    rw [Bool.eq_iff_iff, beq_iff_eq, decide_eq_true_iff, List.head?_cons, Option.some.injEq]
    exact Int.ofNat_inj

theorem plain?_eq {t : Layout} {r : Plain.Result} (saved : s.saveKey? = some t) (whole : t.cut = false)
    (text : Plain.read t.inFlow (t.indent + 1) t.cursor.rest t.mark {} = some r) :
    s.plain? = some { t with
      cursor := r.stop
      waiting := t.waiting ++ [⟨.scalar .plain r.text, t.mark, r.stop.mark⟩]
      keyAllowed := r.endsLine } := by
  simp [plain?, saved, text, need?, whole, token, push]

/-- The word of a key waits, and what it closes is released. -/
theorem scans_key (front : s.InFront indents column (w ++ ':' :: rest)) (word : IsBareWord w)
    (short : w.length ≤ 1024) (gap : atGap rest = true)
    (scans : ∀ m k, m.column = column →
      (pendingKey w (':' :: rest) m (kept indents column) k).Scans kinds) :
    s.Scans (closings indents column ++ kinds) := by
  obtain ⟨shorter, m, k, rfl, skipped⟩ := front
  let ends : List Token := (closings indents m.column).map fun kind => ⟨kind, m, m⟩
  let before : Layout := { lineStart (w ++ ':' :: rest) m (kept indents m.column) k with waiting := ends }
  let pending := pendingKey w (':' :: rest) m (kept indents m.column) (k + ends.length)
  let next : Layout := { pending with waiting := ends ++ pending.waiting, released := k }
  have kinds_ends : ends.map Token.kind = closings indents m.column := by simp [ends, Function.comp_def]
  have saved : before.saveKey? = some { before with keyPlace := pending.keyPlace } := by
    simp [saveKey?, dropKey?, indent_beq, inFlow, before, pending, pendingKey, lineStart, mark]
  have text (indent : Int) : Plain.read false indent (w ++ ':' :: rest) m {} =
      some ⟨w, false, ⟨':' :: rest, w.foldl Mark.after m⟩, 2⟩ := by
    rw [Plain.read_word word.2 rfl rfl, Plain.read_colon rfl gap]
    simp [Plain.Progress.finish, Gap.hasBreak]
  have waits : before.plain? = some next := plain?_eq saved rfl (text _)
  have fresh : next.refreshKeys? = some next := by
    apply refreshKeys?_eq rfl
    rintro p ⟨⟩
    exact not_isStale word short
  have read (n : Nat) (enough : s.cursor.rest.length < n) : s.read? n = some next := by
    obtain ⟨c, r, rfl⟩ := List.exists_cons_of_ne_nil word.1
    rw [read?_eq (skipped n enough) rfl rfl (refreshKeys?_settled rfl rfl), ← waits]
    simp only [lineStart, List.cons_append, unrollTo_eq]
    exact readToken?_bare (word.2 c List.mem_cons_self)
  -- The word is the first token that waits, so all that it closes is ready.
  have released : next.release = (ends, pending) := by
    simp [release, releasable, next, pending, pendingKey]
  rw [← kinds_ends]
  refine Scans.step read fresh released ?_ ?_ (scans m _ rfl)
  · simp [kinds_ends, closings]
  · have nonempty := List.length_pos_iff.mpr word.1
    simp only [pending, pendingKey, List.length_append, List.length_cons] at shorter ⊢
    omega

theorem readToken?_colon (gap : atGap rest = true) : s.readToken? ':' rest = s.value? := by
  simp [readToken?, atDocumentIndicator, gap]

/-- The colon of a key begins a mapping if the key is deeper than all that is open. -/
theorem scans_colon (word : IsBareWord w) (short : w.length ≤ 1024) (gap : atGap rest = true)
    (scans : ∀ stop k, m.column < stop.column →
      (lineTail rest stop (opened indents m.column) k).Scans kinds) :
    (pendingKey w (':' :: rest) m (kept indents m.column) k).Scans
      (openings indents m.column ++ [.key, .scalar .plain w, .value] ++ kinds) := by
  let s := pendingKey w (':' :: rest) m (kept indents m.column) k
  let next : Layout := {
    cursor := ⟨rest, s.mark.after ':'⟩
    indents := opened indents m.column
    keyAllowed := false
    waiting :=
      (openings indents m.column).map (fun kind => ⟨kind, m, m⟩) ++
        ⟨.key, m, m⟩ :: s.waiting ++ [⟨.value, s.mark, s.mark.after ':'⟩]
    released := k }
  have deeper : m.column < s.mark.column := by
    have nonempty := List.length_pos_iff.mpr word.1
    simp only [s, pendingKey, mark, foldl_after_column]
    omega
  have shallow : ∀ n ∈ (kept indents m.column).head?, n ≤ m.column := fun _ => le_of_mem_kept
  -- The number of the place is that of the word, so the key and the mapping go in front of it.
  have value : s.value? = some next := by
    simp only [value?, s, pendingKey]
    rw [roll_eq rfl shallow]
    by_cases deep : Deepens indents m.column
    · have opens : ¬ (kept indents m.column).head? = some m.column := deep
      simp [opened, openings, deep, opens, insert, indicator, push, Cursor.skip, mark, next, s, pendingKey]
    · have flat : (kept indents m.column).head? = some m.column := not_not.mp deep
      simp [opened, openings, deep, flat, insert, indicator, push, Cursor.skip, mark, next, s, pendingKey]
  have fresh : next.refreshKeys? = some next := refreshKeys?_settled rfl rfl
  have read (n : Nat) (enough : s.cursor.rest.length < n) : s.read? n = some next := by
    obtain ⟨n, rfl⟩ : ∃ i, n = i + 1 := ⟨n - 1, by omega⟩
    have solid : IsSolid (':' :: rest) := by
      rintro c ⟨⟩
      decide
    have skipped : s.skipGaps (n + 1) = s := skipGaps_spaces n 0 solid rfl
    have waiting : s.refreshKeys? = some s := by
      apply refreshKeys?_eq rfl
      rintro p ⟨⟩
      exact not_isStale word short
    have unrolled : s.unrollTo s.mark.column = s :=
      unrollTo_of_le fun n first => (shallow n first).trans deeper.le
    rw [read?_eq skipped rfl rfl waiting, unrolled, ← value]
    exact readToken?_colon gap
  have kinds_next : next.waiting.map Token.kind =
      openings indents m.column ++ [.key, .scalar .plain w, .value] := by
    simp [next, s, pendingKey, Function.comp_def]
  rw [← kinds_next]
  refine Scans.step read fresh (release_eq rfl rfl) ?_ ?_ (scans _ _ (Nat.lt_succ_of_lt deeper))
  · rw [kinds_next]
    unfold openings
    split <;> simp
  · simp [next, pendingKey]

/-- A word behind a key goes on to the next line that is no deeper than the key. -/
theorem scans_value (word : IsBareWord w) (solid : IsSolid rest) (deeper : column < m.column)
    (outdented : j ≤ column)
    (scans : ∀ s : Layout, s.InFront (column :: outer) j rest → s.Scans kinds) :
    (lineTail (' ' :: (w ++ '\n' :: (List.replicate j ' ' ++ rest))) m (column :: outer) k).Scans
      (.scalar .plain w :: kinds) := by
  let s := lineTail (' ' :: (w ++ '\n' :: (List.replicate j ' ' ++ rest))) m (column :: outer) k
  let before : Layout := { s with cursor := ⟨w ++ '\n' :: (List.replicate j ' ' ++ rest), m.after ' '⟩ }
  -- The scalar takes the line break and the indentation behind it, too, before it ends.
  obtain ⟨stop, atColumn, ended⟩ : ∃ stop, stop.column = j ∧
      Plain.read false (before.indent + 1) ('\n' :: (List.replicate j ' ' ++ rest))
        (w.foldl Mark.after (m.after ' ')) ⟨w.reverse ++ [], .none, true⟩ =
          some ⟨(w.reverse ++ []).reverse, true, ⟨rest, stop⟩, 1⟩ :=
    Plain.read_outdented (Int.lt_add_one_of_le (Int.ofNat_le.mpr outdented)) solid
  let next : Layout := { lineStart rest stop (column :: outer) k with
    waiting := [⟨.scalar .plain w, m.after ' ', stop⟩] }
  have plain : before.plain? = some next := by
    have text : Plain.read false (before.indent + 1) (w ++ '\n' :: (List.replicate j ' ' ++ rest))
        (m.after ' ') {} = some ⟨w, true, ⟨rest, stop⟩, 1⟩ := by
      rw [Plain.read_word word.2 rfl rfl, ended]
      simp
    exact plain?_eq (t := before) rfl rfl text
  have fresh : next.refreshKeys? = some next := refreshKeys?_settled rfl rfl
  have read (n : Nat) (enough : s.cursor.rest.length < n) : s.read? n = some next := by
    obtain ⟨n, rfl⟩ : ∃ i, n = i + 1 := ⟨n - 1, by omega⟩
    obtain ⟨c, r, here⟩ := List.exists_cons_of_ne_nil word.1
    have bare : isBare c = true := word.2 c (here ▸ List.mem_cons_self)
    have skipped : s.skipGaps (n + 1) = before := by
      refine skipGaps_spaces n 1 ?_ rfl
      rw [here]
      exact isSolid_of_isBare bare _
    have unrolled : before.unrollTo before.mark.column = before := by
      apply unrollTo_of_le
      rintro n ⟨⟩
      exact Nat.le_succ_of_le deeper.le
    rw [read?_eq skipped rfl rfl (refreshKeys?_settled rfl rfl), unrolled, ← plain]
    simp only [before, here, List.cons_append]
    exact readToken?_bare bare
  have front : (lineStart rest stop (column :: outer) (k + 1)).InFront (column :: outer) j rest :=
    atColumn ▸ inFront_spaces 0 solid
  refine Scans.step read fresh (release_eq rfl rfl) ?_ ?_ (scans _ front)
  · simp [next]
  · simp only [next, s, lineTail, lineStart, List.length_cons, List.length_append]
    omega

theorem unrollTo_all (s : Layout) :
    s.unrollTo (-1) =
      { s with
        indents := []
        waiting := s.waiting ++ s.indents.map fun _ => ⟨.blockEnd, s.mark, s.mark⟩ } := by
  have all : s.indents.takeWhile (fun (n : Nat) => decide ((-1 : Int) < n)) = s.indents := by
    rw [List.takeWhile_eq_self_iff]
    intro n _
    simp
    omega
  simp [unrollTo, all]

theorem unrollTo_unrollTo_all (s : Layout) (column : Nat) :
    (s.unrollTo column).unrollTo (-1) = s.unrollTo (-1) := by
  let ended : Nat → Token := fun _ => ⟨.blockEnd, s.mark, s.mark⟩
  have split : (s.indents.takeWhile fun (n : Nat) => decide (column < n)).map ended ++
      (kept s.indents column).map ended = s.indents.map ended := by
    rw [← List.map_append, kept, List.takeWhile_append_dropWhile]
  rw [unrollTo_all, unrollTo_all, unrollTo_eq]
  simpa [closings, Function.comp_def, mark, ended] using split

theorem streamEnd?_eq {s : Layout} (first : s.mark.column = 0) (block : s.outerKeyPlaces = [])
    (settled : s.keyPlace = none) :
    s.streamEnd? =
      some { (s.unrollTo (-1)).push ⟨.streamEnd, s.mark, s.mark⟩ with keyAllowed := false } := by
  obtain ⟨cursor, cut, indents, keyAllowed, keyPlace, outer, waiting, released⟩ := s
  cases block
  cases settled
  have here : cursor.mark.column = 0 := first
  simp [streamEnd?, mark, here, unroll, inFlow, dropKey?, unrollTo]

/-- At the end of the text all that is open ends. -/
theorem scans_end (front : s.InFront indents 0 []) :
    s.Scans (indents.map (fun _ => .blockEnd) ++ [.streamEnd]) := by
  obtain ⟨_, m, k, outermost, skipped⟩ := front
  let ends : List Token := (indents.map fun _ => ⟨.blockEnd, m, m⟩) ++ [⟨.streamEnd, m, m⟩]
  let next : Layout := { lineStart [] m [] k with waiting := ends, keyAllowed := false }
  have fresh : next.refreshKeys? = some next := refreshKeys?_settled rfl rfl
  have ended : ((lineStart [] m indents k).unrollTo m.column).streamEnd? = some next := by
    have first : ((lineStart [] m indents k).unrollTo m.column).mark.column = 0 := outermost
    rw [streamEnd?_eq first rfl rfl, unrollTo_unrollTo_all, unrollTo_all]
    rfl
  have read (n : Nat) (enough : s.cursor.rest.length < n) : s.read? n = some next := by
    rw [read?_eq (skipped n enough) rfl rfl (refreshKeys?_settled rfl rfl)]
    exact ended
  have kinds_ends : ends.map Token.kind = indents.map (fun _ => .blockEnd) ++ [.streamEnd] := by
    simp [ends]
  rw [← kinds_ends]
  refine Scans.stop read fresh (release_eq rfl rfl) ?_
  simp [ends]

end Key

end Layout

/-! Lines one after the other. -/

def linesText (lines : List Line) : List Char :=
  lines.flatMap Line.text

def firstColumn : List Line → Nat
  | [] => 0
  | l :: _ => l.column

/-- The text of lines behind the indentation of the first one. -/
def indentedText : List Line → List Char
  | [] => []
  | l :: rest => l.key ++ ':' :: (l.tail ++ '\n' :: linesText rest)

theorem linesText_eq (lines : List Line) :
    linesText lines = List.replicate (firstColumn lines) ' ' ++ indentedText lines := by
  cases lines with
  | nil => rfl
  | cons l rest => simp [linesText, firstColumn, indentedText, Line.text]

theorem isSolid_indentedText {lines : List Line} (plain : ∀ l ∈ lines, l.IsPlain) :
    IsSolid (indentedText lines) := by
  cases lines with
  | nil => exact nofun
  | cons l rest =>
    have word := (plain l List.mem_cons_self).key
    obtain ⟨c, r, here⟩ := List.exists_cons_of_ne_nil word.1
    rw [indentedText, here]
    exact isSolid_of_isBare (word.2 c (here ▸ List.mem_cons_self)) _

/-- By induction on the lines. Each finds the columns that the lines before it leave open, and none of
their tokens waits any more. -/
theorem Layout.scans_lines {lines : List Line} (plain : ∀ l ∈ lines, l.IsPlain)
    (ordered : lines.IsChain Line.Precedes) {s : Layout} {indents : List Nat}
    (front : s.InFront indents (firstColumn lines) (indentedText lines)) :
    s.Scans (lineTokens indents lines) := by
  induction lines generalizing s indents with
  | nil => exact scans_end front
  | cons l rest ih =>
    have own : l.IsPlain := plain l List.mem_cons_self
    have later : ∀ l ∈ rest, l.IsPlain := fun k member => plain k (List.mem_cons_of_mem l member)
    obtain ⟨next, ordered⟩ := List.isChain_cons.mp ordered
    have solid := isSolid_indentedText later
    have gap : atGap (l.tail ++ '\n' :: linesText rest) = true := by
      unfold Line.tail
      cases l.value <;> rfl
    simp only [lineTokens, List.append_assoc]
    apply scans_key front own.key own.short gap
    rintro m k column
    rw [firstColumn] at column ⊢
    rw [← column, ← List.append_assoc]
    apply scans_colon own.key own.short gap
    intro stop k deeper
    obtain ⟨outer, opens⟩ := exists_opened indents m.column
    rw [Line.tail]
    cases value : l.value with
    | none =>
      rw [List.nil_append, linesText_eq rest]
      exact ih later ordered (inFront_line _ solid)
    | some w =>
      have outdented : firstColumn rest ≤ m.column := by
        rw [column]
        cases rest with
        | nil => exact Nat.zero_le _
        | cons after more => exact next after rfl (by rw [value]; rfl)
      rw [opens, List.cons_append, linesText_eq rest]
      exact scans_value (own.value w value) solid deeper outdented fun s front => ih later ordered front

theorem mem_linesText {lines : List Line} (plain : ∀ l ∈ lines, l.IsPlain) {c : Char}
    (member : c ∈ linesText lines) : isBare c = true ∨ c = ' ' ∨ c = ':' ∨ c = '\n' := by
  obtain ⟨l, among, inside⟩ := List.mem_flatMap.mp member
  obtain ⟨key, _, value⟩ := plain l among
  have tail : ∀ d ∈ l.tail, isBare d = true ∨ d = ' ' := by
    intro d inside
    unfold Line.tail at inside
    cases given : l.value with
    | none => simp [given] at inside
    | some w =>
      rw [given] at inside
      rcases List.mem_cons.mp inside with space | word
      · exact .inr space
      · exact .inl ((value w given).2 d word)
  simp only [Line.text, List.mem_append, List.mem_cons, List.mem_replicate, List.not_mem_nil,
    or_false] at inside
  rcases inside with ⟨_, space⟩ | word | colon | behind | line
  · exact .inr (.inl space)
  · exact .inl (key.2 c word)
  · exact .inr (.inr (.inl colon))
  · exact (tail c behind).imp_right .inl
  · exact .inr (.inr (.inr line))

/-- The tokens of a text of lines are those of its lines. -/
theorem Token.ofText_linesText {lines : List Line} (plain : ∀ l ∈ lines, l.IsPlain)
    (ordered : lines.IsChain Line.Precedes) :
    (Token.ofText (linesText lines)).map Token.kind = lineTokens [] lines := by
  have allowed : ∀ c ∈ linesText lines, isAllowed c = true := by
    intro c member
    rcases mem_linesText plain member with bare | rfl | rfl | rfl
    · exact isAllowed_of_isBare bare
    all_goals decide
  have front : (Layout.lineStart (List.replicate (firstColumn lines) ' ' ++ indentedText lines)
      ⟨0, 0, 0⟩ [] 0).InFront [] (0 + firstColumn lines) (indentedText lines) :=
    Layout.inFront_spaces _ (isSolid_indentedText plain)
  rw [Nat.zero_add, ← linesText_eq] at front
  rw [Token.ofText, readable_eq allowed]
  exact Layout.scans_lines plain ordered front _ le_rfl

end FailureIntake.Yaml
