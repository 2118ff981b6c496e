import FailureIntake.Proofs.Yaml.Lines
import FailureIntake.Yaml.Document

/-! Documents of sections. A section has a name and leaves, and a leaf has a name and a word. The text
of an outline has the name of each section on a line of its own, and under it, indented, a line for
each leaf. It is read as a mapping of mappings with the same names and words in the same order. -/
namespace FailureIntake.Yaml

abbrev Leaves := List (List Char × List Char)

abbrev Outline := List (List Char × Leaves)

namespace Outline

def leafLine (leaf : List Char × List Char) : Line :=
  ⟨2, leaf.1, some leaf.2⟩

def sectionLines (s : List Char × Leaves) : List Line :=
  ⟨0, s.1, none⟩ :: s.2.map leafLine

def lines (o : Outline) : List Line :=
  o.flatMap sectionLines

/-- All names and words are bare, the names are short, and no section is empty. -/
structure IsPlain (o : Outline) : Prop where
  sections : ∀ s ∈ o, IsBareWord s.1 ∧ s.1.length ≤ 1024 ∧ s.2 ≠ []
  leaves : ∀ s ∈ o, ∀ leaf ∈ s.2, IsBareWord leaf.1 ∧ leaf.1.length ≤ 1024 ∧ IsBareWord leaf.2

instance (o : Outline) : Decidable o.IsPlain :=
  decidable_of_iff ((∀ s ∈ o, IsBareWord s.1 ∧ s.1.length ≤ 1024 ∧ s.2 ≠ []) ∧
    ∀ s ∈ o, ∀ leaf ∈ s.2, IsBareWord leaf.1 ∧ leaf.1.length ≤ 1024 ∧ IsBareWord leaf.2)
    ⟨fun plain => ⟨plain.1, plain.2⟩, fun plain => ⟨plain.sections, plain.leaves⟩⟩

theorem IsPlain.lines {o : Outline} (plain : o.IsPlain) : ∀ l ∈ o.lines, l.IsPlain := by
  intro l member
  obtain ⟨s, among, inside⟩ := List.mem_flatMap.mp member
  obtain ⟨bare, short, _⟩ := plain.sections s among
  rcases List.mem_cons.mp inside with rfl | leaf
  · exact ⟨bare, short, nofun⟩
  · obtain ⟨own, given, rfl⟩ := List.mem_map.mp leaf
    obtain ⟨name, short, word⟩ := plain.leaves s among own given
    refine ⟨name, short, ?_⟩
    rintro w ⟨⟩
    exact word

/-- The lines with a word are leaves, and no line is deeper than a leaf. -/
theorem isChain_lines (o : Outline) : o.lines.IsChain Line.Precedes := by
  have columns : ∀ l ∈ o.lines, l.column ≤ 2 ∧ (l.value.isSome → l.column = 2) := by
    intro l member
    obtain ⟨s, _, inside⟩ := List.mem_flatMap.mp member
    rcases List.mem_cons.mp inside with rfl | leaf
    · exact ⟨Nat.zero_le 2, nofun⟩
    · obtain ⟨own, _, rfl⟩ := List.mem_map.mp leaf
      exact ⟨le_rfl, fun _ => rfl⟩
  apply List.Pairwise.isChain
  apply List.pairwise_of_forall_mem_list
  intro l member next later valued
  rw [(columns l member).2 valued]
  exact (columns next later).1

def leafTokens (leaf : List Char × List Char) : List TokenKind :=
  [.key, .scalar .plain leaf.1, .value, .scalar .plain leaf.2]

def sectionTokens (s : List Char × Leaves) : List TokenKind :=
  [.key, .scalar .plain s.1, .value, .blockMappingStart] ++ s.2.flatMap leafTokens ++ [.blockEnd]

theorem lineTokens_leaves (leaves : Leaves) (rest : List Line) :
    lineTokens [2, 0] (leaves.map leafLine ++ rest) =
      leaves.flatMap leafTokens ++ lineTokens [2, 0] rest := by
  induction leaves with
  | nil => rfl
  | cons leaf later ih =>
    rw [List.map_cons, List.cons_append, lineTokens]
    exact congrArg (leafTokens leaf ++ ·) ih

theorem lineTokens_section {s : List Char × Leaves} (full : s.2 ≠ []) (rest : List Line) :
    lineTokens [0] (sectionLines s ++ rest) =
      [.key, .scalar .plain s.1, .value, .blockMappingStart] ++ s.2.flatMap leafTokens ++
        lineTokens [2, 0] rest := by
  obtain ⟨name, leaves⟩ := s
  obtain ⟨leaf, more, rfl⟩ := List.exists_cons_of_ne_nil full
  have later := lineTokens_leaves more rest
  calc lineTokens [0] (sectionLines (name, leaf :: more) ++ rest)
    _ = [.key, .scalar .plain name, .value, .blockMappingStart] ++ leafTokens leaf ++
          lineTokens [2, 0] (more.map leafLine ++ rest) := rfl
    _ = _ := by rw [later]; simp

/-- The first line of a section closes the section before it. -/
theorem lineTokens_sections {o : Outline} (full : ∀ s ∈ o, s.2 ≠ []) :
    lineTokens [2, 0] o.lines = .blockEnd :: (o.flatMap sectionTokens ++ [.blockEnd, .streamEnd]) := by
  induction o with
  | nil => rfl
  | cons s later ih =>
    have rest := ih fun s member => full s (List.mem_cons_of_mem _ member)
    calc lineTokens [2, 0] (lines (s :: later))
      _ = .blockEnd :: lineTokens [0] (sectionLines s ++ lines later) := rfl
      _ = _ := by
        rw [lineTokens_section (full s List.mem_cons_self), rest]
        simp [sectionTokens]

theorem lineTokens_lines {o : Outline} (nonempty : o ≠ []) (full : ∀ s ∈ o, s.2 ≠ []) :
    lineTokens [] o.lines =
      .blockMappingStart :: (o.flatMap sectionTokens ++ [.blockEnd, .streamEnd]) := by
  obtain ⟨s, later, rfl⟩ := List.exists_cons_of_ne_nil nonempty
  have rest := lineTokens_sections fun s member => full s (List.mem_cons_of_mem _ member)
  calc lineTokens [] (lines (s :: later))
    _ = .blockMappingStart :: lineTokens [0] (sectionLines s ++ lines later) := rfl
    _ = _ := by
      rw [lineTokens_section (full s List.mem_cons_self), rest]
      simp [sectionTokens]

end Outline

/-! From the tokens of an outline to its nodes. -/

/-- A plain scalar without an anchor and without a tag. -/
def IsWordNode (w : List Char) (v : Node) : Prop :=
  ∃ m, v = .scalar ⟨m, none, none⟩ .plain w

def IsLeafEntry (leaf : List Char × List Char) (entry : Node × Node) : Prop :=
  IsWordNode leaf.1 entry.1 ∧ IsWordNode leaf.2 entry.2

def IsSectionEntry (s : List Char × Leaves) (entry : Node × Node) : Prop :=
  IsWordNode s.1 entry.1 ∧
    ∃ m entries, entry.2 = .mapping ⟨m, none, none⟩ entries ∧ List.Forall₂ IsLeafEntry s.2 entries

/-- The document that the tokens from here on give, for any number of events that is not too small. -/
def Assembles (c : Context) (a : Assembly) (tokens : List Token) (d : Document) : Prop :=
  ∀ n, tokens.length + 2 ≤ n → Document.assemble a (c.events n tokens) = d

theorem exists_token {tokens : List Token} {kind : TokenKind} {kinds : List TokenKind}
    (front : tokens.map Token.kind = kind :: kinds) :
    ∃ m n rest, tokens = ⟨kind, m, n⟩ :: rest ∧ rest.map Token.kind = kinds := by
  obtain ⟨t, rest, rfl, rfl, later⟩ := List.map_eq_cons_iff.mp front
  exact ⟨t.start, t.stop, rest, rfl, later⟩

/-- The tokens up to the rest add entries to the mapping that is open. -/
def Adds (tokens rest : List Token) (found : List (Node × Node)) : Prop :=
  ∀ outer handles info entries stack root d,
    Assembles ⟨.blockKey, outer, handles⟩ ⟨.mapping info (found.reverse ++ entries) :: stack, [], root⟩
        rest d →
      Assembles ⟨.blockKey, outer, handles⟩ ⟨.mapping info entries :: stack, [], root⟩ tokens d

/-- Tokens of these kinds add one entry, which is related to what they were written for. -/
def AddsOne (kinds : List TokenKind) (R : Node × Node → Prop) : Prop :=
  ∀ tokens later, tokens.map Token.kind = kinds ++ later →
    ∃ entry rest, R entry ∧ rest.map Token.kind = later ∧ Adds tokens rest [entry]

theorem adds_each {α : Type} {kindsOf : α → List TokenKind} {R : α → Node × Node → Prop}
    (each : ∀ item, AddsOne (kindsOf item) (R item)) {items : List α} {tokens : List Token}
    {later : List TokenKind} (front : tokens.map Token.kind = items.flatMap kindsOf ++ later) :
    ∃ found rest, List.Forall₂ R items found ∧ rest.map Token.kind = later ∧ Adds tokens rest found := by
  induction items generalizing tokens with
  | nil => exact ⟨[], tokens, .nil, front, fun _ _ _ _ _ _ _ assembles => assembles⟩
  | cons item more ih =>
    rw [List.flatMap_cons, List.append_assoc] at front
    obtain ⟨entry, middle, own, following, first⟩ := each item tokens _ front
    obtain ⟨found, rest, others, last, next⟩ := ih following
    refine ⟨entry :: found, rest, .cons own others, last, ?_⟩
    intro outer handles info entries stack root d assembles
    apply first
    apply next
    rwa [List.reverse_cons, List.append_assoc] at assembles

theorem addsOne_leaf (leaf : List Char × List Char) :
    AddsOne (Outline.leafTokens leaf) (IsLeafEntry leaf) := by
  intro tokens later front
  obtain ⟨_, _, _, rfl, name⟩ := exists_token front
  obtain ⟨nameMark, _, _, rfl, colon⟩ := exists_token name
  obtain ⟨_, _, _, rfl, word⟩ := exists_token colon
  obtain ⟨wordMark, _, rest, rfl, after⟩ := exists_token word
  refine ⟨(.scalar ⟨nameMark, none, none⟩ .plain leaf.1, .scalar ⟨wordMark, none, none⟩ .plain leaf.2),
    rest, ⟨⟨_, rfl⟩, ⟨_, rfl⟩⟩, after, ?_⟩
  intro outer handles info entries stack root d assembles n enough
  simp only [List.length_cons] at enough
  obtain ⟨n, rfl⟩ : ∃ i, n = i + 2 := ⟨n - 2, by omega⟩
  exact assembles n (by omega)

theorem addsOne_section (s : List Char × Leaves) :
    AddsOne (Outline.sectionTokens s) (IsSectionEntry s) := by
  intro tokens later front
  simp only [Outline.sectionTokens, List.append_assoc] at front
  obtain ⟨_, _, _, rfl, name⟩ := exists_token front
  obtain ⟨nameMark, _, _, rfl, colon⟩ := exists_token name
  obtain ⟨_, _, _, rfl, start⟩ := exists_token colon
  obtain ⟨startMark, _, _, rfl, inner⟩ := exists_token start
  obtain ⟨found, _, leaves, stop, adds⟩ := adds_each addsOne_leaf inner
  obtain ⟨_, _, rest, rfl, after⟩ := exists_token stop
  refine ⟨(.scalar ⟨nameMark, none, none⟩ .plain s.1, .mapping ⟨startMark, none, none⟩ found), rest,
    ⟨⟨_, rfl⟩, startMark, found, rfl, leaves⟩, after, ?_⟩
  intro outer handles info entries stack root d assembles n enough
  simp only [List.length_cons] at enough
  obtain ⟨n, rfl⟩ : ∃ i, n = i + 2 := ⟨n - 2, by omega⟩
  -- The name is an entry without a value until the mapping of the leaves is closed.
  refine adds (.blockKey :: outer) handles ⟨startMark, none, none⟩ []
    (.entry info entries (.scalar ⟨nameMark, none, none⟩ .plain s.1) :: stack) root d ?_ n (by omega)
  intro n enough
  simp only [List.length_cons] at enough
  obtain ⟨n, rfl⟩ : ∃ i, n = i + 1 := ⟨n - 1, by omega⟩
  have closed := assembles n (by omega)
  rw [← List.reverse_reverse found, ← List.append_nil found.reverse] at closed
  exact closed

/-- The end of the outermost mapping is the end of the document. -/
theorem assembles_end {tokens : List Token} (front : tokens.map Token.kind = [.blockEnd, .streamEnd])
    (handles : List (List Char × List Char)) (info : NodeInfo) (entries : List (Node × Node)) :
    Assembles ⟨.blockKey, [.documentEnd], handles⟩ ⟨[.mapping info entries.reverse], [], none⟩ tokens
      ⟨some (.mapping info entries), false, false⟩ := by
  obtain ⟨_, _, _, rfl, stream⟩ := exists_token front
  obtain ⟨_, _, _, rfl, nothing⟩ := exists_token stream
  obtain rfl := List.map_eq_nil_iff.mp nothing
  intro n enough
  simp only [List.length_cons] at enough
  obtain ⟨n, rfl⟩ : ∃ i, n = i + 3 := ⟨n - 3, by omega⟩
  have closed : OpenNode.close (.mapping info entries.reverse) = .mapping info entries :=
    congrArg (Node.mapping info) (List.reverse_reverse entries)
  rw [← closed]
  rfl

/-- An outline is read as a mapping of its sections, whole and on its own. -/
theorem Document.ofText_outline {o : Outline} (plain : o.IsPlain) (nonempty : o ≠ []) :
    ∃ m entries, List.Forall₂ IsSectionEntry o entries ∧
      Document.ofText (linesText o.lines) = ⟨some (.mapping ⟨m, none, none⟩ entries), false, false⟩ := by
  have front := Token.ofText_linesText plain.lines (Outline.isChain_lines o)
  rw [Outline.lineTokens_lines nonempty fun s member => (plain.sections s member).2.2] at front
  obtain ⟨m, n, rest, tokens, inside⟩ := exists_token front
  obtain ⟨entries, last, sections, stop, adds⟩ := adds_each addsOne_section inside
  refine ⟨m, entries, sections, ?_⟩
  have ended := assembles_end stop defaultHandles ⟨m, none, none⟩ entries
  rw [← List.append_nil entries.reverse] at ended
  have whole := adds _ _ _ _ _ _ _ ended
  rw [Document.ofText, tokens, Event.ofTokens, List.length_cons]
  exact whole (4 * rest.length + 6) (by omega)

end FailureIntake.Yaml
