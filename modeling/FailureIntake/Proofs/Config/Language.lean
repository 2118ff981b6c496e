import FailureIntake.Proofs.Config.SingleDocument
import FailureIntake.Proofs.Yaml.Reordering
import FailureIntake.Proofs.Yaml.Spelling

/-! The language of configurations, given by the trees of its documents: two levels of records with
leaves that spell values. A text is accepted exactly if its document is of this language and does not
ask for a queue without slots, and it means what its leaves spell. -/
namespace FailureIntake.Config

open Yaml

/-- The text spells a value of the field. -/
def Setting.Spells : (k : Setting) → List Char → k.Value → Prop
  | .queueCapacity => ScalarValue.SpellsCount
  | .submitProcessingFailures | .keepFailedDuplicate | .metricsEnabled => ScalarValue.SpellsBool

/-- The node is a plain scalar that spells the value. -/
def Setting.Writes (k : Setting) (v : Node) (x : k.Value) : Prop :=
  ∃ info text, v = .scalar info .plain text ∧ k.Spells text x

/-- A section is empty or a mapping of its fields to values. -/
def Section.IsWritten (s : Section) : Node → Prop :=
  Node.IsRecord Setting.key s.settings fun k leaf => ∃ x, k.Writes leaf x

/-- A single whole document that is empty or a mapping of the sections. -/
def IsConfiguration (doc : Yaml.Document) : Prop :=
  doc.broken = false ∧ doc.followed = false ∧
    ∀ root, doc.root = some root → root.IsRecord Section.key Section.all Section.IsWritten

/-- A size of zero is written. -/
def HasZeroSize (doc : Yaml.Document) : Prop :=
  ∃ v, Setting.queueCapacity.leaf? doc = some v ∧ Setting.queueCapacity.Writes v (0 : UInt64)

/-- Each field has the value that is written for it, or else its default. -/
def Settings.AreWritten (s : Settings) (doc : Yaml.Document) : Prop :=
  ∀ k : Setting, (∀ v, k.leaf? doc = some v → k.Writes v (s.get k)) ∧
    (k.leaf? doc = none → s.get k = Settings.get {} k)

theorem Settings.eq_of_get {s t : Settings} (each : ∀ k : Setting, s.get k = t.get k) : s = t := by
  obtain ⟨submit, keep, size, enabled⟩ := s
  cases each .submitProcessingFailures
  cases each .keepFailedDuplicate
  cases each .queueCapacity
  cases each .metricsEnabled
  rfl

namespace Setting

variable {k : Setting} {doc : Yaml.Document} {v w : Node} {x y : k.Value}

theorem value?_eq_some (bare : v.isBare = true) : k.value? doc v = some x ↔ k.Writes v x := by
  have plain {α : Type} {tag : String} {value? : List Char → Option α} {a : α}
      {spells : List Char → Prop} (reads : ∀ text, value? text = some a ↔ spells text) :
      ((doc.target v).typedText? tag).bind value? = some a ↔
        ∃ info text, v = .scalar info .plain text ∧ spells text := by
    simp only [Document.target_of_isBare bare, Option.bind_eq_some_iff, Node.typedText?_eq_some bare, reads]
    constructor
    · rintro ⟨text, ⟨info, shape⟩, spelled⟩
      exact ⟨info, text, shape, spelled⟩
    · rintro ⟨info, text, shape, spelled⟩
      exact ⟨text, ⟨info, shape⟩, spelled⟩
  cases k with
  | queueCapacity => exact plain fun _ => ScalarValue.word?_eq_some
  | submitProcessingFailures | keepFailedDuplicate | metricsEnabled =>
    exact plain fun _ => ScalarValue.bool?_eq_some

theorem Spells.unique {text : List Char} (left : k.Spells text x) (right : k.Spells text y) : x = y := by
  cases k with
  | queueCapacity => exact ScalarValue.SpellsCount.unique left right
  | submitProcessingFailures | keepFailedDuplicate | metricsEnabled =>
    exact ScalarValue.SpellsBool.unique left right

theorem Writes.unique (left : k.Writes v x) (right : k.Writes v y) : x = y := by
  obtain ⟨_, _, rfl, spelled⟩ := left
  obtain ⟨_, _, ⟨⟩, again⟩ := right
  exact spelled.unique again

theorem Writes.sameScalar (writes : k.Writes v x) (same : Node.SameScalar v w) : k.Writes w x := by
  obtain ⟨_, text, rfl, spelled⟩ := writes
  cases same
  exact ⟨_, text, rfl, spelled⟩

theorem mem_leaves_of_leaf? (leaf : k.leaf? doc = some v) : v ∈ k.leaves doc := by
  simp only [leaf?, Option.bind_eq_bind, Option.bind_eq_some_iff] at leaf
  obtain ⟨root, found, section_, inside, leaf⟩ := leaf
  exact mem_leaves found (Document.mem_valuesAt_of_valueAt? inside) (Document.mem_valuesAt_of_valueAt? leaf)

theorem isBare_of_mem_leaves (bare : doc.isBare = true) (member : v ∈ k.leaves doc) : v.isBare = true := by
  simp only [leaves, List.mem_flatMap, Option.mem_toList] at member
  obtain ⟨section_, ⟨root, found, inside⟩, leaf⟩ := member
  have bareSection := Document.isBare_of_mem_valuesAt (Document.isBare_of_root bare found) inside
  exact Document.isBare_of_mem_valuesAt bareSection leaf

end Setting

theorem not_hasNullTag {doc : Yaml.Document} (bare : doc.isBare = true) : ¬ HasNullTag doc := by
  rintro ⟨k, v, member, tagged⟩
  have bareLeaf := Setting.isBare_of_mem_leaves bare member
  rw [Document.isNullTagged, Document.target_of_isBare bareLeaf] at tagged
  split at tagged
  · simp [Node.untagged_of_isBare bareLeaf] at tagged
  · cases tagged

namespace Draft

variable {doc : Yaml.Document} {d : Draft} {k other : Setting} {x : Option k.Value}

theorem has_set : (d.set k x).has other = true ↔ other = k ∨ d.has other = true := by
  rw [has_eq, has_eq]
  by_cases same : k = other
  · subst same
    simp [get_set]
  · simp [get_set_other same, Ne.symm same]

/-- Fields have been read only of sections that have been begun. -/
def IsSound (d : Draft) : Prop :=
  ∀ k : Setting, d.has k = true → k.home ∈ d.sections

theorem settingFields_decides (doc : Yaml.Document) {s : Section} {sections : List Section}
    (begun : s ∈ sections) :
    (settingFields .settings doc s).Decides Setting.key s.settings (fun k leaf => ∃ x, k.Writes leaf x)
      fun d => d.sections = sections ∧ d.IsSound where
  names := rfl
  labels := Setting.key_injective
  reads := by
    intro m p k v d _ bare _ _
    change (∃ next, readSetting .settings doc m p k v d = .ok next) ↔ _
    simp only [readSetting_settings, Setting.value?_eq_some bare]
    constructor
    · rintro ⟨_, x, written, _⟩
      exact ⟨x, written⟩
    · rintro ⟨x, written⟩
      exact ⟨_, x, written, rfl⟩
  keeps := by
    intro m p k v d next among ⟨same, sound⟩ given
    obtain ⟨x, _, rfl⟩ := readSetting_settings.mp given
    refine ⟨⟨sections_set.trans same, fun other read => ?_⟩, fun other => has_set⟩
    rw [sections_set]
    rcases has_set.mp read with rfl | before
    · rw [same, Section.home_of_mem among]
      exact begun
    · exact sound other before

theorem sectionFields_decides (doc : Yaml.Document) :
    (sectionFields .settings doc).Decides Section.key Section.all Section.IsWritten IsSound where
  names := rfl
  labels := Section.key_injective
  reads := by
    intro m p s v d _ bare sound fresh
    -- No field of a section can have been read before the section.
    have unread : ∀ k ∈ s.settings, d.has k = false := by
      intro k member
      by_contra read
      have begun := sound k (by simpa using read)
      rw [Section.home_of_mem member] at begun
      simp [sectionFields, begun] at fresh
    change (∃ next, doc.readMapping (settingFields .settings doc s) p _ v
      { d with sections := s :: d.sections } = .ok next) ↔ _
    apply Document.readMapping_iff (settingFields_decides doc List.mem_cons_self) bare
    · exact ⟨rfl, fun k read => List.mem_cons_of_mem s (sound k read)⟩
    · exact unread
  keeps := by
    intro m p s v d next _ sound given
    have begun : s ∈ s :: d.sections := List.mem_cons_self
    obtain ⟨_, reads⟩ := Document.readMapping_reads given
    obtain ⟨sections, stillSound⟩ := reads.stays_sound (settingFields_decides doc begun)
      ⟨rfl, fun k read => List.mem_cons_of_mem s (sound k read)⟩
    refine ⟨stillSound, fun other => ?_⟩
    simp [sectionFields, sections]

/-- The documents that are read as settings are those of the language. -/
theorem ofDocument_iff (bare : doc.isBare = true) :
    (∃ d, ofDocument .settings doc = .ok d) ↔ IsConfiguration doc := by
  have root {v : Node} (found : doc.root = some v) :
      (∃ d, doc.readMapping (sectionFields .settings doc) [] Form.settings.documentName v {} = .ok d) ↔
        v.IsRecord Section.key Section.all Section.IsWritten := by
    have bareRoot := Document.isBare_of_root bare found
    refine Document.readMapping_iff (sectionFields_decides doc) bareRoot ?_ fun _ _ => rfl
    intro k read
    cases k <;> cases read
  simp only [ofDocument, Document.read_eq_ok, IsConfiguration]
  constructor
  · rintro ⟨d, whole, alone, ⟨none, _⟩ | ⟨v, found, read⟩⟩
    · exact ⟨whole, alone, fun v found => by cases none.symm.trans found⟩
    · refine ⟨whole, alone, fun w same => ?_⟩
      cases found.symm.trans same
      exact (root found).mp ⟨d, read⟩
  · rintro ⟨whole, alone, record⟩
    cases found : doc.root with
    | none => exact ⟨{}, whole, alone, .inl ⟨rfl, rfl⟩⟩
    | some v =>
      obtain ⟨d, read⟩ := (root found).mpr (record v found)
      exact ⟨d, whole, alone, .inr ⟨v, rfl, read⟩⟩

/-- What is read for a field is what its leaf spells. -/
theorem get_of_ofDocument (bare : doc.isBare = true) (read : ofDocument .settings doc = .ok d)
    (k : Setting) : (k.leaf? doc = none ∧ d.get k = none) ∨
      ∃ v x, k.leaf? doc = some v ∧ k.Writes v x ∧ d.get k = some (some x) := by
  have overrides := overrides_of_settings (not_hasNullTag bare) read
  refine (ofDocument_get overrides k).imp_right ?_
  rintro ⟨v, leaf, gives⟩
  have member := Setting.mem_leaves_of_leaf? leaf
  have bareLeaf := Setting.isBare_of_mem_leaves bare member
  rcases gives with ⟨null, _⟩ | ⟨x, _, value, held⟩
  · -- As one of the settings, the leaf was read for a value, which nothing null has.
    obtain ⟨_, _, _, _, given⟩ := readSetting_of_mem read member
    obtain ⟨x, value, _⟩ := readSetting_settings.mp given
    exact absurd null (Setting.not_isNull value)
  · exact ⟨v, x, leaf, (Setting.value?_eq_some bareLeaf).mp value, held⟩

end Draft

variable {text : String}

/-- A text is refused for its form, or what it says is checked. -/
theorem Settings.ofYaml_outcome (bare : (documentOf text).isBare = true) :
    (¬ IsConfiguration (documentOf text) ∧ ∃ reason, ofYaml text = .error (.yaml reason)) ∨
      IsConfiguration (documentOf text) ∧ ∃ s : Settings, s.AreWritten (documentOf text) ∧
        ofYaml text = s.check := by
  by_cases language : IsConfiguration (documentOf text)
  · obtain ⟨d, read⟩ := (Draft.ofDocument_iff bare).mpr language
    refine .inr ⟨language, d.overrides.apply {}, fun k => ?_, ofYaml_of_draft read⟩
    rw [Overrides.get_apply, Draft.get_overrides]
    rcases Draft.get_of_ofDocument bare read k with ⟨absent, none⟩ | ⟨v, x, leaf, writes, held⟩
    · rw [none, absent]
      exact ⟨nofun, fun _ => rfl⟩
    · rw [held, leaf]
      refine ⟨fun w same => ?_, nofun⟩
      cases same
      exact writes
  · rcases ofYaml_cases text with refused | read
    · exact .inl ⟨language, refused⟩
    · exact absurd ((Draft.ofDocument_iff bare).mp read) language

namespace Settings.AreWritten

variable {s t : Settings} {doc other : Yaml.Document}

/-- Whether a size of zero is written can be seen from the settings. -/
theorem hasZeroSize (written : s.AreWritten doc) : HasZeroSize doc ↔ s.queueCapacity = 0 := by
  obtain ⟨given, default⟩ := written .queueCapacity
  constructor
  · rintro ⟨v, leaf, zero⟩
    exact (given v leaf).unique zero
  · intro zero
    cases leaf : Setting.queueCapacity.leaf? doc with
    | none =>
      have size : s.queueCapacity = 1000 := default leaf
      rw [zero] at size
      cases size
    | some v =>
      have writes : Setting.queueCapacity.Writes v s.queueCapacity := given v leaf
      rw [zero] at writes
      exact ⟨v, leaf, writes⟩

/-- Documents with the same leaves mean the same. -/
theorem unique (written : s.AreWritten doc) (again : t.AreWritten other)
    (leaves : ∀ k : Setting, Option.Rel Node.SameScalar (k.leaf? doc) (k.leaf? other)) : s = t := by
  apply Settings.eq_of_get
  intro k
  obtain ⟨given, default⟩ := written k
  obtain ⟨givenAgain, defaultAgain⟩ := again k
  have alike := leaves k
  generalize k.leaf? doc = leaf at given default alike
  generalize k.leaf? other = moved at givenAgain defaultAgain alike
  cases alike with
  | none => rw [default rfl, defaultAgain rfl]
  | some same => exact ((given _ rfl).sameScalar same).unique (givenAgain _ rfl)

end Settings.AreWritten

theorem rel_bind {α β γ δ : Type} {R : α → β → Prop} {S : γ → δ → Prop} {a : Option α} {b : Option β}
    {f : α → Option γ} {g : β → Option δ} (related : Option.Rel R a b)
    (each : ∀ x y, a = some x → b = some y → R x y → Option.Rel S (f x) (g y)) :
    Option.Rel S (a.bind f) (b.bind g) := by
  cases related with
  | none => exact .none
  | some first => exact each _ _ rfl rfl first

namespace IsConfiguration

variable {doc other : Yaml.Document}

theorem reordered (language : IsConfiguration doc) (reordered : doc.Reordered other) :
    IsConfiguration other := by
  obtain ⟨whole, alone, record⟩ := language
  refine ⟨reordered.broken ▸ whole, reordered.followed ▸ alone, fun w found => ?_⟩
  have moved := reordered.root
  rw [found] at moved
  generalize doc.root = before at record moved
  cases moved with
  | some moved =>
    apply (record _ rfl).reordered moved
    intro _ _ _ moved written
    apply written.reordered moved
    rintro k _ _ same ⟨x, writes⟩
    exact ⟨x, writes.sameScalar same⟩

theorem leaf?_reordered (language : IsConfiguration doc) (reordered : doc.Reordered other)
    (bare : doc.isBare = true) (otherBare : other.isBare = true) (k : Setting) :
    Option.Rel Node.SameScalar (k.leaf? doc) (k.leaf? other) := by
  obtain ⟨_, _, record⟩ := language
  refine rel_bind reordered.root fun root otherRoot found otherFound moved => ?_
  have bareRoot := Document.isBare_of_root bare found
  have bareOther := Document.isBare_of_root otherBare otherFound
  have sections := Document.areFields_entriesOf (d := doc) (record root found)
  refine rel_bind (Document.valueAt?_reordered (Document.areReordered_entriesOf moved) sections.distinct
    (Document.bareEntries_entriesOf bareRoot) (Document.bareEntries_entriesOf bareOther)) ?_
  intro section_ otherSection inside otherInside moved
  have bareSection := Document.isBare_of_mem_valuesAt bareRoot (Document.mem_valuesAt_of_valueAt? inside)
  have bareOtherSection :=
    Document.isBare_of_mem_valuesAt bareOther (Document.mem_valuesAt_of_valueAt? otherInside)
  obtain ⟨key, member, _⟩ :=
    (Document.valueAt?_eq_some (Document.bareEntries_entriesOf bareRoot) sections.distinct).mp inside
  obtain ⟨s, _, _, written⟩ := sections.each (key, section_) member
  have leaves := Document.areFields_entriesOf (d := doc) written
  exact Document.valueAt?_reordered (Document.areReordered_entriesOf moved) leaves.distinct
    (Document.bareEntries_entriesOf bareSection) (Document.bareEntries_entriesOf bareOtherSection)

end IsConfiguration

/-- Texts that say the same in another order have the same outcome. -/
theorem Settings.ofYaml_reordered {o : String} (bare : (documentOf text).isBare = true)
    (otherBare : (documentOf o).isBare = true) (language : IsConfiguration (documentOf text))
    (reordered : (documentOf text).Reordered (documentOf o)) : ofYaml o = ofYaml text := by
  rcases ofYaml_outcome bare with ⟨none, _⟩ | ⟨_, s, written, outcome⟩
  · exact absurd language none
  · rcases ofYaml_outcome otherBare with ⟨none, _⟩ | ⟨_, t, again, otherOutcome⟩
    · exact absurd (language.reordered reordered) none
    · rw [outcome, otherOutcome,
        written.unique again (language.leaf?_reordered reordered bare otherBare)]

/-- A text is accepted, refused for its size, or refused for its form, as its document is one of the
language and asks for slots, is one of the language and asks for none, or is none of the language.
Accepted settings are those that are written, in whatever order. -/
theorem accepts_the_configuration_language (bare : (documentOf text).isBare = true) :
    ((∃ s, Settings.ofYaml text = .ok s) ↔
      IsConfiguration (documentOf text) ∧ ¬ HasZeroSize (documentOf text)) ∧
    (Settings.ofYaml text = .error .zeroCapacity ↔
      IsConfiguration (documentOf text) ∧ HasZeroSize (documentOf text)) ∧
    ((∃ reason, Settings.ofYaml text = .error (.yaml reason)) ↔ ¬ IsConfiguration (documentOf text)) ∧
    (∀ s, Settings.ofYaml text = .ok s → s.AreWritten (documentOf text)) ∧
    ∀ other, (documentOf other).isBare = true → IsConfiguration (documentOf text) →
      (documentOf text).Reordered (documentOf other) → Settings.ofYaml other = Settings.ofYaml text := by
  have order := fun other => Settings.ofYaml_reordered (o := other) bare
  rcases Settings.ofYaml_outcome bare with ⟨none, reason, refused⟩ | ⟨language, s, written, outcome⟩
  · refine ⟨?_, ?_, ?_, ?_, order⟩ <;> simp [refused, none]
  · have valid : s.IsValid ↔ ¬ HasZeroSize (documentOf text) :=
      UInt64.pos_iff_ne_zero.trans (not_congr written.hasZeroSize).symm
    rw [Settings.check] at outcome
    by_cases zero : HasZeroSize (documentOf text)
    · rw [if_neg (mt valid.mp (not_not.mpr zero))] at outcome
      refine ⟨?_, ?_, ?_, ?_, order⟩ <;> simp [outcome, language, zero]
    · rw [if_pos (valid.mpr zero)] at outcome
      refine ⟨?_, ?_, ?_, ?_, order⟩ <;> simp [outcome, language, zero, written]

/-- Both sections, and the fields of one of them, in the one and the other order. -/
theorem sections_in_two_orders :
    let metrics := "metrics:\n  enabled: FALSE\n"
    let size := "  queue_capacity: 0x10\n"
    let submit := "  submit_processing_failures: True\n"
    let text := metrics ++ "failure_handling:\n" ++ size ++ submit
    let other := "failure_handling:\n" ++ submit ++ size ++ metrics
    let s : Settings := { submitProcessingFailures := true, queueCapacity := 16, metricsEnabled := false }
    (documentOf text).isBare = true ∧ (documentOf other).isBare = true ∧
      (documentOf text).Reordered (documentOf other) ∧ IsConfiguration (documentOf text) ∧
      Settings.ofYaml text = .ok s ∧ s.AreWritten (documentOf text) ∧ Settings.ofYaml other = .ok s := by
  intro metrics size submit text other s
  have bare : (documentOf text).isBare = true := by decide +kernel
  have otherBare : (documentOf other).isBare = true := by decide +kernel
  have given : Settings.ofYaml text = .ok s := by decide +kernel
  have reordered : (documentOf text).Reordered (documentOf other) := by
    let enabled := ("metrics".toList, [("enabled".toList, "FALSE".toList)])
    let handling (leaves : Leaves) := ("failure_handling".toList, leaves)
    let capacity := ("queue_capacity".toList, "0x10".toList)
    let failures := ("submit_processing_failures".toList, "True".toList)
    have here : text.toList = linesText (Outline.lines [enabled, handling [capacity, failures]]) := by decide
    have there : other.toList = linesText (Outline.lines [handling [failures, capacity], enabled]) := by
      decide
    rw [documentOf, documentOf, here, there]
    apply Document.reordered_of_outlines
    · decide +kernel
    · exact List.cons_ne_nil _ _
    · exact ⟨_, .swap _ _ [], .cons ⟨rfl, .swap _ _ []⟩ (.cons ⟨rfl, .refl _⟩ .nil)⟩
  obtain ⟨accepted, _, _, written, order⟩ := accepts_the_configuration_language bare
  have language := (accepted.mp ⟨s, given⟩).1
  exact ⟨bare, otherBare, reordered, language, given, written s given,
    (order other otherBare language reordered).trans given⟩

end FailureIntake.Config
