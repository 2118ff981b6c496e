import FailureIntake.Proofs.Config.Interpolation
import FailureIntake.Proofs.Config.SingleDocument
import FailureIntake.Proofs.Yaml.Numbers
import FailureIntake.Proofs.Yaml.Outline

/-! Settings survive their document. The document of settings is an outline with a section for each
section of the settings and a leaf for each field, so it is read as a tree with these leaves, and each
leaf as the value of its field. The document has no references, so the environment does not matter. -/
namespace FailureIntake.Config

open Yaml

namespace Settings

variable {s : Settings}

/-- The word that is written for a field. -/
def valueText (s : Settings) : Setting → List Char
  | .submitProcessingFailures => boolText s.submitProcessingFailures
  | .keepFailedDuplicate => boolText s.keepFailedDuplicate
  | .queueCapacity => Text.decimal s.queueCapacity.toNat
  | .metricsEnabled => boolText s.metricsEnabled

def leaf (s : Settings) (k : Setting) : List Char × List Char :=
  (k.key.toList, s.valueText k)

def outline (s : Settings) : Outline :=
  Section.all.map fun x => (x.key.toList, x.settings.map s.leaf)

theorem lineText_eq (k : Setting) (value : List Char) :
    lineText k value = (Outline.leafLine (k.key.toList, value)).text := by
  simp [lineText, Outline.leafLine, Line.text, Line.tail, List.replicate]

theorem yamlText_eq (s : Settings) : s.yamlText = linesText s.outline.lines := by
  simp [yamlText, lineText_eq, outline, Section.all, Section.settings, Outline.lines, Outline.sectionLines,
    linesText, leaf, valueText, Line.text, Line.tail]

theorem isBareWord_of_all {w : List Char} (nonempty : w ≠ []) (all : w.all isBare = true) :
    IsBareWord w :=
  ⟨nonempty, List.all_eq_true.mp all⟩

theorem isBareWord_key (k : Setting) : IsBareWord k.key.toList ∧ k.key.toList.length ≤ 1024 := by
  cases k <;> exact ⟨isBareWord_of_all (by decide) (by decide), by decide⟩

theorem isBareWord_section (x : Section) : IsBareWord x.key.toList ∧ x.key.toList.length ≤ 1024 := by
  cases x <;> exact ⟨isBareWord_of_all (by decide) (by decide), by decide⟩

theorem isBareWord_boolText (b : Bool) : IsBareWord (boolText b) := by
  cases b <;> exact isBareWord_of_all (by decide) (by decide)

theorem isBareWord_decimal (n : Nat) : IsBareWord (Text.decimal n) := by
  refine ⟨Nat.toDigits_ne_nil, fun c member => ?_⟩
  simp [isBare, Char.isAlphanum, Text.decimal_isDigit member]

theorem isBareWord_valueText (s : Settings) (k : Setting) : IsBareWord (s.valueText k) := by
  cases k with
  | queueCapacity => exact isBareWord_decimal _
  | submitProcessingFailures | keepFailedDuplicate | metricsEnabled => exact isBareWord_boolText _

theorem isPlain_outline (s : Settings) : s.outline.IsPlain := by
  constructor
  · intro entry member
    obtain ⟨x, _, rfl⟩ := List.mem_map.mp member
    obtain ⟨bare, short⟩ := isBareWord_section x
    refine ⟨bare, short, ?_⟩
    cases x <;> exact List.cons_ne_nil _ _
  · intro entry member leaf inside
    obtain ⟨x, _, rfl⟩ := List.mem_map.mp member
    obtain ⟨k, _, rfl⟩ := List.mem_map.mp inside
    obtain ⟨bare, short⟩ := isBareWord_key k
    exact ⟨bare, short, isBareWord_valueText s k⟩

end Settings

end FailureIntake.Config

namespace FailureIntake.Yaml

variable {doc : Document} {w : List Char} {v : Node}

theorem IsWordNode.keyText? (word : IsWordNode w v) : doc.keyText? v = some (String.ofList w) := by
  obtain ⟨m, rfl⟩ := word
  rfl

theorem IsWordNode.isNullTagged (word : IsWordNode w v) : doc.isNullTagged v = false := by
  obtain ⟨m, rfl⟩ := word
  rfl

theorem IsWordNode.typedText? (word : IsWordNode w v) (tag : String) :
    (doc.target v).typedText? tag = some w := by
  obtain ⟨m, rfl⟩ := word
  rfl

end FailureIntake.Yaml

namespace FailureIntake.Config

open Yaml

variable {s : Settings} {doc : Yaml.Document} {v : Node} {form : Form} {path : List String}
  {mark : Mark} {draft : Draft}

theorem bool?_boolText (b : Bool) : ScalarValue.bool? (Settings.boolText b) = some b := by
  cases b <;> decide

/-- The word of a field is read as its value. -/
theorem Setting.value?_of_word {k : Setting} (word : IsWordNode (s.valueText k) v) :
    k.value? doc v = some (s.get k) := by
  cases k with
  | queueCapacity =>
    change ((doc.target v).typedText? "int").bind ScalarValue.word? = some s.queueCapacity
    rw [word.typedText?]
    exact ScalarValue.word?_decimal _
  | submitProcessingFailures | keepFailedDuplicate | metricsEnabled =>
    change ((doc.target v).typedText? "bool").bind ScalarValue.bool? = _
    rw [word.typedText?]
    exact bool?_boolText _

namespace Draft

/-- A word that stands for a value is read alike where a leaf may be null and where it may not. -/
theorem readSetting_of_word {k : Setting} {x : k.Value} {w : List Char} {mapping : List String × Mark}
    (word : IsWordNode w v) (value : k.value? doc v = some x) :
    readSetting form doc mapping path k v draft = .ok (draft.set k (some x)) := by
  have given : readSetting .settings doc mapping path k v draft = .ok (draft.set k (some x)) :=
    readSetting_settings.mpr ⟨x, value, rfl⟩
  cases form with
  | settings => exact given
  | overrides =>
    have present : ¬ doc.IsNull v := Setting.not_isNull value
    rw [readSetting_present (Document.readsAsNull_eq_false word.isNullTagged present), given]

/-- The draft with some fields of the settings. -/
def fill (draft : Draft) (s : Settings) (fields : List Setting) : Draft :=
  fields.foldl (fun d k => d.set k (some (s.get k))) draft

theorem reads_leaves {x : Section} {fields : List Setting} (known : ∀ k ∈ fields, k ∈ x.settings)
    (distinct : fields.Nodup) (unread : ∀ k ∈ fields, draft.has k = false)
    {entries : List (Node × Node)} (leaves : List.Forall₂ IsLeafEntry (fields.map s.leaf) entries) :
    doc.Reads (settingFields form doc x) path mark entries draft (draft.fill s fields) := by
  induction fields generalizing draft entries with
  | nil =>
    cases leaves
    exact .nil
  | cons k rest ih =>
    rw [List.map_cons] at leaves
    cases leaves with
    | @cons _ entry _ others own leaves =>
      obtain ⟨name, word⟩ := own
      obtain ⟨fresh, distinct⟩ := List.nodup_cons.mp distinct
      have named : doc.keyText? entry.1 = some k.key := by
        rw [name.keyText?]
        exact congrArg some String.ofList_toList
      refine .cons named ((Document.lookup_named Setting.key_injective).mpr
        ⟨known k List.mem_cons_self, rfl⟩) (unread k List.mem_cons_self)
        (readSetting_of_word word (Setting.value?_of_word word)) ?_
      apply ih (fun j member => known j (List.mem_cons_of_mem k member)) distinct ?_ leaves
      intro j member
      have different : k ≠ j := by
        rintro rfl
        exact fresh member
      rw [has_eq, get_set_other different, ← has_eq]
      exact unread j (List.mem_cons_of_mem k member)

/-- A section is read with all its fields. -/
theorem readMapping_section {x : Section} (unread : ∀ k ∈ x.settings, draft.has k = false) {m : Mark}
    {entries : List (Node × Node)} (leaves : List.Forall₂ IsLeafEntry (x.settings.map s.leaf) entries) :
    doc.readMapping (settingFields form doc x) path (form.sectionName x) (.mapping ⟨m, none, none⟩ entries)
      draft = .ok (draft.fill s x.settings) := by
  have distinct : x.settings.Nodup := by
    cases x <;> decide
  exact Document.readEntries_eq_ok.mpr (reads_leaves (fun _ => id) distinct unread leaves)

def ofSettings (s : Settings) : Draft where
  sections := [.metrics, .failureHandling]
  submitProcessingFailures := some (some s.submitProcessingFailures)
  keepFailedDuplicate := some (some s.keepFailedDuplicate)
  queueCapacity := some (some s.queueCapacity)
  metricsEnabled := some (some s.metricsEnabled)

theorem ofDocument_outline {m : Mark} {entries : List (Node × Node)}
    (sections : List.Forall₂ IsSectionEntry s.outline entries) (form : Form) :
    ofDocument form ⟨some (.mapping ⟨m, none, none⟩ entries), false, false⟩ = .ok (ofSettings s) := by
  -- Aliases refer to the document, but there are none, so it need not be known.
  generalize written : (⟨some (.mapping ⟨m, none, none⟩ entries), false, false⟩ : Yaml.Document) = doc
  have root : doc.root = some (.mapping ⟨m, none, none⟩ entries) := by rw [← written]
  refine Document.read_eq_ok.mpr ⟨by rw [← written], by rw [← written], .inr ⟨_, root, ?_⟩⟩
  refine Document.readEntries_eq_ok.mpr ?_
  have named (x : Section) {v : Node} (word : IsWordNode x.key.toList v) : doc.keyText? v = some x.key := by
    rw [word.keyText?]
    exact congrArg some String.ofList_toList
  have known (x : Section) : (sectionFields form doc).names.lookup x.key = some x :=
    (Document.lookup_named Section.key_injective).mpr ⟨x.mem_all, rfl⟩
  cases sections with
  | @cons _ first _ _ handling sections =>
    cases sections with
    | @cons _ second _ _ metrics sections =>
      cases sections
      obtain ⟨handlingName, _, _, handlingLeaves, handlingEntries⟩ := handling
      obtain ⟨metricsName, _, _, metricsLeaves, metricsEntries⟩ := metrics
      obtain ⟨k₁, v₁⟩ := first
      obtain ⟨k₂, v₂⟩ := second
      subst handlingLeaves
      subst metricsLeaves
      refine .cons (named .failureHandling handlingName) (known _) rfl
        (readMapping_section (by decide) handlingEntries) ?_
      refine .cons (named .metrics metricsName) (known _) rfl
        (readMapping_section ?_ metricsEntries) .nil
      intro k member
      cases List.mem_singleton.mp member
      rfl

end Draft

theorem ofDocument_yamlText (s : Settings) (form : Form) :
    Draft.ofDocument form (documentOf (String.ofList s.yamlText)) = .ok (Draft.ofSettings s) := by
  obtain ⟨m, entries, sections, document⟩ :=
    Document.ofText_outline s.isPlain_outline (List.cons_ne_nil _ _)
  rw [documentOf, String.toList_ofList, Settings.yamlText_eq, document]
  exact Draft.ofDocument_outline sections form

/-- A text without dollars stays as it is. -/
theorem interpolate_of_not_mem {env : Environment} {text : String} (plain : '$' ∉ text.toList) :
    interpolate env text = .ok text := by
  have cut (cs : List Char) (plain : '$' ∉ cs) : Cut cs (cs.map .literal) := by
    induction cs with
    | nil => exact .nil
    | cons c r ih =>
      rw [List.mem_cons, not_or] at plain
      refine .literal (fun p rest marked => ?_) (ih plain.2)
      obtain ⟨_, same⟩ := Piece.marked_dollar marked
      exact plain.1 (List.cons.inj same).1.symm
  refine interpolate_eq_ok.mpr ⟨text.toList.map fun c => [c], ?_, ?_⟩
  · rw [← (cut _ plain).eq_split, List.forall₂_map_left_iff, List.forall₂_map_right_iff, List.forall₂_same]
    exact fun c _ => .literal
  · rw [← List.flatMap_def, List.flatMap_singleton', String.ofList_toList]

/-- The document of settings is read as these settings: on its own, where they are checked, too, and
as the only file of a configuration, in every environment. -/
theorem written_settings_are_read (s : Settings) :
    (∀ path, SourceDocument.parse Settings.ofText ⟨path, String.ofList s.yamlText⟩ = .ok s) ∧
      Settings.ofYaml (String.ofList s.yamlText) =
        (if 0 < s.queueCapacity then .ok s else .error .zeroCapacity) ∧
      ∀ (fs : FileSystem) (env : Environment) (p : Path), p.isYaml = true →
        fs.text p = .ok (String.ofList s.yamlText) →
          Settings.ofSources fs env [⟨.file, p⟩] =
            (if 0 < s.queueCapacity then .ok s else .error .zeroCapacity) := by
  have plain : '$' ∉ (String.ofList s.yamlText).toList := by
    rw [String.toList_ofList, Settings.yamlText_eq]
    intro dollar
    rcases mem_linesText s.isPlain_outline.lines dollar with bare | space | colon | line
    · exact absurd bare (by decide)
    · exact absurd space (by decide)
    · exact absurd colon (by decide)
    · exact absurd line (by decide)
  refine ⟨fun path => ?_, ?_, fun fs env p yaml content => ?_⟩
  · rw [SourceDocument.parse, Settings.ofText_of_draft (ofDocument_yamlText s .settings)]
    rfl
  · rw [Settings.ofYaml_of_draft (ofDocument_yamlText s .settings)]
    rfl
  · rw [ofSources_file yaml content (interpolate_of_not_mem plain),
      Overrides.ofText_of_draft (ofDocument_yamlText s .overrides)]
    rfl

/-- The largest size, in a file. -/
theorem largest_size_is_read :
    let s : Settings := { queueCapacity := 18446744073709551615, metricsEnabled := false }
    let text := "failure_handling:\n  submit_processing_failures: false\n" ++
      "  keep_failed_message_duplicate: true\n  queue_capacity: 18446744073709551615\n" ++
      "metrics:\n  enabled: false\n"
    let p : Path := Text.Utf8.encode "config.yaml"
    let fs : FileSystem :=
      { content := fun q => if q = p then .ok (Text.Utf8.encode text) else .error .notFound
        listing := fun _ => .error .notFound }
    String.ofList s.yamlText = text ∧ p.isYaml = true ∧ fs.text p = .ok text ∧
      ∀ env, Settings.ofSources fs env [⟨.file, p⟩] = .ok s := by
  intro s text p fs
  have written : String.ofList s.yamlText = text := by decide +kernel
  have yaml : p.isYaml = true := by decide +kernel
  have content : fs.text p = .ok text := eq_ok_of_toOption (by decide +kernel)
  refine ⟨written, yaml, content, fun env => ?_⟩
  have read := (written_settings_are_read s).2.2 fs env p yaml (content.trans (congrArg _ written.symm))
  rwa [if_pos (by decide)] at read

end FailureIntake.Config
