import FailureIntake.Proofs.Config.Merging
import FailureIntake.Proofs.Yaml.Transfer

/-! A document on its own and the same document as the only file. The one is read as settings, where
every field that is written has a value, the other as overrides, where a field may be null. The
two readings differ in null leaves only: those that are null, and those that have the tag of null and
are not. -/
namespace FailureIntake.Yaml.Document

/-- The node is a plain scalar with the tag of null. -/
def isNullTagged (d : Document) (v : Node) : Bool :=
  match d.target v with
  | .scalar info .plain _ => info.tag == some (coreTag "null")
  | _ => false

variable {d : Document} {path : List String} {mark : Mark} {v : Node}

theorem readsAsNull_eq_false (untagged : d.isNullTagged v = false) (present : ¬ d.IsNull v) :
    d.readsAsNull path mark v = .ok false := by
  unfold isNullTagged at untagged
  unfold IsNull at present
  unfold readsAsNull
  cases target : d.target v with
  | scalar info style text =>
    simp only [target] at untagged present ⊢
    cases style with
    | plain =>
      dsimp only at untagged present ⊢
      cases tagged : info.tag with
      | none => simpa [tagged] using present
      | some tag =>
        have other : tag ≠ coreTag "null" := by
          rintro rfl
          simp [tagged] at untagged
        exact if_neg other
    | _ => rfl
  | _ => rfl

/-- A text that is not null must not have the tag of null. -/
theorem readsAsNull_refuses (path : List String) (mark : Mark) (tagged : d.isNullTagged v = true)
    (present : ¬ d.IsNull v) : ∃ e, d.readsAsNull path mark v = .error e := by
  unfold isNullTagged at tagged
  unfold IsNull at present
  unfold readsAsNull
  cases target : d.target v with
  | scalar info style text =>
    simp only [target] at tagged present ⊢
    cases style with
    | plain =>
      dsimp only at tagged present ⊢
      rw [beq_iff_eq.mp tagged] at present ⊢
      dsimp only
      rw [if_pos rfl, if_neg (by simpa using present)]
      exact ⟨_, rfl⟩
    | _ => cases tagged
  | _ =>
    rw [target] at tagged
    cases tagged

end FailureIntake.Yaml.Document

namespace FailureIntake.Config

open Yaml

theorem isNullWord_iff {text : List Char} :
    ScalarValue.isNullWord text = true ↔
      text ∈ ["null".toList, "Null".toList, "NULL".toList, "~".toList] := by
  simp [ScalarValue.isNullWord, ← String.toList_inj]

/-- Nothing that is null has a value. -/
theorem Setting.value?_of_isNull {doc : Yaml.Document} {v : Node} (k : Setting) (null : doc.IsNull v) :
    k.value? doc v = none := by
  have typed : ∃ text : List Char, (text = [] ∨ ScalarValue.isNullWord text = true) ∧
      ∀ tag, (doc.target v).typedText? tag = some text := by
    unfold Document.IsNull at null
    split at null
    · next target =>
      rw [target]
      exact ⟨_, null.elim (·.2) (.inr ·.2), fun _ => rfl⟩
    · exact null.elim
  obtain ⟨text, word, typed⟩ := typed
  have meaningless : ScalarValue.bool? text = none ∧ ScalarValue.word? text = none := by
    rw [isNullWord_iff] at word
    rcases word with rfl | word
    · decide +kernel
    · have all : ∀ w ∈ ["null".toList, "Null".toList, "NULL".toList, "~".toList],
          ScalarValue.bool? w = none ∧ ScalarValue.word? w = none := by decide +kernel
      exact all text word
  have bool : doc.bool? v = none := by
    rw [Document.bool?, typed]
    exact meaningless.1
  have word : doc.word? v = none := by
    rw [Document.word?, typed]
    exact meaningless.2
  cases k with
  | queueCapacity => exact word
  | submitProcessingFailures | keepFailedDuplicate | metricsEnabled => exact bool

theorem Setting.not_isNull {doc : Yaml.Document} {v : Node} {k : Setting} {x : k.Value}
    (value : k.value? doc v = some x) : ¬ doc.IsNull v := by
  intro null
  rw [k.value?_of_isNull null] at value
  cases value

namespace Draft

variable {doc : Yaml.Document} {k : Setting} {d next : Draft} {mapping : List String × Mark}
  {path : List String} {v : Node}

theorem readValue_settings {α : Type} {read : Node → Except ReadError α} {value? : Node → Option α}
    (reads : ∀ a, read v = .ok a ↔ value? v = some a) {fill : Option α → Draft} :
    (readValue .settings doc mapping read v >>= fun x => pure (fill x)) = .ok next ↔
      ∃ a, value? v = some a ∧ next = fill (some a) := by
  simp only [← reads, readValue]
  cases read v with
  | error e =>
    constructor
    · rintro ⟨⟩
    · rintro ⟨_, ⟨⟩, _⟩
  | ok a =>
    constructor
    · rintro ⟨⟩
      exact ⟨a, rfl, rfl⟩
    · rintro ⟨_, ⟨⟩, rfl⟩
      rfl

/-- Where no leaf may be null, each is read for its value. -/
theorem readSetting_settings :
    readSetting .settings doc mapping path k v d = .ok next ↔
      ∃ x, k.value? doc v = some x ∧ next = d.set k (some x) := by
  cases k with
  | queueCapacity => exact readValue_settings fun _ => Document.readWord_eq_ok
  | submitProcessingFailures | keepFailedDuplicate | metricsEnabled =>
    exact readValue_settings fun _ => Document.readBool_eq_ok

/-- A leaf that cannot be null is read alike in both forms. -/
theorem readSetting_present (present : doc.readsAsNull mapping.1 mapping.2 v = .ok false) :
    readSetting .overrides doc mapping path k v d = readSetting .settings doc mapping path k v d := by
  cases k <;> simp [readSetting, readValue, present, bind, Except.bind, pure, Except.pure]

theorem readSetting_refused {e : ReadError} (refused : doc.readsAsNull mapping.1 mapping.2 v = .error e) :
    readSetting .overrides doc mapping path k v d = .error e := by
  cases k <;> simp [readSetting, readValue, refused, bind, Except.bind]

end Draft

/-- All nodes that a document has for a field. One that is read has one of them at most. -/
def Setting.leaves (k : Setting) (doc : Yaml.Document) : List Node :=
  (doc.root.toList.flatMap fun root => doc.valuesAt k.home.key (doc.entriesOf root)).flatMap
    fun section_ => doc.valuesAt k.key (doc.entriesOf section_)

theorem Setting.mem_leaves {k : Setting} {doc : Yaml.Document} {root section_ v : Node}
    (found : doc.root = some root) (inside : section_ ∈ doc.valuesAt k.home.key (doc.entriesOf root))
    (leaf : v ∈ doc.valuesAt k.key (doc.entriesOf section_)) : v ∈ k.leaves doc := by
  simp only [leaves, found, Option.toList_some, List.flatMap_singleton, List.mem_flatMap]
  exact ⟨section_, inside, leaf⟩

namespace Draft

variable {doc : Yaml.Document} {d : Draft} {form other : Form}

/-- A leaf that the one form reads, the other reads alike. -/
def PassesOn (form other : Form) (doc : Yaml.Document) : Prop :=
  ∀ k : Setting, ∀ v ∈ k.leaves doc, ∀ mapping path d next,
    readSetting form doc mapping path k v d = .ok next →
      readSetting other doc mapping path k v d = .ok next

theorem ofDocument_transfer (passes : PassesOn form other doc) (read : ofDocument form doc = .ok d) :
    ofDocument other doc = .ok d := by
  obtain ⟨whole, alone, rootless | ⟨root, found, mapping⟩⟩ := Document.read_eq_ok.mp read
  · exact Document.read_eq_ok.mpr ⟨whole, alone, .inl rootless⟩
  · refine Document.read_eq_ok.mpr ⟨whole, alone, .inr ⟨root, found, ?_⟩⟩
    refine Document.readMapping_transfer mapping rfl rfl ?_
    intro name s section_ known inside place path draft next sectionRead
    obtain ⟨_, rfl⟩ := (Document.lookup_named Section.key_injective).mp known
    refine Document.readMapping_transfer sectionRead rfl rfl ?_
    intro leafName k v knownLeaf leaf
    obtain ⟨member, rfl⟩ := (Document.lookup_named Setting.key_injective).mp knownLeaf
    obtain rfl := Section.home_of_mem member
    exact passes k v (Setting.mem_leaves found inside leaf)

/-- Every leaf of a document that is read was read. -/
theorem readSetting_of_mem (read : ofDocument form doc = .ok d) {k : Setting} {v : Node}
    (member : v ∈ k.leaves doc) :
    ∃ mapping path draft next, readSetting form doc mapping path k v draft = .ok next := by
  simp only [Setting.leaves, List.mem_flatMap, Option.mem_toList] at member
  obtain ⟨section_, ⟨root, found, inside⟩, leaf⟩ := member
  obtain ⟨_, _, rootless | ⟨top, same, mapping⟩⟩ := Document.read_eq_ok.mp read
  · cases rootless.1.symm.trans found
  · cases same.symm.trans found
    obtain ⟨_, sections⟩ := Document.readMapping_reads mapping
    obtain ⟨_, _, _, sectionRead⟩ := sections.read_of_mem
      ((Document.lookup_named Section.key_injective).mpr ⟨k.home.mem_all, rfl⟩) inside
    obtain ⟨mark, settings⟩ := Document.readMapping_reads sectionRead
    obtain ⟨part, draft, next, given⟩ := settings.read_of_mem
      ((Document.lookup_named Setting.key_injective).mpr ⟨k.mem_home, rfl⟩) leaf
    exact ⟨_, part, draft, next, given⟩

end Draft

/-- A leaf of the document is a plain scalar with the tag of null. -/
def HasNullTag (doc : Yaml.Document) : Prop :=
  ∃ k : Setting, ∃ v ∈ k.leaves doc, doc.isNullTagged v = true

/-- A leaf of the document is null. -/
def HasNull (doc : Yaml.Document) : Prop :=
  ∃ k : Setting, ∃ v ∈ k.leaves doc, doc.IsNull v

namespace Draft

variable {doc : Yaml.Document} {d : Draft}

theorem overrides_of_settings (untagged : ¬ HasNullTag doc) (read : ofDocument .settings doc = .ok d) :
    ofDocument .overrides doc = .ok d := by
  refine ofDocument_transfer (fun k v member mapping path draft next given => ?_) read
  obtain ⟨x, value, rfl⟩ := readSetting_settings.mp given
  have plain : doc.isNullTagged v = false := by
    rw [Bool.eq_false_iff]
    exact fun tagged => untagged ⟨k, v, member, tagged⟩
  rw [readSetting_present (Document.readsAsNull_eq_false plain (Setting.not_isNull value))]
  exact given

theorem overrides_refused (tagged : HasNullTag doc) (read : ofDocument .settings doc = .ok d) :
    ∃ e, ofDocument .overrides doc = .error e := by
  obtain ⟨k, v, member, tag⟩ := tagged
  obtain ⟨_, _, _, _, given⟩ := readSetting_of_mem read member
  obtain ⟨x, value, -⟩ := readSetting_settings.mp given
  cases other : ofDocument .overrides doc with
  | error e => exact ⟨e, rfl⟩
  | ok o =>
    obtain ⟨mapping, _, _, _, again⟩ := readSetting_of_mem other member
    obtain ⟨e, refused⟩ := Document.readsAsNull_refuses mapping.1 mapping.2 tag (Setting.not_isNull value)
    cases (readSetting_refused refused).symm.trans again

theorem settings_of_overrides (full : ¬ HasNull doc) (read : ofDocument .overrides doc = .ok d) :
    ofDocument .settings doc = .ok d := by
  refine ofDocument_transfer (fun k v member mapping path draft next given => ?_) read
  obtain ⟨x, null | ⟨y, _, value, held⟩, rfl⟩ := readSetting_set given
  · exact absurd ⟨k, v, member, null.1⟩ full
  · cases held
    exact readSetting_settings.mpr ⟨y, value, rfl⟩

end Draft

variable {fs : FileSystem} {env : Environment} {p : Path} {raw text : String}

/-- The only file of a configuration is read as overrides of the defaults. -/
theorem ofSources_file (yaml : p.isYaml = true) (readable : fs.text p = .ok raw)
    (interpolated : interpolate env raw = .ok text) :
    Settings.ofSources fs env [⟨.file, p⟩] =
      match Overrides.ofText text with
      | .ok o => (o.apply {}).check
      | .error e => .error (.multiple [SourceDocument.entry p e.message]) := by
  have read : SourceDocument.ofFile fs env p = .ok ⟨p, text⟩ := by
    simp [SourceDocument.ofFile, yaml, readable, interpolated]
  have loaded : Source.load fs env [⟨.file, p⟩] = .ok [⟨p, text⟩] := by
    have results : Source.results fs env ⟨.file, p⟩ = [⟨p, text⟩].map .ok := by
      simp [Source.results, Source.files, read, Except.mapError]
    rw [Source.load, List.flatMap_singleton, results, collect_ok]
  cases parsed : Overrides.ofText text with
  | ok o =>
    have results : [(⟨p, text⟩ : SourceDocument)].map (SourceDocument.parse Overrides.ofText) =
        [o].map .ok := by
      simp [SourceDocument.parse, parsed, Except.mapError]
    exact Settings.ofSources_eq_check loaded results
  | error e =>
    simp [Settings.ofSources, loaded, SourceDocument.parse, parsed, Except.mapError, collect, bind,
      Except.bind]

theorem Settings.ofText_of_draft {d : Draft}
    (read : Draft.ofDocument .settings (documentOf text) = .ok d) :
    ofText text = .ok (d.overrides.apply {}) := by
  rw [ofText, read]
  rfl

theorem Overrides.ofText_of_draft {d : Draft}
    (read : Draft.ofDocument .overrides (documentOf text) = .ok d) : ofText text = .ok d.overrides := by
  rw [ofText, read]
  rfl

/-- The settings of a text are those of its draft, checked. -/
theorem Settings.ofYaml_of_draft {d : Draft}
    (read : Draft.ofDocument .settings (documentOf text) = .ok d) :
    ofYaml text = (d.overrides.apply {}).check := by
  unfold ofYaml
  rw [ofText_of_draft read]

/-- A text is no YAML, or not of this form, or it has a draft. -/
theorem Settings.ofYaml_cases (text : String) :
    (∃ reason, ofYaml text = .error (.yaml reason)) ∨
      ∃ d, Draft.ofDocument .settings (documentOf text) = .ok d := by
  cases read : Draft.ofDocument .settings (documentOf text) with
  | error e =>
    have refused : ofText text = .error e := by
      rw [ofText, read]
      rfl
    refine .inl ⟨e.message, ?_⟩
    unfold ofYaml
    rw [refused]
  | ok d => exact .inr ⟨d, rfl⟩

/-- A text that is refused for nothing but its size has the same outcome as the only file of a
configuration, unless a leaf has the tag of null and a value: the file is refused for it. And the
settings of a file without null leaves are those of its text. -/
theorem file_agrees_with_text (yaml : p.isYaml = true) (readable : fs.text p = .ok raw)
    (interpolated : interpolate env raw = .ok text) :
    (∀ s, Settings.ofYaml text = .ok s → ¬ HasNullTag (documentOf text) →
      Settings.ofSources fs env [⟨.file, p⟩] = .ok s) ∧
    (Settings.ofYaml text = .error .zeroCapacity → ¬ HasNullTag (documentOf text) →
      Settings.ofSources fs env [⟨.file, p⟩] = .error .zeroCapacity) ∧
    ((∃ s, Settings.ofYaml text = .ok s) ∨ Settings.ofYaml text = .error .zeroCapacity →
      HasNullTag (documentOf text) →
      ∃ reason, Settings.ofSources fs env [⟨.file, p⟩] =
        .error (.multiple [SourceDocument.entry p reason])) ∧
    (∀ s, Settings.ofSources fs env [⟨.file, p⟩] = .ok s → ¬ HasNull (documentOf text) →
      Settings.ofYaml text = .ok s) := by
  have file := ofSources_file yaml readable interpolated
  have same (untagged : ¬ HasNullTag (documentOf text)) :
      (∃ reason, Settings.ofYaml text = .error (.yaml reason)) ∨
        Settings.ofSources fs env [⟨.file, p⟩] = Settings.ofYaml text := by
    refine (Settings.ofYaml_cases text).imp_right ?_
    rintro ⟨d, read⟩
    rw [file, Overrides.ofText_of_draft (Draft.overrides_of_settings untagged read), Settings.ofYaml_of_draft read]
  refine ⟨fun s given untagged => ?_, fun given untagged => ?_, fun given tagged => ?_,
    fun s given full => ?_⟩
  · rcases same untagged with ⟨reason, refused⟩ | same
    · cases given.symm.trans refused
    · exact same.trans given
  · rcases same untagged with ⟨reason, refused⟩ | same
    · cases given.symm.trans refused
    · exact same.trans given
  · rcases Settings.ofYaml_cases text with ⟨reason, refused⟩ | ⟨d, read⟩
    · rcases given with ⟨s, given⟩ | given <;> cases given.symm.trans refused
    · obtain ⟨e, refused⟩ := Draft.overrides_refused tagged read
      have unread : Overrides.ofText text = .error e := by
        rw [Overrides.ofText, refused]
        rfl
      exact ⟨e.message, by rw [file, unread]⟩
  · rw [file] at given
    cases read : Draft.ofDocument .overrides (documentOf text) with
    | error e =>
      rw [Overrides.ofText, read] at given
      cases given
    | ok d =>
      rw [Overrides.ofText_of_draft read] at given
      rw [Settings.ofYaml_of_draft (Draft.settings_of_overrides full read)]
      exact given

/-- A file with two leaves, one of them out of a variable, and an empty section. -/
theorem file_of_a_variable :
    let p : Path := Text.Utf8.encode "a.yml"
    let raw := "failure_handling:\n  submit_processing_failures: $ON\n  queue_capacity: 16\nmetrics:\n"
    let text := "failure_handling:\n  submit_processing_failures: True\n  queue_capacity: 16\nmetrics:\n"
    let fs : FileSystem :=
      { content := fun q => if q = p then .ok (Text.Utf8.encode raw) else .error .notFound
        listing := fun _ => .error .notFound }
    let env : Environment := ⟨fun name => if name = "ON" then some (Text.Utf8.encode "True") else none⟩
    let s : Settings := { submitProcessingFailures := true, queueCapacity := 16 }
    p.isYaml = true ∧ fs.text p = .ok raw ∧ interpolate env raw = .ok text ∧
      ¬ HasNullTag (documentOf text) ∧ ¬ HasNull (documentOf text) ∧
      Settings.ofSources fs env [⟨.file, p⟩] = .ok s ∧ Settings.ofYaml text = .ok s := by
  intro p raw text fs env s
  have yaml : p.isYaml = true := by decide +kernel
  have readable : fs.text p = .ok raw := eq_ok_of_toOption (by decide +kernel)
  have interpolated : interpolate env raw = .ok text := by decide +kernel
  have given : Settings.ofYaml text = .ok s := by decide +kernel
  have checked : (Section.all.flatMap Section.settings).all (fun k => (k.leaves (documentOf text)).all
      fun v => !(documentOf text).isNullTagged v && (k.value? (documentOf text) v).isSome) = true := by
    decide +kernel
  have leaf (k : Setting) (v : Node) (member : v ∈ k.leaves (documentOf text)) :
      (documentOf text).isNullTagged v = false ∧ (k.value? (documentOf text) v).isSome = true := by
    have listed : k ∈ Section.all.flatMap Section.settings :=
      List.mem_flatMap.mpr ⟨k.home, k.home.mem_all, k.mem_home⟩
    simpa using List.all_eq_true.mp (List.all_eq_true.mp checked k listed) v member
  have noTag : ¬ HasNullTag (documentOf text) := by
    rintro ⟨k, v, member, tagged⟩
    cases (leaf k v member).1.symm.trans tagged
  have noNull : ¬ HasNull (documentOf text) := by
    rintro ⟨k, v, member, null⟩
    obtain ⟨x, value⟩ := Option.isSome_iff_exists.mp (leaf k v member).2
    exact Setting.not_isNull value null
  obtain ⟨loads, _, _, returns⟩ := file_agrees_with_text yaml readable interpolated
  have loaded := loads s given noTag
  exact ⟨yaml, readable, interpolated, noTag, noNull, loaded, returns s loaded noNull⟩

/-- A size with the tag of null is read from a text, be it zero or not. The file of the same text is
refused. -/
theorem size_with_the_tag_of_null :
    let fs : FileSystem :=
      { content := fun q =>
          if q = Text.Utf8.encode "five.yaml" then
            .ok (Text.Utf8.encode "failure_handling:\n  queue_capacity: !!null 5\n")
          else if q = Text.Utf8.encode "none.yaml" then
            .ok (Text.Utf8.encode "failure_handling:\n  queue_capacity: !!null 0\n")
          else .error .notFound
        listing := fun _ => .error .notFound }
    let env : Environment := ⟨fun _ => none⟩
    interpolate env "failure_handling:\n  queue_capacity: !!null 5\n" =
        .ok "failure_handling:\n  queue_capacity: !!null 5\n" ∧
      Settings.ofYaml "failure_handling:\n  queue_capacity: !!null 5\n" = .ok { queueCapacity := 5 } ∧
      Settings.ofSources fs env [⟨.file, Text.Utf8.encode "five.yaml"⟩] = .error (.multiple
        ["five.yaml: failure_handling: invalid value: string \"5\", expected null at line 2 column 3"]) ∧
      interpolate env "failure_handling:\n  queue_capacity: !!null 0\n" =
        .ok "failure_handling:\n  queue_capacity: !!null 0\n" ∧
      Settings.ofYaml "failure_handling:\n  queue_capacity: !!null 0\n" = .error .zeroCapacity ∧
      Settings.ofSources fs env [⟨.file, Text.Utf8.encode "none.yaml"⟩] = .error (.multiple
        ["none.yaml: failure_handling: invalid value: string \"0\", expected null at line 2 column 3"]) := by
  decide +kernel

end FailureIntake.Config
