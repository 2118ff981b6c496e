import FailureIntake.Config.Document
import FailureIntake.Proofs.Yaml.Fields
import Mathlib.Tactic.SplitIfs

/-! What a document writes. Each field has its place in the tree of a document: a leaf in one of the
two sections. A document that is read as overrides sets the fields whose leaf is there and is not
null, and leaves all others as they were. -/
namespace FailureIntake.Config

open Yaml

/-! The four fields of settings, overrides and drafts, by their names. -/

def Setting.Value : Setting → Type
  | .queueCapacity => UInt64
  | .submitProcessingFailures | .keepFailedDuplicate | .metricsEnabled => Bool

def Setting.home : Setting → Section
  | .metricsEnabled => .metrics
  | .submitProcessingFailures | .keepFailedDuplicate | .queueCapacity => .failureHandling

def Settings.get (s : Settings) : (k : Setting) → k.Value
  | .submitProcessingFailures => s.submitProcessingFailures
  | .keepFailedDuplicate => s.keepFailedDuplicate
  | .queueCapacity => s.queueCapacity
  | .metricsEnabled => s.metricsEnabled

def Overrides.get (o : Overrides) : (k : Setting) → Option k.Value
  | .submitProcessingFailures => o.submitProcessingFailures
  | .keepFailedDuplicate => o.keepFailedDuplicate
  | .queueCapacity => o.queueCapacity
  | .metricsEnabled => o.metricsEnabled

def Draft.get (d : Draft) : (k : Setting) → Option (Option k.Value)
  | .submitProcessingFailures => d.submitProcessingFailures
  | .keepFailedDuplicate => d.keepFailedDuplicate
  | .queueCapacity => d.queueCapacity
  | .metricsEnabled => d.metricsEnabled

/-- The draft with a field that has been read. -/
def Draft.set (d : Draft) : (k : Setting) → Option k.Value → Draft
  | .submitProcessingFailures, x => { d with submitProcessingFailures := some x }
  | .keepFailedDuplicate, x => { d with keepFailedDuplicate := some x }
  | .queueCapacity, x => { d with queueCapacity := some x }
  | .metricsEnabled, x => { d with metricsEnabled := some x }

namespace Draft

variable {d : Draft} {k other : Setting} {x : Option k.Value}

theorem get_set : (d.set k x).get k = some x := by cases k <;> rfl

theorem get_set_other (different : k ≠ other) : (d.set k x).get other = d.get other := by
  cases k <;> cases other <;> first | rfl | exact absurd rfl different

theorem has_eq : d.has k = (d.get k).isSome := by cases k <;> rfl

theorem sections_set : (d.set k x).sections = d.sections := by cases k <;> rfl

theorem get_overrides : d.overrides.get k = (d.get k).join := by cases k <;> rfl

end Draft

end FailureIntake.Config

namespace FailureIntake.Yaml.Document

variable {d : Document} {path : List String} {v : Node}

/-- The value of a leaf of truth values. -/
def bool? (d : Document) (v : Node) : Option Bool :=
  ((d.target v).typedText? "bool").bind ScalarValue.bool?

/-- The value of a leaf of counts. -/
def word? (d : Document) (v : Node) : Option UInt64 :=
  ((d.target v).typedText? "int").bind ScalarValue.word?

/-- The node is null: a plain scalar without a tag that is empty or a word for null, or such a word
with the tag of null. -/
def IsNull (d : Document) (v : Node) : Prop :=
  match d.target v with
  | .scalar info .plain text =>
    info.tag = none ∧ (text = [] ∨ ScalarValue.isNullWord text) ∨
      info.tag = some (coreTag "null") ∧ ScalarValue.isNullWord text
  | _ => False

theorem readBool_eq_ok {b : Bool} : d.readBool path v = .ok b ↔ d.bool? v = some b := by
  unfold readBool bool?
  dsimp only
  cases ((d.target v).typedText? "bool").bind ScalarValue.bool? <;> simp

theorem readWord_eq_ok {n : UInt64} : d.readWord path v = .ok n ↔ d.word? v = some n := by
  unfold readWord word?
  dsimp only
  cases ((d.target v).typedText? "int").bind ScalarValue.word? <;> simp

theorem readsAsNull_eq_ok {mark : Mark} {b : Bool} (read : d.readsAsNull path mark v = .ok b) :
    b = true ↔ d.IsNull v := by
  simp only [readsAsNull] at read
  simp only [IsNull]
  cases target : d.target v with
  | scalar info style text =>
    simp only [target] at read ⊢
    cases style with
    | plain =>
      dsimp only at read ⊢
      cases tagged : info.tag with
      | none =>
        simp only [tagged] at read
        cases read
        simp
      | some tag =>
        simp only [tagged] at read
        split_ifs at read with core word
        · cases read
          simp [core, word]
        · cases read
          simp [core]
    | _ =>
      cases read
      simp
  | _ =>
    simp only [target] at read
    cases read
    simp

end FailureIntake.Yaml.Document

namespace FailureIntake.Config

open Yaml

/-- The value of a leaf of this field. -/
def Setting.value? : (k : Setting) → Yaml.Document → Node → Option k.Value
  | .queueCapacity, doc, v => doc.word? v
  | .submitProcessingFailures, doc, v | .keepFailedDuplicate, doc, v | .metricsEnabled, doc, v =>
    doc.bool? v

/-- The place of a field in a document: under its own name in its section. -/
def Setting.leaf? (k : Setting) (doc : Yaml.Document) : Option Node := do
  let root ← doc.root
  let section_ ← doc.valueAt? k.home.key (doc.entriesOf root)
  doc.valueAt? k.key (doc.entriesOf section_)

/-- The document gives the field a value. -/
def Setting.SetBy (k : Setting) (doc : Yaml.Document) (x : k.Value) : Prop :=
  ∃ v, k.leaf? doc = some v ∧ ¬ doc.IsNull v ∧ k.value? doc v = some x

/-- The document has no section of the field, no leaf in it, or a null leaf. -/
def Setting.LeftBy (k : Setting) (doc : Yaml.Document) : Prop :=
  ∀ v, k.leaf? doc = some v → doc.IsNull v

namespace Draft

variable {doc : Yaml.Document} {k : Setting} {d next : Draft} {mapping : List String × Mark}
  {path : List String} {v : Node}

/-- What a leaf gives an override: null, or the value that is written. -/
def LeafGives (k : Setting) (doc : Yaml.Document) (v : Node) (held : Option (Option k.Value)) : Prop :=
  doc.IsNull v ∧ held = some none ∨
    ∃ x, ¬ doc.IsNull v ∧ k.value? doc v = some x ∧ held = some (some x)

theorem readValue_gives {α : Type} {read : Node → Except ReadError α} {value? : Node → Option α}
    (reads : ∀ a, read v = .ok a ↔ value? v = some a) {x : Option α}
    (given : readValue .overrides doc mapping read v = .ok x) :
    doc.IsNull v ∧ x = none ∨ ∃ a, ¬ doc.IsNull v ∧ value? v = some a ∧ x = some a := by
  simp only [readValue, bind, Except.bind] at given
  cases asked : doc.readsAsNull mapping.1 mapping.2 v with
  | error e =>
    rw [asked] at given
    cases given
  | ok null =>
    have isNull := Document.readsAsNull_eq_ok asked
    rw [asked] at given
    cases null with
    | true =>
      cases given
      exact .inl ⟨isNull.mp rfl, rfl⟩
    | false =>
      cases value : read v with
      | error e =>
        simp only [value] at given
        cases given
      | ok a =>
        simp only [value] at given
        cases given
        exact .inr ⟨a, fun null => by simpa using isNull.mpr null, (reads a).mp value, rfl⟩

/-- Reading a leaf fills its own field with what the leaf gives. -/
theorem readSetting_set (read : readSetting .overrides doc mapping path k v d = .ok next) :
    ∃ x, LeafGives k doc v (some x) ∧ next = d.set k x := by
  have filled {α : Type} {given : Except ReadError (Option α)} {fill : Option α → Draft}
      (done : (given >>= fun x => pure (fill x)) = .ok next) :
      ∃ x, given = .ok x ∧ next = fill x := by
    cases given with
    | error e => cases done
    | ok x =>
      cases done
      exact ⟨x, rfl, rfl⟩
  have gives {x : Option k.Value} (held : doc.IsNull v ∧ x = none ∨
      ∃ a, ¬ doc.IsNull v ∧ k.value? doc v = some a ∧ x = some a) : LeafGives k doc v (some x) := by
    rcases held with ⟨null, rfl⟩ | ⟨a, present, value, rfl⟩
    · exact .inl ⟨null, rfl⟩
    · exact .inr ⟨a, present, value, rfl⟩
  cases k with
  | queueCapacity =>
    obtain ⟨x, given, rfl⟩ := filled read
    exact ⟨x, gives (readValue_gives (fun n => Document.readWord_eq_ok) given), rfl⟩
  | submitProcessingFailures | keepFailedDuplicate | metricsEnabled =>
    obtain ⟨x, given, rfl⟩ := filled read
    exact ⟨x, gives (readValue_gives (fun b => Document.readBool_eq_ok) given), rfl⟩

end Draft

theorem Setting.key_injective (a b : Setting) (same : a.key = b.key) : a = b := by
  cases a <;> cases b <;> first | rfl | exact absurd same (by decide)

theorem Section.key_injective (a b : Section) (same : a.key = b.key) : a = b := by
  cases a <;> cases b <;> first | rfl | exact absurd same (by decide)

theorem Setting.mem_home (k : Setting) : k ∈ k.home.settings := by
  cases k <;> decide

theorem Section.mem_all (s : Section) : s ∈ Section.all := by
  cases s <;> decide

theorem Section.home_of_mem {s : Section} {k : Setting} (member : k ∈ s.settings) : k.home = s := by
  cases s <;> cases k <;> first | rfl | exact absurd member (by decide)

namespace Draft

variable {doc : Yaml.Document} {k : Setting} {d next : Draft} {mapping : List String × Mark}
  {path : List String} {mark : Mark} {v : Node} {entries : List (Node × Node)}

/-- A section fills each of its fields from the leaf under the field's name. -/
theorem settingFields_fills (k : Setting) (doc : Yaml.Document) :
    (settingFields .overrides doc k.home).Fills k.key k (Draft.get · k) (LeafGives k doc) where
  known := fun _ => (Document.lookup_named Setting.key_injective).trans (and_iff_right k.mem_home)
  own := by
    intro m p v draft next read _
    obtain ⟨x, gives, rfl⟩ := readSetting_set read
    refine ⟨?_, ?_⟩
    · rw [get_set]
      exact gives
    · change Draft.has _ k = true
      rw [has_eq, get_set]
      rfl
  other := by
    intro other m p v draft next different read
    obtain ⟨x, _, rfl⟩ := readSetting_set read
    refine ⟨get_set_other different, fun present => ?_⟩
    change Draft.has _ k = true
    change Draft.has _ k = true at present
    rw [has_eq] at present ⊢
    rw [get_set_other different]
    exact present

/-- The fields of other sections stay as they are. -/
theorem settingFields_frame {s : Section}
    (reads : doc.Reads (settingFields .overrides doc s) path mark entries d next) :
    next.sections = d.sections ∧ ∀ k : Setting, k.home ≠ s → next.get k = d.get k := by
  refine ⟨?_, fun k elsewhere => ?_⟩
  · apply reads.frame
    intro name key m p v draft next _ read
    obtain ⟨x, _, rfl⟩ := readSetting_set read
    exact sections_set
  · apply reads.frame
    intro name key m p v draft next known read
    obtain ⟨x, _, rfl⟩ := readSetting_set read
    apply get_set_other
    rintro rfl
    exact elsewhere (Section.home_of_mem ((Document.lookup_named Setting.key_injective).mp known).1)

/-- A document fills each of its fields from the leaf in its section. -/
theorem sectionFields_fills (k : Setting) (doc : Yaml.Document) :
    (sectionFields .overrides doc).Fills k.home.key k.home (Draft.get · k)
      fun v => doc.Under k.key (LeafGives k doc) (doc.entriesOf v) where
  known := fun _ => (Document.lookup_named Section.key_injective).trans (and_iff_right k.home.mem_all)
  own := by
    intro m p v draft next read empty
    obtain ⟨mark, reads⟩ := Document.readMapping_reads read
    have unread : Draft.get { draft with sections := k.home :: draft.sections } k = none := by
      cases k <;> exact empty
    have filled := reads.filled (settingFields_fills k doc) unread
    refine ⟨filled, ?_⟩
    · change next.sections.contains k.home = true
      rw [(settingFields_frame reads).1]
      simp
  other := by
    intro s m p v draft next different read
    obtain ⟨mark, reads⟩ := Document.readMapping_reads read
    obtain ⟨sections, kept⟩ := settingFields_frame reads
    refine ⟨?_, fun present => ?_⟩
    · rw [kept k (Ne.symm different)]
      cases k <;> rfl
    · change draft.sections.contains k.home = true at present
      change next.sections.contains k.home = true
      rw [sections]
      simpa using .inr (by simpa using present)

theorem ofDocument_get (read : ofDocument .overrides doc = .ok d) (k : Setting) :
    (k.leaf? doc = none ∧ d.get k = none) ∨ ∃ v, k.leaf? doc = some v ∧ LeafGives k doc v (d.get k) := by
  obtain ⟨_, _, rootless | ⟨root, found, mapping⟩⟩ := Document.read_eq_ok.mp read
  · obtain ⟨absent, rfl⟩ := rootless
    refine .inl ⟨?_, ?_⟩
    · simp [Setting.leaf?, absent]
    · cases k <;> rfl
  · obtain ⟨mark, reads⟩ := Document.readMapping_reads mapping
    have filled := reads.filled (sectionFields_fills k doc) (by cases k <;> rfl)
    unfold Document.Under at filled
    cases inside : doc.valueAt? k.home.key (doc.entriesOf root) with
    | none =>
      rw [inside] at filled
      exact .inl ⟨by simp [Setting.leaf?, found, inside], filled⟩
    | some section_ =>
      simp only [inside] at filled
      have leaf : k.leaf? doc = doc.valueAt? k.key (doc.entriesOf section_) := by
        simp [Setting.leaf?, found, inside]
      rw [leaf]
      cases at_leaf : doc.valueAt? k.key (doc.entriesOf section_) with
      | none =>
        rw [at_leaf] at filled
        exact .inl ⟨rfl, filled⟩
      | some v =>
        rw [at_leaf] at filled
        exact .inr ⟨v, rfl, filled⟩

end Draft

/-- The first document of a text. -/
abbrev documentOf (text : String) : Yaml.Document :=
  Yaml.Document.ofText text.toList

/-- A text that is read as overrides sets a field to what its leaf says, or leaves it. -/
theorem Overrides.ofText_get {text : String} {o : Overrides} (read : ofText text = .ok o)
    (k : Setting) :
    (o.get k = none ∧ k.LeftBy (documentOf text)) ∨
      ∃ x, o.get k = some x ∧ k.SetBy (documentOf text) x := by
  unfold ofText at read
  cases drafted : Draft.ofDocument .overrides (documentOf text) with
  | error e =>
    rw [drafted] at read
    cases read
  | ok d =>
    rw [drafted] at read
    cases read
    rw [Draft.get_overrides]
    rcases Draft.ofDocument_get drafted k with ⟨absent, none⟩ | ⟨v, leaf, gives⟩
    · refine .inl ⟨by rw [none]; rfl, fun v present => ?_⟩
      rw [absent] at present
      cases present
    · rcases gives with ⟨null, held⟩ | ⟨x, present, value, held⟩
      · refine .inl ⟨by rw [held]; rfl, fun w same => ?_⟩
        cases leaf.symm.trans same
        exact null
      · exact .inr ⟨x, by rw [held]; rfl, v, leaf, present, value⟩

end FailureIntake.Config
