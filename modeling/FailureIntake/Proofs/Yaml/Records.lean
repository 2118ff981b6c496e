import FailureIntake.Proofs.Yaml.Transfer

/-! Mappings as records. A table of fields reads a mapping exactly if its keys are distinct names of
fields and each value fits its field. -/
namespace FailureIntake.Yaml

namespace Node

mutual

/-- There are no tags, anchors or aliases in the node. -/
def isBare : Node → Bool
  | .scalar info _ _ => info.anchor.isNone && info.tag.isNone
  | .sequence info items => info.anchor.isNone && info.tag.isNone && areBare items
  | .mapping info entries => info.anchor.isNone && info.tag.isNone && areBarePairs entries
  | .alias _ _ => false
  | .missing => true

def areBare : List Node → Bool
  | [] => true
  | v :: rest => v.isBare && areBare rest

def areBarePairs : List (Node × Node) → Bool
  | [] => true
  | (k, v) :: rest => k.isBare && v.isBare && areBarePairs rest

end

/-- The text of a scalar. -/
def text? : Node → Option String
  | .scalar _ _ text => some (String.ofList text)
  | _ => none

def BareEntries (entries : List (Node × Node)) : Prop :=
  ∀ e ∈ entries, e.1.isBare = true ∧ e.2.isBare = true

theorem bareEntries_of_areBarePairs {entries : List (Node × Node)} (bare : areBarePairs entries = true) :
    BareEntries entries := by
  induction entries with
  | nil => exact nofun
  | cons e rest ih =>
    obtain ⟨k, v⟩ := e
    simp only [areBarePairs, Bool.and_eq_true] at bare
    simpa [BareEntries, bare.1] using ih bare.2

theorem untagged_of_isBare {info : NodeInfo} {style : ScalarStyle} {text : List Char}
    (bare : (Node.scalar info style text).isBare = true) : info.tag = none := by
  simp only [isBare, Bool.and_eq_true, Option.isNone_iff_eq_none] at bare
  exact bare.2

/-- Without tags, only plain scalars have a text that may stand for a value. -/
theorem typedText?_eq_some {v : Node} {tag : String} {text : List Char} (bare : v.isBare = true) :
    v.typedText? tag = some text ↔ ∃ info, v = .scalar info .plain text := by
  cases v with
  | scalar info style own =>
    cases style <;> simp [typedText?, untagged_of_isBare bare]
  | _ => simp [typedText?]

/-- The keys are distinct names of the fields, and each value fits its field. -/
structure AreFields {κ : Type} (label : κ → String) (known : List κ) (fits : κ → Node → Prop)
    (entries : List (Node × Node)) : Prop where
  distinct : (entries.map fun e => e.1.text?).Nodup
  each : ∀ e ∈ entries, ∃ k ∈ known, e.1.text? = some (label k) ∧ fits k e.2

theorem AreFields.imp {κ : Type} {label : κ → String} {known : List κ} {fits others : κ → Node → Prop}
    {entries : List (Node × Node)} (are : AreFields label known fits entries)
    (weaker : ∀ k ∈ known, ∀ v, fits k v → others k v) : AreFields label known others entries := by
  refine ⟨are.distinct, fun e member => ?_⟩
  obtain ⟨k, among, text, fit⟩ := are.each e member
  exact ⟨k, among, text, weaker k among e.2 fit⟩

/-- A mapping of fields. An empty plain scalar counts as a mapping without entries. -/
inductive IsRecord {κ : Type} (label : κ → String) (known : List κ) (fits : κ → Node → Prop) :
    Node → Prop where
  | empty {info : NodeInfo} : IsRecord label known fits (.scalar info .plain [])
  | mapping {info : NodeInfo} {entries : List (Node × Node)} :
      AreFields label known fits entries → IsRecord label known fits (.mapping info entries)

end Node

namespace Document

variable {d : Document} {v : Node} {entries : List (Node × Node)} {name : String}

/-- There are no tags, anchors or aliases in the document. -/
def isBare (d : Document) : Bool :=
  d.root.all Node.isBare

theorem isBare_of_root (bare : d.isBare = true) (found : d.root = some v) : v.isBare = true := by
  simpa [isBare, found] using bare

theorem target_of_isBare (bare : v.isBare = true) : d.target v = v := by
  cases v <;> first | rfl | cases bare

theorem keyText?_of_isBare (bare : v.isBare = true) : d.keyText? v = v.text? := by
  rw [keyText?, target_of_isBare bare]
  cases v <;> rfl

theorem mem_valuesAt_of_valueAt? (found : d.valueAt? name entries = some v) :
    v ∈ d.valuesAt name entries := by
  obtain ⟨⟨k, _⟩, first, rfl⟩ := Option.map_eq_some_iff.mp found
  exact mem_valuesAt.mpr ⟨k, List.mem_of_find?_eq_some first, by simpa using List.find?_some first⟩

theorem bareEntries_entriesOf (bare : v.isBare = true) : Node.BareEntries (d.entriesOf v) := by
  rw [entriesOf, target_of_isBare bare]
  split
  · simp only [Node.isBare, Bool.and_eq_true] at bare
    exact Node.bareEntries_of_areBarePairs bare.2
  · exact nofun

theorem isBare_of_mem_valuesAt {w : Node} (bare : v.isBare = true)
    (member : w ∈ d.valuesAt name (d.entriesOf v)) : w.isBare = true := by
  obtain ⟨k, among, _⟩ := mem_valuesAt.mp member
  exact (bareEntries_entriesOf bare (k, w) among).2

theorem areFields_entriesOf {κ : Type} {label : κ → String} {known : List κ}
    {fits : κ → Node → Prop} (record : v.IsRecord label known fits) :
    Node.AreFields label known fits (d.entriesOf v) := by
  cases record with
  | empty => exact ⟨List.nodup_nil, nofun⟩
  | mapping are => exact are

/-- Where the keys are distinct, an entry is the only one with its name. -/
theorem valueAt?_eq_some (bare : Node.BareEntries entries)
    (distinct : (entries.map fun e => e.1.text?).Nodup) :
    d.valueAt? name entries = some v ↔ ∃ k, (k, v) ∈ entries ∧ k.text? = some name := by
  induction entries with
  | nil => simp [valueAt?]
  | cons e rest ih =>
    obtain ⟨k, w⟩ := e
    obtain ⟨notAgain, distinct⟩ := List.nodup_cons.mp distinct
    have named := keyText?_of_isBare (d := d) (bare (k, w) List.mem_cons_self).1
    have later := ih (fun e member => bare e (List.mem_cons_of_mem _ member)) distinct
    by_cases own : k.text? = some name
    · rw [valueAt?_cons_own (named.trans own), Option.some.injEq]
      constructor
      · rintro rfl
        exact ⟨k, List.mem_cons_self, own⟩
      · rintro ⟨l, member, text⟩
        rcases List.mem_cons.mp member with same | member
        · cases same
          rfl
        · exact absurd (List.mem_map.mpr ⟨(l, v), member, text.trans own.symm⟩) notAgain
    · have skipped : d.valueAt? name ((k, w) :: rest) = d.valueAt? name rest := by
        simp [valueAt?, named, own]
      rw [skipped, later]
      constructor
      · rintro ⟨l, member, text⟩
        exact ⟨l, List.mem_cons_of_mem _ member, text⟩
      · rintro ⟨l, member, text⟩
        rcases List.mem_cons.mp member with same | member
        · cases same
          exact absurd text own
        · exact ⟨l, member, text⟩

section Decides

variable {κ δ : Type} {fields : Fields κ δ} {label : κ → String} {known : List κ}
  {fits : κ → Node → Prop} {sound : δ → Prop} {path : List String} {mark : Mark}
  {draft result : δ}

/-- A table whose fields are called by distinct names. Each reads what fits it and nothing else, and
has been read afterwards, as have those that had been before. -/
structure Fields.Decides (fields : Fields κ δ) (label : κ → String) (known : List κ)
    (fits : κ → Node → Prop) (sound : δ → Prop) : Prop where
  names : fields.names = known.map fun k => (label k, k)
  labels : ∀ a b, label a = label b → a = b
  reads : ∀ {m p key v draft}, key ∈ known → v.isBare = true → sound draft →
    fields.has draft key = false → ((∃ next, fields.read m p key v draft = .ok next) ↔ fits key v)
  keeps : ∀ {m p key v draft next}, key ∈ known → sound draft →
    fields.read m p key v draft = .ok next →
    sound next ∧ ∀ other, fields.has next other = true ↔ other = key ∨ fields.has draft other = true

namespace Fields.Decides

theorem lookup_iff (decides : fields.Decides label known fits sound) {key : κ} :
    fields.names.lookup name = some key ↔ key ∈ known ∧ name = label key := by
  rw [decides.names]
  exact lookup_named decides.labels

theorem unread (decides : fields.Decides label known fits sound) {m : List String × Mark}
    {p : List String} {key other : κ} {next : δ} (among : key ∈ known) (valid : sound draft)
    (given : fields.read m p key v draft = .ok next) :
    fields.has next other = false ↔ other ≠ key ∧ fields.has draft other = false := by
  simp [← Bool.not_eq_true, (decides.keeps among valid given).2 other]

end Fields.Decides

theorem Reads.stays_sound (decides : fields.Decides label known fits sound)
    (reads : d.Reads fields path mark entries draft result) (valid : sound draft) : sound result := by
  induction reads with
  | nil => exact valid
  | cons _ found _ given _ ih =>
    exact ih (decides.keeps (decides.lookup_iff.mp found).1 valid given).1

/-- The entries that are read are fields that had not been. -/
theorem Reads.areFields (decides : fields.Decides label known fits sound)
    (reads : d.Reads fields path mark entries draft result)
    (bare : Node.BareEntries entries) (valid : sound draft) :
    Node.AreFields label known (fun k v => fits k v ∧ fields.has draft k = false) entries := by
  induction reads with
  | nil => exact ⟨List.nodup_nil, nofun⟩
  | @cons k v rest name key draft next result named found fresh given _ ih =>
    obtain ⟨among, rfl⟩ := decides.lookup_iff.mp found
    obtain ⟨bareKey, bareValue⟩ := bare (k, v) List.mem_cons_self
    rw [keyText?_of_isBare bareKey] at named
    have later := ih (fun e member => bare e (List.mem_cons_of_mem _ member))
      (decides.keeps among valid given).1
    have unread {other : κ} (fresh : fields.has next other = false) :=
      (decides.unread among valid given).mp fresh
    constructor
    · -- A name that comes again would be of a field that has not been read, and this one has.
      rw [List.map_cons, List.nodup_cons]
      refine ⟨fun again => ?_, later.distinct⟩
      obtain ⟨e, member, same⟩ := List.mem_map.mp again
      obtain ⟨other, _, text, _, stillFresh⟩ := later.each e member
      apply (unread stillFresh).1
      apply decides.labels
      exact Option.some.inj (text.symm.trans (same.trans named))
    · intro e member
      rcases List.mem_cons.mp member with rfl | member
      · exact ⟨key, among, named, (decides.reads among bareValue valid fresh).mp ⟨next, given⟩, fresh⟩
      · obtain ⟨other, otherAmong, text, fit, stillFresh⟩ := later.each e member
        exact ⟨other, otherAmong, text, fit, (unread stillFresh).2⟩

/-- Fields that have not been read can be read one after the other. -/
theorem exists_reads (decides : fields.Decides label known fits sound)
    (bare : Node.BareEntries entries) (valid : sound draft)
    (are : Node.AreFields label known (fun k v => fits k v ∧ fields.has draft k = false) entries) :
    ∃ result, d.Reads fields path mark entries draft result := by
  induction entries generalizing draft with
  | nil => exact ⟨draft, .nil⟩
  | cons e rest ih =>
    obtain ⟨k, v⟩ := e
    obtain ⟨key, among, text, fit, fresh⟩ := are.each (k, v) List.mem_cons_self
    obtain ⟨bareKey, bareValue⟩ := bare (k, v) List.mem_cons_self
    obtain ⟨notAgain, distinct⟩ := List.nodup_cons.mp are.distinct
    obtain ⟨next, given⟩ : ∃ next, fields.read (path, mark) (path ++ [pathPart k]) key v draft = .ok next :=
      (decides.reads among bareValue valid fresh).mpr fit
    -- The rest has other names, so reading this one leaves its fields unread.
    have laterFields :
        Node.AreFields label known (fun k v => fits k v ∧ fields.has next k = false) rest := by
      refine ⟨distinct, fun e member => ?_⟩
      obtain ⟨other, otherAmong, otherText, fit, fresh⟩ := are.each e (List.mem_cons_of_mem _ member)
      refine ⟨other, otherAmong, otherText, fit, (decides.unread among valid given).mpr ⟨?_, fresh⟩⟩
      rintro rfl
      exact notAgain (List.mem_map.mpr ⟨e, member, otherText.trans text.symm⟩)
    obtain ⟨result, later⟩ := ih (fun e member => bare e (List.mem_cons_of_mem _ member))
      (decides.keeps among valid given).1 laterFields
    exact ⟨result, .cons ((keyText?_of_isBare bareKey).trans text) (decides.lookup_iff.mpr ⟨among, rfl⟩)
      fresh given later⟩

/-- A mapping is read exactly if it is one of fields. -/
theorem readMapping_iff (decides : fields.Decides label known fits sound) (bare : v.isBare = true)
    (valid : sound draft) (unread : ∀ k ∈ known, fields.has draft k = false) {expected : String} :
    (∃ result, d.readMapping fields path expected v draft = .ok result) ↔
      v.IsRecord label known fits := by
  rw [readMapping, target_of_isBare bare]
  constructor
  · rintro ⟨result, read⟩
    split at read
    · refine .mapping (((readEntries_eq_ok.mp read).areFields decides ?_ valid).imp fun _ _ _ => And.left)
      exact bareEntries_entriesOf (d := d) bare
    · exact .empty
    · cases read
  · rintro (_ | ⟨are⟩)
    · exact ⟨draft, rfl⟩
    · obtain ⟨result, reads⟩ := exists_reads decides (bareEntries_entriesOf (d := d) bare) valid
        (are.imp fun k among _ fit => ⟨fit, unread k among⟩)
      exact ⟨result, readEntries_eq_ok.mpr reads⟩

end Decides

end Document

end FailureIntake.Yaml
