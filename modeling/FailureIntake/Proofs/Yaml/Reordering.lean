import FailureIntake.Proofs.Pairing
import FailureIntake.Proofs.Yaml.Outline
import FailureIntake.Proofs.Yaml.Records
import Mathlib.Data.List.Perm.Basic

/-! Documents whose entries stand in another order. What makes a mapping a record says nothing of the
order, and among distinct keys a name has its value wherever it stands. -/
namespace FailureIntake.Yaml

namespace Node

/-- Scalars of one style and one text. -/
inductive SameScalar : Node → Node → Prop where
  | intro {info other : NodeInfo} {style : ScalarStyle} {text : List Char} :
      SameScalar (.scalar info style text) (.scalar other style text)

/-- The same entries in another order. -/
def AreReordered (same : Node → Node → Prop) (entries others : List (Node × Node)) : Prop :=
  ∃ moved, entries.Perm moved ∧
    List.Forall₂ (fun e f => SameScalar e.1 f.1 ∧ same e.2 f.2) moved others

/-- The same scalar, or a mapping with the same entries in another order. -/
inductive Reordered (same : Node → Node → Prop) : Node → Node → Prop where
  | scalar {v w : Node} : SameScalar v w → Reordered same v w
  | mapping {info other : NodeInfo} {entries others : List (Node × Node)} :
      AreReordered same entries others → Reordered same (.mapping info entries) (.mapping other others)

variable {same : Node → Node → Prop} {entries others : List (Node × Node)} {v w : Node}

theorem SameScalar.text? (equal : SameScalar v w) : v.text? = w.text? := by
  cases equal
  rfl

namespace AreReordered

theorem texts (reordered : AreReordered same entries others) :
    (entries.map fun e => e.1.text?).Perm (others.map fun e => e.1.text?) := by
  obtain ⟨moved, perm, pairs⟩ := reordered
  have alike : moved.map (fun e => e.1.text?) = others.map fun e => e.1.text? := by
    rw [← List.forall₂_eq_eq_eq, List.forall₂_map_left_iff, List.forall₂_map_right_iff]
    exact pairs.imp fun _ _ pair => pair.1.text?
  rw [← alike]
  exact perm.map _

theorem exists_before (reordered : AreReordered same entries others) :
    ∀ f ∈ others, ∃ e ∈ entries, e.1.text? = f.1.text? ∧ same e.2 f.2 := by
  obtain ⟨moved, perm, pairs⟩ := reordered
  intro f member
  obtain ⟨e, among, key, value⟩ := exists_recorded pairs member
  exact ⟨e, perm.mem_iff.mpr among, key.text?, value⟩

theorem exists_after (reordered : AreReordered same entries others) :
    ∀ e ∈ entries, ∃ f ∈ others, e.1.text? = f.1.text? ∧ same e.2 f.2 := by
  obtain ⟨moved, perm, pairs⟩ := reordered
  intro e member
  obtain ⟨f, among, key, value⟩ := exists_recorded pairs.flip (perm.mem_iff.mp member)
  exact ⟨f, among, key.text?, value⟩

end AreReordered

theorem AreFields.reordered {κ : Type} {label : κ → String} {known : List κ} {fits : κ → Node → Prop}
    (are : AreFields label known fits entries) (reordered : AreReordered same entries others)
    (fit : ∀ k v w, same v w → fits k v → fits k w) : AreFields label known fits others := by
  refine ⟨reordered.texts.nodup_iff.mp are.distinct, fun f member => ?_⟩
  obtain ⟨e, among, text, equal⟩ := reordered.exists_before f member
  obtain ⟨k, known, named, given⟩ := are.each e among
  exact ⟨k, known, text.symm.trans named, fit k e.2 f.2 equal given⟩

theorem IsRecord.reordered {κ : Type} {label : κ → String} {known : List κ} {fits : κ → Node → Prop}
    (record : v.IsRecord label known fits) (reordered : Reordered same v w)
    (fit : ∀ k v w, same v w → fits k v → fits k w) : w.IsRecord label known fits := by
  cases record with
  | empty =>
    obtain ⟨⟨⟩⟩ := reordered
    exact .empty
  | mapping are =>
    obtain ⟨⟨⟩⟩ | moved := reordered
    exact .mapping (are.reordered moved fit)

end Node

namespace Document

variable {d other : Document} {same : Node → Node → Prop} {entries others : List (Node × Node)}
  {v w : Node} {name : String}

/-- The same document with the entries in another order, on two levels. -/
structure Reordered (d other : Document) : Prop where
  broken : d.broken = other.broken
  followed : d.followed = other.followed
  root : Option.Rel (Node.Reordered (Node.Reordered Node.SameScalar)) d.root other.root

theorem areReordered_entriesOf (reordered : Node.Reordered same v w) :
    Node.AreReordered same (d.entriesOf v) (other.entriesOf w) := by
  cases reordered with
  | scalar equal =>
    cases equal
    exact ⟨[], .nil, .nil⟩
  | mapping moved => exact moved

/-- Among distinct keys, a name has the same value wherever its entry stands. -/
theorem valueAt?_reordered (reordered : Node.AreReordered same entries others)
    (distinct : (entries.map fun e => e.1.text?).Nodup)
    (bare : Node.BareEntries entries) (othersBare : Node.BareEntries others) :
    Option.Rel same (d.valueAt? name entries) (other.valueAt? name others) := by
  have here (v : Node) : d.valueAt? name entries = some v ↔ ∃ k, (k, v) ∈ entries ∧ k.text? = some name :=
    valueAt?_eq_some bare distinct
  have there (w : Node) :
      other.valueAt? name others = some w ↔ ∃ k, (k, w) ∈ others ∧ k.text? = some name :=
    valueAt?_eq_some othersBare (reordered.texts.nodup_iff.mp distinct)
  cases found : d.valueAt? name entries with
  | some v =>
    obtain ⟨k, member, named⟩ := (here v).mp found
    obtain ⟨⟨l, w⟩, among, text, equal⟩ := reordered.exists_after (k, v) member
    rw [(there w).mpr ⟨l, among, text.symm.trans named⟩]
    exact .some equal
  | none =>
    cases again : other.valueAt? name others with
    | none => exact .none
    | some w =>
      obtain ⟨l, member, named⟩ := (there w).mp again
      obtain ⟨⟨k, v⟩, among, text, _⟩ := reordered.exists_before (l, w) member
      cases found.symm.trans ((here v).mpr ⟨k, among, text.trans named⟩)

end Document

/-- Entries that are written for the same items, in another order, are the same in another order. -/
theorem areReordered_of_perm {α : Type} {R : α → Node × Node → Prop} {T : α → α → Prop}
    {same : Node → Node → Prop} {items moved later : List α} {entries others : List (Node × Node)}
    (perm : items.Perm moved) (pairs : List.Forall₂ T moved later) (written : List.Forall₂ R items entries)
    (again : List.Forall₂ R later others)
    (alike : ∀ a b e f, T a b → R a e → R b f → Node.SameScalar e.1 f.1 ∧ same e.2 f.2) :
    Node.AreReordered same entries others := by
  obtain ⟨between, given, reorder⟩ := List.perm_comp_forall₂ perm.symm written
  refine ⟨between, reorder.symm, ?_⟩
  clear written perm reorder
  induction pairs generalizing between others with
  | nil =>
    cases given
    cases again
    exact .nil
  | cons pair _ ih =>
    cases given with
    | cons first given =>
      cases again with
      | cons second again => exact .cons (alike _ _ _ _ pair first second) (ih again _ given)

theorem IsWordNode.sameScalar {w : List Char} {v u : Node} (word : IsWordNode w v) (again : IsWordNode w u) :
    Node.SameScalar v u := by
  obtain ⟨_, rfl⟩ := word
  obtain ⟨_, rfl⟩ := again
  exact .intro

/-- The same sections with the same leaves in another order. -/
def Outline.Reordered (o p : Outline) : Prop :=
  ∃ moved, o.Perm moved ∧ List.Forall₂ (fun s t => s.1 = t.1 ∧ s.2.Perm t.2) moved p

theorem Outline.IsPlain.reordered {o p : Outline} (plain : o.IsPlain) (reordered : o.Reordered p) :
    p.IsPlain := by
  obtain ⟨moved, perm, pairs⟩ := reordered
  have before : ∀ t ∈ p, ∃ s ∈ o, s.1 = t.1 ∧ s.2.Perm t.2 := by
    intro t member
    obtain ⟨s, among, pair⟩ := exists_recorded pairs member
    exact ⟨s, perm.mem_iff.mpr among, pair⟩
  constructor
  · intro t member
    obtain ⟨s, among, name, leaves⟩ := before t member
    obtain ⟨bare, short, full⟩ := plain.sections s among
    rw [← name]
    refine ⟨bare, short, fun empty => full ?_⟩
    rw [empty] at leaves
    exact leaves.eq_nil
  · intro t member leaf inside
    obtain ⟨s, among, _, leaves⟩ := before t member
    exact plain.leaves s among leaf (leaves.mem_iff.mpr inside)

/-- Outlines with sections and leaves in another order give documents in another order. -/
theorem Document.reordered_of_outlines {o p : Outline} (plain : o.IsPlain) (nonempty : o ≠ [])
    (reordered : o.Reordered p) : (ofText (linesText o.lines)).Reordered (ofText (linesText p.lines)) := by
  have otherPlain := plain.reordered reordered
  obtain ⟨moved, perm, pairs⟩ := reordered
  have otherNonempty : p ≠ [] := by
    rintro rfl
    cases pairs
    exact nonempty (List.perm_nil.mp perm)
  obtain ⟨m, entries, sections, document⟩ := ofText_outline plain nonempty
  obtain ⟨n, others, otherSections, other⟩ := ofText_outline otherPlain otherNonempty
  rw [document, other]
  refine ⟨rfl, rfl, .some (.mapping (areReordered_of_perm perm pairs sections otherSections ?_))⟩
  rintro ⟨name, leaves⟩ ⟨_, otherLeaves⟩ e f ⟨rfl, permLeaves⟩ ⟨key, _, inner, value, given⟩
    ⟨otherKey, _, otherInner, otherValue, otherGiven⟩
  refine ⟨key.sameScalar otherKey, ?_⟩
  rw [value, otherValue]
  apply Node.Reordered.mapping
  apply areReordered_of_perm (T := Eq) permLeaves (List.forall₂_refl otherLeaves) given otherGiven
  rintro _ _ e f rfl ⟨leafKey, leaf⟩ ⟨otherLeafKey, otherLeaf⟩
  exact ⟨leafKey.sameScalar otherLeafKey, leaf.sameScalar otherLeaf⟩

end FailureIntake.Yaml
