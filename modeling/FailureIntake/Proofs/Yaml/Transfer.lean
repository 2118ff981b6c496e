import FailureIntake.Proofs.Yaml.Fields

/-! Reading a mapping in two ways. Two tables with fields of the same names read the same mapping to
the same end, as long as what one of them reads from an entry, the other reads from it, too. -/
namespace FailureIntake.Yaml.Document

variable {κ δ : Type} {d : Document} {fields others : Fields κ δ} {path : List String} {mark : Mark}
  {entries : List (Node × Node)} {draft result : δ} {v : Node}

/-- The values of all entries with the name. -/
def valuesAt (d : Document) (name : String) (entries : List (Node × Node)) : List Node :=
  (entries.filter fun e => d.keyText? e.1 == some name).map Prod.snd

theorem mem_valuesAt {name : String} :
    v ∈ d.valuesAt name entries ↔ ∃ k, (k, v) ∈ entries ∧ d.keyText? k = some name := by
  simp [valuesAt]

/-- Every entry of a mapping that is read was read as the value of its field. -/
theorem Reads.read_of_mem (reads : d.Reads fields path mark entries draft result) {name : String}
    {key : κ} (known : fields.names.lookup name = some key) (member : v ∈ d.valuesAt name entries) :
    ∃ part draft next, fields.read (path, mark) part key v draft = .ok next := by
  obtain ⟨k, among, named⟩ := mem_valuesAt.mp member
  induction reads with
  | nil => cases among
  | @cons first w rest own field draft next result ownName found _ given _ ih =>
    rcases List.mem_cons.mp among with same | later
    · cases same
      cases ownName.symm.trans named
      cases found.symm.trans known
      exact ⟨_, _, _, given⟩
    · exact ih (mem_valuesAt.mpr ⟨k, later, named⟩) later

/-- What one table reads from an entry, the other reads from it. -/
def Fields.PassesOn (d : Document) (fields others : Fields κ δ) (entries : List (Node × Node)) : Prop :=
  ∀ name key v, fields.names.lookup name = some key → v ∈ d.valuesAt name entries →
    ∀ mapping part draft next, fields.read mapping part key v draft = .ok next →
      others.read mapping part key v draft = .ok next

theorem Reads.transfer (reads : d.Reads fields path mark entries draft result)
    (names : others.names = fields.names) (has : others.has = fields.has)
    (passes : fields.PassesOn d others entries) : d.Reads others path mark entries draft result := by
  induction reads with
  | nil => exact .nil
  | @cons k v rest name key draft next result named known fresh given _ ih =>
    have first : v ∈ d.valuesAt name ((k, v) :: rest) :=
      mem_valuesAt.mpr ⟨k, List.mem_cons_self, named⟩
    refine .cons named (names ▸ known) (has ▸ fresh) (passes name key v known first _ _ _ _ given) ?_
    apply ih
    intro other field w found member
    obtain ⟨l, among, text⟩ := mem_valuesAt.mp member
    exact passes other field w found (mem_valuesAt.mpr ⟨l, List.mem_cons_of_mem _ among, text⟩)

/-- What is expected is named only where something else stands. -/
theorem readMapping_transfer {expected other : String}
    (read : d.readMapping fields path expected v draft = .ok result)
    (names : others.names = fields.names) (has : others.has = fields.has)
    (passes : fields.PassesOn d others (d.entriesOf v)) :
    d.readMapping others path other v draft = .ok result := by
  unfold readMapping at read ⊢
  unfold entriesOf at passes
  split at read
  · next target =>
    rw [target] at passes
    exact readEntries_eq_ok.mpr ((readEntries_eq_ok.mp read).transfer names has passes)
  · exact read
  · cases read

end FailureIntake.Yaml.Document
