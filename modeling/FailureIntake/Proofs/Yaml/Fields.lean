import FailureIntake.Yaml.Decode

/-! Reading the fields of a mapping. A mapping that is read has one entry for each field at most, and
only entries of known fields. So what a field holds afterwards is what the entry under its name
gives, whatever stands before and after that entry. -/
namespace FailureIntake.Yaml.Document

variable {κ δ : Type} {d : Document} {fields : Fields κ δ} {path : List String} {mark : Mark}
  {entries : List (Node × Node)} {draft next result : δ} {v : Node}

/-- The text of a key. -/
def keyText? (d : Document) (k : Node) : Option String :=
  match d.target k with
  | .scalar _ _ text => some (String.ofList text)
  | _ => none

/-- The value of the first entry with the name. -/
def valueAt? (d : Document) (name : String) (entries : List (Node × Node)) : Option Node :=
  (entries.find? fun e => d.keyText? e.1 == some name).map Prod.snd

/-- The entries of a mapping. Nothing else has any. -/
def entriesOf (d : Document) (v : Node) : List (Node × Node) :=
  match d.target v with
  | .mapping _ entries => entries
  | _ => []

theorem readKey_eq_ok {k : Node} {name : String} :
    (∃ keyMark, d.readKey path k = .ok (name, keyMark)) ↔ d.keyText? k = some name := by
  unfold readKey keyText?
  cases d.target k <;> simp

theorem valueAt?_cons_own {k : Node} {name : String} (named : d.keyText? k = some name) :
    d.valueAt? name ((k, v) :: entries) = some v := by
  simp [valueAt?, named]

theorem valueAt?_cons_other {k : Node} {name other : String} (named : d.keyText? k = some other)
    (different : other ≠ name) :
    d.valueAt? name ((k, v) :: entries) = d.valueAt? name entries := by
  simp [valueAt?, named, different]

/-- Reading entries in order, each the first of a known field. -/
inductive Reads (d : Document) (fields : Fields κ δ) (path : List String) (mark : Mark) :
    List (Node × Node) → δ → δ → Prop where
  | nil {draft : δ} : Reads d fields path mark [] draft draft
  | cons {k v : Node} {rest : List (Node × Node)} {name : String} {key : κ} {draft next result : δ} :
      d.keyText? k = some name → fields.names.lookup name = some key →
      fields.has draft key = false →
      fields.read (path, mark) (path ++ [pathPart k]) key v draft = .ok next →
      Reads d fields path mark rest next result →
      Reads d fields path mark ((k, v) :: rest) draft result

theorem readEntries_eq_ok :
    d.readEntries fields path mark entries draft = .ok result ↔
      d.Reads fields path mark entries draft result := by
  constructor
  · intro read
    induction entries generalizing draft with
    | nil =>
      cases read
      exact .nil
    | cons entry rest ih =>
      obtain ⟨k, v⟩ := entry
      unfold readEntries at read
      cases named : d.readKey path k with
      | error e =>
        rw [named] at read
        cases read
      | ok key =>
        obtain ⟨name, keyMark⟩ := key
        simp only [named, bind, Except.bind] at read
        split at read
        · cases read
        · next key known =>
          split at read
          · cases read
          · next fresh =>
            cases given : fields.read (path, mark) (path ++ [pathPart k]) key v draft with
            | error e =>
              rw [given] at read
              cases read
            | ok next =>
              rw [given] at read
              exact .cons (readKey_eq_ok.mp ⟨keyMark, named⟩) known (by simpa using fresh) given
                (ih read)
  · intro reads
    induction reads with
    | nil => rfl
    | @cons k v rest name key draft next result named known fresh given _ ih =>
      obtain ⟨keyMark, read⟩ : ∃ keyMark, d.readKey path k = .ok (name, keyMark) :=
        readKey_eq_ok.mpr named
      unfold readEntries
      simp only [read, known, fresh, given, bind, Except.bind]
      exact ih

theorem readMapping_reads {expected : String}
    (read : d.readMapping fields path expected v draft = .ok result) :
    ∃ mark, d.Reads fields path mark (d.entriesOf v) draft result := by
  unfold readMapping at read
  unfold entriesOf
  split at read
  · next target =>
    rw [target]
    exact ⟨_, readEntries_eq_ok.mp read⟩
  · next target =>
    cases read
    rw [target]
    exact ⟨⟨0, 0, 0⟩, .nil⟩
  · cases read

/-- A part of the draft is left alone by every field, and so by all entries. -/
theorem Reads.frame {β : Type} {get : δ → β} (reads : d.Reads fields path mark entries draft result)
    (leaves : ∀ {name key m p v draft next}, fields.names.lookup name = some key →
      fields.read m p key v draft = .ok next → get next = get draft) :
    get result = get draft := by
  induction reads with
  | nil => rfl
  | cons _ known _ given _ ih => exact ih.trans (leaves known given)

/-- What is held for a name: nothing without an entry, and otherwise what its value gives. -/
def Under {β : Type} (d : Document) (name : String) (gives : Node → Option β → Prop)
    (entries : List (Node × Node)) (held : Option β) : Prop :=
  match d.valueAt? name entries with
  | none => held = none
  | some v => gives v held

/-- A part of the draft that the field with the name fills, with what its value gives, and that the
other fields leave alone. -/
structure Fields.Fills {β : Type} (fields : Fields κ δ) (name : String) (key : κ)
    (get : δ → Option β) (gives : Node → Option β → Prop) : Prop where
  known : ∀ other, fields.names.lookup other = some key ↔ other = name
  own : ∀ {m p v draft next}, fields.read m p key v draft = .ok next → get draft = none →
    gives v (get next) ∧ fields.has next key = true
  other : ∀ {k m p v draft next}, k ≠ key → fields.read m p k v draft = .ok next →
    get next = get draft ∧ (fields.has draft key = true → fields.has next key = true)

section Fills

variable {β : Type} {name : String} {key : κ} {get : δ → Option β}
  {gives : Node → Option β → Prop}

/-- What has been read is not read again. -/
theorem Reads.settled (fills : fields.Fills name key get gives)
    (reads : d.Reads fields path mark entries draft result) (present : fields.has draft key = true) :
    get result = get draft := by
  induction reads with
  | nil => rfl
  | @cons k v rest _ current draft next result _ _ fresh given _ ih =>
    by_cases same : current = key
    · rw [same, present] at fresh
      cases fresh
    · obtain ⟨kept, still⟩ := fills.other same given
      exact (ih (still present)).trans kept

theorem Reads.filled (fills : fields.Fills name key get gives)
    (reads : d.Reads fields path mark entries draft result) (empty : get draft = none) :
    d.Under name gives entries (get result) := by
  induction reads with
  | nil => exact empty
  | @cons k v rest text current draft next result named known _ given later ih =>
    by_cases same : current = key
    · rw [same] at known given
      obtain ⟨filled, present⟩ := fills.own given empty
      rw [(fills.known text).mp known] at named
      rw [Under, valueAt?_cons_own named, later.settled fills present]
      exact filled
    · have different : text ≠ name := by
        intro own
        exact same (Option.some.inj (known.symm.trans ((fills.known text).mpr own)))
      obtain ⟨kept, _⟩ := fills.other same given
      rw [Under, valueAt?_cons_other named different]
      exact ih (kept.trans empty)

end Fills

/-- Fields of different names are found by their names. -/
theorem lookup_named {key : κ → String} (distinct : ∀ a b, key a = key b → a = b) {known : List κ}
    {name : String} {k : κ} :
    (known.map fun k => (key k, k)).lookup name = some k ↔ k ∈ known ∧ name = key k := by
  induction known with
  | nil => simp
  | cons first rest ih =>
    rw [List.map_cons, List.lookup_cons, List.mem_cons]
    split
    · next own =>
      rw [beq_iff_eq.mp own, Option.some.injEq]
      constructor
      · rintro rfl
        exact ⟨.inl rfl, rfl⟩
      · rintro ⟨_, same⟩
        exact distinct first k same
    · next other =>
      rw [ih]
      constructor
      · rintro ⟨later, same⟩
        exact ⟨.inr later, same⟩
      · rintro ⟨rfl | later, same⟩
        · simp [same] at other
        · exact ⟨later, same⟩

/-- A document is read to its end, and its root, if it has one, as a value. -/
theorem read_eq_ok {α : Type} {absent a : α} {root : Node → Except ReadError α} :
    d.read absent root = .ok a ↔ d.broken = false ∧ d.followed = false ∧
      (d.root = none ∧ a = absent ∨ ∃ v, d.root = some v ∧ root v = .ok a) := by
  unfold Document.read
  cases found : d.root with
  | none =>
    cases d.broken <;> cases d.followed <;>
      simp [bind, Except.bind, pure, Except.pure, throw, throwThe, MonadExceptOf.throw, eq_comm]
  | some v =>
    cases given : root v <;> cases d.broken <;> cases d.followed <;>
      simp [given, bind, Except.bind, pure, Except.pure, throw, throwThe, MonadExceptOf.throw]

end FailureIntake.Yaml.Document
