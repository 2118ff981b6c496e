import FailureIntake.Failure.Json
import FailureIntake.Proofs.Failure.Json

/-! The fields of a record, one by one. A value gives each field of a record at most once, as the member
under its key or as the item in its place. What a record holds in a field is what the value gives
for it, and nothing else in the value touches that field. -/
namespace FailureIntake

open Json

/-- Two readings one after the other. -/
theorem Decoded.bind_eq_ok {α β : Type} {first : Decoded α} {next : α → Decoded β} {b : β} :
    first >>= next = .ok b ↔ ∃ a, first = .ok a ∧ next a = .ok b := by
  cases first <;> simp [bind, Except.bind]

namespace RecordField

/-- What a record holds in a field. -/
def Held : RecordField → Type
  | .stage => Stage
  | .cause => Cause
  | .message | .details | .messageId => String
  | .recordedAt => Instant
  | .messageTime => Option Instant
  | .targetIndex => Option String
  | .requiresAck => Bool

def decode : (f : RecordField) → Value → Decoded f.Held
  | .stage => Stage.ofJson
  | .cause => Cause.ofJson
  | .message | .details | .messageId => Decoded.string
  | .recordedAt => Decoded.instant
  | .messageTime => Decoded.optional Decoded.instant
  | .targetIndex => Decoded.optional Decoded.string
  | .requiresAck => Decoded.bool

theorem ofKey?_eq_some {key : String} {f : RecordField} : ofKey? key = some f ↔ key = f.key := by
  constructor
  · intro found
    have same := List.find?_some found
    exact (beq_iff_eq.mp same).symm
  · rintro rfl
    exact ofKey?_key f

end RecordField

namespace RecordDraft

def get (d : RecordDraft) : (f : RecordField) → Option f.Held
  | .stage => d.stage
  | .cause => d.cause
  | .message => d.message
  | .details => d.details
  | .recordedAt => d.recordedAt
  | .messageId => d.messageId
  | .messageTime => d.messageTime
  | .targetIndex => d.targetIndex
  | .requiresAck => d.requiresAck

/-- The draft with a field that has been read. -/
def set (d : RecordDraft) : (f : RecordField) → f.Held → RecordDraft
  | .stage, x => { d with stage := some x }
  | .cause, x => { d with cause := some x }
  | .message, x => { d with message := some x }
  | .details, x => { d with details := some x }
  | .recordedAt, x => { d with recordedAt := some x }
  | .messageId, x => { d with messageId := some x }
  | .messageTime, x => { d with messageTime := some x }
  | .targetIndex, x => { d with targetIndex := some x }
  | .requiresAck, x => { d with requiresAck := some x }

variable {d e : RecordDraft} {f g : RecordField} {v : Value}

theorem get_set {x : f.Held} : (d.set f x).get f = some x := by cases f <;> rfl

theorem get_set_other {x : f.Held} (different : f ≠ g) : (d.set f x).get g = d.get g := by
  cases f <;> cases g <;> first | rfl | exact absurd rfl different

theorem has_eq : d.has f = (d.get f).isSome := by cases f <;> rfl

theorem read_eq : d.read v f = (f.decode v).map (d.set f) := by cases f <;> rfl

theorem read_eq_ok : d.read v f = .ok e ↔ ∃ x, f.decode v = .ok x ∧ e = d.set f x := by
  rw [read_eq]
  cases f.decode v <;> simp [Except.map, eq_comm]

/-- What a draft holds in a field if the value is given for it. -/
def Filled (f : RecordField) (given : Option Value) (e : RecordDraft) : Prop :=
  match given with
  | none => e.get f = none
  | some v => ∃ x, f.decode v = .ok x ∧ e.get f = some x

/-- The value of the first member with the key of the field. -/
def memberOf? (f : RecordField) (members : List (Option String × Value)) : Option Value :=
  (members.find? fun m => m.1 == some f.key).map Prod.snd

theorem memberOf?_own {rest : List (Option String × Value)} :
    memberOf? f ((some f.key, v) :: rest) = some v := by
  simp [memberOf?]

theorem memberOf?_other {key : String} {rest : List (Option String × Value)} (different : key ≠ f.key) :
    memberOf? f ((some key, v) :: rest) = memberOf? f rest := by
  simp [memberOf?, different]

/-- What one member makes of a draft. A member is of no field, or of one that has not been read before. -/
inductive Takes : Option String × Value → RecordDraft → RecordDraft → Prop where
  | unknown {name : String} {v : Value} {d : RecordDraft} :
      (∀ f : RecordField, name ≠ f.key) → v.isWhole → Takes (some name, v) d d
  | field {f : RecordField} {v : Value} {x : f.Held} {d : RecordDraft} :
      d.get f = none → f.decode v = .ok x → Takes (some f.key, v) d (d.set f x)

/-- Members are taken one after the other. -/
theorem readMembers_cons {m : Option String × Value} {rest : List (Option String × Value)} :
    readMembers (m :: rest) d = .ok e ↔ ∃ next, Takes m d next ∧ readMembers rest next = .ok e := by
  constructor
  · intro read
    obtain ⟨_ | name, v⟩ := m
    · cases read
    rw [readMembers] at read
    cases known : RecordField.ofKey? name with
    | none =>
      rw [known] at read
      dsimp only at read
      split at read
      · next whole =>
        refine ⟨d, .unknown (fun f own => ?_) whole, read⟩
        rw [RecordField.ofKey?_eq_some.mpr own] at known
        cases known
      · cases read
    | some f =>
      rw [known] at read
      dsimp only at read
      split at read
      · cases read
      · next fresh =>
        obtain ⟨_, given, read⟩ := Decoded.bind_eq_ok.mp read
        obtain ⟨x, decoded, rfl⟩ := read_eq_ok.mp given
        rw [RecordField.ofKey?_eq_some.mp known]
        exact ⟨_, .field (by simpa [has_eq] using fresh) decoded, read⟩
  · rintro ⟨next, step, read⟩
    cases step with
    | @unknown name v _ unknown whole =>
      have known : RecordField.ofKey? name = none := by
        refine Option.eq_none_iff_forall_not_mem.mpr fun f own => ?_
        exact unknown f (RecordField.ofKey?_eq_some.mp own)
      rw [readMembers, known]
      dsimp only
      rw [if_pos whole, read]
    | field fresh decoded =>
      rw [readMembers_field (by simp [has_eq, fresh]) (read_eq_ok.mpr ⟨_, decoded, rfl⟩), read]

/-- A field that has been read is not read again. -/
theorem readMembers_settled {members : List (Option String × Value)}
    (read : readMembers members d = .ok e) {x : f.Held} (present : d.get f = some x) :
    e.get f = some x := by
  induction members generalizing d with
  | nil =>
    cases read
    exact present
  | cons m rest ih =>
    obtain ⟨next, step, later⟩ := readMembers_cons.mp read
    cases step with
    | unknown => exact ih later present
    | @field g _ _ _ fresh =>
      have different : g ≠ f := by
        rintro rfl
        cases fresh.symm.trans present
      exact ih later ((get_set_other different).trans present)

theorem readMembers_filled {members : List (Option String × Value)}
    (read : readMembers members d = .ok e) (empty : d.get f = none) :
    Filled f (memberOf? f members) e := by
  induction members generalizing d with
  | nil =>
    cases read
    exact empty
  | cons m rest ih =>
    obtain ⟨next, step, later⟩ := readMembers_cons.mp read
    cases step with
    | unknown other =>
      rw [memberOf?_other (other f)]
      exact ih later empty
    | @field g _ x _ _ decoded =>
      by_cases own : g = f
      · subst own
        rw [memberOf?_own]
        exact ⟨x, decoded, readMembers_settled later get_set⟩
      · have different : g.key ≠ f.key := by
          intro same
          have known := RecordField.ofKey?_key g
          rw [same, RecordField.ofKey?_key f] at known
          exact own (Option.some.inj known).symm
        rw [memberOf?_other different]
        exact ih later ((get_set_other own).trans empty)

/-- An item belongs to the field in its place. -/
theorem readItems_filled {closed : Bool} {fields : List RecordField} {items : List Value}
    (read : readItems closed fields items d = .ok e) (distinct : fields.Nodup) :
    (f ∉ fields → e.get f = d.get f) ∧
      (f ∈ fields → d.get f = none → Filled f items[fields.idxOf f]? e) := by
  induction fields generalizing items d with
  | nil =>
    rw [readItems] at read
    split at read
    · cases read
      exact ⟨fun _ => rfl, nofun⟩
    · cases read
  | cons g fields ih =>
    obtain ⟨fresh, distinct⟩ := List.nodup_cons.mp distinct
    cases items with
    | nil =>
      have later : readItems closed fields [] d = .ok e := by
        rw [readItems] at read
        split at read
        · cases read
        · split at read
          · exact read
          · cases read
      obtain ⟨others, filled⟩ := ih later distinct
      refine ⟨fun absent => others (List.not_mem_of_not_mem_cons absent), fun member empty => ?_⟩
      rcases List.mem_cons.mp member with rfl | among
      · exact (others fresh).trans empty
      · simpa using filled among empty
    | cons v rest =>
      rw [readItems] at read
      obtain ⟨_, given, read⟩ := Decoded.bind_eq_ok.mp read
      obtain ⟨x, decoded, rfl⟩ := read_eq_ok.mp given
      obtain ⟨others, filled⟩ := ih read distinct
      refine ⟨fun absent => ?_, fun member empty => ?_⟩
      · rw [List.mem_cons, not_or] at absent
        exact (others absent.2).trans (get_set_other (Ne.symm absent.1))
      · by_cases own : g = f
        · subst own
          rw [List.idxOf_cons_self, List.getElem?_cons_zero]
          exact ⟨x, decoded, (others fresh).trans get_set⟩
        · rw [List.idxOf_cons_ne fields own, List.getElem?_cons_succ]
          exact filled (List.mem_of_ne_of_mem (Ne.symm own) member)
            ((get_set_other own).trans empty)

/-- A record holds what its draft does. A field that may be absent is so if the draft lacks it. -/
theorem failure_eq_ok {r : Failure} (complete : d.failure = .ok r) :
    d.stage = some r.stage ∧ r.messageTime = d.messageTime.getD none ∧
      r.targetIndex = d.targetIndex.getD none ∧ d.requiresAck = some r.requiresAck := by
  obtain ⟨_ | _, _ | _, _ | _, _ | _, _ | _, _ | _, _, _, _ | _⟩ := d <;> cases complete
  exact ⟨rfl, rfl, rfl, rfl⟩

end RecordDraft

theorem RecordField.mem_all (f : RecordField) : f ∈ all := by
  cases f <;> decide

/-- What a value gives for a field: the member with its key, or the item in its place. -/
def RecordField.given? (f : RecordField) : Value → Option Value
  | .object members _ => RecordDraft.memberOf? f members
  | .array items _ => items[all.idxOf f]?
  | _ => none

/-- A record is read from an object just if its members fill a draft with all that a record needs. -/
theorem Failure.ofJson_object {members : List (Option String × Value)} {closed : Bool} {r : Failure} :
    ofJson (.object members closed) = .ok r ↔
      closed = true ∧ ∃ d, RecordDraft.readMembers members {} = .ok d ∧ d.failure = .ok r := by
  rw [ofJson, Decoded.bind_eq_ok]
  cases closed <;> simp

/-- A record that is read from a value holds in each field what the value gives for it. -/
theorem Failure.ofJson_filled {v : Value} {r : Failure} (read : ofJson v = .ok r) :
    ∃ d : RecordDraft, d.failure = .ok r ∧ ∀ f : RecordField, RecordDraft.Filled f (f.given? v) d := by
  have empty : ∀ f, RecordDraft.get {} f = none := fun f => by cases f <;> rfl
  cases v with
  | object members closed =>
    obtain ⟨_, d, filled, complete⟩ := ofJson_object.mp read
    exact ⟨d, complete, fun f => RecordDraft.readMembers_filled filled (empty f)⟩
  | array items closed =>
    obtain ⟨d, filled, complete⟩ := Decoded.bind_eq_ok.mp read
    exact ⟨d, complete, fun f =>
      (RecordDraft.readItems_filled filled (by decide)).2 f.mem_all (empty f)⟩
  | _ => cases read

end FailureIntake
