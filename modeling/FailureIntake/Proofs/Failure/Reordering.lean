import FailureIntake.Proofs.Failure.Consistency
import FailureIntake.Proofs.Json.Acceptance
import FailureIntake.Proofs.Json.RoundTrip
import Mathlib.Data.List.Perm.Basic

/-! Records of other writers. A record may be written with its members in any order and with members of
other names among them, and is read as the same record. Two members that a draft takes one after the
other it takes in the other order too, since they are of different fields or change nothing. -/
namespace FailureIntake.Json

/-- A string with its quotes, characters as they are or escaped. -/
def SpellsString (s : List Char) (name : String) : Prop :=
  ∃ body ns, s = '"' :: (body ++ ['"']) ∧ StringText body ns ∧ Pairs ns name.toList

theorem SpellsString.literal {s : List Char} {name : String} (spells : SpellsString s name) :
    StringLiteral s (some name) := by
  obtain ⟨body, ns, rfl, text, pairs⟩ := spells
  have literal := StringLiteral.mk text
  rwa [pairs.characters?, Option.map_some, String.ofList_toList] at literal

theorem SpellsString.written (name : String) : SpellsString (writeString name) name :=
  ⟨_, _, rfl, .written name.toList, .characters name.toList⟩

namespace MemberText

/-- The key and the value, without the blanks around them. -/
def bare (m : MemberText) : List Char × List Char :=
  (m.key.core, m.value.core)

def IsWritten (m : MemberText) : Prop :=
  (∃ key, StringLiteral m.key.core key) ∧ ∃ v, Spells m.value.core v

/-- What the bare texts of a member give. -/
def Gives (texts : List Char × List Char) (m : Option String × Value) : Prop :=
  StringLiteral texts.1 m.1 ∧ Spells texts.2 m.2

theorem exists_members {P : Option String × Value → Prop} {texts : List MemberText}
    (each : ∀ m ∈ texts, ∃ n, Gives m.bare n ∧ P n) :
    ∃ members, List.Forall₂ Gives (texts.map bare) members ∧ ∀ n ∈ members, P n := by
  induction texts with
  | nil => exact ⟨[], .nil, List.forall_mem_nil _⟩
  | cons m texts ih =>
    rw [List.forall_mem_cons] at each
    obtain ⟨n, gives, holds⟩ := each.1
    obtain ⟨members, rest, hold⟩ := ih each.2
    exact ⟨n :: members, .cons gives rest, List.forall_mem_cons.mpr ⟨holds, hold⟩⟩

/-- A member that is written without blanks. -/
def plain (key : String) (v : Value) : MemberText :=
  ⟨.bare (writeString key), .bare v.text⟩

theorem IsWritten.plain {v : Value} (exact : v.Exact) (key : String) : (plain key v).IsWritten :=
  ⟨⟨some key, .written key⟩, v, exact.spells⟩

end MemberText

/-- An object with at least one member, as it stands in a text with blanks around it. -/
structure ObjectText where
  before : List Char
  members : List MemberText
  after : List Char
  blank_before : ∀ c ∈ before, Token.isBlank c
  blank_after : ∀ c ∈ after, Token.isBlank c
  nonempty : members ≠ []
  written : ∀ m ∈ members, m.IsWritten

namespace ObjectText

open MemberText

variable {t : ObjectText} {members : List (Option String × Value)}

def padded (t : ObjectText) : Padded where
  before := t.before
  core := '\x7b' :: (commaSeparated (t.members.map MemberText.text) ++ ['\x7d'])
  after := t.after
  blank_before := t.blank_before
  blank_after := t.blank_after

def text (t : ObjectText) : List Char :=
  t.padded.text

/-- The texts of the members give the members of the object. -/
theorem ofText (gives : List.Forall₂ Gives (t.members.map bare) members) :
    Value.ofText t.text = (.object members true, true) := by
  rw [List.forall₂_map_left_iff] at gives
  let entries := t.members.zip members
  have texts : entries.map Prod.fst = t.members := List.map_fst_zip gives.length_eq.le
  have values : entries.map Prod.snd = members := List.map_snd_zip gives.length_eq.ge
  have each : ∀ e ∈ entries, Gives e.1.bare e.2 := fun e member => List.forall₂_zip gives member
  have nonempty : entries ≠ [] := by
    intro none
    exact t.nonempty (by rw [← texts, none, List.map_nil])
  have spells := Spells.object nonempty (fun e member => (each e member).1)
    fun e member => (each e member).2
  have split : (entries.map fun e => e.1.text) = t.members.map MemberText.text := by
    rw [← texts, List.map_map]
    rfl
  rw [values, split] at spells
  exact Spells.ofText (p := t.padded) spells

theorem exists_gives (t : ObjectText) : ∃ members, List.Forall₂ Gives (t.members.map bare) members := by
  have each : ∀ m ∈ t.members, ∃ n, Gives m.bare n ∧ True := by
    intro m member
    obtain ⟨⟨key, literal⟩, v, spells⟩ := t.written m member
    exact ⟨(key, v), ⟨literal, spells⟩, trivial⟩
  obtain ⟨members, gives, -⟩ := exists_members each
  exact ⟨members, gives⟩

/-- Every object that is read is such a text, or has no members. -/
theorem exists_of_ofText {s : List Char} {v : Value} (read : Value.ofText s = (v, true))
    (opens : s.find? (fun c => !Token.isBlank c) = some '\x7b') :
    v = .object [] true ∨ ∃ t : ObjectText, t.text = s := by
  obtain ⟨p, rfl, spells⟩ := Value.ofText_iff.mp read
  have first : p.text.find? (fun c => !Token.isBlank c) =
      (p.core ++ p.after).find? fun c => !Token.isBlank c := by
    rw [Padded.text, List.find?_append, List.find?_eq_none.mpr (by simpa using p.blank_before)]
    rfl
  obtain ⟨before, core, after, blank_before, blank_after⟩ := p
  rw [first] at opens
  cases spells with
  | emptyObject => exact .inl rfl
  | @object members nonempty keys values =>
    let t : ObjectText :=
      { before, after, blank_before, blank_after
        members := members.map Prod.fst
        nonempty := by simpa using nonempty
        written := List.forall_mem_map.mpr fun m member => ⟨⟨_, keys m member⟩, _, values m member⟩ }
    refine .inr ⟨t, ?_⟩
    simp [t, text, padded, Function.comp_def]
  | number number =>
    obtain ⟨c, r, rfl, solid, token⟩ := number.read Text.endsRun_nil
    have brace : c = '\x7b' := by simpa [solid] using opens
    subst brace
    cases token
  | string literal =>
    cases literal
    simp [Token.isBlank] at opens
  | null | yes | no | emptyArray | array => simp [Token.isBlank] at opens

end ObjectText

end FailureIntake.Json

namespace FailureIntake

open Json

namespace RecordDraft

variable {d d₁ d₂ e : RecordDraft} {f g : RecordField} {m n : Option String × Value}
  {members others : List (Option String × Value)}

theorem set_comm (different : f ≠ g) (x : f.Held) (y : g.Held) :
    (d.set f x).set g y = (d.set g y).set f x := by
  cases f <;> cases g <;> first | rfl | exact absurd rfl different

/-- Two members that a draft takes one after the other it takes in the other order too. -/
theorem Takes.swap (first : Takes m d d₁) (second : Takes n d₁ d₂) :
    ∃ between, Takes n d between ∧ Takes m between d₂ := by
  cases first with
  | unknown other whole => exact ⟨d₂, second, .unknown other whole⟩
  | @field f _ x _ fresh decoded =>
    cases second with
    | unknown other whole => exact ⟨d, .unknown other whole, .field fresh decoded⟩
    | @field g _ y _ fresh' decoded' =>
      -- A second member of the same field would have been refused.
      have different : f ≠ g := by
        rintro rfl
        rw [get_set] at fresh'
        cases fresh'
      have fresh_before : d.get g = none := (get_set_other different).symm.trans fresh'
      have fresh_after : (d.set g y).get f = none := (get_set_other (Ne.symm different)).trans fresh
      refine ⟨d.set g y, .field fresh_before decoded', ?_⟩
      rw [set_comm different]
      exact .field fresh_after decoded

/-- The order of the members makes no difference. -/
theorem readMembers_perm (perm : members.Perm others) (read : readMembers members d = .ok e) :
    readMembers others d = .ok e := by
  induction perm generalizing d with
  | nil => exact read
  | cons m _ ih =>
    obtain ⟨next, step, later⟩ := readMembers_cons.mp read
    exact readMembers_cons.mpr ⟨next, step, ih later⟩
  | swap m n rest =>
    obtain ⟨d₁, first, later⟩ := readMembers_cons.mp read
    obtain ⟨d₂, second, later⟩ := readMembers_cons.mp later
    obtain ⟨between, second, first⟩ := first.swap second
    exact readMembers_cons.mpr ⟨between, second, readMembers_cons.mpr ⟨d₂, first, later⟩⟩
  | trans _ _ ih₁ ih₂ => exact ih₂ (ih₁ read)

/-- Members that change no draft make no difference. -/
theorem readMembers_unknown (unknown : ∀ m ∈ others, ∀ d, Takes m d d)
    (read : readMembers members d = .ok e) : readMembers (members ++ others) d = .ok e := by
  have read_after : readMembers (others ++ members) d = .ok e := by
    induction others with
    | nil => exact read
    | cons m rest ih =>
      rw [List.forall_mem_cons] at unknown
      exact readMembers_cons.mpr ⟨d, unknown.1 d, ih unknown.2⟩
  exact readMembers_perm List.perm_append_comm read_after

end RecordDraft

/-- The key is a string, and no field of a record. The value may be any. -/
def Json.MemberText.IsForeign (m : MemberText) : Prop :=
  (∃ name, SpellsString m.key.core name ∧ ∀ f : RecordField, name ≠ f.key) ∧ ∃ v, Spells m.value.core v

theorem Json.MemberText.IsForeign.exists_gives {m : MemberText} (foreign : m.IsForeign) :
    ∃ n, Gives m.bare n ∧ ∀ d, RecordDraft.Takes n d d := by
  obtain ⟨⟨name, key, other⟩, v, spells⟩ := foreign
  exact ⟨(some name, v), ⟨key.literal, spells⟩, fun _ => .unknown other spells.isWhole⟩

namespace Failure

variable {f : Failure} {members others extra : List (Option String × Value)}

theorem ofJson_reordered (read : ofJson (.object members true) = .ok f)
    (unknown : ∀ m ∈ extra, ∀ d, RecordDraft.Takes m d d) (perm : (members ++ extra).Perm others) :
    ofJson (.object others true) = .ok f := by
  obtain ⟨_, d, filled, complete⟩ := ofJson_object.mp read
  have refilled := RecordDraft.readMembers_perm perm (RecordDraft.readMembers_unknown unknown filled)
  exact ofJson_object.mpr ⟨rfl, d, refilled, complete⟩

open MemberText (bare)

/-- An object that is read as a record is read as the same record with its members in any order, with
any others among them that are of no field, and with any blanks. -/
theorem reordered_record_is_read {text : String} (read : ofJsonText text = .ok f)
    (opens : text.toList.find? (fun c => !Token.isBlank c) = some '\x7b') :
    (∃ t : ObjectText, t.text = text.toList) ∧
      ∀ (t u : ObjectText) (extra : List MemberText), t.text = text.toList →
        (∀ m ∈ extra, m.IsForeign) →
        (u.members.map bare).Perm ((t.members ++ extra).map bare) →
          ofJsonText (String.ofList u.text) = .ok f := by
  obtain ⟨v, given, recorded⟩ := ofJsonText_eq_ok.mp read
  constructor
  · rcases ObjectText.exists_of_ofText given opens with rfl | exists_text
    · cases recorded
    · exact exists_text
  · intro t u extra same foreign perm
    obtain ⟨members, gives⟩ := t.exists_gives
    obtain ⟨others, gives_extra, unknown⟩ :=
      MemberText.exists_members fun m member => (foreign m member).exists_gives
    rw [List.map_append] at perm
    obtain ⟨reordered, gives_reordered, perm⟩ :=
      List.perm_comp_forall₂ perm (List.rel_append gives gives_extra)
    have old := ObjectText.ofText gives
    rw [same, given] at old
    cases old
    have recorded_again := ofJson_reordered recorded unknown perm.symm
    refine ofJsonText_eq_ok.mpr ⟨_, ?_, recorded_again⟩
    rw [String.toList_ofList]
    exact ObjectText.ofText gives_reordered

/-- The members of a record the other way round, after one that a newer writer has added, with blanks. -/
theorem newer_record_is_read :
    let f : Failure :=
      { stage := .processing, cause := ⟨"c"⟩, message := "m", details := "d",
        recordedAt := ⟨1714979289, 0⟩, messageId := "id", messageTime := none,
        targetIndex := none, requiresAck := true }
    let text := "\x7b\"failure_type\":\"PROCESSING\",\"failure_cause\":\"c\",\"message\":\"m\"," ++
      "\"failure_details\":\"d\",\"failure_timestamp\":\"2024-05-06T07:08:09Z\",\"message_id\":\"id\"," ++
      "\"requires_acknowledgement\":true\x7d"
    let newer := " \x7b\"schema\":[1E999, [[\x7b\"message\":\"\\ud800\"\x7d]] ]," ++
      "\"requires_acknowledgement\":true,\"message_id\":\"id\"," ++
      "\"failure_timestamp\":\"2024-05-06T07:08:09Z\",\"failure_details\":\"d\"," ++
      "\"message\":\"m\",\"failure_cause\":\"c\",\"failure_type\":\"PROCESSING\"\x7d\n"
    ofJsonText text = .ok f ∧ ofJsonText newer = .ok f := by
  intro f text newer
  have read : ofJsonText text = .ok f := by decide +kernel
  let old : List MemberText :=
    [.plain "failure_type" (.ofString "PROCESSING"), .plain "failure_cause" (.ofString "c"),
     .plain "message" (.ofString "m"), .plain "failure_details" (.ofString "d"),
     .plain "failure_timestamp" (.ofString "2024-05-06T07:08:09Z"), .plain "message_id" (.ofString "id"),
     .plain "requires_acknowledgement" (.bool true)]
  have written : ∀ m ∈ old, m.IsWritten := by
    simp only [old, List.forall_mem_cons]
    exact ⟨.plain (.string _) _, .plain (.string _) _, .plain (.string _) _, .plain (.string _) _,
      .plain (.string _) _, .plain (.string _) _, .plain (.bool _) _,
      List.forall_mem_nil _⟩
  let t : ObjectText := ⟨[], old, [], List.forall_mem_nil _, List.forall_mem_nil _, List.cons_ne_nil _ _, written⟩
  have text_t : t.text = text.toList := by
    change [] ++ (('\x7b' :: (commaSeparated (old.map MemberText.text) ++ ['\x7d'])) ++ []) = text.toList
    decide +kernel
  have opens : text.toList.find? (fun c => !Token.isBlank c) = some '\x7b' := by
    rw [← text_t]
    rfl
  let value := "[1E999, [[\x7b\"message\":\"\\ud800\"\x7d]] ]".toList
  have whole : Value.ofText value = ((Value.ofText value).1, true) := Prod.ext rfl (by decide +kernel)
  obtain ⟨p, same, spells⟩ := Value.ofText_iff.mp whole
  let added : MemberText := ⟨.bare (writeString "schema"), p⟩
  have foreign : added.IsForeign :=
    ⟨⟨"schema", .written "schema", fun f => by cases f <;> decide⟩, _, spells⟩
  have written_added : added.IsWritten := ⟨⟨_, .written "schema"⟩, _, spells⟩
  let u : ObjectText :=
    ⟨[' '], added :: old.reverse, ['\n'], List.forall_mem_singleton.mpr rfl,
      List.forall_mem_singleton.mpr rfl, List.cons_ne_nil _ _,
      List.forall_mem_cons.mpr ⟨written_added, fun m member => written m (List.mem_reverse.mp member)⟩⟩
  have perm : u.members.Perm (t.members ++ [added]) :=
    ((List.reverse_perm old).cons added).trans (List.perm_append_singleton added old).symm
  have text_added : added.text = "\"schema\":".toList ++ value := by
    rw [same]
    rfl
  have text_u : u.text = newer.toList := by
    change [' '] ++ (('\x7b' :: (commaSeparated (added.text :: old.reverse.map MemberText.text) ++
      ['\x7d'])) ++ ['\n']) = newer.toList
    rw [text_added]
    decide +kernel
  have read_u := (reordered_record_is_read read opens).2 t u [added] text_t
    (List.forall_mem_singleton.mpr foreign) (perm.map bare)
  rw [text_u, String.ofList_toList] at read_u
  exact ⟨read, read_u⟩

end Failure

end FailureIntake
