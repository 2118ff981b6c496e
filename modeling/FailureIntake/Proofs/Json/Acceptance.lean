import FailureIntake.Proofs.Json.Grammar

/-! Every text that is read as a value is one of the grammar. What a value in an open container is read
from ends before the container does, so the parts of a text are found by its length. -/
namespace FailureIntake.Json

open Text

/-- The text of a token, if it is one of the grammar. -/
inductive Token.Written : List Char → Token → Prop where
  | openArray : Written ['['] .openArray
  | closeArray : Written [']'] .closeArray
  | openObject : Written ['\x7b'] .openObject
  | closeObject : Written ['\x7d'] .closeObject
  | colon : Written [':'] .colon
  | comma : Written [','] .comma
  | scalar {s : List Char} {v : Value} : Spells s v → Written s (.scalar v)

theorem Token.written_of_literal {c : Char} {r word rest : List Char} {v : Value} {token : Token}
    (spells : Spells (c :: word) v) (given : read.literal r word v = (token, rest))
    (readable : token ≠ .unreadable) : ∃ s, Written s token ∧ c :: r = s ++ rest := by
  unfold read.literal at given
  split at given
  · next starts =>
    cases given
    obtain ⟨tail, rfl⟩ := List.isPrefixOf_iff_prefix.mp starts
    exact ⟨c :: word, .scalar spells, by simp⟩
  · cases given
    exact absurd rfl readable

theorem Token.written_of_number (negative : Bool) {c : Char} {r s rest : List Char} {token : Token}
    (sign : c :: r = (if negative then ['-'] else []) ++ s) (given : ofNumber negative s r = (token, rest))
    (readable : token ≠ .unreadable) : ∃ text, Written text token ∧ c :: r = text ++ rest := by
  unfold ofNumber at given
  split at given
  · next read =>
    cases given
    obtain ⟨text, spelled, rfl⟩ := NumberText.spelled_of_read? read
    exact ⟨_, .scalar (.number spelled), by rw [sign, List.append_assoc]⟩
  · cases given
    exact absurd rfl readable

theorem Token.written_of_read {c : Char} {r rest : List Char} {token : Token}
    (given : read c r = (token, rest)) (readable : token ≠ .unreadable) :
    ∃ s, Written s token ∧ c :: r = s ++ rest := by
  unfold read at given
  split at given
  case h_7 =>
    split at given
    · next string =>
      cases given
      obtain ⟨body, text, rfl⟩ := stringText_of_readString? string
      exact ⟨_, .scalar (.string (.mk text)), by simp⟩
    · cases given
      exact absurd rfl readable
  case h_8 => exact written_of_literal .null given readable
  case h_9 => exact written_of_literal .yes given readable
  case h_10 => exact written_of_literal .no given readable
  case h_11 => exact written_of_number true rfl given readable
  case h_12 => exact written_of_number false rfl given readable
  all_goals cases given
  · exact ⟨_, .openArray, rfl⟩
  · exact ⟨_, .closeArray, rfl⟩
  · exact ⟨_, .openObject, rfl⟩
  · exact ⟨_, .closeObject, rfl⟩
  · exact ⟨_, .colon, rfl⟩
  · exact ⟨_, .comma, rfl⟩

namespace Nesting

variable {n : Nesting} {s rest : List Char} {v w : Value} {stack : List Open} {expected : Expected}

theorem feed_failed (s : List Char) : (failed v).feed s = failed v := by
  unfold feed
  induction Token.split s with
  | nil => rfl
  | cons t ts ih => exact ih

theorem not_complete_of_failed (given : (failed v).feed s = .complete w) : False := by
  rw [feed_failed] at given
  cases given

theorem step_unreadable (stack : List Open) (expected : Expected) :
    ∃ v, (reading stack expected).step .unreadable = failed v := by
  refine ⟨abandon stack, ?_⟩
  cases expected with
  | firstKey | key => simp [step, beginKey]
  | _ => rfl

/-- A text is blank, or its first token stands after some blanks. -/
theorem blank_or_token (s : List Char) : (∀ c ∈ s, Token.isBlank c) ∨
    ∃ before c r, (∀ d ∈ before, Token.isBlank d) ∧ s = before ++ c :: r ∧ Token.isBlank c = false := by
  have cut := List.takeWhile_append_dropWhile (p := Token.isBlank) (l := s)
  have ends := endsRun_dropWhile (p := Token.isBlank) s
  cases solid : s.dropWhile Token.isBlank with
  | nil =>
    rw [solid, List.append_nil] at cut
    exact .inl fun c member => List.mem_takeWhile_imp (cut.symm ▸ member)
  | cons c r =>
    rw [solid] at cut ends
    exact .inr ⟨_, c, r, fun d member => List.mem_takeWhile_imp member, cut.symm, endsRun_cons.mp ends⟩

theorem feed_blank_alone (blank : ∀ c ∈ s, Token.isBlank c) : n.feed s = n := by
  rw [← List.append_nil s, feed_blank blank, feed_nil]

theorem blank_of_complete (given : (complete v).feed s = .complete w) :
    v = w ∧ ∀ c ∈ s, Token.isBlank c := by
  rcases blank_or_token s with blank | ⟨before, c, r, blank, rfl, solid⟩
  · rw [feed_blank_alone blank] at given
    cases given
    exact ⟨rfl, blank⟩
  · rw [feed_blank blank, feed_cons solid] at given
    exact (not_complete_of_failed given).elim

/-- What is read to the end goes on with a token, and with what follows the token. -/
theorem exists_token (given : (reading stack expected).feed s = .complete w) :
    ∃ before text token rest, (∀ c ∈ before, Token.isBlank c) ∧ Token.Written text token ∧
      s = before ++ (text ++ rest) ∧ (∀ m : Nesting, m.feed s = (m.step token).feed rest) ∧
      rest.length < s.length := by
  rcases blank_or_token s with blank | ⟨before, c, r, blank, rfl, solid⟩
  · rw [feed_blank_alone blank] at given
    cases given
  · have shorter := Token.read_shorter c r
    rcases read : Token.read c r with ⟨token, rest⟩
    have skip (m : Nesting) : m.feed (before ++ c :: r) = (m.step token).feed rest := by
      rw [feed_blank blank, feed_cons solid, read]
    rw [read] at shorter
    rw [skip] at given
    have readable : token ≠ .unreadable := by
      rintro rfl
      obtain ⟨v, failed⟩ := step_unreadable stack expected
      rw [failed] at given
      exact not_complete_of_failed given
    obtain ⟨text, written, cut⟩ := Token.written_of_read read readable
    refine ⟨before, text, token, rest, blank, written, by rw [cut], skip, ?_⟩
    simp only [List.length_append, List.length_cons] at shorter ⊢
    omega

/-- A value stands in front of a text that is read to the end, after some blanks. -/
def BeginsWithValue (s : List Char) : Prop :=
  ∀ (stack : List Open) (w : Value), (reading stack .value).feed s = .complete w →
    ∃ before core v rest, (∀ c ∈ before, Token.isBlank c) ∧ Spells core v ∧
      s = before ++ (core ++ rest) ∧ (accept v stack).feed rest = .complete w ∧
      rest.length < s.length

/-- A value in a container that stays open has blanks around it and a token after them. -/
theorem exists_part (value : BeginsWithValue s) (given : (reading stack .value).feed s = .complete w)
    (inside : ∀ v, ∃ inner, accept v stack = reading inner .next) :
    ∃ (p : Padded) (v : Value) (text : List Char) (token : Token) (rest : List Char), Spells p.core v ∧
      Token.Written text token ∧ s = p.text ++ (text ++ rest) ∧
      ((accept v stack).step token).feed rest = .complete w ∧ rest.length < s.length := by
  obtain ⟨before, core, v, tail, blank, spells, rfl, later, shorter⟩ := value _ w given
  obtain ⟨inner, same⟩ := inside v
  rw [same] at later
  obtain ⟨after, text, token, rest, blank', written, rfl, skip, shorter'⟩ := exists_token later
  rw [skip, ← same] at later
  exact ⟨⟨before, core, after, blank, blank'⟩, v, text, token, rest, spells, written,
    by simp [Padded.text], later, by omega⟩

/-- The items of an array stand in front of a text that is read to the end. -/
theorem exists_elements {bound : Nat} (values : ∀ t : List Char, t.length < bound → BeginsWithValue t)
    (below : s.length < bound) (done : List Value)
    (given : (reading (.array done :: stack) .value).feed s = .complete w) :
    ∃ (items : List (Padded × Value)) (rest : List Char), items ≠ [] ∧
      (∀ i ∈ items, Spells i.1.core i.2) ∧
      s = commaSeparated (items.map fun i => i.1.text) ++ ']' :: rest ∧
      (accept (.array (done.reverse ++ items.map Prod.snd) true) stack).feed rest = .complete w ∧
      rest.length < s.length := by
  induction bound generalizing s done with
  | zero => exact absurd below (Nat.not_lt_zero _)
  | succ bound ih =>
    obtain ⟨p, v, text, token, rest, spells, written, rfl, later, shorter⟩ :=
      exists_part (values s below) given fun v => ⟨_, rfl⟩
    cases written with
    | closeArray =>
      have closed : (accept (.array (v :: done).reverse true) stack).feed rest = .complete w := later
      refine ⟨[(p, v)], rest, List.cons_ne_nil _ _, by simpa using spells, ?_, ?_, shorter⟩
      · simp [commaSeparated_singleton]
      · simpa using closed
    | comma =>
      obtain ⟨items, rest', some, each, rfl, closed, shorter'⟩ :=
        ih (fun t small => values t (Nat.lt_succ_of_lt small)) (by omega) (v :: done) later
      refine ⟨(p, v) :: items, rest', List.cons_ne_nil _ _, List.forall_mem_cons.mpr ⟨spells, each⟩, ?_, ?_,
        by omega⟩
      · obtain ⟨i, items, rfl⟩ := List.exists_cons_of_ne_nil some
        simp [commaSeparated_cons_cons]
      · simpa using closed
    | openArray | openObject | closeObject | colon | scalar _ => exact (not_complete_of_failed later).elim

theorem exists_key {done : List (Option String × Value)} {text : List Char} {token : Token}
    (written : Token.Written text token)
    (given : ((reading (.object done :: stack) .key).step token).feed s = .complete w) :
    ∃ o, StringLiteral text o ∧ (reading (.member done o :: stack) .colon).feed s = .complete w := by
  cases written with
  | scalar spells =>
    cases spells with
    | string literal => exact ⟨_, literal, given⟩
    | _ => exact (not_complete_of_failed given).elim
  | _ => exact (not_complete_of_failed given).elim

/-- Where a key is due, a member stands in front, and a token after it. -/
theorem exists_entry {done : List (Option String × Value)}
    (values : ∀ t : List Char, t.length < s.length → BeginsWithValue t)
    (given : (reading (.object done :: stack) .key).feed s = .complete w) :
    ∃ (m : MemberText) (o : Option String) (v : Value) (text : List Char) (token : Token)
      (rest : List Char), StringLiteral m.key.core o ∧ Spells m.value.core v ∧ Token.Written text token ∧
      s = m.text ++ (text ++ rest) ∧
      ((reading (.object ((o, v) :: done) :: stack) .next).step token).feed rest = .complete w ∧
      rest.length < s.length := by
  obtain ⟨before, text, token, tail, blank, written, rfl, skip, short⟩ := exists_token given
  rw [skip] at given
  obtain ⟨o, literal, later⟩ := exists_key written given
  obtain ⟨after, colon, token, tail, blank', written, rfl, skip, short'⟩ := exists_token later
  rw [skip] at later
  cases written with
  | colon =>
    obtain ⟨value, v, next, token, rest, spells, written, rfl, later, short''⟩ :=
      exists_part (values tail (by omega)) later fun v => ⟨_, rfl⟩
    exact ⟨⟨⟨before, text, after, blank, blank'⟩, value⟩, o, v, next, token, rest, literal, spells, written,
      by simp [MemberText.text, Padded.text], later, by omega⟩
  | openArray | closeArray | openObject | closeObject | comma | scalar _ =>
    exact (not_complete_of_failed later).elim

/-- The members of an object stand in front of a text that is read to the end. -/
theorem exists_entries {bound : Nat} (values : ∀ t : List Char, t.length < bound → BeginsWithValue t)
    (below : s.length < bound) (done : List (Option String × Value))
    (given : (reading (.object done :: stack) .key).feed s = .complete w) :
    ∃ (members : List (MemberText × Option String × Value)) (rest : List Char), members ≠ [] ∧
      (∀ m ∈ members, StringLiteral m.1.key.core m.2.1) ∧ (∀ m ∈ members, Spells m.1.value.core m.2.2) ∧
      s = commaSeparated (members.map fun m => m.1.text) ++ '\x7d' :: rest ∧
      (accept (.object (done.reverse ++ members.map Prod.snd) true) stack).feed rest = .complete w ∧
      rest.length < s.length := by
  induction bound generalizing s done with
  | zero => exact absurd below (Nat.not_lt_zero _)
  | succ bound ih =>
    obtain ⟨m, o, v, text, token, rest, literal, spells, written, rfl, later, shorter⟩ :=
      exists_entry (fun t small => values t (Nat.lt_trans small below)) given
    cases written with
    | closeObject =>
      have closed : (accept (.object ((o, v) :: done).reverse true) stack).feed rest = .complete w := later
      refine ⟨[(m, o, v)], rest, List.cons_ne_nil _ _, by simpa using literal, by simpa using spells,
        ?_, ?_, shorter⟩
      · simp [commaSeparated_singleton]
      · simpa using closed
    | comma =>
      obtain ⟨members, rest', some, keys, each, rfl, closed, shorter'⟩ :=
        ih (fun t small => values t (Nat.lt_succ_of_lt small)) (by omega) ((o, v) :: done) later
      refine ⟨(m, o, v) :: members, rest', List.cons_ne_nil _ _, List.forall_mem_cons.mpr ⟨literal, keys⟩,
        List.forall_mem_cons.mpr ⟨spells, each⟩, ?_, ?_, by omega⟩
      · obtain ⟨k, members, rfl⟩ := List.exists_cons_of_ne_nil some
        simp [commaSeparated_cons_cons]
      · simpa using closed
    | openArray | closeArray | openObject | colon | scalar _ => exact (not_complete_of_failed later).elim

/-- An array is closed at once, or goes on as it does where an item is due. -/
theorem firstItem_cases (given : (reading (.array [] :: stack) .firstItem).feed s = .complete w) :
    (∃ blank rest, (∀ c ∈ blank, Token.isBlank c) ∧ s = blank ++ ']' :: rest ∧
      (accept (.array [] true) stack).feed rest = .complete w ∧ rest.length < s.length) ∨
      (reading (.array [] :: stack) .value).feed s = .complete w := by
  obtain ⟨before, text, token, rest, blank, written, rfl, skip, shorter⟩ := exists_token given
  rw [skip] at given
  cases written with
  | closeArray => exact .inl ⟨before, rest, blank, rfl, given, shorter⟩
  | openArray | openObject | closeObject | colon | comma | scalar _ => exact .inr ((skip _).trans given)

/-- An object is closed at once, or goes on as it does where a key is due. -/
theorem firstKey_cases (given : (reading (.object [] :: stack) .firstKey).feed s = .complete w) :
    (∃ blank rest, (∀ c ∈ blank, Token.isBlank c) ∧ s = blank ++ '\x7d' :: rest ∧
      (accept (.object [] true) stack).feed rest = .complete w ∧ rest.length < s.length) ∨
      (reading (.object [] :: stack) .key).feed s = .complete w := by
  obtain ⟨before, text, token, rest, blank, written, rfl, skip, shorter⟩ := exists_token given
  rw [skip] at given
  cases written with
  | closeObject => exact .inl ⟨before, rest, blank, rfl, given, shorter⟩
  | openArray | openObject | closeArray | colon | comma | scalar _ => exact .inr ((skip _).trans given)

theorem beginsWithValue (s : List Char) : BeginsWithValue s := by
  induction bound : s.length using Nat.strongRecOn generalizing s with
  | ind n ih =>
    -- The values in a container begin behind its bracket, in what is left of the text.
    have values : ∀ t : List Char, t.length < s.length → BeginsWithValue t :=
      fun t small => ih t.length (bound ▸ small) t rfl
    intro stack w given
    obtain ⟨before, text, token, rest, blank, written, rfl, skip, shorter⟩ := exists_token given
    rw [skip] at given
    cases written with
    | scalar spells => exact ⟨before, _, _, rest, blank, spells, rfl, given, shorter⟩
    | openArray =>
      rcases firstItem_cases given with ⟨inner, tail, blank', rfl, later, short⟩ | given
      · exact ⟨before, _, _, tail, blank, .emptyArray blank', by simp, later, by omega⟩
      · obtain ⟨items, tail, some, each, rfl, later, short⟩ := exists_elements values shorter [] given
        exact ⟨before, _, _, tail, blank, .array some each, by simp, later, by omega⟩
    | openObject =>
      rcases firstKey_cases given with ⟨inner, tail, blank', rfl, later, short⟩ | given
      · exact ⟨before, _, _, tail, blank, .emptyObject blank', by simp, later, by omega⟩
      · obtain ⟨members, tail, some, keys, each, rfl, later, short⟩ :=
          exists_entries values shorter [] given
        exact ⟨before, _, _, tail, blank, .object some keys each, by simp, later, by omega⟩
    | closeArray | closeObject | colon | comma => exact (not_complete_of_failed given).elim

end Nesting

/-- The texts that are read whole are those of the grammar, with blanks around them. -/
theorem Value.ofText_iff {s : List Char} {v : Value} :
    ofText s = (v, true) ↔ ∃ p : Padded, s = p.text ∧ Spells p.core v := by
  constructor
  · intro read
    have whole : Nesting.start.feed s = .complete v := by
      unfold ofText Nesting.result at read
      split at read
      · next given =>
        cases read
        exact given
      · cases read
      · cases read
    obtain ⟨before, core, u, rest, blank, spells, rfl, later, _⟩ := Nesting.beginsWithValue s [] v whole
    obtain ⟨rfl, blank'⟩ := Nesting.blank_of_complete later
    exact ⟨⟨before, core, rest, blank, blank'⟩, rfl, spells⟩
  · rintro ⟨p, rfl, spells⟩
    exact spells.ofText

end FailureIntake.Json
