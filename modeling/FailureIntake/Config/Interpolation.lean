import FailureIntake.Config.Environment

/-! Interpolation of environment variables. A text is cut from left to right into pieces: `$$`, a
reference `$NAME`, `${NAME}`, `${NAME-default}` or `${NAME:-default}`, or a single character.
Each piece is replaced once, and what replaces it is never looked at again. -/
namespace FailureIntake.Config

/-- What a reference falls back to: always if the variable is not set, and `onEmpty` also if it is
set to the empty text. -/
structure Fallback where
  onEmpty : Bool
  text : List Char
deriving DecidableEq, Repr

inductive Piece where
  | literal (c : Char)
  | dollar
  | reference (name : List Char) (fallback : Option Fallback)
deriving DecidableEq, Repr

namespace Piece

def isNameStart (c : Char) : Bool :=
  c.isAlpha || c == '_'

def isNameChar (c : Char) : Bool :=
  c.isAlphanum || c == '_'

/-- The longest name that the text begins with, and what follows it. -/
def name? : List Char → Option (List Char × List Char)
  | [] => none
  | c :: r => if isNameStart c then some (c :: r.takeWhile isNameChar, r.dropWhile isNameChar) else none

/-- A default goes up to the first closing brace. -/
def default? (onEmpty : Bool) (r : List Char) : Option (Fallback × List Char) :=
  match r.dropWhile (· ≠ '\x7d') with
  | [] => none
  | _ :: rest => some (⟨onEmpty, r.takeWhile (· ≠ '\x7d')⟩, rest)

/-- The rest of a braced reference after its opening brace. -/
def braced? (r : List Char) : Option (Piece × List Char) := do
  match ← name? r with
  | (name, '\x7d' :: rest) => some (.reference name none, rest)
  | (name, ':' :: '-' :: r) => (default? true r).map fun (d, rest) => (.reference name (some d), rest)
  | (name, '-' :: r) => (default? false r).map fun (d, rest) => (.reference name (some d), rest)
  | _ => none

/-- The piece that begins with a dollar, if more than the dollar belongs to it. -/
def afterDollar? : List Char → Option (Piece × List Char)
  | '$' :: rest => some (.dollar, rest)
  | '\x7b' :: r => braced? r
  | r => (name? r).map fun (name, rest) => (.reference name none, rest)

/-- The first piece of a non-empty text, and what follows it. -/
def read (c : Char) (r : List Char) : Piece × List Char :=
  if c = '$' then (afterDollar? r).getD (.literal c, r) else (.literal c, r)

theorem name?_shorter {r name rest : List Char} (h : name? r = some (name, rest)) :
    rest.length ≤ r.length := by
  cases r with
  | nil => simp [name?] at h
  | cons c r =>
    simp only [name?] at h
    split at h
    · cases h
      have := (List.dropWhile_sublist (l := r) isNameChar).length_le
      simp only [List.length_cons]; omega
    · cases h

theorem default?_shorter {b : Bool} {r rest : List Char} {d : Fallback}
    (h : default? b r = some (d, rest)) : rest.length ≤ r.length := by
  unfold default? at h
  split at h
  · cases h
  · next heq =>
    cases h
    have := (List.dropWhile_sublist (l := r) (· ≠ '\x7d')).length_le
    rw [heq] at this
    simp only [List.length_cons] at this; omega

theorem braced?_shorter {r rest : List Char} {p : Piece} (h : braced? r = some (p, rest)) :
    rest.length ≤ r.length := by
  unfold braced? at h
  cases hn : name? r with
  | none => simp [hn] at h
  | some n =>
    obtain ⟨name, tail⟩ := n
    have hl := name?_shorter hn
    simp only [hn, Option.bind_eq_bind, Option.bind_some] at h
    split at h
    · next heq => cases heq; cases h; simp only [List.length_cons] at hl; omega
    · next heq =>
      cases heq
      obtain ⟨⟨d, q⟩, hd, he⟩ := Option.map_eq_some_iff.1 h
      cases he
      have := default?_shorter hd
      simp only [List.length_cons] at hl ⊢; omega
    · next heq =>
      cases heq
      obtain ⟨⟨d, q⟩, hd, he⟩ := Option.map_eq_some_iff.1 h
      cases he
      have := default?_shorter hd
      simp only [List.length_cons] at hl ⊢; omega
    · cases h

/-- Every piece takes at least one character. -/
theorem read_shorter (c : Char) (r : List Char) : (read c r).2.length ≤ r.length := by
  unfold read
  split
  · cases h : afterDollar? r with
    | none => simp
    | some v =>
      obtain ⟨p, rest⟩ := v
      simp only [Option.getD_some]
      unfold afterDollar? at h
      split at h
      · cases h; simp
      · have := braced?_shorter h
        simp only [List.length_cons]; omega
      · obtain ⟨⟨n, q⟩, hn, he⟩ := Option.map_eq_some_iff.1 h
        cases he
        exact name?_shorter hn
  · simp

def split : List Char → List Piece
  | [] => []
  | c :: r => (read c r).1 :: split (read c r).2
termination_by s => s.length
decreasing_by
  have := read_shorter c r
  simp only [List.length_cons]; omega

end Piece

inductive ReferenceError where
  | notSet (name : String)
  | containsNewlines (name : String)
deriving DecidableEq, Repr

def ReferenceError.message : ReferenceError → String
  | .notSet name => "environment variable '" ++ name ++ "' is not set"
  | .containsNewlines name =>
    "environment variable '" ++ name ++ "' contains newlines, which is not allowed"

/-- What a reference stands for. A value with a line break is refused whatever the fallback. -/
def resolve (env : Environment) (name : List Char) (fallback : Option Fallback) :
    Except ReferenceError (List Char) :=
  let name := String.ofList name
  match env.text? name with
  | some value =>
    if value.toList.any fun c => c == '\n' || c == '\r' then .error (.containsNewlines name)
    else match fallback with
      | some d => .ok (if d.onEmpty && value.toList.isEmpty then d.text else value.toList)
      | none => .ok value.toList
  | none =>
    match fallback with
    | some d => .ok d.text
    | none => .error (.notSet name)

def Piece.value (env : Environment) : Piece → Except ReferenceError (List Char)
  | .literal c => .ok [c]
  | .dollar => .ok ['$']
  | .reference name fallback => resolve env name fallback

/-- The errors of the pieces in text order, with repetitions. -/
def referenceErrors (values : List (Except ReferenceError (List Char))) : List ReferenceError :=
  values.filterMap fun
    | .error e => some e
    | .ok _ => none

def replaced (values : List (Except ReferenceError (List Char))) : List Char :=
  values.flatMap fun
    | .error _ => []
    | .ok cs => cs

/-- Replaces every piece, or reports every reference that cannot be replaced. -/
def interpolate (env : Environment) (text : String) : Except (List ReferenceError) String :=
  let values := (Piece.split text.toList).map (Piece.value env)
  match referenceErrors values with
  | [] => .ok (String.ofList (replaced values))
  | errors => .error errors

end FailureIntake.Config
