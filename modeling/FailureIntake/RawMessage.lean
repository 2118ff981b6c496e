import FailureIntake.Instant
import FailureIntake.RootCause
import FailureIntake.Text.Utf8

/-! Raw messages and the exceptions raised when an input fails to decode one. -/
namespace FailureIntake

/-- An identifier of 128 bits, which are drawn at random but for six that say so. -/
structure UniqueId where
  high : BitVec 48
  middle : BitVec 12
  low : BitVec 62
deriving DecidableEq, Repr

namespace UniqueId

def bits (u : UniqueId) : BitVec 128 :=
  u.high ++ 4#4 ++ u.middle ++ 2#2 ++ u.low

def digit (u : UniqueId) (i : Nat) : Char :=
  Nat.digitChar (u.bits.toNat / Nat.pow 16 (31 - i) % 16)

/-- Thirty-two hexadecimal digits in groups of eight, four, four, four and twelve. -/
def text (u : UniqueId) : String :=
  String.ofList ((List.range 32).flatMap fun i =>
    if i ∈ [8, 12, 16, 20] then ['-', u.digit i] else [u.digit i])

theorem text_ne_empty (u : UniqueId) : u.text ≠ "" := by
  intro empty
  have first : u.text.toList = [] := by rw [empty]; rfl
  simp [text, List.range_succ_eq_map] at first

end UniqueId

structure RawMessage where
  id : UniqueId
  receivedAt : Instant
  payload : Text.Utf8.Octets
deriving DecidableEq, Repr

/-- An input failed to turn a raw message into a message. -/
structure InputException where
  message : String
  cause : Option RootCause
  raw : RawMessage
deriving DecidableEq, Repr

/-- An exception keeps the root cause of the error that it was raised for, if there is one. -/
def InputException.raised (message : String) (cause : Option ErrorChain) (raw : RawMessage) :
    InputException :=
  ⟨message, cause.map RootCause.ofChain, raw⟩

/-- The diagnostic text of the failure record: the root cause, or else the exception's text. -/
def InputException.details (e : InputException) : String :=
  match e.cause with
  | some c => c.describe
  | none => e.message

end FailureIntake
