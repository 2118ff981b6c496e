import FailureIntake.Text.Quoted

/-! Log entries and the lines they are written as. -/
namespace FailureIntake

/-- How much an entry matters, the gravest first. -/
inductive LogLevel where
  | error
  | warn
  | info
  | debug
  | trace
deriving DecidableEq, Repr

def LogLevel.label : LogLevel → String
  | .error => "ERROR"
  | .warn => "WARN"
  | .info => "INFO"
  | .debug => "DEBUG"
  | .trace => "TRACE"

/-- How many levels are at least as grave, from 1 for errors to 5 for traces. -/
def LogLevel.verbosity : LogLevel → Nat
  | .error => 1
  | .warn => 2
  | .info => 3
  | .debug => 4
  | .trace => 5

/-- The value of a named field: a text that lines show quoted, or one that they show bare. -/
inductive FieldValue where
  | quoted (text : String)
  | bare (text : String)
deriving DecidableEq, Repr

/-- The text of a field without quotes. -/
def FieldValue.text : FieldValue → String
  | .quoted t => t
  | .bare t => t

structure LogEntry where
  level : LogLevel
  target : String
  message : String
  fields : List (String × FieldValue) := []
deriving DecidableEq, Repr

namespace LogEntry

/-- A terminal control character in a bare field is written by its number. -/
def bareChar (c : Char) : List Char :=
  if c = '\x1b' ∨ c = '\x07' ∨ c = '\x08' ∨ c = '\x0c' ∨ c = '\x7f' then
    '\\' :: 'x' :: if c.toNat < 16 then '0' :: Text.hex c.toNat else Text.hex c.toNat
  else if 0x80 ≤ c.toNat ∧ c.toNat ≤ 0x9f then
    ['\\', 'u', '\x7b'] ++ Text.hex c.toNat ++ ['\x7d']
  else [c]

def renderField (field : String × FieldValue) : String :=
  field.1 ++ "=" ++ match field.2 with
    | .quoted t => Text.quoted t
    | .bare t => String.ofList (t.toList.flatMap bareChar)

/-- Level, target and message, then the fields in order. -/
def render (e : LogEntry) : String :=
  e.level.label ++ " " ++ e.target ++ ": " ++ e.message ++
    String.join (e.fields.map fun f => " " ++ renderField f)

end LogEntry

end FailureIntake
