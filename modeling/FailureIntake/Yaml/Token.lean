import FailureIntake.Yaml.Mark

/-! The tokens of YAML: indicators, scalars, node properties, and the indentation made visible. -/
namespace FailureIntake.Yaml

inductive ScalarStyle where
  | plain
  | singleQuoted
  | doubleQuoted
  | literal
  | folded
deriving DecidableEq, Repr

/-- A written tag: a handle and what follows it. -/
structure TagText where
  handle : List Char
  suffix : List Char
deriving DecidableEq, Repr

inductive TokenKind where
  | streamEnd
  | versionDirective (major minor : Nat)
  | tagDirective (handle tagStart : List Char)
  | documentStart
  | documentEnd
  /-- A deeper indentation that holds entries or keys, and its end. -/
  | blockSequenceStart
  | blockMappingStart
  | blockEnd
  | flowSequenceStart
  | flowSequenceEnd
  | flowMappingStart
  | flowMappingEnd
  | blockEntry
  | flowEntry
  | key
  | value
  | alias (name : List Char)
  | anchor (name : List Char)
  | tag (t : TagText)
  | scalar (style : ScalarStyle) (text : List Char)
deriving DecidableEq, Repr

structure Token where
  kind : TokenKind
  start : Mark
  stop : Mark
deriving DecidableEq, Repr

end FailureIntake.Yaml
