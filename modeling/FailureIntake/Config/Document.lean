import FailureIntake.Config.Settings
import FailureIntake.Json.Writer
import FailureIntake.Yaml.Decode

/-! Configuration documents. A document has two sections with four fields in all; each may be
absent, none may stand twice, and no other may stand there. Where a document overrides settings, a
field may also be null, which leaves it as it was. -/
namespace FailureIntake.Config

open Yaml

inductive Section where
  | failureHandling
  | metrics
deriving DecidableEq, Repr

inductive Setting where
  | submitProcessingFailures
  | keepFailedDuplicate
  | queueCapacity
  | metricsEnabled
deriving DecidableEq, Repr

def Section.key : Section → String
  | .failureHandling => "failure_handling"
  | .metrics => "metrics"

def Section.all : List Section :=
  [.failureHandling, .metrics]

def Setting.key : Setting → String
  | .submitProcessingFailures => "submit_processing_failures"
  | .keepFailedDuplicate => "keep_failed_message_duplicate"
  | .queueCapacity => "queue_capacity"
  | .metricsEnabled => "enabled"

/-- The fields of a section in order. -/
def Section.settings : Section → List Setting
  | .failureHandling => [.submitProcessingFailures, .keepFailedDuplicate, .queueCapacity]
  | .metrics => [.metricsEnabled]

inductive Form where
  | settings
  | overrides
deriving DecidableEq, Repr

namespace Form

def documentName : Form → String
  | .settings => "struct Config"
  | .overrides => "struct ConfigOverrides"

def sectionName : Form → Section → String
  | .settings, .failureHandling => "struct FailureHandlingConfig"
  | .settings, .metrics => "struct MetricsConfig"
  | .overrides, .failureHandling => "struct FailureHandlingOverrides"
  | .overrides, .metrics => "struct MetricsOverrides"

end Form

/-- The sections and fields that have been read. A field that is null has been read, too. -/
structure Draft where
  sections : List Section := []
  submitProcessingFailures : Option (Option Bool) := none
  keepFailedDuplicate : Option (Option Bool) := none
  queueCapacity : Option (Option UInt64) := none
  metricsEnabled : Option (Option Bool) := none
deriving DecidableEq, Repr

namespace Draft

def has (d : Draft) : Setting → Bool
  | .submitProcessingFailures => d.submitProcessingFailures.isSome
  | .keepFailedDuplicate => d.keepFailedDuplicate.isSome
  | .queueCapacity => d.queueCapacity.isSome
  | .metricsEnabled => d.metricsEnabled.isSome

/-- A value, or null where the form has it. -/
def readValue {α : Type} (form : Form) (doc : Yaml.Document) (mapping : List String × Mark)
    (read : Node → Except ReadError α) (v : Node) : Except ReadError (Option α) := do
  match form with
  | .settings => some <$> read v
  | .overrides =>
    if ← doc.readsAsNull mapping.1 mapping.2 v then pure none else some <$> read v

def readSetting (form : Form) (doc : Yaml.Document) (mapping : List String × Mark)
    (path : List String) (key : Setting) (v : Node) (d : Draft) : Except ReadError Draft := do
  match key with
  | .submitProcessingFailures =>
    pure { d with submitProcessingFailures := some (← readValue form doc mapping (doc.readBool path) v) }
  | .keepFailedDuplicate =>
    pure { d with keepFailedDuplicate := some (← readValue form doc mapping (doc.readBool path) v) }
  | .queueCapacity =>
    pure { d with queueCapacity := some (← readValue form doc mapping (doc.readWord path) v) }
  | .metricsEnabled =>
    pure { d with metricsEnabled := some (← readValue form doc mapping (doc.readBool path) v) }

def settingFields (form : Form) (doc : Yaml.Document) (s : Section) :
    Yaml.Document.Fields Setting Draft where
  names := s.settings.map fun k => (k.key, k)
  has := Draft.has
  read := readSetting form doc

def sectionFields (form : Form) (doc : Yaml.Document) : Yaml.Document.Fields Section Draft where
  names := Section.all.map fun s => (s.key, s)
  has d s := d.sections.contains s
  read _ path s v d :=
    doc.readMapping (settingFields form doc s) path (form.sectionName s) v
      { d with sections := s :: d.sections }

def ofDocument (form : Form) (doc : Yaml.Document) : Except ReadError Draft :=
  doc.read {} fun v => doc.readMapping (sectionFields form doc) [] form.documentName v {}

def overrides (d : Draft) : Overrides where
  submitProcessingFailures := d.submitProcessingFailures.join
  keepFailedDuplicate := d.keepFailedDuplicate.join
  queueCapacity := d.queueCapacity.join
  metricsEnabled := d.metricsEnabled.join

end Draft

namespace Overrides

def ofText (text : String) : Except ReadError Overrides :=
  (Draft.ofDocument .overrides (Yaml.Document.ofText text.toList)).map Draft.overrides

end Overrides

namespace Settings

/-- The settings of a document, with defaults for what it does not give. They are not checked. -/
def ofText (text : String) : Except ReadError Settings :=
  (Draft.ofDocument .settings (Yaml.Document.ofText text.toList)).map fun d => d.overrides.apply {}

def ofYaml (text : String) : Except ConfigError Settings :=
  match ofText text with
  | .ok s => s.check
  | .error e => .error (.yaml e.message)

def boolText (b : Bool) : List Char :=
  if b then "true".toList else "false".toList

def lineText (key : Setting) (value : List Char) : List Char :=
  "  ".toList ++ key.key.toList ++ ": ".toList ++ value ++ ['\n']

/-- The document of settings, with all fields in order. -/
def yamlText (s : Settings) : List Char :=
  Section.failureHandling.key.toList ++ ":\n".toList ++
    lineText .submitProcessingFailures (boolText s.submitProcessingFailures) ++
    lineText .keepFailedDuplicate (boolText s.keepFailedDuplicate) ++
    lineText .queueCapacity (Text.decimal s.queueCapacity.toNat) ++
    Section.metrics.key.toList ++ ":\n".toList ++
    lineText .metricsEnabled (boolText s.metricsEnabled)

/-- The JSON form of settings, with the same sections and fields. -/
def toJson (s : Settings) : Json.Value :=
  .ofMembers
    [(Section.failureHandling.key, .ofMembers
      [(Setting.submitProcessingFailures.key, .bool s.submitProcessingFailures),
       (Setting.keepFailedDuplicate.key, .bool s.keepFailedDuplicate),
       (Setting.queueCapacity.key, .number (some (.natural s.queueCapacity.toNat)))]),
     (Section.metrics.key, .ofMembers [(Setting.metricsEnabled.key, .bool s.metricsEnabled)])]

end Settings

end FailureIntake.Config
