import FailureIntake.Observability.Event
import FailureIntake.Observability.Exposition
import FailureIntake.Observability.Filter

/-! What a process has installed to observe itself: a recorder for metrics and a filtered log.
Each is installed once and stays. What happens before is lost to it. -/
namespace FailureIntake

/-- Why there is no recorder to work with. -/
inductive RecorderError where
  | setupFailed
  | alreadyInstalled
  | notInstalled
deriving DecidableEq, Repr

def RecorderError.message : RecorderError → String
  | .setupFailed => "Failed to initialize Prometheus recorder"
  | .alreadyInstalled => "Metrics recorder already initialized"
  | .notInstalled => "Metrics recorder not initialized"

/-- The recorder's registry and the log's filter, as far as they are there, and the entries shown
so far. -/
structure Installation where
  registry : Option Registry := none
  filter : Option Filter := none
  shown : List LogEntry := []

namespace Installation

def log (i : Installation) (e : LogEntry) : Installation :=
  if i.filter.any (·.shows e) then { i with shown := i.shown ++ [e] } else i

def record (i : Installation) (u : MetricUpdate) : Installation :=
  { i with registry := i.registry.map (·.record u) }

def observe (i : Installation) (n : Note) : Installation :=
  n.logs.foldl log (n.metrics.foldl record i)

def recorderInstalled : LogEntry where
  level := .info
  target := "tailrace_core::metrics::recorder"
  message := "Prometheus metrics recorder installed"

def registry? (i : Installation) : Except RecorderError Registry :=
  match i.registry with
  | some r => .ok r
  | none => .error .notInstalled

def read (i : Installation) : Except RecorderError (List String × Installation) :=
  i.registry?.map fun r => (r.lines, { i with registry := some r.settle })

/-- Installs a recorder where there is none, without a word. -/
def ensureRecorder (i : Installation) : Installation :=
  { i with registry := some (i.registry.getD {}) }

/-- Installs the only recorder and says so. -/
def installRecorder (i : Installation) : Except RecorderError Installation :=
  match i.registry with
  | some _ => .error .alreadyInstalled
  | none => .ok (i.ensureRecorder.log recorderInstalled)

/-- Installs a log; a log that is there stays. -/
def ensureLog (i : Installation) (f : Filter) : Installation :=
  { i with filter := some (i.filter.getD f) }

/-- Installs a log, and a recorder if metrics are wanted. The log stays even where the recorder is
refused. -/
def install (i : Installation) (f : Filter) (metricsEnabled : Bool) :
    Installation × Except RecorderError Unit :=
  let i := i.ensureLog f
  if metricsEnabled then
    match i.installRecorder with
    | .ok i => (i, .ok ())
    | .error e => (i, .error e)
  else (i, .ok ())

/-- The lines of the log. An entry with line breaks takes several. -/
def lines (i : Installation) : List String :=
  i.shown.flatMap fun e => (Text.parts '\n' e.render.toList).map String.ofList

end Installation

end FailureIntake
