import FailureIntake.Instant

/-! Metric updates: what one event does to one series. -/
namespace FailureIntake

/-- A counter grows, a gauge is set, a histogram takes one more observation. -/
inductive MetricKind where
  | counter
  | gauge
  | histogram
deriving DecidableEq, Repr

def MetricKind.label : MetricKind → String
  | .counter => "counter"
  | .gauge => "gauge"
  | .histogram => "histogram"

/-- The exact value of an update, before it becomes a floating-point number. -/
inductive Quantity where
  | count (n : Nat)
  | wait (d : Duration)
deriving DecidableEq, Repr

def Quantity.whole : Quantity → Nat
  | .count n => n
  | .wait d => d.secs

/-- A wait is its seconds and its nanoseconds over 10⁹, each rounded, then added. -/
def Quantity.toFloat : Quantity → Float
  | .count n => Float.ofNat n
  | .wait d => Float.ofNat d.secs + Float.ofNat d.nanos / 1000000000.0

/-- An update of the series with this name and these labels. -/
structure MetricUpdate where
  kind : MetricKind
  name : String
  labels : List (String × String)
  quantity : Quantity
deriving DecidableEq, Repr

end FailureIntake
