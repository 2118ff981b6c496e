import FailureIntake.Observability.Metric

/-! The registry of metrics: what every series has come to. -/
namespace FailureIntake

/-- Observations counted by size. Those since the last reading are summed in blocks. -/
structure Histogram where
  /-- How many observations are at most each of the bounds. -/
  counts : List Nat
  count : Nat
  earlierSum : Float
  /-- How many observations there are since the last reading, and the sums of their blocks, the
  newest first. -/
  recent : Nat
  blockSums : List Float

namespace Histogram

def bounds : List Float :=
  [0.001, 0.005, 0.01, 0.05, 0.1, 0.5, 1, 5, 10, 50, 100, 500, 1000]

/-- No observation yet. -/
def empty : Histogram :=
  ⟨bounds.map fun _ => 0, 0, 0, 0, []⟩

def blockSize : Nat := 64

/-- One summand more in the newest block, or in a new one where that is full. -/
def addToBlock (recent : Nat) (x : Float) : List Float → List Float
  | [] => [x]
  | s :: older => if recent % blockSize = 0 then x :: s :: older else (s + x) :: older

def observe (h : Histogram) (x : Float) : Histogram where
  counts := List.zipWith (fun bound n => if x ≤ bound then n + 1 else n) bounds h.counts
  count := h.count + 1
  earlierSum := h.earlierSum
  recent := h.recent + 1
  blockSums := addToBlock h.recent x h.blockSums

/-- The sum of all observations. The blocks are added one by one, the newest first. -/
def sum (h : Histogram) : Float :=
  h.blockSums.foldl (· + ·) h.earlierSum

/-- The histogram after a reading. -/
def settle (h : Histogram) : Histogram :=
  { h with earlierSum := h.sum, recent := 0, blockSums := [] }

end Histogram

inductive SeriesValue where
  | counter (total : UInt64)
  | gauge (value : Float)
  | histogram (h : Histogram)

namespace SeriesValue

def kind : SeriesValue → MetricKind
  | .counter _ => .counter
  | .gauge _ => .gauge
  | .histogram _ => .histogram

/-- The value before the first update. -/
def initial : MetricKind → SeriesValue
  | .counter => .counter 0
  | .gauge => .gauge 0
  | .histogram => .histogram .empty

/-- The value after an update. Counters count in 64 bits and start again at their end. -/
def update : SeriesValue → Quantity → SeriesValue
  | .counter total, q => .counter (total + .ofNat q.whole)
  | .gauge _, q => .gauge q.toFloat
  | .histogram h, q => .histogram (h.observe q.toFloat)

/-- The value after a reading. -/
def settle : SeriesValue → SeriesValue
  | .histogram h => .histogram h.settle
  | v => v

theorem kind_initial (k : MetricKind) : (initial k).kind = k := by
  cases k <;> rfl

theorem kind_update (v : SeriesValue) (q : Quantity) : (v.update q).kind = v.kind := by
  cases v <;> rfl

end SeriesValue

structure Series where
  name : String
  labels : List (String × String)
  value : SeriesValue

def Series.takes (s : Series) (u : MetricUpdate) : Bool :=
  s.value.kind = u.kind && s.name = u.name && s.labels = u.labels

/-- The series in the order of their first updates. -/
structure Registry where
  series : List Series := []

namespace Registry

/-- Updates a series, which begins with its first update. -/
def record (r : Registry) (u : MetricUpdate) : Registry :=
  if r.series.any (·.takes u) then
    ⟨r.series.map fun s => if s.takes u then { s with value := s.value.update u.quantity } else s⟩
  else
    ⟨r.series ++ [⟨u.name, u.labels, (SeriesValue.initial u.kind).update u.quantity⟩]⟩

/-- The registry after a reading. -/
def settle (r : Registry) : Registry :=
  ⟨r.series.map fun s => { s with value := s.value.settle }⟩

end Registry

end FailureIntake
