/-! Points in time as seconds and nanoseconds of Coordinated Universal Time. -/
namespace FailureIntake

/-- Seconds since 1970-01-01T00:00:00Z and nanoseconds within the second. A leap second repeats
the second before it with `nanos` from 10⁹ on. -/
structure Instant where
  secs : Int
  nanos : Nat
deriving DecidableEq, Repr, Inhabited

structure Duration where
  secs : Nat
  nanos : Nat
deriving DecidableEq, Repr, Inhabited

/-- The length of some seconds and nanoseconds, of which a thousand million make a second. -/
def Duration.ofParts (secs nanos : Nat) : Duration :=
  ⟨secs + nanos / 1000000000, nanos % 1000000000⟩

/-- Whole milliseconds, rounded down. -/
def Duration.millis (d : Duration) : Nat :=
  d.secs * 1000 + d.nanos / 1000000

end FailureIntake
