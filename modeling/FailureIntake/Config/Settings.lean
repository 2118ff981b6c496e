import FailureIntake.Config.Error

/-! Settings of failure handling and metrics. -/
namespace FailureIntake.Config

structure Settings where
  submitProcessingFailures : Bool := false
  /-- A message is kept beside the record of its failure. -/
  keepFailedDuplicate : Bool := true
  queueCapacity : UInt64 := 1000
  metricsEnabled : Bool := true
deriving DecidableEq, Repr

def Settings.IsValid (s : Settings) : Prop :=
  0 < s.queueCapacity

instance (s : Settings) : Decidable s.IsValid :=
  inferInstanceAs (Decidable (_ < _))

/-- Refuses settings that no queue can be built for. -/
def Settings.check (s : Settings) : Except ConfigError Settings :=
  if s.IsValid then .ok s else .error .zeroCapacity

structure Overrides where
  submitProcessingFailures : Option Bool := none
  keepFailedDuplicate : Option Bool := none
  queueCapacity : Option UInt64 := none
  metricsEnabled : Option Bool := none
deriving DecidableEq, Repr

/-- What is given takes the place of what was there. -/
def Overrides.apply (o : Overrides) (s : Settings) : Settings where
  submitProcessingFailures := o.submitProcessingFailures.getD s.submitProcessingFailures
  keepFailedDuplicate := o.keepFailedDuplicate.getD s.keepFailedDuplicate
  queueCapacity := o.queueCapacity.getD s.queueCapacity
  metricsEnabled := o.metricsEnabled.getD s.metricsEnabled

/-- The default settings, overridden by one document after the other. -/
def Settings.merge (os : List Overrides) : Settings :=
  os.foldl (fun s o => o.apply s) {}

end FailureIntake.Config
