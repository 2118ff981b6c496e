import FailureIntake.Config.Source
import FailureIntake.Pipeline
import Mathlib.Control.Monad.Basic

/-! What a configuration may ask of the queue. The check of the settings keeps out a queue without
slots. It knows nothing of the most slots that a queue can have, so it lets settings through that
nothing can be built from. -/
namespace FailureIntake.Config

/-- The settings are ones that a document or a list of sources can give. -/
inductive Settings.Accepted (s : Settings) : Prop where
  | yaml {text : String} (read : Settings.ofYaml text = .ok s)
  | sources {fs : FileSystem} {env : Environment} {sources : List Source}
      (read : Settings.ofSources fs env sources = .ok s)

variable {s : Settings}

theorem Settings.check_ok {given : Settings} (checked : given.check = .ok s) : s.IsValid := by
  unfold check at checked
  split at checked
  · next valid =>
    cases checked
    exact valid
  · cases checked

/-- Both ways to settings end with the check. -/
theorem Settings.Accepted.isValid (accepted : s.Accepted) : s.IsValid := by
  cases accepted with
  | yaml read =>
    unfold ofYaml at read
    split at read
    · exact check_ok read
    · cases read
  | @sources fs env sources read =>
    unfold ofSources at read
    cases loaded : Source.load fs env sources with
    | error e =>
      rw [loaded] at read
      cases read
    | ok documents =>
      rw [loaded] at read
      cases collected : collect (documents.map (SourceDocument.parse Overrides.ofText)) with
      | error e =>
        simp only [bind, Except.bind, collected] at read
        cases read
      | ok overrides =>
        simp only [bind, Except.bind, collected] at read
        exact check_ok read

/-- A valid size is never rounded up to one slot. -/
theorem ofSettings?_eq (valid : s.IsValid) :
    BoundedQueue.ofSettings? s =
      if s.queueCapacity.toNat ≤ BoundedQueue.slotLimit
      then some { capacity := s.queueCapacity.toNat } else none := by
  have positive : 0 < s.queueCapacity.toNat := UInt64.lt_iff_toNat_lt.mp valid
  have same : max s.queueCapacity.toNat 1 = s.queueCapacity.toNat := Nat.max_eq_left positive
  rw [BoundedQueue.ofSettings?, BoundedQueue.ofCapacity?, same]

/-- Accepted settings get the queue that they ask for, and a service around it that asks them, exactly
as long as it has no more slots than a queue can have. -/
theorem accepted_settings_run (accepted : s.Accepted) (context : RuntimeContext) (now : Instant) :
    s.queueCapacity.toNat ≤ BoundedQueue.slotLimit ∧
      (∃ q p, BoundedQueue.ofSettings? s = some q ∧ q.capacity = s.queueCapacity.toNat ∧
        Pipeline.ofSettings? s context now = some p ∧ p.queue? = some q ∧ p.policy = s.policy) ∨
    BoundedQueue.slotLimit < s.queueCapacity.toNat ∧
      BoundedQueue.ofSettings? s = none ∧ Pipeline.ofSettings? s context now = none := by
  have built := ofSettings?_eq accepted.isValid
  rcases Nat.lt_or_ge BoundedQueue.slotLimit s.queueCapacity.toNat with beyond | within
  · rw [if_neg (by omega)] at built
    exact .inr ⟨beyond, built, congrArg (Option.map _) built⟩
  · rw [if_pos within] at built
    exact .inl ⟨within, _, _, built, rfl, congrArg (Option.map _) built, rfl, rfl⟩

/-- The largest queue there is. -/
theorem largest_accepted_queue :
    let s : Settings := { queueCapacity := 2305843009213693951 }
    Settings.ofYaml "failure_handling:\n  queue_capacity: 2305843009213693951\n" = .ok s ∧
      ∃ q p, BoundedQueue.ofSettings? s = some q ∧ q.capacity = 2305843009213693951 ∧
        Pipeline.ofSettings? s .none ⟨0, 0⟩ = some p ∧ p.queue? = some q ∧ p.policy = ⟨false, true⟩ := by
  intro s
  have read : Settings.ofYaml "failure_handling:\n  queue_capacity: 2305843009213693951\n" = .ok s := by
    decide +kernel
  rcases accepted_settings_run (.yaml read) .none ⟨0, 0⟩ with ⟨_, built⟩ | ⟨beyond, _⟩
  · exact ⟨read, built⟩
  · exact absurd beyond (by decide +kernel)

/-- One slot more is accepted as well, and cannot be had. -/
theorem accepted_without_a_queue :
    let s : Settings := { queueCapacity := 2305843009213693952 }
    Settings.ofYaml "failure_handling:\n  queue_capacity: 2305843009213693952\n" = .ok s ∧
      s.Accepted ∧ BoundedQueue.ofSettings? s = none ∧
      ∀ context now, Pipeline.ofSettings? s context now = none := by
  intro s
  have read : Settings.ofYaml "failure_handling:\n  queue_capacity: 2305843009213693952\n" = .ok s := by
    decide +kernel
  have missing : BoundedQueue.ofSettings? s = none := by decide +kernel
  exact ⟨read, .yaml read, missing, fun _ _ => congrArg (Option.map _) missing⟩

end FailureIntake.Config
