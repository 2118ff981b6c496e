import FailureIntake.Proofs.Config.Reporting

/-! Which error comes first. Loading is reported before reading, and reading before the check of the
merged settings, each with all that it finds wrong. -/
namespace FailureIntake.Config

variable {fs : FileSystem} {env : Environment} {sources : List Source} {docs : List SourceDocument}

namespace SourceDocument

variable {d : SourceDocument} {o : Overrides} {entry : String}

/-- The document is one of a configuration. -/
def IsRead (d : SourceDocument) : Prop :=
  ∃ o, Overrides.ofText d.text = .ok o

/-- What the report says of a document that is none of a configuration. -/
def Refused (d : SourceDocument) (entry : String) : Prop :=
  ∃ e, Overrides.ofText d.text = .error e ∧ entry = d.path.text ++ ": " ++ e.message

theorem parse_eq_ok : d.parse Overrides.ofText = .ok o ↔ Overrides.ofText d.text = .ok o := by
  unfold parse
  cases Overrides.ofText d.text <;> simp [Except.mapError]

theorem parse_eq_error : d.parse Overrides.ofText = .error entry ↔ d.Refused entry := by
  unfold parse Refused
  cases Overrides.ofText d.text <;> simp [Except.mapError, SourceDocument.entry, eq_comm]

theorem Refused.not_isRead (refused : d.Refused entry) : ¬ d.IsRead := by
  obtain ⟨e, error, _⟩ := refused
  rintro ⟨o, read⟩
  cases error.symm.trans read

end SourceDocument

theorem eq_multiple_of_load {e : ConfigError} (failed : Source.load fs env sources = .error e) :
    ∃ entries, e = .multiple entries := by
  unfold Source.load collect at failed
  dsimp only at failed
  split at failed
  · cases failed
  · cases failed
    exact ⟨_, rfl⟩

theorem Settings.ofSources_of_load {e : ConfigError} (failed : Source.load fs env sources = .error e) :
    ofSources fs env sources = .error e := by
  rw [ofSources, failed]
  rfl

/-- Documents that are not all read are reported, whatever the others would have set. -/
theorem Settings.ofSources_unread (loaded : Source.load fs env sources = .ok docs)
    (unread : ¬ ∀ d ∈ docs, d.IsRead) :
    ∃ entries, ofSources fs env sources = .error (.multiple entries) ∧
      FaultReport SourceDocument.IsRead SourceDocument.Refused docs entries := by
  rcases collect_map (SourceDocument.parse Overrides.ofText) docs with
    ⟨os, each, _⟩ | ⟨entries, _, report, collected⟩
  · refine absurd (fun d member => ?_) unread
    obtain ⟨o, _, read⟩ := exists_recorded each.flip member
    exact ⟨o, SourceDocument.parse_eq_ok.mp read⟩
  · refine ⟨entries, ?_, report.imp (fun d ⟨o, read⟩ => ⟨o, SourceDocument.parse_eq_ok.mp read⟩)
      fun d entry => SourceDocument.parse_eq_error.mp⟩
    simp only [ofSources, loaded, bind, Except.bind, collected]

/-- A report of loading is passed on. Otherwise there is one entry for each document that is not
read, which begins with its path. Only if there is none are the merged settings looked at, and
refused for nothing but a size of zero. -/
theorem errors_by_phase (fs : FileSystem) (env : Environment) (sources : List Source) :
    (∀ e, Source.load fs env sources = .error e →
      (∃ entries, e = .multiple entries) ∧ Settings.ofSources fs env sources = .error e) ∧
    (∀ docs, Source.load fs env sources = .ok docs →
      ((∃ d ∈ docs, ¬ d.IsRead) → ∃ entries,
        Settings.ofSources fs env sources = .error (.multiple entries) ∧ entries ≠ [] ∧
          FaultReport SourceDocument.IsRead SourceDocument.Refused docs entries) ∧
      ((∀ d ∈ docs, d.IsRead) → ∃ s : Settings, (∀ k : Setting, k.LastWritten docs (s.get k)) ∧
        Settings.ofSources fs env sources =
          if s.queueCapacity = 0 then .error .zeroCapacity else .ok s)) ∧
    ∀ s, Settings.ofSources fs env sources = .ok s →
      ∃ docs, Source.load fs env sources = .ok docs ∧ ∀ d ∈ docs, d.IsRead := by
  refine ⟨fun e failed => ⟨eq_multiple_of_load failed, Settings.ofSources_of_load failed⟩,
    fun docs loaded => ⟨fun ⟨d, member, unread⟩ => ?_, fun read => ?_⟩, fun s given => ?_⟩
  · obtain ⟨entries, outcome, report⟩ :=
      Settings.ofSources_unread loaded fun all => unread (all d member)
    have some : entries ≠ [] := fun none =>
      unread ((report.eq_nil_iff fun _ _ => SourceDocument.Refused.not_isRead).mp none d member)
    exact ⟨entries, outcome, some, report⟩
  · obtain ⟨os, results, written⟩ := Settings.merge_lastWritten read
    refine ⟨Settings.merge os, written, ?_⟩
    have valid : (Settings.merge os).IsValid ↔ ¬ (Settings.merge os).queueCapacity = 0 :=
      UInt64.pos_iff_ne_zero
    rw [Settings.ofSources_eq_check loaded results, Settings.check, if_congr valid rfl rfl, ite_not]
  · cases loaded : Source.load fs env sources with
    | error e => cases given.symm.trans (Settings.ofSources_of_load loaded)
    | ok docs =>
      refine ⟨docs, rfl, ?_⟩
      by_contra unread
      obtain ⟨entries, outcome, _⟩ := Settings.ofSources_unread loaded unread
      cases given.symm.trans outcome

/-- A size of zero is not spoken of while there are documents that are not read. -/
theorem refusals_beside_a_zero_size :
    let text := Text.Utf8.encode
    let fs : FileSystem :=
      { content := fun p =>
          if p = text "a.yaml" then .ok (text "failure_handling:\n  queue_capacity: 0\n")
          else if p = text "b.yaml" then .ok (text "metrics:\n  enabled: maybe\n")
          else if p = text "c.yaml" then .ok (text "extra: 1\n")
          else .error .notFound
        listing := fun _ => .error .notFound }
    let env : Environment := ⟨fun _ => none⟩
    let sources : List Source := ["a.yaml", "b.yaml", "c.yaml"].map fun name => ⟨.file, text name⟩
    let docs : List SourceDocument :=
      [⟨text "a.yaml", "failure_handling:\n  queue_capacity: 0\n"⟩,
        ⟨text "b.yaml", "metrics:\n  enabled: maybe\n"⟩, ⟨text "c.yaml", "extra: 1\n"⟩]
    let report :=
      ["b.yaml: metrics.enabled: invalid type: string \"maybe\", expected a boolean at line 2 column 12",
        "c.yaml: unknown field `extra`, expected `failure_handling` or `metrics`"]
    Source.load fs env sources = .ok docs ∧
      Settings.ofSources fs env sources = .error (.multiple report) ∧
      FaultReport SourceDocument.IsRead SourceDocument.Refused docs report := by
  intro text fs env sources docs report
  have loaded : Source.load fs env sources = .ok docs := by decide +kernel
  have outcome : Settings.ofSources fs env sources = .error (.multiple report) := by decide +kernel
  have unread : (Overrides.ofText "extra: 1\n").toOption = none := by decide +kernel
  obtain ⟨_, phases, _⟩ := errors_by_phase fs env sources
  obtain ⟨entries, same, _, faults⟩ := (phases docs loaded).1
    ⟨⟨text "c.yaml", "extra: 1\n"⟩, by simp [docs], fun ⟨o, read⟩ => by simp [read, Except.toOption] at unread⟩
  cases same.symm.trans outcome
  exact ⟨loaded, outcome, faults⟩

end FailureIntake.Config
