import FailureIntake.Proofs.Config.Loading
import FailureIntake.Proofs.Config.Written
import Mathlib.Data.List.Induction

/-! Merging documents. Each field has the value of the last document that writes it, and documents
that do not write it leave it alone. Only the merged settings are checked. -/
namespace FailureIntake.Config

/-- The last of the documents that give the field a value gives it this one, or none of them does
and it is the default. -/
def Setting.LastWritten (k : Setting) (docs : List SourceDocument) (x : k.Value) : Prop :=
  (∃ before d after, docs = before ++ d :: after ∧ k.SetBy (documentOf d.text) x ∧
    ∀ later ∈ after, k.LeftBy (documentOf later.text)) ∨
  (∀ d ∈ docs, k.LeftBy (documentOf d.text)) ∧ x = Settings.get {} k

theorem Overrides.get_apply (o : Overrides) (s : Settings) (k : Setting) :
    (o.apply s).get k = (o.get k).getD (s.get k) := by
  cases k <;> rfl

theorem Settings.merge_append (os : List Overrides) (o : Overrides) :
    merge (os ++ [o]) = o.apply (merge os) := by
  simp [merge]

namespace Setting.LastWritten

variable {k : Setting} {docs : List SourceDocument} {d : SourceDocument} {x y : k.Value}

theorem set (sets : k.SetBy (documentOf d.text) x) : k.LastWritten (docs ++ [d]) x :=
  .inl ⟨docs, d, [], rfl, sets, nofun⟩

theorem left (written : k.LastWritten docs x) (leaves : k.LeftBy (documentOf d.text)) :
    k.LastWritten (docs ++ [d]) x := by
  rcases written with ⟨before, writer, after, rfl, sets, others⟩ | ⟨none, same⟩
  · refine .inl ⟨before, writer, after ++ [d], by simp, sets, fun later member => ?_⟩
    rcases List.mem_append.mp member with earlier | last
    · exact others later earlier
    · rw [List.mem_singleton.mp last]
      exact leaves
  · refine .inr ⟨fun other member => ?_, same⟩
    rcases List.mem_append.mp member with earlier | last
    · exact none other earlier
    · rw [List.mem_singleton.mp last]
      exact leaves

end Setting.LastWritten

/-- Documents that are all read as overrides are merged by the last writer of each field. -/
theorem Settings.merge_lastWritten {docs : List SourceDocument}
    (parsed : ∀ d ∈ docs, ∃ o, Overrides.ofText d.text = .ok o) :
    ∃ os, docs.map (SourceDocument.parse Overrides.ofText) = os.map .ok ∧
      ∀ k : Setting, k.LastWritten docs ((merge os).get k) := by
  induction docs using List.reverseRecOn with
  | nil => exact ⟨[], rfl, fun k => .inr ⟨nofun, rfl⟩⟩
  | append_singleton docs d ih =>
    obtain ⟨os, results, written⟩ := ih fun e member => parsed e (List.mem_append_left _ member)
    obtain ⟨o, read⟩ := parsed d (by simp)
    refine ⟨os ++ [o], ?_, fun k => ?_⟩
    · rw [List.map_append, List.map_append, results]
      simp [SourceDocument.parse, read, Except.mapError]
    · rw [merge_append, Overrides.get_apply]
      rcases Overrides.ofText_get read k with ⟨none, leaves⟩ | ⟨x, some, sets⟩
      · rw [none]
        exact (written k).left leaves
      · rw [some]
        exact .set sets

/-- Only the merged settings are checked. -/
theorem Settings.ofSources_eq_check {fs : FileSystem} {env : Environment} {sources : List Source}
    {docs : List SourceDocument} {os : List Overrides} (loaded : Source.load fs env sources = .ok docs)
    (results : docs.map (SourceDocument.parse Overrides.ofText) = os.map .ok) :
    ofSources fs env sources = (merge os).check := by
  simp only [ofSources, loaded, bind, Except.bind, results, collect_ok]

/-- Loading merges by the last writer, and checks the merged size only. -/
theorem sources_merge_by_last_writer {fs : FileSystem} {env : Environment} {sources : List Source}
    (listsNames : fs.ListsNames) (loads : ∀ s ∈ sources, s.Loads fs env)
    (parsed : ∀ s ∈ sources, ∀ p d, s.Reaches fs p → SourceDocument.ofFile fs env p = .ok d →
      ∃ o, Overrides.ofText d.text = .ok o) :
    ∃ docs s, LoadOrder fs env sources docs ∧
      (∀ k : Setting, k.LastWritten docs (s.get k)) ∧
      Settings.ofSources fs env sources =
        if 0 < s.queueCapacity then .ok s else .error .zeroCapacity := by
  obtain ⟨docs, loaded, order⟩ := load_eq_ok listsNames loads
  have readable : ∀ d ∈ docs, ∃ o, Overrides.ofText d.text = .ok o := by
    obtain ⟨paths, lists, each⟩ := order
    intro d member
    obtain ⟨p, among, read⟩ := exists_recorded each member
    obtain ⟨listed, found, inside⟩ := List.mem_flatten.mp among
    obtain ⟨s, given, lists⟩ := exists_recorded lists found
    exact parsed s given p d (lists.reaches inside) read
  obtain ⟨os, results, written⟩ := Settings.merge_lastWritten readable
  refine ⟨docs, Settings.merge os, order, written, ?_⟩
  rw [Settings.ofSources_eq_check loaded results]
  rfl

theorem eq_ok_of_toOption {ε α : Type} {r : Except ε α} {a : α} (some : r.toOption = some a) :
    r = .ok a := by
  cases r with
  | error e => simp [Except.toOption] at some
  | ok b => simpa [Except.toOption] using some

/-- The first file of a directory asks for a queue without slots and is overridden by the second,
which has a null leaf and an empty section besides. -/
theorem zero_overridden_in_a_directory :
    let text := Text.Utf8.encode
    let dir : Path := text "d"
    let entries : List DirectoryEntry :=
      [⟨text "b.yaml", true⟩, ⟨text "x.txt", true⟩, ⟨text "a.yml", true⟩]
    let fs : FileSystem :=
      { content := fun p =>
          if p = text "d/a.yml" then
            .ok (text "failure_handling:\n  queue_capacity: 0\nmetrics:\n  enabled: false\n")
          else if p = text "d/b.yaml" then
            .ok (text "failure_handling:\n  queue_capacity: $N\n  submit_processing_failures:\nmetrics:\n")
          else .error .notFound
        listing := fun p => if p = dir then .ok entries else .error .notFound }
    let env : Environment := ⟨fun name => if name = "N" then some (text "7") else none⟩
    let merged : Settings := { queueCapacity := 7, metricsEnabled := false }
    fs.ListsNames ∧ Source.Loads fs env ⟨.directory, dir⟩ ∧
      Settings.ofSources fs env [⟨.directory, dir⟩] = .ok merged ∧
      ∃ docs, LoadOrder fs env [⟨.directory, dir⟩] docs ∧
        ∀ k : Setting, k.LastWritten docs (merged.get k) := by
  intro text dir entries fs env merged
  let a : SourceDocument :=
    ⟨dir.entry (text "a.yml"), "failure_handling:\n  queue_capacity: 0\nmetrics:\n  enabled: false\n"⟩
  let b : SourceDocument := ⟨dir.entry (text "b.yaml"),
    "failure_handling:\n  queue_capacity: 7\n  submit_processing_failures:\nmetrics:\n"⟩
  obtain ⟨isName, chosen, backward, loadedA, loadedB⟩ :
      (∀ e ∈ entries, e.name ≠ [] ∧ Path.slash ∉ e.name ∧ e.name ≠ [Path.dot] ∧
        e.name ≠ [Path.dot, Path.dot]) ∧
      (∀ e ∈ entries, (dir.entry e.name).isYaml = true →
        dir.entry e.name = a.path ∨ dir.entry e.name = b.path) ∧
      (compare b.path.key a.path.key).isLE = false ∧
      (SourceDocument.ofFile fs env a.path).toOption = some a ∧
      (SourceDocument.ofFile fs env b.path).toOption = some b := by decide +kernel +revert
  have readA : Overrides.ofText a.text = .ok { queueCapacity := some 0, metricsEnabled := some false } :=
    eq_ok_of_toOption (by decide +kernel)
  have readB : Overrides.ofText b.text = .ok { queueCapacity := some 7 } :=
    eq_ok_of_toOption (by decide +kernel)
  have files : Source.files fs ⟨.directory, dir⟩ = .ok [a.path, b.path] :=
    congrArg Except.ok (mergeSort_pair backward)
  have documents : Source.load fs env [⟨.directory, dir⟩] = .ok [a, b] := by
    have results : Source.results fs env ⟨.directory, dir⟩ = [a, b].map .ok := by
      simp only [Source.results, files, List.map_cons, eq_ok_of_toOption loadedA,
        eq_ok_of_toOption loadedB]
      rfl
    rw [Source.load, List.flatMap_singleton, results, collect_ok]
  have result : Settings.ofSources fs env [⟨.directory, dir⟩] = .ok merged := by
    have overrides : [a, b].map (SourceDocument.parse Overrides.ofText) =
        [{ queueCapacity := some 0, metricsEnabled := some false }, { queueCapacity := some 7 }].map .ok := by
      simp only [List.map_cons, SourceDocument.parse, readA, readB]
      rfl
    rw [Settings.ofSources_eq_check documents overrides]
    rfl
  have listing {p : Path} {listed : List DirectoryEntry} (found : fs.listing p = .ok listed) :
      p = dir ∧ listed = entries := by
    by_cases own : p = dir
    · simp only [fs, own, if_true, Except.ok.injEq] at found
      exact ⟨own, found.symm⟩
    · simp [fs, own] at found
  have listsNames : fs.ListsNames := by
    intro p listed found e member
    obtain ⟨-, rfl⟩ := listing found
    obtain ⟨nonempty, slashless, notCurrent, notParent⟩ := isName e member
    exact ⟨nonempty, slashless, notCurrent, notParent⟩
  have each : ∀ p, Source.Reaches fs ⟨.directory, dir⟩ p →
      ∃ d, SourceDocument.ofFile fs env p = .ok d ∧ ∃ o, Overrides.ofText d.text = .ok o := by
    intro p reaches
    cases reaches with
    | @entry _ listed e found member _ yaml =>
      obtain ⟨-, rfl⟩ := listing found
      rcases chosen e member yaml with first | second
      · rw [first]
        exact ⟨a, eq_ok_of_toOption loadedA, _, readA⟩
      · rw [second]
        exact ⟨b, eq_ok_of_toOption loadedB, _, readB⟩
  have loads : Source.Loads fs env ⟨.directory, dir⟩ :=
    ⟨fun _ => ⟨entries, by simp [fs]⟩, fun p reaches => (each p reaches).imp fun _ both => both.1⟩
  have parsed : ∀ s ∈ [(⟨.directory, dir⟩ : Source)], ∀ p d, s.Reaches fs p →
      SourceDocument.ofFile fs env p = .ok d → ∃ o, Overrides.ofText d.text = .ok o := by
    intro s member p d reaches read
    rw [List.mem_singleton.mp member] at reaches
    obtain ⟨own, loaded, parsed⟩ := each p reaches
    rw [loaded] at read
    exact Except.ok.inj read ▸ parsed
  obtain ⟨docs, s, order, written, outcome⟩ :=
    sources_merge_by_last_writer listsNames (by simpa using loads) parsed
  have same : s = merged := by
    rw [result] at outcome
    split at outcome
    · exact (Except.ok.inj outcome).symm
    · cases outcome
  exact ⟨listsNames, loads, result, docs, order, same ▸ written⟩

end FailureIntake.Config
