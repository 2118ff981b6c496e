import FailureIntake.Proofs.Config.Extension
import FailureIntake.Proofs.Config.Reporting

/-! The order in which a system lists a directory. It is free to choose it, and nothing that is loaded
depends on the choice: the files of a directory are those with a YAML name, in the order of their
names. -/
namespace FailureIntake.Config

namespace Path

theorem isYaml_entry (dir : Path) {name : Text.Utf8.Octets} (isName : IsEntryName name) :
    (dir.entry name).isYaml = true ↔ IsYamlName name := by
  obtain ⟨above, components⟩ := components_entry dir
  refine isYaml_iff_of_fileName? ?_
  rw [fileName?, components name isName, List.getLast?_concat]

end Path

/-- The same files with the same contents. A directory is listed with the same entries, but they may
come in another order. -/
structure FileSystem.Relists (fs other : FileSystem) : Prop where
  content : other.content = fs.content
  entries : ∀ dir entries, fs.listing dir = .ok entries →
    ∃ shuffled, other.listing dir = .ok shuffled ∧ shuffled.Perm entries
  refused : ∀ dir reason, fs.listing dir = .error reason → other.listing dir = .error reason

namespace FileSystem.Relists

variable {fs other : FileSystem}

theorem listsNames (relists : fs.Relists other) (names : fs.ListsNames) : other.ListsNames := by
  intro dir shuffled found e member
  cases listing : fs.listing dir with
  | error reason => cases found.symm.trans (relists.refused dir reason listing)
  | ok entries =>
    obtain ⟨_, same, perm⟩ := relists.entries dir entries listing
    cases found.symm.trans same
    exact names dir entries listing e (perm.mem_iff.mp member)

/-- Names in order are the same list if they are the same names. -/
theorem files_eq (relists : fs.Relists other) (names : fs.ListsNames) (s : Source) :
    s.files other = s.files fs := by
  obtain ⟨_ | _, dir⟩ := s
  · rfl
  · cases listing : fs.listing dir with
    | error reason => simp only [Source.files, listing, relists.refused dir reason listing]
    | ok entries =>
      obtain ⟨shuffled, again, perm⟩ := relists.entries dir entries listing
      obtain ⟨paths, read, lists⟩ :=
        Source.files_lists (s := ⟨.directory, dir⟩) names fun _ => ⟨entries, listing⟩
      obtain ⟨paths', read', lists'⟩ := Source.files_lists (s := ⟨.directory, dir⟩)
        (relists.listsNames names) fun _ => ⟨shuffled, again⟩
      cases lists with
      | directory same chosen sorted =>
        cases listing.symm.trans same
        cases lists' with
        | directory same' chosen' sorted' =>
          cases again.symm.trans same'
          have together := chosen'.trans (((perm.filter _).map _).trans chosen.symm)
          have equal := together.eq_of_pairwise (fun a b _ _ => List.le_antisymm) sorted' sorted
          rw [read, read', equal]

theorem results_eq (relists : fs.Relists other) (names : fs.ListsNames) (env : Environment) :
    Source.results other env = Source.results fs env := by
  have ofFile : SourceDocument.ofFile other env = SourceDocument.ofFile fs env := by
    funext p
    simp only [SourceDocument.ofFile, FileSystem.text, relists.content]
  funext s
  rw [Source.results, Source.results, relists.files_eq names, ofFile]

theorem load_eq (relists : fs.Relists other) (names : fs.ListsNames) (env : Environment) :
    Source.load other env = Source.load fs env := by
  funext sources
  rw [Source.load, Source.load, relists.results_eq names]

end FileSystem.Relists

theorem paths_of_load {fs : FileSystem} {env : Environment} {s : Source} {paths : List Path}
    {docs : List SourceDocument} (files : s.files fs = .ok paths)
    (loaded : Source.load fs env [s] = .ok docs) : docs.map (·.path) = paths := by
  have results : [s].flatMap (Source.results fs env) =
      paths.map fun p => (Place.file p).outcome fs env := by
    rw [List.flatMap_singleton, Source.results, files]
    rfl
  rw [Source.load, results] at loaded
  rcases collect_map (fun p => (Place.file p).outcome fs env) paths with
    ⟨values, each, collected⟩ | ⟨entries, _, _, collected⟩
  · cases loaded.symm.trans collected
    rw [← List.forall₂_eq_eq_eq, List.forall₂_map_left_iff]
    refine each.flip.imp fun d p given => ?_
    cases Place.gives_of_ok given with
    | file => rfl
  · cases loaded.symm.trans collected

/-- A system that lists its directories in another order gives the same documents, or the same report,
and the same settings. The files of a directory are the regular files with a YAML name, each once and
by their names. -/
theorem listing_order_is_immaterial {fs other : FileSystem} (listsNames : fs.ListsNames)
    (listsOnce : fs.ListsOnce) (relists : fs.Relists other) (env : Environment) :
    (∀ sources, Source.load other env sources = Source.load fs env sources ∧
        Settings.ofSources other env sources = Settings.ofSources fs env sources) ∧
      ∀ dir entries, fs.listing dir = .ok entries → ∃ names : List Text.Utf8.Octets,
        names.Pairwise (· < ·) ∧
          (∀ name, name ∈ names ↔ ⟨name, true⟩ ∈ entries ∧ Path.IsYamlName name) ∧
          Source.files fs ⟨.directory, dir⟩ = .ok (names.map dir.entry) ∧
          ∀ docs, Source.load fs env [⟨.directory, dir⟩] = .ok docs →
            docs.map (·.path) = names.map dir.entry := by
  have load := relists.load_eq listsNames env
  refine ⟨fun sources => ⟨by rw [load], by rw [Settings.ofSources, load, Settings.ofSources]⟩, ?_⟩
  intro dir entries listing
  obtain ⟨names, files, chosen, strict⟩ := Source.exists_names listsNames listsOnce listing
  refine ⟨names, strict, fun name => ?_, files, fun docs => paths_of_load files⟩
  have isName {e : DirectoryEntry} (present : e ∈ entries) := listsNames dir entries listing e present
  rw [chosen]
  constructor
  · rintro ⟨e, present, rfl, isFile, yaml⟩
    exact ⟨isFile ▸ present, (Path.isYaml_entry dir (isName present)).mp yaml⟩
  · rintro ⟨present, yaml⟩
    exact ⟨_, present, rfl, rfl, (Path.isYaml_entry dir (isName present)).mpr yaml⟩

/-- Two files, between them a directory with a YAML name, and a file without anything in front of
its extension. -/
theorem directory_listed_backwards :
    let text := Text.Utf8.encode
    let dir : Path := text "d"
    let entries : List DirectoryEntry :=
      [⟨text "b.yaml", true⟩, ⟨text "s.yaml", false⟩, ⟨text ".yml", true⟩, ⟨text "a.yml", true⟩]
    let system (entries : List DirectoryEntry) : FileSystem :=
      { content := fun _ => .ok (text "metrics:\n")
        listing := fun p => if p = dir then .ok entries else .error .notFound }
    let env : Environment := ⟨fun _ => none⟩
    let docs : List SourceDocument := [⟨text "d/a.yml", "metrics:\n"⟩, ⟨text "d/b.yaml", "metrics:\n"⟩]
    (system entries).ListsNames ∧ (system entries).ListsOnce ∧
      (system entries).Relists (system entries.reverse) ∧
      Source.load (system entries.reverse) env [⟨.directory, dir⟩] = .ok docs ∧
      ∃ names : List Text.Utf8.Octets, names.Pairwise (· < ·) ∧
        (∀ name, name ∈ names ↔ ⟨name, true⟩ ∈ entries ∧ Path.IsYamlName name) ∧
        docs.map (·.path) = names.map dir.entry := by
  intro text dir entries system env docs
  let fs := system entries
  obtain ⟨isName, once, backward, read⟩ :
      (∀ e ∈ entries, e.name ≠ [] ∧ Path.slash ∉ e.name ∧ e.name ≠ [Path.dot] ∧
        e.name ≠ [Path.dot, Path.dot]) ∧
      (entries.map (·.name)).Nodup ∧
      (compare (dir.entry (text "b.yaml")).key (dir.entry (text "a.yml")).key).isLE = false ∧
      [Place.file (dir.entry (text "a.yml")), .file (dir.entry (text "b.yaml"))].map
        (Place.outcome fs env) = docs.map .ok := by
    decide +kernel +revert
  have listing {p : Path} {listed : List DirectoryEntry} (found : fs.listing p = .ok listed) :
      p = dir ∧ listed = entries := by
    by_cases own : p = dir
    · simpa [fs, system, own, eq_comm] using found
    · simp [fs, system, own] at found
  have listsNames : fs.ListsNames := by
    intro p listed found e member
    rw [(listing found).2] at member
    obtain ⟨nonempty, slashless, notCurrent, notParent⟩ := isName e member
    exact ⟨nonempty, slashless, notCurrent, notParent⟩
  have listsOnce : fs.ListsOnce := by
    intro p listed found
    rw [(listing found).2]
    exact once
  have relists : fs.Relists (system entries.reverse) := by
    refine ⟨rfl, fun p listed found => ?_, fun p reason refused => ?_⟩
    · obtain ⟨rfl, rfl⟩ := listing found
      exact ⟨entries.reverse, by simp [system], List.reverse_perm entries⟩
    · by_cases own : p = dir
      · simp [fs, system, own] at refused
      · simpa [fs, system, own] using refused
  have loaded : Source.load fs env [⟨.directory, dir⟩] = .ok docs := by
    have files : Source.files fs ⟨.directory, dir⟩ =
        .ok [dir.entry (text "a.yml"), dir.entry (text "b.yaml")] :=
      congrArg Except.ok (mergeSort_pair backward)
    have results : Source.results fs env ⟨.directory, dir⟩ = docs.map .ok := by
      rw [Source.results, files]
      exact read
    rw [Source.load, List.flatMap_singleton, results, collect_ok]
  obtain ⟨same, directories⟩ := listing_order_is_immaterial listsNames listsOnce relists env
  obtain ⟨names, strict, chosen, _, paths⟩ := directories dir entries (by simp [fs, system])
  exact ⟨listsNames, listsOnce, relists, (same _).1.trans loaded, names, strict, chosen, paths docs loaded⟩

end FailureIntake.Config
