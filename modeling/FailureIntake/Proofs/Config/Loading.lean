import FailureIntake.Config.Source
import FailureIntake.Proofs.Config.Siblings
import FailureIntake.Proofs.Pairing
import FailureIntake.Proofs.Sorting

/-! The order of loading. Sources are loaded as they are given, and the files of a directory in the
order of their names, whatever the order in which the system lists them. -/
namespace FailureIntake.Config

/-- Directories list names only, and not themselves or the directory above them. -/
def FileSystem.ListsNames (fs : FileSystem) : Prop :=
  ∀ dir entries, fs.listing dir = .ok entries → ∀ e ∈ entries, Path.IsEntryName e.name

namespace Source

variable {fs : FileSystem} {env : Environment} {s : Source}

/-- The files of a source in the order of loading. -/
inductive Lists (fs : FileSystem) : Source → List Path → Prop where
  | file {p : Path} : Lists fs ⟨.file, p⟩ [p]
  | directory {dir : Path} {entries : List DirectoryEntry} {names : List Text.Utf8.Octets} :
      fs.listing dir = .ok entries →
      names.Perm ((entries.filter fun e => e.isFile && (dir.entry e.name).isYaml).map (·.name)) →
      names.Pairwise (· ≤ ·) →
      Lists fs ⟨.directory, dir⟩ (names.map dir.entry)

theorem files_lists (listsNames : fs.ListsNames)
    (listed : s.kind = .directory → ∃ entries, fs.listing s.path = .ok entries) :
    ∃ paths, s.files fs = .ok paths ∧ s.Lists fs paths := by
  obtain ⟨_ | _, path⟩ := s
  · exact ⟨[path], rfl, .file⟩
  · obtain ⟨entries, listing⟩ := listed rfl
    let names := (entries.filter fun e => e.isFile && (path.entry e.name).isYaml).map (·.name)
    have isName : ∀ name ∈ names, Path.IsEntryName name := by
      intro name member
      obtain ⟨e, among, rfl⟩ := List.mem_map.mp member
      exact listsNames path entries listing e (List.mem_filter.mp among).1
    let byName (a b : Text.Utf8.Octets) : Bool :=
      (Ord.compare (path.entry a).key (path.entry b).key).isLE
    have paths : ((entries.filter (·.isFile)).map fun e => path.entry e.name).filter Path.isYaml =
        names.map path.entry := by
      rw [List.filter_map, List.filter_filter, List.map_map]
      simp only [Function.comp_def, Bool.and_comm]
    have read : (⟨.directory, path⟩ : Source).files fs =
        .ok ((names.mergeSort byName).map path.entry) := by
      simp only [files, listing, paths]
      rw [List.map_mergeSort]
      intro a _ b _
      rfl
    refine ⟨_, read, .directory listing (List.mergeSort_perm _ _) ?_⟩
    apply (pairwise_sort (compareOn fun name => (path.entry name).key) names).imp_of_mem
    intro a b left right le
    rw [List.mem_mergeSort] at left right
    exact (Path.isLE_compare_entry path (isName a left) (isName b right)).mp le

/-- The source leads to the file. -/
inductive Reaches (fs : FileSystem) : Source → Path → Prop where
  | file {p : Path} : Reaches fs ⟨.file, p⟩ p
  | entry {dir : Path} {entries : List DirectoryEntry} {e : DirectoryEntry} :
      fs.listing dir = .ok entries → e ∈ entries → e.isFile = true → (dir.entry e.name).isYaml = true →
      Reaches fs ⟨.directory, dir⟩ (dir.entry e.name)

theorem Lists.reaches {paths : List Path} (lists : s.Lists fs paths) {p : Path} (member : p ∈ paths) :
    s.Reaches fs p := by
  cases lists with
  | file =>
    rw [List.mem_singleton.mp member]
    exact .file
  | directory listing chosen _ =>
    obtain ⟨name, among, rfl⟩ := List.mem_map.mp member
    obtain ⟨e, kept, rfl⟩ := List.mem_map.mp (chosen.mem_iff.mp among)
    obtain ⟨present, wanted⟩ := List.mem_filter.mp kept
    rw [Bool.and_eq_true] at wanted
    exact .entry listing present wanted.1 wanted.2

/-- The source can be listed, if it is a directory, and all its files can be loaded. -/
structure Loads (fs : FileSystem) (env : Environment) (s : Source) : Prop where
  listed : s.kind = .directory → ∃ entries, fs.listing s.path = .ok entries
  loaded : ∀ p, s.Reaches fs p → ∃ d, SourceDocument.ofFile fs env p = .ok d

theorem Loads.results_eq (listsNames : fs.ListsNames) (loads : s.Loads fs env) :
    ∃ paths docs, s.Lists fs paths ∧
      List.Forall₂ (fun p d => SourceDocument.ofFile fs env p = .ok d) paths docs ∧
      s.results fs env = docs.map .ok := by
  obtain ⟨paths, files, lists⟩ := files_lists listsNames loads.listed
  have loaded : ∀ p ∈ paths, ∃ d, SourceDocument.ofFile fs env p = .ok d :=
    fun p member => loads.loaded p (lists.reaches member)
  obtain ⟨docs, each⟩ := exists_records loaded
  refine ⟨paths, docs, lists, each, ?_⟩
  simp only [results, files]
  rw [← List.forall₂_eq_eq_eq, List.forall₂_map_left_iff, List.forall₂_map_right_iff]
  refine each.imp fun p d read => ?_
  rw [read]
  rfl

end Source

/-- The documents of all files, in the order of loading. -/
def LoadOrder (fs : FileSystem) (env : Environment) (sources : List Source)
    (docs : List SourceDocument) : Prop :=
  ∃ paths : List (List Path), List.Forall₂ (Source.Lists fs) sources paths ∧
    List.Forall₂ (fun p d => SourceDocument.ofFile fs env p = .ok d) paths.flatten docs

theorem collect_ok {α : Type} (values : List α) : collect (values.map .ok) = .ok values := by
  simp only [collect, List.filterMap_map, Function.comp_def, Except.toOption]
  simp

/-- Sources that load give their documents in order. -/
theorem load_eq_ok {fs : FileSystem} {env : Environment} {sources : List Source}
    (listsNames : fs.ListsNames) (loads : ∀ s ∈ sources, s.Loads fs env) :
    ∃ docs, Source.load fs env sources = .ok docs ∧ LoadOrder fs env sources docs := by
  have results : ∃ docs, LoadOrder fs env sources docs ∧
      sources.flatMap (Source.results fs env) = docs.map .ok := by
    induction sources with
    | nil => exact ⟨[], ⟨[], .nil, .nil⟩, rfl⟩
    | cons s rest ih =>
      obtain ⟨first, docs, lists, each, result⟩ :=
        (loads s List.mem_cons_self).results_eq listsNames
      obtain ⟨later, ⟨paths, order, others⟩, results⟩ :=
        ih fun t member => loads t (List.mem_cons_of_mem _ member)
      refine ⟨docs ++ later, ⟨first :: paths, .cons lists order, ?_⟩, ?_⟩
      · exact List.rel_append each others
      · rw [List.flatMap_cons, result, results, List.map_append]
  obtain ⟨docs, order, results⟩ := results
  exact ⟨docs, by rw [Source.load, results, collect_ok], order⟩

end FailureIntake.Config
