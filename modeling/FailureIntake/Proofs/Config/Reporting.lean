import FailureIntake.Proofs.Config.Merging

/-! Loading is all or nothing. Each source leads to places: files, and directories that cannot be
listed. Either every place gives its document, or the report has one entry for each place at fault,
in the order of the places, and there are no documents. -/
namespace FailureIntake.Config

/-- The entries of a report: one for each input at fault, in order, and none for the others. -/
inductive FaultReport {α : Type} (sound : α → Prop) (fault : α → String → Prop) :
    List α → List String → Prop where
  | nil : FaultReport sound fault [] []
  | sound {x : α} {rest : List α} {entries : List String} :
      sound x → FaultReport sound fault rest entries → FaultReport sound fault (x :: rest) entries
  | fault {x : α} {rest : List α} {entry : String} {entries : List String} :
      fault x entry → FaultReport sound fault rest entries →
        FaultReport sound fault (x :: rest) (entry :: entries)

section Collect

variable {α β : Type} {f : α → Except String β} {xs : List α} {entries : List String}

theorem FaultReport.imp {sound sound' : α → Prop} {fault fault' : α → String → Prop}
    (report : FaultReport sound fault xs entries) (sounds : ∀ x, sound x → sound' x)
    (faults : ∀ x entry, fault x entry → fault' x entry) : FaultReport sound' fault' xs entries := by
  induction report with
  | nil => exact .nil
  | sound good _ ih => exact .sound (sounds _ good) ih
  | fault bad _ ih => exact .fault (faults _ _ bad) ih

theorem FaultReport.eq_nil_iff {sound : α → Prop} {fault : α → String → Prop}
    (report : FaultReport sound fault xs entries) (exclusive : ∀ x entry, fault x entry → ¬ sound x) :
    entries = [] ↔ ∀ x ∈ xs, sound x := by
  induction report with
  | nil => simp
  | sound good _ ih => simp [ih, good]
  | fault bad _ ih => simp [exclusive _ _ bad]

theorem collect_eq (f : α → Except String β) (xs : List α) :
    ∃ errors, FaultReport (fun x => ∃ b, f x = .ok b) (fun x entry => f x = .error entry) xs errors ∧
      collect (xs.map f) = if errors.isEmpty then .ok ((xs.map f).filterMap Except.toOption)
        else .error (.multiple errors) := by
  unfold collect
  refine ⟨_, ?_, rfl⟩
  induction xs with
  | nil => exact .nil
  | cons x rest ih =>
    rw [List.map_cons, List.filterMap_cons]
    cases given : f x with
    | error entry => exact .fault given ih
    | ok b => exact .sound ⟨b, given⟩ ih

/-- What is collected: all values, or the report of all errors. -/
theorem collect_map (f : α → Except String β) (xs : List α) :
    (∃ values, List.Forall₂ (fun x b => f x = .ok b) xs values ∧ collect (xs.map f) = .ok values) ∨
    ∃ entries, entries ≠ [] ∧
      FaultReport (fun x => ∃ b, f x = .ok b) (fun x entry => f x = .error entry) xs entries ∧
      collect (xs.map f) = .error (.multiple entries) := by
  obtain ⟨errors, report, collected⟩ := collect_eq f xs
  have exclusive : ∀ x entry, f x = .error entry → ¬ ∃ b, f x = .ok b := by
    intro x entry bad good
    simp [bad] at good
  by_cases all : ∀ x ∈ xs, ∃ b, f x = .ok b
  · obtain ⟨values, each⟩ := exists_records all
    have results : xs.map f = values.map .ok := by
      rw [← List.forall₂_eq_eq_eq, List.forall₂_map_left_iff, List.forall₂_map_right_iff]
      exact each
    exact .inl ⟨values, each, by rw [results, collect_ok]⟩
  · have some : errors ≠ [] := mt (report.eq_nil_iff exclusive).mp all
    exact .inr ⟨errors, some, report, by simpa [some] using collected⟩

end Collect

/-- What a source leads to: a file, or a directory that cannot be listed. -/
inductive Place where
  | file (p : Path)
  | unlisted (dir : Path) (reason : FileError)

namespace Place

variable {fs : FileSystem} {env : Environment} {place : Place}

/-- The document of a file, with its path and its text after interpolation. -/
inductive Gives (fs : FileSystem) (env : Environment) : Place → SourceDocument → Prop where
  | file {p : Path} {raw text : String} : p.isYaml = true → fs.text p = .ok raw →
      interpolate env raw = .ok text → Gives fs env (.file p) ⟨p, text⟩

/-- What the report says of a place at fault. All reasons of one file stand in one entry. -/
inductive Fails (fs : FileSystem) (env : Environment) : Place → String → Prop where
  | unlisted {dir : Path} {reason : FileError} : Fails fs env (.unlisted dir reason)
      ("Failed to read directory " ++ dir.text ++ ": " ++ reason.message)
  | unsupported {p : Path} : p.isYaml = false → Fails fs env (.file p)
      (p.text ++ ": " ++ ("Unsupported config format for " ++ p.text ++ ": only .yaml/.yml supported"))
  | unreadable {p : Path} {reason : FileError} : p.isYaml = true → fs.text p = .error reason →
      Fails fs env (.file p) (p.text ++ ": " ++ ("Failed to read " ++ p.text ++ ": " ++ reason.message))
  | unresolved {p : Path} {raw : String} {reasons : List ReferenceError} : p.isYaml = true →
      fs.text p = .ok raw → interpolate env raw = .error reasons →
      Fails fs env (.file p) (p.text ++ ": " ++ ("Environment variable interpolation failed:\n" ++
        String.intercalate "\n" (reasons.map ReferenceError.message)))

def outcome (fs : FileSystem) (env : Environment) : Place → Except String SourceDocument
  | .file p => (SourceDocument.ofFile fs env p).mapError fun e => SourceDocument.entry p e.message
  | .unlisted dir reason => .error (ConfigError.unlistableDirectory dir reason.message).message

/-- A place gives its document or is at fault. -/
theorem outcome_cases (fs : FileSystem) (env : Environment) (place : Place) :
    (∃ d, place.outcome fs env = .ok d ∧ place.Gives fs env d) ∨
      ∃ entry, place.outcome fs env = .error entry ∧ place.Fails fs env entry := by
  cases place with
  | unlisted dir reason => exact .inr ⟨_, rfl, .unlisted⟩
  | file p =>
    simp only [outcome, SourceDocument.ofFile]
    cases yaml : p.isYaml with
    | false => exact .inr ⟨_, rfl, .unsupported yaml⟩
    | true =>
      cases content : fs.text p with
      | error reason => exact .inr ⟨_, rfl, .unreadable yaml content⟩
      | ok raw =>
        cases replaced : interpolate env raw with
        | error reasons =>
          refine .inr ⟨_, ?_, .unresolved yaml content replaced⟩
          simp only [replaced]
          rfl
        | ok text =>
          refine .inl ⟨_, ?_, .file yaml content replaced⟩
          simp only [replaced]
          rfl

theorem Gives.not_fails {d : SourceDocument} (gives : place.Gives fs env d) (entry : String) :
    ¬ place.Fails fs env entry := by
  obtain ⟨yaml, content, replaced⟩ := gives
  intro fails
  cases fails with
  | unsupported other => simp [yaml] at other
  | unreadable _ other => simp [content] at other
  | unresolved _ other unresolved =>
    cases content.symm.trans other
    simp [replaced] at unresolved

theorem fails_of_error {entry : String} (given : place.outcome fs env = .error entry) :
    place.Fails fs env entry := by
  rcases place.outcome_cases fs env with ⟨d, same, _⟩ | ⟨other, same, fails⟩
  · cases given.symm.trans same
  · cases given.symm.trans same
    exact fails

theorem gives_of_ok {d : SourceDocument} (given : place.outcome fs env = .ok d) :
    place.Gives fs env d := by
  rcases place.outcome_cases fs env with ⟨other, same, gives⟩ | ⟨entry, same, _⟩
  · cases given.symm.trans same
    exact gives
  · cases given.symm.trans same

end Place

/-- No directory lists an entry twice. -/
def FileSystem.ListsOnce (fs : FileSystem) : Prop :=
  ∀ dir entries, fs.listing dir = .ok entries → (entries.map (·.name)).Nodup

namespace Source

variable {fs : FileSystem} {env : Environment} {s : Source} {places : List Place}

/-- The places of a source, in the order of loading: the file itself, or the configuration files of
the directory, each once and by their names. -/
inductive Holds (fs : FileSystem) : Source → List Place → Prop where
  | file {p : Path} : Holds fs ⟨.file, p⟩ [.file p]
  | listed {dir : Path} {entries : List DirectoryEntry} {names : List Text.Utf8.Octets} :
      fs.listing dir = .ok entries →
      (∀ name, name ∈ names ↔
        ∃ e ∈ entries, e.name = name ∧ e.isFile = true ∧ (dir.entry name).isYaml = true) →
      names.Pairwise (· < ·) →
      Holds fs ⟨.directory, dir⟩ (names.map fun name => .file (dir.entry name))
  | unlisted {dir : Path} {reason : FileError} : fs.listing dir = .error reason →
      Holds fs ⟨.directory, dir⟩ [.unlisted dir reason]

/-- A directory can be listed, and each file that the source leads to has a known extension, can be
read as text, and has no reference without a value. -/
structure IsSound (fs : FileSystem) (env : Environment) (s : Source) : Prop where
  listed : s.kind = .directory → ∃ entries, fs.listing s.path = .ok entries
  files : ∀ p, s.Reaches fs p →
    p.isYaml = true ∧ ∃ raw text, fs.text p = .ok raw ∧ interpolate env raw = .ok text

/-- A source is sound if all its places give their documents. -/
theorem Holds.isSound_iff (holds : s.Holds fs places) :
    s.IsSound fs env ↔ ∀ place ∈ places, ∃ d, place.Gives fs env d := by
  constructor
  · intro sound place member
    have gives {p : Path} (reaches : s.Reaches fs p) : ∃ d, (Place.file p).Gives fs env d := by
      obtain ⟨yaml, raw, text, content, replaced⟩ := sound.files p reaches
      exact ⟨_, .file yaml content replaced⟩
    cases holds with
    | file =>
      rw [List.mem_singleton.mp member]
      exact gives .file
    | listed listing chosen _ =>
      obtain ⟨name, among, rfl⟩ := List.mem_map.mp member
      obtain ⟨e, present, rfl, isFile, yaml⟩ := (chosen name).mp among
      exact gives (.entry listing present isFile yaml)
    | unlisted refused =>
      obtain ⟨entries, listing⟩ := sound.listed rfl
      cases refused.symm.trans listing
  · intro each
    have read {p : Path} (member : Place.file p ∈ places) :
        p.isYaml = true ∧ ∃ raw text, fs.text p = .ok raw ∧ interpolate env raw = .ok text := by
      obtain ⟨d, yaml, content, replaced⟩ := each _ member
      exact ⟨yaml, _, _, content, replaced⟩
    cases holds with
    | file =>
      refine ⟨nofun, fun p reaches => ?_⟩
      cases reaches
      exact read (.head _)
    | listed listing chosen _ =>
      refine ⟨fun _ => ⟨_, listing⟩, fun p reaches => ?_⟩
      cases reaches with
      | entry same present isFile yaml =>
        cases listing.symm.trans same
        exact read (List.mem_map_of_mem ((chosen _).mpr ⟨_, present, rfl, isFile, yaml⟩))
    | unlisted _ =>
      obtain ⟨d, gives⟩ := each _ (.head _)
      cases gives

/-- The files of a directory are those with a known extension, each once and by their names. -/
theorem exists_names {dir : Path} {entries : List DirectoryEntry} (listsNames : fs.ListsNames)
    (listsOnce : fs.ListsOnce) (listing : fs.listing dir = .ok entries) :
    ∃ names : List Text.Utf8.Octets, files fs ⟨.directory, dir⟩ = .ok (names.map dir.entry) ∧
      (∀ name, name ∈ names ↔
        ∃ e ∈ entries, e.name = name ∧ e.isFile = true ∧ (dir.entry name).isYaml = true) ∧
      names.Pairwise (· < ·) := by
  obtain ⟨paths, read, lists⟩ :=
    files_lists (s := ⟨.directory, dir⟩) listsNames fun _ => ⟨entries, listing⟩
  cases lists with
  | @directory _ found names same chosen sorted =>
    cases listing.symm.trans same
    have distinct : names.Nodup := by
      apply chosen.nodup_iff.mpr
      exact (List.filter_sublist.map _).nodup (listsOnce dir entries listing)
    refine ⟨names, read, fun name => ?_, ?_⟩
    · rw [chosen.mem_iff, List.mem_map]
      constructor
      · rintro ⟨e, kept, rfl⟩
        obtain ⟨present, wanted⟩ := List.mem_filter.mp kept
        exact ⟨e, present, rfl, by simpa using wanted⟩
      · rintro ⟨e, present, rfl, wanted⟩
        exact ⟨e, by simpa using ⟨present, wanted⟩, rfl⟩
    · apply (sorted.and distinct).imp
      rintro a b ⟨le, ne⟩
      exact List.not_le.mp fun ge => ne (List.le_antisymm le ge)

theorem exists_holds (listsNames : fs.ListsNames) (listsOnce : fs.ListsOnce) (env : Environment)
    (s : Source) : ∃ places, s.Holds fs places ∧
      s.results fs env = places.map (Place.outcome fs env) := by
  obtain ⟨_ | _, path⟩ := s
  · exact ⟨[.file path], .file, rfl⟩
  · cases listing : fs.listing path with
    | error reason =>
      refine ⟨_, .unlisted listing, ?_⟩
      simp only [results, files, listing]
      rfl
    | ok entries =>
      obtain ⟨names, read, chosen, strict⟩ := exists_names listsNames listsOnce listing
      refine ⟨_, .listed listing chosen strict, ?_⟩
      simp only [results, read, List.map_map]
      rfl

/-- The places of all sources in order, and what loading collects from them. -/
theorem exists_places (listsNames : fs.ListsNames) (listsOnce : fs.ListsOnce) (env : Environment)
    (sources : List Source) : ∃ places, List.Forall₂ (Source.Holds fs) sources places ∧
      load fs env sources = collect (places.flatten.map (Place.outcome fs env)) := by
  have results : ∃ places, List.Forall₂ (Source.Holds fs) sources places ∧
      sources.flatMap (results fs env) = places.flatten.map (Place.outcome fs env) := by
    induction sources with
    | nil => exact ⟨[], .nil, rfl⟩
    | cons s rest ih =>
      obtain ⟨first, holds, result⟩ := exists_holds listsNames listsOnce env s
      obtain ⟨later, others, results⟩ := ih
      refine ⟨first :: later, .cons holds others, ?_⟩
      rw [List.flatMap_cons, result, results, List.flatten_cons, List.map_append]
  obtain ⟨places, holds, results⟩ := results
  exact ⟨places, holds, by rw [load, results]⟩

theorem all_isSound_iff {sources : List Source} {places : List (List Place)}
    (holds : List.Forall₂ (Source.Holds fs) sources places) :
    (∀ s ∈ sources, s.IsSound fs env) ↔ ∀ place ∈ places.flatten, ∃ d, place.Gives fs env d := by
  induction holds with
  | nil => simp
  | cons first _ ih =>
    rw [List.forall_mem_cons, first.isSound_iff, ih, List.flatten_cons, List.forall_mem_append]

end Source

/-- Loading gives the documents of all places in order. If one of them is at fault it gives no document
but a report of the ones that are. -/
theorem loading_is_all_or_nothing {fs : FileSystem} (listsNames : fs.ListsNames)
    (listsOnce : fs.ListsOnce) (env : Environment) (sources : List Source) :
    ((∃ docs, Source.load fs env sources = .ok docs) ↔ ∀ s ∈ sources, s.IsSound fs env) ∧
      ∃ places, List.Forall₂ (Source.Holds fs) sources places ∧
        (∀ docs, Source.load fs env sources = .ok docs →
          List.Forall₂ (Place.Gives fs env) places.flatten docs) ∧
        ∀ e, Source.load fs env sources = .error e →
          ∃ entries, e = .multiple entries ∧ entries ≠ [] ∧
            FaultReport (fun place => ∃ d, place.Gives fs env d) (Place.Fails fs env)
              places.flatten entries := by
  obtain ⟨places, holds, loaded⟩ := Source.exists_places listsNames listsOnce env sources
  rw [loaded, Source.all_isSound_iff holds]
  rcases collect_map (Place.outcome fs env) places.flatten with
    ⟨docs, each, collected⟩ | ⟨entries, some, outcomes, collected⟩
  · have gives : List.Forall₂ (Place.Gives fs env) places.flatten docs :=
      each.imp fun _ _ => Place.gives_of_ok
    rw [collected]
    refine ⟨⟨fun _ place member => ?_, fun _ => ⟨docs, rfl⟩⟩, places, holds, ?_, nofun⟩
    · obtain ⟨d, _, given⟩ := exists_recorded gives.flip member
      exact ⟨d, given⟩
    · rintro _ ⟨⟩
      exact gives
  · have report : FaultReport (fun place => ∃ d, place.Gives fs env d) (Place.Fails fs env)
        places.flatten entries :=
      outcomes.imp (fun _ ⟨d, given⟩ => ⟨d, Place.gives_of_ok given⟩) fun _ _ => Place.fails_of_error
    have unsound : ¬ ∀ place ∈ places.flatten, ∃ d, place.Gives fs env d :=
      mt (report.eq_nil_iff fun place entry fails ⟨_, given⟩ => given.not_fails entry fails).mpr some
    rw [collected]
    refine ⟨⟨nofun, fun all => absurd all unsound⟩, places, holds, nofun, ?_⟩
    rintro _ ⟨⟩
    exact ⟨entries, rfl, some, report⟩

/-- A file with two missing variables, one with another extension, and a directory that is not there. -/
theorem report_of_three_faults :
    let text := Text.Utf8.encode
    let dir : Path := text "d"
    let entries : List DirectoryEntry :=
      [⟨text "b.yaml", true⟩, ⟨text "s.yaml", false⟩, ⟨text "a.yml", true⟩]
    let fs : FileSystem :=
      { content := fun p =>
          if p = text "d/a.yml" then .ok (text "x: 1\n")
          else if p = text "d/b.yaml" then .ok (text "y: $A $B\n")
          else .error .notFound
        listing := fun p => if p = dir then .ok entries else .error .notFound }
    let env : Environment := ⟨fun _ => none⟩
    let sources : List Source :=
      [⟨.directory, dir⟩, ⟨.file, text "n.toml"⟩, ⟨.directory, text "gone"⟩]
    let report :=
      ["d/b.yaml: Environment variable interpolation failed:\n" ++
          "environment variable 'A' is not set\nenvironment variable 'B' is not set",
        "n.toml: Unsupported config format for n.toml: only .yaml/.yml supported",
        "Failed to read directory gone: No such file or directory (os error 2)"]
    fs.ListsNames ∧ fs.ListsOnce ∧ Source.load fs env sources = .error (.multiple report) ∧
      ∃ places, List.Forall₂ (Source.Holds fs) sources places ∧
        FaultReport (fun place => ∃ d, place.Gives fs env d) (Place.Fails fs env) places.flatten report := by
  intro text dir entries fs env sources report
  let a : Path := dir.entry (text "a.yml")
  let b : Path := dir.entry (text "b.yaml")
  obtain ⟨isName, once, backward, documents, others⟩ :
      (∀ e ∈ entries, e.name ≠ [] ∧ Path.slash ∉ e.name ∧ e.name ≠ [Path.dot] ∧
        e.name ≠ [Path.dot, Path.dot]) ∧
      (entries.map (·.name)).Nodup ∧ (compare b.key a.key).isLE = false ∧
      [Place.file a, .file b].map (Place.outcome fs env) =
        [.ok ⟨a, "x: 1\n"⟩, .error report.head!] ∧
      Source.results fs env ⟨.file, text "n.toml"⟩ ++ Source.results fs env ⟨.directory, text "gone"⟩ =
        report.tail.map .error := by
    decide +kernel +revert
  have listing {p : Path} {listed : List DirectoryEntry} (found : fs.listing p = .ok listed) :
      listed = entries := by
    by_cases own : p = dir
    · simpa [fs, own, eq_comm] using found
    · simp [fs, own] at found
  have listsNames : fs.ListsNames := by
    intro p listed found e member
    rw [listing found] at member
    obtain ⟨nonempty, slashless, notCurrent, notParent⟩ := isName e member
    exact ⟨nonempty, slashless, notCurrent, notParent⟩
  have listsOnce : fs.ListsOnce := by
    intro p listed found
    rw [listing found]
    exact once
  have files : Source.files fs ⟨.directory, dir⟩ = .ok [a, b] :=
    congrArg Except.ok (mergeSort_pair backward)
  have loaded : Source.load fs env sources = .error (.multiple report) := by
    have results : sources.flatMap (Source.results fs env) =
        .ok ⟨a, "x: 1\n"⟩ :: report.map .error := by
      have inside : Source.results fs env ⟨.directory, dir⟩ =
          [.ok ⟨a, "x: 1\n"⟩, .error report.head!] := by
        rw [Source.results, files]
        exact documents
      rw [List.flatMap_cons, inside, List.flatMap_cons, List.flatMap_singleton, others]
      rfl
    rw [Source.load, results]
    rfl
  obtain ⟨_, places, holds, _, reports⟩ := loading_is_all_or_nothing listsNames listsOnce env sources
  obtain ⟨_, same, _, faults⟩ := reports _ loaded
  cases same
  exact ⟨listsNames, listsOnce, loaded, places, holds, faults⟩

end FailureIntake.Config
