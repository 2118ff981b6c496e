import FailureIntake.Config.Document
import FailureIntake.Config.Environment
import FailureIntake.Config.FileSystem
import FailureIntake.Config.Interpolation

/-! Sources of configuration: files, and directories of files. All sources are read before anything
is reported, so that every bad one is named. -/
namespace FailureIntake.Config

inductive SourceKind where
  | file
  | directory
deriving DecidableEq, Repr

/-- A file, or a directory whose configuration files are read in the order of their names. -/
structure Source where
  kind : SourceKind
  path : Path
deriving DecidableEq, Repr

namespace Source

/-- Files come before directories, and each in the order of their paths. -/
def key (s : Source) : Nat × List (List Nat) :=
  (match s.kind with
    | .file => 0
    | .directory => 1, s.path.key)

/-- The order of sources. -/
def compare (a b : Source) : Ordering :=
  (Ord.compare a.key.1 b.key.1).then (Ord.compare a.key.2 b.key.2)

def same (a b : Source) : Bool :=
  a.key == b.key

/-- Sorts sources and leaves the same ones in their order. -/
def sort (sources : List Source) : List Source :=
  sources.mergeSort fun a b => (compare a b).isLE

/-- The source of a path: a directory if it leads to one. -/
def detect (fs : FileSystem) (p : Path) : Source :=
  ⟨if fs.isDirectory p then .directory else .file, p⟩

/-- The configuration files of a source, in the order in which they are read. -/
def files (fs : FileSystem) (s : Source) : Except ConfigError (List Path) :=
  match s.kind with
  | .file => .ok [s.path]
  | .directory =>
    match fs.listing s.path with
    | .error e => .error (.unlistableDirectory s.path e.message)
    | .ok entries =>
      let paths := (entries.filter (·.isFile)).map fun e => s.path.entry e.name
      .ok ((paths.filter Path.isYaml).mergeSort fun a b => (Ord.compare a.key b.key).isLE)

end Source

/-- A document and the file that it comes from. Its variables have been replaced. -/
structure SourceDocument where
  path : Path
  text : String
deriving DecidableEq, Repr

namespace SourceDocument

def ofFile (fs : FileSystem) (env : Environment) (p : Path) : Except ConfigError SourceDocument :=
  if !p.isYaml then .error (.unsupportedFormat p)
  else
    match fs.text p with
    | .error e => .error (.unreadableFile p e.message)
    | .ok raw =>
      match interpolate env raw with
      | .error es =>
        .error (.interpolation (String.intercalate "\n" (es.map ReferenceError.message)))
      | .ok text => .ok ⟨p, text⟩

/-- An entry of a report that names the file. -/
def entry (p : Path) (reason : String) : String :=
  p.text ++ ": " ++ reason

/-- Reads the document, and names its file if that fails. -/
def parse {α : Type} (read : String → Except Yaml.ReadError α) (d : SourceDocument) :
    Except String α :=
  (read d.text).mapError fun e => entry d.path e.message

end SourceDocument

/-- The values, if there are no errors, and otherwise the errors. -/
def collect {α : Type} (results : List (Except String α)) : Except ConfigError (List α) :=
  let errors := results.filterMap fun
    | .error e => some e
    | .ok _ => none
  if errors.isEmpty then
    .ok (results.filterMap Except.toOption)
  else .error (.multiple errors)

namespace Source

/-- What each file of a source gives. A directory that cannot be listed gives one error. -/
def results (fs : FileSystem) (env : Environment) (s : Source) :
    List (Except String SourceDocument) :=
  match s.files fs with
  | .error e => [.error e.message]
  | .ok paths => paths.map fun p =>
    (SourceDocument.ofFile fs env p).mapError fun e => SourceDocument.entry p e.message

/-- The documents of all sources in order. -/
def load (fs : FileSystem) (env : Environment) (sources : List Source) :
    Except ConfigError (List SourceDocument) :=
  collect (sources.flatMap (results fs env))

end Source

/-- The settings of all sources, of which later ones override earlier ones, checked. -/
def Settings.ofSources (fs : FileSystem) (env : Environment) (sources : List Source) :
    Except ConfigError Settings := do
  let documents ← Source.load fs env sources
  let overrides ← collect (documents.map (SourceDocument.parse Overrides.ofText))
  (Settings.merge overrides).check

end FailureIntake.Config
