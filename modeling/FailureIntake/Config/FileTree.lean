import FailureIntake.Config.FileSystem

/-! File systems given as the files and directories below a working directory. Nothing is known of
the directories around it but that they exist. -/
namespace FailureIntake.Config

/-- Files with their contents, and further directories, by the names on the way to them. -/
structure FileTree where
  files : List (List Text.Utf8.Octets × Text.Utf8.Octets) := []
  directories : List (List Text.Utf8.Octets) := []

namespace FileTree

/-- The names that lead to where a path ends, and to each place on the way there. Two dots lead one
step back. -/
def walk (p : Path) : List Text.Utf8.Octets × List (List Text.Utf8.Octets) :=
  (Path.parts p).foldl (fun (here, visited) part =>
    if part = [] ∨ part = [Path.dot] then (here, visited)
    else if part = [Path.dot, Path.dot] then (here.dropLast, visited)
    else (here ++ [part], (here ++ [part]) :: visited)) ([], [])

/-- Makes a directory and those on the way to it. -/
def makeDirectory (t : FileTree) (p : Path) : FileTree :=
  { t with directories := (walk p).2 ++ t.directories }

/-- Writes a file, whose earlier content is lost, and makes the directories on the way to it. -/
def write (t : FileTree) (p : Path) (content : Text.Utf8.Octets) : FileTree :=
  let (place, visited) := walk p
  { files := (place, content) :: t.files.filter (·.1 ≠ place)
    directories := visited.filter (· ≠ place) ++ t.directories }

inductive Location where
  | directory (names : List Text.Utf8.Octets)
  | file (content : Text.Utf8.Octets)
  /-- A directory this many levels above the working directory. -/
  | above (levels : Nat)

/-- A directory exists if it was made or if something lies below it. -/
def hasDirectory (t : FileTree) (names : List Text.Utf8.Octets) : Bool :=
  names.isEmpty || t.directories.any names.isPrefixOf ||
    t.files.any fun f => names.isPrefixOf f.1 && names ≠ f.1

/-- The most octets of a name, and of a whole path. -/
def maxNameLength : Nat := 255

def maxPathLength : Nat := 4095

def step (t : FileTree) (l : Location) (part : Text.Utf8.Octets) : Except FileError Location :=
  match l with
  | .file _ => .error .notADirectory
  | .above n =>
    if part = [] ∨ part = [Path.dot] then .ok l
    else if part = [Path.dot, Path.dot] then .ok (.above (n + 1))
    else if maxNameLength < part.length then .error .nameTooLong
    else .error .notFound
  | .directory names =>
    if part = [] ∨ part = [Path.dot] then .ok l
    else if part = [Path.dot, Path.dot] then
      .ok (if names.isEmpty then .above 1 else .directory names.dropLast)
    else if maxNameLength < part.length then .error .nameTooLong
    else
      let names := names ++ [part]
      match t.files.lookup names with
      | some content => .ok (.file content)
      | none => if t.hasDirectory names then .ok (.directory names) else .error .notFound

def locate (t : FileTree) (p : Path) : Except FileError Location :=
  if p.contains 0 then .error .nulInName
  else if p = [] ∨ p.head? = some Path.slash then .error .notFound
  else if maxPathLength < p.length then .error .nameTooLong
  else (Path.parts p).foldlM t.step (.directory [])

def entries (t : FileTree) (names : List Text.Utf8.Octets) : List DirectoryEntry :=
  let next (path : List Text.Utf8.Octets) : Option Text.Utf8.Octets :=
    if names.isPrefixOf path then path[names.length]? else none
  let below := (t.files.map Prod.fst ++ t.directories).filterMap next
  below.eraseDups.map fun n => ⟨n, (t.files.lookup (names ++ [n])).isSome⟩

def fileSystem (t : FileTree) : FileSystem where
  content p :=
    match t.locate p with
    | .ok (.file content) => .ok content
    | .ok _ => .error .isADirectory
    | .error e => .error e
  listing p :=
    match t.locate p with
    | .ok (.directory names) => .ok (t.entries names)
    | .ok (.above _) => .ok []
    | .ok (.file _) => .error .notADirectory
    | .error e => .error e

end FileTree

end FailureIntake.Config
