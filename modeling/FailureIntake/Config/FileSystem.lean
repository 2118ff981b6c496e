import FailureIntake.Config.Path

/-! What a program can see of a file system. -/
namespace FailureIntake.Config

/-- Why a file or a directory cannot be read. -/
inductive FileError where
  | notFound
  | notADirectory
  | isADirectory
  | nameTooLong
  | nulInName
  | notText
  /-- Any other reason, in the words of the system. -/
  | system (text : String)
deriving DecidableEq, Repr

def FileError.message : FileError → String
  | .notFound => "No such file or directory (os error 2)"
  | .notADirectory => "Not a directory (os error 20)"
  | .isADirectory => "Is a directory (os error 21)"
  | .nameTooLong => "File name too long (os error 36)"
  | .nulInName => "file name contained an unexpected NUL byte"
  | .notText => "stream did not contain valid UTF-8"
  | .system text => text

structure DirectoryEntry where
  name : Text.Utf8.Octets
  isFile : Bool
deriving DecidableEq, Repr

structure FileSystem where
  content : Path → Except FileError Text.Utf8.Octets
  /-- The entries of a directory, in any order. -/
  listing : Path → Except FileError (List DirectoryEntry)

namespace FileSystem

def isDirectory (fs : FileSystem) (p : Path) : Bool :=
  (fs.listing p).toBool

def text (fs : FileSystem) (p : Path) : Except FileError String := do
  match Text.Utf8.decode? (← fs.content p) with
  | some s => .ok s
  | none => .error .notText

end FileSystem

end FailureIntake.Config
