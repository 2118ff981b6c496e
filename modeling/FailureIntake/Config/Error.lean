import FailureIntake.Text.Utf8

/-! Why a configuration cannot be had. -/
namespace FailureIntake.Config

/-- An error of reading, interpolating, parsing or checking a configuration. -/
inductive ConfigError where
  | interpolation (reasons : String)
  | yaml (reason : String)
  | unreadableFile (path : Text.Utf8.Octets) (reason : String)
  | unlistableDirectory (path : Text.Utf8.Octets) (reason : String)
  | unsupportedFormat (path : Text.Utf8.Octets)
  | zeroCapacity
  /-- One entry for each source or document that is bad, in order. -/
  | multiple (entries : List String)
deriving DecidableEq, Repr

/-- The text of the error. Paths are shown with U+FFFD for what is not UTF-8. -/
def ConfigError.message : ConfigError → String
  | .interpolation reasons => "Environment variable interpolation failed:\n" ++ reasons
  | .yaml reason => "Failed to parse YAML: " ++ reason
  | .unreadableFile path reason => "Failed to read " ++ Text.Utf8.decodeLossy path ++ ": " ++ reason
  | .unlistableDirectory path reason =>
    "Failed to read directory " ++ Text.Utf8.decodeLossy path ++ ": " ++ reason
  | .unsupportedFormat path =>
    "Unsupported config format for " ++ Text.Utf8.decodeLossy path ++ ": only .yaml/.yml supported"
  | .zeroCapacity => "Failure queue capacity must be greater than zero"
  | .multiple entries => "Multiple config errors:\n" ++ String.intercalate "\n" entries

end FailureIntake.Config
