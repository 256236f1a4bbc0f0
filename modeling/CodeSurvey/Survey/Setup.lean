import CodeSurvey.Files.System

/-!
# Setting up

A configuration file to start from, with all settings at their usual values and explained. It is
written where nothing is yet.
-/

namespace CodeSurvey

def configTemplate : String := "\n".intercalate [
  "# codelens configuration",
  "version: \"1\"",
  "",
  "# Glob patterns for paths to skip (matched against the path relative to the",
  "# scanned root).",
  "excluded_paths:",
  "  - \"**/dist/**\"",
  "  - \"**/build/**\"",
  "  - \"**/*.min.js\"",
  "",
  "# Files larger than this many bytes are not analyzed.",
  "max_file_bytes: 1048576",
  "",
  "# Descend into directories whose name starts with a dot.",
  "include_hidden: false",
  "",
  "# Whole-file complexity above \x60medium\x60 is reported as medium, above \x60high\x60",
  "# as high.",
  "complexity:",
  "  medium: 10",
  "  high: 20",
  "",
  "security:",
  "  enabled: true",
  "",
  "# Minimum health score (0-100). \x60codelens analyze\x60 exits with status 1 below it.",
  "threshold: 60",
  ""]

inductive SetupError where
  | present (path : String)
  | noDirectory (error : FileError)
  | notWritten (error : FileError)
deriving DecidableEq

def SetupError.message : SetupError → String
  | present path => "file already exists: " ++ path
  | noDirectory error => "failed to create directory: " ++ error.message
  | notWritten error => "failed to write config: " ++ error.message

def SetupError.advice : SetupError → Option String
  | present _ => some "Remove it or use --output to specify a different path"
  | _ => none

def neededDirectory? (path : String) : Option String :=
  (Path.parent? path).filter fun d => !(Path.parts d).isEmpty && Path.parts d != [.here]

/-- Write the template to a path. Directories made for it stay even if it cannot be written. -/
def setUp (fs : FileSystem) (path : String) : Except SetupError Unit × FileSystem :=
  if fs.isPresent path then (.error (.present path), fs)
  else
    match (neededDirectory? path).elim (.ok fs) fs.makeDirectories with
    | .error e => (.error (.noDirectory e), fs)
    | .ok fs =>
      match fs.write path configTemplate.toUTF8 with
      | .error e => (.error (.notWritten e), fs)
      | .ok fs => (.ok (), fs)

end CodeSurvey
