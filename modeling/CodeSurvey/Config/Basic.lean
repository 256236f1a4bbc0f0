import CodeSurvey.Analysis
import CodeSurvey.Data.JsonFormat
import CodeSurvey.Facts.Encoding
import CodeSurvey.Glob.Matching

/-!
# Configurations

What a survey leaves out, where complexity starts to count, and the score that is asked for. Every
setting has a value of its own when it is not given.
-/

namespace CodeSurvey

structure SecurityConfig where
  enabled : Bool
deriving DecidableEq

structure Config where
  version : String
  /-- Globs of paths that are left out. -/
  excludedPaths : List String
  /-- Larger files are left out. -/
  maxFileBytes : UInt64
  /-- Whether hidden directories are looked into. -/
  includeHidden : Bool
  complexity : ComplexityThresholds
  security : SecurityConfig
  /-- The least score that passes. -/
  threshold : Option UInt32
deriving DecidableEq

/-! ## Reading and writing -/

section
variable {V E : Type}

def ComplexityThresholds.record (f : Format V E) : Record V E ComplexityThresholds :=
  Record.of ComplexityThresholds.mk
    |>.optional "medium" ComplexityThresholds.standard.medium f.signed32
    |>.optional "high" ComplexityThresholds.standard.high f.signed32

def SecurityConfig.standard : SecurityConfig := ⟨true⟩

def SecurityConfig.record (f : Format V E) : Record V E SecurityConfig :=
  Record.of SecurityConfig.mk
    |>.optional "enabled" SecurityConfig.standard.enabled f.boolean

namespace Config

def defaultMaxFileBytes : UInt64 := 1048576

def standard : Config where
  version := ""
  excludedPaths := []
  maxFileBytes := defaultMaxFileBytes
  includeHidden := false
  complexity := .standard
  security := .standard
  threshold := none

def record (f : Format V E) : Record V E Config :=
  Record.of Config.mk
    |>.optional "version" standard.version f.text
    |>.optional "excluded_paths" standard.excludedPaths (f.list f.text)
    |>.optional "max_file_bytes" standard.maxFileBytes f.word64
    |>.optional "include_hidden" standard.includeHidden f.boolean
    |>.optional "complexity" standard.complexity
      (f.record "ComplexityThresholds" (ComplexityThresholds.record f))
    |>.optional "security" standard.security (f.record "SecurityConfig" (SecurityConfig.record f))
    |>.optional "threshold" standard.threshold (f.option f.word32)

end Config
end

def ComplexityThresholds.decode : Json → Except Misfit ComplexityThresholds :=
  Json.readRecord "ComplexityThresholds" (record Json.format)

def SecurityConfig.encode (c : SecurityConfig) : Json := .object [("enabled", .bool c.enabled)]

namespace Config

def decode : Json → Except Misfit Config := Json.readRecord "Config" (record Json.format)

/-- All settings; a threshold that is not given is null. -/
def encode (c : Config) : Json := .object [
  ("version", .string c.version), ("excluded_paths", encodeStrings c.excludedPaths),
  ("max_file_bytes", .number c.maxFileBytes.toNat), ("include_hidden", .bool c.includeHidden),
  ("complexity", c.complexity.encode), ("security", c.security.encode),
  ("threshold", (c.threshold.map fun t => Json.number t.toNat).getD .null)]

/-! ## Sense -/

inductive Fault where
  | complexity (medium high : Int32)
  | threshold (t : UInt32)
  | maxFileBytes
  | excludedPath (pattern : String) (error : GlobError)
deriving DecidableEq

def globMessage (pattern : String) (error : GlobError) : String :=
  "error parsing glob '" ++ pattern ++ "': " ++ error.message

def Fault.message : Fault → String
  | complexity medium high =>
    "invalid complexity thresholds: medium (" ++ toString medium.toInt ++
      ") must be non-negative and below high (" ++ toString high.toInt ++ ")"
  | threshold t => "invalid threshold " ++ toString t.toNat ++ ", must be between 0 and 100"
  | maxFileBytes => "max_file_bytes must be greater than zero"
  | excludedPath pattern error =>
    "invalid excluded_paths pattern " ++ Text.quoted pattern ++ ": " ++ globMessage pattern error

def patternFault? (pattern : String) : Option Fault :=
  match Glob.parse pattern with
  | .ok _ => none
  | .error e => some (.excludedPath pattern e)

def faults (c : Config) : List Fault :=
  let t := c.complexity
  (if t.medium < 0 ∨ t.high ≤ t.medium then [.complexity t.medium t.high] else []) ++
  (match c.threshold with
    | some t => if t > 100 then [.threshold t] else []
    | none => []) ++
  (if c.maxFileBytes = 0 then [.maxFileBytes] else []) ++
  c.excludedPaths.filterMap patternFault?

def fault? (c : Config) : Option Fault := c.faults.head?

def isExcluded (c : Config) (path : String) : Bool := Glob.matchesAny c.excludedPaths path

def options (c : Config) : AnalysisOptions := ⟨c.complexity, c.security.enabled⟩

end Config
end CodeSurvey
