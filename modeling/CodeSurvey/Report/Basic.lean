import CodeSurvey.Facts.Encoding

/-!
# Reports

The results of a survey put together: totals, the most complex files, the files that could not be
read structurally, and where points were lost.
-/

namespace CodeSurvey

def programName : String := "codelens"

def programVersion : String := "0.1.0"

structure Totals where
  functions : Nat
  vars : Nat
  imports : Nat
  calls : Nat
  securityIssues : Nat
deriving DecidableEq, Inhabited

def totalOf (count : α → Nat) (xs : List α) : Nat := xs.foldl (fun n x => n + count x) 0

def FileAnalysis.callCount (a : FileAnalysis) : Nat := totalOf CallEdge.totalCalls a.calls.values

def Totals.ofAnalyses (analyses : List FileAnalysis) : Totals where
  functions := totalOf (fun a => a.functions.length) analyses
  vars := totalOf (fun a => a.vars.length) analyses
  imports := totalOf (fun a => a.imports.length) analyses
  calls := totalOf FileAnalysis.callCount analyses
  securityIssues := totalOf (fun a => a.security.length) analyses

structure Hotspot where
  file : String
  score : Int32
  level : ComplexityLevel
deriving DecidableEq, Inhabited

namespace Hotspot

/-- The more complex file comes first; equally complex ones are ordered by name. -/
def precedes (a b : Hotspot) : Bool :=
  b.score < a.score || (a.score == b.score && decide (a.file ≤ b.file))

def ofAnalysis? (a : FileAnalysis) : Option Hotspot :=
  if a.complexity.level = .low then none
  else some ⟨a.file, a.complexity.score, a.complexity.level⟩

def ofAnalyses (analyses : List FileAnalysis) : List Hotspot :=
  (analyses.filterMap ofAnalysis?).mergeSort precedes

end Hotspot

structure BreakdownEntry where
  category : String
  points : Int32
deriving DecidableEq, Inhabited

namespace BreakdownEntry

def precedes (a b : BreakdownEntry) : Bool :=
  b.points < a.points || (a.points == b.points && decide (a.category ≤ b.category))

def sorted (entries : List (String × Int32)) : List BreakdownEntry :=
  (entries.map fun e => BreakdownEntry.mk e.1 e.2).mergeSort precedes

end BreakdownEntry

structure Report where
  path : String
  config : Option String
  health : HealthScore
  totals : Totals
  hotspots : List Hotspot
  /-- The files whose definitions were found by patterns for want of a program. -/
  degraded : List FileAnalysis
  breakdown : List BreakdownEntry
  files : List FileAnalysis

def Report.build (path : String) (config : Option String) (files : List FileAnalysis)
    (health : HealthScore) : Report where
  path := path
  config := config
  health := health
  totals := .ofAnalyses files
  hotspots := Hotspot.ofAnalyses files
  degraded := files.filter FileAnalysis.isDegraded
  breakdown := BreakdownEntry.sorted health.breakdown.entries
  files := files

/-! ## As JSON -/

def Totals.encode (t : Totals) : Json := .object [
  ("functions", .ofNat t.functions), ("variables", .ofNat t.vars),
  ("imports", .ofNat t.imports), ("calls", .ofNat t.calls),
  ("security_issues", .ofNat t.securityIssues)]

def Hotspot.encode (h : Hotspot) : Json := .object [
  ("file", .string h.file), ("score", .ofInt32 h.score), ("level", .string h.level.name)]

def BreakdownEntry.encode (e : BreakdownEntry) : Json := .object [
  ("category", .string e.category), ("points", .ofInt32 e.points)]

def Report.encode (r : Report) : Json := .object (
  [("version", .string programVersion), ("path", .string r.path)] ++
  Json.optionalField "config" (r.config.map .string) ++
  [("score", .ofInt32 r.health.score), ("grade", .string r.health.grade),
    ("threshold", .ofInt32 r.health.threshold), ("passed", .bool r.health.passed),
    ("files_scanned", .ofNat r.files.length), ("totals", r.totals.encode),
    ("hotspots", .array (r.hotspots.map Hotspot.encode)),
    ("degraded", encodeStrings (r.degraded.map FileAnalysis.file)),
    ("breakdown", .array (r.breakdown.map BreakdownEntry.encode)),
    ("files", .array (r.files.map FileAnalysis.encode))])

def Report.jsonText (r : Report) : String := r.encode.pretty 0 ++ "\n"

end CodeSurvey
