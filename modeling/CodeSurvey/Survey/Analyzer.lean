import CodeSurvey.Config.Basic
import CodeSurvey.Files.System

/-!
# Analyzing files

Files are read and analyzed once each: what was found out about a file stays, whatever happens to
the file. A file that cannot be analyzed leaves nothing behind.
-/

namespace CodeSurvey

inductive AnalyzeError where
  /-- Nothing can be found out about the file. -/
  | unknown (error : FileError)
  | tooLarge (file : String) (bytes : Nat) (limit : UInt64)
  | unreadable (file : String) (error : FileError)
deriving DecidableEq

def AnalyzeError.message : AnalyzeError → String
  | unknown error => error.message
  | tooLarge file bytes limit =>
    file ++ " is " ++ toString bytes ++ " bytes, larger than max_file_bytes (" ++
      toString limit.toNat ++ ")"
  | unreadable file error => "reading " ++ file ++ ": " ++ error.message

structure Analyzer where
  /-- The directory from which files are named. -/
  base : String
  options : AnalysisOptions
  maxFileBytes : UInt64
  /-- What was found out, by the path of the file without parts too many. -/
  known : SortedMap FileAnalysis

namespace Analyzer

def ofConfig (base : String) (c : Config) : Analyzer := ⟨base, c.options, c.maxFileBytes, ∅⟩

def resolve (a : Analyzer) (path : String) : String := Path.join a.base path

def key (a : Analyzer) (path : String) : String := Path.ofParts (Path.parts (a.resolve path))

def known? (a : Analyzer) (path : String) : Option FileAnalysis := a.known.find? (a.key path)

def examine (a : Analyzer) (fs : FileSystem) (path : String) :
    Except AnalyzeError FileAnalysis := do
  let full := a.resolve path
  let file := Path.within a.base full
  let bytes ← (fs.size full).mapError .unknown
  if a.maxFileBytes.toNat < bytes then .error (.tooLarge file bytes a.maxFileBytes)
  else
    let text ← (fs.readText full).mapError (.unreadable file)
    return CodeSurvey.analyze text file a.options

def analyze (a : Analyzer) (fs : FileSystem) (path : String) :
    Except AnalyzeError FileAnalysis × Analyzer :=
  match a.known? path with
  | some analysis => (.ok analysis, a)
  | none =>
    match a.examine fs path with
    | .error e => (.error e, a)
    | .ok analysis => (.ok analysis, { a with known := a.known.insert (a.key path) analysis })

def results (a : Analyzer) (fs : FileSystem) :
    List String → List (Except AnalyzeError FileAnalysis) × Analyzer
  | [] => ([], a)
  | path :: rest =>
    let (result, a) := a.analyze fs path
    let (later, a) := a.results fs rest
    (result :: later, a)

def sortAnalyses (analyses : List FileAnalysis) : List FileAnalysis :=
  analyses.mergeSort fun a b => decide (a.file ≤ b.file)

/-- The analyses of those files that can be analyzed, in the order of their names. -/
def analyzeAll (a : Analyzer) (fs : FileSystem) (paths : List String) :
    List FileAnalysis × Analyzer :=
  let (results, a) := a.results fs paths
  (sortAnalyses (results.filterMap Except.toOption), a)

end Analyzer

/-! ## Runs -/

/-- Files that change while they are analyzed. -/
structure Desk where
  files : FileSystem
  analyzer : Analyzer

namespace Desk

inductive Step where
  | change (c : FileSystem.Change)
  | remove (path : String)
  | analyze (path : String)
  | recall (path : String)
  | analyzeAll (paths : List String)

inductive Answer where
  | changed
  | removed (done : Bool)
  | analyzed (result : Except AnalyzeError FileAnalysis)
  | recalled (analysis : Option FileAnalysis)
  | analyzedAll (analyses : List FileAnalysis)

def step (d : Desk) : Step → Answer × Desk
  | .change c => (.changed, { d with files := d.files.change c })
  | .remove path =>
    match d.files.remove (d.analyzer.resolve path) with
    | .ok files => (.removed true, { d with files := files })
    | .error _ => (.removed false, d)
  | .analyze path =>
    let (result, a) := d.analyzer.analyze d.files path
    (.analyzed result, { d with analyzer := a })
  | .recall path => (.recalled (d.analyzer.known? path), d)
  | .analyzeAll paths =>
    let (analyses, a) := d.analyzer.analyzeAll d.files paths
    (.analyzedAll analyses, { d with analyzer := a })

def run (d : Desk) : List Step → List Answer × Desk
  | [] => ([], d)
  | s :: rest =>
    let (answer, d) := d.step s
    let (later, d) := d.run rest
    (answer :: later, d)

end Desk
end CodeSurvey
