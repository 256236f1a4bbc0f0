import CodeSurvey.Config.Loading
import CodeSurvey.Report.Basic
import CodeSurvey.Survey.Analyzer
import CodeSurvey.Survey.Collection

/-!
# Surveys

The survey of a file or of a directory: the configuration is loaded, the files are collected and
analyzed, and the report is put together. A survey is refused when its path cannot be reached, its
configuration is wrong or its threshold makes no sense.
-/

namespace CodeSurvey

structure SurveyRequest where
  path : String
  config : Option String
  threshold : Option Int32
deriving DecidableEq

inductive SurveyRefusal where
  | inaccessible (path : String) (error : FileError)
  | config (error : Config.LoadError)
  | threshold (t : Int32)

def SurveyRefusal.message : SurveyRefusal → String
  | inaccessible path error =>
    "cannot access path " ++ Text.quotedPath path ++ ": " ++ error.message
  | config error => "invalid config: " ++ error.message
  | threshold t => "invalid threshold " ++ toString t.toInt ++ ", must be between 0 and 100"

inductive SurveyResult where
  | refused (reason : SurveyRefusal)
  /-- There are no files to be analyzed. -/
  | empty
  | surveyed (report : Report)

/-- The threshold that counts: the one asked for, else the one configured, else the usual one. -/
def effectiveThreshold (asked : Option Int32) (c : Config) : Int32 :=
  (asked <|> c.threshold.map fun t => Int32.ofNat t.toNat).getD HealthScore.defaultThreshold

/-- The directory from which files are named and the files of a survey, for a path without links. -/
def surveyedFiles (fs : FileSystem) (path : String) (c : Config) :
    Except WalkError (String × List String) :=
  if fs.isDirectory path then do return (path, ← collect fs path c)
  else .ok ((Path.parent? path).getD path, [path])

def reportOn (fs : FileSystem) (request : SurveyRequest) (base : String) (files : List String)
    (c : Config) (configPath : Option String) (threshold : Int32) : Report :=
  let analyses := ((Analyzer.ofConfig base c).analyzeAll fs files).1
  .build request.path configPath analyses (.ofAnalyses analyses threshold)

def survey (fs : FileSystem) (request : SurveyRequest) : Except WalkError SurveyResult :=
  match fs.canonicalPath request.path with
  | .error e => .ok (.refused (.inaccessible request.path e))
  | .ok path =>
    match Config.load fs request.config (FileSystem.absolutePath fs.workingDirectory) with
    | .error e => .ok (.refused (.config e))
    | .ok (c, configPath) =>
      let threshold := effectiveThreshold request.threshold c
      if threshold < 0 ∨ 100 < threshold then .ok (.refused (.threshold threshold))
      else
        match surveyedFiles fs path c with
        | .error e => .error e
        | .ok (_, []) => .ok .empty
        | .ok (base, files) =>
          .ok (.surveyed (reportOn fs request base files c configPath threshold))

/-- 0 for a survey that passes or has nothing to do, 1 for one that does not pass, 2 for a refusal. -/
def SurveyResult.exitCode : SurveyResult → UInt32
  | refused _ => 2
  | empty => 0
  | surveyed report => if report.health.passed then 0 else 1

end CodeSurvey
