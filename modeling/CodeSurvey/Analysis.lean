import CodeSurvey.Findings.Complexity
import CodeSurvey.Findings.Imports
import CodeSurvey.Findings.Security
import CodeSurvey.References.Calls
import CodeSurvey.References.Usages

/-!
# The analysis of a file

All that is found out about one file from its text and its name. The text is read once.
-/

namespace CodeSurvey
open Definitions References

structure AnalysisOptions where
  complexity : ComplexityThresholds
  security : Bool
deriving DecidableEq

def AnalysisOptions.standard : AnalysisOptions := ⟨.standard, true⟩

structure FileAnalysis where
  file : String
  language : Language
  source : Provenance
  /-- Why a script could not be read and its definitions were found by patterns. -/
  parseError : Option Script.ParseError
  functions : List FunctionDef
  vars : List VariableDef
  imports : List String
  calls : CallMap
  usages : UsageMap
  complexity : ComplexityScore
  security : List SecurityIssue

def FileAnalysis.isDegraded (a : FileAnalysis) : Bool := a.parseError.isSome

def analyzeReading (reading : Script.Reading) (content filename : String)
    (options : AnalysisOptions) : FileAnalysis :=
  let language := Language.ofFilename filename
  let functions := functionsFrom reading content filename language
  let vars := variablesFrom reading content filename
  let calls := callsFrom reading content (functions.items.map FunctionDef.name)
  let usages := findUsages content (vars.items.map VariableDef.name)
  { file := filename,
    language := language,
    source := functions.source,
    parseError := functions.parseError,
    functions := applyCalls functions.items calls,
    vars := applyUsages vars.items usages,
    imports := findImports content filename,
    calls := calls,
    usages := usages,
    complexity := .ofContent content options.complexity,
    security := if options.security then findIssues content filename else [] }

def analyzeWith (parse : String → Script.SyntaxTree) (content filename : String)
    (options : AnalysisOptions) : FileAnalysis :=
  analyzeReading (Script.readWith parse content (.ofFilename filename)) content filename options

def analyze (content filename : String) (options : AnalysisOptions) : FileAnalysis :=
  analyzeWith .ofText content filename options

end CodeSurvey
