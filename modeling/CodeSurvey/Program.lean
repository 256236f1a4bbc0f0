import CodeSurvey.CommandLine.Reading
import CodeSurvey.Report.Pretty
import CodeSurvey.Survey.Basic
import CodeSurvey.Survey.Setup

/-!
# The program

The commands of the program, what a command line asks of it, and what it prints.
-/

namespace CodeSurvey
open CommandLine

def logOption : OptionSpec := ⟨"log-json", none, .flag, "Emit logs as JSON on stderr"⟩

def analyzeCommand : CommandSpec where
  words := [programName, "analyze"]
  aliases := ["scan"]
  about := "Analyze a file or directory"
  options := [
    ⟨"config", some 'c', .valued .path none,
      "Path to configuration YAML file (default: auto-discover)"⟩,
    logOption,
    ⟨"format", some 'f', .valued (.choice ["pretty", "json"]) (some "pretty"), "Output format"⟩,
    ⟨"threshold", some 't', .valued (.integer (-2147483648) 2147483647) none,
      "Minimum acceptable health score (exit non-zero below it)"⟩,
    helpOption]
  positionals := [⟨"PATH", .path, false, "Path to analyze (file or directory)"⟩]
  commands := []

def initCommand : CommandSpec where
  words := [programName, "init"]
  aliases := []
  about := "Write the default configuration file"
  options := [
    logOption,
    ⟨"output", some 'o', .valued .path (some "codelens.yaml"), "Output file path"⟩,
    helpOption]
  positionals := []
  commands := []

def commandLine : CommandSpec where
  words := [programName]
  aliases := []
  about := "Best-effort multi-language static analysis - functions, variables, call graphs, " ++
    "complexity and security hints"
  options := [logOption, helpOption, versionOption]
  positionals := []
  commands := [analyzeCommand, initCommand]

inductive ReportFormat where
  | pretty
  | json
deriving DecidableEq

inductive Command where
  | analyze (request : SurveyRequest) (format : ReportFormat)
  | init (output : String)
deriving DecidableEq

structure Request where
  command : Command
  logJson : Bool
deriving DecidableEq

def Request.ofInvocation (i : Invocation) : Request where
  command :=
    if i.command.name = initCommand.name then .init ((i.text? "output").getD "")
    else
      .analyze
        { path := i.texts.headD "",
          config := i.text? "config",
          threshold := (i.integer? "threshold").map Int32.ofInt }
        (if i.text? "format" = some "json" then .json else .pretty)
  logJson := i.hasFlag logOption.long

def Request.ofArguments (arguments : List String) : Except Stop Request :=
  Request.ofInvocation <$>
    CommandLine.read commandLine (programName ++ " " ++ programVersion) arguments

/-! ## Carrying out -/

structure Outcome where
  exitCode : UInt32
  output : String
  errors : String
  files : FileSystem

def errorLine (message : String) : String := "Error: " ++ message ++ "\n"

def Report.text (r : Report) (terminal : Terminal) : ReportFormat → String
  | .pretty => r.prettyText terminal
  | .json => r.jsonText

def SurveyResult.output (terminal : Terminal) (format : ReportFormat) : SurveyResult → String
  | surveyed report => report.text terminal format
  | _ => ""

def SurveyResult.errors : SurveyResult → String
  | refused reason => errorLine reason.message
  | empty => "Warning: no files to analyze\n"
  | surveyed _ => ""

def nextSteps (path : String) : String :=
  "Created " ++ path ++ "\n\nNext steps:\n  1. Edit " ++ path ++
    " to customize for your project\n  2. Run: codelens analyze . --config " ++ path ++ "\n"

def SetupError.text (e : SetupError) : String :=
  errorLine e.message ++ (e.advice.map (· ++ "\n")).getD ""

def Command.run (fs : FileSystem) (terminal : Terminal) : Command → Except WalkError Outcome
  | analyze request format => do
    let result ← survey fs request
    return ⟨result.exitCode, result.output terminal format, result.errors, fs⟩
  | init path =>
    match setUp fs path with
    | (.ok (), fs) => .ok ⟨0, nextSteps path, "", fs⟩
    | (.error e, fs) => .ok ⟨2, "", e.text, fs⟩

end CodeSurvey
