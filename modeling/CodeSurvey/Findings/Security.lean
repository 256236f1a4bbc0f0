import CodeSurvey.Text.Lines
import CodeSurvey.Text.Pattern

/-!
# Security findings

Lines that look risky: secrets written out, queries put together from text, raw markup, and code
made at run time. Every rule looks at every line by itself, strings and comments included.
-/

namespace CodeSurvey
open Text Text.Pattern

inductive Severity where
  | high
  | medium
  | low
deriving DecidableEq, Inhabited

namespace Severity

def all : List Severity := [high, medium, low]

def name : Severity → String
  | high => "high"
  | medium => "medium"
  | low => "low"

def ofText? (text : String) : Option Severity :=
  all.find? fun s => s.name.toList == text.toList.map Text.toLower

def unknownMessage (text : String) : String := "unknown severity: " ++ text

end Severity

inductive SecurityRule where
  | hardcodedSecret
  | sqlInjection
  | rawMarkup
  | dynamicCode
deriving DecidableEq, Inhabited

namespace SecurityRule

def all : List SecurityRule := [hardcodedSecret, sqlInjection, rawMarkup, dynamicCode]

def name : SecurityRule → String
  | hardcodedSecret => "hardcoded_secret"
  | sqlInjection => "sql_injection"
  | rawMarkup => "xss"
  | dynamicCode => "dynamic_code_execution"

def title : SecurityRule → String
  | hardcodedSecret => "Hardcoded Secret"
  | sqlInjection => "SQL Injection Risk"
  | rawMarkup => "XSS Risk"
  | dynamicCode => "Dynamic Code Execution"

def description : SecurityRule → String
  | hardcodedSecret => "Potential hardcoded credential detected."
  | sqlInjection => "Potential SQL injection via string concatenation."
  | rawMarkup => "Usage of dangerouslySetInnerHTML can lead to XSS."
  | dynamicCode => "Use of eval() or new Function() is dangerous."

def severity : SecurityRule → Severity
  | rawMarkup => .medium
  | _ => .high

end SecurityRule

/-! ## The rules -/

def quoteMark : Pattern := oneOf "'\""

def secretPattern : Pattern := all [
  any (["password", "passwd", "pwd", "secret", "api_key", "apikey", "token", "auth"].map anyCase),
  spaces, oneOf "=:", spaces, quoteMark, run (fun c => c != '\'' && c != '"') 8, quoteMark]

/-- Values read from the environment or the configuration are not written out. -/
def secretSourcePattern : Pattern := words ["process.env", "config."]

def sqlPattern : Pattern := all [
  any (["query", "execute", "select", "insert", "update", "delete"].map anyCase),
  run (· != '\n') 0, words ["+", "$\x7b"]]

def rawMarkupPattern : Pattern := exactly "dangerouslySetInnerHTML"

def dynamicCodePattern : Pattern := any [
  all [wordEdge, exactly "eval", spaces, exactly "("],
  all [wordEdge, exactly "new", someSpace, exactly "Function", spaces, exactly "("]]

def SecurityRule.appliesTo (line : List Char) : SecurityRule → Bool
  | hardcodedSecret => secretPattern.isIn line && !secretSourcePattern.isIn line
  | sqlInjection => sqlPattern.isIn line
  | rawMarkup => rawMarkupPattern.isIn line
  | dynamicCode => dynamicCodePattern.isIn line

structure SecurityIssue where
  severity : Severity
  title : String
  file : String
  /-- The file once more, for readers that look for a path. -/
  path : String
  line : Nat
  desc : String
  /-- The line without the blanks around it. -/
  code : String
deriving DecidableEq, Inhabited

def SecurityIssue.ofRule (file : String) (number : Nat) (line : List Char) (r : SecurityRule) :
    SecurityIssue :=
  { severity := r.severity, title := r.title, file := file, path := file, line := number,
    desc := r.description, code := String.ofList (trimChars line) }

def issuesOnLine (file : String) (number : Nat) (line : List Char) : List SecurityIssue :=
  (SecurityRule.all.filter (SecurityRule.appliesTo line)).map
    (SecurityIssue.ofRule file number line)

def findIssues (content file : String) : List SecurityIssue :=
  (lines content.toList).zipIdx.flatMap fun (line, i) => issuesOnLine file (i + 1) line

end CodeSurvey
