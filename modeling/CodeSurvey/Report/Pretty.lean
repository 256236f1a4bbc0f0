import CodeSurvey.Report.Basic

/-!
# Reports for readers

The report as text for a terminal, in colour or without.
-/

namespace CodeSurvey

/-! ## Styled text -/

inductive Style where
  | bold
  | dimmed
  | red
  | green
  | yellow
  | blue
  | cyan
deriving DecidableEq, Inhabited

def Style.code : Style → String
  | bold => "1"
  | dimmed => "2"
  | red => "31"
  | green => "32"
  | yellow => "33"
  | blue => "34"
  | cyan => "36"

def escapeSequence (code : String) : String := "\x1b[" ++ code ++ "m"

structure Terminal where
  color : Bool

namespace Terminal

/-- Text in styles. A reset within the text takes up the styles again. -/
def styled (t : Terminal) (styles : List Style) (text : String) : String :=
  if t.color then
    let start := escapeSequence (";".intercalate (styles.map Style.code))
    let reset := escapeSequence "0"
    let inner := (reset ++ start).intercalate (text.splitOn reset)
    start ++ inner ++ reset
  else text

end Terminal

def padRight (width : Nat) (text : String) : String :=
  text ++ String.ofList (List.replicate (width - text.length) ' ')

def padLeft (width : Nat) (text : String) : String :=
  String.ofList (List.replicate (width - text.length) ' ') ++ text

/-! ## Parts of the report -/

namespace Report

def scoreStyle (score : Int32) : Style :=
  if score ≥ 80 then .green else if score ≥ 60 then .blue else if score ≥ 40 then .yellow
  else .red

def gradeStyles (grade : String) : List Style :=
  if grade = "A+" then [.bold, .green]
  else if grade = "A" ∨ grade = "B" then [.green]
  else if grade = "C" then [.yellow]
  else if grade = "D" then [.bold, .yellow]
  else [.red]

def scoreText (t : Terminal) (score : Int32) : String :=
  t.styled [scoreStyle score] (toString score.toInt)

def counted (n : Nat) (what : String) : String := toString n ++ " " ++ what

def totalsText (r : Report) : String :=
  ", ".intercalate [
    counted r.files.length "files", counted r.totals.functions "functions",
    counted r.totals.vars "variables", counted r.totals.imports "imports",
    counted r.totals.calls "calls"]

def header (t : Terminal) (r : Report) : List String :=
  let config := match r.config with
    | some path => ["  " ++ t.styled [.dimmed] "Config:   " ++ path]
    | none => []
  ["", "  " ++ t.styled [.bold, .cyan] programName ++ " v" ++ programVersion, "",
    "  " ++ t.styled [.dimmed] "Scanning: " ++ r.path] ++ config ++ [""]

def summary (t : Terminal) (r : Report) : List String :=
  let verdict := if r.health.passed then t.styled [.green] "✓ PASS" else t.styled [.red] "✗ FAIL"
  ["  " ++ verdict ++ "  Health: " ++ scoreText t r.health.score ++ "  Grade: " ++
      t.styled (gradeStyles r.health.grade) r.health.grade,
    "  " ++ t.styled [.dimmed] r.totalsText]

def heading (t : Terminal) (styles : List Style) (title : String) (n : Nat) : String :=
  "  " ++ t.styled styles title ++ " (" ++ toString n ++ "):"

def hotspotLine (t : Terminal) (h : Hotspot) : String :=
  let level := if h.level = .high then t.styled [.red] "HIGH" else t.styled [.yellow] "MED "
  "    " ++ level ++ "  " ++ padLeft 4 (toString h.score.toInt) ++ "  " ++ t.styled [.blue] h.file

def hotspotLines (t : Terminal) (r : Report) : List String :=
  if r.hotspots.isEmpty then []
  else
    [heading t [.bold] "Complexity hotspots" r.hotspots.length, ""] ++
      r.hotspots.map (hotspotLine t) ++ [""]

def severityTag (t : Terminal) : Severity → String
  | .high => t.styled [.red] "HIGH"
  | .medium => t.styled [.yellow] "MED "
  | .low => t.styled [.blue] "LOW "

def issueLines (t : Terminal) (i : SecurityIssue) : List String :=
  ["    " ++ severityTag t i.severity ++ "    " ++ t.styled [.dimmed] (padRight 24 i.title) ++
      t.styled [.blue] i.file ++ t.styled [.dimmed] (":" ++ toString i.line),
    "            " ++ i.code, ""]

def securityLines (t : Terminal) (r : Report) : List String :=
  let issues := r.files.flatMap FileAnalysis.security
  if issues.isEmpty then []
  else
    [heading t [.bold] "Security" issues.length, ""] ++ issues.flatMap (issueLines t) ++ [""]

def degradedLine (t : Terminal) (a : FileAnalysis) : String :=
  let reason := (a.parseError.map Script.ParseError.message).getD "parse failed"
  "    " ++ t.styled [.blue] a.file ++ "  " ++ t.styled [.dimmed] reason

def degradedLines (t : Terminal) (r : Report) : List String :=
  if r.degraded.isEmpty then []
  else
    [heading t [.dimmed] "Pattern fallback" r.degraded.length] ++
      r.degraded.map (degradedLine t) ++ [""]

def breakdownLine (e : BreakdownEntry) : String :=
  "    " ++ padRight 20 e.category ++ " -" ++ padLeft 3 (toString e.points.toInt) ++ " pts"

def breakdownLines (t : Terminal) (r : Report) : List String :=
  if r.breakdown.isEmpty then []
  else
    ["  " ++ t.styled [.bold] "Breakdown:"] ++ r.breakdown.map breakdownLine ++ [""]

def finalLines (t : Terminal) (r : Report) : List String :=
  let verdict := if r.health.passed then t.styled [.green] "PASSED" else t.styled [.red] "FAILED"
  ["  " ++ t.styled [.dimmed] ("Threshold: " ++ toString r.health.threshold.toInt) ++ "  Score: " ++
      scoreText t r.health.score ++ "  " ++ verdict, ""]

def prettyLines (t : Terminal) (r : Report) : List String :=
  header t r ++ summary t r ++ [""] ++ hotspotLines t r ++ securityLines t r ++
    degradedLines t r ++ breakdownLines t r ++ finalLines t r

def prettyText (t : Terminal) (r : Report) : String :=
  String.join ((prettyLines t r).map (· ++ "\n"))

end Report
end CodeSurvey
