import CodeSurvey.Survey.Analyzer

/-!
# Crews

Files analyzed at one time, each by a task of its own. What is known is looked up and added to by
single steps, and a file is read by one; between the steps of a task others may take theirs, in any
order.
-/

namespace CodeSurvey

/-- How far a task has got. -/
inductive Stage where
  | waiting
  /-- Nothing was known about the file. -/
  | missed
  /-- The file is analyzed, and nobody has been told. -/
  | examined (analysis : FileAnalysis)
  | finished (result : Except AnalyzeError FileAnalysis)

structure Task where
  path : String
  stage : Stage

namespace Task

def result? (t : Task) : Option (Except AnalyzeError FileAnalysis) :=
  match t.stage with
  | .finished result => some result
  | _ => none

def step (fs : FileSystem) (a : Analyzer) (t : Task) : Stage × Analyzer :=
  match t.stage with
  | .waiting =>
    match a.known? t.path with
    | some analysis => (.finished (.ok analysis), a)
    | none => (.missed, a)
  | .missed =>
    match a.examine fs t.path with
    | .ok analysis => (.examined analysis, a)
    | .error e => (.finished (.error e), a)
  | .examined analysis =>
    (.finished (.ok analysis), { a with known := a.known.insert (a.key t.path) analysis })
  | .finished result => (.finished result, a)

end Task

structure Crew where
  analyzer : Analyzer
  tasks : List Task

namespace Crew

def start (a : Analyzer) (paths : List String) : Crew := ⟨a, paths.map fun p => ⟨p, .waiting⟩⟩

/-- The task of that number takes its next step, if there is one. -/
def advance (fs : FileSystem) (c : Crew) (i : Nat) : Crew :=
  match c.tasks[i]? with
  | some t =>
    let (stage, a) := t.step fs c.analyzer
    ⟨a, c.tasks.set i { t with stage := stage }⟩
  | none => c

/-- The tasks take their steps in the order of a schedule. -/
def run (fs : FileSystem) (c : Crew) (schedule : List Nat) : Crew := schedule.foldl (advance fs) c

def isFinished (c : Crew) : Bool := c.tasks.all fun t => t.result?.isSome

/-- The analyses of those files that could be analyzed, in the order of their names. -/
def analyses (c : Crew) : List FileAnalysis :=
  Analyzer.sortAnalyses ((c.tasks.filterMap Task.result?).filterMap Except.toOption)

end Crew
end CodeSurvey
