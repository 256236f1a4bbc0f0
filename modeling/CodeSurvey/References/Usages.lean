import CodeSurvey.Facts.Basic
import CodeSurvey.Text.Lines
import CodeSurvey.Text.WholeName

/-!
# Usages

How often variables are used, line by line. A line that declares a name is left out for that name
altogether.
-/

namespace CodeSurvey.References
open Text

open Pattern in
def declaringPattern (name : List Char) : Pattern :=
  all [wordEdge, words ["const", "let", "var"], someSpace, wholeName name]

def isDeclaring (name line : List Char) : Bool := (declaringPattern name).isIn line

def usesOnLine (name line : List Char) : Nat :=
  if isDeclaring name line then 0 else (wholeName name).count line

def usageOfText (lines : List (List Char)) (name : String) : UsageEntry :=
  let counts := lines.map (usesOnLine name.toList)
  { total := counts.foldr (· + ·) 0,
    lines := counts.zipIdx.filterMap fun (n, i) => if n > 0 then some (i + 1) else none }

/-- The uses of each name in a text; names without any are left out. -/
def findUsages (content : String) (names : List String) : UsageMap :=
  let lines := lines content.toList
  names.foldl
    (fun m name =>
      let entry := usageOfText lines name
      if entry.total > 0 then m.insert name entry else m)
    ∅

/-- Fill in the uses of a variable; one that is never used gets none. -/
def applyUsage (usages : UsageMap) (v : VariableDef) : VariableDef :=
  let entry := (usages.find? v.name).getD default
  { v with totalUsages := some entry.total, usageLines := some entry.lines }

def applyUsages (vars : List VariableDef) (usages : UsageMap) : List VariableDef :=
  vars.map (applyUsage usages)

end CodeSurvey.References
