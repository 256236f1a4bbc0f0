import CodeSurvey.Analysis

/-!
# Health scores

A score of at most a hundred, less for every risky line and every complex file. Points are machine
words.
-/

namespace CodeSurvey

inductive Penalty where
  | security (severity : Severity)
  | complexHigh
  | complexMedium
deriving DecidableEq, Inhabited

namespace Penalty

def category : Penalty → String
  | security .high => "security_high"
  | security .medium => "security_medium"
  | security .low => "security_low"
  | complexHigh => "complexity_high"
  | complexMedium => "complexity_medium"

def points : Penalty → Int32
  | security .high => 10
  | security .medium => 5
  | security .low => 2
  | complexHigh => 5
  | complexMedium => 2

def ofLevel : ComplexityLevel → List Penalty
  | .high => [complexHigh]
  | .medium => [complexMedium]
  | .low => []

def ofAnalysis (a : FileAnalysis) : List Penalty :=
  a.security.map (fun i => security i.severity) ++ ofLevel a.complexity.level

end Penalty

abbrev Breakdown := SortedMap Int32

namespace Breakdown

def charge (b : Breakdown) (p : Penalty) : Breakdown := b.update p.category (· + p.points)

/-- The points by category, categories without any left out. -/
def ofAnalyses (analyses : List FileAnalysis) : Breakdown :=
  (analyses.flatMap Penalty.ofAnalysis).foldl charge ∅

def total (b : Breakdown) : Int32 := b.values.foldl (· + ·) 0

end Breakdown

structure HealthScore where
  /-- From 0 to 100, more is healthier. -/
  score : Int32
  grade : String
  breakdown : Breakdown
  passed : Bool
  threshold : Int32

namespace HealthScore

def defaultThreshold : Int32 := 60

def grades : List (Int32 × String) :=
  [(90, "A+"), (80, "A"), (70, "B"), (60, "C"), (50, "D")]

def gradeOf (score : Int32) : String :=
  ((grades.find? fun g => score ≥ g.1).map Prod.snd).getD "F"

/-- The points taken off, before the score is cut off at nothing. -/
def totalPenalty (h : HealthScore) : Int32 := h.breakdown.total

def ofAnalyses (analyses : List FileAnalysis) (threshold : Int32) : HealthScore :=
  let breakdown := Breakdown.ofAnalyses analyses
  let left := 100 - breakdown.total
  let score := if left < 0 then 0 else left
  { score := score, grade := gradeOf score, breakdown := breakdown,
    passed := score ≥ threshold, threshold := threshold }

end HealthScore
end CodeSurvey
