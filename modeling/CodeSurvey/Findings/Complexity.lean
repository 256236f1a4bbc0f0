import CodeSurvey.Text.Pattern

/-!
# Complexity

Decision points counted over the text of a whole file, whatever its language: keywords in strings
and comments count as well. A text without any has complexity one, and an empty text none at all.
-/

namespace CodeSurvey
open Text Text.Pattern

def conditionPattern (keyword : String) : Pattern :=
  all [wordEdge, exactly keyword, spaces, exactly "("]

def elseIfPattern : Pattern :=
  all [wordEdge, exactly "else", someSpace, exactly "if", spaces, exactly "("]

def casePattern : Pattern := all [wordEdge, exactly "case", someSpace]

def conditionalPattern : Pattern :=
  all [exactly "?", spaces, run (fun c => c != ':' && c != '\n') 1, spaces, exactly ":"]

structure BranchCounts where
  /-- Conditions that do not continue an alternative. -/
  ifCount : Nat
  elseIfCount : Nat
  loopCount : Nat
  caseCount : Nat
  catchCount : Nat
  conditionalCount : Nat
  andCount : Nat
  orCount : Nat
deriving DecidableEq, Inhabited

namespace BranchCounts

def scanChars (text : List Char) : BranchCounts :=
  let elseIfs := elseIfPattern.count text
  { ifCount := (conditionPattern "if").count text - elseIfs,
    elseIfCount := elseIfs,
    loopCount := (conditionPattern "while").count text + (conditionPattern "for").count text,
    caseCount := casePattern.count text,
    catchCount := (conditionPattern "catch").count text,
    conditionalCount := conditionalPattern.count text,
    andCount := (exactly "&&").count text,
    orCount := (exactly "||").count text }

def scan (content : String) : BranchCounts := scanChars content.toList

def decisionPoints (c : BranchCounts) : Nat :=
  c.ifCount + c.elseIfCount + c.loopCount + c.caseCount + c.catchCount + c.conditionalCount +
    c.andCount + c.orCount

/-- One more than the decision points, in a machine word. -/
def cyclomatic (c : BranchCounts) : Int32 := 1 + Int32.ofNat c.decisionPoints

end BranchCounts

def complexityOf (content : String) : Int32 :=
  if content.isEmpty then 0 else (BranchCounts.scan content).cyclomatic

/-- Scores above `medium` are of medium complexity, those above `high` of high. -/
structure ComplexityThresholds where
  medium : Int32
  high : Int32
deriving DecidableEq

namespace ComplexityThresholds

def standard : ComplexityThresholds := ⟨10, 20⟩

instance : Inhabited ComplexityThresholds := ⟨standard⟩

end ComplexityThresholds

inductive ComplexityLevel where
  | low
  | medium
  | high
deriving DecidableEq, Inhabited

namespace ComplexityLevel

def all : List ComplexityLevel := [low, medium, high]

def name : ComplexityLevel → String
  | low => "low"
  | medium => "medium"
  | high => "high"

def classify (score : Int32) (t : ComplexityThresholds) : ComplexityLevel :=
  if score > t.high then high else if score > t.medium then medium else low

end ComplexityLevel

structure ComplexityScore where
  score : Int32
  level : ComplexityLevel
deriving DecidableEq, Inhabited

def ComplexityScore.ofContent (content : String) (t : ComplexityThresholds) : ComplexityScore :=
  let score := complexityOf content
  ⟨score, .classify score t⟩

end CodeSurvey
