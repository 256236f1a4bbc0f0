import CodeSurvey.Definitions.Patterns
import CodeSurvey.Text.WholeName

/-!
# Calls in texts

Calls of known names in a text that has no program, counted line by line. Lines that define a
name do not count for it, and nobody is known to be the caller.
-/

namespace CodeSurvey.References
open Text Text.Pattern

def callPattern (name : List Char) : Pattern :=
  all [wholeName name, spaces, exactly "("]

/-- A name after the keyword of a function, maybe with the receiver of a method between. -/
def definitionPattern (name : List Char) : Pattern := all [
  wordEdge, words ["function", "def", "fn", "func"], someSpace,
  optional (seq (Definitions.enclosed "(" ')' 0) spaces), exactChars name, spaces, exactly "("]

def assignmentPattern (name : List Char) : Pattern := all [
  wordEdge, words ["const", "let", "var"], someSpace, exactChars name, spaces, exactly "="]

def isDefining (name line : List Char) : Bool :=
  (definitionPattern name).isIn line || (assignmentPattern name).isIn line

/-- How often a line calls a name; a line that defines it does not. -/
def callsOnLine (name line : List Char) : Nat :=
  if isDefining name line then 0 else (callPattern name).count line

def siteLines (counts : List Nat) : List Nat :=
  counts.zipIdx.flatMap fun (n, i) => List.replicate n (i + 1)

def edgeOfText (lines : List (List Char)) (name : String) : CallEdge :=
  let sites := (siteLines (lines.map (callsOnLine name.toList))).map fun l => ⟨l, none⟩
  ⟨sites.length, sites⟩

def callsInText (content : String) (known : List String) : CallMap :=
  let all := lines content.toList
  known.foldl
    (fun m name =>
      let edge := edgeOfText all name
      if edge.totalCalls > 0 then m.insert name edge else m)
    ∅

end CodeSurvey.References
