import CodeSurvey.Text.Lines

/-!
# Code slices

The lines of a definition, cut to the lines there are.
-/

namespace CodeSurvey.Definitions

/-- How many lines are shown after the first where a definition's end is not known. -/
def linesAhead : Nat := 10

def slice (lines : List (List Char)) (first last : Nat) : String :=
  let start := min (first - 1) lines.length
  String.ofList (Text.joinLines ((lines.drop start).take (last - start)))

end CodeSurvey.Definitions
