import CodeSurvey.Script.Growth
import CodeSurvey.Script.Lexicon
import CodeSurvey.Script.Surroundings

/-!
# Parsing scripts

The best reading of a script, whether or not it follows the grammar throughout.
-/

namespace CodeSurvey.Script
open Parsing

def scanner : Scanner where
  look := Surroundings.look Surroundings.watched
  scan := lexicon.scan
  isBlank := isBlank
  opening := '\ufeff'

/-- The tables are large, so they are made when first needed and then kept. -/
def language : Thunk Language := Thunk.mk fun _ => grammar.language scanner isWord

def SyntaxTree.ofText (text : String) : SyntaxTree :=
  let src := Source.ofString text
  let l := language.get
  match l.parse src with
  | some b => .ofBranch l.automaton src b
  | none => emptyTree

end CodeSurvey.Script
