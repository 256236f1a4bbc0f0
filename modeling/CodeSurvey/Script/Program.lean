import CodeSurvey.Language
import CodeSurvey.Script.Cursor
import CodeSurvey.Script.Erasure
import CodeSurvey.Script.Lowering
import CodeSurvey.Script.Parse

/-!
# Programs

The strict reading of a source text: a program if the text follows the grammar throughout and
does not nest too deeply, and otherwise the reason why there is none.
-/

namespace CodeSurvey.Script

inductive ParseError where
  /-- The language has no grammar here. -/
  | unsupported (language : Language)
  | malformed (line : Nat)
  | tooDeep (line : Nat)
deriving DecidableEq, Inhabited

def ParseError.message : ParseError → String
  | unsupported language => "no structural parser for " ++ language.name ++ " sources"
  | malformed line => "syntax error at line " ++ toString line
  | tooDeep line => "syntax nested too deeply at line " ++ toString line

def maxDepth : Nat := 200

/-- The program of a tree. Depth is checked before soundness. -/
def SyntaxTree.program (t : SyntaxTree) : Except ParseError Node :=
  match t.tooDeepLine? maxDepth with
  | some line => .error (.tooDeep line)
  | none =>
    if t.hasFault then .error (.malformed (t.faultLine?.getD 1))
    else .ok (lower t)

/-- The outcome of reading a source text structurally. -/
abbrev Reading := Except ParseError Node

/-- Read a source text of a language with a parser of scripts. Lines are those of the text, type
annotations or not. -/
def readWith (parse : String → SyntaxTree) (text : String) (language : Language) : Reading :=
  if language.isScript then
    (parse (if language.hasTypes then eraseTypes text else text)).program
  else .error (.unsupported language)

def read (text : String) (language : Language) : Reading := readWith .ofText text language

end CodeSurvey.Script
