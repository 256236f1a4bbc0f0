import CodeSurvey.Definitions.Patterns
import CodeSurvey.Definitions.Structural
import CodeSurvey.Script.Program

/-!
# Extraction

Definitions are read off the program where there is one, and found by patterns otherwise. The
result tells which, and what kept a script from being read.
-/

namespace CodeSurvey.Definitions
open Script

structure Extraction (α : Type) where
  items : List α
  source : Provenance
  /-- Why a script was not read structurally. -/
  parseError : Option ParseError

def Extraction.isDegraded (e : Extraction α) : Bool := e.source = .pattern && e.parseError.isSome

/-- Where a language has no grammar, patterns are the rule and no degradation. -/
def degradation? : ParseError → Option ParseError
  | .unsupported _ => none
  | e => some e

def functionsFrom (reading : Reading) (content filename : String) (language : Language) :
    Extraction FunctionDef :=
  match reading with
  | .ok program => ⟨functions program content filename, .structural, none⟩
  | .error e => ⟨functionsByPattern content filename language, .pattern, degradation? e⟩

def variablesFrom (reading : Reading) (content filename : String) : Extraction VariableDef :=
  match reading with
  | .ok program => ⟨declaredVariables program filename, .structural, none⟩
  | .error e => ⟨variablesByPattern content filename, .pattern, degradation? e⟩

def extractFunctionsWith (parse : String → SyntaxTree) (content filename : String) :
    Extraction FunctionDef :=
  let language := Language.ofFilename filename
  functionsFrom (readWith parse content language) content filename language

def extractVariablesWith (parse : String → SyntaxTree) (content filename : String) :
    Extraction VariableDef :=
  variablesFrom (readWith parse content (.ofFilename filename)) content filename

def extractFunctions (content filename : String) : Extraction FunctionDef :=
  extractFunctionsWith .ofText content filename

def extractVariables (content filename : String) : Extraction VariableDef :=
  extractVariablesWith .ofText content filename

end CodeSurvey.Definitions
