import CodeSurvey.Text.Character

/-!
# Languages

Which files hold source code, and the family of languages a file belongs to. Both are read off the
end of the file's name, whatever its case.
-/

namespace CodeSurvey

/-- A family of languages that share their rules of extraction. -/
inductive Language where
  | javaScript
  /-- Scripts with type annotations. -/
  | typeScript
  | python
  | go
  /-- Java and C#. -/
  | java
  | rust
  | ruby
  | php
  /-- C and C++. -/
  | cFamily
  | other
deriving DecidableEq, Inhabited

namespace Language

def name : Language → String
  | javaScript => "javascript"
  | typeScript => "typescript"
  | python => "python"
  | go => "go"
  | java => "java"
  | rust => "rust"
  | ruby => "ruby"
  | php => "php"
  | cFamily => "cfamily"
  | other => "other"

def all : List Language :=
  [javaScript, typeScript, python, go, java, rust, ruby, php, cFamily, other]

/-- The endings of file names by family; the first family with a fitting ending counts. -/
def endings : List (Language × List String) := [
  (javaScript, [".js", ".jsx", ".mjs", ".cjs"]),
  (typeScript, [".ts", ".tsx"]),
  (python, [".py"]),
  (go, [".go"]),
  (java, [".java", ".cs"]),
  (rust, [".rs"]),
  (ruby, [".rb"]),
  (php, [".php"]),
  (cFamily, [".c", ".cpp", ".cc", ".h", ".hpp"])]

def otherEndings : List String := [
  ".vue", ".svelte", ".swift", ".kt", ".kts", ".scala", ".clj", ".ex", ".exs", ".erl", ".hs",
  ".lua", ".r", ".jl", ".dart", ".elm", ".fs", ".fsx", ".ml", ".pl", ".pm", ".sh", ".bash", ".zsh",
  ".fish", ".ps1", ".psm1", ".groovy", ".gradle"]

/-- Whether a file name ends in a lower case ending, but for case. -/
def hasEnding (filename ending : String) : Bool :=
  ending.toList.isSuffixOf (filename.toList.map Text.toLower)

def ofFilename (filename : String) : Language :=
  ((endings.find? fun e => e.2.any (hasEnding filename)).map Prod.fst).getD other

def isScript : Language → Bool
  | javaScript | typeScript => true
  | _ => false

def hasTypes (l : Language) : Bool := l = typeScript

/-- Whether indentation says nothing about nesting. -/
def isFlat : Language → Bool
  | go | cFamily => true
  | _ => false

end Language

def isCode (filename : String) : Bool :=
  (Language.endings.any fun e => e.2.any (Language.hasEnding filename)) ||
    Language.otherEndings.any (Language.hasEnding filename)

end CodeSurvey
