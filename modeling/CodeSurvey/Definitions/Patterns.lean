import CodeSurvey.Definitions.Slice
import CodeSurvey.Facts.Basic
import CodeSurvey.Language
import CodeSurvey.Text.Pattern

/-!
# Definitions by pattern

Definitions found by what they look like in the text, one pattern for each family of languages.
The patterns are generous; parameters and results stay unknown.
-/

namespace CodeSurvey.Definitions
open Text Text.Pattern

/-! ## Parts of patterns -/

def isAsciiNameStart (c : Char) : Bool := c.isAlpha || c == '_'

def isAsciiNamePart (c : Char) : Bool := c.isAlphanum || c == '_'

def asciiName : Pattern := seq (char isAsciiNameStart) (run isAsciiNamePart 0)

/-- Names of scripts may hold dollar signs and word characters of any alphabet. -/
def scriptName : Pattern :=
  seq (char fun c => isAsciiNameStart c || c == '$') (run (fun c => isWord c || c == '$') 0)

def indent : Pattern := run (fun c => c == ' ' || c == '\t') 0

/-- A text that is followed by white space, or nothing. -/
def modifier (p : Pattern) : Pattern := optional (seq p someSpace)

def enclosed (opening : String) (closing : Char) (least : Nat) : Pattern :=
  all [exactly opening, run (· != closing) least, char (· == closing)]

/-! ## The patterns -/

/-- What a definition looks like. Its name is the first group that took part in the match. -/
structure DefinitionPattern where
  pattern : Pattern
  type : FunctionType

def python : Pattern := all [
  lineStart, indent, modifier (exactly "async"), exactly "def", someSpace, group 1 asciiName, spaces,
  exactly "("]

def go : Pattern := all [
  lineStart, exactly "func", someSpace, optional (seq (enclosed "(" ')' 1) spaces),
  group 1 asciiName, spaces, optional (enclosed "[" ']' 0), spaces, exactly "("]

def java : Pattern := all [
  any [words ["public", "private", "protected", "static"], char isSpace], someSpace,
  run (fun c => isWord c || "<>[]".toList.contains c) 1, someSpace, group 1 asciiName, spaces,
  enclosed "(" ')' 0, spaces, exactly "\x7b"]

def rust : Pattern := all [
  lineStart, indent, modifier (seq (exactly "pub") (optional (enclosed "(" ')' 0))),
  modifier (exactly "const"), modifier (exactly "async"), modifier (exactly "unsafe"),
  modifier (all [exactly "extern", someSpace, enclosed "\"" '"' 0]), exactly "fn", someSpace,
  group 1 asciiName]

def ruby : Pattern := all [
  lineStart, indent, exactly "def", someSpace, optional (exactly "self."),
  group 1 (seq asciiName (optional (oneOf "?!")))]

def php : Pattern := all [
  lineStart, indent,
  many (seq (words ["public", "private", "protected", "static", "abstract", "final"]) someSpace),
  exactly "function", someSpace, optional (exactly "&"), group 1 asciiName]

def cFamily : Pattern := all [
  lineStart,
  atLeastOnce (all [
    char isAsciiNameStart, run (fun c => isAsciiNamePart c || ":<>".toList.contains c) 0,
    run (" \t*&".toList.contains ·) 1]),
  group 1 asciiName, spaces, exactly "("]

def script : Pattern := any [
  all [exactly "function", spaces, optional (exactly "*"), spaces, group 1 scriptName, spaces,
    exactly "("],
  all [words ["const", "let", "var"], someSpace, group 2 scriptName, spaces, exactly "=", spaces,
    optional (seq (exactly "async") spaces),
    any [
      seq (exactly "function") wordEdge,
      all [enclosed "(" ')' 0, spaces, exactly "=>"],
      all [scriptName, spaces, exactly "=>"]]]]

def patternOf? : Language → Option DefinitionPattern
  | .python => some ⟨python, .function⟩
  | .go => some ⟨go, .function⟩
  | .java => some ⟨java, .method⟩
  | .rust => some ⟨rust, .function⟩
  | .ruby => some ⟨ruby, .function⟩
  | .php => some ⟨php, .function⟩
  | .cFamily => some ⟨cFamily, .method⟩
  | .javaScript | .typeScript => some ⟨script, .function⟩
  | .other => none

def controlKeywords : List String := ["if", "for", "while", "switch"]

/-! ## Reading the matches -/

def nameOf? (m : Match) : Option Stretch := (m.group? 1).or (m.group? 2)

/-- Indentation is judged on the match itself, which in some patterns starts after it. -/
def isIndented (m : Match) : Bool :=
  match m.whole.chars with
  | c :: _ => c == ' ' || c == '\t'
  | [] => false

def definitionOf? (text : List Char) (lines : List (List Char)) (file : String)
    (language : Language) (type : FunctionType) (m : Match) : Option FunctionDef :=
  (nameOf? m).bind fun name =>
    if controlKeywords.contains name.text then none
    else
      let line := lineOf text name.start.offset
      some {
        name := name.text, file := file, line := line, code := slice lines line (line + linesAhead),
        type := type, isTopLevel := language.isFlat || !isIndented m, isClassMethod := none,
        params := [], returnsValue := false, returnType := .void, totalCalls := none,
        callSites := none, source := .pattern }

def functionsByPattern (content file : String) (language : Language) : List FunctionDef :=
  match patternOf? language with
  | none => []
  | some p =>
    let text := content.toList
    (p.pattern.findAll text).filterMap
      (definitionOf? text (lines text) file language p.type)

def declaration : Pattern := all [
  lineStart, indent, group 1 (words ["const", "let", "var"]), someSpace, group 2 scriptName]

def variableOf? (text : List Char) (file : String) (m : Match) : Option VariableDef :=
  match m.group? 1, m.group? 2 with
  | some keyword, some name =>
    some {
      name := name.text, file := file, line := lineOf text keyword.start.offset,
      kind := .ofKeyword keyword.text, valueType := none, isTopLevel := true, totalUsages := none,
      usageLines := none, source := .pattern }
  | _, _ => none

/-- The declarations that start a line. Nesting does not show, so all count as top level. -/
def variablesByPattern (content file : String) : List VariableDef :=
  let text := content.toList
  (declaration.findAll text).filterMap (variableOf? text file)

end CodeSurvey.Definitions
