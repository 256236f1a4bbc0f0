import CodeSurvey.Definitions.Patterns

/-!
# Imports

The targets a file imports, as they are written, each once, in the order of their first place in
the text.
-/

namespace CodeSurvey
open Text Text.Pattern

structure FoundImport where
  offset : Nat
  target : String
deriving DecidableEq, Inhabited

namespace Imports

def quoted : Pattern :=
  all [oneOf "'\"", group 1 (run (fun c => c != '\'' && c != '"') 1), oneOf "'\""]

def fromPattern : Pattern := all [wordEdge, words ["import", "from"], someSpace, quoted]

def dynamicPattern : Pattern :=
  all [wordEdge, exactly "import", spaces, exactly "(", spaces, quoted, spaces, exactly ")"]

def requirePattern : Pattern :=
  all [wordEdge, exactly "require(", spaces, quoted, spaces, exactly ")"]

def pythonPattern : Pattern := all [
  lineStart, words ["from", "import"], someSpace,
  group 1 (run (fun c => c.isAlphanum || c == '_' || c == '.') 1)]

def goPath : Pattern := all [
  optional (seq (run (fun c => isWord c || c == '.') 1) someSpace),
  oneOf "\"\x60", group 1 (run (fun c => c != '"' && c != '\x60') 1), oneOf "\"\x60"]

def goSinglePattern : Pattern :=
  all [lineStart, Definitions.indent, exactly "import", someSpace, goPath]

def goBlockPattern : Pattern := all [
  wordEdge, exactly "import", spaces, exactly "(", group 1 (run (· != ')') 0), exactly ")"]

def goItemPattern : Pattern := all [lineStart, Definitions.indent, goPath]

def isPathStart (c : Char) : Bool := c.isAlpha || c == '_'

def rustSegment : Pattern := seq (char isPathStart) (run isWord 0)

def rustPattern : Pattern := all [
  lineStart, Definitions.indent,
  Definitions.modifier (seq (exactly "pub") (optional (Definitions.enclosed "(" ')' 0))),
  any [exactly "use", all [exactly "extern", someSpace, exactly "crate"]], someSpace,
  group 1 (all [
    optional (exactly "::"), rustSegment, many (seq (exactly "::") rustSegment)])]

def javaPattern : Pattern := all [
  lineStart, Definitions.indent, words ["import", "using"], someSpace,
  Definitions.modifier (exactly "static"),
  group 1 (all [
    char isPathStart, run (fun c => isWord c || c == '.') 0, optional (exactly ".*")]),
  spaces, exactly ";"]

/-! ## Finding the targets -/

def targetOf? (m : Match) : Option FoundImport :=
  (m.group? 1).map fun g => ⟨g.start.offset, g.text⟩

def targets (p : Pattern) (text : List Char) : List FoundImport :=
  (p.findAll text).filterMap targetOf?

def blockTargets (block : Match) : List FoundImport :=
  match block.group? 1 with
  | some body =>
    (targets goItemPattern body.chars).map fun f => { f with offset := body.start.offset + f.offset }
  | none => []

def foundIn (text : List Char) : Language → List FoundImport
  | .javaScript | .typeScript =>
    [fromPattern, dynamicPattern, requirePattern].flatMap (targets · text)
  | .python => targets pythonPattern text
  | .go => targets goSinglePattern text ++ (goBlockPattern.findAll text).flatMap blockTargets
  | .rust => targets rustPattern text
  | .java => targets javaPattern text
  | _ => []

def firsts : List String → List String → List String
  | _, [] => []
  | seen, t :: rest =>
    if seen.contains t then firsts seen rest else t :: firsts (t :: seen) rest

def inOrder (found : List FoundImport) : List String :=
  firsts [] ((found.mergeSort fun a b => a.offset ≤ b.offset).map FoundImport.target)

end Imports

def findImports (content filename : String) : List String :=
  Imports.inOrder (Imports.foundIn content.toList (.ofFilename filename))

end CodeSurvey
