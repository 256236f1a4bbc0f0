import CodeSurvey.Text.Pattern

/-!
# Erasing type annotations

An ordered list of removals that turns a typed script into a plain one. What is removed leaves its
line ends behind, so every line keeps its number. The removals do not parse: what they miss or
mangle shows up as a fault of the parse afterwards.
-/

namespace CodeSurvey.Script.Erasure
open Text Text.Pattern

def isNameStart (c : Char) : Bool := c.isAlpha || c == '_' || c == '$'

def isNamePart (c : Char) : Bool := Text.isWord c || c == '$'

def name : Pattern := seq (char isNameStart) (run isNamePart 0)

/-- A simple type: a name, and what may follow in unions, arrays and generic types. -/
def simpleType : Pattern :=
  seq (char isNameStart) (run (fun c => isNamePart c || isSpace c || "<>,|&[]".toList.contains c) 0)

/-- The part to remove is group one; what follows it stays. -/
def before (body tail : Pattern) : Pattern := seq (group 1 body) (group 2 tail)

def annotation : Pattern :=
  before (all [exactly ":", spaces, simpleType]) (seq spaces (oneOf "=,)\x7d];"))

def cast : Pattern :=
  before (all [wordEdge, exactly "as", someSpace, simpleType]) (seq spaces (oneOf ",)\x7d];"))

def typeArguments : Pattern :=
  before (all [exactly "<", simpleType, exactly ">"]) (seq spaces (exactly "("))

def isInLine (c : Char) : Bool := c != '\n'

def statement (first second : String) : Pattern :=
  all [lineStart, exactly first, someSpace, exactly second, someSpace, run isInLine 0]

def declaration : Pattern := all [
  wordEdge, exactly "interface", someSpace, name, spaces, exactly "\x7b",
  run (· != '\x7d') 0, exactly "\x7d"]

def typeAlias : Pattern := all [
  wordEdge, exactly "type", someSpace, name, spaces, exactly "=", spaces, run (· != ';') 1,
  exactly ";"]

def lineEnds (text : List Char) : List Char := text.filter (· == '\n')

/-- What stays of a match: the line ends of the removed part, and the part that only had to
follow. -/
def remainder (m : Match) : List Char :=
  match m.group? 1, m.group? 2 with
  | some body, some tail => lineEnds body.chars ++ tail.chars
  | _, _ => lineEnds m.whole.chars

def removals : List Pattern := [
  annotation, cast, typeArguments,
  statement "import" "type", statement "export" "type", statement "export" "interface",
  declaration, typeAlias]

def eraseChars (text : List Char) : List Char :=
  removals.foldl (fun text p => p.replaceAll remainder text) text

end Erasure

def eraseTypes (text : String) : String := String.ofList (Erasure.eraseChars text.toList)

end CodeSurvey.Script
