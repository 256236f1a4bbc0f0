import CodeSurvey.Text.Pattern

/-!
# Whole names

Occurrences of a name that are not part of a longer word. Only where the name begins or ends with
a character of names does its edge have to be one of a word; a dollar sign asks for nothing.
-/

namespace CodeSurvey.Text

def isNameEdge : Option Char → Bool
  | some c => isAlphanumeric c || c == '_'
  | none => false

def wholeName (name : List Char) : Pattern :=
  let edgeIf := fun (c : Option Char) => if isNameEdge c then [Pattern.wordEdge] else []
  .all (edgeIf name.head? ++ [.exactChars name] ++ edgeIf name.getLast?)

end CodeSurvey.Text
