import CodeSurvey.Text.EscapeTable

/-!
# Quoted text

Text between quotes for messages to people: whatever has no shape of its own is spelled out.
-/

namespace CodeSurvey.Text

def numericEscape (c : Char) : List Char :=
  ['\\', 'u', '\x7b'] ++ Nat.toDigits 16 c.toNat ++ ['\x7d']

def quotedChar (c : Char) : List Char :=
  match c with
  | '\x00' => ['\\', '0']
  | '\t' => ['\\', 't']
  | '\r' => ['\\', 'r']
  | '\n' => ['\\', 'n']
  | '\\' => ['\\', '\\']
  | '"' => ['\\', '"']
  | c =>
    if c.toNat < 0x20 || escapeTable.contains c then numericEscape c else [c]

def quoted (text : String) : String :=
  String.ofList ('"' :: text.toList.flatMap quotedChar ++ ['"'])

/-- Paths have their single quotes spelled out as well. -/
def quotedPath (path : String) : String :=
  String.ofList ('"' :: path.toList.flatMap (fun c =>
    if c = '\'' then ['\\', '\''] else quotedChar c) ++ ['"'])

end CodeSurvey.Text
