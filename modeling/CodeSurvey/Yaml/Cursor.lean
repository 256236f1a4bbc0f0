/-!
# Places in a YAML text

A cursor is what is left of a text and the mark of where it starts. A carriage return with a line
feed is one line break; next line, line separator and paragraph separator are line breaks too.
-/

namespace CodeSurvey.Yaml

structure Mark where
  index : Nat
  line : Nat
  column : Nat
deriving DecidableEq, Inhabited

namespace Mark

def start : Mark := ⟨0, 0, 0⟩

def ahead (m : Mark) (n : Nat) : Mark := ⟨m.index + n, m.line, m.column + n⟩

def overBreak (m : Mark) (n : Nat) : Mark := ⟨m.index + n, m.line + 1, 0⟩

/-- Marks are shown unless they are at the very start of a text. -/
def isShown (m : Mark) : Bool := m.line ≠ 0 || m.column ≠ 0

def message (m : Mark) : String :=
  "line " ++ toString (m.line + 1) ++ " column " ++ toString (m.column + 1)

end Mark

/-! ## Characters -/

def isBlank (c : Char) : Bool := c == ' ' || c == '\t'

def isBreak (c : Char) : Bool :=
  c == '\r' || c == '\n' || c == '\u0085' || c == '\u2028' || c == '\u2029'

def isNameChar (c : Char) : Bool := c.isAlphanum || c == '_' || c == '-'

def endsLine (c : Option Char) : Bool :=
  match c with
  | none => true
  | some c => isBreak c

def endsWord (c : Option Char) : Bool :=
  match c with
  | none => true
  | some c => isBlank c || isBreak c

def hexValue? (c : Char) : Option Nat :=
  if c.isDigit then some (c.toNat - 48)
  else if 'a' ≤ c ∧ c ≤ 'f' then some (c.toNat - 87)
  else if 'A' ≤ c ∧ c ≤ 'F' then some (c.toNat - 55)
  else none

/-! ## Cursors -/

structure Cursor where
  rest : List Char
  mark : Mark
deriving Inhabited

namespace Cursor

def start (text : List Char) : Cursor := ⟨text, .start⟩

def head (c : Cursor) : Option Char := c.rest.head?

def look (c : Cursor) (i : Nat) : Option Char := c.rest[i]?

def column (c : Cursor) : Nat := c.mark.column

def sees (c : Cursor) (x : Char) : Bool := c.head == some x

def isAtEnd (c : Cursor) : Bool := c.rest.isEmpty

def seesBreak (c : Cursor) : Bool := (c.head.map isBreak).getD false

def seesBlank (c : Cursor) : Bool := (c.head.map isBlank).getD false

def skip (c : Cursor) (n : Nat) : Cursor := ⟨c.rest.drop n, c.mark.ahead n⟩

/-- The characters that pass a test which no line break passes, and the cursor behind them. -/
def takeWhile (c : Cursor) (p : Char → Bool) : List Char × Cursor :=
  let taken := c.rest.takeWhile p
  (taken, c.skip taken.length)

def skipWhile (c : Cursor) (p : Char → Bool) : Cursor := (c.takeWhile p).2

def skipBlanks (c : Cursor) : Cursor := c.skipWhile isBlank

def skipLineRest (c : Cursor) : Cursor := c.skipWhile fun x => !isBreak x

def skipComment (c : Cursor) : Cursor := if c.sees '#' then c.skipLineRest else c

/-- The line break that comes next as it counts in scalars, and the cursor behind it. Separators
keep their form; all other breaks become line feeds. -/
def readBreak (c : Cursor) : List Char × Cursor :=
  match c.rest with
  | '\r' :: '\n' :: rest => (['\n'], ⟨rest, c.mark.overBreak 2⟩)
  | x :: rest =>
    if x == '\u2028' || x == '\u2029' then ([x], ⟨rest, c.mark.overBreak 1⟩)
    else if isBreak x then (['\n'], ⟨rest, c.mark.overBreak 1⟩)
    else ([], c)
  | [] => ([], c)

def skipBreak (c : Cursor) : Cursor := c.readBreak.2

/-- Whether a line starts with three hyphens or three dots that stand by themselves. -/
def atDocumentMark (c : Cursor) : Bool :=
  c.column == 0 &&
    match c.rest with
    | '-' :: '-' :: '-' :: rest => endsWord rest.head?
    | '.' :: '.' :: '.' :: rest => endsWord rest.head?
    | _ => false

end Cursor
end CodeSurvey.Yaml
