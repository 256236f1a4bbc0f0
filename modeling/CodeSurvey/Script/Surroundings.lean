import CodeSurvey.Parsing.Scanning
import CodeSurvey.Script.Grammar

/-!
# Tokens told by their surroundings

Some tokens cannot be told by their own text: the end of a line that ends a statement, text in
templates and elements, the question mark of a conditional, comments in markup style.
-/

namespace CodeSurvey.Script.Surroundings
open Parsing

def isBlank (c : Char) : Bool := c = ' ' || ('\t' ≤ c && c ≤ '\x0d')

def isLineEnd (c : Char) : Bool := c = '\n' || c = '\u2028' || c = '\u2029'

/-- The character at a place; the end of the text reads as a null character. -/
def charAt (src : Source) (place : Nat) : Char := (src.char? place).getD '\x00'

def skipWhile (src : Source) (skip : Char → Bool) : Nat → Nat → Nat
  | 0, place => place
  | budget + 1, place =>
    if place < src.size && skip (charAt src place) then skipWhile src skip budget (place + 1)
    else place

def skipAll (src : Source) (skip : Char → Bool) (place : Nat) : Nat :=
  skipWhile src skip (src.size + 1) place

/-! ## The end of a line -/

/-- What lies between two tokens: nothing that matters, a comment within its line, or a slash
that starts no comment. -/
inductive Gap where
  | open
  | inLine
  | slash
deriving DecidableEq

structure GapEnd where
  gap : Gap
  place : Nat
  comments : Bool

/-- Go through a block comment; the answer is where it ends, and whether it spans lines. None if
it never ends. -/
def blockComment (src : Source) : Nat → Nat → Bool → Except Nat (Nat × Bool)
  | 0, place, _ => .error place
  | budget + 1, place, lines =>
    let c := charAt src place
    if c = '\x00' then .error place
    else if c = '*' then
      if charAt src (place + 1) = '/' then .ok (place + 2, lines)
      else blockComment src budget (place + 1) lines
    else blockComment src budget (place + 1) (lines || isLineEnd c)

/-- Skip blanks and comments. Unless all comments are to be passed, a block comment that no slash
follows ends the gap. -/
def skipGap (src : Source) (passAll : Bool) : Nat → Nat → Bool → Bool → GapEnd
  | 0, place, _, comments => ⟨.open, place, comments⟩
  | budget + 1, place, lines, comments =>
    let place := skipAll src isBlank place
    if charAt src place ≠ '/' then ⟨.open, place, comments⟩
    else match charAt src (place + 1) with
      | '/' =>
        let stop := skipAll src (fun c => !isLineEnd c && c ≠ '\x00') (place + 2)
        skipGap src passAll budget stop lines true
      | '*' =>
        match blockComment src (src.size + 1) (place + 2) lines with
        | .error stop => skipGap src passAll budget stop lines comments
        | .ok (stop, lines) =>
          if !passAll && charAt src stop ≠ '/' then
            ⟨if lines then .open else .inLine, stop, true⟩
          else skipGap src passAll budget stop lines true
      | _ => ⟨.slash, place + 1, comments⟩

/-- Where the search stops if a statement can go on over a line's end with what follows; none if
it cannot. -/
def continuation? (src : Source) (place : Nat) : Option Nat :=
  let next := charAt src (place + 1)
  let after := fun (goesOn : Bool) (n : Nat) => if goesOn then some (place + n) else none
  match charAt src place with
  | '.' => after (!next.isDigit) 1
  | '+' => after (next ≠ '+') 1
  | '-' => after (next ≠ '-') 1
  | '!' => after (next = '=') 1
  | 'i' =>
    if next ≠ 'n' then none
    else if !(charAt src (place + 2)).isAlpha then some (place + 2)
    else after (src.slice (place + 2) (place + 10) == "stanceof" &&
      !(charAt src (place + 10)).isAlpha) 10
  | c => after ("`,:;*%><=[(?^|&/".toList.contains c) 0

/-- Whether a statement may end here, where the search stopped, and whether it met comments. -/
structure Ending where
  ends : Bool
  place : Nat
  comments : Bool

def endingAfterLine (src : Source) (place : Nat) (comments : Bool) : Ending :=
  let gap := skipGap src true (src.size + 1) (place + 1) false comments
  if gap.gap = .slash then ⟨false, gap.place, gap.comments⟩
  else match continuation? src gap.place with
    | some stop => ⟨false, stop, gap.comments⟩
    | none => ⟨true, gap.place, gap.comments⟩

/-- Look for the end of a statement: the end of the text, a closing brace, or a line's end after
which it cannot go on. A comment ends it too, where that is allowed. -/
def ending (src : Source) (byComment : Bool) : Nat → Nat → Bool → Ending
  | 0, place, comments => ⟨false, place, comments⟩
  | budget + 1, place, comments =>
    if charAt src place = '\x00' then ⟨true, place, comments⟩
    else
      let gap : GapEnd := if charAt src place = '/' then skipGap src false (src.size + 1) place false comments
        else ⟨.inLine, place, comments⟩
      let c := charAt src gap.place
      if gap.gap = .slash then ⟨false, gap.place, gap.comments⟩
      else if gap.gap = .open && byComment && c ≠ ',' && c ≠ '=' then
        ⟨true, gap.place, gap.comments⟩
      else if c = '\x7d' then ⟨true, gap.place, gap.comments⟩
      else if isLineEnd c then endingAfterLine src gap.place gap.comments
      else if !isBlank c then ⟨false, gap.place, gap.comments⟩
      else ending src byComment budget (gap.place + 1) gap.comments

/-! ## Other tokens -/

/-- The end of text in a template: before a backtick, an escape or a substitution. None where
the template never ends. -/
def templateTextEnd (src : Source) : Nat → Nat → Option Nat
  | 0, _ => none
  | budget + 1, place =>
    match charAt src place with
    | '`' | '\\' => some place
    | '\x00' => none
    | '$' => if charAt src (place + 1) = '\x7b' then some place
      else templateTextEnd src budget (place + 1)
    | _ => templateTextEnd src budget (place + 1)

/-- Text in an element counts from the start of a line only if it is not all blank. -/
def jsxText (src : Source) : Nat → Nat → Bool → Bool → Nat × Bool
  | 0, place, _, seen => (place, seen)
  | budget + 1, place, lineStart, seen =>
    let c := charAt src place
    if "\x00<>\x7b\x7d&".toList.contains c then (place, seen)
    else if c = '\n' then jsxText src budget (place + 1) true seen
    else
      let lineStart := lineStart && isBlank c
      jsxText src budget (place + 1) lineStart (seen || !lineStart)

/-- A question mark that does not start another operator. -/
def questionMark (src : Source) (place : Nat) : Option (Nat × Nat) :=
  let first := skipAll src isBlank place
  if charAt src first ≠ '?' || charAt src (first + 1) = '?' then none
  else if charAt src (first + 1) = '.' && !(charAt src (first + 2)).isDigit then none
  else some (first, first + 1)

def htmlComment (src : Source) (place : Nat) : Option (Nat × Nat) :=
  let first := skipAll src (fun c => isBlank c || isLineEnd c) place
  let opening := if src.slice first (first + 4) == "<!--" then some 4
    else if src.slice first (first + 3) == "-->" then some 3
    else none
  opening.map fun n =>
    (first, skipAll src (fun c => !isLineEnd c && c ≠ '\x00') (first + n))

/-! ## Looking around -/

structure Watched where
  lineEnd : Nat
  templateText : Nat
  questionMark : Nat
  htmlComment : Nat
  jsxText : Nat
  orOperator : Nat
  escape : Nat
  pattern : Nat

def watched : Watched where
  lineEnd := grammar.tokenNumber "line_end"
  templateText := grammar.tokenNumber "template_text"
  questionMark := grammar.tokenNumber "question_mark"
  htmlComment := grammar.tokenNumber "html_comment"
  jsxText := grammar.tokenNumber "jsx_text"
  orOperator := grammar.tokenNumber "||"
  escape := grammar.tokenNumber "escape_sequence"
  pattern := grammar.tokenNumber "regex_pattern"

def lookBetween (w : Watched) (src : Source) (awaited : TokenSet) (place : Nat) : Option Lexeme :=
  let asLexeme := fun (token : Nat) (found : Option (Nat × Nat)) =>
    found.map fun (first, stop) => Lexeme.mk token first stop
  if awaited.contains w.lineEnd then
    let e := ending src (!awaited.contains w.orOperator) (src.size + 2) place false
    if e.ends then some ⟨w.lineEnd, place, place⟩
    else if !e.comments && awaited.contains w.questionMark && charAt src e.place = '?' then
      asLexeme w.questionMark (questionMark src e.place)
    else none
  else if awaited.contains w.questionMark then asLexeme w.questionMark (questionMark src place)
  else if awaited.contains w.htmlComment && !awaited.contains w.orOperator &&
      !awaited.contains w.escape && !awaited.contains w.pattern then
    asLexeme w.htmlComment (htmlComment src place)
  else none

def look (w : Watched) (src : Source) (awaited : TokenSet) (place : Nat) : Option Lexeme :=
  if awaited.contains w.templateText then
    if awaited.contains w.lineEnd then none
    else (templateTextEnd src (src.size + 2) place).bind fun stop =>
      if stop = place then none else some ⟨w.templateText, place, stop⟩
  else if awaited.contains w.jsxText then
    match jsxText src (src.size + 2) place false false with
    | (stop, true) => some ⟨w.jsxText, place, stop⟩
    | (stop, false) => lookBetween w src awaited stop
  else lookBetween w src awaited place

end CodeSurvey.Script.Surroundings
