import Std.Data.HashMap
import CodeSurvey.Parsing.Stacks

/-!
# Scanning

How a token is found at a place. A scanner offers two ways of looking: by what is around, which
is asked first, and by the text itself. Where neither finds an awaited token, any token that
recovery knows will do; what not even that covers is an error of its own.
-/

namespace CodeSurvey.Parsing

structure Lexeme where
  token : Nat
  first : Nat
  stop : Nat
deriving Inhabited

/-- A way of finding tokens. Both ways are given the awaited tokens and a place. The second
answers, where it fails, how far it had to look. -/
structure Scanner where
  look : Source → TokenSet → Nat → Option Lexeme
  scan : Source → TokenSet → Nat → Except Nat Lexeme
  isBlank : Char → Bool
  /-- A mark that may open the text and counts as blank there. -/
  opening : Char

structure Language where
  automaton : Automaton
  scanner : Scanner
  keywords : Std.HashMap String Nat
  /-- The awaited tokens by state, with the word in place of keywords. -/
  scanned : Array TokenSet

def Grammar.language (g : Grammar) (scanner : Scanner) (isKeyword : String → Bool) : Language :=
  let a := g.automaton
  let keywords := g.tokens.zipIdx.filterMap fun (t, i) => t.literal.bind fun text =>
    if isKeyword text then some (text, i) else none
  let keywordSet := TokenSet.ofList (keywords.map Prod.snd)
  { automaton := a, scanner := scanner, keywords := .ofList keywords,
    scanned := a.awaited.map fun s =>
      if s.disjoint keywordSet then s else (s.diff keywordSet).insert a.word }

namespace Language

def skipBlanks (l : Language) (src : Source) : Nat → Nat → Nat
  | 0, place => place
  | budget + 1, place =>
    match src.char? place with
    | some c => if l.scanner.isBlank c then l.skipBlanks src budget (place + 1) else place
    | none => place

def afterOpening (l : Language) (src : Source) (place : Nat) : Nat :=
  if place = 0 && src.char? 0 == some l.scanner.opening then 1 else place

/-- The context's answer, unless it is an empty token that would lead nowhere. -/
def lookAt (l : Language) (src : Source) (state awaiting place : Nat) (recovering advanced : Bool) :
    Option Lexeme :=
  match l.scanner.look src (l.automaton.awaited.getD awaiting .empty) (l.afterOpening src place) with
  | some x =>
    if x.stop ≤ place && (recovering || !advanced || l.automaton.afterToken state x.token = state)
    then none else some x
  | none => none

def lookOrScan (l : Language) (src : Source) (state awaiting place : Nat)
    (recovering advanced : Bool) : Except Nat Lexeme :=
  match l.lookAt src state awaiting place recovering advanced with
  | some x => .ok x
  | none => l.scanner.scan src (l.scanned.getD awaiting .empty) (l.afterOpening src place)

/-- The leaf of a found token; a word that reads as a keyword awaited here becomes it. -/
def leafOf (l : Language) (src : Source) (state start : Nat) (x : Lexeme) : Branch :=
  if x.token = l.automaton.word then
    match l.keywords[src.slice x.first x.stop]? with
    | some k =>
      let token := if l.automaton.isAwaited state k then k else x.token
      (Branch.leaf (.token token) start x.first x.stop).withInfo ({ · with keyword := true })
    | none => Branch.leaf (.token x.token) start x.first x.stop
  else Branch.leaf (.token x.token) start x.first x.stop

def passOver (l : Language) (src : Source) (state start failed : Nat) : Nat → Nat → Nat → Branch
  | 0, _, upTo => Branch.leaf .error start failed upTo
  | budget + 1, reached, upTo =>
    if reached = upTo && upTo ≥ src.size then Branch.leaf .error start failed upTo
    else
      let next := if reached = upTo then reached + 1 else reached
      match l.lookOrScan src state Automaton.recovering next true false with
      | .ok _ => Branch.leaf .error start failed next
      | .error reached => passOver l src state start failed budget reached next

def lex (l : Language) (src : Source) (state place : Nat) (advanced : Bool) : Branch :=
  let plain :=
    if state = Automaton.recovering then none
    else (l.lookOrScan src state state place false advanced).toOption
  match plain with
  | some x => l.leafOf src state place x
  | none =>
    match l.lookOrScan src state Automaton.recovering place true advanced with
    | .ok x => l.leafOf src state place x
    | .error reached =>
      let failed := l.skipBlanks src (src.size + 1) place
      l.passOver src state place failed (src.size + 2) reached failed

end Language
end CodeSurvey.Parsing
