import CodeSurvey.Parsing.Scanning
import CodeSurvey.Parsing.TokenPattern

/-!
# Lexicons

How the tokens of a grammar are told by their text. Of the awaited tokens that match at a place
the one of the highest rank is found; among equals the longest, then the more definite.
-/

namespace CodeSurvey.Parsing

/-- What a token's text looks like. A token that is adjacent follows the last one directly;
others may have blanks before them. -/
structure TokenForm where
  pattern : TokenPattern
  rank : Int
  definite : Nat
  adjacent : Bool

structure Lexicon where
  /-- The forms of tokens by number. -/
  forms : List (Nat × TokenForm)
  endOfText : Nat
  isBlank : Char → Bool

namespace Lexicon

def skipBlanks (x : Lexicon) (src : Source) : Nat → Nat → Nat
  | 0, place => place
  | budget + 1, place =>
    match src.char? place with
    | some c => if x.isBlank c then x.skipBlanks src budget (place + 1) else place
    | none => place

structure Candidate where
  lexeme : Lexeme
  rank : Int
  definite : Nat

def Candidate.beats (x y : Candidate) : Bool :=
  ((compare x.rank y.rank).then ((compare x.lexeme.stop y.lexeme.stop).then
    (compare x.definite y.definite))) == .gt

def scan (x : Lexicon) (src : Source) (awaited : TokenSet) (place : Nat) : Except Nat Lexeme :=
  let forms := x.forms.filter fun f => awaited.contains f.1
  let start := if forms.all fun f => f.2.adjacent then place
    else x.skipBlanks src (src.size + 1 - place) place
  let (best, looked) := forms.foldl
    (fun (acc : Option Candidate × Nat) (token, form) =>
      let first := if form.adjacent then place else start
      let r := form.pattern.reach src first
      let best := match r.stop, acc.1 with
        | none, known => known
        | some stop, none => some ⟨⟨token, first, stop⟩, form.rank, form.definite⟩
        | some stop, some known =>
          let new : Candidate := ⟨⟨token, first, stop⟩, form.rank, form.definite⟩
          if new.beats known then some new else known
      (best, max acc.2 r.looked))
    (none, start)
  match best with
  | some c => .ok c.lexeme
  | none =>
    if start ≥ src.size && awaited.contains x.endOfText then .ok ⟨x.endOfText, start, start⟩
    else .error looked

end Lexicon
end CodeSurvey.Parsing
