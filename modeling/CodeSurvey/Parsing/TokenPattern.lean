import CodeSurvey.Parsing.Source

/-!
# Token patterns

Patterns for the text of a token, followed one character at a time: the derivative of a pattern
by a character matches what may come after that character.
-/

namespace CodeSurvey.Parsing

inductive TokenPattern where
  | nothing
  | done
  | char (accepts : Char → Bool)
  | seq (first second : TokenPattern)
  | either (first second : TokenPattern)
  | many (repeated : TokenPattern)
deriving Inhabited

namespace TokenPattern

def isDone : TokenPattern → Bool
  | nothing | char _ => false
  | done | many _ => true
  | seq p q => p.isDone && q.isDone
  | either p q => p.isDone || q.isDone

def isNothing : TokenPattern → Bool
  | nothing => true
  | _ => false

def thenMatch : TokenPattern → TokenPattern → TokenPattern
  | nothing, _ => nothing
  | done, q => q
  | p, q => seq p q

def orMatch : TokenPattern → TokenPattern → TokenPattern
  | nothing, q => q
  | p, nothing => p
  | p, q => either p q

def derive (c : Char) : TokenPattern → TokenPattern
  | nothing | done => nothing
  | char accepts => if accepts c then done else nothing
  | seq p q =>
    let here := (p.derive c).thenMatch q
    if p.isDone then here.orMatch (q.derive c) else here
  | either p q => (p.derive c).orMatch (q.derive c)
  | many p => (p.derive c).thenMatch (many p)

/-! ## Building patterns -/

def all (ps : List TokenPattern) : TokenPattern := ps.foldr thenMatch done

def any (ps : List TokenPattern) : TokenPattern := ps.foldr orMatch nothing

def exactly (text : String) : TokenPattern :=
  all (text.toList.map fun c => char (· == c))

def oneOf (chars : String) : TokenPattern := char fun c => chars.toList.contains c

def noneOf (chars : String) : TokenPattern := char fun c => !chars.toList.contains c

def optional (p : TokenPattern) : TokenPattern := either p done

def atLeastOnce (p : TokenPattern) : TokenPattern := seq p (many p)

def times (p : TokenPattern) (least more : Nat) : TokenPattern :=
  all (List.replicate least p ++ [upTo more])
where
  upTo : Nat → TokenPattern
    | 0 => done
    | n + 1 => optional (seq p (upTo n))

/-! ## Matching -/

/-- Where the longest match ends, and how far the text could still have begun a match. -/
structure Reach where
  stop : Option Nat
  looked : Nat

def follow (src : Source) : Nat → Nat → TokenPattern → Option Nat → Reach
  | 0, place, _, stop => ⟨stop, place⟩
  | budget + 1, place, p, stop =>
    match src.char? place with
    | none => ⟨stop, place⟩
    | some c =>
      match p.derive c with
      | nothing => ⟨stop, place⟩
      | next => follow src budget (place + 1) next
          (if next.isDone then some (place + 1) else stop)

def reach (p : TokenPattern) (src : Source) (place : Nat) : Reach :=
  p.follow src (src.size + 1 - place) place none

end TokenPattern
end CodeSurvey.Parsing
