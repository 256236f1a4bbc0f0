/-!
# Source texts

A text as an array of characters, with the number of bytes and of line ends before each place.
Places count characters; costs are measured in bytes and lines.
-/

namespace CodeSurvey.Parsing

structure Source where
  chars : Array Char
  bytesBefore : Array Nat
  linesBefore : Array Nat
deriving Inhabited

namespace Source

def totals (f : α → Nat) (xs : List α) : Array Nat :=
  (xs.foldl (fun (acc : Array Nat × Nat) x =>
    let n := acc.2 + f x
    (acc.1.push n, n)) (#[0], 0)).1

def ofString (text : String) : Source :=
  let chars := text.toList
  { chars := chars.toArray,
    bytesBefore := totals Char.utf8Size chars,
    linesBefore := totals (fun c => if c = '\n' then 1 else 0) chars }

def size (s : Source) : Nat := s.chars.size

def char? (s : Source) (place : Nat) : Option Char := s.chars[place]?

def bytes (s : Source) (start stop : Nat) : Nat :=
  s.bytesBefore.getD stop 0 - s.bytesBefore.getD start 0

def lines (s : Source) (start stop : Nat) : Nat :=
  s.linesBefore.getD stop 0 - s.linesBefore.getD start 0

def slice (s : Source) (start stop : Nat) : String :=
  String.ofList (s.chars.extract start stop).toList

end Source
end CodeSurvey.Parsing
